import Numu.Foundation.Run
import Numu.Payments.ExpirySweep
import Numu.Payments.PaymentProof
import Numu.Payments.ProofCoverage

/-!
# The expiry sweep beside the proofs

`expire_instapay_orders_task` lists the intents that are due and then writes them one by one,
while customers submit their proofs and merchants review them.
-/

namespace Numu.Payments
open Numu.Orders
open Numu.Stock (Inventory Reply TextCase)

def hours (count : Nat) : Nat := count * 3600000000

/-- An intent that a sweep has listed; `escalated` is the bucket of proofs nobody reviewed. -/
structure DueIntent where
  orderId : UUID
  escalated : Bool
  listedAt : Time
  deriving DecidableEq, Repr

structure IntentSweep where
  graceHours : Nat
  due : List DueIntent := []
  deriving DecidableEq, Repr

namespace TransferRows

/-- `list_expired_awaiting_payment`, of the rows that its limit leaves. -/
def listExpiredAwaitingPayment (rows : TransferRows) (now : Time) (picked : List UUID) :
    List DueIntent :=
  (picked.filter fun orderId => (rows.intents.get? orderId).any fun intent =>
    intent.status = .awaitingPayment && intent.expiresAt ≤ now).map (⟨·, false, now⟩)

/-- `list_stuck_proof_received`. -/
def listStuckProofReceived (rows : TransferRows) (graceHours : Nat) (now : Time)
    (picked : List UUID) : List DueIntent :=
  (picked.filter fun orderId => (rows.intents.get? orderId).any fun intent =>
    intent.status = .proofReceived && intent.expiresAt + hours graceHours ≤ now).map (⟨·, true, now⟩)

def hasRecordedPayments (rows : TransferRows) (orderId : UUID) : Bool :=
  (rows.proofs.rows.map Prod.snd).any fun proof =>
    proof.orderId = orderId && proof.recordedMethod.isSome && proof.status = .approved

/-- What the sweep does with an intent that it has listed. -/
def expireIntent [TextCase] (rows : TransferRows) (inventory : Inventory) (replies : Nat → Reply)
    (due : DueIntent) (now : Time) : TransferRows × Inventory :=
  let expired := rows.updateIntent due.orderId .expired
  match rows.orders.get? due.orderId with
  | none => (expired, inventory)
  | some order =>
      let answers : SweepAnswers := { recordedPayments := rows.hasRecordedPayments due.orderId }
      match cancelReason order answers (.instapay due.escalated) with
      | none => (expired, inventory)
      | some reason =>
          match cancelCopy inventory replies (.instapay due.escalated) order reason now with
          | .error _ => (expired, inventory)
          | .ok (restocked, cancelled) =>
              match expired.updateOrder due.orderId cancelled now with
              | .error _ => (expired, restocked)
              | .ok written => (written, restocked)

end TransferRows

structure IntentState where
  transfers : TransferState
  inventory : Inventory
  sweeps : Nat → Option IntentSweep := fun _ => none

/-- A sweep's lists are steps of their own; an intent's writes, up to the commit, are one, since
the row of the intent is locked in between. -/
inductive IntentLabel where
  | transfer (label : TransferLabel)
  | listAwaiting (sweep : Nat) (graceHours : Nat) (now : Time) (picked : List UUID)
  | listStuck (sweep : Nat) (now : Time) (picked : List UUID)
  | expire (sweep : Nat) (replies : Nat → Reply) (now : Time)
  /-- The next intent fails, and is left. -/
  | skip (sweep : Nat)
  | abandon (sweep : Nat)

namespace IntentState

def rows (state : IntentState) : TransferRows := state.transfers.rows

def setSweep (state : IntentState) (session : Nat) (sweep : Option IntentSweep) : IntentState :=
  { state with sweeps := Function.update state.sweeps session sweep }

def listStuck (state : IntentState) (session : Nat) (now : Time) (picked : List UUID) :
    IntentState :=
  match state.sweeps session with
  | none => state
  | some sweep =>
      let stuck := state.rows.listStuckProofReceived sweep.graceHours now picked
      state.setSweep session (some { sweep with due := sweep.due ++ stuck })

/-- The next intent of a sweep, and the sweep without it. -/
def next (state : IntentState) (session : Nat) : Option (DueIntent × IntentSweep) :=
  (state.sweeps session).bind fun sweep =>
    match sweep.due with
    | [] => none
    | due :: rest => some (due, { sweep with due := rest })

def expire [TextCase] (state : IntentState) (session : Nat) (replies : Nat → Reply) (now : Time) :
    IntentState :=
  match state.next session with
  | none => state
  | some (due, rest) =>
      let written := state.rows.expireIntent state.inventory replies due now
      { state with
        transfers := { state.transfers with rows := written.1 }
        inventory := written.2 }.setSweep session (some rest)

def skip (state : IntentState) (session : Nat) : IntentState :=
  match state.next session with
  | none => state
  | some (_, rest) => state.setSweep session (some rest)

def step [CaseFold] [TextCase] (state : IntentState) : IntentLabel → IntentState
  | .transfer label => { state with transfers := state.transfers.step label }
  | .listAwaiting session graceHours now picked =>
      let due := state.rows.listExpiredAwaitingPayment now picked
      state.setSweep session (some { graceHours := graceHours, due := due })
  | .listStuck session now picked => state.listStuck session now picked
  | .expire session replies now => state.expire session replies now
  | .skip session => state.skip session
  | .abandon session => state.setSweep session none

end IntentState
end Numu.Payments

/-!
# The outcome of a manual payment

The status of an intent is written without a look at the one that is stored. A submission that
is parked for review and a sweep go by what they read before.
-/

namespace Numu.Payments
open Numu.Orders
open Numu.Outcome (orKeep)
open Numu.Stock (Inventory Reply TextCase)
open Numu.Payments.PaymentProofRepository (violated)

namespace TransferRows

def statusOf (rows : TransferRows) (orderId : UUID) : Option ManualPaymentIntentStatus :=
  (rows.intents.get? orderId).map (·.status)

def expiryOf (rows : TransferRows) (orderId : UUID) : Option Time :=
  (rows.intents.get? orderId).map (·.expiresAt)

/-- A customer has submitted a proof for the order. -/
def proofSubmitted (rows : TransferRows) (orderId : UUID) : Bool :=
  (rows.proofs.rows.map Prod.snd).any fun proof =>
    proof.orderId = orderId && proof.recordedMethod.isNone

end TransferRows

/-- The order whose intent a submission's writes put into review. -/
def parks [CaseFold] (rows : TransferRows) (vision : ProofVision) (proofId : UUID) (now : Time) :
    Submitting → Option UUID
  | .accepted upload order intent =>
      let verdict := SubmitPaymentProof.decision rows upload order intent vision now
      let proof := SubmitPaymentProof.judged upload order intent vision now verdict
      if !verdict.approved && (violated rows.proofs proofId proof).isNone then some upload.orderId
      else none
  | _ => none

namespace IntentState
variable [CaseFold] [TextCase]

omit [CaseFold] [TextCase] in
/-- The step is a sweep's write, after the grace for the intent's review. -/
def GraceOver (state : IntentState) (label : IntentLabel) (intent : ManualPaymentIntent) : Prop :=
  match label with
  | .expire session _ now =>
      ∀ sweep ∈ state.sweeps session, intent.expiresAt + hours sweep.graceHours ≤ now
  | _ => False

/-- A step leaves each paid intent paid, and expires one that a proof was submitted for only
after its review grace. -/
structure KeepsOutcomes (state : IntentState) (label : IntentLabel) : Prop where
  paid : ∀ orderId, state.rows.statusOf orderId = some .paid →
    (state.step label).rows.statusOf orderId = some .paid
  graced : ∀ orderId intent, state.rows.intents.get? orderId = some intent →
    intent.status ≠ .expired → (state.step label).rows.statusOf orderId = some .expired →
      state.rows.proofSubmitted orderId = true → state.GraceOver label intent

omit [TextCase] in
/-- A submission is parked, and a sweep's intent written, while the intent is not paid; and an
intent that was listed before any proof has none when it is written, or its grace is over. -/
def InTime (state : IntentState) (label : IntentLabel) : Prop :=
  match label with
  | .transfer (.persist session vision proofId now) =>
      ∀ orderId ∈ parks state.rows vision proofId now (state.transfers.submissions session),
        state.rows.statusOf orderId ≠ some .paid
  | .expire session _ now =>
      ∀ next ∈ state.next session, ∀ intent ∈ state.rows.intents.get? next.1.orderId,
        intent.status ≠ .paid ∧
          (next.1.escalated = false → intent.status ≠ .expired →
            state.rows.proofSubmitted next.1.orderId = true →
              intent.expiresAt + hours next.2.graceHours ≤ now)
  | _ => True

omit [CaseFold] [TextCase] in
/-- A sweep writes no earlier than it has listed. -/
def Ordered (state : IntentState) (label : IntentLabel) : Prop :=
  match label with
  | .expire session _ now => ∀ next ∈ state.next session, next.1.listedAt ≤ now
  | _ => True

omit [TextCase] in
instance (state : IntentState) : ∀ label, Decidable (state.InTime label)
  | .transfer (.persist session vision proofId now) => Option.decidableForallMem
      (parks state.rows vision proofId now (state.transfers.submissions session))
  | .expire session _ _ => inferInstanceAs (Decidable (∀ next ∈ state.next session,
      ∀ intent ∈ state.rows.intents.get? next.1.orderId, _ ∧ (_ → _ → _ → _)))
  | .transfer (.submit ..) | .transfer (.check ..) | .transfer (.review ..)
  | .transfer (.loadOrder ..) | .transfer (.decide ..)
  | .listAwaiting .. | .listStuck .. | .skip _ | .abandon _ => inferInstanceAs (Decidable True)

omit [CaseFold] [TextCase] in
instance (state : IntentState) : ∀ label, Decidable (state.Ordered label)
  | .expire session _ now =>
      inferInstanceAs (Decidable (∀ next ∈ state.next session, next.1.listedAt ≤ now))
  | .transfer _ | .listAwaiting .. | .listStuck .. | .skip _ | .abandon _ =>
      inferInstanceAs (Decidable True)

/-- The escalated intents of a sweep were past their grace when they were listed. -/
def Listed (state : IntentState) : Prop :=
  ∀ session sweep, state.sweeps session = some sweep → ∀ due ∈ sweep.due, due.escalated = true →
    ∃ expiry, state.rows.expiryOf due.orderId = some expiry ∧
      expiry + hours sweep.graceHours ≤ due.listedAt

end IntentState

namespace TransferRows

/-- The rows after the status of an intent is written, or of none. -/
def wrote (rows : TransferRows) : Option (UUID × ManualPaymentIntentStatus) → TransferRows
  | none => rows
  | some (orderId, status) => rows.updateIntent orderId status

section Wrote
variable {rows after : TransferRows} {orderId other : UUID} {status : ManualPaymentIntentStatus}

theorem statusOf_updateIntent_self (intents : after.intents = (rows.updateIntent orderId status).intents) :
    after.statusOf orderId = (rows.statusOf orderId).map fun _ => status := by
  rw [statusOf, intents, updateIntent, Table.get?_modify_self, statusOf, Option.map_map,
    Option.map_map]
  rfl

theorem statusOf_updateIntent_ne (intents : after.intents = (rows.updateIntent orderId status).intents)
    (different : other ≠ orderId) : after.statusOf other = rows.statusOf other := by
  rw [statusOf, intents, updateIntent, Table.get?_modify_of_ne _ _ different, statusOf]

theorem expiryOf_wrote {written : Option (UUID × ManualPaymentIntentStatus)}
    (intents : after.intents = (rows.wrote written).intents) :
    after.expiryOf other = rows.expiryOf other := by
  rw [expiryOf, intents, expiryOf]
  cases written with
  | none => rfl
  | some pair =>
      rw [wrote, updateIntent]
      by_cases same : other = pair.1
      · rw [same, Table.get?_modify_self, Option.map_map]
        rfl
      · rw [Table.get?_modify_of_ne _ _ same]

theorem settleByProof_intents {order : Order} {intent : ManualPaymentIntent} {declared : Option Int}
    {now : Time} (settled : rows.settleByProof orderId order intent declared now = .ok after) :
    after.intents = (rows.updateIntent orderId .paid).intents := by
  rw [settleByProof] at settled
  split at settled
  · cases settled
  · rw [updateOrder] at settled
    split at settled
    · cases settled
    · cases settled
      rfl

theorem updateProof_intents {proofId : UUID} {proof : PaymentProof} {now : Time}
    (updated : ReviewPaymentProof.updateProof rows proofId proof now = .ok after) :
    after.intents = rows.intents := by
  rw [ReviewPaymentProof.updateProof] at updated
  split at updated
  · cases updated
  · cases updated
    rfl

theorem expireIntent_intents [TextCase] {inventory : Inventory} {replies : Nat → Reply}
    {due : DueIntent} {now : Time} :
    (rows.expireIntent inventory replies due now).1.intents =
      (rows.updateIntent due.orderId .expired).intents := by
  rw [expireIntent]
  dsimp only
  split
  · rfl
  · split
    · rfl
    · split
      · rfl
      · rw [updateOrder]
        split <;> rename_i written
        · rfl
        · split at written
          · cases written
          · cases written
            rfl

end Wrote

section Requests
variable [CaseFold] {rows : TransferRows}

theorem persist_intents {upload : ProofUpload} {order : UnpaidOrder} {intent : ManualPaymentIntent}
    {vision : ProofVision} {proofId : UUID} {now : Time} :
    ∃ written,
      (orKeep rows (SubmitPaymentProof.persist rows upload order intent vision proofId now)).intents =
          (rows.wrote written).intents ∧
        match parks rows vision proofId now (.accepted upload order intent) with
        | some orderId => written = some (orderId, .proofReceived)
        | none => written = none ∨ ∃ orderId, written = some (orderId, .paid) := by
  rw [SubmitPaymentProof.persist, parks]
  dsimp only
  rw [PaymentProofRepository.create]
  cases violated rows.proofs proofId (SubmitPaymentProof.judged upload order.1 intent vision now
      (SubmitPaymentProof.decision rows upload order.1 intent vision now)) with
  | some constraint =>
      rw [Option.isNone_some, Bool.and_false]
      exact ⟨none, rfl, Or.inl rfl⟩
  | none =>
      rw [Option.isNone_none, Bool.and_true]
      cases (SubmitPaymentProof.decision rows upload order.1 intent vision now).approved with
      | false => exact ⟨some (upload.orderId, .proofReceived), rfl, rfl⟩
      | true =>
          dsimp only
          rw [if_pos rfl]
          split
          · rename_i ended
            cases ended
          · cases settled : settleByProof _ upload.orderId order.1 intent _ now with
            | error raised => exact ⟨none, rfl, Or.inl rfl⟩
            | ok after =>
                refine ⟨some (upload.orderId, .paid), ?_, Or.inr ⟨_, rfl⟩⟩
                have intents := settleByProof_intents settled
                exact intents

omit [CaseFold] in
theorem decide_intents {proofId : UUID} {proof : PaymentProof} {order : Order} {reviewer : UUID}
    {decision : ReviewDecision} {now : Time} :
    ∃ written,
      (orKeep rows (ReviewPaymentProof.decide rows proofId proof order reviewer decision now)).intents =
          (rows.wrote written).intents ∧
        (written = none ∨ ∃ orderId, written = some (orderId, .paid)) := by
  cases decided : ReviewPaymentProof.decide rows proofId proof order reviewer decision now with
  | error raised => exact ⟨none, rfl, Or.inl rfl⟩
  | ok after =>
      rw [ReviewPaymentProof.decide] at decided
      split at decided
      · cases decided
      · cases decision with
        | reject reason =>
            dsimp only at decided
            rw [ReviewPaymentProof.reject] at decided
            split at decided
            · cases decided
            · exact ⟨none, updateProof_intents decided, Or.inl rfl⟩
        | approve =>
            dsimp only at decided
            rw [ReviewPaymentProof.approve] at decided
            split at decided
            · cases decided
            · dsimp only at decided
              split at decided
              · cases decided
              · rename_i stored updated
                refine ⟨some (proof.orderId, .paid), ?_, Or.inr ⟨_, rfl⟩⟩
                have settled : after.intents = (stored.updateIntent proof.orderId .paid).intents :=
                  settleByProof_intents decided
                have kept := updateProof_intents updated
                rw [updateIntent, kept] at settled
                exact settled

end Requests

end TransferRows

namespace IntentState
variable [CaseFold] [TextCase] {state : IntentState}

/-- What a step writes of an intent: a parked submission `PROOF_RECEIVED`, a sweep `EXPIRED`, and
the others `PAID` or nothing. -/
theorem step_writes (state : IntentState) (label : IntentLabel) :
    ∃ written, (state.step label).rows.intents = (state.rows.wrote written).intents ∧
      match label with
      | .transfer (.persist session vision proofId now) =>
          match parks state.rows vision proofId now (state.transfers.submissions session) with
          | some orderId => written = some (orderId, .proofReceived)
          | none => written = none ∨ ∃ orderId, written = some (orderId, .paid)
      | .expire session _ _ =>
          written = (state.next session).map fun next => (next.1.orderId, .expired)
      | _ => written = none ∨ ∃ orderId, written = some (orderId, .paid) := by
  cases label with
  | transfer label =>
      cases label with
      | submit session upload => exact ⟨none, rfl, Or.inl rfl⟩
      | check session now => exact ⟨none, rfl, Or.inl rfl⟩
      | persist session vision proofId now =>
          dsimp only
          cases submitting : state.transfers.submissions session with
          | idle =>
              refine ⟨none, ?_, Or.inl rfl⟩
              rw [step, rows, TransferState.step, submitting]
              rfl
          | loaded upload order =>
              refine ⟨none, ?_, Or.inl rfl⟩
              rw [step, rows, TransferState.step, submitting]
              rfl
          | accepted upload order intent =>
              rcases TransferRows.persist_intents with ⟨written, intents, parked⟩
              refine ⟨written, ?_, parked⟩
              rw [step, rows, TransferState.step, submitting]
              exact intents
      | review session proofId => exact ⟨none, rfl, Or.inl rfl⟩
      | loadOrder session => exact ⟨none, rfl, Or.inl rfl⟩
      | decide session reviewer decision now =>
          cases reviewing : state.transfers.reviews session with
          | idle =>
              refine ⟨none, ?_, Or.inl rfl⟩
              rw [step, rows, TransferState.step, reviewing]
              rfl
          | opened proofId proof =>
              refine ⟨none, ?_, Or.inl rfl⟩
              rw [step, rows, TransferState.step, reviewing]
              rfl
          | loaded proofId proof order =>
              rcases TransferRows.decide_intents with ⟨written, intents, writes⟩
              refine ⟨written, ?_, writes⟩
              rw [step, rows, TransferState.step, reviewing]
              exact intents
  | listAwaiting session graceHours now picked => exact ⟨none, rfl, Or.inl rfl⟩
  | listStuck session now picked =>
      refine ⟨none, ?_, Or.inl rfl⟩
      rw [step, listStuck.eq_def]
      split <;> rfl
  | expire session replies now =>
      refine ⟨_, ?_, rfl⟩
      rw [step, expire.eq_def]
      split
      · rename_i none_
        rw [none_]
        rfl
      · rename_i due rest there
        rw [there]
        exact TransferRows.expireIntent_intents
  | skip session =>
      refine ⟨none, ?_, Or.inl rfl⟩
      rw [step, skip.eq_def]
      split <;> rfl
  | abandon session => exact ⟨none, rfl, Or.inl rfl⟩

omit [CaseFold] [TextCase] in
theorem statusOf_eq {orderId : UUID} {intent : ManualPaymentIntent}
    (found : state.rows.intents.get? orderId = some intent) :
    state.rows.statusOf orderId = some intent.status := by
  rw [TransferRows.statusOf, found]
  rfl

/-- Nothing and `PAID` can be written at any time. -/
theorem keepsOutcomes_of_paid {label : IntentLabel}
    {written : Option (UUID × ManualPaymentIntentStatus)}
    (intents : (state.step label).rows.intents = (state.rows.wrote written).intents)
    (writes : written = none ∨ ∃ orderId, written = some (orderId, .paid)) :
    state.KeepsOutcomes label := by
  rcases writes with rfl | ⟨orderId, rfl⟩
  · have same : ∀ other, (state.step label).rows.statusOf other = state.rows.statusOf other :=
      fun other => by rw [TransferRows.statusOf, intents, TransferRows.wrote, TransferRows.statusOf]
    constructor
    · intro other paid
      rw [same]
      exact paid
    · intro other intent found open_ expired
      rw [same, statusOf_eq found] at expired
      exact absurd (Option.some.inj expired) open_
  · have here := TransferRows.statusOf_updateIntent_self intents
    constructor
    · intro other paid
      by_cases same : other = orderId
      · rw [same] at paid ⊢
        rw [here, paid]
        rfl
      · rw [TransferRows.statusOf_updateIntent_ne intents same]
        exact paid
    · intro other intent found open_ expired
      by_cases same : other = orderId
      · rw [same] at found expired
        rw [here, statusOf_eq found] at expired
        cases expired
      · rw [TransferRows.statusOf_updateIntent_ne intents same, statusOf_eq found] at expired
        exact absurd (Option.some.inj expired) open_

/-- A submission may be parked exactly while the intent is not paid. -/
theorem keepsOutcomes_parked_iff {label : IntentLabel} {orderId : UUID}
    (intents : (state.step label).rows.intents =
      (state.rows.updateIntent orderId .proofReceived).intents) :
    state.KeepsOutcomes label ↔ state.rows.statusOf orderId ≠ some .paid := by
  have here := TransferRows.statusOf_updateIntent_self intents
  constructor
  · intro keeps paid
    have still := keeps.paid orderId paid
    rw [here, paid] at still
    cases still
  · intro unpaid
    constructor
    · intro other paid
      by_cases same : other = orderId
      · exact absurd (same ▸ paid) unpaid
      · rw [TransferRows.statusOf_updateIntent_ne intents same]
        exact paid
    · intro other intent found open_ expired
      by_cases same : other = orderId
      · rw [same] at found expired
        rw [here, statusOf_eq found] at expired
        cases expired
      · rw [TransferRows.statusOf_updateIntent_ne intents same, statusOf_eq found] at expired
        exact absurd (Option.some.inj expired) open_

omit [CaseFold] [TextCase] in
theorem next_some {session : Nat} {due : DueIntent} {rest : IntentSweep}
    (there : state.next session = some (due, rest)) :
    ∃ sweep, state.sweeps session = some sweep ∧ sweep.due = due :: rest.due ∧
      sweep.graceHours = rest.graceHours := by
  rw [next, Option.bind_eq_some_iff] at there
  rcases there with ⟨sweep, found, next_⟩
  refine ⟨sweep, found, ?_⟩
  split at next_
  · cases next_
  · rename_i first tail listed
    cases next_
    exact ⟨listed, rfl⟩

/-- A sweep may write an intent exactly while it is not paid, and no proof has come since it was
listed, or the grace is over. -/
theorem keepsOutcomes_expire_iff (listed : state.Listed) {session : Nat} {replies : Nat → Reply}
    {now : Time} (ordered : state.Ordered (.expire session replies now)) {due : DueIntent}
    {rest : IntentSweep} (there : state.next session = some (due, rest)) :
    state.KeepsOutcomes (.expire session replies now) ↔
      state.InTime (.expire session replies now) := by
  rcases next_some there with ⟨sweep, found, order, grace⟩
  rcases step_writes state (.expire session replies now) with ⟨written, intents, writes⟩
  dsimp only at writes
  rw [there] at writes
  subst writes
  have here := TransferRows.statusOf_updateIntent_self intents
  constructor
  · intro keeps next mem intent stored
    have next_ : next = (due, rest) := Option.some.inj (mem.symm.trans there)
    subst next_
    have status := statusOf_eq stored
    constructor
    · intro paid
      have still := keeps.paid due.orderId (by rw [status, paid])
      rw [here, status] at still
      cases still
    · intro _ open_ submitted
      have expired : (state.step (.expire session replies now)).rows.statusOf due.orderId =
          some .expired := by
        rw [here, status]
        rfl
      have past := keeps.graced due.orderId intent stored open_ expired submitted sweep found
      rw [grace] at past
      exact past
  · intro inTime
    constructor
    · intro other paid
      by_cases same : other = due.orderId
      · rw [same, TransferRows.statusOf, Option.map_eq_some_iff] at paid
        rcases paid with ⟨intent, stored, paid⟩
        exact absurd paid (inTime (due, rest) there intent stored).1
      · rw [TransferRows.statusOf_updateIntent_ne intents same]
        exact paid
    · intro other intent stored open_ expired submitted
      by_cases same : other = due.orderId
      · subst same
        intro owner owned
        rw [Option.mem_def, found] at owned
        cases owned
        cases bucket : due.escalated with
        | false =>
            have past := (inTime (due, rest) there intent stored).2 bucket open_ submitted
            rw [grace]
            exact past
        | true =>
            have mem : due ∈ sweep.due := order ▸ List.mem_cons_self
            rcases listed session sweep found due mem bucket with ⟨expiry, at_, past⟩
            have same : expiry = intent.expiresAt := by
              rw [TransferRows.expiryOf, stored] at at_
              exact (Option.some.inj at_).symm
            rw [← same]
            exact Nat.le_trans past (ordered (due, rest) there)
      · rw [TransferRows.statusOf_updateIntent_ne intents same, statusOf_eq stored] at expired
        exact absurd (Option.some.inj expired) open_

/-- A step that keeps the due times of the intents, and whose sweeps have listed theirs in time. -/
theorem listed_step (listed : state.Listed) (label : IntentLabel)
    (sweeps : ∀ session after, (state.step label).sweeps session = some after →
      ∀ due ∈ after.due, due.escalated = true →
        (∃ sweep, state.sweeps session = some sweep ∧ sweep.graceHours = after.graceHours ∧
            due ∈ sweep.due) ∨
          ∃ expiry, state.rows.expiryOf due.orderId = some expiry ∧
            expiry + hours after.graceHours ≤ due.listedAt) : (state.step label).Listed := by
  rcases step_writes state label with ⟨written, intents, -⟩
  intro session after found due mem escalated
  rw [TransferRows.expiryOf_wrote intents]
  rcases sweeps session after found due mem escalated with ⟨sweep, was, grace, before⟩ | fresh
  · rw [← grace]
    exact listed session sweep was due before escalated
  · exact fresh

omit [CaseFold] [TextCase] in
theorem setSweep_some {session other : Nat} {new : Option IntentSweep} {sweep : IntentSweep}
    (found : (state.setSweep session new).sweeps other = some sweep) :
    state.sweeps other = some sweep ∨ (other = session ∧ new = some sweep) := by
  rw [setSweep] at found
  dsimp only at found
  by_cases same : other = session
  · rw [same, Function.update_self] at found
    exact Or.inr ⟨same, found⟩
  · rw [Function.update_of_ne same] at found
    exact Or.inl found

theorem step_listed (listed : state.Listed) (label : IntentLabel) : (state.step label).Listed := by
  have before : ∀ {session : Nat} {after : IntentSweep} {due : DueIntent},
      state.sweeps session = some after → due ∈ after.due →
        (∃ sweep, state.sweeps session = some sweep ∧ sweep.graceHours = after.graceHours ∧
            due ∈ sweep.due) ∨
          ∃ expiry, state.rows.expiryOf due.orderId = some expiry ∧
            expiry + hours after.graceHours ≤ due.listedAt :=
    fun found mem => Or.inl ⟨_, found, rfl, mem⟩
  apply listed_step listed
  intro session after found due mem escalated
  cases label with
  | transfer label => exact before found mem
  | listAwaiting sweep graceHours now picked =>
      rcases setSweep_some found with was | ⟨-, new⟩
      · exact before was mem
      · cases new
        rcases List.mem_map.mp mem with ⟨orderId, -, rfl⟩
        cases escalated
  | listStuck sweep now picked =>
      rw [step, listStuck.eq_def] at found
      split at found
      · exact before found mem
      · rename_i current there
        rcases setSweep_some found with was | ⟨rfl, new⟩
        · exact before was mem
        · cases new
          rcases List.mem_append.mp mem with old | stuck
          · exact Or.inl ⟨current, there, rfl, old⟩
          · rcases List.mem_map.mp stuck with ⟨orderId, picked, rfl⟩
            have due := (List.mem_filter.mp picked).2
            rw [Option.any_eq_true] at due
            rcases due with ⟨intent, stored, due⟩
            rw [Bool.and_eq_true, decide_eq_true_eq, decide_eq_true_eq] at due
            refine Or.inr ⟨intent.expiresAt, ?_, due.2⟩
            rw [TransferRows.expiryOf, stored]
            rfl
  | expire sweep replies now =>
      rw [step, expire.eq_def] at found
      split at found
      · exact before found mem
      · rename_i first rest there
        rcases next_some there with ⟨current, was, order, grace⟩
        rcases setSweep_some found with old | ⟨rfl, new⟩
        · exact before old mem
        · cases new
          exact Or.inl ⟨current, was, grace, order ▸ List.mem_cons_of_mem _ mem⟩
  | skip sweep =>
      rw [step, skip.eq_def] at found
      split at found
      · exact before found mem
      · rename_i first rest there
        rcases next_some there with ⟨current, was, order, grace⟩
        rcases setSweep_some found with old | ⟨rfl, new⟩
        · exact before old mem
        · cases new
          exact Or.inl ⟨current, was, grace, order ▸ List.mem_cons_of_mem _ mem⟩
  | abandon sweep =>
      rcases setSweep_some found with was | ⟨-, new⟩
      · exact before was mem
      · cases new

theorem keepsOutcomes_iff (listed : state.Listed) {label : IntentLabel}
    (ordered : state.Ordered label) : state.KeepsOutcomes label ↔ state.InTime label := by
  rcases step_writes state label with ⟨written, intents, writes⟩
  cases label with
  | transfer label =>
      cases label with
      | persist session vision proofId now =>
          dsimp only at writes
          rw [InTime]
          split at writes
          · rename_i orderId parked
            subst writes
            rw [keepsOutcomes_parked_iff intents, parked]
            exact ⟨fun unpaid other mem => Option.some.inj mem ▸ unpaid,
              fun inTime => inTime orderId rfl⟩
          · rename_i unparked
            rw [unparked]
            exact iff_of_true (keepsOutcomes_of_paid intents writes) nofun
      | submit | check | review | loadOrder | decide =>
          exact iff_of_true (keepsOutcomes_of_paid intents writes) trivial
  | expire session replies now =>
      cases there : state.next session with
      | none =>
          dsimp only at writes
          rw [there] at writes
          refine iff_of_true (keepsOutcomes_of_paid intents (Or.inl writes)) ?_
          intro next mem
          rw [there] at mem
          cases mem
      | some next => exact keepsOutcomes_expire_iff listed ordered there
  | listAwaiting | listStuck | skip | abandon =>
      exact iff_of_true (keepsOutcomes_of_paid intents writes) trivial

/-- Over every interleaving of proofs, reviews and sweeps, a paid intent stays paid and a proof has
its review grace exactly if each parked submission and each write of a sweep is in time. -/
theorem outcomes_final_iff {rows : TransferRows} {inventory : Inventory}
    {labels : List IntentLabel}
    (ordered : Run.Guarded step Ordered
      { transfers := { rows := rows }, inventory := inventory } labels) :
    Run.Guarded step KeepsOutcomes { transfers := { rows := rows }, inventory := inventory } labels ↔
      Run.Guarded step InTime { transfers := { rows := rows }, inventory := inventory } labels := by
  apply Run.guarded_congr (I := Listed) _ _ _ ordered
  · exact fun _ label listed _ => step_listed listed label
  · exact fun _ _ listed ordered => keepsOutcomes_iff listed ordered
  · exact fun _ _ found => by cases found

end IntentState

/-- A customer's proof of the deposit that nobody has reviewed at `expires_at` + 48 h. -/
def unreviewedDeposit : List IntentLabel :=
  [.transfer (.submit 0 (depositUpload 5 "100200300" 50)), .transfer (.check 0 60),
    .transfer (.persist 0 {} 21 60), .listAwaiting 0 48 174600000000 [1],
    .listStuck 0 174600000000 [1]]

def depositIntents : IntentState where
  transfers := { rows := depositRows }
  inventory := ⟨⟨[], by decide⟩, .empty, .empty⟩

theorem unreviewed_deposit_expires :
    letI := CaseFold.ascii
    letI := TextCase.ascii
    Run.Guarded IntentState.step IntentState.KeepsOutcomes depositIntents
      (unreviewedDeposit ++ [.expire 0 (fun _ => ⟨.stored, false⟩) 174600000010]) :=
  (@IntentState.outcomes_final_iff CaseFold.ascii TextCase.ascii _ _ _ (by decide +kernel)).mpr
    (by decide +kernel)

/-- The merchant approves the proof after the sweep has listed the intent. -/
theorem listed_intent_expires_after_approval :
    let _ := CaseFold.ascii
    let _ := TextCase.ascii
    ¬ Run.Guarded IntentState.step IntentState.KeepsOutcomes depositIntents
      (unreviewedDeposit ++ [.transfer (.review 0 21), .transfer (.loadOrder 0),
        .transfer (.decide 0 9 .approve 174600000005),
        .expire 0 (fun _ => ⟨.stored, false⟩) 174600000010]) := by
  intro _ _ kept
  rcases kept with ⟨-, -, -, -, -, -, -, -, last, -⟩
  have paid := last.paid 1 (by decide +kernel)
  exact absurd paid (by decide +kernel)

end Numu.Payments
