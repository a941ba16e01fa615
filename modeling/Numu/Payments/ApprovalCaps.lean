import Numu.Foundation.Window
import Numu.Payments.ProofCoverage

/-! What a store's daily caps allow to be approved unseen, over all interleaved submissions. -/

namespace Numu.Payments
open Numu.Orders
open Numu.Outcome (orKeep)
open Numu.SlidingWindow (window windowSum)

/-- How many proofs, and of how much money, a store lets through unseen in a day. -/
structure DailyCaps where
  count : Nat
  cents : Nat

def DailyCaps.SetBy (caps : DailyCaps) (config : AutoApprovalConfig) : Prop :=
  config.dailyCountCap = caps.count ∧ config.dailyCapCents = caps.cents

def day : Time := 24 * 60 * 60 * 1000000

def PaymentProof.decidedAt (proof : PaymentProof) : Time :=
  proof.reviewDecisionAt.getD proof.createdAt

namespace TransferRows

def autoApprovals (rows : TransferRows) (storeId : UUID) : List PaymentProof :=
  (rows.proofs.rows.map Prod.snd).filter fun proof =>
    proof.storeId = storeId && proof.status = .autoApproved

/-- The amount of the intent that a proof settles. -/
def settledCents (rows : TransferRows) (proof : PaymentProof) : Int :=
  ((rows.intents.get? proof.orderId).map ManualPaymentIntent.amountCents).getD 0

/-- In every 24 hours the store's automatic approvals stay within its caps. -/
structure WithinCaps (rows : TransferRows) (storeId : UUID) (caps : DailyCaps) : Prop where
  count : ∀ start,
    (window PaymentProof.decidedAt day (rows.autoApprovals storeId) start).length ≤ caps.count
  cents : ∀ start,
    ((window PaymentProof.decidedAt day (rows.autoApprovals storeId) start).map
      rows.settledCents).sum ≤ (caps.cents : Int)

end TransferRows

namespace Submitting

def startedBy (now : Time) : Submitting → Bool
  | idle => true
  | loaded upload _ => upload.startedAt ≤ now
  | accepted upload _ _ => upload.startedAt ≤ now

def writesTo (storeId : UUID) : Submitting → Bool
  | accepted _ order _ => order.val.storeId = storeId
  | _ => false

end Submitting

namespace TransferState

/-- A step of a submission under the store's settings, on a clock that does not run back. -/
def Submission (storeId : UUID) (caps : DailyCaps) (state : TransferState) :
    TransferLabel → Prop
  | .submit _ upload => caps.SetBy upload.config
  | .check _ _ => True
  | .persist session _ _ now =>
      (state.submissions session).startedBy now = true ∧
        ∀ proof ∈ state.rows.autoApprovals storeId, proof.decidedAt ≤ now
  | _ => False

/-- When a proof of the store is written, each of its automatic approvals of the last 24 hours
was created in them and declares no less than its intent asks for. -/
def Counted (storeId : UUID) (state : TransferState) : TransferLabel → Prop
  | .persist session _ _ now =>
      (state.submissions session).writesTo storeId = true →
        ∀ proof ∈ state.rows.autoApprovals storeId, now - day ≤ proof.decidedAt →
          now - day ≤ proof.createdAt ∧
            state.rows.settledCents proof ≤ proof.declaredAmountCents.getD 0
  | _ => True

instance (caps : DailyCaps) (config : AutoApprovalConfig) : Decidable (caps.SetBy config) :=
  inferInstanceAs (Decidable (_ ∧ _))

instance (storeId : UUID) (caps : DailyCaps) (state : TransferState) :
    DecidablePred (state.Submission storeId caps)
  | .submit _ upload => inferInstanceAs (Decidable (caps.SetBy upload.config))
  | .check _ _ => isTrue trivial
  | .persist _ _ _ _ => inferInstanceAs (Decidable (_ ∧ _))
  | .review _ _ => isFalse id
  | .loadOrder _ => isFalse id
  | .decide _ _ _ _ => isFalse id

instance (storeId : UUID) (state : TransferState) : DecidablePred (state.Counted storeId)
  | .persist _ _ _ _ => inferInstanceAs (Decidable (_ → _))
  | .submit _ _ => isTrue trivial
  | .check _ _ => isTrue trivial
  | .review _ _ => isTrue trivial
  | .loadOrder _ => isTrue trivial
  | .decide _ _ _ _ => isTrue trivial

end TransferState

namespace TransferRows
variable {rows after : TransferRows} {storeId : UUID} {caps : DailyCaps}

/-- No write changes what an intent asks for. -/
def SameIntents (rows after : TransferRows) : Prop :=
  ∀ id, (after.intents.get? id).map ManualPaymentIntent.amountCents =
    (rows.intents.get? id).map ManualPaymentIntent.amountCents

theorem SameIntents.settledCents (same : SameIntents rows after) :
    after.settledCents = rows.settledCents := by
  funext proof
  unfold TransferRows.settledCents
  rw [same proof.orderId]

theorem settleByProof_keeps {orderId : UUID} {order : Order} {intent : ManualPaymentIntent}
    {declared : Option Int} {now : Time}
    (ok : rows.settleByProof orderId order intent declared now = .ok after) :
    after.proofs = rows.proofs ∧ SameIntents rows after := by
  simp only [settleByProof] at ok
  split at ok
  · cases ok
  · unfold updateOrder at ok
    split at ok
    · cases ok
    · cases ok
      exact ⟨rfl, rows.updateIntent_amounts orderId _⟩

variable [CaseFold]

/-- A submission that is written appends its proof. -/
theorem persist_appends {upload : ProofUpload} {order : Order} {intent : ManualPaymentIntent}
    {vision : ProofVision} {proofId : UUID} {now : Time}
    (ok : SubmitPaymentProof.persist rows upload order intent vision proofId now = .ok after) :
    after.proofs.rows.map Prod.snd = rows.proofs.rows.map Prod.snd ++
        [PaymentProofRepository.inserted
          (SubmitPaymentProof.judged upload order intent vision now
            (SubmitPaymentProof.decision rows upload order intent vision now))
          upload.startedAt] ∧
      SameIntents rows after := by
  unfold SubmitPaymentProof.persist PaymentProofRepository.create at ok
  simp only at ok
  set verdict := SubmitPaymentProof.decision rows upload order intent vision now
  set proof := SubmitPaymentProof.judged upload order intent vision now verdict
  cases clash : PaymentProofRepository.violated rows.proofs proofId proof with
  | some constraint =>
      rw [clash] at ok
      cases ok
  | none =>
      rw [clash] at ok
      simp only at ok
      have fresh : rows.proofs.get? proofId = none := by
        unfold PaymentProofRepository.violated at clash
        split at clash
        · cases clash
        · rename_i absent
          simpa using absent
      have appended := rows.proofs.set_rows_of_absent fresh
        (PaymentProofRepository.inserted proof upload.startedAt)
      split at ok
      · rcases settleByProof_keeps ok with ⟨proofs, same⟩
        refine ⟨?_, same⟩
        rw [proofs]
        simp only [appended, List.map_append, List.map_cons, List.map_nil]
      · cases ok
        refine ⟨?_, fun id => updateIntent_amounts _ _ _ id⟩
        simp only [updateIntent, appended, List.map_append, List.map_cons, List.map_nil]

/-- The row of a proof that is approved on submission. -/
structure Approves (upload : ProofUpload) (order : Order) (now : Time) (row : PaymentProof) :
    Prop where
  orderId : row.orderId = upload.orderId
  storeId : row.storeId = order.storeId
  createdAt : row.createdAt = upload.startedAt
  decidedAt : row.decidedAt = now

omit [CaseFold] in
theorem judged_approves {upload : ProofUpload} {order : Order} {intent : ManualPaymentIntent}
    {vision : ProofVision} {now : Time} {verdict : AutoApprovalDecision}
    (approved : (SubmitPaymentProof.judged upload order intent vision now verdict).status =
      .autoApproved) :
    verdict.approved = true ∧ Approves upload order now
      (PaymentProofRepository.inserted
        (SubmitPaymentProof.judged upload order intent vision now verdict) upload.startedAt) := by
  cases passed : verdict.approved with
  | false =>
      simp only [SubmitPaymentProof.judged, passed, Bool.false_eq_true, if_false,
        SubmitPaymentProof.newProof] at approved
      cases approved
  | true =>
      simp only [SubmitPaymentProof.judged, passed, if_true]
      exact ⟨trivial, rfl, rfl, rfl, rfl⟩

/-- A submission leaves the store's automatic approvals alone, or adds its own. -/
theorem autoApprovals_persist {upload : ProofUpload} {order : Order} {intent : ManualPaymentIntent}
    {vision : ProofVision} {proofId : UUID} {now : Time} (storeId : UUID)
    (ok : SubmitPaymentProof.persist rows upload order intent vision proofId now = .ok after) :
    after.autoApprovals storeId = rows.autoApprovals storeId ∨
      (SubmitPaymentProof.decision rows upload order intent vision now).approved = true ∧
        order.storeId = storeId ∧ ∃ row, Approves upload order now row ∧
          after.autoApprovals storeId = rows.autoApprovals storeId ++ [row] := by
  obtain ⟨appended, -⟩ := persist_appends ok
  set verdict := SubmitPaymentProof.decision rows upload order intent vision now
  set proof := SubmitPaymentProof.judged upload order intent vision now verdict
  set row := PaymentProofRepository.inserted proof upload.startedAt
  simp only [autoApprovals, appended, List.filter_append]
  by_cases ours : (decide (row.storeId = storeId) && decide (row.status = .autoApproved)) = true
  · have both := ours
    simp only [Bool.and_eq_true, decide_eq_true_eq] at both
    obtain ⟨passed, approves⟩ := judged_approves both.2
    right
    refine ⟨passed, approves.storeId.symm.trans both.1, row, approves, ?_⟩
    rw [List.filter_singleton, ours, cond_true]
  · left
    rw [List.filter_singleton, eq_false_of_ne_true ours, cond_false, List.append_nil]

omit [CaseFold]

/-- When the last day's approvals are those created in it, the stats count them all and sum up
no less than what they settled. -/
theorem stats_cover {now : Time}
    (past : ∀ proof ∈ rows.autoApprovals storeId, proof.decidedAt ≤ now)
    (created : ∀ proof ∈ rows.autoApprovals storeId, proof.createdAt ≤ proof.decidedAt)
    (counted : ∀ proof ∈ rows.autoApprovals storeId, now - day ≤ proof.decidedAt →
      now - day ≤ proof.createdAt ∧
        rows.settledCents proof ≤ proof.declaredAmountCents.getD 0) :
    let stats := PaymentProofRepository.dailyAutoApproveStats rows.proofs storeId (now - day)
    let recent := window PaymentProof.decidedAt day (rows.autoApprovals storeId) (now - day)
    stats.1 = recent.length ∧ (recent.map rows.settledCents).sum ≤ stats.2 := by
  intro stats recent
  have selected : (rows.proofs.rows.map Prod.snd).filter (fun proof =>
      proof.storeId = storeId && proof.status = .autoApproved && now - day ≤ proof.createdAt) =
        recent := by
    simp only [recent, window, autoApprovals, List.filter_filter]
    apply List.filter_congr
    intro proof member
    by_cases ours : (decide (proof.storeId = storeId) && decide (proof.status = .autoApproved)) = true
    · have approval : proof ∈ rows.autoApprovals storeId := List.mem_filter.mpr ⟨member, ours⟩
      have before := past proof approval
      have after_ := created proof approval
      have recent_ := counted proof approval
      rw [ours, Bool.true_and, Bool.and_true, Bool.eq_iff_iff]
      simp only [Bool.and_eq_true, decide_eq_true_eq]
      constructor
      · intro inside
        have later : now - day ≤ proof.decidedAt := le_trans inside after_
        exact ⟨later, le_trans before le_tsub_add⟩
      · intro inside
        exact (recent_ inside.1).1
    · rw [eq_false_of_ne_true ours, Bool.false_and, Bool.and_false]
  refine ⟨congrArg List.length selected, ?_⟩
  change _ ≤ (((rows.proofs.rows.map Prod.snd).filter fun proof =>
    proof.storeId = storeId && proof.status = .autoApproved && now - day ≤ proof.createdAt).map
      fun proof => proof.declaredAmountCents.getD 0).sum
  rw [selected]
  apply List.sum_le_sum
  intro proof inside
  rcases SlidingWindow.mem_window.mp inside with ⟨approval, recent_, -⟩
  exact (counted proof approval recent_).2

end TransferRows

namespace TransferState

/-- What a submission under way carries: the store's caps, and the amount of the stored intent. -/
def Carries (rows : TransferRows) (caps : DailyCaps) : Submitting → Prop
  | .idle => True
  | .loaded upload _ => caps.SetBy upload.config
  | .accepted upload _ intent =>
      caps.SetBy upload.config ∧
        (rows.intents.get? upload.orderId).map ManualPaymentIntent.amountCents =
          some intent.amountCents

structure Capped (storeId : UUID) (caps : DailyCaps) (state : TransferState) : Prop where
  within : state.rows.WithinCaps storeId caps
  created : ∀ proof ∈ state.rows.autoApprovals storeId, proof.createdAt ≤ proof.decidedAt
  amounts : ∀ proof, 0 ≤ state.rows.settledCents proof
  submissions : ∀ session, Carries state.rows caps (state.submissions session)

variable {rows after : TransferRows} {storeId : UUID} {caps : DailyCaps}

theorem Carries.mono (same : rows.SameIntents after) {submitting : Submitting}
    (carries : Carries rows caps submitting) : Carries after caps submitting := by
  cases submitting with
  | idle => trivial
  | loaded upload order => exact carries
  | accepted upload order intent => exact ⟨carries.1, (same upload.orderId).trans carries.2⟩

theorem submit_carries (rows : TransferRows) {upload : ProofUpload}
    (set_ : caps.SetBy upload.config) : Carries rows caps (submit rows upload) := by
  unfold submit
  split
  · exact set_
  · trivial

theorem check_carries {submitting : Submitting} (carries : Carries rows caps submitting)
    (now : Time) : Carries rows caps (check rows now submitting) := by
  cases submitting with
  | idle => trivial
  | accepted upload order intent => trivial
  | loaded upload order =>
      unfold check
      simp only
      split
      · rename_i intent checked
        refine ⟨carries, ?_⟩
        unfold SubmitPaymentProof.check at checked
        cases found : rows.intents.get? upload.orderId with
        | none =>
            rw [found] at checked
            cases checked
        | some stored =>
            rw [found] at checked
            simp only at checked
            split at checked
            · cases checked
            · split at checked
              · cases checked
              · split at checked
                · cases checked
                · cases checked
                  rfl
      · trivial

variable [CaseFold]

/-- The caps hold of the rows after a submission that counted what came before it. -/
theorem persist_within {upload : ProofUpload} {order : UnpaidOrder} {intent : ManualPaymentIntent}
    {vision : ProofVision} {proofId : UUID} {now : Time}
    (within : rows.WithinCaps storeId caps)
    (created : ∀ proof ∈ rows.autoApprovals storeId, proof.createdAt ≤ proof.decidedAt)
    (amounts : ∀ proof, 0 ≤ rows.settledCents proof)
    (carries : Carries rows caps (.accepted upload order intent))
    (past : ∀ proof ∈ rows.autoApprovals storeId, proof.decidedAt ≤ now)
    (counted : order.val.storeId = storeId → ∀ proof ∈ rows.autoApprovals storeId,
      now - day ≤ proof.decidedAt → now - day ≤ proof.createdAt ∧
        rows.settledCents proof ≤ proof.declaredAmountCents.getD 0)
    (ok : SubmitPaymentProof.persist rows upload order intent vision proofId now = .ok after) :
    after.WithinCaps storeId caps := by
  have same := (TransferRows.persist_appends ok).2
  rcases TransferRows.autoApprovals_persist storeId ok with kept | added
  · constructor
    · rw [kept]
      exact within.count
    · rw [kept, same.settledCents]
      exact within.cents
  · rcases added with ⟨approved, ours, row, approves, listed⟩
    have limits := AutoApproval.evaluate_approved approved
    obtain ⟨stats_count, stats_cents⟩ := TransferRows.stats_cover past created (counted ours)
    have count_room : (PaymentProofRepository.dailyAutoApproveStats rows.proofs storeId
        (now - day)).1 < caps.count := by
      have below := limits.count
      rw [carries.1.1, SubmitPaymentProof.facts, ours] at below
      exact_mod_cast below
    have cents_room : (PaymentProofRepository.dailyAutoApproveStats rows.proofs storeId
        (now - day)).2 + intent.amountCents ≤ caps.cents := by
      have below := limits.cents
      rw [carries.1.2, SubmitPaymentProof.facts, ours] at below
      exact below
    have amount : rows.settledCents row = intent.amountCents := by
      rw [TransferRows.settledCents, approves.orderId, carries.2, Option.getD_some]
    have past_row : ∀ proof ∈ rows.autoApprovals storeId, proof.decidedAt ≤ row.decidedAt := by
      rw [approves.decidedAt]
      exact past
    constructor
    · intro start
      have room : windowSum PaymentProof.decidedAt (fun _ => 1) day (rows.autoApprovals storeId)
          (row.decidedAt - day) + 1 ≤ caps.count := by
        rw [SlidingWindow.windowSum_one, approves.decidedAt, ← stats_count]
        omega
      have capped := SlidingWindow.within_append (fun start => ?_) past_row
        (fun _ _ => Int.one_nonneg) room start
      · rw [SlidingWindow.windowSum_one, ← listed] at capped
        exact_mod_cast capped
      · rw [SlidingWindow.windowSum_one]
        exact_mod_cast within.count start
    · intro start
      rw [listed, same.settledCents]
      refine SlidingWindow.within_append within.cents past_row (fun proof _ => amounts proof) ?_ start
      rw [approves.decidedAt, amount]
      have summed : windowSum PaymentProof.decidedAt rows.settledCents day
          (rows.autoApprovals storeId) (now - day) ≤ _ := stats_cents
      omega

omit [CaseFold] in
theorem Capped.setSubmission {state : TransferState} (capped : state.Capped storeId caps)
    (session : Nat) {submitting : Submitting} (carries : Carries state.rows caps submitting) :
    (state.setSubmission session submitting).Capped storeId caps := by
  refine ⟨capped.within, capped.created, capped.amounts, fun other => ?_⟩
  by_cases same : other = session
  · subst same
    simpa [TransferState.setSubmission] using carries
  · simpa [TransferState.setSubmission, same] using capped.submissions other

theorem Capped.persist {state : TransferState} (capped : state.Capped storeId caps)
    (session : Nat) (vision : ProofVision) (proofId : UUID) (now : Time)
    (started : (state.submissions session).startedBy now = true)
    (past : ∀ proof ∈ state.rows.autoApprovals storeId, proof.decidedAt ≤ now)
    (counted : state.Counted storeId (.persist session vision proofId now)) :
    ({ state with
        rows := orKeep state.rows (TransferState.persist state.rows vision proofId now
          (state.submissions session)) } : TransferState).Capped storeId caps := by
  have carries := capped.submissions session
  simp only [Counted] at counted
  cases submitting : state.submissions session with
  | idle => exact capped
  | loaded upload order => exact capped
  | accepted upload order intent =>
      rw [submitting] at carries started counted
      cases result : SubmitPaymentProof.persist state.rows upload order intent vision proofId now with
      | error raised =>
          simp only [TransferState.persist, result, orKeep]
          exact capped
      | ok after =>
          simp only [TransferState.persist, result, orKeep]
          have same := (TransferRows.persist_appends result).2
          have counts : order.val.storeId = storeId → _ := fun ours =>
            counted (decide_eq_true ours)
          refine ⟨?_, ?_, ?_, fun other => (capped.submissions other).mono same⟩
          · exact persist_within capped.within capped.created capped.amounts carries past counts
              result
          · rcases TransferRows.autoApprovals_persist storeId result with kept | added
            · rw [kept]
              exact capped.created
            · rcases added with ⟨-, -, row, approves, listed⟩
              intro proof member
              rw [listed, List.mem_append, List.mem_singleton] at member
              rcases member with old | new
              · exact capped.created proof old
              · rw [new, approves.createdAt, approves.decidedAt]
                simpa [Submitting.startedBy] using started
          · intro proof
            rw [same.settledCents]
            exact capped.amounts proof

theorem step_capped (state : TransferState) (label : TransferLabel)
    (capped : state.Capped storeId caps)
    (admitted : state.Submission storeId caps label ∧ state.Counted storeId label) :
    (state.step label).Capped storeId caps := by
  rcases admitted with ⟨submission, counted⟩
  cases label with
  | submit session upload =>
      exact capped.setSubmission session (submit_carries state.rows submission)
  | check session now =>
      exact capped.setSubmission session (check_carries (capped.submissions session) now)
  | persist session vision proofId now =>
      have written := capped.persist session vision proofId now submission.1 submission.2 counted
      exact written.setSubmission session trivial
  | review session proofId => cases submission
  | loadOrder session => cases submission
  | decide session reviewer decision now => cases submission

end TransferState

/-- Rows in which the caps hold so far, before any submission under way. -/
structure TransferRows.Opening (rows : TransferRows) (storeId : UUID) (caps : DailyCaps) : Prop where
  within : rows.WithinCaps storeId caps
  created : ∀ proof ∈ rows.autoApprovals storeId, proof.createdAt ≤ proof.decidedAt
  amounts : ∀ row ∈ rows.intents.rows, 0 ≤ row.2.amountCents

theorem TransferRows.settledCents_nonneg {rows : TransferRows}
    (amounts : ∀ row ∈ rows.intents.rows, 0 ≤ row.2.amountCents) (proof : PaymentProof) :
    0 ≤ rows.settledCents proof := by
  unfold settledCents
  cases found : rows.intents.get? proof.orderId with
  | none => exact Int.le_refl 0
  | some intent => exact amounts _ ((rows.intents.get?_eq_some_iff _ _).mp found)

/-- A store that has approved nothing unseen is within any caps. -/
theorem TransferRows.opening_of_none {rows : TransferRows} {storeId : UUID}
    (none_ : rows.autoApprovals storeId = [])
    (amounts : ∀ row ∈ rows.intents.rows, 0 ≤ row.2.amountCents) (caps : DailyCaps) :
    rows.Opening storeId caps := by
  refine ⟨⟨fun start => ?_, fun start => ?_⟩, ?_, amounts⟩
  · rw [none_]
    exact Nat.zero_le _
  · rw [none_]
    exact Int.natCast_nonneg _
  · rw [none_]
    intro proof member
    cases member

/-- Interleaved submissions keep the store's caps as long as the stats they read are not short of
what the last 24 hours approved. -/
theorem auto_approvals_within_caps [CaseFold] (rows : TransferRows) (storeId : UUID)
    (caps : DailyCaps) (opening : rows.Opening storeId caps) (labels : List TransferLabel)
    (submissions : Run.Guarded TransferState.step (TransferState.Submission storeId caps)
      { rows := rows } labels)
    (counted : Run.Guarded TransferState.step (TransferState.Counted storeId)
      { rows := rows } labels) :
    Run.Always TransferState.step (fun state => state.rows.WithinCaps storeId caps)
      { rows := rows } labels := by
  have start : ({ rows := rows } : TransferState).Capped storeId caps :=
    ⟨opening.within, opening.created, TransferRows.settledCents_nonneg opening.amounts,
      fun _ => trivial⟩
  have capped := Run.always_of_guarded TransferState.step_capped start (submissions.and counted)
  exact capped.mono fun _ capped => capped.within

/-- Two orders of 100.00 paid by InstaPay. -/
def twoOrders : TransferRows where
  orders := .ofList ([(1 : UUID), 2].map fun id => (id, {
    id := id
    storeId := 7
    customerId := 3
    total := 10000
    paymentMethod := some "instapay" }))
  intents := .ofList ([(1 : UUID), 2].map fun id => (id, {
    referenceCode := "NU-7K2M9Q"
    amountCents := 10000
    expiresAt := 1800000000 }))

def cappedUpload (caps : DailyCaps) (orderId : UUID) (transactionRef : String) (declared : Int)
    (startedAt : Time) : ProofUpload where
  storeId := 7
  orderId := orderId
  customerId := 3
  proofImageHash := orderId.setWidth 256
  transactionRef := transactionRef
  config :=
    { thresholdCents := 50000
      dailyCapCents := caps.cents
      dailyCountCap := caps.count }
  startedAt := startedAt
  declaredAmountCents := some declared

/-- A transfer for each of the two orders; what the first declares varies. -/
def twoUploads (caps : DailyCaps) (declared : Int) : List TransferLabel :=
  [.submit 0 (cappedUpload caps 1 "100200300" declared 50), .check 0 60, .persist 0 {} 21 60,
    .submit 1 (cappedUpload caps 2 "100200301" 10000 65), .check 1 70, .persist 1 {} 22 70]

theorem two_exact_uploads_within_caps :
    let _ := CaseFold.ascii
    Run.Always TransferState.step (fun state => state.rows.WithinCaps 7 ⟨10, 20000⟩)
      { rows := twoOrders } (twoUploads ⟨10, 20000⟩ 10000) := by
  intro _
  exact auto_approvals_within_caps twoOrders 7 ⟨10, 20000⟩
    (TransferRows.opening_of_none (by decide +kernel) (by decide +kernel) _) _
    (by decide +kernel) (by decide +kernel)

/-- With 99.00 declared for the first order, 200.00 is approved under a cap of 199.50. -/
theorem under_declared_upload_exceeds_cap :
    let _ := CaseFold.ascii
    twoOrders.Opening 7 ⟨10, 19950⟩ ∧
      Run.Guarded TransferState.step (TransferState.Submission 7 ⟨10, 19950⟩)
        { rows := twoOrders } (twoUploads ⟨10, 19950⟩ 9900) ∧
      ¬ Run.Always TransferState.step (fun state => state.rows.WithinCaps 7 ⟨10, 19950⟩)
        { rows := twoOrders } (twoUploads ⟨10, 19950⟩ 9900) := by
  intro _
  refine ⟨TransferRows.opening_of_none (by decide +kernel) (by decide +kernel) _,
    by decide +kernel, fun always => ?_⟩
  exact absurd (always.last.cents 0) (by decide +kernel)

end Numu.Payments
