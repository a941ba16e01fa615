import Numu.Foundation.Outcome
import Numu.Foundation.Run
import Numu.Refunds.Refund

/-! Interleavings of the requests that create and move the refunds of one order. -/

namespace Numu.Refunds
open Numu.Orders
open Numu.Outcome (bind_eq_ok)

/-- What a request has read so far. -/
inductive RefundSession where
  | idle
  | creating (copy : Order) (dto : CreateRefundDTO) (storeId userId : UUID)
  /-- A create that holds the order's row lock, after it summed `seen`. -/
  | locked (seen : Nat) (refund : Refund)
  | issuing (returnId : UUID) (copy : Option OrderReturn)
  | reviewing (refundId : UUID) (copy : Option Refund)

structure RefundState where
  order : Order
  store : Option Store
  refunds : RefundRows := .empty
  returns : Table UUID OrderReturn := .empty
  /-- The holder of the order's row lock. -/
  lock : Option Nat := none
  sessions : Nat → RefundSession := fun _ => .idle
  /-- Since the lock was taken, an amount has entered that no locked check admitted. -/
  intruded : Bool := false

inductive RefundLabel where
  | readOrder (session : Nat) (dto : CreateRefundDTO) (storeId userId : UUID)
  | lockOrder (session : Nat)
  | insertRefund (session : Nat) (refundId : UUID)
  | readReturn (session : Nat) (returnId : UUID)
  | issue (session : Nat) (refundId : UUID) (body : IssueRefundRequest) (storeId userId : UUID)
  | readRefund (session : Nat) (refundId : UUID)
  | approve (session : Nat) (storeId userId : UUID) (now : Time)
  | reject (session : Nat) (storeId userId : UUID) (reason : Option String) (now : Time)
  /-- Processing keeps the refund's row locked from its read to its commit. -/
  | process (refundId storeId userId : UUID) (service : Option ProviderAnswer) (now : Time)
  | rollBack (session : Nat)
  /-- The other routes of a return. -/
  | writeReturn (ret : OrderReturn)

namespace RefundState

def committed (state : RefundState) : Nat :=
  RefundRepository.getTotalRefundedForOrder state.refunds true

def completed (state : RefundState) : Nat :=
  RefundRepository.getTotalRefundedForOrder state.refunds false

def put (state : RefundState) (session : Nat) (next : RefundSession) : RefundState :=
  { state with sessions := Function.update state.sessions session next }

def fresh (state : RefundState) (refundId : UUID) : Bool :=
  refundId ∉ state.refunds.rows.map Prod.fst

def unlock (state : RefundState) (session : Nat) : RefundState :=
  { state with lock := if state.lock = some session then none else state.lock }

/-- The refund a label adds to the rows, or brings back from a rejection. -/
def entering (state : RefundState) : RefundLabel → Option Refund
  | .insertRefund session refundId =>
      match state.sessions session with
      | .locked _ refund => if state.fresh refundId then some refund else none
      | _ => none
  | .issue session refundId body storeId userId =>
      match state.sessions session with
      | .issuing returnId copy =>
          if state.fresh refundId then
            (issueReturnRefund state.store copy returnId body storeId userId).toOption
          else none
      | _ => none
  | .approve session storeId userId now =>
      match state.sessions session with
      | .reviewing refundId copy =>
          if (state.refunds.get? refundId).any fun stored => stored.status = .rejected then
            (approveRefund state.store copy refundId storeId userId now).toOption
          else none
      | _ => none
  | _ => none

def write (state : RefundState) (refundId : UUID) (entity : Refund) : RefundState :=
  { state with
    refunds := state.refunds.modify refundId fun stored => RefundRepository.update stored entity }

def step (state : RefundState) (label : RefundLabel) : RefundState :=
  match label with
  | .readOrder session dto storeId userId =>
      match checkOrder state.store (some state.order) dto storeId userId with
      | .ok copy => (state.unlock session).put session (.creating copy dto storeId userId)
      | .error _ => (state.unlock session).put session .idle
  | .lockOrder session =>
      match state.sessions session with
      | .creating copy dto storeId userId =>
          -- The request waits for the holder of the row lock.
          if state.lock.isSome then state
          else match newRefund copy state.committed dto storeId userId with
          | .ok refund =>
              { state.put session (.locked state.committed refund) with
                lock := some session
                intruded := false }
          | .error _ => state.put session .idle
      | _ => state
  | .insertRefund session refundId =>
      match state.sessions session with
      | .locked _ refund =>
          if absent : refundId ∉ state.refunds.rows.map Prod.fst then
            { (state.unlock session).put session .idle with
              refunds := state.refunds.insert refundId refund absent }
          else (state.unlock session).put session .idle
      | _ => state
  | .readReturn session returnId =>
      (state.unlock session).put session (.issuing returnId (state.returns.get? returnId))
  | .issue session refundId body storeId userId =>
      match state.sessions session with
      | .issuing returnId copy =>
          match issueReturnRefund state.store copy returnId body storeId userId with
          | .ok refund =>
              if absent : refundId ∉ state.refunds.rows.map Prod.fst then
                { state.put session .idle with
                  refunds := state.refunds.insert refundId refund absent
                  returns := state.returns.modify returnId fun stored =>
                    { copy.getD stored with refundId := some refundId }
                  intruded := true }
              else state.put session .idle
          | .error _ => state.put session .idle
      | _ => state
  | .readRefund session refundId =>
      (state.unlock session).put session (.reviewing refundId (state.refunds.get? refundId))
  | .approve session storeId userId now =>
      match state.sessions session with
      | .reviewing refundId copy =>
          match approveRefund state.store copy refundId storeId userId now with
          | .ok entity =>
              { (state.write refundId entity).put session .idle with
                intruded := state.intruded ||
                  (state.entering (.approve session storeId userId now)).isSome }
          | .error _ => state.put session .idle
      | _ => state
  | .reject session storeId userId reason now =>
      match state.sessions session with
      | .reviewing refundId copy =>
          match rejectRefund state.store copy refundId storeId userId reason now with
          | .ok entity => (state.write refundId entity).put session .idle
          | .error _ => state.put session .idle
      | _ => state
  | .process refundId storeId userId service now =>
      match processRefund state.store (state.refunds.get? refundId) refundId storeId userId service
          now with
      | .ok entity =>
          let written := state.write refundId entity
          if entity.status = .completed then
            { written with order := updateOrderPaymentStatus state.order written.refunds now }
          else written
      | .error _ => state
  | .rollBack session => (state.unlock session).put session .idle
  | .writeReturn ret => { state with returns := state.returns.set ret.id ret }

/-- What is not rejected, and so what is completed, stays within the collectible total. -/
def InBudget (state : RefundState) : Prop :=
  state.committed ≤ state.order.collectibleTotal ∧ state.completed ≤ state.order.collectibleTotal

instance (state : RefundState) : Decidable (InBudget state) :=
  inferInstanceAs (Decidable (_ ∧ _))

def fits (state : RefundState) (entering : Option Refund) : Bool :=
  entering.all fun refund => state.committed + refund.amount ≤ state.order.collectibleTotal

/-- What enters past the locked check fits the budget left, and a create whose sum such an
amount has outdated still fits. -/
def Funded (state : RefundState) (label : RefundLabel) : Prop :=
  match label with
  | .insertRefund _ _ => state.intruded = true → state.fits (state.entering label) = true
  | _ => state.fits (state.entering label) = true

instance (state : RefundState) (label : RefundLabel) : Decidable (Funded state label) := by
  cases label <;> unfold Funded <;> infer_instance

end RefundState

/-- The entity that a transition makes of a refund. -/
structure Moved (before after : Refund) (newStatus : RefundStatus) : Prop where
  valid : newStatus ∈ validRefundTransitions before.status
  status : after.status = newStatus
  amount : after.amount = before.amount

section
variable {refund after : Refund} {userId : UUID} {reason : Option String} {now : Time}

theorem moveTo_ok {newStatus : RefundStatus}
    (ok : refund.moveTo newStatus reason now = .ok after) : Moved refund after newStatus := by
  unfold Refund.moveTo at ok
  split at ok
  · rename_i valid
    cases ok
    exact ⟨valid, rfl, rfl⟩
  · cases ok

theorem approve_ok (ok : refund.approve userId now = .ok after) :
    Moved refund after .approved := by
  obtain ⟨moved, step, same⟩ := bind_eq_ok.mp ok
  cases same
  have made := moveTo_ok step
  exact ⟨made.valid, made.status, made.amount⟩

theorem reject_ok (ok : refund.reject userId reason now = .ok after) :
    Moved refund after .rejected := by
  obtain ⟨moved, step, same⟩ := bind_eq_ok.mp ok
  cases same
  have made := moveTo_ok step
  exact ⟨made.valid, made.status, made.amount⟩

theorem startProcessing_ok (ok : refund.startProcessing now = .ok after) :
    Moved refund after .processing := by
  unfold Refund.startProcessing at ok
  split at ok
  · obtain ⟨moved, step, same⟩ := bind_eq_ok.mp ok
    cases same
    have made := moveTo_ok step
    exact ⟨made.valid, made.status, made.amount⟩
  · exact moveTo_ok ok

theorem markProcessed_complete_ok {providerRefundId : Option String}
    (ok : (do
      let processed ← refund.markProcessed providerRefundId now
      processed.complete now) = .ok after) :
    after.status = .completed ∧ after.amount = refund.amount := by
  obtain ⟨processed, first, second⟩ := bind_eq_ok.mp ok
  obtain ⟨moved, step, same⟩ := bind_eq_ok.mp first
  cases same
  obtain ⟨ended, last, same⟩ := bind_eq_ok.mp second
  cases same
  have processed := moveTo_ok step
  have completed := moveTo_ok last
  exact ⟨completed.status, completed.amount.trans processed.amount⟩

theorem markFailed_ok (ok : refund.markFailed reason now = .ok after) :
    after.status = .failed ∧ after.amount = refund.amount := by
  obtain ⟨moved, step, same⟩ := bind_eq_ok.mp ok
  cases same
  have made := moveTo_ok step
  exact ⟨made.status, made.amount⟩

theorem settleRefund_ok {answer : Option ProviderAnswer}
    (ok : settleRefund refund answer now = .ok after) :
    after.status ≠ .rejected ∧ after.amount = refund.amount := by
  have alive {status : RefundStatus} (other : status ≠ .rejected)
      (done : after.status = status ∧ after.amount = refund.amount) :
      after.status ≠ .rejected ∧ after.amount = refund.amount :=
    ⟨done.1 ▸ other, done.2⟩
  cases answer with
  | none => exact alive (by decide) (markProcessed_complete_ok ok)
  | some answer =>
      cases answer with
      | success refundId => exact alive (by decide) (markProcessed_complete_ok ok)
      | refused message => exact alive (by decide) (markFailed_ok ok)
      | raised text => exact alive (by decide) (markFailed_ok ok)

variable {store : Option Store} {found : Option Refund} {refundId storeId : UUID}

theorem validated_ok {result : Except String Refund} (ok : validated result = .ok after) :
    result = .ok after := by
  cases result with
  | error message => cases ok
  | ok entity =>
      cases ok
      rfl

theorem checkRefund_ok {action : String}
    (ok : checkRefund store found refundId storeId userId action = .ok refund) :
    found = some refund := by
  unfold checkRefund at ok
  cases store with
  | none => cases ok
  | some store =>
      simp only at ok
      split at ok
      · cases ok
      · cases found with
        | none => cases ok
        | some refund =>
            simp only at ok
            split at ok
            · cases ok
            · cases ok
              rfl

theorem approveRefund_ok (ok : approveRefund store found refundId storeId userId now = .ok after) :
    ∃ copy, found = some copy ∧ Moved copy after .approved := by
  obtain ⟨copy, checked, step⟩ := bind_eq_ok.mp ok
  exact ⟨copy, checkRefund_ok checked, approve_ok (validated_ok step)⟩

theorem rejectRefund_ok
    (ok : rejectRefund store found refundId storeId userId reason now = .ok after) :
    ∃ copy, found = some copy ∧ Moved copy after .rejected := by
  obtain ⟨copy, checked, step⟩ := bind_eq_ok.mp ok
  exact ⟨copy, checkRefund_ok checked, reject_ok (validated_ok step)⟩

/-- Processing moves a refund between statuses that all count. -/
theorem processRefund_ok {service : Option ProviderAnswer}
    (ok : processRefund store found refundId storeId userId service now = .ok after) :
    ∃ copy, found = some copy ∧ copy.status ≠ .rejected ∧ after.status ≠ .rejected ∧
      after.amount = copy.amount := by
  obtain ⟨copy, checked, rest⟩ := bind_eq_ok.mp ok
  obtain ⟨started, step, settled⟩ := bind_eq_ok.mp rest
  have start := startProcessing_ok (validated_ok step)
  obtain ⟨alive, amount⟩ := settleRefund_ok (validated_ok settled)
  refine ⟨copy, checkRefund_ok checked, ?_, alive, amount.trans start.amount⟩
  intro rejected
  have valid := start.valid
  simp [rejected, validRefundTransitions] at valid

end

theorem checkOrder_ok {store : Option Store} {order copy : Order} {dto : CreateRefundDTO}
    {storeId userId : UUID} (ok : checkOrder store (some order) dto storeId userId = .ok copy) :
    copy = order := by
  unfold checkOrder at ok
  cases store with
  | none => cases ok
  | some store =>
      simp only at ok
      split_ifs at ok
      cases ok
      rfl

theorem partialAmount_ok {refundable : Int} {asked : Option Int} {amount : Nat}
    (ok : partialAmount refundable asked = .ok amount) : (amount : Int) ≤ refundable := by
  unfold partialAmount at ok
  cases asked with
  | none => cases ok
  | some asked =>
      simp only at ok
      split at ok
      · cases ok
      · split at ok
        · cases ok
        · cases ok
          omega

/-- A create asks for no more than its sum leaves. -/
theorem newRefund_ok {order : Order} {seen : Nat} {dto : CreateRefundDTO} {storeId userId : UUID}
    {refund : Refund} (ok : newRefund order seen dto storeId userId = .ok refund) :
    refund.status = .requested ∧ seen + refund.amount ≤ order.collectibleTotal := by
  unfold newRefund at ok
  simp only at ok
  split at ok
  · cases ok
  · cases parsed : RefundType.ofValue dto.refundType with
    | none => simp [parsed] at ok
    | some refundType =>
        cases explained : RefundReason.ofValue dto.reason with
        | none => simp [parsed, explained] at ok
        | some reason =>
            simp only [parsed, explained] at ok
            obtain ⟨amount, chosen, same⟩ := bind_eq_ok.mp ok
            cases same
            refine ⟨rfl, ?_⟩
            simp only
            cases refundType with
            | full =>
                cases chosen
                omega
            | partial_ =>
                have bounded := partialAmount_ok chosen
                omega

theorem issueReturnRefund_ok {store : Option Store} {ret : Option OrderReturn} {returnId : UUID}
    {body : IssueRefundRequest} {storeId userId : UUID} {refund : Refund}
    (ok : issueReturnRefund store ret returnId body storeId userId = .ok refund) :
    refund.status = .requested := by
  unfold issueReturnRefund at ok
  cases ret with
  | none => cases ok
  | some ret =>
      simp only at ok
      split_ifs at ok <;> cases ok <;> rfl

/-- The part of a refund that counts against the budget. -/
def counts (refund : Refund) : Nat :=
  if RefundRepository.counted true refund then refund.amount else 0

theorem counts_eq {refund : Refund} (alive : refund.status ≠ .rejected) :
    counts refund = refund.amount := by
  simp [counts, RefundRepository.counted, alive]

theorem counts_rejected {refund : Refund} (rejected : refund.status = .rejected) :
    counts refund = 0 := by
  simp [counts, RefundRepository.counted, rejected]

namespace RefundState

theorem committed_eq (state : RefundState) : state.committed = state.refunds.total counts := rfl

theorem completed_le_committed (state : RefundState) : state.completed ≤ state.committed := by
  unfold completed committed RefundRepository.getTotalRefundedForOrder
  apply Table.total_mono
  intro refund
  by_cases done : refund.status = .completed <;> simp [RefundRepository.counted, done]

/-- Writing an entity back changes the committed total by what that refund counts. -/
theorem committed_write {state : RefundState} {refundId : UUID} {stored : Refund}
    (present : state.refunds.get? refundId = some stored) (entity : Refund) :
    (state.write refundId entity).committed + counts stored = state.committed + counts entity :=
  state.refunds.total_modify _ present counts

/-- What a session has read is still what the rows say, as far as the budget goes. -/
def Valid (state : RefundState) (session : Nat) : RefundSession → Prop
  | .creating copy _ _ _ => copy.collectibleTotal = state.order.collectibleTotal
  | .locked seen refund =>
      state.lock = some session ∧ refund.status = .requested ∧
        seen + refund.amount ≤ state.order.collectibleTotal ∧
        (state.intruded = false → state.committed ≤ seen)
  | .reviewing refundId (some copy) =>
      ∃ stored, state.refunds.get? refundId = some stored ∧ stored.amount = copy.amount
  | _ => True

structure Sound (state : RefundState) : Prop where
  budget : state.committed ≤ state.order.collectibleTotal
  valid : ∀ session, Valid state session (state.sessions session)

/-- A refund that was there is still there, for the same amount. -/
def KeepsAmounts (before after : RefundRows) : Prop :=
  ∀ refundId stored, before.get? refundId = some stored →
    ∃ kept, after.get? refundId = some kept ∧ kept.amount = stored.amount

theorem keepsAmounts_insert (rows : RefundRows) (refundId : UUID) (refund : Refund)
    (absent : refundId ∉ rows.rows.map Prod.fst) :
    KeepsAmounts rows (rows.insert refundId refund absent) := by
  intro other stored present
  have different : other ≠ refundId := by
    intro same
    have member := (rows.get?_eq_some_iff other stored).mp present
    exact absent (same ▸ List.mem_map_of_mem (f := Prod.fst) member)
  refine ⟨stored, ?_, rfl⟩
  rw [rows.get?_insert refundId refund absent other, if_neg different]
  exact present

theorem keepsAmounts_write {state : RefundState} {refundId : UUID} {stored entity : Refund}
    (present : state.refunds.get? refundId = some stored) (amount : entity.amount = stored.amount) :
    KeepsAmounts state.refunds (state.write refundId entity).refunds := by
  intro other old found
  by_cases same : other = refundId
  · subst same
    rw [present] at found
    cases found
    exact ⟨RefundRepository.update stored entity, by simp [write, present], amount⟩
  · refine ⟨old, ?_, rfl⟩
    rw [write, Table.get?_modify_of_ne _ _ same]
    exact found

/-- What a step must leave alone for a session it does not serve. -/
structure Leaves (before after : RefundState) (session : Nat) : Prop where
  collectible : after.order.collectibleTotal = before.order.collectibleTotal
  amounts : KeepsAmounts before.refunds after.refunds
  /-- For the holder of the lock, nothing enters without a mark. -/
  held : before.lock = some session → after.lock = some session ∧
    (after.intruded = false → before.intruded = false ∧ after.committed ≤ before.committed)

theorem keepsAmounts_refl (rows : RefundRows) : KeepsAmounts rows rows :=
  fun _ stored present => ⟨stored, present, rfl⟩

theorem Valid.mono {before after : RefundState} {session : Nat}
    (leaves : Leaves before after session) {stage : RefundSession}
    (valid : Valid before session stage) : Valid after session stage := by
  cases stage with
  | creating copy dto storeId userId => exact Eq.trans valid leaves.collectible.symm
  | locked seen refund =>
      obtain ⟨lock, status, fits, sum⟩ := valid
      obtain ⟨still, quiet⟩ := leaves.held lock
      refine ⟨still, status, leaves.collectible ▸ fits, fun unmarked => ?_⟩
      obtain ⟨before, fewer⟩ := quiet unmarked
      exact fewer.trans (sum before)
  | reviewing refundId copy =>
      cases copy with
      | none => trivial
      | some copy =>
          obtain ⟨stored, present, amount⟩ := valid
          obtain ⟨kept, still, same⟩ := leaves.amounts refundId stored present
          exact ⟨kept, still, same.trans amount⟩
  | _ => trivial

/-- A step keeps the invariant when it keeps the budget, leaves the other sessions alone
and brings the one it serves to a valid stage. -/
theorem sound_of_leaves {before after : RefundState} (sound : Sound before) (session : Nat)
    (others : ∀ other, other ≠ session → after.sessions other = before.sessions other)
    (leaves : ∀ other, other ≠ session → Leaves before after other)
    (budget : after.committed ≤ after.order.collectibleTotal)
    (own : Valid after session (after.sessions session)) : Sound after := by
  refine ⟨budget, fun other => ?_⟩
  by_cases same : other = session
  · exact same ▸ own
  · rw [others other same]
    exact Valid.mono (leaves other same) (sound.valid other)

theorem put_sessions_self (state : RefundState) (session : Nat) (next : RefundSession) :
    (state.put session next).sessions session = next := by
  simp [put]

theorem put_sessions_of_ne (state : RefundState) {session other : Nat} (different : other ≠ session)
    (next : RefundSession) : (state.put session next).sessions other = state.sessions other := by
  simp [put, different]

theorem unlock_held (state : RefundState) {session other : Nat} (different : other ≠ session)
    (held : state.lock = some other) : (state.unlock session).lock = some other := by
  simp [unlock, held, different]

/-- A step that only moves a session, and releases the lock the session may hold. -/
theorem sound_put {state : RefundState} (sound : Sound state) (session : Nat)
    {next : RefundSession} (valid : Valid ((state.unlock session).put session next) session next) :
    Sound ((state.unlock session).put session next) := by
  refine sound_of_leaves sound session ?_ ?_ sound.budget ?_
  · exact fun other different => (state.unlock session).put_sessions_of_ne different next
  · intro other different
    refine ⟨rfl, keepsAmounts_refl _, fun held => ⟨unlock_held state different held, ?_⟩⟩
    exact fun quiet => ⟨quiet, le_refl _⟩
  · rw [put_sessions_self]
    exact valid

theorem sound_idle {state : RefundState} (sound : Sound state) (session : Nat) :
    Sound (state.put session .idle) := by
  refine sound_of_leaves sound session ?_ ?_ sound.budget ?_
  · exact fun other different => state.put_sessions_of_ne different .idle
  · intro other different
    exact ⟨rfl, keepsAmounts_refl _, fun held => ⟨held, fun quiet => ⟨quiet, le_refl _⟩⟩⟩
  · rw [put_sessions_self]
    trivial

/-- A create that gets the lock sums what is committed and asks for no more than is left. -/
theorem sound_lock {state : RefundState} (sound : Sound state) {session : Nat} {copy : Order}
    {dto : CreateRefundDTO} {storeId userId : UUID} {refund : Refund}
    (stage : state.sessions session = .creating copy dto storeId userId)
    (free : state.lock = none)
    (ok : newRefund copy state.committed dto storeId userId = .ok refund) :
    Sound { state.put session (.locked state.committed refund) with
      lock := some session
      intruded := false } := by
  have same : copy.collectibleTotal = state.order.collectibleTotal := by
    have valid := sound.valid session
    rw [stage] at valid
    exact valid
  obtain ⟨requested, fits⟩ := newRefund_ok ok
  refine sound_of_leaves sound session ?_ ?_ sound.budget ?_
  · exact fun other different => state.put_sessions_of_ne different _
  · intro other different
    refine ⟨rfl, keepsAmounts_refl _, fun held => ?_⟩
    rw [free] at held
    cases held
  · have own : (state.put session (.locked state.committed refund)).sessions session =
        .locked state.committed refund := put_sessions_self state session _
    simp only [own]
    exact ⟨rfl, requested, same ▸ fits, fun _ => le_refl _⟩

theorem committed_insert {state : RefundState} {refundId : UUID} {refund : Refund}
    (absent : refundId ∉ state.refunds.rows.map Prod.fst) (requested : refund.status = .requested) :
    (state.refunds.insert refundId refund absent).total counts =
      state.committed + refund.amount := by
  rw [Table.total_insert, counts_eq (by rw [requested]; decide), committed_eq]

/-- The holder of the lock inserts the refund it computed. -/
theorem sound_insert {state : RefundState} (sound : Sound state) {session : Nat} {seen : Nat}
    {refund : Refund} {refundId : UUID} (stage : state.sessions session = .locked seen refund)
    (absent : refundId ∉ state.refunds.rows.map Prod.fst)
    (fits : state.intruded = true →
      state.committed + refund.amount ≤ state.order.collectibleTotal) :
    Sound { (state.unlock session).put session .idle with
      refunds := state.refunds.insert refundId refund absent } := by
  have valid := sound.valid session
  rw [stage] at valid
  obtain ⟨lock, requested, planned, sum⟩ := valid
  have budget : state.committed + refund.amount ≤ state.order.collectibleTotal := by
    cases marked : state.intruded with
    | true => exact fits marked
    | false =>
        have unchanged := sum marked
        omega
  refine sound_of_leaves sound session ?_ ?_ ?_ ?_
  · exact fun other different => (state.unlock session).put_sessions_of_ne different .idle
  · intro other different
    refine ⟨rfl, keepsAmounts_insert _ _ _ absent, fun held => ?_⟩
    rw [lock] at held
    exact absurd (Option.some.inj held).symm different
  · calc (state.refunds.insert refundId refund absent).total counts
        = state.committed + refund.amount := committed_insert absent requested
      _ ≤ state.order.collectibleTotal := budget
  · have own : ((state.unlock session).put session .idle).sessions session = .idle :=
      put_sessions_self _ session _
    simp only [own]
    trivial

/-- A return's refund that fits keeps the budget; the holder of the lock sees the mark. -/
theorem sound_issue {state : RefundState} (sound : Sound state) (session : Nat) {refund : Refund}
    {refundId : UUID} (returns : Table UUID OrderReturn)
    (absent : refundId ∉ state.refunds.rows.map Prod.fst) (requested : refund.status = .requested)
    (fits : state.committed + refund.amount ≤ state.order.collectibleTotal) :
    Sound { state.put session .idle with
      refunds := state.refunds.insert refundId refund absent
      returns := returns
      intruded := true } := by
  refine sound_of_leaves sound session ?_ ?_ ?_ ?_
  · exact fun other different => state.put_sessions_of_ne different .idle
  · intro other different
    exact ⟨rfl, keepsAmounts_insert _ _ _ absent, fun held => ⟨held, fun quiet => by cases quiet⟩⟩
  · calc (state.refunds.insert refundId refund absent).total counts
        = state.committed + refund.amount := committed_insert absent requested
      _ ≤ state.order.collectibleTotal := fits
  · have own : (state.put session .idle).sessions session = .idle := put_sessions_self _ session _
    simp only [own]
    trivial

/-- A reviewed refund is written back; `marked` records that this brought an amount back. -/
theorem sound_review {state : RefundState} (sound : Sound state) (session : Nat)
    {refundId : UUID} {stored entity : Refund} (marked : Bool)
    (present : state.refunds.get? refundId = some stored) (amount : entity.amount = stored.amount)
    (fits : state.committed + counts entity ≤ state.order.collectibleTotal + counts stored)
    (quiet : marked = false → counts entity ≤ counts stored) :
    Sound { (state.write refundId entity).put session .idle with
      intruded := state.intruded || marked } := by
  have change := committed_write present entity
  refine sound_of_leaves sound session ?_ ?_ ?_ ?_
  · exact fun other different => put_sessions_of_ne (state.write refundId entity) different .idle
  · intro other different
    refine ⟨rfl, keepsAmounts_write present amount, fun held => ⟨held, fun unmarked => ?_⟩⟩
    simp only [Bool.or_eq_false_iff] at unmarked
    have less := quiet unmarked.2
    refine ⟨unmarked.1, ?_⟩
    show (state.write refundId entity).committed ≤ state.committed
    omega
  · show (state.write refundId entity).committed ≤ state.order.collectibleTotal
    omega
  · have own : ((state.write refundId entity).put session .idle).sessions session = .idle :=
      put_sessions_self _ session _
    simp only [own]
    trivial

theorem updateOrderPaymentStatus_collectible (order : Order) (refunds : RefundRows) (now : Time) :
    (updateOrderPaymentStatus order refunds now).collectibleTotal = order.collectibleTotal := by
  unfold updateOrderPaymentStatus
  simp only
  split_ifs <;> rfl

/-- Processing changes no amount and no side of the budget. -/
theorem sound_process {state : RefundState} (sound : Sound state) {refundId : UUID}
    {stored entity : Refund} {order : Order} (present : state.refunds.get? refundId = some stored)
    (amount : entity.amount = stored.amount) (same : counts entity = counts stored)
    (collectible : order.collectibleTotal = state.order.collectibleTotal) :
    Sound { state.write refundId entity with order := order } := by
  have change := committed_write present entity
  have unchanged : (state.write refundId entity).committed = state.committed := by omega
  refine ⟨?_, fun session => ?_⟩
  · show (state.write refundId entity).committed ≤ order.collectibleTotal
    rw [unchanged, collectible]
    exact sound.budget
  · have leaves : Leaves state { state.write refundId entity with order := order } session :=
      ⟨collectible, keepsAmounts_write present amount,
        fun held => ⟨held, fun quiet => ⟨quiet, unchanged.le⟩⟩⟩
    exact Valid.mono leaves (sound.valid session)

/-- The copy under review is of a stored refund of the same amount. -/
theorem reviewed {state : RefundState} (sound : Sound state) {session : Nat} {refundId : UUID}
    {copy : Refund} (stage : state.sessions session = .reviewing refundId (some copy)) :
    ∃ stored, state.refunds.get? refundId = some stored ∧ stored.amount = copy.amount := by
  have valid := sound.valid session
  rw [stage] at valid
  exact valid

theorem fits_some {state : RefundState} {refund : Refund} :
    state.fits (some refund) = true ↔
      state.committed + refund.amount ≤ state.order.collectibleTotal := by
  simp [fits]

theorem sound_lockOrder {state : RefundState} (sound : Sound state) (session : Nat) :
    Sound (state.step (.lockOrder session)) := by
  simp only [step]
  split
  · rename_i copy dto storeId userId stage
    split
    · exact sound
    · rename_i free
      have free : state.lock = none := by simpa using free
      split
      · rename_i refund ok
        exact sound_lock sound stage free ok
      · exact sound_idle sound session
  · exact sound

theorem sound_insertRefund {state : RefundState} (sound : Sound state) {session : Nat}
    {refundId : UUID}
    (funded : Funded state (.insertRefund session refundId)) :
    Sound (state.step (.insertRefund session refundId)) := by
  simp only [step]
  split
  · rename_i seen refund stage
    split
    · rename_i absent
      refine sound_insert sound stage absent fun marked => ?_
      have fits := funded marked
      simp only [entering, stage, fresh, absent, not_false_eq_true, decide_true, if_true] at fits
      exact fits_some.mp fits
    · exact sound_put sound session trivial
  · exact sound

theorem sound_issueReturn {state : RefundState} (sound : Sound state) {session : Nat}
    {refundId storeId userId : UUID} {body : IssueRefundRequest}
    (funded : Funded state (.issue session refundId body storeId userId)) :
    Sound (state.step (.issue session refundId body storeId userId)) := by
  simp only [step]
  split
  · rename_i returnId copy stage
    split
    · rename_i refund ok
      split
      · rename_i absent
        refine sound_issue sound session _ absent (issueReturnRefund_ok ok) ?_
        have fits : state.fits
            (state.entering (.issue session refundId body storeId userId)) = true := funded
        simp only [entering, stage, fresh, absent, not_false_eq_true, decide_true, if_true,
          ok, Except.toOption] at fits
        exact fits_some.mp fits
      · exact sound_idle sound session
    · exact sound_idle sound session
  · exact sound

/-- Only an approval that is written over a rejection brings an amount back. -/
theorem sound_approve {state : RefundState} (sound : Sound state) {session : Nat}
    {storeId userId : UUID} {now : Time}
    (funded : Funded state (.approve session storeId userId now)) :
    Sound (state.step (.approve session storeId userId now)) := by
  simp only [step]
  split
  · rename_i refundId copy stage
    split
    · rename_i entity ok
      obtain ⟨copy, rfl, moved⟩ := approveRefund_ok ok
      obtain ⟨stored, present, amount⟩ := reviewed sound stage
      have alive : counts entity = entity.amount := counts_eq (by rw [moved.status]; decide)
      have same : entity.amount = stored.amount := moved.amount.trans amount.symm
      have budget := sound.budget
      by_cases rejected : stored.status = .rejected
      · have fits : state.fits (state.entering (.approve session storeId userId now)) = true :=
          funded
        simp only [entering, stage, present, Option.any_some, rejected, decide_true, if_true,
          ok, Except.toOption] at fits ⊢
        have room := fits_some.mp fits
        refine sound_review sound session true present same ?_ (by simp)
        omega
      · simp only [entering, stage, present, Option.any_some, rejected, decide_false]
        have counted : counts stored = stored.amount := counts_eq rejected
        refine sound_review sound session false present same ?_ (fun _ => ?_) <;> omega
    · exact sound_idle sound session
  · exact sound

theorem sound_reject {state : RefundState} (sound : Sound state) (session : Nat)
    (storeId userId : UUID) (reason : Option String) (now : Time) :
    Sound (state.step (.reject session storeId userId reason now)) := by
  simp only [step]
  split
  · rename_i refundId copy stage
    split
    · rename_i entity ok
      obtain ⟨copy, rfl, moved⟩ := rejectRefund_ok ok
      obtain ⟨stored, present, amount⟩ := reviewed sound stage
      have gone : counts entity = 0 := counts_rejected moved.status
      have same : entity.amount = stored.amount := moved.amount.trans amount.symm
      have budget := sound.budget
      have kept := sound_review sound session false present same (by omega) (by omega)
      rw [Bool.or_false] at kept
      exact kept
    · exact sound_idle sound session
  · exact sound

theorem sound_processRefund {state : RefundState} (sound : Sound state) (refundId storeId userId : UUID)
    (service : Option ProviderAnswer) (now : Time) :
    Sound (state.step (.process refundId storeId userId service now)) := by
  simp only [step]
  split
  · rename_i entity ok
    obtain ⟨stored, present, alive, stillAlive, amount⟩ := processRefund_ok ok
    have same : counts entity = counts stored := by
      rw [counts_eq stillAlive, counts_eq alive, amount]
    split
    · exact sound_process sound present amount same
        (updateOrderPaymentStatus_collectible state.order _ now)
    · exact sound_process sound present amount same rfl
  · exact sound

theorem sound_step {state : RefundState} {label : RefundLabel} (sound : Sound state)
    (funded : Funded state label) : Sound (state.step label) := by
  cases label with
  | readOrder session dto storeId userId =>
      simp only [step]
      cases checked : checkOrder state.store (some state.order) dto storeId userId with
      | error => exact sound_put sound session trivial
      | ok copy =>
          refine sound_put sound session ?_
          have same : copy = state.order := checkOrder_ok checked
          rw [same]
          rfl
  | lockOrder session => exact sound_lockOrder sound session
  | insertRefund session refundId => exact sound_insertRefund sound funded
  | readReturn session returnId => exact sound_put sound session trivial
  | issue session refundId body storeId userId => exact sound_issueReturn sound funded
  | readRefund session refundId =>
      refine sound_put sound session ?_
      cases found : state.refunds.get? refundId with
      | none => trivial
      | some stored => exact ⟨stored, found, rfl⟩
  | approve session storeId userId now => exact sound_approve sound funded
  | reject session storeId userId reason now =>
      exact sound_reject sound session storeId userId reason now
  | process refundId storeId userId service now =>
      exact sound_processRefund sound refundId storeId userId service now
  | rollBack session => exact sound_put sound session trivial
  | writeReturn ret => exact ⟨sound.budget, sound.valid⟩

/-- What enters is in the committed total of the next state. -/
theorem committed_entering {state : RefundState} (sound : Sound state) {label : RefundLabel}
    {refund : Refund} (enters : state.entering label = some refund) :
    (state.step label).committed = state.committed + refund.amount ∧
      (state.step label).order = state.order := by
  cases label with
  | insertRefund session refundId =>
      simp only [entering] at enters
      split at enters
      · rename_i seen asked stage
        split at enters
        · rename_i absent
          cases enters
          have absent : refundId ∉ state.refunds.rows.map Prod.fst := by
            simpa [fresh] using absent
          have valid := sound.valid session
          rw [stage] at valid
          simp only [step, stage, dif_pos absent]
          exact ⟨committed_insert absent valid.2.1, rfl⟩
        · cases enters
      · cases enters
  | issue session refundId body storeId userId =>
      simp only [entering] at enters
      split at enters
      · rename_i returnId copy stage
        split at enters
        · rename_i absent
          have absent : refundId ∉ state.refunds.rows.map Prod.fst := by
            simpa [fresh] using absent
          cases minted : issueReturnRefund state.store copy returnId body storeId userId with
          | error => simp [minted, Except.toOption] at enters
          | ok asked =>
              simp only [minted, Except.toOption, Option.some.injEq] at enters
              subst enters
              simp only [step, stage, minted, dif_pos absent]
              exact ⟨committed_insert absent (issueReturnRefund_ok minted), rfl⟩
        · cases enters
      · cases enters
  | approve session storeId userId now =>
      simp only [entering] at enters
      split at enters
      · rename_i refundId copy stage
        split at enters
        · rename_i revived
          cases approved : approveRefund state.store copy refundId storeId userId now with
          | error => simp [approved, Except.toOption] at enters
          | ok entity =>
              simp only [approved, Except.toOption, Option.some.injEq] at enters
              subst enters
              obtain ⟨copy, rfl, moved⟩ := approveRefund_ok approved
              obtain ⟨stored, present, -⟩ := reviewed sound stage
              have rejected : stored.status = .rejected := by simpa [present] using revived
              have change := committed_write present entity
              have alive : counts entity = entity.amount :=
                counts_eq (by rw [moved.status]; decide)
              rw [counts_rejected rejected, alive] at change
              simp only [step, stage, approved]
              exact ⟨change, rfl⟩
        · cases enters
      · cases enters
  | _ => cases enters

theorem funded_of_inBudget {state : RefundState} {label : RefundLabel} (sound : Sound state)
    (inBudget : InBudget (state.step label)) : Funded state label := by
  have fits : state.fits (state.entering label) = true := by
    cases enters : state.entering label with
    | none => rfl
    | some refund =>
        obtain ⟨committed, order⟩ := committed_entering sound enters
        have within := inBudget.1
        rw [committed, order] at within
        exact fits_some.mpr within
  cases label with
  | insertRefund session refundId => exact fun _ => fits
  | _ => exact fits

theorem Sound.inBudget {state : RefundState} (sound : Sound state) : InBudget state :=
  ⟨sound.budget, state.completed_le_committed.trans sound.budget⟩

end RefundState

/-- An order of which nothing has been asked back. -/
def unrefunded (order : Order) (store : Option Store) (returns : Table UUID OrderReturn) :
    RefundState where
  order := order
  store := store
  returns := returns

/-- Over every interleaving, the refunds of an order stay within its collectible total
exactly when every step is funded. -/
theorem inBudget_iff_funded (order : Order) (store : Option Store)
    (returns : Table UUID OrderReturn) (labels : List RefundLabel) :
    Run.Always RefundState.step RefundState.InBudget (unrefunded order store returns) labels ↔
      Run.Guarded RefundState.step RefundState.Funded (unrefunded order store returns) labels := by
  apply Run.always_iff_guarded (I := RefundState.Sound)
  · exact fun state label sound funded => RefundState.sound_step sound funded
  · exact fun state sound => sound.inBudget
  · exact fun state label sound inBudget => RefundState.funded_of_inBudget sound inBudget
  · exact ⟨Nat.zero_le _, fun session => trivial⟩

/-- A paid order of 10000 with a received return of one line of 4000. -/
def returnedOrder : RefundState :=
  unrefunded
    { id := 5, storeId := 2, status := .delivered, paymentStatus := .paid, total := 10000 }
    (some ⟨2, 9, 7⟩)
    ⟨[(31, { id := 31, orderId := 5, storeId := 2, status := .received, requestedAmount := 4000 })],
      by decide⟩

/-- The whole order is refunded and then its return. -/
def refundedTwice : List RefundLabel :=
  [.readOrder 0 ⟨5, "full", "customer_request", none, none⟩ 2 9,
    .lockOrder 0,
    .insertRefund 0 41,
    .readReturn 1 31,
    .issue 1 42 {} 2 9]

/-- The return's refund is minted on top of a refund of the whole order. -/
theorem return_refund_exceeds_budget :
    ¬ Run.Always RefundState.step RefundState.InBudget returnedOrder refundedTwice := by
  intro always
  exact absurd always.last.1 (by decide)

end Numu.Refunds
