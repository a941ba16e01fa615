import Numu.Foundation.Journal
import Numu.Foundation.Outcome
import Numu.Foundation.Run
import Numu.Orders.UpdateStatus

/-! The status history of an order over runs of its operations. -/

namespace Numu.Orders
open Numu.Stock (Inventory Reply TextCase restockOrder)
open Numu.Outcome (orKeep orKeep_of_ok bind_eq_ok)

/-- The history is a chain of table edges that ends in the order's status. -/
def HistoryConnected (order : Order) : Prop :=
  Journal (fun old new => new ∈ validStatusTransitions old) StatusChange.fromStatus
    StatusChange.toStatus order.statusHistory order.status

/-- What a recorded operation does: nothing to the status, or one table edge with its entry. -/
inductive Tracked (before after : Order) : Prop where
  | kept (history : after.statusHistory = before.statusHistory)
      (status : after.status = before.status)
  | moved (entry : StatusChange) (history : after.statusHistory = before.statusHistory ++ [entry])
      (source : entry.fromStatus = before.status) (target : entry.toStatus = after.status)
      (edge : after.status ∈ validStatusTransitions before.status)

theorem Tracked.connected {before after : Order} (tracked : Tracked before after)
    (connected : HistoryConnected before) : HistoryConnected after := by
  cases tracked with
  | kept history status =>
      rw [HistoryConnected, history, status]
      exact connected
  | moved entry history source target edge =>
      rw [HistoryConnected, history, ← target]
      exact connected.append entry source (target ▸ edge)

theorem Tracked.of_frame {before mid after : Order} (tracked : Tracked before mid)
    (status : after.status = mid.status) (history : after.statusHistory = mid.statusHistory) :
    Tracked before after := by
  cases tracked with
  | kept sameHistory sameStatus => exact .kept (history.trans sameHistory) (status.trans sameStatus)
  | moved entry longer source target edge =>
      exact .moved entry (history.trans longer) source (target.trans status.symm) (status ▸ edge)

theorem Tracked.of_source {before other after : Order} (tracked : Tracked before after)
    (status : before.status = other.status)
    (history : before.statusHistory = other.statusHistory) : Tracked other after := by
  cases tracked with
  | kept sameHistory sameStatus => exact .kept (sameHistory.trans history) (sameStatus.trans status)
  | moved entry longer source target edge =>
      exact .moved entry (history ▸ longer) (source.trans status) target (status ▸ edge)

theorem stampStatus_frame (order : Order) (now : Time) :
    (order.stampStatus now).status = order.status ∧
      (order.stampStatus now).metadata = order.metadata := by
  unfold Order.stampStatus
  split <;> first | exact ⟨rfl, rfl⟩ | (split <;> exact ⟨rfl, rfl⟩)

theorem transitionTo_ok {order moved : Order} {newStatus : OrderStatus}
    {reason source : Option String} {now : Time}
    (ok : order.transitionTo newStatus reason source now = .ok moved) :
    newStatus ∈ validStatusTransitions order.status ∧ moved.status = newStatus ∧
      moved.metadata = (order.recordTransition newStatus reason source now).metadata := by
  unfold Order.transitionTo at ok
  split at ok
  · rename_i valid
    have frame := stampStatus_frame (order.recordTransition newStatus reason source now) now
    cases ok
    exact ⟨of_decide_eq_true valid, frame.1, frame.2⟩
  · cases ok

theorem tracked_of_metadata {order moved after : Order} {newStatus : OrderStatus}
    {reason source : Option String} {now : Time}
    (ok : order.transitionTo newStatus reason source now = .ok moved)
    (status : after.status = moved.status)
    (history : after.metadata.statusHistory = moved.metadata.statusHistory) :
    Tracked order after := by
  obtain ⟨valid, target, metadata⟩ := transitionTo_ok ok
  refine .moved ⟨order.status, newStatus, now, reason, source⟩ ?_ rfl ?_ ?_
  · rw [Order.statusHistory, history, metadata]
    rfl
  · rw [status, target]
  · rw [status, target]
    exact valid

theorem tracked_transitionTo {order moved : Order} {newStatus : OrderStatus}
    {reason source : Option String} {now : Time}
    (ok : order.transitionTo newStatus reason source now = .ok moved) : Tracked order moved :=
  tracked_of_metadata ok rfl rfl

section StatusMethods
variable {order after : Order} {now : Time}

theorem tracked_confirm (ok : order.confirm now = .ok after) : Tracked order after := by
  unfold Order.confirm at ok
  split at ok
  · exact tracked_transitionTo ok
  · cases ok

theorem tracked_startProcessing (ok : order.startProcessing now = .ok after) :
    Tracked order after := by
  unfold Order.startProcessing at ok
  split at ok
  · exact tracked_transitionTo ok
  · cases ok

theorem tracked_ship {number url source : Option String}
    (ok : order.ship number url source now = .ok after) : Tracked order after := by
  unfold Order.ship at ok
  split at ok
  · obtain ⟨shipped, moved, same⟩ := bind_eq_ok.mp ok
    cases same
    exact tracked_of_metadata moved rfl rfl
  · cases ok

theorem tracked_deliver {source : Option String} (ok : order.deliver source now = .ok after) :
    Tracked order after := by
  unfold Order.deliver at ok
  split at ok
  · exact tracked_transitionTo ok
  · cases ok

theorem tracked_cancel {reason : Option String} (ok : order.cancel reason now = .ok after) :
    Tracked order after := by
  unfold Order.cancel at ok
  split at ok
  · obtain ⟨cancelled, moved, same⟩ := bind_eq_ok.mp ok
    cases same
    exact tracked_of_metadata moved rfl rfl
  · cases ok

theorem tracked_returnToOrigin {reason : Option String}
    (ok : order.returnToOrigin reason now = .ok after) : Tracked order after := by
  unfold Order.returnToOrigin at ok
  obtain ⟨returned, moved, same⟩ := bind_eq_ok.mp ok
  cases same
  exact tracked_of_metadata moved rfl rfl

theorem tracked_refund {reason : Option String} (ok : order.refund reason now = .ok after) :
    Tracked order after := by
  unfold Order.refund at ok
  split at ok
  · obtain ⟨refunded, moved, same⟩ := bind_eq_ok.mp ok
    cases same
    exact tracked_of_metadata moved rfl rfl
  · cases ok

theorem kept_reversePayment {reason : Option String}
    (ok : order.reversePayment reason now = .ok after) : Tracked order after := by
  unfold Order.reversePayment at ok
  split at ok
  · cases ok
    exact .kept rfl rfl
  · cases ok

theorem kept_partialRefund {amount : Int} {reason : Option String}
    (ok : order.partialRefund amount reason now = .ok after) : Tracked order after := by
  unfold Order.partialRefund at ok
  split at ok
  · cases ok
    exact .kept rfl rfl
  · cases ok

theorem kept_recordPartialAcceptance {returned : List (Int × Int)} {reason : Option String}
    {summary : PartialAcceptance}
    (ok : order.recordPartialAcceptance returned reason now = .ok (after, summary)) :
    Tracked order after := by
  unfold Order.recordPartialAcceptance at ok
  split at ok
  · cases ok
  · obtain ⟨lines, -, same⟩ := bind_eq_ok.mp ok
    cases same
    exact .kept rfl rfl

omit now in
theorem flagged_frame (paid : Order) (late : Bool) (paymentId : String)
    (paymentMethod : Option String) (now : Time) :
    let flagged := if late then paid.flagPaymentAfterCancel paymentId paymentMethod now else paid
    (flagged.touch now).status = paid.status ∧
      (flagged.touch now).statusHistory = paid.statusHistory := by
  cases late <;> exact ⟨rfl, rfl⟩

theorem tracked_markAsPaid_deposit {paymentId : String} {paymentMethod : Option String}
    (deposit : order.paysDeposit = true)
    (ok : order.markAsPaid paymentId paymentMethod now = .ok after) : Tracked order after := by
  obtain ⟨paid, step, same⟩ := bind_eq_ok.mp ok
  cases same
  have frame := flagged_frame paid order.closed paymentId paymentMethod now
  unfold Order.recordPayment at step
  rw [if_pos deposit] at step
  simp only at step
  split at step
  · cases step
    exact .kept frame.2 frame.1
  · have moved : Tracked order paid := (tracked_transitionTo step).of_source rfl rfl
    exact moved.of_frame frame.1 frame.2

theorem markAsPaid_isOk (order : Order) (paymentId : String) (paymentMethod : Option String)
    (now : Time) (full : order.paysDeposit = false) :
    ∃ after, order.markAsPaid paymentId paymentMethod now = .ok after := by
  simp [Order.markAsPaid, Order.recordPayment, full, bind, Except.bind, pure, Except.pure]

theorem markAsPaid_full {paymentId : String} {paymentMethod : Option String}
    (full : order.paysDeposit = false)
    (ok : order.markAsPaid paymentId paymentMethod now = .ok after) :
    after.statusHistory = order.statusHistory ∧
      after.status =
        if order.status ∈ preFulfilmentStatuses then .processing else order.status := by
  obtain ⟨paid, step, same⟩ := bind_eq_ok.mp ok
  cases same
  have frame := flagged_frame paid order.closed paymentId paymentMethod now
  unfold Order.recordPayment at step
  rw [full] at step
  cases step
  exact ⟨frame.2, frame.1⟩

end StatusMethods

inductive OrderOp where
  | transitionTo (newStatus : OrderStatus) (reason source : Option String)
  | confirm
  | startProcessing
  | ship (trackingNumber trackingUrl source : Option String)
  | deliver (source : Option String)
  | cancel (reason : Option String)
  | returnToOrigin (reason : Option String)
  | refund (reason : Option String)
  | markAsPaid (paymentId : String) (paymentMethod : Option String)
  | markPaymentFailed (reason : Option String)
  | reversePayment (reason : Option String)
  | partialRefund (amount : Int) (reason : Option String)
  | recordPartialAcceptance (returned : List (Int × Int)) (reason : Option String)

def Order.apply (order : Order) (now : Time) : OrderOp → Except String Order
  | .transitionTo newStatus reason source => order.transitionTo newStatus reason source now
  | .confirm => order.confirm now
  | .startProcessing => order.startProcessing now
  | .ship number url source => order.ship number url source now
  | .deliver source => order.deliver source now
  | .cancel reason => order.cancel reason now
  | .returnToOrigin reason => order.returnToOrigin reason now
  | .refund reason => order.refund reason now
  | .markAsPaid paymentId paymentMethod => order.markAsPaid paymentId paymentMethod now
  | .markPaymentFailed reason => .ok (order.markPaymentFailed reason now)
  | .reversePayment reason => order.reversePayment reason now
  | .partialRefund amount reason => order.partialRefund amount reason now
  | .recordPartialAcceptance returned reason =>
      (order.recordPartialAcceptance returned reason now).map Prod.fst

inductive OrderStep where
  | entity (op : OrderOp) (now : Time)
  | updateStatus (replies : Nat → Reply) (store : Option Store) (orderId : UUID)
      (dto : UpdateOrderStatusDTO) (storeId userId : UUID) (now : Time)

/-- An order with the stock its cancellation would give back to. -/
structure Held where
  inventory : Inventory
  order : Order

def step [TextCase] (held : Held) : OrderStep → Held
  | .entity op now => { held with order := orKeep held.order (held.order.apply now op) }
  | .updateStatus replies store orderId dto storeId userId now =>
      let found := if orderId = held.order.id then some held.order else none
      match execute held.inventory replies store found orderId dto storeId userId now with
      | .error _ => held
      | .ok update => ⟨update.inventory, update.order⟩

/-- The steps that write the status without going through `transition_to`. -/
def writesStatusDirectly (order : Order) : OrderStep → Bool
  | .entity (.markAsPaid _ _) _ =>
      !order.paysDeposit && order.status ∈ preFulfilmentStatuses
  | .updateStatus _ store orderId dto storeId userId _ =>
      store.map Store.ownerId = some userId && orderId = order.id && order.storeId = storeId &&
        order.status ∉ endedStatuses && OrderStatus.ofValue dto.status ≠ some order.status &&
        OrderStatus.ofValue dto.status ∈
          [some .draft, some .pendingDeposit, some .awaitingPayment, some .pending]
  | _ => false

theorem apply_tracked {order after : Order} {op : OrderOp} {now : Time}
    (recorded : writesStatusDirectly order (.entity op now) = false)
    (ok : order.apply now op = .ok after) : Tracked order after := by
  cases op with
  | transitionTo newStatus reason source => exact tracked_transitionTo ok
  | confirm => exact tracked_confirm ok
  | startProcessing => exact tracked_startProcessing ok
  | ship number url source => exact tracked_ship ok
  | deliver source => exact tracked_deliver ok
  | cancel reason => exact tracked_cancel ok
  | returnToOrigin reason => exact tracked_returnToOrigin ok
  | refund reason => exact tracked_refund ok
  | markAsPaid paymentId paymentMethod =>
      cases deposit : order.paysDeposit with
      | true => exact tracked_markAsPaid_deposit deposit ok
      | false =>
          have late : order.status ∉ preFulfilmentStatuses := by
            simpa [writesStatusDirectly, deposit] using recorded
          have full := markAsPaid_full deposit ok
          rw [if_neg late] at full
          exact .kept full.1 full.2
  | markPaymentFailed reason =>
      cases ok
      exact .kept rfl rfl
  | reversePayment reason => exact kept_reversePayment ok
  | partialRefund amount reason => exact kept_partialRefund ok
  | recordPartialAcceptance returned reason =>
      cases accepted : order.recordPartialAcceptance returned reason now with
      | error message => simp [Order.apply, accepted, Except.map] at ok
      | ok pair =>
          simp only [Order.apply, accepted, Except.map, Except.ok.injEq] at ok
          obtain ⟨kept, summary⟩ := pair
          simp only at ok
          exact ok ▸ kept_recordPartialAcceptance accepted

theorem setStatus_ok {order after : Order} {newStatus : OrderStatus} {now : Time}
    (ok : setStatus order newStatus now = .ok after) :
    order.status ∉ endedStatuses ∧ after.status = newStatus ∧
      after.statusHistory = order.statusHistory := by
  unfold setStatus at ok
  split at ok
  · cases ok
  · rename_i accepted
    cases ok
    refine ⟨?_, rfl, rfl⟩
    intro ended
    apply accepted
    refine ⟨ended, ?_⟩
    simp only [endedStatuses, List.mem_cons, List.not_mem_nil, or_false] at ended
    rcases ended with status | status | status <;>
      simp [Order.canTransitionTo, status, validStatusTransitions]

theorem directStatus_mem {parsed : Option OrderStatus}
    (target : parsed ∈ [some OrderStatus.draft, some .pendingDeposit, some .awaitingPayment,
      some .pending]) :
    ∃ newStatus, parsed = some newStatus ∧
      newStatus ∈ [OrderStatus.draft, .pendingDeposit, .awaitingPayment, .pending] := by
  simp only [List.mem_cons, List.not_mem_nil, or_false] at target
  rcases target with rfl | rfl | rfl | rfl <;> exact ⟨_, rfl, by decide⟩

theorem applyStatus_tracked {order after : Order} {newStatus : OrderStatus}
    {dto : UpdateOrderStatusDTO} {now : Time}
    (recorded : newStatus ∉ [OrderStatus.draft, .pendingDeposit, .awaitingPayment, .pending])
    (ok : applyStatus order newStatus dto now = .ok after) : Tracked order after := by
  cases newStatus with
  | confirmed => exact tracked_confirm ok
  | processing => exact tracked_startProcessing ok
  | shipped => exact tracked_ship ok
  | delivered => exact tracked_deliver ok
  | cancelled => exact tracked_cancel ok
  | returned => exact tracked_returnToOrigin ok
  | refunded => exact tracked_refund ok
  | paymentFailed =>
      cases ok
      exact .kept rfl rfl
  | draft => simp at recorded
  | pendingDeposit => simp at recorded
  | awaitingPayment => simp at recorded
  | pending => simp at recorded

theorem applyStatus_direct {newStatus : OrderStatus}
    (direct : newStatus ∈ [OrderStatus.draft, .pendingDeposit, .awaitingPayment, .pending])
    (order : Order) (dto : UpdateOrderStatusDTO) (now : Time) :
    applyStatus order newStatus dto now = setStatus order newStatus now := by
  simp only [List.mem_cons, List.not_mem_nil, or_false] at direct
  rcases direct with rfl | rfl | rfl | rfl <;> rfl

section Steps
variable [TextCase]

theorem step_tracked (held : Held) (a : OrderStep)
    (recorded : writesStatusDirectly held.order a = false) :
    Tracked held.order (step held a).order := by
  cases a with
  | entity op now =>
      exact orKeep_of_ok (.kept rfl rfl) fun after ok => apply_tracked recorded ok
  | updateStatus replies store orderId dto storeId userId now =>
      simp only [step]
      split
      · exact .kept rfl rfl
      · rename_i update ok
        rcases execute_ok ok with
          ⟨order, newStatus, changed, owner, found, mine, parsed, applied, restocked⟩
        have frame := restockClosed_frame held.inventory replies changed newStatus dto.reason now
        rw [← restocked] at frame
        rcases frame with ⟨status, history⟩
        split at found
        · rename_i same
          cases found
          by_cases direct :
              newStatus ∈ [OrderStatus.draft, .pendingDeposit, .awaitingPayment, .pending]
          · rw [applyStatus_direct direct] at applied
            obtain ⟨running, set, sameHistory⟩ := setStatus_ok applied
            have unchanged : newStatus = held.order.status := by
              by_contra changes
              simp [writesStatusDirectly, owner, same, mine, running, parsed, changes] at recorded
              simp at direct
              tauto
            exact .kept (history.trans sameHistory) (status.trans (set.trans unchanged))
          · exact (applyStatus_tracked direct applied).of_frame status history
        · cases found

/-- A direct write changes the status and leaves the history alone. -/
theorem step_direct (held : Held) (a : OrderStep)
    (direct : writesStatusDirectly held.order a = true) :
    (step held a).order.statusHistory = held.order.statusHistory ∧
      (step held a).order.status ≠ held.order.status := by
  cases a with
  | entity op now =>
      cases op with
      | markAsPaid paymentId paymentMethod =>
          simp only [writesStatusDirectly, Bool.and_eq_true, Bool.not_eq_true',
            decide_eq_true_eq] at direct
          obtain ⟨full, early⟩ := direct
          obtain ⟨after, paid⟩ := markAsPaid_isOk held.order paymentId paymentMethod now full
          have outcome := markAsPaid_full full paid
          rw [if_pos early] at outcome
          simp only [step, Order.apply, paid, orKeep]
          refine ⟨outcome.1, ?_⟩
          rw [outcome.2]
          intro already
          rw [← already] at early
          exact absurd early (by decide)
      | _ => simp [writesStatusDirectly] at direct
  | updateStatus replies store orderId dto storeId userId now =>
      simp only [writesStatusDirectly, Bool.and_eq_true, decide_eq_true_eq] at direct
      obtain ⟨⟨⟨⟨⟨owner, same⟩, mine⟩, running⟩, changes⟩, target⟩ := direct
      obtain ⟨found, rfl, owns⟩ := Option.map_eq_some_iff.mp owner
      obtain ⟨newStatus, parsed, listed⟩ := directStatus_mem target
      rw [parsed, ne_eq, Option.some.injEq] at changes
      have applied : applyStatus held.order newStatus dto now =
          .ok ({ held.order with status := newStatus }.touch now) := by
        rw [applyStatus_direct listed, setStatus, if_neg (fun refused => running refused.1)]
      obtain ⟨update, ok, status, history⟩ :=
        execute_accepted orderId owns mine parsed applied held.inventory replies
      simp only [step, if_pos same, ok]
      exact ⟨history, by rw [status]; exact changes⟩

/-- Along a run from a new order the history stays a connected chain exactly when
no step writes the status directly once the history has an entry. -/
theorem historyConnected_iff (held : Held) (fresh : held.order.statusHistory = [])
    (steps : List OrderStep) :
    Run.Always step (fun held => HistoryConnected held.order) held steps ↔
      Run.Guarded step
        (fun held a => held.order.statusHistory = [] ∨ writesStatusDirectly held.order a = false)
        held steps := by
  apply Run.always_iff_guarded (I := fun held => HistoryConnected held.order)
  · intro held a connected admitted
    cases direct : writesStatusDirectly held.order a with
    | false => exact (step_tracked held a direct).connected connected
    | true =>
        have empty : held.order.statusHistory = [] := by simpa [direct] using admitted
        rw [HistoryConnected, (step_direct held a direct).1, empty]
        exact Journal.nil
  · exact fun held connected => connected
  · intro held a connected stillConnected
    cases direct : writesStatusDirectly held.order a with
    | false => exact .inr rfl
    | true =>
        left
        obtain ⟨history, status⟩ := step_direct held a direct
        rw [HistoryConnected, history] at stillConnected
        by_contra nonempty
        exact status (stillConnected.current_unique connected nonempty)
  · rw [HistoryConnected, fresh]
    exact Journal.nil

end Steps

/-- A pending order without stock behind it. -/
def pendingOrder : Held where
  inventory := ⟨.empty, .empty, .empty⟩
  order := { total := 10000 }

def paidOnConfirmation : List OrderStep :=
  [.entity .confirm 1, .entity (.markAsPaid "txn-1" none) 2]

theorem historyConnected_iff_shipping :
    letI := TextCase.ascii
    Run.Always step (fun held => HistoryConnected held.order) pendingOrder
      [.entity .confirm 1, .entity .startProcessing 2, .entity (.ship none none none) 3] := by
  let _ := TextCase.ascii
  exact (historyConnected_iff pendingOrder rfl _).mpr (by decide)

/-- The payment moves the confirmed order to processing without a history entry. -/
theorem history_breaks_on_payment :
    letI := TextCase.ascii
    ¬ Run.Always step (fun held => HistoryConnected held.order) pendingOrder
      paidOnConfirmation := by
  let _ := TextCase.ascii
  intro always
  have last := always.last.ends ⟨.pending, .confirmed, 1, some "confirmed", none⟩ rfl
  exact absurd last (by decide)

end Numu.Orders
