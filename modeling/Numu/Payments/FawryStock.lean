import Numu.Foundation.Outcome
import Numu.Foundation.Run
import Numu.Orders.OrderRepository
import Numu.Payments.Webhooks

/-! Runs of Fawry callbacks on one order: its status, its stock and its money. -/

namespace Numu.Payments
open Numu.Orders
open Numu.Outcome (bind_eq_ok)
open Numu.Stock (Inventory Reply TextCase manifest restockLines)

section
variable [TextCase]

/-- The lines a release puts back on the shelf. -/
def releasedLines (inv : Inventory) (replies : Nat → Reply) (order : Order) : List StockLine :=
  if manifest order ≠ [] then
    if releaseSkipped order then []
    else (restockLines order.tenantId inv replies (manifest order)).putBack
  else
    (order.lineItems.filter fun item => (inv.product? order.tenantId item.productId).isSome).map
      fun item => ⟨item.productId, none, none, item.quantity⟩

/-- `handle_canceled` gets past its guard. -/
def cancels (order : Order) : Bool :=
  order.status ∈ canceledValidPrior && order.paymentStatus ≠ .paid

def releases (order : Order) (callback : FawryCallback) : Bool :=
  callback.orderStatus = .expired && order.status ∈ expiredValidPrior ||
    callback.orderStatus = .canceled && cancels order

structure FawryDelivery where
  callback : FawryCallback
  replies : Nat → Reply
  now : Time

structure FawryState where
  inventory : Inventory
  order : Order
  /-- How many releases have put stock of the order back. -/
  givenBack : Nat := 0
  /-- A callback has cancelled the order although money for it had arrived. -/
  cancelledReceived : Bool := false

/-- The next state of a delivery that gets through. -/
def delivered (state : FawryState) (delivery : FawryDelivery) (inventory : Inventory)
    (row : Order) : FawryState where
  inventory := inventory
  order := row
  givenBack := state.givenBack +
    if releases state.order delivery.callback &&
      releasedLines state.inventory delivery.replies state.order ≠ [] then 1 else 0
  cancelledReceived := state.cancelledReceived ||
    received state.order && state.order.status ≠ .cancelled && row.status = .cancelled

def fawryStep (state : FawryState) (delivery : FawryDelivery) : FawryState :=
  match fawryCallback state.inventory delivery.replies state.order delivery.callback
      delivery.now with
  | .ok (some (inventory, row)) => delivered state delivery inventory row
  | _ => state

/-- Stock and money of the order agree with its status. -/
def Consistent (state : FawryState) : Prop :=
  (state.order.status = .confirmed → state.givenBack = 0) ∧ state.givenBack ≤ 1 ∧
    state.cancelledReceived = false

instance (state : FawryState) : Decidable (Consistent state) :=
  inferInstanceAs (Decidable (_ ∧ _ ∧ _))

/-- No payment revives an order whose stock went back, and no cancellation meets
an order that money has arrived for. -/
def Timely (state : FawryState) (delivery : FawryDelivery) : Prop :=
  delivery.callback.passes = true →
    (delivery.callback.orderStatus = .paid → state.order.status = .paymentFailed →
      state.givenBack = 0) ∧
    (delivery.callback.orderStatus = .canceled → cancels state.order = true →
      releaseRaises state.inventory delivery.replies state.order = false →
      received state.order = false)

instance (state : FawryState) (delivery : FawryDelivery) : Decidable (Timely state delivery) :=
  inferInstanceAs (Decidable (_ → (_ → _ → _) ∧ (_ → _ → _ → _)))

end

/-- The stock of an order that can still be confirmed, or is, has stayed out. -/
structure StockOut (state : FawryState) : Prop where
  out : state.order.status ∈ [OrderStatus.pending, .pendingDeposit, .confirmed] →
    state.givenBack = 0
  once : state.givenBack ≤ 1
  honoured : state.cancelledReceived = false

theorem StockOut.consistent {state : FawryState} (stock : StockOut state) : Consistent state :=
  ⟨fun confirmed => stock.out (by simp [confirmed]), stock.once, stock.honoured⟩

/-- Where a callback that gets through takes the status of the order. -/
inductive Moves (order row : Order) (callback : FawryCallback) : Prop where
  | confirmed (paid : callback.orderStatus = .paid) (prior : order.status ∈ paidValidPrior)
      (status : row.status = .confirmed)
  | failed (expired : callback.orderStatus = .expired) (prior : order.status ∈ expiredValidPrior)
      (status : row.status = .paymentFailed)
  | cancelled (canceled : callback.orderStatus = .canceled) (prior : cancels order = true)
      (status : row.status = .cancelled)
  | kept (idle : releases order callback = false)
      (unpaid : callback.orderStatus = .paid → order.status ∉ paidValidPrior)
      (status : row.status = order.status)

section
variable [TextCase] {inv after : Inventory} {replies : Nat → Reply} {order row : Order} {now : Time}

theorem releaseInventory_status
    (ok : releaseInventory inv replies order now = .ok (after, row)) : row.status = order.status := by
  unfold releaseInventory at ok
  split_ifs at ok <;> cases ok <;> rfl

theorem fawryEvent_moves {callback : FawryCallback}
    (ok : fawryEvent inv replies order callback now = .ok (after, row)) :
    Moves order row callback := by
  unfold fawryEvent at ok
  cases kind : callback.orderStatus with
  | paid =>
      simp only [kind, Except.ok.injEq, Prod.mk.injEq] at ok
      obtain ⟨-, rfl⟩ := ok
      by_cases prior : order.status ∈ paidValidPrior
      · refine .confirmed kind prior ?_
        simp only [handlePaid, prior, not_true, if_false]
        split <;> rfl
      · exact .kept (by simp [releases, kind]) (fun _ => prior) (by simp [handlePaid, prior])
  | expired =>
      simp only [kind] at ok
      unfold handleExpired at ok
      split at ok
      · rename_i late
        cases ok
        exact .kept (by simp [releases, kind, late]) (by simp [kind]) rfl
      · rename_i prior
        exact .failed kind (not_not.mp prior) (releaseInventory_status ok)
  | canceled =>
      simp only [kind] at ok
      unfold handleCanceled at ok
      split at ok
      · rename_i late
        cases ok
        refine .kept ?_ (by simp [kind]) rfl
        simp only [releases, kind, cancels]
        rcases late with status | paid
        · simp [status]
        · simp [paid]
      · rename_i prior
        rw [not_or, not_not] at prior
        obtain ⟨⟨released, stamped⟩, step, same⟩ := bind_eq_ok.mp ok
        cases same
        exact .cancelled kind (by simp [cancels, prior]) (releaseInventory_status step)
  | refunded =>
      simp only [kind, Except.ok.injEq, Prod.mk.injEq] at ok
      obtain ⟨-, rfl⟩ := ok
      refine .kept (by simp [releases, kind]) (by simp [kind]) ?_
      unfold handleRefunded
      split <;> rfl
  | new =>
      simp only [kind] at ok
      cases ok
      exact .kept (by simp [releases, kind]) (by simp [kind]) rfl
  | unknown =>
      simp only [kind] at ok
      cases ok
      exact .kept (by simp [releases, kind]) (by simp [kind]) rfl

theorem fawryStep_cases (state : FawryState) (delivery : FawryDelivery) :
    fawryStep state delivery = state ∨
      ∃ inventory row, delivery.callback.passes = true ∧
        fawryEvent state.inventory delivery.replies state.order delivery.callback delivery.now =
          .ok (inventory, row) ∧
        fawryStep state delivery = delivered state delivery inventory row := by
  unfold fawryStep
  split
  · rename_i inventory row ok
    obtain ⟨passes, event⟩ := fawryCallback_ok_iff.mp ok
    exact .inr ⟨inventory, row, passes, event, rfl⟩
  · exact .inl rfl

theorem releaseInventory_raises
    (ok : releaseInventory inv replies order now = .ok (after, row)) :
    releaseRaises inv replies order = false := by
  unfold releaseInventory at ok
  split at ok
  · split at ok
    · rename_i skipped
      simp [releaseRaises, skipped]
    · split at ok
      · cases ok
      · rename_i quiet
        exact eq_false_of_ne_true quiet
  · rename_i noManifest
    simp [releaseRaises, noManifest]

theorem releaseInventory_isOk (order : Order) (quiet : releaseRaises inv replies order = false) (now : Time) :
    ∃ result, releaseInventory inv replies order now = .ok result := by
  unfold releaseInventory
  split
  · split
    · exact ⟨_, rfl⟩
    · rw [if_neg (by simp [quiet])]
      exact ⟨_, rfl⟩
  · exact ⟨_, rfl⟩

theorem handleCanceled_raises (prior : cancels order = true)
    (ok : handleCanceled inv replies order now = .ok (after, row)) :
    releaseRaises inv replies order = false := by
  unfold handleCanceled at ok
  simp only [cancels, Bool.and_eq_true, decide_eq_true_eq] at prior
  rw [if_neg (by simp [prior])] at ok
  obtain ⟨⟨released, stamped⟩, step, -⟩ := bind_eq_ok.mp ok
  have quiet := releaseInventory_raises step
  exact quiet

theorem handleCanceled_isOk (prior : cancels order = true)
    (quiet : releaseRaises inv replies order = false) (now : Time) :
    ∃ result, handleCanceled inv replies order now = .ok result := by
  simp only [cancels, Bool.and_eq_true, decide_eq_true_eq] at prior
  unfold handleCanceled
  rw [if_neg (by simp [prior])]
  obtain ⟨⟨released, stamped⟩, step⟩ := releaseInventory_isOk
    { order with status := .cancelled, paymentStatus := .failed, cancelledAt := some now } quiet now
  exact ⟨_, bind_eq_ok.mpr ⟨_, step, rfl⟩⟩

theorem stockOut_delivered {state : FawryState} {delivery : FawryDelivery}
    (stock : StockOut state) (timely : Timely state delivery)
    (passes : delivery.callback.passes = true)
    (event : fawryEvent state.inventory delivery.replies state.order delivery.callback delivery.now =
      .ok (after, row)) : StockOut (delivered state delivery after row) := by
  obtain ⟨noRevival, noCancellation⟩ := timely passes
  cases fawryEvent_moves event with
  | confirmed paid prior status =>
      have idle : releases state.order delivery.callback = false := by simp [releases, paid]
      have out : state.givenBack = 0 := by
        simp only [paidValidPrior, List.mem_cons, List.not_mem_nil, or_false] at prior
        rcases prior with pending | failed | waiting
        · exact stock.out (by simp [pending])
        · exact noRevival paid failed
        · exact stock.out (by simp [waiting])
      refine ⟨fun _ => ?_, ?_, ?_⟩
      · simp [delivered, idle, out]
      · simp [delivered, idle, out]
      · simp [delivered, status, stock.honoured]
  | failed expired prior status =>
      have out : state.givenBack = 0 := by
        simp only [expiredValidPrior, List.mem_singleton] at prior
        exact stock.out (by simp [prior])
      refine ⟨fun open_ => ?_, ?_, ?_⟩
      · simp [delivered, status] at open_
      · simp only [delivered, out]
        split <;> omega
      · simp [delivered, status, stock.honoured]
  | cancelled canceled prior status =>
      have listed : state.order.status ∈ canceledValidPrior := by
        simp only [cancels, Bool.and_eq_true, decide_eq_true_eq] at prior
        exact prior.1
      have out : state.givenBack = 0 := by
        simp only [canceledValidPrior, List.mem_cons, List.not_mem_nil, or_false] at listed
        rcases listed with pending | confirmed
        · exact stock.out (by simp [pending])
        · exact stock.out (by simp [confirmed])
      have quiet : releaseRaises state.inventory delivery.replies state.order = false := by
        simp only [fawryEvent, canceled] at event
        exact handleCanceled_raises prior event
      refine ⟨fun open_ => ?_, ?_, ?_⟩
      · simp [delivered, status] at open_
      · simp only [delivered, out]
        split <;> omega
      · simp [delivered, stock.honoured, noCancellation canceled prior quiet]
  | kept idle unpaid status =>
      refine ⟨fun open_ => ?_, ?_, ?_⟩
      · simp only [delivered, status] at open_
        simp [delivered, idle, stock.out open_]
      · simp [delivered, idle, stock.once]
      · simp [delivered, status, stock.honoured]

theorem timely_of_consistent {state : FawryState} {delivery : FawryDelivery}
    (consistent : Consistent (fawryStep state delivery)) : Timely state delivery := by
  intro passes
  have step {result : Inventory × Order}
      (event : fawryEvent state.inventory delivery.replies state.order delivery.callback
        delivery.now = .ok result) :
      fawryStep state delivery = delivered state delivery result.1 result.2 := by
    simp only [fawryStep, fawryCallback_ok_iff.mpr ⟨passes, event⟩]
  refine ⟨fun paid failed => ?_, fun canceled prior quiet => ?_⟩
  · have event : fawryEvent state.inventory delivery.replies state.order delivery.callback
        delivery.now = .ok (state.inventory, handlePaid state.order delivery.callback delivery.now) := by
      simp only [fawryEvent, paid]
    rw [step event] at consistent
    have confirmed : (handlePaid state.order delivery.callback delivery.now).status =
        .confirmed := by
      simp [handlePaid, failed, paidValidPrior]
    have none_ := consistent.1 confirmed
    simp only [delivered] at none_
    omega
  · obtain ⟨⟨inventory, row⟩, ok⟩ := handleCanceled_isOk prior quiet delivery.now
    have event : fawryEvent state.inventory delivery.replies state.order delivery.callback
        delivery.now = .ok (inventory, row) := by
      simp only [fawryEvent, canceled]
      exact ok
    rw [step event] at consistent
    have status : row.status = .cancelled := by
      cases fawryEvent_moves event with
      | cancelled canceled prior status => exact status
      | confirmed paid _ _ => simp [canceled] at paid
      | failed expired _ _ => simp [canceled] at expired
      | kept idle _ _ => simp [releases, canceled, prior] at idle
    have open_ : state.order.status ≠ .cancelled := by
      intro closed
      simp [cancels, closed, canceledValidPrior] at prior
    have honoured := consistent.2.2
    simp only [delivered, status, open_, ne_eq, not_false_eq_true, decide_true, Bool.and_true,
      Bool.or_eq_false_iff] at honoured
    exact honoured.2

/-- Along a run of Fawry callbacks from an order whose stock is out, stock and money
stay consistent with the status exactly when every callback is timely. -/
theorem consistent_iff_timely (state : FawryState) (out : state.givenBack = 0)
    (honoured : state.cancelledReceived = false) (deliveries : List FawryDelivery) :
    Run.Always fawryStep Consistent state deliveries ↔
      Run.Guarded fawryStep Timely state deliveries := by
  apply Run.always_iff_guarded (I := StockOut)
  · intro state delivery stock timely
    rcases fawryStep_cases state delivery with same | ⟨inventory, row, passes, event, next⟩
    · rw [same]
      exact stock
    · rw [next]
      exact stockOut_delivered stock timely passes event
  · exact fun state stock => stock.consistent
  · exact fun state delivery _ consistent => timely_of_consistent consistent
  · exact ⟨fun _ => out, by omega, honoured⟩

end
/-- A pending order of two pieces that checkout took off the shelf. -/
def fawryOrder : FawryState where
  inventory := ⟨⟨[(1, ⟨7, 3, none⟩)], by decide⟩, .empty, .empty⟩
  order := {
    tenantId := some 7
    total := 10000
    paymentId := some "ref-1"
    metadata := { stockDebited := some [⟨1, none, none, 2⟩] } }

def fawryDelivery (status : FawryStatus) (now : Time) : FawryDelivery where
  callback := {
    merchantRefNumber := some "ref-1"
    referenceNumber := some "963"
    orderStatus := status
    paymentAmount := (100 : Nat) }
  replies := fun _ => ⟨.stored, false⟩
  now := now

theorem consistent_paid_refunded_canceled :
    letI := TextCase.ascii
    Run.Always fawryStep Consistent fawryOrder
      [fawryDelivery .paid 1, fawryDelivery .refunded 2, fawryDelivery .canceled 3] := by
  let _ := TextCase.ascii
  exact (consistent_iff_timely fawryOrder rfl rfl _).mpr (by decide)

/-- A payment that arrives after the expiry confirms an order whose stock went back. -/
theorem late_payment_inconsistent :
    letI := TextCase.ascii
    ¬ Run.Always fawryStep Consistent fawryOrder
      [fawryDelivery .expired 1, fawryDelivery .paid 2] := by
  let _ := TextCase.ascii
  intro always
  exact absurd (always.last.1 rfl) (by decide)

end Numu.Payments
