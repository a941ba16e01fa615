import Numu.Foundation.Run
import Numu.Shipping.BostaCallback

/-!
The webhook that serves every carrier, for Bosta's events, beside Bosta's own callback. It finds the
same rows, applies the same status to the shipment, and saves the order with a tracking link only.
-/

namespace Numu.Shipping
open Numu.Orders
open Numu.Invoices (UpperCase)
open Numu.Outcome (bind_eq_ok)
open Numu.Stock (Inventory Reply Restocked SameGoods TextCase manifest outstanding raises
  restockLines_idle_iff restockLines_raised tryRestockOrder)
open ReportRun (Columns Entry columns)

/-- `tracking_url_template` of Bosta. -/
def bostaTrackingUrl (trackingNumber : String) : String :=
  s!"https://bosta.co/tracking-shipment/?tracking_number={trackingNumber}"

namespace BostaEvent

/-- The amount as `parse_bosta` reads it. `none` is an exception. -/
def parsedAmount (event : BostaEvent) : Option (Option FloatValue) :=
  match event.codAmount with
  | none => some none
  | some amount => amount.toFloat

/-- The amount of a delivery that the callback cannot store. -/
def Unreadable (event : BostaEvent) : Prop :=
  event.state = "DELIVERED" ∧ ∃ amount ∈ event.codAmount, amount.truthy = true ∧ amount.cents = none

/-- What is entered for a status: the status, and the cents that it collects. -/
def entered (status : ShipmentStatus) (codAmount : Option CodAmount) :
    Option (ShipmentStatus × Option Int) :=
  if status = .delivered then
    match codAmount.filter CodAmount.truthy with
    | none => some (status, none)
    | some amount => amount.cents.map fun cents => (status, some cents)
  else some (status, none)

def callbackReading (event : BostaEvent) : Option (ShipmentStatus × Option Int) :=
  (bostaStatusMap.lookup event.state).bind fun status => entered status event.codAmount

def webhookReading [UpperCase] [TextCase] (event : BostaEvent) :
    Option (ShipmentStatus × Option Int) :=
  event.parsedAmount.bind fun amount =>
    (mapCarrierStatus "bosta" event.state).bind fun status => entered status (amount.map .float)

end BostaEvent

/-- The columns of a shipment after a reading of an event. -/
def enter (now : Time) (before : Columns) : Option (ShipmentStatus × Option Int) → Columns
  | none => before
  | some (status, none) => { before with status := status }
  | some (status, some cents) => ⟨status, true, cents, some now⟩

namespace Parcel

/-- `carrier_webhook` for the carrier `bosta`. -/
def webhook [UpperCase] [TextCase] (parcel : Parcel) (call : BostaCall) : Parcel :=
  match call.event.parsedAmount, mapCarrierStatus "bosta" call.event.state, parcel.shipment with
  | some amount, some status, some shipment =>
      match applyCarrierStatus shipment "bosta" call.event.state call.event.description
          (amount.map .float) "" status call.now with
      | none => parcel
      | some moved =>
          { parcel with
            order := parcel.order.map fun order =>
              OrderRepository.update order
                { order with trackingUrl := some (bostaTrackingUrl call.event.trackingNumber) }
                call.now
            shipment := some moved }
  | _, _, _ => parcel

/-- What the two endpoints are compared by. -/
@[ext] structure View where
  order : Option (OrderStatus × PaymentStatus)
  shipment : Option Columns
  inventory : Inventory

def orderView (order : Order) : OrderStatus × PaymentStatus := (order.status, order.paymentStatus)

def view (parcel : Parcel) : View where
  order := parcel.order.map orderView
  shipment := parcel.shipment.map columns
  inventory := parcel.inventory

/-- Bosta's branch has nothing to move, to pay or to put back for the order. -/
structure Stands (inv : Inventory) (replies : Nat → Reply) (event : BostaEvent) (order : Order) :
    Prop where
  delivered : event.state = "DELIVERED" → order.status ≠ .shipped ∧
    (event.paid = true → order.isPaid = true ∨ order.closed = true ∧ order.paysDeposit = true)
  pickedUp : event.state = "PICKED_UP" → order.status ≠ .processing ∧ order.status ≠ .confirmed
  returned : event.state = "RETURNED" → order.canBeCancelled = false ∧ order.status ≠ .shipped ∧
    (Restockable replies order → ∀ line ∈ outstanding order,
      line.quantity = 0 ∨ inv.product? order.tenantId line.productId = none)
  cancelled : event.state = "CANCELLED" → order.canBeCancelled = false

/-- The request goes through. -/
def Readable (parcel : Parcel) (call : BostaCall) : Prop :=
  parcel.shipment = none ∨ ¬ call.event.Unreadable

/-- The order has nothing to gain from Bosta's own callback, and both endpoints read the same off
the event for the shipment. -/
structure Alike [UpperCase] [TextCase] (parcel : Parcel) (call : BostaCall) : Prop where
  order : parcel.Readable call →
    ∀ order ∈ parcel.order, Stands parcel.inventory call.replies call.event order
  shipment : ∀ shipment ∈ parcel.shipment,
    enter call.now (columns shipment) call.event.callbackReading =
      enter call.now (columns shipment) call.event.webhookReading

section Shipment
variable {event : BostaEvent}

theorem columns_entered (shipment : Shipment) (status : ShipmentStatus)
    (codAmount : Option CodAmount) (now : Time) :
    Entry.columns ⟨shipment, status, codAmount, now⟩ =
      (BostaEvent.entered status codAmount).map fun reading =>
        enter now (columns shipment) (some reading) := by
  rw [Entry.columns, Entry.collects, BostaEvent.entered]
  by_cases delivered : status = .delivered
  · rw [if_pos delivered, if_pos delivered]
    cases codAmount.filter CodAmount.truthy with
    | none => rfl
    | some amount =>
        dsimp only
        rw [Option.map_map]
        rfl
  · rw [if_neg delivered, if_neg delivered]
    rfl

theorem entered_eq_none_iff {status : ShipmentStatus} {codAmount : Option CodAmount} :
    BostaEvent.entered status codAmount = none ↔
      status = .delivered ∧ ∃ amount ∈ codAmount, amount.truthy = true ∧ amount.cents = none := by
  rw [BostaEvent.entered]
  by_cases delivered : status = .delivered
  · cases codAmount with
    | none => simp [delivered]
    | some amount =>
        cases truthy : amount.truthy with
        | false => simp [delivered, truthy, Option.filter_some]
        | true => simp [delivered, truthy, Option.filter_some]
  · simp [delivered]

theorem unreadable_iff {status : ShipmentStatus}
    (means : bostaStatusMap.lookup event.state = some status) :
    event.Unreadable ↔ BostaEvent.entered status event.codAmount = none := by
  have delivered := ReportRun.bosta_named.delivered event.state
  rw [means, Option.some.injEq] at delivered
  rw [entered_eq_none_iff, BostaEvent.Unreadable, delivered]

theorem callbackReading_raises (raises : event.Unreadable) : event.callbackReading = none := by
  have means : bostaStatusMap.lookup event.state = some .delivered :=
    (ReportRun.bosta_named.delivered event.state).mpr raises.1
  rw [BostaEvent.callbackReading, means, Option.bind_some, (unreadable_iff means).mp raises]

theorem bostaCallback_raises (raises : event.Unreadable) (shipment : Shipment) (now : Time) :
    bostaCallback shipment event.state event.codAmount event.failureReason now = none := by
  have means : bostaStatusMap.lookup event.state = some .delivered :=
    (ReportRun.bosta_named.delivered event.state).mpr raises.1
  have entered := ReportRun.bostaCallback_columns shipment event.state event.codAmount
    event.failureReason now
  rw [means] at entered
  dsimp only at entered
  rw [columns_entered, (unreadable_iff means).mp raises, Option.map_none,
    Option.map_eq_none_iff] at entered
  exact entered

theorem bostaCallback_enters (readable : ¬ event.Unreadable) (shipment : Shipment) (now : Time) :
    (bostaCallback shipment event.state event.codAmount event.failureReason now).map columns =
      some (enter now (columns shipment) event.callbackReading) := by
  rw [ReportRun.bostaCallback_columns, BostaEvent.callbackReading]
  cases means : bostaStatusMap.lookup event.state with
  | none => rfl
  | some status =>
      rw [unreadable_iff means] at readable
      obtain ⟨reading, entered⟩ := Option.ne_none_iff_exists'.mp readable
      dsimp only
      rw [columns_entered, Option.bind_some, entered, Option.map_some]

end Shipment

section Order
variable [TextCase] {inv : Inventory} {replies : Nat → Reply} {order : Order} {event : BostaEvent}
  {now : Time}

/-- The order's part leaves what the endpoints are compared by. -/
def Untouched (inv : Inventory) (order : Order) (handled : Restocked) : Prop :=
  orderView handled.order = orderView order ∧ handled.inventory = inv

omit [TextCase] in
theorem recordPayment_ok (order : Order) (paymentId : String) (paymentMethod : Option String)
    (now : Time) :
    ∃ paid, order.recordPayment paymentId paymentMethod now = .ok paid ∧
      orderView paid =
        if order.paysDeposit then
          (if order.closed then order.status else .confirmed, order.paymentStatus)
        else (if order.status ∈ preFulfilmentStatuses then .processing else order.status, .paid) := by
  rw [Order.recordPayment]
  cases deposit : order.paysDeposit with
  | false =>
      simp only [Bool.false_eq_true, if_false]
      exact ⟨_, rfl, rfl⟩
  | true =>
      simp only [if_true]
      cases late : order.closed with
      | true =>
          simp only [if_true]
          exact ⟨_, rfl, rfl⟩
      | false =>
          have waiting : order.status = .pendingDeposit := by
            simpa [Order.paysDeposit, late] using deposit
          simp only [Bool.false_eq_true, if_false]
          exact ⟨_, if_pos (by simp [Order.canTransitionTo, Order.recordDeposit, waiting,
            validStatusTransitions]), rfl⟩

omit [TextCase] in
theorem markAsPaid_ok (order : Order) (paymentId : String) (paymentMethod : Option String)
    (now : Time) :
    ∃ paid, order.markAsPaid paymentId paymentMethod now = .ok paid ∧
      orderView paid =
        if order.paysDeposit then
          (if order.closed then order.status else .confirmed, order.paymentStatus)
        else (if order.status ∈ preFulfilmentStatuses then .processing else order.status, .paid) := by
  obtain ⟨paid, ok, view⟩ := recordPayment_ok order paymentId paymentMethod now
  refine ⟨_, bind_eq_ok.mpr ⟨paid, ok, rfl⟩, ?_⟩
  rw [← view]
  split <;> rfl

omit [TextCase] in
theorem not_cancelled (cancellable : order.canBeCancelled = true) : order.status ≠ .cancelled := by
  intro cancelled
  simp [Order.canBeCancelled, cancelled] at cancellable

omit [TextCase] in
/-- A handled order with another status is not as it was. -/
theorem moved_touches {handled : Restocked} {target : OrderStatus}
    (moved : handled.order.status = target) (other : order.status ≠ target) :
    ¬ Untouched inv order handled := by
  intro untouched
  have same : handled.order.status = order.status := congrArg Prod.fst untouched.1
  exact other (same.symm.trans moved)

omit [TextCase] in
/-- A payment shows on the order unless it is a deposit for one that is closed. -/
theorem bostaCollect_ok (order : Order) (event : BostaEvent) (now : Time) :
    ∃ collected, bostaCollect order event now = .ok collected ∧
      (order.status = .delivered → collected.status = .delivered) ∧
      (orderView collected = orderView order ↔ (event.paid = true →
        order.isPaid = true ∨ order.closed = true ∧ order.paysDeposit = true)) := by
  rw [bostaCollect]
  by_cases unpaid : event.paid = true ∧ order.isPaid = false
  · obtain ⟨paid, ok, view⟩ :=
      markAsPaid_ok order s!"cod-bosta-{event.trackingNumber}" (some "cod") now
    refine ⟨paid, by rw [if_pos unpaid, ok], ?_, ?_⟩
    · intro delivered
      have status := congrArg Prod.fst view
      simpa [Order.paysDeposit, Order.closed, delivered, preFulfilmentStatuses, orderView] using
        status
    · have owed : order.paymentStatus ≠ .paid := by simpa [Order.isPaid] using unpaid.2
      rw [view]
      cases deposit : order.paysDeposit with
      | false => simp [orderView, unpaid, owed.symm]
      | true =>
          cases late : order.closed with
          | false =>
              have waiting : order.status = .pendingDeposit := by
                simpa [Order.paysDeposit, late] using deposit
              simp [orderView, unpaid, waiting]
          | true => simp [orderView]
  · refine ⟨order, if_neg unpaid, id, iff_of_true rfl fun paid => .inl ?_⟩
    simpa [paid] using unpaid

theorem delivered_untouched_iff (delivered : event.state = "DELIVERED") :
    Untouched inv order (logged inv order (bostaOrder inv replies order event now)) ↔
      order.status ≠ .shipped ∧ (event.paid = true →
        order.isPaid = true ∨ order.closed = true ∧ order.paysDeposit = true) := by
  have branch : bostaOrder inv replies order event now =
      (bostaDelivered order event now).map fun saved => ⟨inv, saved, false, []⟩ := by
    simp [bostaOrder, delivered]
  rw [branch, bostaDelivered]
  by_cases shipped : order.status = .shipped
  · have valid : OrderStatus.delivered ∈ validStatusTransitions order.status := by
      simp [shipped, validStatusTransitions]
    obtain ⟨moved, ok⟩ := transitionTo_isOk valid (some "delivered") none now
    obtain ⟨collected, paid, status, -⟩ := bostaCollect_ok moved event now
    have handled : order.deliver none now = .ok moved := by rw [Order.deliver, if_pos shipped, ok]
    rw [if_pos shipped, handled]
    apply iff_of_false
    · have target : collected.status = .delivered := status (transitionTo_ok ok).2.1
      simp only [bind, Except.bind, paid]
      apply moved_touches target
      rw [shipped]
      decide
    · exact fun stands => stands.1 shipped
  · obtain ⟨collected, paid, -, view⟩ := bostaCollect_ok order event now
    rw [if_neg shipped, ← view]
    simp only [bind, Except.bind, paid]
    constructor
    · exact fun untouched => ⟨shipped, untouched.1⟩
    · exact fun stands => ⟨stands.2, rfl⟩

omit [TextCase] in
theorem ship_ok (processing : order.status = .processing) (number : Option String) (now : Time) :
    ∃ shipped, order.ship number none none now = .ok shipped ∧ shipped.status = .shipped := by
  have valid : OrderStatus.shipped ∈ validStatusTransitions order.status := by
    simp [processing, validStatusTransitions]
  obtain ⟨moved, ok⟩ := transitionTo_isOk valid (some "shipped") none now
  rw [Order.ship, if_pos processing]
  exact ⟨_, bind_eq_ok.mpr ⟨moved, ok, rfl⟩, (transitionTo_ok ok).2.1⟩

omit [TextCase] in
theorem startProcessing_ok (confirmed : order.status = .confirmed) (now : Time) :
    ∃ started, order.startProcessing now = .ok started ∧ started.status = .processing := by
  have valid : OrderStatus.processing ∈ validStatusTransitions order.status := by
    simp [confirmed, validStatusTransitions]
  obtain ⟨moved, ok⟩ := transitionTo_isOk valid (some "processing") none now
  rw [Order.startProcessing, if_pos (.inl confirmed)]
  exact ⟨moved, ok, (transitionTo_ok ok).2.1⟩

theorem pickedUp_untouched_iff (pickedUp : event.state = "PICKED_UP") :
    Untouched inv order (logged inv order (bostaOrder inv replies order event now)) ↔
      order.status ≠ .processing ∧ order.status ≠ .confirmed := by
  have branch : bostaOrder inv replies order event now =
      (bostaPickedUp order event now).map fun saved => ⟨inv, saved, false, []⟩ := by
    simp [bostaOrder, pickedUp]
  rw [branch, bostaPickedUp]
  by_cases processing : order.status = .processing
  · obtain ⟨shipped, ok, status⟩ := ship_ok processing (some event.trackingNumber) now
    rw [if_pos processing, ok]
    apply iff_of_false
    · apply moved_touches status
      rw [processing]
      decide
    · exact fun stands => stands.1 processing
  · by_cases confirmed : order.status = .confirmed
    · obtain ⟨started, begun, ready⟩ := startProcessing_ok confirmed now
      obtain ⟨shipped, ok, status⟩ := ship_ok ready (some event.trackingNumber) now
      rw [if_neg processing, if_pos confirmed, begun]
      simp only [bind, Except.bind, ok]
      apply iff_of_false
      · apply moved_touches status
        rw [confirmed]
        decide
      · exact fun stands => stands.2 confirmed
    · rw [if_neg processing, if_neg confirmed]
      exact iff_of_true ⟨rfl, rfl⟩ ⟨processing, confirmed⟩

theorem tryRestockOrder_view (inv : Inventory) (replies : Nat → Reply) (order : Order)
    (reason : Option String) (now : Time) :
    orderView (tryRestockOrder inv replies order reason now).order = orderView order := by
  by_cases restockable : Restockable replies order
  · rw [tryRestockOrder_replays restockable]
    rfl
  · rw [tryRestockOrder_skips restockable]

/-- A restock leaves the shelves as they are if there is nothing to do, or no piece to put back. -/
theorem tryRestockOrder_idle_iff (inv : Inventory) (replies : Nat → Reply) (order : Order)
    (reason : Option String) (now : Time) :
    (tryRestockOrder inv replies order reason now).inventory = inv ↔
      (Restockable replies order → ∀ line ∈ outstanding order,
        line.quantity = 0 ∨ inv.product? order.tenantId line.productId = none) := by
  by_cases restockable : Restockable replies order
  · rw [tryRestockOrder_replays restockable, imp_iff_right restockable]
    exact restockLines_idle_iff order.tenantId restockable.2.2
  · rw [tryRestockOrder_skips restockable]
    exact iff_of_true rfl fun here => absurd here restockable

theorem returned_untouched_iff (returned : event.state = "RETURNED") :
    Untouched inv order (logged inv order (bostaOrder inv replies order event now)) ↔
      order.canBeCancelled = false ∧ order.status ≠ .shipped ∧
        (Restockable replies order → ∀ line ∈ outstanding order,
          line.quantity = 0 ∨ inv.product? order.tenantId line.productId = none) := by
  have branch : bostaOrder inv replies order event now = bostaReturned inv replies order now := by
    simp [bostaOrder, returned]
  rw [branch, bostaReturned]
  by_cases moves : order.canBeCancelled = true ∨ order.status = .shipped
  · obtain ⟨moved, ok, -, status⟩ := bostaReturnStatus_ok order now
    rw [if_pos moves] at status
    rw [ok]
    apply iff_of_false
    · apply moved_touches ((tryRestockOrder_status inv replies moved _ now).trans status)
      rcases moves with cancellable | shipped
      · exact not_cancelled cancellable
      · rw [shipped]
        decide
    · rintro ⟨closed, elsewhere, -⟩
      rcases moves with cancellable | shipped
      · simp [cancellable] at closed
      · exact elsewhere shipped
  · obtain ⟨stands, elsewhere⟩ := not_or.mp moves
    rw [bostaReturnStatus, if_neg stands, if_neg elsewhere]
    rw [Bool.not_eq_true] at stands
    have idle := tryRestockOrder_idle_iff inv replies order (some "bosta_returned") now
    constructor
    · exact fun untouched => ⟨stands, elsewhere, idle.mp untouched.2⟩
    · exact fun here => ⟨tryRestockOrder_view inv replies order _ now, idle.mpr here.2.2⟩

theorem cancelled_untouched_iff (cancelled : event.state = "CANCELLED") :
    Untouched inv order (logged inv order (bostaOrder inv replies order event now)) ↔
      order.canBeCancelled = false := by
  have branch : bostaOrder inv replies order event now = bostaCancelled inv replies order now := by
    simp [bostaOrder, cancelled]
  rw [branch, bostaCancelled]
  cases cancellable : order.canBeCancelled with
  | false => simp [logged, Untouched]
  | true =>
      obtain ⟨moved, ok⟩ := cancel_isOk cancellable (some "Cancelled via Bosta") now
      simp only [if_true, ok]
      apply iff_of_false
      · apply moved_touches _ (not_cancelled cancellable)
        exact (tryRestockOrder_status inv replies moved _ now).trans (cancel_status ok)
      · simp

theorem untouched_iff_stands (inv : Inventory) (replies : Nat → Reply) (order : Order)
    (event : BostaEvent) (now : Time) :
    Untouched inv order (logged inv order (bostaOrder inv replies order event now)) ↔
      Stands inv replies event order := by
  by_cases delivered : event.state = "DELIVERED"
  · rw [delivered_untouched_iff delivered]
    constructor
    · intro stands
      exact ⟨fun _ => stands, by simp [delivered], by simp [delivered], by simp [delivered]⟩
    · exact fun stands => stands.delivered delivered
  by_cases pickedUp : event.state = "PICKED_UP"
  · rw [pickedUp_untouched_iff pickedUp]
    constructor
    · intro stands
      exact ⟨by simp [pickedUp], fun _ => stands, by simp [pickedUp], by simp [pickedUp]⟩
    · exact fun stands => stands.pickedUp pickedUp
  by_cases returned : event.state = "RETURNED"
  · rw [returned_untouched_iff returned]
    constructor
    · intro stands
      exact ⟨by simp [returned], by simp [returned], fun _ => stands, by simp [returned]⟩
    · exact fun stands => stands.returned returned
  by_cases cancelled : event.state = "CANCELLED"
  · rw [cancelled_untouched_iff cancelled]
    constructor
    · intro stands
      exact ⟨by simp [cancelled], by simp [cancelled], by simp [cancelled], fun _ => stands⟩
    · exact fun stands => stands.cancelled cancelled
  apply iff_of_true
  · rw [bostaOrder, if_neg delivered, if_neg pickedUp, if_neg returned]
    split_ifs <;> exact ⟨rfl, rfl⟩
  · exact ⟨fun here => absurd here delivered, fun here => absurd here pickedUp,
      fun here => absurd here returned, fun here => absurd here cancelled⟩

end Order

section Callback
variable [TextCase] {parcel : Parcel} {call : BostaCall}

omit [TextCase] in
theorem shipmentPart_readable (readable : parcel.Readable call) :
    ∃ after, parcel.shipmentPart call = some after ∧ after.map columns =
      parcel.shipment.map fun shipment =>
        enter call.now (columns shipment) call.event.callbackReading := by
  unfold shipmentPart
  cases found : parcel.shipment with
  | none => exact ⟨none, rfl, rfl⟩
  | some shipment =>
      have clear : ¬ call.event.Unreadable := by simpa [Readable, found] using readable
      obtain ⟨after, ok, columns⟩ :=
        Option.map_eq_some_iff.mp (bostaCallback_enters clear shipment call.now)
      dsimp only
      rw [ok]
      exact ⟨some after, rfl, by rw [Option.map_some, columns, Option.map_some]⟩

/-- A request that raises stores nothing. -/
theorem callback_raised (raises : ¬ parcel.Readable call) : parcel.callback call = parcel := by
  obtain ⟨present, unreadable⟩ := not_or.mp raises
  obtain ⟨shipment, found⟩ := Option.ne_none_iff_exists'.mp present
  rw [callback, shipmentPart, found]
  dsimp only
  rw [bostaCallback_raises (not_not.mp unreadable)]
  rfl

theorem callback_shipment (parcel : Parcel) (call : BostaCall) :
    (parcel.callback call).view.shipment = parcel.shipment.map fun shipment =>
      enter call.now (columns shipment) call.event.callbackReading := by
  by_cases readable : parcel.Readable call
  · obtain ⟨after, part, columns⟩ := shipmentPart_readable readable
    rw [callback, part, ← columns]
    cases parcel.orderPart call with
    | none => rfl
    | some handled => rfl
  · rw [callback_raised readable, callbackReading_raises (not_not.mp (not_or.mp readable).2)]
    rfl

theorem callback_order_iff (parcel : Parcel) (call : BostaCall) :
    (parcel.callback call).view.order = parcel.view.order ∧
        (parcel.callback call).inventory = parcel.inventory ↔
      (parcel.Readable call → ∀ order ∈ parcel.order,
        Stands parcel.inventory call.replies call.event order) := by
  by_cases readable : parcel.Readable call
  · obtain ⟨after, part, -⟩ := shipmentPart_readable readable
    rw [callback, part, imp_iff_right readable]
    cases found : parcel.order with
    | none => simp [orderPart, found, view]
    | some order =>
        have handled : parcel.orderPart call = some (logged parcel.inventory order
            (bostaOrder parcel.inventory call.replies order call.event call.now)) := by
          rw [orderPart, found, Option.map_some]
        have stands := untouched_iff_stands parcel.inventory call.replies order call.event call.now
        simpa [handled, view, found, Untouched] using stands
  · rw [callback_raised readable]
    exact iff_of_true ⟨rfl, rfl⟩ fun here => absurd here readable

/-- The view after a reading, with the order and the stock as they were. -/
def View.entering (before : View) (now : Time) (reading : Option (ShipmentStatus × Option Int)) :
    View :=
  { before with shipment := before.shipment.map fun columns => enter now columns reading }

omit [TextCase] in
theorem View.entering_none (before : View) (now : Time) : before.entering now none = before := by
  simp [View.entering, enter]

theorem webhook_view [UpperCase] (parcel : Parcel) (call : BostaCall) :
    (parcel.webhook call).view = parcel.view.entering call.now call.event.webhookReading := by
  rw [webhook, BostaEvent.webhookReading]
  cases call.event.parsedAmount with
  | none => exact (View.entering_none _ _).symm
  | some amount =>
      rw [Option.bind_some]
      cases mapCarrierStatus "bosta" call.event.state with
      | none => exact (View.entering_none _ _).symm
      | some status =>
          rw [Option.bind_some]
          cases found : parcel.shipment with
          | none => simp [view, found, View.entering]
          | some shipment =>
              dsimp only
              have applied := ReportRun.applyCarrierStatus_columns shipment status
                (amount.map .float) call.now "bosta" call.event.state call.event.description ""
              rw [columns_entered] at applied
              cases read : BostaEvent.entered status (amount.map .float) with
              | none =>
                  rw [read, Option.map_none, Option.map_eq_none_iff] at applied
                  rw [applied]
                  exact (View.entering_none _ _).symm
              | some reading =>
                  rw [read, Option.map_some, Option.map_eq_some_iff] at applied
                  obtain ⟨moved, ok, columns⟩ := applied
                  have sameOrder : (fun order : Order => orderView (OrderRepository.update order
                      { order with
                        trackingUrl := some (bostaTrackingUrl call.event.trackingNumber) }
                      call.now)) = orderView := rfl
                  rw [ok]
                  simp only [view, View.entering, found, Option.map_map, Function.comp_def,
                    sameOrder, Option.map_some, columns]

/-- Out of equal views, one event leaves equal views exactly if the endpoints are alike on it. -/
theorem step_agrees_iff [UpperCase] (first second : Parcel) (call : BostaCall)
    (same : first.view = second.view) :
    (first.webhook call).view = (second.callback call).view ↔ second.Alike call := by
  have shipments : (first.view.entering call.now call.event.webhookReading).shipment =
      (second.callback call).view.shipment ↔ ∀ shipment ∈ second.shipment,
        enter call.now (columns shipment) call.event.callbackReading =
          enter call.now (columns shipment) call.event.webhookReading := by
    rw [callback_shipment, same]
    cases found : second.shipment with
    | none => simp [view, found, View.entering]
    | some shipment => simp [view, found, View.entering, eq_comm]
  have orders := callback_order_iff second call
  rw [webhook_view]
  have sameOrder : first.view.order = second.view.order := congrArg View.order same
  have sameStock : first.view.inventory = second.view.inventory := congrArg View.inventory same
  constructor
  · intro agree
    have order : first.view.order = (second.callback call).view.order := by
      rw [← agree, View.entering]
    have stock : first.view.inventory = (second.callback call).view.inventory := by
      rw [← agree, View.entering]
    exact ⟨orders.mp ⟨order.symm.trans sameOrder, stock.symm.trans sameStock⟩,
      shipments.mp (congrArg View.shipment agree)⟩
  · intro alike
    obtain ⟨order, stock⟩ := orders.mpr alike.order
    apply View.ext
    · exact sameOrder.trans order.symm
    · exact shipments.mpr alike.shipment
    · exact sameStock.trans stock.symm

/-- Over every sequence of events, the endpoints leave an order's status and payment status, the
shipment's status and COD columns and the stock the same exactly if they are alike on each event. -/
theorem endpoints_agree_iff [UpperCase] (parcel : Parcel) (calls : List BostaCall) :
    Lockstep.Agree webhook callback view view parcel parcel calls ↔
      Run.Guarded callback Alike parcel calls :=
  Lockstep.agree_iff_guarded step_agrees_iff rfl calls

end Callback

def packedTee : Parcel where
  order := some { status := .processing }
  shipment := some { status := .created }
  inventory := ⟨.empty, .empty, .empty⟩

/-- The courier takes the parcel: Bosta's callback ships the order, the common webhook does not. -/
theorem picked_up_order_left_processing :
    ¬ Lockstep.Agree (@webhook UpperCase.ascii TextCase.ascii) (@callback TextCase.ascii) view view
      packedTee packedTee [bostaCall "PICKED_UP" 10] := by
  intro agree
  have shipped := congrArg View.order (agree [bostaCall "PICKED_UP" 10] [] rfl)
  rw [Run.run_cons, Run.run_nil, @webhook_view TextCase.ascii UpperCase.ascii] at shipped
  revert shipped
  decide

end Parcel
end Numu.Shipping
