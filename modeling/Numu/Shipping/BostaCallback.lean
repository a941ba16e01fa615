import Numu.Foundation.Run
import Numu.Orders.Goods
import Numu.Orders.OrderRepository
import Numu.Orders.StatusHistory
import Numu.Shipping.CarrierReports
import Numu.Stock.Conservation

/-!
Bosta's callback on the order and the shipment of one tracking number. An exception of the order's
part is logged, and the order stays as stored; one of the shipment's part undoes the whole request.
-/

namespace Numu.Shipping
open Numu.Orders
open Numu.Outcome (bind_eq_ok map_eq_ok)
open Numu.Stock (Inventory Reply Restocked SameGoods TextCase manifest outstanding raises
  restockLines_raised tryRestockOrder)

/-- What the carrier's status moves. -/
structure Parcel where
  order : Option Order
  shipment : Option Shipment
  inventory : Inventory

structure BostaEvent where
  trackingNumber : String
  state : String
  codAmount : Option CodAmount := none
  description : String := ""
  failureReason : String := "Unknown"
  deriving DecidableEq

/-- `bool(cod_amount)`. -/
def BostaEvent.paid (event : BostaEvent) : Bool := event.codAmount.any CodAmount.truthy

section Branches
variable [TextCase]

/-- COD handed over at the door pays the order. -/
def bostaCollect (order : Order) (event : BostaEvent) (now : Time) : Except String Order :=
  if event.paid ∧ order.isPaid = false then
    order.markAsPaid s!"cod-bosta-{event.trackingNumber}" (some "cod") now
  else .ok order

def bostaDelivered (order : Order) (event : BostaEvent) (now : Time) : Except String Order := do
  let delivered ← if order.status = .shipped then order.deliver none now else .ok order
  let collected ← bostaCollect delivered event now
  return OrderRepository.update order collected now

def bostaPickedUp (order : Order) (event : BostaEvent) (now : Time) : Except String Order :=
  if order.status = .processing then do
    let shipped ← order.ship (some event.trackingNumber) none none now
    return OrderRepository.update order shipped now
  else if order.status = .confirmed then do
    let processing ← order.startProcessing now
    let shipped ← processing.ship (some event.trackingNumber) none none now
    return OrderRepository.update order shipped now
  else .ok order

/-- A shipped order is cancelled past its status table. The history entry, which has no time, is
left out. -/
def bostaReturnStatus (order : Order) (now : Time) : Except String Order :=
  if order.canBeCancelled then order.cancel (some "Returned by carrier (Bosta)") now
  else if order.status = .shipped then .ok ({ order with status := .cancelled }.touch now)
  else .ok order

def bostaReturned (inv : Inventory) (replies : Nat → Reply) (order : Order) (now : Time) :
    Except String Restocked := do
  let moved ← bostaReturnStatus order now
  let restocked := tryRestockOrder inv replies moved (some "bosta_returned") now
  return { restocked with order := OrderRepository.update order restocked.order now }

def bostaCancelled (inv : Inventory) (replies : Nat → Reply) (order : Order) (now : Time) :
    Except String Restocked :=
  if order.canBeCancelled then do
    let moved ← order.cancel (some "Cancelled via Bosta") now
    let restocked := tryRestockOrder inv replies moved (some "bosta_cancelled") now
    return { restocked with order := OrderRepository.update order restocked.order now }
  else .ok ⟨inv, order, false, []⟩

/-- The order's part of the callback. -/
def bostaOrder (inv : Inventory) (replies : Nat → Reply) (order : Order) (event : BostaEvent)
    (now : Time) : Except String Restocked :=
  let untouched (saved : Order) : Restocked := ⟨inv, saved, false, []⟩
  if event.state = "DELIVERED" then (bostaDelivered order event now).map untouched
  else if event.state = "PICKED_UP" then (bostaPickedUp order event now).map untouched
  else if event.state = "RETURNED" then bostaReturned inv replies order now
  else if event.state = "DELIVERY_FAILED" then
    .ok (untouched (OrderRepository.update order order now))
  else if event.state = "CANCELLED" then bostaCancelled inv replies order now
  else .ok (untouched order)

end Branches

structure BostaCall where
  event : BostaEvent
  /-- The database's answers to the restock of the order. -/
  replies : Nat → Reply
  now : Time

/-- An exception of the order's part is only logged. -/
def logged (inv : Inventory) (order : Order) : Except String Restocked → Restocked
  | .ok handled => handled
  | .error _ => ⟨inv, order, false, []⟩

namespace Parcel
section Callback
variable [TextCase]

/-- What the callback makes of the order, and of the stock. -/
def orderPart (parcel : Parcel) (call : BostaCall) : Option Restocked :=
  parcel.order.map fun order =>
    logged parcel.inventory order
      (bostaOrder parcel.inventory call.replies order call.event call.now)

/-- What the callback makes of the shipment. `none` is an exception. -/
def shipmentPart (parcel : Parcel) (call : BostaCall) : Option (Option Shipment) :=
  match parcel.shipment with
  | none => some none
  | some shipment =>
      (bostaCallback shipment call.event.state call.event.codAmount call.event.failureReason
        call.now).map some

/-- `bosta_callback`. -/
def callback (parcel : Parcel) (call : BostaCall) : Parcel :=
  match parcel.shipmentPart call with
  | none => parcel
  | some shipment =>
      match parcel.orderPart call with
      | none => { parcel with shipment := shipment }
      | some handled =>
          { order := some handled.order, shipment := shipment, inventory := handled.inventory }

/-- The callback gives the stock of the order back. -/
def restocks (parcel : Parcel) (call : BostaCall) : Bool :=
  (parcel.shipmentPart call).isSome && (parcel.orderPart call).any Restocked.restored

/-- Stock comes back only to an order that the callback leaves cancelled or returned, so never to
a delivered one that stays delivered. -/
def Lawful (parcel : Parcel) (call : BostaCall) : Prop :=
  parcel.restocks call = true →
    ∀ order ∈ (parcel.callback call).order, order.status = .cancelled ∨ order.status = .returned

/-- `restock_order` of the order has something to do, and does it. -/
def Restockable (replies : Nat → Reply) (order : Order) : Prop :=
  manifest order ≠ [] ∧ order.metadata.stockRestockedAt = none ∧
    raises replies (outstanding order) = false

/-- A returned parcel whose order still holds its stock has an order that was shipped, can be
cancelled, or is closed already. -/
def Cleared (parcel : Parcel) (call : BostaCall) : Prop :=
  call.event.state = "RETURNED" → ∀ order ∈ parcel.order, Restockable call.replies order →
    order.canBeCancelled = true ∨
      order.status ∈ [OrderStatus.shipped, .cancelled, .returned]

end Callback
end Parcel

section Restocking
variable [TextCase] {order moved : Order} {replies : Nat → Reply}

omit [TextCase] in
theorem restockable_of_same (same : SameGoods order moved) :
    Parcel.Restockable replies moved ↔ Parcel.Restockable replies order := by
  rw [Parcel.Restockable, Parcel.Restockable, same.manifest, same.stamp, same.outstanding]

theorem tryRestockOrder_replays (restockable : Parcel.Restockable replies order) (inv : Inventory)
    (reason : Option String) (now : Time) :
    tryRestockOrder inv replies order reason now =
      let replay := Stock.restockLines order.tenantId inv replies (outstanding order)
      ⟨replay.inventory, Stock.stampRestock order reason now, true, replay.putBack⟩ := by
  rcases restockable with ⟨lines, unstamped, answered⟩
  have quiet : (Stock.restockLines order.tenantId inv replies (outstanding order)).raised = false :=
    (restockLines_raised order.tenantId inv replies _).trans answered
  rw [outstanding] at quiet
  simp [tryRestockOrder, Stock.restockOrder, lines, unstamped, quiet, outstanding]

theorem tryRestockOrder_skips (idle : ¬ Parcel.Restockable replies order) (inv : Inventory)
    (reason : Option String) (now : Time) :
    tryRestockOrder inv replies order reason now = ⟨inv, order, false, []⟩ := by
  unfold tryRestockOrder Stock.restockOrder
  simp only [restockLines_raised]
  split_ifs with empty stamped failed
  · rfl
  · rfl
  · rfl
  · exact absurd ⟨empty, by simpa using stamped, Bool.not_eq_true _ ▸ failed⟩ idle

theorem tryRestockOrder_restored (inv : Inventory) (reason : Option String) (now : Time) :
    (tryRestockOrder inv replies order reason now).restored = true ↔
      Parcel.Restockable replies order := by
  by_cases restockable : Parcel.Restockable replies order
  · rw [tryRestockOrder_replays restockable]
    exact iff_of_true rfl restockable
  · rw [tryRestockOrder_skips restockable]
    exact iff_of_false Bool.false_ne_true restockable

theorem tryRestockOrder_status (inv : Inventory) (replies : Nat → Reply) (order : Order)
    (reason : Option String) (now : Time) :
    (tryRestockOrder inv replies order reason now).order.status = order.status := by
  by_cases restockable : Parcel.Restockable replies order
  · rw [tryRestockOrder_replays restockable]
    rfl
  · rw [tryRestockOrder_skips restockable]

omit [TextCase] in
theorem cancel_status {reason : Option String} {now : Time}
    (ok : order.cancel reason now = .ok moved) : moved.status = .cancelled := by
  unfold Order.cancel at ok
  split at ok
  · rcases bind_eq_ok.mp ok with ⟨cancelled, step, same⟩
    cases same
    exact (transitionTo_ok step).2.1
  · cases ok

omit [TextCase] in
/-- A returned parcel cancels the order that can still be cancelled or is on its way. -/
theorem bostaReturnStatus_ok (order : Order) (now : Time) :
    ∃ moved, bostaReturnStatus order now = .ok moved ∧ SameGoods order moved ∧
      moved.status =
        if order.canBeCancelled ∨ order.status = .shipped then .cancelled else order.status := by
  unfold bostaReturnStatus
  by_cases cancellable : order.canBeCancelled = true
  · obtain ⟨moved, ok⟩ := cancel_isOk cancellable (some "Returned by carrier (Bosta)") now
    refine ⟨moved, by rw [if_pos cancellable, ok], SameGoods.cancel ok, ?_⟩
    rw [if_pos (.inl cancellable)]
    exact cancel_status ok
  · by_cases shipped : order.status = .shipped
    · rw [if_neg cancellable, if_pos shipped, if_pos (.inr shipped)]
      exact ⟨_, rfl, ⟨rfl, rfl, rfl, rfl, rfl⟩, rfl⟩
    · rw [if_neg cancellable, if_neg shipped, if_neg (not_or.mpr ⟨cancellable, shipped⟩)]
      exact ⟨order, rfl, SameGoods.refl order, rfl⟩

end Restocking

namespace Parcel
variable [TextCase] {parcel : Parcel} {call : BostaCall}

omit [TextCase] in
theorem shipmentPart_isSome (other : call.event.state ≠ "DELIVERED") :
    (parcel.shipmentPart call).isSome = true := by
  unfold shipmentPart
  cases parcel.shipment with
  | none => rfl
  | some shipment =>
      simp only [Option.isSome_map]
      exact ReportRun.bostaCallback_isSome other ..

theorem orderPart_restored (order : Order) (found : parcel.order = some order)
    (returned : call.event.state = "RETURNED") :
    ∃ handled, parcel.orderPart call = some handled ∧
      (handled.restored = true ↔ Restockable call.replies order) ∧
      handled.order.status =
        if order.canBeCancelled ∨ order.status = .shipped then .cancelled else order.status := by
  obtain ⟨moved, ok, same, status⟩ := bostaReturnStatus_ok order call.now
  let restocked :=
    tryRestockOrder parcel.inventory call.replies moved (some "bosta_returned") call.now
  refine ⟨{ restocked with order := OrderRepository.update order restocked.order call.now },
    ?_, ?_, ?_⟩
  · have done : bostaOrder parcel.inventory call.replies order call.event call.now =
        bostaReturned parcel.inventory call.replies order call.now := by
      simp [bostaOrder, returned]
    simp only [orderPart, found, Option.map_some, done, bostaReturned, ok, logged]
    rfl
  · exact (tryRestockOrder_restored _ _ _).trans (restockable_of_same same)
  · exact (tryRestockOrder_status _ _ moved _ _).trans status

theorem bostaCancelled_restored {inv : Inventory} {replies : Nat → Reply} {order : Order}
    {now : Time} {handled : Restocked} (ok : bostaCancelled inv replies order now = .ok handled)
    (restored : handled.restored = true) : handled.order.status = .cancelled := by
  unfold bostaCancelled at ok
  split at ok
  · obtain ⟨moved, step, same⟩ := bind_eq_ok.mp ok
    cases same
    exact (tryRestockOrder_status inv replies moved _ now).trans (cancel_status step)
  · cases ok
    cases restored

/-- Apart from a return, a callback restocks only the order that it cancels. -/
theorem bostaOrder_restored {inv : Inventory} {replies : Nat → Reply} {order : Order}
    {event : BostaEvent} {now : Time} {handled : Restocked} (other : event.state ≠ "RETURNED")
    (ok : bostaOrder inv replies order event now = .ok handled)
    (restored : handled.restored = true) : handled.order.status = .cancelled := by
  unfold bostaOrder at ok
  simp only [other, if_false] at ok
  split_ifs at ok
  · rcases map_eq_ok.mp ok with ⟨saved, -, same⟩
    cases same
    cases restored
  · rcases map_eq_ok.mp ok with ⟨saved, -, same⟩
    cases same
    cases restored
  · cases ok
    cases restored
  · exact bostaCancelled_restored ok restored
  · cases ok
    cases restored

theorem lawful_of_parts {handled : Restocked} (applied : (parcel.shipmentPart call).isSome = true)
    (part : parcel.orderPart call = some handled) :
    parcel.Lawful call ↔ (handled.restored = true →
      handled.order.status = .cancelled ∨ handled.order.status = .returned) := by
  obtain ⟨shipment, some_⟩ := Option.isSome_iff_exists.mp applied
  simp [Lawful, restocks, callback, some_, part]

theorem lawful_iff (parcel : Parcel) (call : BostaCall) :
    parcel.Lawful call ↔ parcel.Cleared call := by
  cases found : parcel.order with
  | none => simp [Lawful, restocks, Cleared, orderPart, found]
  | some order =>
      by_cases returned : call.event.state = "RETURNED"
      · have applied : (parcel.shipmentPart call).isSome = true :=
          shipmentPart_isSome (by simp [returned])
        obtain ⟨handled, part, restored, status⟩ := orderPart_restored order found returned
        rw [lawful_of_parts applied part, restored, status]
        simp only [Cleared, returned, found, Option.mem_def, Option.some.injEq, forall_eq',
          forall_const, List.mem_cons, List.not_mem_nil, or_false]
        split_ifs with moves
        · rcases moves with cancellable | shipped
          · simp [cancellable]
          · simp [shipped]
        · obtain ⟨stands, elsewhere⟩ := not_or.mp moves
          simp [stands, elsewhere]
      · have cleared : parcel.Cleared call := fun here => absurd here returned
        apply iff_of_true _ cleared
        intro restocks
        have applied := (Bool.and_eq_true_iff.mp restocks).1
        have part : parcel.orderPart call = some (logged parcel.inventory order
            (bostaOrder parcel.inventory call.replies order call.event call.now)) := by
          rw [orderPart, found, Option.map_some]
        apply (lawful_of_parts applied part).mpr _ restocks
        cases done : bostaOrder parcel.inventory call.replies order call.event call.now with
        | error message => simp [logged]
        | ok handled => exact fun restored => .inl (bostaOrder_restored returned done restored)

/-- Over every sequence of callbacks, each restock leaves the order cancelled or returned exactly
if no parcel comes back whose order still holds its stock and is delivered, refunded, a draft or
failed its payment. -/
theorem restocks_lawful_iff (parcel : Parcel) (calls : List BostaCall) :
    Run.Guarded callback Lawful parcel calls ↔ Run.Guarded callback Cleared parcel calls :=
  Run.guarded_iff_guarded (I := fun _ => True) (fun _ _ _ _ => trivial)
    (fun parcel call _ => lawful_iff parcel call) trivial calls

end Parcel

namespace Parcel

def deliveredTee : Parcel where
  order := some {
    tenantId := some 7
    status := .delivered
    paymentStatus := .paid
    metadata := { stockDebited := some [⟨1, none, none, 2⟩] } }
  shipment := some { status := .delivered }
  inventory := ⟨⟨[(1, ⟨7, 5, none⟩)], by decide⟩, .empty, .empty⟩

def bostaCall (state : String) (now : Time) : BostaCall where
  event := { trackingNumber := "TRK-9", state := state }
  replies := fun _ => ⟨.stored, false⟩
  now := now

/-- A return that follows the delivery puts the goods on the shelf, and the order stays delivered. -/
theorem returned_after_delivery :
    letI := TextCase.ascii
    ¬ Run.Guarded callback Lawful deliveredTee [bostaCall "RETURNED" 10] := by
  let _ := TextCase.ascii
  intro lawful
  have closed := lawful.1 (by decide) _ rfl
  revert closed
  decide

end Parcel
end Numu.Shipping
