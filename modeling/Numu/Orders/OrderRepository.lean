import Numu.Foundation.Carried
import Numu.Foundation.Outcome
import Numu.Foundation.Table
import Numu.Foundation.UuidText
import Numu.Orders.Order
import Numu.Stock.StockService

/-! The order rows and the lookups of the payment webhooks. -/

namespace Numu.Orders

/-- Rows of the orders table, keyed by the order's id. -/
abbrev OrderRows := Table UUID Order

namespace OrderRepository

def getById (orders : OrderRows) (id : UUID) : Option (UUID × Order) :=
  (orders.get? id).map fun order => (id, order)

/-- `scalar_one_or_none`: more than one row is an error. -/
def getByPaymentId (orders : OrderRows) (paymentId : String) :
    Except String (Option (UUID × Order)) :=
  match orders.rows.filter fun row => row.2.paymentId = some paymentId with
  | [] => .ok none
  | [row] => .ok (some row)
  | _ :: _ :: _ => .error "Multiple rows were found when one or none was required"

/-- `update` writes the columns it lists; the row has none for the three others. -/
def update (stored entity : Order) (now : Time) : Order :=
  { entity with
    id := stored.id
    storeId := stored.storeId
    tenantId := stored.tenantId
    customerId := stored.customerId
    orderNumber := stored.orderNumber
    trackingUrl := none
    shippedAt := none
    deliveredAt := none
    createdAt := stored.createdAt
    updatedAt := now }

/-- `update` on a row that the session still holds as `loaded`. -/
def updateChanged (stored loaded entity : Order) (now : Time) : Order :=
  { stored with
    status := column loaded.status entity.status stored.status
    paymentStatus := column loaded.paymentStatus entity.paymentStatus stored.paymentStatus
    fulfillmentStatus :=
      column loaded.fulfillmentStatus entity.fulfillmentStatus stored.fulfillmentStatus
    lineItems := column loaded.lineItems entity.lineItems stored.lineItems
    shippingAddress := column loaded.shippingAddress entity.shippingAddress stored.shippingAddress
    subtotal := column loaded.subtotal entity.subtotal stored.subtotal
    shippingCost := column loaded.shippingCost entity.shippingCost stored.shippingCost
    taxAmount := column loaded.taxAmount entity.taxAmount stored.taxAmount
    discountAmount := column loaded.discountAmount entity.discountAmount stored.discountAmount
    total := column loaded.total entity.total stored.total
    collectedTotal := column loaded.collectedTotal entity.collectedTotal stored.collectedTotal
    currency := column loaded.currency entity.currency stored.currency
    paymentMethod := column loaded.paymentMethod entity.paymentMethod stored.paymentMethod
    paymentId := column loaded.paymentId entity.paymentId stored.paymentId
    depositRequiredCents :=
      column loaded.depositRequiredCents entity.depositRequiredCents stored.depositRequiredCents
    depositAmountCents :=
      column loaded.depositAmountCents entity.depositAmountCents stored.depositAmountCents
    depositPaidAt := column loaded.depositPaidAt entity.depositPaidAt stored.depositPaidAt
    depositExpiresAt :=
      column loaded.depositExpiresAt entity.depositExpiresAt stored.depositExpiresAt
    depositGateway := column loaded.depositGateway entity.depositGateway stored.depositGateway
    depositPaymentId :=
      column loaded.depositPaymentId entity.depositPaymentId stored.depositPaymentId
    trackingNumber := column loaded.trackingNumber entity.trackingNumber stored.trackingNumber
    metadata := column loaded.metadata entity.metadata stored.metadata
    cancelledAt := column loaded.cancelledAt entity.cancelledAt stored.cancelledAt
    paidAt := column loaded.paidAt entity.paidAt stored.paidAt
    cashReceivedAt := column loaded.cashReceivedAt entity.cashReceivedAt stored.cashReceivedAt
    fulfilledAt := column loaded.fulfilledAt entity.fulfilledAt stored.fulfilledAt
    updatedAt := now }

end OrderRepository
end Numu.Orders

/-! Which operations of the order entity touch its payment and its deposit. -/

namespace Numu.Orders
open Numu.Outcome (bind_eq_ok)
open Numu.Stock (Inventory Reply TextCase)

/-- Money for the order has arrived and has not been returned in full. -/
def received (order : Order) : Bool :=
  order.isRefundable || order.depositPaidAt.isSome

/-- The amounts an order is charged by, which no payment operation changes. -/
structure SameAmounts (before after : Order) : Prop where
  collectible : after.collectibleTotal = before.collectibleTotal
  required : after.depositRequiredCents = before.depositRequiredCents

/-- Neither the amounts nor the payment state differ. -/
structure SameMoney (before after : Order) : Prop extends SameAmounts before after where
  payment : after.paymentStatus = before.paymentStatus
  deposit : after.depositPaidAt = before.depositPaidAt

theorem SameMoney.refl (order : Order) : SameMoney order order :=
  ⟨⟨rfl, rfl⟩, rfl, rfl⟩

theorem SameAmounts.trans {first second third : Order} (before : SameAmounts first second)
    (after : SameAmounts second third) : SameAmounts first third :=
  ⟨after.collectible.trans before.collectible, after.required.trans before.required⟩

theorem SameMoney.trans {first second third : Order} (before : SameMoney first second)
    (after : SameMoney second third) : SameMoney first third :=
  ⟨before.toSameAmounts.trans after.toSameAmounts, after.payment.trans before.payment,
    after.deposit.trans before.deposit⟩

theorem sameMoney_stampStatus (order : Order) (now : Time) (kept : order.status ≠ .delivered) :
    SameMoney order (order.stampStatus now) := by
  unfold Order.stampStatus
  split
  · exact ⟨⟨rfl, rfl⟩, rfl, rfl⟩
  · exact ⟨⟨rfl, rfl⟩, rfl, rfl⟩
  · exact ⟨⟨rfl, rfl⟩, rfl, rfl⟩
  · rename_i delivered
    exact absurd delivered kept
  · exact .refl order

/-- Only the transition to delivered collects money. -/
theorem sameMoney_transitionTo {order moved : Order} {newStatus : OrderStatus}
    {reason source : Option String} {now : Time} (kept : newStatus ≠ .delivered)
    (ok : order.transitionTo newStatus reason source now = .ok moved) :
    SameMoney order moved := by
  unfold Order.transitionTo at ok
  split at ok
  · cases ok
    have recorded : SameMoney order (order.recordTransition newStatus reason source now) :=
      ⟨⟨rfl, rfl⟩, rfl, rfl⟩
    have stamped := sameMoney_stampStatus (order.recordTransition newStatus reason source now) now
      kept
    have touched (o : Order) : SameMoney o (o.touch now) := ⟨⟨rfl, rfl⟩, rfl, rfl⟩
    exact (recorded.trans stamped).trans (touched _)
  · cases ok

theorem sameMoney_cancel {order after : Order} {reason : Option String} {now : Time}
    (ok : order.cancel reason now = .ok after) : SameMoney order after := by
  unfold Order.cancel at ok
  split at ok
  · obtain ⟨cancelled, moved, same⟩ := bind_eq_ok.mp ok
    cases same
    have money := sameMoney_transitionTo (by decide) moved
    exact ⟨⟨money.collectible, money.required⟩, money.payment, money.deposit⟩
  · cases ok

theorem refund_money {order after : Order} {reason : Option String} {now : Time}
    (ok : order.refund reason now = .ok after) :
    SameAmounts order after ∧ after.paymentStatus = .refunded ∧
      after.depositPaidAt = order.depositPaidAt := by
  unfold Order.refund at ok
  split at ok
  · obtain ⟨refunded, moved, same⟩ := bind_eq_ok.mp ok
    cases same
    have money := sameMoney_transitionTo (by decide) moved
    exact ⟨⟨money.collectible, money.required⟩, rfl, money.deposit⟩
  · cases ok

theorem sameMoney_restock [TextCase] (inv : Inventory) (replies : Nat → Reply) (order : Order)
    (reason : Option String) (now : Time) :
    SameMoney order (Stock.tryRestockOrder inv replies order reason now).order := by
  unfold Stock.tryRestockOrder Stock.restockOrder
  simp only
  split_ifs <;> exact ⟨⟨rfl, rfl⟩, rfl, rfl⟩

theorem sameMoney_update (stored entity : Order) (now : Time) :
    SameMoney entity (OrderRepository.update stored entity now) :=
  ⟨⟨rfl, rfl⟩, rfl, rfl⟩

/-- The branch `mark_as_paid` takes decides whether the deposit or the whole order is settled. -/
def Settled (before after : Order) (now : Time) : Prop :=
  if before.paysDeposit then
    after.paymentStatus = before.paymentStatus ∧ after.depositPaidAt = some now
  else after.paymentStatus = .paid ∧ after.depositPaidAt = before.depositPaidAt

theorem transitionTo_isOk {order : Order} {newStatus : OrderStatus}
    (valid : newStatus ∈ validStatusTransitions order.status) (reason source : Option String)
    (now : Time) : ∃ moved, order.transitionTo newStatus reason source now = .ok moved := by
  simp [Order.transitionTo, Order.canTransitionTo, valid]

theorem cancel_isOk {order : Order} (open_ : order.canBeCancelled = true) (reason : Option String)
    (now : Time) : ∃ cancelled, order.cancel reason now = .ok cancelled := by
  have valid : OrderStatus.cancelled ∈ validStatusTransitions order.status := by
    simp only [Order.canBeCancelled, decide_eq_true_eq] at open_
    cases status : order.status <;> simp_all [validStatusTransitions]
  obtain ⟨moved, ok⟩ := transitionTo_isOk valid reason none now
  unfold Order.cancel
  rw [if_pos open_]
  exact ⟨_, bind_eq_ok.mpr ⟨moved, ok, rfl⟩⟩

theorem recordPayment_money (order : Order) (paymentId : String)
    (paymentMethod : Option String) (now : Time) :
    ∃ after, order.recordPayment paymentId paymentMethod now = .ok after ∧
      SameAmounts order after ∧ Settled order after now := by
  unfold Order.recordPayment Settled
  cases deposit : order.paysDeposit with
  | false => exact ⟨_, rfl, ⟨rfl, rfl⟩, rfl, rfl⟩
  | true =>
      simp only [if_true]
      cases late : order.closed with
      | true => exact ⟨_, rfl, ⟨rfl, rfl⟩, rfl, rfl⟩
      | false =>
          have waiting : order.status = .pendingDeposit := by
            simpa [Order.paysDeposit, late] using deposit
          set deposited := order.recordDeposit paymentId paymentMethod now with hdeposited
          have valid : OrderStatus.confirmed ∈ validStatusTransitions deposited.status := by
            have same : deposited.status = order.status := rfl
            rw [same, waiting]
            decide
          obtain ⟨moved, ok⟩ :=
            transitionTo_isOk valid (some (Order.depositReason paymentMethod)) none now
          have money := sameMoney_transitionTo (by decide) ok
          refine ⟨moved, ok, ⟨money.collectible, money.required⟩, money.payment, ?_⟩
          rw [money.deposit, hdeposited]
          rfl

/-- `mark_as_paid` always succeeds. -/
theorem markAsPaid_money (order : Order) (paymentId : String) (paymentMethod : Option String)
    (now : Time) :
    ∃ after, order.markAsPaid paymentId paymentMethod now = .ok after ∧
      SameAmounts order after ∧ Settled order after now := by
  obtain ⟨paid, recorded, amounts, settled⟩ :=
    recordPayment_money order paymentId paymentMethod now
  refine ⟨_, bind_eq_ok.mpr ⟨paid, recorded, rfl⟩, ?_, ?_⟩
  · cases order.closed <;> exact ⟨amounts.collectible, amounts.required⟩
  · unfold Settled at settled ⊢
    cases order.closed <;> exact settled

end Numu.Orders
