import Mathlib.Data.List.Basic
import Numu.Foundation.Binary64

/-! The order entity: its status table, its guarded status methods and its payment fields. -/

namespace Numu.Orders

abbrev UUID := BitVec 128

instance : LawfulBEq UUID := inferInstance

/-- An instant, in microseconds. -/
abbrev Time := Nat

inductive OrderStatus where
  | draft
  | pendingDeposit
  | awaitingPayment
  | pending
  | confirmed
  | processing
  | shipped
  | delivered
  | returned
  | cancelled
  | refunded
  | paymentFailed
  deriving DecidableEq, Repr

namespace OrderStatus

def value : OrderStatus → String
  | draft => "draft"
  | pendingDeposit => "pending_deposit"
  | awaitingPayment => "awaiting_payment"
  | pending => "pending"
  | confirmed => "confirmed"
  | processing => "processing"
  | shipped => "shipped"
  | delivered => "delivered"
  | returned => "returned"
  | cancelled => "cancelled"
  | refunded => "refunded"
  | paymentFailed => "payment_failed"

def all : List OrderStatus :=
  [draft, pendingDeposit, awaitingPayment, pending, confirmed, processing, shipped, delivered,
    returned, cancelled, refunded, paymentFailed]

def ofValue (text : String) : Option OrderStatus :=
  all.find? fun status => status.value = text

theorem ofValue_value (status : OrderStatus) : ofValue status.value = some status := by
  cases status <;> decide

end OrderStatus

/-- `VALID_STATUS_TRANSITIONS`. -/
def validStatusTransitions : OrderStatus → List OrderStatus
  | .draft => [.pending, .cancelled]
  | .pendingDeposit => [.confirmed, .cancelled, .paymentFailed]
  | .awaitingPayment => [.processing, .cancelled, .paymentFailed]
  | .pending => [.confirmed, .processing, .cancelled, .paymentFailed]
  | .confirmed => [.processing, .cancelled]
  | .processing => [.shipped, .cancelled]
  | .shipped => [.delivered, .returned]
  | .delivered => [.refunded]
  | .cancelled => []
  | .returned => []
  | .refunded => []
  | .paymentFailed => [.pending, .cancelled]

/-- `PRE_FULFILMENT_STATUSES`. -/
def preFulfilmentStatuses : List OrderStatus :=
  [.pending, .confirmed, .awaitingPayment, .paymentFailed]

inductive PaymentStatus where
  | pending
  | authorized
  | paid
  | partiallyRefunded
  | refunded
  | failed
  deriving DecidableEq, Repr

inductive FulfillmentStatus where
  | unfulfilled
  | partiallyFulfilled
  | fulfilled
  deriving DecidableEq, Repr

/-- The option values a customer picked, axis name to value. -/
abbrev Selections := List (String × String)

/-- A quantity that is left at its default. -/
theorem one_piece : 1 ≤ 1 := le_refl 1

theorem two_pieces : 1 ≤ 2 := Nat.le_succ 1

structure OrderLineItem where
  productId : UUID
  productName : String := ""
  variantId : Option UUID := none
  variantName : Option String := none
  sku : Option String := none
  quantity : Nat := 1
  unitPrice : Nat := 0
  totalPrice : Nat := 0
  /-- `properties["selections"]`. -/
  selections : Option Selections := none
  quantity_pos : 1 ≤ quantity := by first | exact Numu.Orders.one_piece | decide
  deriving DecidableEq

structure OrderShippingAddress where
  firstName : String := ""
  lastName : String := ""
  addressLine1 : String := ""
  city : String := ""
  country : String := ""
  addressLine2 : Option String := none
  state : Option String := none
  postalCode : Option String := none
  phone : Option String := none
  deriving DecidableEq, Repr

structure StatusChange where
  fromStatus : OrderStatus
  toStatus : OrderStatus
  timestamp : Time
  reason : Option String
  source : Option String
  deriving DecidableEq, Repr

structure PaymentAfterCancel where
  paymentId : String
  paymentMethod : Option String
  status : OrderStatus
  recordedAt : Time
  deriving DecidableEq, Repr

structure PaymentReversal where
  reason : Option String
  paidAt : Option Time
  paymentId : Option String
  recordedAt : Time
  deriving DecidableEq, Repr

structure ReturnedLine where
  orderLineIndex : Nat
  returnedQuantity : Nat
  valueCents : Int
  productId : UUID
  variantId : Option UUID
  selections : Option Selections
  deriving DecidableEq, Repr

structure PartialAcceptance where
  lines : List ReturnedLine
  returnedValueCents : Int
  collectedTotalCents : Nat
  reason : Option String
  recordedAt : Time
  deriving DecidableEq, Repr

/-- One line of a debit manifest, and the replay entry a stock write returns. -/
structure StockLine where
  productId : UUID
  variantId : Option UUID
  selections : Option Selections
  quantity : Nat
  deriving DecidableEq, Repr

/-- The keys of `order.metadata` that the modelled functions read or write. -/
structure Metadata where
  statusHistory : Option (List StatusChange) := none
  paymentAfterCancel : Option PaymentAfterCancel := none
  paymentHistory : Option (List PaymentReversal) := none
  partialAcceptance : Option PartialAcceptance := none
  paymentFailureReason : Option String := none
  cancellationReason : Option String := none
  returnReason : Option String := none
  refundReason : Option String := none
  partialRefundAmount : Option Int := none
  partialRefundReason : Option String := none
  paymobOrderId : Option String := none
  codRecoveryInitiated : Bool := false
  codRecovered : Bool := false
  fawryReference : Option String := none
  fawryFeesCents : Int := 0
  paymentExpiredAt : Option Time := none
  cancellationSource : Option String := none
  refundedAt : Option Time := none
  refundAmount : Option ℚ := none
  /-- `stock_debited["lines"]`. -/
  stockDebited : Option (List StockLine) := none
  stockRestockedAt : Option Time := none
  stockRestockReason : Option String := none
  stockRestockedLines : Option (List StockLine) := none
  deriving DecidableEq

structure Order where
  id : UUID := 0
  storeId : UUID := 0
  tenantId : Option UUID := none
  customerId : UUID := 0
  orderNumber : String := ""
  lineItems : List OrderLineItem := []
  shippingAddress : OrderShippingAddress := {}
  status : OrderStatus := .pending
  paymentStatus : PaymentStatus := .pending
  fulfillmentStatus : FulfillmentStatus := .unfulfilled
  subtotal : Nat := 0
  shippingCost : Nat := 0
  taxAmount : Nat := 0
  discountAmount : Nat := 0
  total : Nat := 0
  collectedTotal : Option Nat := none
  currency : String := "USD"
  paymentMethod : Option String := none
  paymentId : Option String := none
  depositRequiredCents : Option Int := none
  depositAmountCents : Option Int := none
  depositPaidAt : Option Time := none
  depositExpiresAt : Option Time := none
  depositGateway : Option String := none
  depositPaymentId : Option String := none
  trackingNumber : Option String := none
  trackingUrl : Option String := none
  metadata : Metadata := {}
  cancelledAt : Option Time := none
  paidAt : Option Time := none
  cashReceivedAt : Option Time := none
  fulfilledAt : Option Time := none
  shippedAt : Option Time := none
  deliveredAt : Option Time := none
  createdAt : Time := 0
  updatedAt : Time := 0
  deriving DecidableEq

/-- Python's `str` of an optional text. -/
def strOf (text : Option String) : String :=
  text.getD "None"

/-- Python's truth of an optional text. -/
def given (text : Option String) : Bool :=
  text.getD "" ≠ ""

namespace Order

def touch (order : Order) (now : Time) : Order :=
  { order with updatedAt := now }

def isPaid (order : Order) : Bool :=
  order.paymentStatus = .paid

def isRefundable (order : Order) : Bool :=
  order.paymentStatus = .paid || order.paymentStatus = .partiallyRefunded

def canBeCancelled (order : Order) : Bool :=
  order.status ∈ [OrderStatus.pendingDeposit, .awaitingPayment, .pending, .confirmed, .processing]

def canBeRefunded (order : Order) : Bool :=
  order.isPaid && order.status = .delivered

def collectibleTotal (order : Order) : Nat :=
  order.collectedTotal.getD order.total

def canTransitionTo (order : Order) (newStatus : OrderStatus) : Bool :=
  newStatus ∈ validStatusTransitions order.status

def statusHistory (order : Order) : List StatusChange :=
  order.metadata.statusHistory.getD []

/-- `repr` of a list of plain texts. -/
def reprTexts (texts : List String) : String :=
  "[" ++ ", ".intercalate (texts.map fun text => "'" ++ text ++ "'") ++ "]"

def invalidTransition (order : Order) (newStatus : OrderStatus) : String :=
  let valid := (validStatusTransitions order.status).map OrderStatus.value
  let listed := if valid = [] then "none (terminal state)" else reprTexts valid
  s!"Invalid status transition: {order.status.value} -> {newStatus.value}. " ++
    s!"Valid transitions from {order.status.value}: {listed}"

def recordTransition (order : Order) (newStatus : OrderStatus) (reason source : Option String)
    (now : Time) : Order :=
  let entry : StatusChange := ⟨order.status, newStatus, now, reason, source⟩
  { order with
    status := newStatus
    metadata := { order.metadata with statusHistory := some (order.statusHistory ++ [entry]) } }

def stampStatus (order : Order) (now : Time) : Order :=
  match order.status with
  | .cancelled => { order with cancelledAt := some now }
  | .returned => { order with cancelledAt := some now }
  | .shipped =>
      { order with shippedAt := some now, fulfilledAt := some now, fulfillmentStatus := .fulfilled }
  | .delivered =>
      -- COD: the cash is collected at delivery.
      if order.paymentMethod = some "cod" ∧ order.paymentStatus = .pending then
        { order with deliveredAt := some now, paymentStatus := .paid, paidAt := some now }
      else { order with deliveredAt := some now }
  | _ => order

def transitionTo (order : Order) (newStatus : OrderStatus) (reason source : Option String)
    (now : Time) : Except String Order :=
  if order.canTransitionTo newStatus then
    .ok (((order.recordTransition newStatus reason source now).stampStatus now).touch now)
  else .error (order.invalidTransition newStatus)

def confirm (order : Order) (now : Time) : Except String Order :=
  if order.status = .pending then order.transitionTo .confirmed (some "confirmed") none now
  else .error s!"Cannot confirm order in {order.status.value} status"

def closed (order : Order) : Bool :=
  order.status = .cancelled || order.status = .refunded

/-- The test that sends `mark_as_paid` down its deposit branch. -/
def paysDeposit (order : Order) : Bool :=
  order.status = .pendingDeposit ||
    (order.closed && order.depositRequiredCents.getD 0 ≠ 0 && order.depositPaidAt.isNone)

def recordDeposit (order : Order) (paymentId : String) (paymentMethod : Option String)
    (now : Time) : Order :=
  { order with
    depositPaidAt := some now
    depositPaymentId := some paymentId
    depositGateway := if given paymentMethod then paymentMethod else order.depositGateway }

def recordFullPayment (order : Order) (paymentId : String) (paymentMethod : Option String)
    (now : Time) : Order :=
  { order with
    paymentStatus := .paid
    paymentId := some paymentId
    paymentMethod := if given paymentMethod then paymentMethod else order.paymentMethod
    paidAt := some now
    status := if order.status ∈ preFulfilmentStatuses then .processing else order.status }

def flagPaymentAfterCancel (order : Order) (paymentId : String) (paymentMethod : Option String)
    (now : Time) : Order :=
  { order with
    metadata := { order.metadata with
      paymentAfterCancel := some ⟨paymentId, paymentMethod, order.status, now⟩ } }

def depositReason (paymentMethod : Option String) : String :=
  let method := if given paymentMethod then paymentMethod.getD "" else "unknown"
  s!"deposit_paid via {method}"

/-- The two branches of `mark_as_paid`. -/
def recordPayment (order : Order) (paymentId : String) (paymentMethod : Option String)
    (now : Time) : Except String Order :=
  if order.paysDeposit then
    let deposited := order.recordDeposit paymentId paymentMethod now
    if order.closed then .ok deposited
    else deposited.transitionTo .confirmed (some (depositReason paymentMethod)) none now
  else .ok (order.recordFullPayment paymentId paymentMethod now)

def markAsPaid (order : Order) (paymentId : String) (paymentMethod : Option String)
    (now : Time) : Except String Order := do
  let paid ← order.recordPayment paymentId paymentMethod now
  let flagged :=
    if order.closed then paid.flagPaymentAfterCancel paymentId paymentMethod now else paid
  return flagged.touch now

def reversePayment (order : Order) (reason : Option String) (now : Time) : Except String Order :=
  if order.paymentStatus = .paid then
    let entry : PaymentReversal := ⟨reason, order.paidAt, order.paymentId, now⟩
    .ok ({ order with
      metadata := { order.metadata with
        paymentHistory := some (order.metadata.paymentHistory.getD [] ++ [entry]) }
      paymentStatus := .pending
      paidAt := none
      paymentId := none
      cashReceivedAt := none }.touch now)
  else .error "Order is not marked as paid"

def returnedLine (order : Order) (index qty : Int) : Except String ReturnedLine :=
  if index < 0 then .error s!"Unknown line index {index}"
  else match order.lineItems[index.toNat]? with
  | none => .error s!"Unknown line index {index}"
  | some line =>
      if qty < 1 ∨ (line.quantity : Int) < qty then
        .error s!"Returned quantity {qty} out of range for line {index}"
      else
        -- `quantity` is at least 1, so the fallback to `unit_price` is never taken.
        let effectiveUnit := Binary64.roundHalfEven (Binary64.trueDiv line.totalPrice line.quantity)
        .ok ⟨index.toNat, qty.toNat, effectiveUnit * qty, line.productId, line.variantId,
          line.selections⟩

def returnedLines (order : Order) (returned : List (Int × Int)) :
    Except String (List ReturnedLine) :=
  returned.mapM fun pair => order.returnedLine pair.1 pair.2

/-- `returned` lists the items of the Python dict, so its keys are distinct. -/
def recordPartialAcceptance (order : Order) (returned : List (Int × Int))
    (reason : Option String) (now : Time) : Except String (Order × PartialAcceptance) :=
  if returned = [] then .error "No returned lines"
  else do
    let lines ← order.returnedLines returned
    let returnedValue := (lines.map ReturnedLine.valueCents).sum
    let collected := ((order.total : Int) - returnedValue).toNat
    let summary : PartialAcceptance := ⟨lines, returnedValue, collected, reason, now⟩
    return ({ order with
      collectedTotal := some collected
      metadata := { order.metadata with partialAcceptance := some summary } }.touch now, summary)

def markPaymentFailed (order : Order) (reason : Option String) (now : Time) : Order :=
  { order with
    paymentStatus := .failed
    metadata := { order.metadata with
      paymentFailureReason :=
        if given reason then reason else order.metadata.paymentFailureReason } }.touch now

def startProcessing (order : Order) (now : Time) : Except String Order :=
  if order.status = .confirmed ∨ order.status = .pending then
    order.transitionTo .processing (some "processing") none now
  else .error s!"Cannot start processing order in {order.status.value} status"

def ship (order : Order) (trackingNumber trackingUrl source : Option String) (now : Time) :
    Except String Order :=
  if order.status = .processing then do
    let shipped ← order.transitionTo .shipped (some "shipped") source now
    return { shipped with
      trackingNumber := if given trackingNumber then trackingNumber else shipped.trackingNumber
      trackingUrl := if given trackingUrl then trackingUrl else shipped.trackingUrl }
  else .error s!"Cannot ship order in {order.status.value} status"

def deliver (order : Order) (source : Option String) (now : Time) : Except String Order :=
  if order.status = .shipped then order.transitionTo .delivered (some "delivered") source now
  else .error s!"Cannot deliver order in {order.status.value} status"

def cancel (order : Order) (reason : Option String) (now : Time) : Except String Order :=
  if order.canBeCancelled then do
    let cancelled ← order.transitionTo .cancelled reason none now
    return { cancelled with
      metadata := { cancelled.metadata with
        cancellationReason :=
          if given reason then reason else cancelled.metadata.cancellationReason } }
  else .error s!"Cannot cancel order in {order.status.value} status"

def returnToOrigin (order : Order) (reason : Option String) (now : Time) :
    Except String Order := do
  let returned ← order.transitionTo .returned reason none now
  return { returned with
    metadata := { returned.metadata with
      returnReason := if given reason then reason else returned.metadata.returnReason } }

def refund (order : Order) (reason : Option String) (now : Time) : Except String Order :=
  if order.canBeRefunded then do
    let refunded ← order.transitionTo .refunded reason none now
    return { refunded with
      paymentStatus := .refunded
      metadata := { refunded.metadata with
        refundReason := if given reason then reason else refunded.metadata.refundReason } }
  else .error "Order cannot be refunded"

def partialRefund (order : Order) (amount : Int) (reason : Option String) (now : Time) :
    Except String Order :=
  if order.isPaid then
    .ok ({ order with
      paymentStatus := .partiallyRefunded
      metadata := { order.metadata with
        partialRefundAmount := some amount
        partialRefundReason :=
          if given reason then reason else order.metadata.partialRefundReason } }.touch now)
  else .error "Cannot refund unpaid order"

end Order
end Numu.Orders
