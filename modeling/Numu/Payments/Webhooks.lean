import Mathlib.Data.NNRat.Defs
import Numu.Orders.OrderRepository
import Numu.Stock.StockService

/-! The payment callbacks of Paymob, Kashier and Fawry. -/

namespace Numu.Payments
open Numu.Orders
open Numu.Stock (Inventory Reply TextCase manifest tryRestockOrder restockLines)

/-- What a callback leaves behind; `none` is a delivery rejected as a duplicate. -/
abbrev Processed := Except String (Option (Inventory × Order))

/-- A transaction id that the cache still holds from an earlier delivery. -/
def duplicate (transactionId : Option String) (fresh : Bool) : Bool :=
  given transactionId && !fresh

structure PaymobCallback where
  merchantOrderId : Option String
  paymobOrderId : Option String
  transactionId : Option String
  success : Bool
  isRefunded : Bool := false
  isVoided : Bool := false
  amountCents : Nat
  errorMessage : String := "Payment failed"
  /-- The outcome of the HMAC check against the merchant's secret. -/
  verified : Bool := true
  /-- The answer of the replay cache. -/
  fresh : Bool := true

/-- The merchant's own order id: a UUID of ours, or else a payment id. -/
def byMerchantOrderId (orders : OrderRows) (merchantOrderId : Option String) :
    Except String (Option (UUID × Order)) :=
  if given merchantOrderId then
    let text := merchantOrderId.getD ""
    match (UuidText.readUuid text).bind (OrderRepository.getById orders) with
    | some order => .ok (some order)
    | none => OrderRepository.getByPaymentId orders text
  else .ok none

def byGatewayOrderId (orders : OrderRows) (gatewayOrderId : Option String) :
    Except String (Option (UUID × Order)) :=
  if given gatewayOrderId then OrderRepository.getByPaymentId orders (gatewayOrderId.getD "")
  else .ok none

/-- `_resolve_order`. -/
def resolveOrder (orders : OrderRows) (merchantOrderId gatewayOrderId : Option String) :
    Except String (Option (UUID × Order)) :=
  match byMerchantOrderId orders merchantOrderId with
  | .error message => .error message
  | .ok (some order) => .ok (some order)
  | .ok none => byGatewayOrderId orders gatewayOrderId

section
variable [TextCase]

/-- What the callback does once it is verified and no duplicate. -/
def paymobEvent (inv : Inventory) (replies : Nat → Reply) (order : Order)
    (callback : PaymobCallback) (now : Time) : Except String (Inventory × Order) :=
  if callback.isRefunded then do
    let reason := s!"Paymob refund - transaction {strOf callback.transactionId}"
    let refunded ← order.refund (some reason) now
    return (inv, OrderRepository.update order refunded now)
  else if callback.isVoided then
    if order.canBeCancelled then do
      let reason := s!"Paymob void - transaction {strOf callback.transactionId}"
      let cancelled ← order.cancel (some reason) now
      let restocked := tryRestockOrder inv replies cancelled (some "paymob_void") now
      return (restocked.inventory, OrderRepository.update order restocked.order now)
    else .ok (inv, order)
  else if callback.success then do
    let paid ← order.markAsPaid (strOf callback.transactionId) (some "paymob") now
    let recovered := { paid with metadata := { paid.metadata with
      codRecovered := paid.metadata.codRecovered || paid.metadata.codRecoveryInitiated } }
    return (inv, OrderRepository.update order recovered now)
  else
    let failed := order.markPaymentFailed (some callback.errorMessage) now
    .ok (inv, OrderRepository.update order failed now)

def paymobCallback (inv : Inventory) (replies : Nat → Reply) (order : Order)
    (callback : PaymobCallback) (now : Time) : Processed :=
  if !callback.verified then .error "Could not verify webhook signature"
  else if strOf order.metadata.paymobOrderId ≠ strOf callback.paymobOrderId then
    .error "Could not verify webhook signature"
  else if duplicate callback.transactionId callback.fresh then .ok none
  else (paymobEvent inv replies order callback now).map some

inductive KashierStatus where
  | success
  | failed
  | other
  deriving DecidableEq, Repr

structure KashierCallback where
  merchantOrderId : Option String
  transactionId : Option String
  kashierOrderId : Option String
  /-- `payment_status.upper()`. -/
  paymentStatus : KashierStatus
  /-- `float(amount or 0)`, in pounds. -/
  amount : ℚ≥0
  errorMessage : String := "Payment failed"
  verified : Bool := true
  fresh : Bool := true

/-- `str(transaction_id or kashier_order_id or "")`. -/
def KashierCallback.paymentId (callback : KashierCallback) : String :=
  if given callback.transactionId then callback.transactionId.getD ""
  else callback.kashierOrderId.getD ""

def kashierEvent (inv : Inventory) (order : Order) (callback : KashierCallback) (now : Time) :
    Except String (Inventory × Order) :=
  match callback.paymentStatus with
  | .success => do
      let paid ← order.markAsPaid callback.paymentId (some "kashier") now
      return (inv, OrderRepository.update order paid now)
  | .failed =>
      let failed := order.markPaymentFailed (some callback.errorMessage) now
      .ok (inv, OrderRepository.update order failed now)
  | .other => .ok (inv, order)

def kashierCallback (inv : Inventory) (order : Order) (callback : KashierCallback)
    (now : Time) : Processed :=
  if !callback.verified then .error "Invalid signature"
  else if duplicate callback.transactionId callback.fresh then .ok none
  else (kashierEvent inv order callback now).map some

inductive FawryStatus where
  | new
  | paid
  | expired
  | canceled
  | refunded
  | unknown
  deriving DecidableEq, Repr

structure FawryCallback where
  merchantRefNumber : Option String
  referenceNumber : Option String
  orderStatus : FawryStatus
  /-- In pounds. -/
  paymentAmount : ℚ≥0
  paymentMethod : Option String := none
  fawryFees : ℚ := 0
  verified : Bool := true
  fresh : Bool := true
  /-- The outcome of `check_timestamp`. -/
  timely : Bool := true

/-- The checks of the route that come before the handler. -/
def FawryCallback.passes (callback : FawryCallback) : Bool :=
  callback.verified && !duplicate callback.referenceNumber callback.fresh && callback.timely

/-- `_PAID_VALID_PRIOR`. -/
def paidValidPrior : List OrderStatus := [.pending, .paymentFailed, .pendingDeposit]

/-- `_EXPIRED_VALID_PRIOR`. -/
def expiredValidPrior : List OrderStatus := [.pending]

/-- `_CANCELED_VALID_PRIOR`. -/
def canceledValidPrior : List OrderStatus := [.pending, .confirmed]

def handlePaid (order : Order) (callback : FawryCallback) (now : Time) : Order :=
  if order.status ∉ paidValidPrior then order
  else
    let routed :=
      if order.status = .pendingDeposit then
        { order with
          status := .confirmed
          depositPaidAt := some now
          depositPaymentId := callback.referenceNumber
          depositGateway :=
            if given order.depositGateway then order.depositGateway else some "fawry" }
      else
        { order with
          status := .confirmed
          paymentStatus := .paid
          paidAt := some now
          paymentMethod :=
            if given callback.paymentMethod then callback.paymentMethod else some "fawry" }
    { routed with
      metadata := { routed.metadata with
        fawryReference := callback.referenceNumber
        fawryFeesCents := Binary64.truncate (Binary64.nearest (callback.fawryFees * 100)) } }

/-- The restore of orders older than the debit manifest: the product count alone. -/
def releaseLineItems (inv : Inventory) (tenantId : Option UUID) :
    List OrderLineItem → Inventory
  | [] => inv
  | item :: rest =>
      let restored :=
        if (inv.product? tenantId item.productId).isSome then
          inv.modifyProduct item.productId fun product =>
            { product with quantity := product.quantity + item.quantity }
        else inv
      releaseLineItems restored tenantId rest

/-- The release finds its own stamp and does nothing. -/
def releaseSkipped (order : Order) : Bool :=
  manifest order ≠ [] && order.metadata.stockRestockedAt.isSome

/-- A line of the manifest raises, so that the whole request is rolled back. -/
def releaseRaises (inv : Inventory) (replies : Nat → Reply) (order : Order) : Bool :=
  manifest order ≠ [] && !releaseSkipped order &&
    (restockLines order.tenantId inv replies (manifest order)).raised

/-- `_release_inventory`. -/
def releaseInventory (inv : Inventory) (replies : Nat → Reply) (order : Order) (now : Time) :
    Except String (Inventory × Order) :=
  if manifest order ≠ [] then
    if releaseSkipped order then .ok (inv, order)
    else if releaseRaises inv replies order then .error "restock failed"
    else .ok ((restockLines order.tenantId inv replies (manifest order)).inventory,
      { order with
        metadata := { order.metadata with
          stockRestockedAt := some now
          stockRestockReason := some "fawry_payment_expired" } })
  else .ok (releaseLineItems inv order.tenantId order.lineItems, order)

def handleExpired (inv : Inventory) (replies : Nat → Reply) (order : Order) (now : Time) :
    Except String (Inventory × Order) :=
  if order.status ∉ expiredValidPrior then .ok (inv, order)
  else
    let failed := { order with
      paymentStatus := .failed
      status := .paymentFailed
      metadata := { order.metadata with paymentExpiredAt := some now } }
    releaseInventory inv replies failed now

def handleCanceled (inv : Inventory) (replies : Nat → Reply) (order : Order) (now : Time) :
    Except String (Inventory × Order) :=
  if order.status ∉ canceledValidPrior ∨ order.paymentStatus = .paid then .ok (inv, order)
  else do
    let cancelled := { order with
      status := .cancelled
      paymentStatus := .failed
      cancelledAt := some now }
    let (released, stamped) ← releaseInventory inv replies cancelled now
    return (released, { stamped with
      metadata := { stamped.metadata with cancellationSource := some "fawry_webhook" } })

def handleRefunded (order : Order) (callback : FawryCallback) (now : Time) : Order :=
  if order.paymentStatus ≠ .paid then order
  else { order with
    paymentStatus := .refunded
    metadata := { order.metadata with
      refundedAt := some now
      refundAmount := some callback.paymentAmount } }

def fawryEvent (inv : Inventory) (replies : Nat → Reply) (order : Order)
    (callback : FawryCallback) (now : Time) : Except String (Inventory × Order) :=
  match callback.orderStatus with
  | .paid => .ok (inv, handlePaid order callback now)
  | .expired => handleExpired inv replies order now
  | .canceled => handleCanceled inv replies order now
  | .refunded => .ok (inv, handleRefunded order callback now)
  | .new | .unknown => .ok (inv, order)

def fawryCallback (inv : Inventory) (replies : Nat → Reply) (order : Order)
    (callback : FawryCallback) (now : Time) : Processed :=
  if !callback.verified then .error "Invalid webhook signature"
  else if duplicate callback.referenceNumber callback.fresh then .ok none
  else if !callback.timely then .error "Webhook timestamp too old"
  else (fawryEvent inv replies order callback now).map some

omit [TextCase] in
theorem map_some_ok {x : Except String (Inventory × Order)} {result : Inventory × Order} :
    x.map some = .ok (some result) ↔ x = .ok result := by
  cases x <;> simp [Except.map]

theorem fawryCallback_ok_iff {inv : Inventory} {replies : Nat → Reply} {order : Order}
    {callback : FawryCallback} {now : Time} {result : Inventory × Order} :
    fawryCallback inv replies order callback now = .ok (some result) ↔
      callback.passes = true ∧ fawryEvent inv replies order callback now = .ok result := by
  simp only [fawryCallback, FawryCallback.passes]
  by_cases verified : callback.verified = true <;>
    by_cases twice : duplicate callback.referenceNumber callback.fresh = true <;>
      by_cases timely : callback.timely = true <;>
        simp [verified, twice, timely, map_some_ok]

end
end Numu.Payments
