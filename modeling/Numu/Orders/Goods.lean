import Numu.Foundation.Outcome
import Numu.Orders.OrderRepository
import Numu.Orders.UpdateStatus

/-! The goods of an order: debited at checkout, and put back by partial acceptance at the door,
carrier returns and refunds that restock. -/

namespace Numu.Orders
open Numu.Stock (FailureReason Inventory Reply Restocked Scan TextCase debitOrderLine restockLines
  tryRestockOrder)

inductive RouteError where
  | entityNotFound (entity : String) (id : UUID)
  | http (statusCode : Nat) (detail : String)
  | useCase (error : UseCaseError)
  /-- An exception no handler is registered for: the request ends with a 500. -/
  | unhandled (message : String)
  deriving DecidableEq

/-- A line of the cart with what checkout found out about its stock. -/
structure CheckoutLine where
  productName : String
  productId : UUID
  variantId : Option UUID := none
  selections : Option Selections := none
  quantity : Nat := 1
  allowNegative : Bool := false
  trackInventory : Bool := true

def insufficientStock (line : CheckoutLine) (reason : FailureReason) : RouteError :=
  if line.selections.isSome then
    .http 409 (s!"Insufficient stock for {line.productName} ({reason.text}). " ++
      "Please refresh and try again.")
  else .http 409 s!"Insufficient stock for {line.productName}. Please refresh and try again."

/-- The debit loop of checkout, with the entries it collects for the manifest. -/
def debitLines [TextCase] (tenantId : UUID) :
    Inventory → (Nat → Scan) → List CheckoutLine → Except RouteError (Inventory × List StockLine)
  | inv, _, [] => .ok (inv, [])
  | inv, scans, line :: rest =>
      let later : Nat → Scan := fun n => scans (n + 1)
      if !line.trackInventory then debitLines tenantId inv later rest
      else
        match debitOrderLine inv (scans 0) (some tenantId) line.productId line.variantId
            line.selections line.quantity line.allowNegative with
        | .error reason => .error (insufficientStock line reason)
        | .ok (debited, entry) =>
            (debitLines tenantId debited later rest).map fun result =>
              (result.1, entry :: result.2)

def stampDebit (order : Order) (entries : List StockLine) : Order :=
  { order with metadata := { stockDebited := if entries = [] then none else some entries } }

structure PartialAcceptanceLine where
  orderLineIndex : Nat
  returnedQuantity : Nat
  returnedQuantity_pos : 1 ≤ returnedQuantity := by decide

structure PartialAcceptanceRequest where
  lines : List PartialAcceptanceLine
  reason : Option String := none
  restock : Bool := true
  lines_ne_nil : lines ≠ [] := by simp
  reason_length : ∀ text ∈ reason, text.length ≤ 500 := by simp

structure PartialAcceptanceResponse where
  order : Order
  returnedValueCents : Int
  collectedTotalCents : Nat
  refundDueCents : Int
  restockedLines : Nat

namespace PartialAcceptanceRequest

/-- The dict of line index to quantity: of two lines with one index the later wins. -/
def returned (request : PartialAcceptanceRequest) : List (Int × Int) :=
  (Table.ofList (request.lines.map fun line =>
    ((line.orderLineIndex : Int), (line.returnedQuantity : Int)))).rows

end PartialAcceptanceRequest

/-- What the route checks before it writes anything. -/
def checkPartialAcceptance (store : Store) (order : Option Order) (orderId : UUID)
    (request : PartialAcceptanceRequest) (now : Time) : Except RouteError Order :=
  match order with
  | none => .error (.entityNotFound "Order" orderId)
  | some order =>
      if order.storeId ≠ store.id then .error (.entityNotFound "Order" orderId)
      else if order.status ≠ .shipped ∧ order.status ≠ .delivered then
        .error (.http 409 "Partial acceptance applies to shipped or delivered orders")
      else if order.metadata.partialAcceptance.isSome then
        .error (.http 409 "A partial acceptance was already recorded for this order")
      else match order.recordPartialAcceptance request.returned request.reason now with
      | .error message => .error (.http 422 message)
      | .ok _ => .ok order

/-- A shipped order is delivered first, and the row is read again. -/
def deliverShipped [TextCase] (inv : Inventory) (replies : Nat → Reply) (store : Store)
    (order : Order) (reason : Option String) (now : Time) : Except RouteError Order :=
  if order.status = .shipped then
    let dto : UpdateOrderStatusDTO := {
      status := OrderStatus.delivered.value
      reason := if given reason then reason else some "partial acceptance" }
    match execute inv replies (some store) (some order) order.id dto store.id store.ownerId now with
    | .error error => .error (.useCase error)
    | .ok update => .ok (OrderRepository.update order update.order now)
  else .ok order

def returnedStock (lines : List ReturnedLine) : List StockLine :=
  lines.map fun ln => ⟨ln.productId, ln.variantId, ln.selections, ln.returnedQuantity⟩

/-- The restock of the returned lines and its ledger. An exception on the way is swallowed: the
lines before it stay put back and the ledger is not written. -/
def restockReturned [TextCase] (inv : Inventory) (replies : Nat → Reply) (store : Store)
    (order : Order) (lines : List StockLine) : Restocked :=
  let replay := restockLines (some store.tenantId) inv replies lines
  if replay.raised then ⟨replay.inventory, order, false, replay.putBack⟩
  else
    let ledger := order.metadata.stockRestockedLines.getD []
    ⟨replay.inventory,
      { order with
        metadata := { order.metadata with stockRestockedLines := some (ledger ++ lines) } },
      true, replay.putBack⟩

def isCod [TextCase] (order : Order) : Bool :=
  TextCase.lower (order.paymentMethod.getD "") ∈ ["cod", "cash_on_delivery", "cash"]

structure PartiallyAccepted extends Restocked where
  response : PartialAcceptanceResponse

/-- The update of the order and the response. `aborts` says that an exception of the restock
came from the database: the transaction is aborted, and the update fails with it. -/
def saveAcceptance [TextCase] (aborts : Bool) (checked : Order) (restocked : Restocked)
    (summary : PartialAcceptance) (now : Time) : Except RouteError PartiallyAccepted :=
  if restocked.restored = false ∧ aborts then
    .error (.unhandled "current transaction is aborted")
  else
    let updated := OrderRepository.update checked restocked.order now
    let refundDue :=
      if isCod restocked.order then 0
      else if checked.paymentStatus = .paid then summary.returnedValueCents else 0
    .ok ⟨{ restocked with order := updated },
      ⟨updated, summary.returnedValueCents, summary.collectedTotalCents, refundDue,
        if restocked.restored then restocked.putBack.length else 0⟩⟩

/-- `record_partial_acceptance`. -/
def recordPartialAcceptance [TextCase] (inv : Inventory) (replies : Nat → Reply) (aborts : Bool)
    (store : Store) (order : Option Order) (orderId : UUID) (request : PartialAcceptanceRequest)
    (now : Time) : Except RouteError PartiallyAccepted := do
  let checked ← checkPartialAcceptance store order orderId request now
  let delivered ← deliverShipped inv replies store checked request.reason now
  match delivered.recordPartialAcceptance request.returned request.reason now with
  | .error message => .error (.unhandled message)
  | .ok (recorded, summary) =>
      let restocked :=
        if request.restock then
          restockReturned inv replies store recorded (returnedStock summary.lines)
        else ⟨inv, recorded, true, []⟩
      saveAcceptance aborts checked restocked summary now

def returnByCarrier (order : Order) (now : Time) : Except String Order :=
  let reason := some "Returned by carrier (J&T)"
  if order.status = .shipped then order.returnToOrigin reason now
  else if order.canBeCancelled then order.cancel reason now
  else .ok order

/-- The `RETURNED` branch of the J&T webhook's `_sync_order`. -/
def jtReturned [TextCase] (inv : Inventory) (replies : Nat → Reply) (order : Order) (now : Time) :
    Except String Restocked := do
  let moved ← returnByCarrier order now
  let restocked := tryRestockOrder inv replies moved (some "jt_returned") now
  return { restocked with order := OrderRepository.update order restocked.order now }

/-- "Restock items" of a completed refund. -/
def refundRestock [TextCase] (inv : Inventory) (replies : Nat → Reply) (order : Order)
    (now : Time) : Restocked :=
  let restocked := tryRestockOrder inv replies order (some "refund_restock_items") now
  if restocked.restored then
    { restocked with order := OrderRepository.update order restocked.order now }
  else { restocked with order := order }

end Numu.Orders
