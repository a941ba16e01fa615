import Numu.Invoices.Invoice
import Numu.Invoices.TaxResolver
import Numu.Orders.UpdateStatus

/-! How the dashboard, the cart checkout and the storefront checkout price a new order. -/

namespace Numu.Orders
open Numu.Invoices (ResolvedTax TaxLineInput TaxSettings UpperCase defaultVatRate extractVatCents
  taxResolverForCountry)

structure CreateOrderLineItemDTO where
  productId : UUID
  productName : String := ""
  quantity : Nat := 1
  unitPrice : Nat := 0
  variantId : Option UUID := none
  variantName : Option String := none
  sku : Option String := none
  quantity_pos : 1 ≤ quantity := by first | exact Numu.Orders.one_piece | decide

def CreateOrderLineItemDTO.lineItem (dto : CreateOrderLineItemDTO) : OrderLineItem :=
  { productId := dto.productId
    productName := dto.productName
    variantId := dto.variantId
    variantName := dto.variantName
    sku := dto.sku
    quantity := dto.quantity
    unitPrice := dto.unitPrice
    totalPrice := dto.unitPrice * dto.quantity
    quantity_pos := dto.quantity_pos }

/-- One turn of the loop over the lines: the line items so far and their subtotal. -/
def addLine (priced : List OrderLineItem × Nat) (dto : CreateOrderLineItemDTO) :
    List OrderLineItem × Nat :=
  let item := dto.lineItem
  (priced.1 ++ [item], priced.2 + item.totalPrice)

def priceLines (lines : List CreateOrderLineItemDTO) : List OrderLineItem × Nat :=
  lines.foldl addLine ([], 0)

/-- The prices of an order as they are when it is created. -/
structure Order.Priced (order : Order) : Prop where
  line_total : ∀ line ∈ order.lineItems, line.totalPrice = line.unitPrice * line.quantity
  subtotal_eq : order.subtotal = (order.lineItems.map OrderLineItem.totalPrice).sum
  total_eq : (order.total : Int) = order.subtotal + order.shippingCost - order.discountAmount
  subtotal_fits : order.subtotal < 2 ^ 31
  uncollected : order.collectedTotal = none

/-- An order whose amounts are still those it was created with. -/
structure PlacedOrder extends Order where
  priced : toOrder.Priced

inductive NewOrderError where
  /-- "Input should be greater than or equal to 0", for each of the fields. -/
  | validation (fields : List String)
  /-- "value out of int32 range". -/
  | outOfRange
  | arithmetic (message : String)
  deriving DecidableEq

/-- The amount columns of the row are 32-bit integers. -/
def Order.fitsColumns (order : Order) : Prop :=
  order.subtotal < 2 ^ 31 ∧ order.shippingCost < 2 ^ 31 ∧ order.taxAmount < 2 ^ 31 ∧
    order.discountAmount < 2 ^ 31 ∧ order.total < 2 ^ 31

instance (order : Order) : Decidable order.fitsColumns :=
  inferInstanceAs (Decidable (_ ∧ _))

section PriceLines

theorem foldl_addLine (lines : List CreateOrderLineItemDTO) (priced : List OrderLineItem × Nat) :
    lines.foldl addLine priced =
      (priced.1 ++ lines.map CreateOrderLineItemDTO.lineItem,
        priced.2 + (lines.map fun dto => dto.lineItem.totalPrice).sum) := by
  induction lines generalizing priced with
  | nil => simp
  | cons dto rest ih =>
      rw [List.foldl_cons, ih]
      simp [addLine, add_assoc]

theorem priceLines_eq (lines : List CreateOrderLineItemDTO) :
    priceLines lines =
      (lines.map CreateOrderLineItemDTO.lineItem,
        (lines.map fun dto => dto.lineItem.totalPrice).sum) := by
  simp [priceLines, foldl_addLine]

end PriceLines

/-- The draft with its amounts filled in. -/
def Order.withPrices (draft : Order) (lines : List CreateOrderLineItemDTO) (shippingCost : Nat)
    (taxAmount discountAmount : Int) : Order :=
  let priced := priceLines lines
  { draft with
    lineItems := priced.1
    subtotal := priced.2
    shippingCost
    taxAmount := taxAmount.toNat
    discountAmount := discountAmount.toNat
    total := ((priced.2 : Int) + shippingCost - discountAmount).toNat
    collectedTotal := none }

theorem Order.withPrices_priced {draft : Order} {lines : List CreateOrderLineItemDTO}
    {shippingCost : Nat} {taxAmount discountAmount : Int} (discounted : 0 ≤ discountAmount)
    (charged : 0 ≤ ((priceLines lines).2 : Int) + shippingCost - discountAmount)
    (fits : (draft.withPrices lines shippingCost taxAmount discountAmount).fitsColumns) :
    (draft.withPrices lines shippingCost taxAmount discountAmount).Priced := by
  refine ⟨?_, ?_, ?_, fits.1, rfl⟩
  · intro line member
    simp only [withPrices, priceLines_eq, List.mem_map] at member
    rcases member with ⟨dto, _, rfl⟩
    rfl
  · simp [withPrices, priceLines_eq, Function.comp_def]
  · simp only [withPrices]
    rw [Int.toNat_of_nonneg charged, Int.toNat_of_nonneg discounted]

/-- The call of `Order(…)` with its field checks, and the insert of the row. -/
def insertPriced (draft : Order) (lines : List CreateOrderLineItemDTO) (shippingCost : Nat)
    (taxAmount discountAmount : Int) : Except NewOrderError PlacedOrder :=
  let total := ((priceLines lines).2 : Int) + shippingCost - discountAmount
  let order := draft.withPrices lines shippingCost taxAmount discountAmount
  if negative : taxAmount < 0 ∨ discountAmount < 0 ∨ total < 0 then
    .error (.validation (([("tax_amount", taxAmount), ("discount_amount", discountAmount),
      ("total", total)].filter fun field => field.2 < 0).map Prod.fst))
  else if fits : order.fitsColumns then
    .ok ⟨order, Order.withPrices_priced (by omega) (by omega) fits⟩
  else .error .outOfRange

/-- What an accepted order is. -/
theorem insertPriced_ok {draft : Order} {lines : List CreateOrderLineItemDTO} {shippingCost : Nat}
    {taxAmount discountAmount : Int} {order : PlacedOrder}
    (placed : insertPriced draft lines shippingCost taxAmount discountAmount = .ok order) :
    order.toOrder = draft.withPrices lines shippingCost taxAmount discountAmount := by
  unfold insertPriced at placed
  simp only at placed
  split_ifs at placed
  cases placed
  rfl

def recordedVat (subtotal : Nat) : Except NewOrderError Int :=
  match extractVatCents subtotal defaultVatRate with
  | .ok vat => .ok vat.1
  | .error message => .error (.arithmetic message)

structure CreateOrderDTO where
  customerId : UUID
  lineItems : List CreateOrderLineItemDTO
  shippingAddress : OrderShippingAddress
  shippingCost : Nat := 0
  taxAmount : Nat := 0
  discountAmount : Nat := 0
  currency : String := "EGP"
  paymentMethod : Option String := none

/-- The order of `CreateOrderUseCase.execute`; a `tax_amount` of 0 counts as not given. -/
def createOrder (dto : CreateOrderDTO) (store : Store) (orderId : UUID) (orderNumber : String)
    (asDraft : Bool) (now : Time) : Except NewOrderError PlacedOrder := do
  let extracted ← recordedVat (priceLines dto.lineItems).2
  let draft : Order := {
    id := orderId
    storeId := store.id
    tenantId := some store.tenantId
    customerId := dto.customerId
    orderNumber
    shippingAddress := dto.shippingAddress
    status := if asDraft then .draft else .pending
    currency := dto.currency
    paymentMethod := dto.paymentMethod
    createdAt := now
    updatedAt := now }
  insertPriced draft dto.lineItems dto.shippingCost
    (if dto.taxAmount = 0 then extracted else dto.taxAmount) dto.discountAmount

/-- What the cart checkout has settled before it prices the order. -/
structure CartCheckout where
  customerId : UUID
  lineItems : List CreateOrderLineItemDTO
  shippingAddress : OrderShippingAddress
  shippingCost : Nat
  discountAmount : Int
  currency : String
  paymentMethod : Option String

/-- The order of `CheckoutUseCase.execute`. -/
def checkoutCart (cart : CartCheckout) (store : Store) (orderId : UUID) (orderNumber : String)
    (now : Time) : Except NewOrderError PlacedOrder := do
  let taxAmount ← recordedVat (priceLines cart.lineItems).2
  let draft : Order := {
    id := orderId
    storeId := store.id
    tenantId := some store.tenantId
    customerId := cart.customerId
    orderNumber
    shippingAddress := cart.shippingAddress
    currency := cart.currency
    paymentMethod := cart.paymentMethod
    createdAt := now
    updatedAt := now }
  insertPriced draft cart.lineItems cart.shippingCost taxAmount cart.discountAmount

/-- What the storefront checkout has settled before it resolves the tax. -/
structure StorefrontCheckout extends CartCheckout where
  taxSettings : TaxSettings
  country : Option String
  taxExemptProductIds : List UUID

namespace StorefrontCheckout

def taxLines (checkout : StorefrontCheckout) : List TaxLineInput :=
  checkout.lineItems.map fun li =>
    ⟨li.unitPrice, li.quantity, li.productId ∉ checkout.taxExemptProductIds⟩

/-- `shipping_address.state or shipping_address.city`. -/
def destination (checkout : StorefrontCheckout) : Option String :=
  if given checkout.shippingAddress.state then checkout.shippingAddress.state
  else some checkout.shippingAddress.city

def resolvedTax [UpperCase] (checkout : StorefrontCheckout) : Except String ResolvedTax :=
  (taxResolverForCountry checkout.country).resolve checkout.taxSettings checkout.taxLines
    checkout.discountAmount checkout.destination true

/-- The order of the storefront's `create_order`. -/
def place [UpperCase] (checkout : StorefrontCheckout) (store : Store) (orderId : UUID)
    (orderNumber : String) (now : Time) : Except NewOrderError PlacedOrder :=
  match checkout.resolvedTax with
  | .error message => .error (.arithmetic message)
  | .ok resolution =>
      let draft : Order := {
        id := orderId
        storeId := store.id
        tenantId := some store.tenantId
        customerId := checkout.customerId
        orderNumber
        shippingAddress := checkout.shippingAddress
        currency := checkout.currency
        paymentMethod := checkout.paymentMethod
        createdAt := now
        updatedAt := now }
      insertPriced draft checkout.lineItems checkout.shippingCost resolution.includedTaxCents
        checkout.discountAmount

end StorefrontCheckout
end Numu.Orders
