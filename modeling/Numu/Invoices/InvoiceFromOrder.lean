import Numu.Invoices.Invoice
import Numu.Orders.CreateOrder

/-! The invoice of an order, and what its totals are. -/

namespace Numu.Invoices
open Numu.Orders (Order OrderLineItem PlacedOrder Store given)
open Outcome (bind_eq_ok)

/-- A store with what its invoices say about it. `invoiceSettings` is `settings["invoice"]`. -/
structure InvoicingStore extends Store where
  name : String
  settings : List (String × String) := []
  invoiceSettings : List (String × String) := []
  address : List (String × String) := []
  contactPhone : Option String := none
  contactEmail : Option String := none

def entry (dict : List (String × String)) (key : String) : Option String :=
  (dict.find? fun pair => pair.1 = key).map Prod.snd

/-- `pick`: the first text that is not empty. -/
def InvoicingStore.pick (store : InvoicingStore) (key : String) (fallbacks : List String)
    (default : String) : String :=
  let candidates := entry store.invoiceSettings key :: entry store.settings key ::
    fallbacks.map (entry store.address)
  ((candidates.find? given).join).getD default

def sellerFromStore (store : InvoicingStore) : SellerInfo :=
  let phone := entry store.settings "phone"
  { taxId := store.pick "tax_id" [] ""
    name := store.name
    nameAr := some (store.pick "name_ar" [] store.name)
    branchId := store.pick "branch_id" [] "0"
    country := (entry store.address "country").getD "EG"
    governorate := some (store.pick "governorate" ["governorate", "state"] "")
    city := some (store.pick "city" ["city"] "")
    street := some (store.pick "street" ["street", "address_line1"] "")
    buildingNumber := some (store.pick "building_number" ["building_number"] "")
    activityCode := store.pick "activity_code" [] "4649"
    phone := if given phone then phone else store.contactPhone
    email := store.contactEmail }

def buyerFromOrder (order : Order) (email : String) : BuyerInfo :=
  let ship := order.shippingAddress
  let fullName := IntegerText.strip (ship.firstName ++ " " ++ ship.lastName).toList
  let name := if fullName = [] then "Customer" else String.ofList fullName
  let parts := [ship.addressLine1, ship.addressLine2.getD ""].filter fun part => part ≠ ""
  { buyerType := "P"
    name
    nameAr := some name
    governorate := some (ship.state.getD "")
    city := some ship.city
    street := some (", ".intercalate parts)
    phone := some (ship.phone.getD "")
    email := some email }

/-- `_FALLBACK_ITEM_CODE`. -/
def fallbackItemCode : String := "EG-0000-0000"

def describe (li : OrderLineItem) : String :=
  if given li.variantName then li.productName ++ " — " ++ li.variantName.getD ""
  else li.productName

/-- The invoice before its first line. -/
def invoiceHeader (store : InvoicingStore) (order : Order) (invoiceNumber : String)
    (status : InvoiceStatus) (buyerEmail : String) : Invoice :=
  { storeId := store.id
    tenantId := some store.tenantId
    orderId := some order.id
    customerId := some order.customerId
    invoiceNumber
    internalId := some order.orderNumber
    status
    seller := sellerFromStore store
    buyer := buyerFromOrder order buyerEmail
    currency := order.currency
    shippingFee := order.shippingCost
    extraDiscount := order.discountAmount
    pricesIncludeVat := true }

def addOrderLine (invoice : Invoice) (li : OrderLineItem) : Except String Invoice :=
  invoice.addLineItem (describe li) (if given li.sku then li.sku.getD "" else fallbackItemCode)
    li.quantity (DecimalContext.div li.unitPrice 100) 0 none (some (describe li)) li.sku

def invoiceFromOrder (store : InvoicingStore) (order : Order) (invoiceNumber : String)
    (status : InvoiceStatus) (buyerEmail : String) : Except String Invoice := do
  let invoice ← order.lineItems.foldlM addOrderLine
    (invoiceHeader store order invoiceNumber status buyerEmail)
  invoice.calculateTotals

section Lines
variable {invoice : Invoice} {cents : List Nat}

/-- The invoice so far: its lines are worth these cents, under the order's fee and discount. -/
structure Itemised (header invoice : Invoice) (cents : List Nat) : Prop where
  lines : List.Forall₂ CentsLine invoice.lineItems cents
  rate : invoice.vatRate = defaultVatRate
  shippingFee : invoice.shippingFee = header.shippingFee
  extraDiscount : invoice.extraDiscount = header.extraDiscount

/-- An amount of whole cents, as a decimal. -/
theorem fix_cents {cents : Nat} (fits : cents < 2 ^ 31) :
    DecimalContext.fix (cents / 100) = cents / 100 := by
  have digits : (cents / 100 : ℚ) * 10 ^ 2 = ((cents : Int) : ℚ) := by
    push_cast
    ring
  exact DecimalContext.fix_exact digits (by unfold DecimalContext.precision; omega)

theorem lineItem_cents {li : OrderLineItem} (total : li.totalPrice = li.unitPrice * li.quantity)
    (fits : li.totalPrice < 2 ^ 31) (description itemCode : String)
    (vatRate : Option ℚ) (descriptionAr internalCode : Option String) :
    CentsLine (invoice.lineItem description itemCode li.quantity
      (DecimalContext.div li.unitPrice 100) 0 vatRate descriptionAr internalCode)
      li.totalPrice := by
  have unit : li.unitPrice * 1 ≤ li.unitPrice * li.quantity :=
    Nat.mul_le_mul_left _ li.quantity_pos
  have unit_small : li.unitPrice < 2 ^ 31 := by omega
  have sales : (li.quantity : ℚ) * (li.unitPrice / 100) = (li.totalPrice : ℚ) / 100 := by
    rw [total]
    push_cast
    ring
  refine ⟨?_, rfl⟩
  simp only [Invoice.lineItem, DecimalContext.div, DecimalContext.mul, DecimalContext.sub]
  rw [fix_cents unit_small, sales, fix_cents fits, sub_zero, fix_cents fits]

theorem Itemised.addOrderLine {header : Invoice} (so_far : Itemised header invoice cents)
    {li : OrderLineItem} (total : li.totalPrice = li.unitPrice * li.quantity)
    (fits : cents.sum + li.totalPrice < 2 ^ 31) :
    ∃ next, Invoices.addOrderLine invoice li = .ok next ∧
      Itemised header next (cents ++ [li.totalPrice]) := by
  have line : CentsLine (invoice.lineItem (describe li) _ li.quantity _ 0 none _ li.sku)
      li.totalPrice :=
    lineItem_cents total (by omega) (describe li)
      (if given li.sku then li.sku.getD "" else fallbackItemCode) none (some (describe li)) li.sku
  have lines := List.rel_append so_far.lines (List.Forall₂.cons line List.Forall₂.nil)
  have sum : (cents ++ [li.totalPrice]).sum < 2 ^ 31 := by simpa using fits
  rcases @Invoice.calculateTotals_cents { invoice with lineItems := _ } _ lines sum
    so_far.rate with ⟨vat, totals, _⟩
  exact ⟨_, totals, lines, so_far.rate, so_far.shippingFee, so_far.extraDiscount⟩

/-- The loop over the order's lines keeps the invoice itemised. -/
theorem Itemised.addOrderLines {header : Invoice} (so_far : Itemised header invoice cents)
    (items : List OrderLineItem)
    (total : ∀ li ∈ items, li.totalPrice = li.unitPrice * li.quantity)
    (fits : cents.sum + (items.map OrderLineItem.totalPrice).sum < 2 ^ 31) :
    ∃ done, items.foldlM Invoices.addOrderLine invoice = .ok done ∧
      Itemised header done (cents ++ items.map OrderLineItem.totalPrice) := by
  induction items generalizing invoice cents with
  | nil => exact ⟨invoice, rfl, by simpa using so_far⟩
  | cons li rest ih =>
      rw [List.map_cons, List.sum_cons] at fits
      rcases so_far.addOrderLine (total li List.mem_cons_self) (by omega) with
        ⟨next, added, itemised⟩
      have room : (cents ++ [li.totalPrice]).sum + (rest.map OrderLineItem.totalPrice).sum <
          2 ^ 31 := by
        rw [List.sum_append, List.sum_singleton]
        omega
      rcases ih itemised (fun other member => total other (List.mem_cons_of_mem _ member)) room with
        ⟨done, looped, complete⟩
      refine ⟨done, ?_, by simpa using complete⟩
      rw [List.foldlM_cons]
      exact bind_eq_ok.mpr ⟨next, added, looped⟩

end Lines

/-- What the invoice of a placed order says: the order's subtotal, its 14% VAT to the nearest
cent, and the order's total. -/
theorem invoiceFromOrder_totals (store : InvoicingStore) (order : PlacedOrder)
    (invoiceNumber : String) (status : InvoiceStatus) (buyerEmail : String) :
    ∃ invoice,
      invoiceFromOrder store order.toOrder invoiceNumber status buyerEmail = .ok invoice ∧
        invoice.subtotal = order.subtotal ∧ invoice.grandTotal = order.total ∧
          |57 * invoice.vatAmount - 7 * order.subtotal| ≤ 28 := by
  set header := invoiceHeader store order.toOrder invoiceNumber status buyerEmail with header_def
  have empty : Itemised header header [] := ⟨List.Forall₂.nil, rfl, rfl, rfl⟩
  have subtotal := order.priced.subtotal_eq
  have total := order.priced.total_eq
  have fits := order.priced.subtotal_fits
  rw [subtotal] at fits
  have room : ([] : List Nat).sum + (order.lineItems.map OrderLineItem.totalPrice).sum < 2 ^ 31 := by
    simpa using fits
  rcases empty.addOrderLines order.lineItems order.priced.line_total room with
    ⟨filled, looped, itemised⟩
  rw [List.nil_append] at itemised
  rcases Invoice.calculateTotals_cents itemised.lines fits itemised.rate with ⟨vat, totals, near⟩
  rw [← subtotal] at totals near
  refine ⟨_, bind_eq_ok.mpr ⟨filled, looped, totals⟩, rfl, ?_, near⟩
  have fee : filled.shippingFee = order.shippingCost := itemised.shippingFee
  have discount : filled.extraDiscount = order.discountAmount := itemised.extraDiscount
  simp only [Invoice.withTotals, fee, discount]
  exact total.symm

/-- The invoice asks for what the order charges. -/
theorem invoiceFromOrder_grandTotal (store : InvoicingStore) (order : PlacedOrder)
    (invoiceNumber : String) (status : InvoiceStatus) (buyerEmail : String) :
    ∃ invoice,
      invoiceFromOrder store order.toOrder invoiceNumber status buyerEmail = .ok invoice ∧
        invoice.grandTotal = order.total := by
  rcases invoiceFromOrder_totals store order invoiceNumber status buyerEmail with
    ⟨invoice, issued, _, charged, _⟩
  exact ⟨invoice, issued, charged⟩

end Numu.Invoices
