import Numu.Foundation.DecimalContext
import Numu.Foundation.Outcome
import Numu.Orders.Order

/-! The invoice entity: its lines, its totals and the VAT extracted from them. -/

namespace Numu.Invoices
open Numu.Orders (UUID)

/-- `DEFAULT_VAT_RATE`. -/
def defaultVatRate : ℚ := 14

inductive InvoiceStatus where
  | draft
  | pending
  | submitted
  | accepted
  | rejected
  | cancelled
  deriving DecidableEq, Repr

inductive InvoiceType where
  | invoice
  | creditNote
  | debitNote
  deriving DecidableEq, Repr

structure SellerInfo where
  taxId : String
  name : String
  nameAr : Option String := none
  branchId : String := "0"
  country : String := "EG"
  governorate : Option String := none
  city : Option String := none
  street : Option String := none
  buildingNumber : Option String := none
  activityCode : String := "4649"
  phone : Option String := none
  email : Option String := none
  deriving DecidableEq, Repr

structure BuyerInfo where
  buyerType : String := "B"
  name : String
  nameAr : Option String := none
  country : String := "EG"
  governorate : Option String := none
  city : Option String := none
  street : Option String := none
  phone : Option String := none
  email : Option String := none
  deriving DecidableEq, Repr

structure TaxLine where
  taxType : String := "T1"
  amount : ℚ
  subType : String := "V009"
  rate : ℚ := defaultVatRate
  deriving DecidableEq, Repr

structure InvoiceLineItem where
  description : String
  descriptionAr : Option String := none
  itemType : String := "GS1"
  itemCode : String
  unitType : String := "EA"
  quantity : ℚ
  unitPrice : ℚ
  discount : ℚ := 0
  salesTotal : ℚ
  netTotal : ℚ
  taxes : List TaxLine := []
  total : ℚ
  internalCode : Option String := none
  deriving DecidableEq, Repr

structure Invoice where
  storeId : UUID
  tenantId : Option UUID := none
  orderId : Option UUID := none
  customerId : Option UUID := none
  invoiceNumber : String
  internalId : Option String := none
  invoiceType : InvoiceType := .invoice
  status : InvoiceStatus := .draft
  seller : SellerInfo
  buyer : BuyerInfo
  currency : String := "EGP"
  lineItems : List InvoiceLineItem := []
  pricesIncludeVat : Bool := true
  vatRate : ℚ := defaultVatRate
  subtotal : Int := 0
  vatAmount : Int := 0
  netAmountBeforeVat : Int := 0
  totalDiscount : Int := 0
  extraDiscount : Int := 0
  shippingFee : Int := 0
  grandTotal : Int := 0
  totalTaxes : Int := 0
  total : Int := 0
  deriving DecidableEq, Repr

/-- `_round_cents`. -/
def roundCents (amount : ℚ) : Except String Int :=
  DecimalContext.quantize (DecimalContext.mul amount 100)

/-- The VAT inside an amount, before it is rounded to cents. -/
def vatWithin (amount vatRate : ℚ) : ℚ :=
  DecimalContext.div (DecimalContext.mul amount vatRate) (DecimalContext.add 100 vatRate)

/-- The VAT inside a subtotal in cents, and what is left of it. -/
def extractVatCents (subtotalCents : Int) (vatRate : ℚ) : Except String (Int × Int) :=
  if subtotalCents ≤ 0 ∨ vatRate ≤ 0 then .ok (0, max 0 subtotalCents)
  else (DecimalContext.quantize (vatWithin subtotalCents vatRate)).map fun vat =>
    (vat, subtotalCents - vat)

namespace Invoice

/-- The loop over the lines, with the two sums it keeps. -/
def sumLines : List InvoiceLineItem → Int → Int → Except String (Int × Int)
  | [], subtotal, discount => .ok (subtotal, discount)
  | item :: rest, subtotal, discount => do
      let net ← roundCents item.netTotal
      let off ← roundCents item.discount
      sumLines rest (subtotal + net) (discount + off)

def withTotals (invoice : Invoice) (subtotal discount vat net : Int) : Invoice :=
  let grandTotal := subtotal + invoice.shippingFee - invoice.extraDiscount
  { invoice with
    subtotal
    totalDiscount := discount
    vatAmount := vat
    netAmountBeforeVat := net
    grandTotal
    totalTaxes := vat
    total := grandTotal }

def calculateTotals (invoice : Invoice) : Except String Invoice := do
  let sums ← sumLines invoice.lineItems 0 0
  let vat ← extractVatCents sums.1 invoice.vatRate
  return invoice.withTotals sums.1 sums.2 vat.1 vat.2

/-- The line that `add_line_item` builds. -/
def lineItem (invoice : Invoice) (description itemCode : String) (quantity unitPrice discount : ℚ)
    (vatRate : Option ℚ) (descriptionAr internalCode : Option String) : InvoiceLineItem :=
  let effectiveRate := vatRate.getD invoice.vatRate
  let salesTotal := DecimalContext.mul quantity unitPrice
  let netTotal := DecimalContext.sub salesTotal discount
  let vatAmount := if 0 < effectiveRate ∧ 0 < netTotal then vatWithin netTotal effectiveRate else 0
  { description
    descriptionAr
    itemType := "EGS"
    itemCode
    quantity
    unitPrice
    discount
    salesTotal
    netTotal
    taxes := [{ amount := vatAmount, rate := effectiveRate }]
    total := netTotal
    internalCode }

def addLineItem (invoice : Invoice) (description itemCode : String)
    (quantity unitPrice discount : ℚ) (vatRate : Option ℚ)
    (descriptionAr internalCode : Option String) : Except String Invoice :=
  let item := invoice.lineItem description itemCode quantity unitPrice discount vatRate
    descriptionAr internalCode
  { invoice with lineItems := invoice.lineItems ++ [item] }.calculateTotals

end Invoice

section Exact
variable {cents : Nat}

/-- An amount of whole cents is rounded to itself. -/
theorem roundCents_cents (fits : cents < 10 ^ 28) : roundCents (cents / 100) = .ok (cents : Int) := by
  have whole : (cents / 100 : ℚ) * 100 = ((cents : Int) : ℚ) := by
    push_cast
    ring
  have digits : ((cents : Int) : ℚ) * 10 ^ 0 = ((cents : Int) : ℚ) := by simp
  unfold roundCents DecimalContext.mul
  rw [whole, DecimalContext.fix_exact digits (by simpa [DecimalContext.precision] using fits)]
  exact DecimalContext.quantize_intCast (by simpa [DecimalContext.precision] using fits)

theorem roundCents_zero : roundCents 0 = .ok 0 := by
  have fits : 0 < 10 ^ 28 := by norm_num
  simpa using roundCents_cents fits

/-- At 14% the VAT inside a subtotal is `7/57` of it, to 28 digits. -/
theorem vatWithin_standard (fits : cents < 2 ^ 31) :
    vatWithin ((cents : Int) : ℚ) defaultVatRate = DecimalContext.fix (7 * cents / 57) := by
  have product : DecimalContext.mul ((cents : Int) : ℚ) defaultVatRate = 14 * cents := by
    have digits : ((cents : Int) : ℚ) * defaultVatRate * 10 ^ 0 = ((14 * cents : Int) : ℚ) := by
      unfold defaultVatRate
      push_cast
      ring
    unfold DecimalContext.mul
    rw [DecimalContext.fix_exact digits (by unfold DecimalContext.precision; omega)]
    unfold defaultVatRate
    push_cast
    ring
  have divisor : DecimalContext.add 100 defaultVatRate = 114 := by
    have digits : (100 + defaultVatRate) * 10 ^ 0 = ((114 : Int) : ℚ) := by
      norm_num [defaultVatRate]
    unfold DecimalContext.add
    rw [DecimalContext.fix_exact digits (by norm_num [DecimalContext.precision])]
    norm_num [defaultVatRate]
  have ratio : (14 * cents / 114 : ℚ) = 7 * cents / 57 := by ring
  unfold vatWithin
  rw [product, divisor, DecimalContext.div, ratio]

/-- Rounding to 28 digits first does not move the nearest cent: sevenths of 57 keep clear of
halves. -/
theorem roundHalfUp_fix_standard (fits : cents < 2 ^ 31) :
    |57 * DecimalContext.roundHalfUp (DecimalContext.fix (7 * cents / 57)) - 7 * cents| ≤ 28 := by
  have below : (cents : ℚ) < 2 ^ 31 := by exact_mod_cast fits
  have nonneg : (0 : ℚ) ≤ 7 * cents / 57 := by positivity
  have digit := DecimalContext.abs_fix_sub_le (7 * cents / 57)
  have whole := DecimalContext.abs_roundHalfUp_sub_le (DecimalContext.fix (7 * cents / 57))
  rw [abs_of_nonneg nonneg, le_div_iff₀ (by positivity)] at digit
  generalize DecimalContext.roundHalfUp (DecimalContext.fix (7 * cents / 57)) = vat at whole ⊢
  have tiny : |DecimalContext.fix (7 * cents / 57) - 7 * cents / 57| ≤ 1 / 1000 := by nlinarith
  have close : |(57 * vat - 7 * cents : ℚ)| < 29 := by
    rw [abs_le] at whole tiny
    rw [abs_lt]
    constructor <;> linarith
  have near : |57 * vat - 7 * (cents : Int)| < 29 := by exact_mod_cast close
  omega

/-- At 14% the VAT of a subtotal is `7/57` of it, to the nearest cent. -/
theorem extractVatCents_standard (fits : cents < 2 ^ 31) :
    ∃ vat : Int, extractVatCents cents defaultVatRate = .ok (vat, cents - vat) ∧
      |57 * vat - 7 * cents| ≤ 28 := by
  rcases Nat.eq_zero_or_pos cents with rfl | positive
  · exact ⟨0, by simp [extractVatCents], by simp⟩
  have near := roundHalfUp_fix_standard fits
  have small : (DecimalContext.roundHalfUp (DecimalContext.fix (7 * cents / 57))).natAbs <
      10 ^ DecimalContext.precision := by
    unfold DecimalContext.precision
    rw [abs_le] at near
    omega
  have taxed : ¬((cents : Int) ≤ 0 ∨ defaultVatRate ≤ 0) := by
    unfold defaultVatRate
    push Not
    constructor
    · omega
    · norm_num
  refine ⟨_, ?_, near⟩
  unfold extractVatCents
  rw [if_neg taxed, vatWithin_standard fits]
  simp [DecimalContext.quantize, small, Except.map]

end Exact

/-- A line whose inclusive total is a whole number of cents and that carries no discount. -/
def CentsLine (item : InvoiceLineItem) (cents : Nat) : Prop :=
  item.netTotal = cents / 100 ∧ item.discount = 0

namespace Invoice

theorem sumLines_cents {items : List InvoiceLineItem} {cents : List Nat}
    (lines : List.Forall₂ CentsLine items cents) (fits : cents.sum < 10 ^ 28)
    (subtotal discount : Int) :
    sumLines items subtotal discount = .ok (subtotal + cents.sum, discount) := by
  induction lines generalizing subtotal with
  | nil => simp [sumLines]
  | @cons item amount items cents line lines ih =>
      rw [List.sum_cons] at fits
      have net : roundCents item.netTotal = .ok (amount : Int) := by
        rw [line.1]
        exact roundCents_cents (by omega)
      have off : roundCents item.discount = .ok 0 := by rw [line.2, roundCents_zero]
      have later := ih (by omega) (subtotal + amount)
      simp only [sumLines, net, off]
      rw [List.sum_cons, Nat.cast_add, ← add_assoc]
      simpa only [bind, Except.bind, Int.add_zero] using later

/-- What the totals of an invoice over whole cents are. -/
theorem calculateTotals_cents {invoice : Invoice} {cents : List Nat}
    (lines : List.Forall₂ CentsLine invoice.lineItems cents) (fits : cents.sum < 2 ^ 31)
    (rate : invoice.vatRate = defaultVatRate) :
    ∃ vat : Int,
      invoice.calculateTotals = .ok (invoice.withTotals cents.sum 0 vat (cents.sum - vat)) ∧
        |57 * vat - 7 * cents.sum| ≤ 28 := by
  have sums := sumLines_cents lines (by omega) 0 0
  rw [zero_add] at sums
  rcases extractVatCents_standard fits with ⟨vat, extracted, near⟩
  refine ⟨vat, ?_, near⟩
  simp only [calculateTotals, sums, rate, extracted, bind, Except.bind, pure, Except.pure]

end Invoice
end Numu.Invoices
