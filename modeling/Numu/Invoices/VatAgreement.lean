import Numu.Foundation.Rounding
import Numu.Invoices.InvoiceFromOrder

/-! The VAT on an invoice against the VAT that the storefront checkout resolved. -/

namespace Numu.Invoices
open Numu.Orders (Order PlacedOrder Store StorefrontCheckout Time UUID insertPriced_ok priceLines
  priceLines_eq)
open Binary64 (Within nearest roundHalfEven unitRoundoff abs_roundHalfEven_sub_le)
open Outcome (bind_eq_ok)

namespace TaxResolver

/-- The VAT inside the discounted amount of one line, without rounding. -/
def exactTax (rate : FloatValue) (line : TaxLineInput) (discount : Nat) : ℚ :=
  match rate with
  | .finite value =>
      if line.taxable then ((line.total - discount : Nat) : ℚ) * value / (1 + value) else 0
  | _ => 0

def exactTaxes (rate : FloatValue) (pairs : List (TaxLineInput × Nat)) : ℚ :=
  (pairs.map fun pair => exactTax rate pair.1 pair.2).sum

section Close
variable {rate : ℚ} {taxable : Nat}

/-- Four roundings lie between the exact tax and the float that is rounded to cents. -/
theorem lineTax_within (rate_pos : 0 < rate) (taxable : Nat) :
    Within 4 (taxable * rate / (1 + rate))
      (nearest (nearest (nearest taxable * rate) / nearest (1 + rate))) := by
  have amount : Within 1 (taxable : ℚ) (nearest taxable) := (Within.self (by positivity)).nearest
  have product : Within 2 (taxable * rate) (nearest (nearest taxable * rate)) :=
    (amount.mul (Within.self rate_pos.le)).nearest
  have base : Within 1 (1 + rate) (nearest (1 + rate)) := (Within.self (by positivity)).nearest
  have base_pos : 0 < nearest (1 + rate) := by
    have low := base.lower
    have shrunk : 0 < (1 + rate) * (1 - unitRoundoff) ^ 1 :=
      mul_pos (by positivity) (pow_pos Within.shrink_pos 1)
    linarith
  exact (product.div base (by positivity) base_pos).nearest

theorem lineTax_close (rate_pos : 0 < rate) (taxable : Nat) :
    |(lineTax true rate taxable : ℚ) - taxable * rate / (1 + rate)| ≤ 1 / 2 + taxable / 2 ^ 50 := by
  have float := (lineTax_within rate_pos taxable).abs_sub_le (by norm_num [unitRoundoff])
  have cents := abs_roundHalfEven_sub_le
    (nearest (nearest (nearest taxable * rate) / nearest (1 + rate)))
  have part : (taxable : ℚ) * rate / (1 + rate) ≤ taxable := by
    rw [div_le_iff₀ (by positivity)]
    nlinarith [(Nat.cast_nonneg taxable : (0 : ℚ) ≤ taxable)]
  have scaled : (taxable : ℚ) * rate / (1 + rate) * (2 * (4 : Nat) * unitRoundoff) ≤
      taxable / 2 ^ 50 := by
    unfold unitRoundoff
    push_cast
    linarith
  simp only [lineTax, if_true]
  rw [abs_le] at float cents ⊢
  constructor <;> linarith

theorem breakLine_close {rate : FloatValue} (taxed : isUntaxed rate = false) {index : Nat}
    {line : TaxLineInput} {discount : Nat} {broken : TaxLineBreakdown}
    (ok : breakLine true rate index line discount = .ok broken) :
    |(broken.taxCents : ℚ) - exactTax rate line discount| ≤ 1 / 2 + line.total / 2 ^ 50 := by
  have room : (0 : ℚ) ≤ 1 / 2 + line.total / 2 ^ 50 := by positivity
  unfold breakLine at ok
  simp only at ok
  cases flag : line.taxable with
  | false =>
      simp only [flag, Bool.not_false, if_true] at ok
      cases ok
      cases rate <;> simpa [exactTax, flag] using room
  | true =>
      simp only [flag, Bool.not_true, Bool.false_eq_true, if_false] at ok
      cases rate with
      | finite value =>
          cases ok
          have value_pos : 0 < value := by simpa [isUntaxed] using taxed
          have close := lineTax_close value_pos (line.total - discount)
          have less : ((line.total - discount : Nat) : ℚ) ≤ line.total := by
            exact_mod_cast Nat.sub_le _ _
          simp only [exactTax, flag, if_true]
          linarith
      | infinite negative => cases ok
      | nan => cases ok

/-- The rounding errors of the lines add up: half a cent each, and what the floats lose. -/
theorem breakLines_close {rate : FloatValue} (taxed : isUntaxed rate = false)
    (pairs : List (TaxLineInput × Nat)) (start : Nat) {breakdown : List TaxLineBreakdown}
    (ok : (pairs.zipIdx start).mapM (fun ((line, discount), index) =>
      breakLine true rate index line discount) = .ok breakdown) :
    |((breakdown.map TaxLineBreakdown.taxCents).sum : ℚ) - exactTaxes rate pairs| ≤
      pairs.length / 2 + ((pairs.map fun pair => pair.1.total).sum : Nat) / 2 ^ 50 := by
  induction pairs generalizing start breakdown with
  | nil =>
      cases ok
      simp [exactTaxes]
  | cons pair rest ih =>
      rw [List.zipIdx_cons, List.mapM_cons] at ok
      rcases bind_eq_ok.mp ok with ⟨first, here, ok⟩
      rcases bind_eq_ok.mp ok with ⟨others, there, same⟩
      cases same
      have head := breakLine_close taxed here
      have tail := ih (start + 1) there
      simp only [exactTaxes, List.map_cons, List.sum_cons, List.length_cons] at tail ⊢
      push_cast at tail ⊢
      rw [abs_le] at head tail ⊢
      constructor <;> linarith

theorem exactTaxes_zero (rate : FloatValue) {pairs : List (TaxLineInput × Nat)}
    (worthless : ∀ pair ∈ pairs, pair.1.total = 0) : exactTaxes rate pairs = 0 := by
  refine List.sum_eq_zero ?_
  intro tax member
  rcases List.mem_map.mp member with ⟨pair, listed, rfl⟩
  cases rate <;> simp [exactTax, worthless pair listed]

@[simp] theorem length_allocateDiscount (lineTotals : List Nat) (discount : Int) :
    (allocateDiscount lineTotals discount).length = lineTotals.length := by
  unfold allocateDiscount
  simp only
  split_ifs <;> simp

theorem allocateDiscount_none (lineTotals : List Nat) {discount : Int} (none : discount ≤ 0) :
    allocateDiscount lineTotals discount = lineTotals.map fun _ => 0 := by
  simp [allocateDiscount, none]

/-- The standard rate as a float is 14% up to 2⁻⁵³. -/
theorem standardRate_close : |nearest (14 / 100) - 14 / 100| ≤ 1 / 2 ^ 53 := by
  refine le_trans (Binary64.abs_nearest_sub_le (14 / 100)) ?_
  norm_num [abs_of_pos]

theorem standardRate_pos : 0 < nearest (14 / 100) := by
  have close := standardRate_close
  rw [abs_le] at close
  linarith

theorem exactTaxes_undiscounted (rate : ℚ) (lines : List TaxLineInput)
    (taxed : ∀ line ∈ lines, line.taxable = false → line.total = 0) :
    exactTaxes (.finite rate) (lines.zip (lines.map fun _ => 0)) =
      ((lines.map TaxLineInput.total).sum : Nat) * rate / (1 + rate) := by
  induction lines with
  | nil => simp [exactTaxes]
  | cons line rest ih =>
      have later := ih fun other member => taxed other (List.mem_cons_of_mem _ member)
      have here : exactTax (.finite rate) line 0 = (line.total : ℚ) * rate / (1 + rate) := by
        cases flag : line.taxable with
        | true => simp [exactTax, flag]
        | false => simp [exactTax, flag, taxed line List.mem_cons_self flag]
      simp only [exactTaxes, List.map_cons, List.zip_cons_cons, List.sum_cons] at later ⊢
      rw [here, later]
      push_cast
      ring

end Close
end TaxResolver

section Cents
variable {vat tax : Int} {subtotal lines : Nat} {exact : ℚ}

/-- Rounding alone moves the two amounts apart by at most half a cent per line. -/
theorem agree_of_gap (extracted : |57 * vat - 7 * subtotal| ≤ 28)
    (resolved : |(tax : ℚ) - exact| ≤ lines / 2 + 1 / 2 ^ 19)
    (gap : |7 * (subtotal : ℚ) / 57 - exact| ≤ 1 / 200) : 2 * |vat - tax| ≤ lines := by
  have extracted' : |57 * (vat : ℚ) - 7 * subtotal| ≤ 28 := by exact_mod_cast extracted
  have apart : 2 * |(vat : ℚ) - tax| < lines + 1 := by
    rw [abs_le] at extracted' resolved gap
    rw [← lt_div_iff₀' (by norm_num), abs_lt]
    constructor <;> linarith
  have apart' : 2 * |vat - tax| < lines + 1 := by exact_mod_cast apart
  omega

theorem gap_of_agree (extracted : |57 * vat - 7 * subtotal| ≤ 28)
    (resolved : |(tax : ℚ) - exact| ≤ lines / 2 + 1 / 2 ^ 19)
    (agree : 2 * |vat - tax| ≤ lines) : |7 * (subtotal : ℚ) / 57 - exact| ≤ lines + 1 / 2 := by
  have extracted' : |57 * (vat : ℚ) - 7 * subtotal| ≤ 28 := by exact_mod_cast extracted
  have agree' : 2 * |(vat : ℚ) - tax| ≤ lines := by exact_mod_cast agree
  rw [← le_div_iff₀' (by norm_num), abs_le] at agree'
  rw [abs_le] at extracted' resolved ⊢
  constructor <;> linarith

end Cents

section Checkout
variable [UpperCase] {checkout : StorefrontCheckout} {order : PlacedOrder}
open TaxResolver (allocateDiscount isUntaxed exactTaxes exactTaxes_undiscounted exactTaxes_zero
  breakLines_close standardRate_close standardRate_pos)

def appliedRate (checkout : StorefrontCheckout) : FloatValue :=
  (taxResolverForCountry checkout.country).resolveRate checkout.taxSettings checkout.destination

def lineTotals (checkout : StorefrontCheckout) : List Nat :=
  checkout.taxLines.map TaxLineInput.total

/-- The lines with their shares of the order's discount. -/
def discountedLines (checkout : StorefrontCheckout) : List (TaxLineInput × Nat) :=
  let gross := (lineTotals checkout).sum
  checkout.taxLines.zip
    (allocateDiscount (lineTotals checkout) (max 0 (min checkout.discountAmount gross)))

/-- The VAT of what the customer pays for the lines, without rounding. -/
def exactVat (checkout : StorefrontCheckout) : ℚ :=
  if checkout.taxSettings.enabled = .bool false ∨ isUntaxed (appliedRate checkout) then 0
  else exactTaxes (appliedRate checkout) (discountedLines checkout)

/-- What an invoice at 14% of the whole subtotal adds to that VAT, without rounding. -/
def vatGap (checkout : StorefrontCheckout) : ℚ :=
  7 * (lineTotals checkout).sum / 57 - exactVat checkout

omit [UpperCase] in
theorem map_fst_discountedLines (checkout : StorefrontCheckout) :
    (discountedLines checkout).map Prod.fst = checkout.taxLines := by
  refine List.map_fst_zip ?_
  simp [lineTotals]

omit [UpperCase] in
theorem worthless_lines (none : (lineTotals checkout).sum = 0) {pair : TaxLineInput × Nat}
    (member : pair ∈ discountedLines checkout) : pair.1.total = 0 := by
  have line : pair.1 ∈ checkout.taxLines := by
    rw [← map_fst_discountedLines]
    exact List.mem_map_of_mem member
  rw [List.sum_eq_zero_iff] at none
  exact none _ (List.mem_map_of_mem line)

theorem exactVat_worthless (none : (lineTotals checkout).sum = 0) : exactVat checkout = 0 := by
  unfold exactVat
  split_ifs
  · rfl
  · exact exactTaxes_zero _ fun pair member => worthless_lines none member

omit [UpperCase] in
theorem discountedLines_totals :
    ((discountedLines checkout).map fun pair => pair.1.total) = lineTotals checkout := by
  rw [lineTotals, ← map_fst_discountedLines, List.map_map]
  rfl

omit [UpperCase] in
theorem length_discountedLines :
    (discountedLines checkout).length = checkout.lineItems.length := by
  rw [← List.length_map Prod.fst, map_fst_discountedLines]
  simp [StorefrontCheckout.taxLines]

/-- The resolved tax is the exact one up to half a cent per line. -/
theorem resolvedTax_close {resolution : ResolvedTax}
    (resolved : checkout.resolvedTax = .ok resolution) :
    |(resolution.includedTaxCents : ℚ) - exactVat checkout| ≤
      checkout.lineItems.length / 2 + (lineTotals checkout).sum / 2 ^ 50 := by
  have room : (0 : ℚ) ≤ checkout.lineItems.length / 2 + (lineTotals checkout).sum / 2 ^ 50 := by
    positivity
  unfold StorefrontCheckout.resolvedTax TaxResolver.resolve at resolved
  simp only [Bool.true_or, if_true] at resolved
  split_ifs at resolved with disabled untaxed worthless
  · cases resolved
    simpa [exactVat, disabled] using room
  · cases resolved
    simpa [exactVat, appliedRate, untaxed] using room
  · cases resolved
    simpa [exactVat_worthless worthless] using room
  · change (TaxResolver.breakLines true (appliedRate checkout) checkout.taxLines
      (allocateDiscount (lineTotals checkout) _)).map _ = _ at resolved
    cases broken : TaxResolver.breakLines true (appliedRate checkout) checkout.taxLines
        (allocateDiscount (lineTotals checkout)
          (max 0 (min checkout.discountAmount (lineTotals checkout).sum))) with
    | error message =>
        rw [lineTotals] at broken
        rw [lineTotals, broken] at resolved
        cases resolved
    | ok breakdown =>
        have taxed : isUntaxed (appliedRate checkout) = false := by
          simpa [appliedRate] using untaxed
        have close := breakLines_close taxed (discountedLines checkout) 0 broken
        rw [lineTotals] at broken
        rw [lineTotals, broken] at resolved
        cases resolved
        rw [discountedLines_totals, length_discountedLines] at close
        simpa [exactVat, disabled, taxed] using close

/-- What the placed order takes over from the checkout. -/
theorem place_ok {store : Store} {orderId : UUID} {orderNumber : String} {now : Time}
    (placed : checkout.place store orderId orderNumber now = .ok order) :
    (∃ resolution, checkout.resolvedTax = .ok resolution) ∧
      order.subtotal = (lineTotals checkout).sum ∧
        order.lineItems.length = checkout.lineItems.length := by
  unfold StorefrontCheckout.place at placed
  cases resolved : checkout.resolvedTax with
  | error message =>
      rw [resolved] at placed
      cases placed
  | ok resolution =>
      rw [resolved] at placed
      have same := insertPriced_ok placed
      refine ⟨⟨resolution, rfl⟩, ?_, ?_⟩
      · rw [same]
        simp [Order.withPrices, priceLines_eq, lineTotals, StorefrontCheckout.taxLines,
          Function.comp_def, Numu.Orders.CreateOrderLineItemDTO.lineItem, TaxLineInput.total]
      · rw [same]
        simp [Order.withPrices, priceLines_eq]

/-- The invoice's VAT is the resolved one, up to half a cent per line. -/
def AgreesOnVat (checkout : StorefrontCheckout) (order : PlacedOrder) : Prop :=
  ∀ resolution, checkout.resolvedTax = .ok resolution →
    ∀ store invoiceNumber status buyerEmail invoice,
      invoiceFromOrder store order.toOrder invoiceNumber status buyerEmail = .ok invoice →
        2 * |invoice.vatAmount - resolution.includedTaxCents| ≤ order.lineItems.length

/-- Checkout takes 14% of everything it sells, at the full price. -/
structure ChargesStandardVat (checkout : StorefrontCheckout) : Prop where
  enabled : checkout.taxSettings.enabled ≠ .bool false
  rate : appliedRate checkout = .finite (nearest (14 / 100))
  undiscounted : checkout.discountAmount ≤ 0
  taxed : ∀ line ∈ checkout.taxLines, line.taxable = false → line.total = 0

theorem exactVat_standard (standard : ChargesStandardVat checkout) :
    exactVat checkout = (lineTotals checkout).sum * nearest (14 / 100) / (1 + nearest (14 / 100)) := by
  have shares : max 0 (min checkout.discountAmount ((lineTotals checkout).sum : Int)) ≤ 0 := by
    have none := standard.undiscounted
    omega
  have taxed : ¬nearest (14 / 100) ≤ 0 := not_le.mpr standardRate_pos
  have lines := exactTaxes_undiscounted (nearest (14 / 100)) checkout.taxLines standard.taxed
  simp only [exactVat, standard.enabled, standard.rate, isUntaxed, taxed, discountedLines,
    TaxResolver.allocateDiscount_none _ shares]
  simpa [lineTotals, Function.comp_def] using lines

/-- 14% of the full price is what the invoice extracts; the float of the rate loses less than a
thousandth of a cent. -/
theorem vatGap_standard (standard : ChargesStandardVat checkout)
    (fits : (lineTotals checkout).sum < 2 ^ 31) : |vatGap checkout| ≤ 1 / 200 := by
  have below : ((lineTotals checkout).sum : ℚ) < 2 ^ 31 := by exact_mod_cast fits
  have nonneg : (0 : ℚ) ≤ (lineTotals checkout).sum := by positivity
  have close := standardRate_close
  have rate_pos := standardRate_pos
  rw [vatGap, exactVat_standard standard]
  generalize nearest (14 / 100) = rate at close rate_pos ⊢
  have split : 7 * ((lineTotals checkout).sum : ℚ) / 57 - (lineTotals checkout).sum * rate / (1 + rate) =
      (lineTotals checkout).sum * (14 / 100 - rate) / (114 / 100 * (1 + rate)) := by
    field_simp
    ring
  rw [split, abs_div, abs_mul, abs_of_nonneg nonneg, div_le_iff₀ (by positivity),
    abs_of_pos (by positivity : 0 < 114 / 100 * (1 + rate)), abs_sub_comm]
  nlinarith

/-- The VAT on the invoice of a placed order agrees with checkout's up to half a cent per line if
the order is worthless or checkout took 14% of everything at the full price. Conversely, where
they agree, the VAT that the invoice adds is at most a cent per line and half a cent more. -/
theorem agreesOnVat {store : Store} {orderId : UUID} {orderNumber : String} {now : Time}
    (placed : checkout.place store orderId orderNumber now = .ok order) :
    (order.subtotal = 0 ∨ ChargesStandardVat checkout → AgreesOnVat checkout order) ∧
      (AgreesOnVat checkout order → |vatGap checkout| ≤ order.lineItems.length + 1 / 2) := by
  rcases place_ok placed with ⟨⟨resolution, resolved⟩, subtotal, count⟩
  have fits := order.priced.subtotal_fits
  rw [subtotal] at fits
  have close : ∀ taxed, checkout.resolvedTax = .ok taxed →
      |(taxed.includedTaxCents : ℚ) - exactVat checkout| ≤
        order.lineItems.length / 2 + 1 / 2 ^ 19 := by
    intro taxed taxed_eq
    have bound : ((lineTotals checkout).sum : ℚ) < 2 ^ 31 := by exact_mod_cast fits
    have error := resolvedTax_close taxed_eq
    rw [count]
    linarith
  constructor
  · intro standard taxed taxed_eq shop number status email invoice issued
    have gap : |vatGap checkout| ≤ 1 / 200 := by
      rcases standard with worthless | standard
      · rw [subtotal] at worthless
        simp [vatGap, worthless, exactVat_worthless worthless]
      · exact vatGap_standard standard fits
    rcases invoiceFromOrder_totals shop order number status email with
      ⟨invoice', issued', _, _, extracted⟩
    rw [issued] at issued'
    cases issued'
    rw [subtotal] at extracted
    exact agree_of_gap extracted (close taxed taxed_eq) gap
  · intro agrees
    rcases invoiceFromOrder_totals { store with name := "" } order "" .accepted "" with
      ⟨invoice, issued, _, _, extracted⟩
    have agree := agrees resolution resolved _ _ _ _ invoice issued
    rw [subtotal] at extracted
    exact gap_of_agree extracted (close resolution resolved) agree

end Checkout

/-- A cart of one line of the product 1. -/
def singleLine (taxExemptProductIds : List UUID) (discountAmount : Int) : StorefrontCheckout :=
  { customerId := 1
    lineItems := [{ productId := 1, unitPrice := 10000 }]
    shippingAddress := {}
    shippingCost := 5000
    discountAmount
    currency := "EGP"
    paymentMethod := some "cod"
    taxSettings := {}
    country := some "EG"
    taxExemptProductIds }

theorem agreesOnVat_full_price : letI := UpperCase.ascii
    ∃ order, (singleLine [] 0).place ⟨1, 1, 1⟩ 1 "1001" 0 = .ok order ∧
      AgreesOnVat (singleLine [] 0) order := by
  let _ := UpperCase.ascii
  have accepted : ((singleLine [] 0).place ⟨1, 1, 1⟩ 1 "1001" 0).isOk = true := by decide +kernel
  cases placed : (singleLine [] 0).place ⟨1, 1, 1⟩ 1 "1001" 0 with
  | error problem =>
      rw [placed] at accepted
      cases accepted
  | ok order =>
      have standard : ChargesStandardVat (singleLine [] 0) :=
        ⟨by decide, by decide +kernel, by decide, by decide⟩
      exact ⟨order, rfl, (agreesOnVat placed).1 (Or.inr standard)⟩

/-- A zero-rated product: checkout takes no VAT of it, and its invoice shows 12.28. -/
theorem exempt_line_taxed : letI := UpperCase.ascii
    ∃ order, (singleLine [1] 0).place ⟨1, 1, 1⟩ 1 "1001" 0 = .ok order ∧
      ¬AgreesOnVat (singleLine [1] 0) order := by
  let _ := UpperCase.ascii
  have accepted : ((singleLine [1] 0).place ⟨1, 1, 1⟩ 1 "1001" 0).isOk = true := by decide +kernel
  have untaxed : (singleLine [1] 0).resolvedTax.map ResolvedTax.includedTaxCents = .ok 0 := by
    decide +kernel
  cases placed : (singleLine [1] 0).place ⟨1, 1, 1⟩ 1 "1001" 0 with
  | error problem =>
      rw [placed] at accepted
      cases accepted
  | ok order =>
      refine ⟨order, rfl, ?_⟩
      intro agrees
      rcases place_ok placed with ⟨⟨resolution, resolved⟩, subtotal, count⟩
      rcases invoiceFromOrder_totals { id := 1, ownerId := 1, name := "" } order "1" .accepted ""
        with ⟨invoice, issued, _, _, extracted⟩
      have agree := agrees resolution resolved _ _ _ _ invoice issued
      have price : order.subtotal = 10000 := subtotal
      have lines : order.lineItems.length = 1 := count
      have none : resolution.includedTaxCents = 0 := by
        rw [resolved] at untaxed
        exact Except.ok.inj untaxed
      rw [price, abs_le] at extracted
      rw [lines, none, sub_zero] at agree
      have small := le_abs_self invoice.vatAmount
      omega

end Numu.Invoices
