import Mathlib.Algebra.BigOperators.Ring.List
import Numu.Invoices.EtaDocument

/-!
# The document against its lines

Each line is rounded to cents once for the header, and the header's VAT once more; everything else
that the two chains round is far below a cent. A line's VAT leaves the header where the line is
taxed at the invoice's rate.
-/

namespace Numu.Invoices
open Binary64 (Within nearest unitRoundoff)
open DecimalContext (fix within_fix)

/-- The line is one that `add_line_item` builds at a rate. -/
def Invoice.Builds (invoice : Invoice) (rate : Option ℚ) (item : InvoiceLineItem) : Prop :=
  ∃ description itemCode quantity unitPrice discount descriptionAr internalCode,
    item = invoice.lineItem description itemCode quantity unitPrice discount rate descriptionAr
      internalCode

/-- A line without a discount of its own, taxed at the invoice's rate. -/
def Invoice.Plain (invoice : Invoice) (item : InvoiceLineItem) : Prop :=
  invoice.Builds none item ∧ item.discount = 0 ∧ 0 ≤ item.netTotal

def EtaDocument.netTotals (document : EtaDocument) : ℚ :=
  (document.invoiceLines.map EtaLine.netTotal).sum

def EtaDocument.lineTotals (document : EtaDocument) : ℚ :=
  (document.invoiceLines.map EtaLine.total).sum

/-- The header agrees with the lines to half a cent a line. -/
def EtaDocument.Reconciles (document : EtaDocument) : Prop :=
  let allowance := (document.invoiceLines.length : ℚ) / 200
  |document.netAmount - document.netTotals| ≤ allowance ∧
    |document.totalAmount - (document.lineTotals - document.extraDiscountAmount)| ≤ allowance

def sizes (items : List InvoiceLineItem) : ℚ := (items.map fun item => |item.netTotal|).sum

def nets (items : List InvoiceLineItem) : ℚ := (items.map InvoiceLineItem.netTotal).sum

/-- The amounts whose floats the header and the lines hold. -/
def Invoice.amounts (invoice : Invoice) : ℚ :=
  sizes invoice.lineItems + (|(invoice.subtotal : ℚ)| +
    |((invoice.netAmountBeforeVat - invoice.totalDiscount : Int) : ℚ)| +
      |(invoice.grandTotal : ℚ)| + |(invoice.extraDiscount : ℚ)|) / 100

/-- The part of an inclusive amount that is VAT. -/
def taxShare (rate : ℚ) : ℚ := if 0 < rate then rate / (100 + rate) else 0

theorem sizes_nonneg (items : List InvoiceLineItem) : 0 ≤ sizes items :=
  List.sum_nonneg (List.forall_mem_map.mpr fun item _ => abs_nonneg item.netTotal)

theorem quantize_close {q : ℚ} {cents : Int} (ok : DecimalContext.quantize q = .ok cents) :
    |(cents : ℚ) - q| ≤ 1 / 2 := by
  rcases DecimalContext.quantize_eq_ok.mp ok with ⟨rfl, -⟩
  exact DecimalContext.abs_roundHalfUp_sub_le q

theorem roundCents_close {q : ℚ} {cents : Int} (ok : roundCents q = .ok cents) :
    |(cents : ℚ) - 100 * q| ≤ 1 / 2 + 100 * |q| / 2 ^ 53 := by
  have rounded := quantize_close ok
  have digits := DecimalContext.abs_fix_sub_le_float (q * 100)
  have size : |q * 100| = 100 * |q| := by
    rw [abs_mul, mul_comm]
    norm_num
  rw [size] at digits
  calc
    _ = |((cents : ℚ) - fix (q * 100)) + (fix (q * 100) - q * 100)| := by
      congr 1
      ring
    _ ≤ |(cents : ℚ) - fix (q * 100)| + |fix (q * 100) - q * 100| := abs_add_le _ _
    _ ≤ 1 / 2 + 100 * |q| / 2 ^ 53 := add_le_add rounded digits

/-- The subtotal is the sum of the lines up to half a cent each. -/
theorem sumLines_close {items : List InvoiceLineItem} {subtotal discount : Int}
    {sums : Int × Int} (ok : Invoice.sumLines items subtotal discount = .ok sums) :
    |(sums.1 : ℚ) - subtotal - 100 * nets items| ≤
      items.length / 2 + 100 * sizes items / 2 ^ 53 := by
  induction items generalizing subtotal discount with
  | nil =>
      cases ok
      simp [nets, sizes]
  | cons item rest ih =>
      rw [Invoice.sumLines] at ok
      rcases Outcome.bind_eq_ok.mp ok with ⟨net, rounded, ok⟩
      rcases Outcome.bind_eq_ok.mp ok with ⟨off, -, later⟩
      have here := roundCents_close rounded
      have there := ih later
      simp only [nets, sizes, List.map_cons, List.sum_cons, List.length_cons] at there ⊢
      push_cast at there ⊢
      rw [abs_le] at here there ⊢
      constructor <;> linarith

theorem sumLines_discount {items : List InvoiceLineItem} {subtotal discount : Int}
    {sums : Int × Int} (full : ∀ item ∈ items, item.discount = 0)
    (ok : Invoice.sumLines items subtotal discount = .ok sums) : sums.2 = discount := by
  induction items generalizing subtotal discount with
  | nil =>
      cases ok
      rfl
  | cons item rest ih =>
      rw [Invoice.sumLines, full item List.mem_cons_self, roundCents_zero] at ok
      rcases Outcome.bind_eq_ok.mp ok with ⟨net, -, later⟩
      have kept := ih (fun other member => full other (List.mem_cons_of_mem _ member)) later
      rw [kept, Int.add_zero]

theorem calculateTotals_ok {invoice computed : Invoice}
    (ok : invoice.calculateTotals = .ok computed) :
    ∃ sums vat, Invoice.sumLines invoice.lineItems 0 0 = .ok sums ∧
      extractVatCents sums.1 invoice.vatRate = .ok vat ∧
        computed = invoice.withTotals sums.1 sums.2 vat.1 vat.2 := by
  rcases Outcome.bind_eq_ok.mp ok with ⟨sums, summed, ok⟩
  rcases Outcome.bind_eq_ok.mp ok with ⟨vat, extracted, built⟩
  cases built
  exact ⟨sums, vat, summed, extracted, rfl⟩

theorem major_close (cents : Int) : |major cents - cents / 100| ≤ |(cents : ℚ)| / 100 / 2 ^ 53 := by
  have error := Binary64.abs_nearest_sub_le ((cents : ℚ) / 100)
  rwa [abs_div, abs_of_pos (by norm_num : (0 : ℚ) < 100)] at error

theorem taxShare_nonneg (rate : ℚ) : 0 ≤ taxShare rate := by
  unfold taxShare
  split_ifs with taxed
  · positivity
  · exact le_refl 0

theorem taxShare_le_one (rate : ℚ) : taxShare rate ≤ 1 := by
  unfold taxShare
  split_ifs with taxed
  · rw [div_le_one (by linarith)]
    linarith
  · exact zero_le_one

/-- Three operations round the VAT inside an amount. -/
theorem within_vatWithin {amount rate : ℚ} (nonneg : 0 ≤ amount) (taxed : 0 < rate) :
    Within 3 (amount * taxShare rate) (vatWithin amount rate) := by
  have product := within_fix (Within.self (mul_nonneg nonneg taxed.le))
  have divisor := within_fix (Within.self (by linarith : 0 ≤ 100 + rate))
  have positive : 0 < fix (100 + rate) := by
    have exact_pos : 0 < (100 + rate) * (1 - unitRoundoff) ^ 1 := by
      have shrink := Within.shrink_pos
      positivity
    exact exact_pos.trans_le divisor.lower
  have quotient := within_fix (product.div divisor (by linarith) positive)
  have share : amount * taxShare rate = amount * rate / (100 + rate) := by
    rw [taxShare, if_pos taxed, mul_div_assoc]
  rw [share]
  exact quotient

theorem within_zero (n : Nat) : Within n 0 0 := ⟨le_refl 0, by simp, by simp⟩

/-- The rounded VAT of a line, before and after it is summed over the line's one tax. -/
theorem within_lineVat {amount rate : ℚ} (nonneg : 0 ≤ amount) :
    Within 4 (amount * taxShare rate)
      (fix (0 + if 0 < rate ∧ 0 < amount then vatWithin amount rate else 0)) := by
  rw [zero_add]
  by_cases taxed : 0 < rate
  · by_cases positive : 0 < amount
    · rw [if_pos ⟨taxed, positive⟩]
      exact within_fix (within_vatWithin nonneg taxed)
    · have zero : amount = 0 := le_antisymm (not_lt.mp positive) nonneg
      rw [if_neg fun both => positive both.2, zero, zero_mul]
      simpa [fix] using within_zero 4
  · rw [if_neg fun both => taxed both.1, taxShare, if_neg taxed, mul_zero]
    simpa [fix] using within_zero 4

theorem netFloat_close {net vat rate : ℚ} (nonneg : 0 ≤ net)
    (close : Within 4 (net * taxShare rate) vat) :
    |nearest (DecimalContext.sub net vat) - net * (1 - taxShare rate)| ≤ net / 2 ^ 49 := by
  have share_nonneg := taxShare_nonneg rate
  have share_le := taxShare_le_one rate
  have within : net * taxShare rate ≤ net := mul_le_of_le_one_right nonneg share_le
  have taken : |vat - net * taxShare rate| ≤ net * (8 * unitRoundoff) := by
    calc
      _ ≤ net * taxShare rate * (2 * (4 : Nat) * unitRoundoff) :=
        close.abs_sub_le (by norm_num [unitRoundoff])
      _ ≤ net * (8 * unitRoundoff) := by
        have unit : 2 * ((4 : Nat) : ℚ) * unitRoundoff = 8 * unitRoundoff := by norm_num
        rw [unit]
        exact mul_le_mul_of_nonneg_right within (by norm_num [unitRoundoff])
  have left : |net - vat| ≤ 2 * net := by
    have product : 0 ≤ net * taxShare rate := mul_nonneg nonneg share_nonneg
    unfold unitRoundoff at taken
    rw [abs_le] at taken ⊢
    constructor <;> linarith
  have digits := DecimalContext.abs_fix_sub_le_float (net - vat)
  have few : |fix (net - vat) - (net - vat)| ≤ 2 * net / 2 ^ 53 :=
    digits.trans (by gcongr)
  have size : |fix (net - vat)| ≤ 3 * net := by
    rw [abs_le] at few left ⊢
    constructor <;> linarith
  have float : |nearest (fix (net - vat)) - fix (net - vat)| ≤ 3 * net / 2 ^ 53 :=
    (Binary64.abs_nearest_sub_le _).trans (by gcongr)
  unfold DecimalContext.sub
  unfold unitRoundoff at taken
  rw [abs_le] at taken few float ⊢
  constructor <;> linarith

/-- An untouched line's pre-tax float, up to the roundings far below a cent. -/
theorem line_close {invoice : Invoice} {item : InvoiceLineItem} (built : invoice.Builds none item)
    (nonneg : 0 ≤ item.netTotal) :
    |(invoice.etaLine item).netTotal - item.netTotal * (1 - taxShare invoice.vatRate)| ≤
      |item.netTotal| / 2 ^ 49 := by
  rw [abs_of_nonneg nonneg]
  rcases built with ⟨description, itemCode, quantity, unitPrice, discount, descriptionAr,
    internalCode, rfl⟩
  exact netFloat_close nonneg (within_lineVat nonneg)

theorem sum_close {items : List InvoiceLineItem} {f g : InvoiceLineItem → ℚ} {unit : ℚ}
    (each : ∀ item ∈ items, |f item - g item| ≤ |item.netTotal| / unit) :
    |(items.map f).sum - (items.map g).sum| ≤ sizes items / unit := by
  induction items with
  | nil => simp [sizes]
  | cons item rest ih =>
      have here := each item List.mem_cons_self
      have there := ih fun other member => each other (List.mem_cons_of_mem _ member)
      simp only [sizes, List.map_cons, List.sum_cons] at there ⊢
      calc
        _ = |(f item - g item) + ((rest.map f).sum - (rest.map g).sum)| := by
          congr 1
          ring
        _ ≤ |f item - g item| + |(rest.map f).sum - (rest.map g).sum| := abs_add_le _ _
        _ ≤ |item.netTotal| / unit + _ / unit := add_le_add here there
        _ = _ := (add_div _ _ _).symm

theorem netTotals_close (fields : EtaFields) (computed : Invoice) {invoice : Invoice}
    (plain : ∀ item ∈ computed.lineItems, invoice.Plain item) :
    |(computed.toEtaFormat fields).netTotals -
        nets computed.lineItems * (1 - taxShare invoice.vatRate)| ≤
      sizes computed.lineItems / 2 ^ 49 := by
  have each : ∀ item ∈ computed.lineItems,
      |(computed.etaLine item).netTotal - item.netTotal * (1 - taxShare invoice.vatRate)| ≤
        |item.netTotal| / 2 ^ 49 := by
    intro item member
    have same : (computed.etaLine item).netTotal = (invoice.etaLine item).netTotal := rfl
    rw [same]
    exact line_close (plain item member).1 (plain item member).2.2
  have summed := sum_close each
  rw [List.sum_map_mul_right] at summed
  simpa only [EtaDocument.netTotals, Invoice.toEtaFormat, List.map_map, Function.comp_def,
    nets] using summed

/-- VAT leaves the header with one rounding to a cent. -/
theorem extractVatCents_close {subtotal : Int} {rate : ℚ} {sums : Int × Int}
    (nonneg : 0 ≤ subtotal) (ok : extractVatCents subtotal rate = .ok sums) :
    |(sums.2 : ℚ) - subtotal * (1 - taxShare rate)| ≤
      1 / 2 + |(subtotal : ℚ)| * 6 / 2 ^ 53 := by
  have amount_nonneg : (0 : ℚ) ≤ subtotal := by exact_mod_cast nonneg
  rw [abs_of_nonneg amount_nonneg]
  unfold extractVatCents at ok
  split_ifs at ok with free
  · cases ok
    have share : (subtotal : ℚ) * (1 - taxShare rate) = subtotal := by
      rcases free with low | untaxed
      · have zero : subtotal = 0 := le_antisymm low nonneg
        rw [zero, Int.cast_zero, zero_mul]
      · rw [taxShare, if_neg (not_lt.mpr untaxed), sub_zero, mul_one]
    rw [share, max_eq_right nonneg, sub_self, abs_zero]
    positivity
  · have taxed : 0 < rate := not_le.mp fun low => free (.inr low)
    rcases Outcome.map_eq_ok.mp ok with ⟨vat, rounded, rfl⟩
    have cent := quantize_close rounded
    have close := within_vatWithin amount_nonneg taxed
    have small := close.abs_sub_le (by norm_num [unitRoundoff])
    have within : (subtotal : ℚ) * taxShare rate ≤ subtotal :=
      mul_le_of_le_one_right amount_nonneg (taxShare_le_one rate)
    unfold unitRoundoff at small
    push_cast at small ⊢
    rw [abs_le] at cent small ⊢
    constructor <;> linarith

theorem roundCents_nonneg {q : ℚ} {cents : Int} (nonneg : 0 ≤ q) (ok : roundCents q = .ok cents) :
    0 ≤ cents := by
  have scaled := (within_fix (Within.self (by linarith : 0 ≤ q * 100))).computed_nonneg
  rcases DecimalContext.quantize_eq_ok.mp ok with ⟨rfl, -⟩
  unfold DecimalContext.roundHalfUp DecimalContext.mul
  rw [if_pos scaled]
  exact Int.floor_nonneg.mpr (by linarith)

theorem sumLines_nonneg {items : List InvoiceLineItem} {subtotal discount : Int}
    {sums : Int × Int} (nonneg : ∀ item ∈ items, 0 ≤ item.netTotal) (start : 0 ≤ subtotal)
    (ok : Invoice.sumLines items subtotal discount = .ok sums) : 0 ≤ sums.1 := by
  induction items generalizing subtotal discount with
  | nil =>
      cases ok
      exact start
  | cons item rest ih =>
      rw [Invoice.sumLines] at ok
      rcases Outcome.bind_eq_ok.mp ok with ⟨net, rounded, ok⟩
      rcases Outcome.bind_eq_ok.mp ok with ⟨off, -, later⟩
      have here := roundCents_nonneg (nonneg item List.mem_cons_self) rounded
      exact ih (fun other member => nonneg other (List.mem_cons_of_mem _ member))
        (add_nonneg start here) later

theorem lineTotals_close (fields : EtaFields) (computed : Invoice) {invoice : Invoice}
    (built : ∀ item ∈ computed.lineItems, ∃ rate, invoice.Builds rate item) :
    |(computed.toEtaFormat fields).lineTotals - nets computed.lineItems| ≤
      sizes computed.lineItems / 2 ^ 53 := by
  have each : ∀ item ∈ computed.lineItems,
      |(computed.etaLine item).total - item.netTotal| ≤ |item.netTotal| / 2 ^ 53 := by
    intro item member
    rcases built item member with ⟨rate, description, itemCode, quantity, unitPrice, discount,
      descriptionAr, internalCode, rfl⟩
    exact Binary64.abs_nearest_sub_le _
  have summed := sum_close each
  simpa only [EtaDocument.lineTotals, Invoice.toEtaFormat, List.map_map, Function.comp_def,
    nets] using summed

theorem totalAmount_close {invoice computed : Invoice} (fields : EtaFields)
    (built : ∀ item ∈ invoice.lineItems, ∃ rate, invoice.Builds rate item)
    (ok : invoice.calculateTotals = .ok computed) :
    |(computed.toEtaFormat fields).totalAmount -
        ((computed.toEtaFormat fields).lineTotals + computed.shippingFee / 100 -
          (computed.toEtaFormat fields).extraDiscountAmount)| ≤
      (computed.lineItems.length : ℚ) / 200 + computed.amounts / 2 ^ 47 := by
  rcases calculateTotals_ok ok with ⟨sums, vat, summed, -, rfl⟩
  have lines := sumLines_close summed
  have floats := lineTotals_close fields (invoice.withTotals sums.1 sums.2 vat.1 vat.2) built
  have total := major_close (sums.1 + invoice.shippingFee - invoice.extraDiscount)
  have extra := major_close invoice.extraDiscount
  have sizes_pos := sizes_nonneg invoice.lineItems
  have subtotal_pos := abs_nonneg (sums.1 : ℚ)
  have net_pos := abs_nonneg ((vat.2 - sums.2 : Int) : ℚ)
  have total_pos := abs_nonneg ((sums.1 + invoice.shippingFee - invoice.extraDiscount : Int) : ℚ)
  have extra_pos := abs_nonneg (invoice.extraDiscount : ℚ)
  simp only [Invoice.toEtaFormat, Invoice.withTotals, Invoice.amounts] at floats ⊢
  rw [Int.cast_zero, sub_zero] at lines
  have whole : ((sums.1 + invoice.shippingFee - invoice.extraDiscount : Int) : ℚ) / 100 =
      sums.1 / 100 + invoice.shippingFee / 100 - invoice.extraDiscount / 100 := by
    push_cast
    ring
  rw [whole] at total
  rw [abs_le] at lines floats total extra ⊢
  constructor <;> linarith

theorem netAmount_close {invoice computed : Invoice} (fields : EtaFields)
    (plain : ∀ item ∈ invoice.lineItems, invoice.Plain item)
    (ok : invoice.calculateTotals = .ok computed) :
    |(computed.toEtaFormat fields).netAmount - (computed.toEtaFormat fields).netTotals| ≤
      ((computed.lineItems.length : ℚ) + 1) / 200 + computed.amounts / 2 ^ 47 := by
  rcases calculateTotals_ok ok with ⟨sums, vat, summed, extracted, rfl⟩
  have nonneg := sumLines_nonneg (fun item member => (plain item member).2.2) (le_refl 0) summed
  have full := sumLines_discount (fun item member => (plain item member).2.1) summed
  have lines := sumLines_close summed
  have header := extractVatCents_close nonneg extracted
  have floats := netTotals_close fields (invoice.withTotals sums.1 sums.2 vat.1 vat.2) plain
  have net := major_close (vat.2 - sums.2)
  rw [full, sub_zero] at net
  rw [Int.cast_zero, sub_zero] at lines
  -- The lines' cents count for less once the VAT is out of them.
  have left : |(sums.1 : ℚ) * (1 - taxShare invoice.vatRate) -
      100 * nets invoice.lineItems * (1 - taxShare invoice.vatRate)| ≤
        invoice.lineItems.length / 2 + 100 * sizes invoice.lineItems / 2 ^ 53 := by
    rw [← sub_mul, abs_mul]
    have kept : |1 - taxShare invoice.vatRate| ≤ 1 := by
      rw [abs_of_nonneg (sub_nonneg.mpr (taxShare_le_one _))]
      linarith [taxShare_nonneg invoice.vatRate]
    exact (mul_le_of_le_one_right (abs_nonneg _) kept).trans lines
  have sizes_pos := sizes_nonneg invoice.lineItems
  have subtotal_pos := abs_nonneg (sums.1 : ℚ)
  have net_pos := abs_nonneg (vat.2 : ℚ)
  have total_pos := abs_nonneg ((sums.1 + invoice.shippingFee - invoice.extraDiscount : Int) : ℚ)
  have extra_pos := abs_nonneg (invoice.extraDiscount : ℚ)
  simp only [Invoice.toEtaFormat, Invoice.withTotals, Invoice.amounts, full, sub_zero] at floats ⊢
  rw [abs_le] at left header floats net ⊢
  constructor <;> linarith

/-- The header against the lines. Shipping is in the total and in no line; VAT is rounded to a cent
on the header alone. -/
theorem toEtaFormat_reconciles (fields : EtaFields) {invoice computed : Invoice}
    (built : ∀ item ∈ invoice.lineItems, ∃ rate, invoice.Builds rate item)
    (ok : invoice.calculateTotals = .ok computed) :
    let document := computed.toEtaFormat fields
    let lines : ℚ := document.invoiceLines.length
    |document.totalAmount -
        (document.lineTotals + computed.shippingFee / 100 - document.extraDiscountAmount)| ≤
      lines / 200 + computed.amounts / 2 ^ 47 ∧
    ((∀ item ∈ invoice.lineItems, invoice.Plain item) →
      |document.netAmount - document.netTotals| ≤
        (lines + 1) / 200 + computed.amounts / 2 ^ 47) := by
  intro document lines
  have count : lines = computed.lineItems.length := by
    simp [lines, document, Invoice.toEtaFormat]
  rw [count]
  exact ⟨totalAmount_close fields built ok, fun plain => netAmount_close fields plain ok⟩

/-- One shirt of 114.00 with VAT, delivered for 50.00, less 10.00. -/
def deliveredShirt : Invoice :=
  let invoice : Invoice := {
    storeId := 1
    invoiceNumber := "INV-1"
    seller := { taxId := "100200300", name := "Nile Shirts" }
    buyer := { name := "Mona" }
    extraDiscount := 1000
    shippingFee := 5000 }
  { invoice with lineItems := [invoice.lineItem "Shirt" "EG-1" 1 114 0 none none none] }

def shirtFields : EtaFields where
  id := 1
  dateIssued := 0

theorem toEtaFormat_reconciles_shirt :
    let computed := deliveredShirt.withTotals 11400 0 1400 10000
    let document := computed.toEtaFormat shirtFields
    |document.totalAmount - (document.lineTotals + 5000 / 100 - document.extraDiscountAmount)| ≤
      1 / 200 + computed.amounts / 2 ^ 47 ∧
    |document.netAmount - document.netTotals| ≤ (1 + 1) / 200 + computed.amounts / 2 ^ 47 := by
  have built : ∀ item ∈ deliveredShirt.lineItems, deliveredShirt.Plain item := by
    intro item member
    rcases List.mem_singleton.mp member with rfl
    exact ⟨⟨_, _, _, _, _, _, _, rfl⟩, rfl, by decide +kernel⟩
  have ok : deliveredShirt.calculateTotals =
      .ok (deliveredShirt.withTotals 11400 0 1400 10000) := by decide +kernel
  have reconciled := toEtaFormat_reconciles shirtFields
    (fun item member => ⟨none, (built item member).1⟩) ok
  have fee : (deliveredShirt.withTotals 11400 0 1400 10000).shippingFee = 5000 := rfl
  have count : ((deliveredShirt.withTotals 11400 0 1400 10000).toEtaFormat
      shirtFields).invoiceLines.length = 1 := rfl
  simp only [fee, count, Nat.cast_one, Int.cast_ofNat] at reconciled
  exact ⟨reconciled.1, reconciled.2 built⟩

theorem shipping_is_in_no_line :
    ∃ computed, deliveredShirt.calculateTotals = .ok computed ∧
      ¬(computed.toEtaFormat shirtFields).Reconciles := by
  refine ⟨deliveredShirt.withTotals 11400 0 1400 10000, by decide +kernel, ?_⟩
  unfold EtaDocument.Reconciles
  decide +kernel

end Numu.Invoices
