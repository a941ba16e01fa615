import Numu.Foundation.Binary64
import Numu.Foundation.DecimalContext
import Numu.Foundation.Shares
import Numu.Foundation.Outcome

/-!
# The money value object

An amount is a decimal of the currency's places, rounded there when the value is built.
-/

namespace Numu.ValueObjects

inductive Currency where
  | usd
  | eur
  | gbp
  | sar
  | aed
  | kwd
  | bhd
  | qar
  | omr
  | egp
  deriving DecidableEq, Repr

/-- `CURRENCY_DECIMALS`. -/
def Currency.decimals : Currency → Nat
  | .usd | .eur | .gbp | .sar | .aed | .qar | .egp => 2
  | .kwd | .bhd | .omr => 3

structure Money where
  amount : ℚ
  currency : Currency := .usd
  rounded : ∃ cents : Int, cents.natAbs < 10 ^ DecimalContext.precision ∧
    amount * 10 ^ currency.decimals = cents

namespace Money

/-- The constructor, with the rounding of its validator. -/
def build (amount : ℚ) (currency : Currency) : Except String Money :=
  match quantized : DecimalContext.quantize (amount * 10 ^ currency.decimals) with
  | .error message => .error message
  | .ok cents => .ok {
      amount := cents / 10 ^ currency.decimals
      currency
      rounded := ⟨cents, (DecimalContext.quantize_eq_ok.mp quantized).2,
        div_mul_cancel₀ _ (pow_ne_zero _ (by norm_num))⟩ }

def fromCents (cents : Int) (currency : Currency) : Except String Money :=
  build (DecimalContext.div cents (10 ^ currency.decimals)) currency

def cents (money : Money) : Int :=
  Binary64.truncate (DecimalContext.mul money.amount (10 ^ money.currency.decimals))

/-- The loop over the ratios, with the cents allocated so far. The divisor is positive. -/
def allocateFrom (currency : Currency) (totalCents totalRatio : Int) :
    List Int → Int → Except String (List Money)
  | [], _ => .ok []
  | [_], allocatedCents => do
      let part ← fromCents (totalCents - allocatedCents) currency
      return [part]
  | ratio :: next :: rest, allocatedCents => do
      let shareCents := totalCents * ratio / totalRatio
      let part ← fromCents shareCents currency
      let others ← allocateFrom currency totalCents totalRatio (next :: rest)
        (allocatedCents + shareCents)
      return part :: others

def allocate (money : Money) (ratios : List Int) : Except String (List Money) :=
  if ratios = [] then .error "Ratios list cannot be empty"
  else if ratios.any (· < 0) then .error "Ratios cannot be negative"
  else
    let totalRatio := ratios.sum
    if totalRatio = 0 then .error "Sum of ratios cannot be zero"
    else allocateFrom money.currency money.cents totalRatio ratios 0

/-- The amount is the stored number of smallest units. -/
theorem cents_eq (money : Money) :
    money.amount * 10 ^ money.currency.decimals = money.cents ∧
      money.cents.natAbs < 10 ^ DecimalContext.precision := by
  rcases money.rounded with ⟨cents, fits, whole⟩
  have digits : money.amount * 10 ^ money.currency.decimals * 10 ^ 0 = (cents : ℚ) := by
    rw [pow_zero, mul_one, whole]
  have exact_cents : money.cents = cents := by
    unfold Money.cents DecimalContext.mul Binary64.truncate
    rw [DecimalContext.fix_exact digits fits, whole]
    simp
  rw [exact_cents]
  exact ⟨whole, fits⟩

/-- Cents that fit the decimal context come back from the value built of them. -/
theorem fromCents_ok {cents : Int} (fits : cents.natAbs < 10 ^ DecimalContext.precision)
    (currency : Currency) :
    ∃ money, fromCents cents currency = .ok money ∧ money.cents = cents ∧
      money.currency = currency := by
  have places : (10 : ℚ) ^ currency.decimals ≠ 0 := pow_ne_zero _ (by norm_num)
  have digits : (cents : ℚ) / 10 ^ currency.decimals * 10 ^ currency.decimals = cents :=
    div_mul_cancel₀ _ places
  have quantized : DecimalContext.quantize
      (DecimalContext.div cents (10 ^ currency.decimals) * 10 ^ currency.decimals) = .ok cents := by
    unfold DecimalContext.div
    rw [DecimalContext.fix_exact digits fits, digits]
    exact DecimalContext.quantize_intCast fits
  unfold fromCents build
  split
  · next message failed =>
      rw [quantized] at failed
      cases failed
  · next found ok =>
      rw [quantized] at ok
      cases ok
      refine ⟨_, rfl, ?_, rfl⟩
      apply Int.cast_injective (α := ℚ)
      rw [← (cents_eq _).1]
      exact digits

end Money
end Numu.ValueObjects

/-!
# Splitting an amount by ratios

No cent is lost. The last part takes all that the floors of the others cut off, which can be a cent
or more.
-/

namespace Numu.ValueObjects
open LastShare (Near cut shares)

namespace Money

/-- The parts make up the amount, and each is less than a cent from its exact share. -/
structure Splits (money : Money) (ratios : List Int) (parts : List Money) : Prop where
  sum : (parts.map cents).sum = money.cents
  near : List.Forall₂ (fun (ratio : Int) (part : Money) =>
    (ratio = 0 → part.cents = 0) ∧
      |(part.cents : ℚ) - money.cents * ratio / ratios.sum| < 1) ratios parts

variable {totalCents totalRatio : Int} {currency : Currency}

/-- The loop builds the value of each share. -/
theorem allocateFrom_ok {ratios : List Int} {allocatedCents : Int}
    (fits : ∀ share ∈ shares totalCents totalRatio ratios allocatedCents,
      share.natAbs < 10 ^ DecimalContext.precision) :
    ∃ parts, allocateFrom currency totalCents totalRatio ratios allocatedCents = .ok parts ∧
      parts.map cents = shares totalCents totalRatio ratios allocatedCents := by
  induction ratios generalizing allocatedCents with
  | nil => exact ⟨[], rfl, rfl⟩
  | cons ratio rest ih =>
      cases rest with
      | nil =>
          rcases fromCents_ok (fits _ List.mem_cons_self) currency with ⟨part, built, whole, -⟩
          exact ⟨[part], by rw [allocateFrom, built]; rfl, congrArg (· :: []) whole⟩
      | cons next rest =>
          rw [shares] at fits
          have later := ih fun share member => fits share (List.mem_cons_of_mem _ member)
          rcases fromCents_ok (fits _ List.mem_cons_self) currency with ⟨part, built, whole, -⟩
          rcases later with ⟨others, looped, wholes⟩
          refine ⟨part :: others, ?_, ?_⟩
          · simp only [allocateFrom, built, looped]
            rfl
          · rw [List.map_cons, whole, wholes, shares]

/-- The checks let every list of ratios through that is not negative and makes a sum. -/
theorem allocate_ok {money : Money} {ratios : List Int} (nonneg : 0 ≤ money.cents)
    (ratios_nonneg : ∀ ratio ∈ ratios, 0 ≤ ratio) (positive : 0 < ratios.sum) :
    ∃ parts, money.allocate ratios = .ok parts ∧
      parts.map cents = shares money.cents ratios.sum ratios 0 := by
  have nonempty : ratios ≠ [] := by
    rintro rfl
    exact absurd positive (lt_irrefl 0)
  have checked : ¬ratios.any (· < 0) = true := by
    simpa using ratios_nonneg
  unfold allocate
  simp only [if_neg nonempty, if_neg checked, if_neg positive.ne']
  apply allocateFrom_ok
  intro share member
  have within := LastShare.mem_shares positive nonneg ratios_nonneg (le_refl _) (le_refl 0)
    (by simp) share member
  have fits := money.cents_eq.2
  omega

/-- A split is fair to the cent when the floors of all ratios but the last cut off less than a
cent together. -/
theorem allocate_splits_iff {money : Money} {ratios : List Int} (nonneg : 0 ≤ money.cents)
    (ratios_nonneg : ∀ ratio ∈ ratios, 0 ≤ ratio) (positive : 0 < ratios.sum) :
    (∃ parts, money.allocate ratios = .ok parts ∧ money.Splits ratios parts) ↔
      (ratios.dropLast.map fun ratio => money.cents * ratio % ratios.sum).sum < ratios.sum := by
  rcases allocate_ok nonneg ratios_nonneg positive with ⟨parts, allocated, wholes⟩
  have nonempty : ratios ≠ [] := by
    rintro rfl
    exact absurd positive (lt_irrefl 0)
  have behind : 0 ≤ money.cents * (ratios.sum - ratios.sum) - 0 * ratios.sum := by simp
  have near_iff := LastShare.shares_near_iff positive nonempty behind
  rw [sub_self, mul_zero, zero_mul, sub_zero, zero_add, ← wholes, List.forall₂_map_right_iff]
    at near_iff
  have sum : (parts.map cents).sum = money.cents := by
    rw [wholes, LastShare.sum_shares ratios nonempty, sub_zero]
  constructor
  · rintro ⟨found, ok, split⟩
    rw [allocated] at ok
    cases ok
    exact near_iff.mp split.near
  · intro small
    exact ⟨parts, allocated, sum, near_iff.mpr small⟩

def oneDollar : Money where
  amount := 1
  rounded := ⟨100, by decide, by norm_num [Currency.decimals]⟩

theorem allocate_splits_iff_thirds :
    ∃ parts, oneDollar.allocate [1, 1, 1] = .ok parts ∧ oneDollar.Splits [1, 1, 1] parts :=
  (allocate_splits_iff (by decide +kernel) (by decide) (by decide)).mpr (by decide +kernel)

/-- The ratio of zero is last, and gets the cent that the floors of the others cut off. -/
theorem zero_ratio_gets_a_cent :
    ∃ parts, oneDollar.allocate [1, 1, 1, 0] = .ok parts ∧ parts.map cents = [33, 33, 33, 1] ∧
      ¬oneDollar.Splits [1, 1, 1, 0] parts := by
  have computed : (oneDollar.allocate [1, 1, 1, 0]).map (List.map cents) =
      .ok [33, 33, 33, 1] := by decide +kernel
  rcases Outcome.map_eq_ok.mp computed with ⟨parts, ok, wholes⟩
  refine ⟨parts, ok, wholes, fun split => ?_⟩
  have near : List.Forall₂ (Near oneDollar.cents 3) [1, 1, 1, 0] (parts.map cents) :=
    List.forall₂_map_right_iff.mpr split.near
  rw [wholes] at near
  simp [Near] at near

end Money
end Numu.ValueObjects
