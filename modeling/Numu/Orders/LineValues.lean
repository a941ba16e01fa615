import Mathlib.Tactic.Linarith
import Numu.Foundation.ExactFloats
import Numu.Foundation.Outcome
import Numu.Orders.Order

/-! What a partial acceptance deducts for a line. -/

namespace Numu.Orders
open Binary64 (IsFloat roundHalfEven trueDiv)
open Outcome (bind_eq_ok)

/-- What the return of so many units of a line deducts; none deduct nothing. -/
def Order.deducted (order : Order) (index units : Nat) : Int :=
  match order.returnedLine index units with
  | .ok returned => returned.valueCents
  | .error _ => 0

/-- The returned part of a line costs a part of its price, and the whole line all of it. -/
structure Order.DeductsFairly (order : Order) (index : Nat) (line : OrderLineItem) : Prop where
  within : ∀ units ≤ line.quantity,
    0 ≤ order.deducted index units ∧ order.deducted index units ≤ line.totalPrice
  monotone : ∀ fewer more, fewer ≤ more → more ≤ line.quantity →
    order.deducted index fewer ≤ order.deducted index more
  whole : order.deducted index line.quantity = line.totalPrice

/-- The price of a line is so much per unit, and that much is a float. -/
def OrderLineItem.EvenlyPriced (line : OrderLineItem) : Prop :=
  line.quantity ∣ line.totalPrice ∧ IsFloat (line.totalPrice / line.quantity)

def OrderLineItem.effectiveUnit (line : OrderLineItem) : Int :=
  roundHalfEven (trueDiv line.totalPrice line.quantity)

theorem effectiveUnit_nonneg (line : OrderLineItem) : 0 ≤ line.effectiveUnit := by
  rcases Binary64.trueDiv_isFloat line.totalPrice line.quantity_pos with
    ⟨significand, -, exponent, quotient⟩
  have nonneg : 0 ≤ trueDiv line.totalPrice line.quantity := by
    rw [quotient]
    positivity
  have close := Binary64.le_roundHalfEven (trueDiv line.totalPrice line.quantity)
  have above : (-1 : ℚ) < line.effectiveUnit := by
    rw [OrderLineItem.effectiveUnit]
    linarith
  have whole : (-1 : Int) < line.effectiveUnit := by exact_mod_cast above
  omega

/-- A quotient that rounds to a whole number is a float where the number is. -/
theorem isFloat_of_round {quotient : ℚ} (float : IsFloat quotient) {whole : Nat}
    (rounds : roundHalfEven quotient = whole) : IsFloat (whole : ℚ) := by
  rcases lt_or_ge whole (2 ^ 53) with small | large
  · exact ⟨whole, small, 0, by simp⟩
  · rcases float with ⟨significand, bits, exponent, rfl⟩
    have close := Binary64.roundHalfEven_le (significand * 2 ^ exponent : ℚ)
    rw [rounds, Int.cast_natCast] at close
    have bound : (2 : ℚ) ^ 53 ≤ whole := by exact_mod_cast large
    have fits : (significand : ℚ) < 2 ^ 53 := by exact_mod_cast bits
    rcases le_or_gt 0 exponent with upward | downward
    · -- Beyond the significand's bits every float is whole, so rounding left it alone.
      lift exponent to Nat using upward
      refine ⟨significand, bits, exponent, ?_⟩
      have natural : (significand * 2 ^ exponent : ℚ) = (significand * 2 ^ exponent : Nat) := by
        push_cast
        rfl
      rw [zpow_natCast, natural, Binary64.roundHalfEven_natCast, Nat.cast_inj] at rounds
      rw [← rounds, zpow_natCast]
      push_cast
      rfl
    · have half : (2 : ℚ) ^ exponent ≤ 1 / 2 := by
        have step : (2 : ℚ) ^ exponent ≤ 2 ^ (-1 : Int) := by
          apply zpow_le_zpow_right₀ (by norm_num)
          omega
        simpa using step
      have nonneg : (0 : ℚ) ≤ significand := Nat.cast_nonneg significand
      have product : (significand : ℚ) * 2 ^ exponent ≤ significand * (1 / 2) :=
        mul_le_mul_of_nonneg_left half nonneg
      exfalso
      linarith

section Lines
variable {order : Order} {index : Nat} {line : OrderLineItem}

theorem deducted_eq (found : order.lineItems[index]? = some line) {units : Nat}
    (ordered : units ≤ line.quantity) : order.deducted index units = line.effectiveUnit * units := by
  have known : ¬(index : Int) < 0 := not_lt.mpr (Int.natCast_nonneg index)
  rw [Order.deducted, Order.returnedLine, if_neg known, Int.toNat_natCast, found]
  simp only
  rcases Nat.eq_zero_or_pos units with rfl | some_
  · simp
  · rw [if_neg (by omega)]
    rfl

/-- Every line of a recorded partial acceptance is valued as `deducted` says. -/
theorem acceptance_deducts {returned : List (Int × Int)} {reason : Option String} {now : Time}
    {moved : Order} {summary : PartialAcceptance}
    (ok : order.recordPartialAcceptance returned reason now = .ok (moved, summary)) :
    ∀ part ∈ summary.lines,
      part.valueCents = order.deducted part.orderLineIndex part.returnedQuantity := by
  intro part member
  unfold Order.recordPartialAcceptance at ok
  split at ok
  · cases ok
  · rcases bind_eq_ok.mp ok with ⟨lines, valued, rest⟩
    cases rest
    rcases Outcome.mapM_ok_of_mem valued member with ⟨pair, -, here⟩
    have same : order.returnedLine part.orderLineIndex part.returnedQuantity = .ok part := by
      have found := here
      unfold Order.returnedLine at found
      split at found
      · cases found
      · rename_i known
        split at found
        · cases found
        · split at found
          · cases found
          · cases found
            rw [Int.toNat_of_nonneg (by omega), Int.toNat_of_nonneg (by omega)]
            exact here
    rw [Order.deducted, same]

theorem quotient_of_multiple {unit : Nat} (price : line.totalPrice = line.quantity * unit) :
    (line.totalPrice / line.quantity : ℚ) = unit := by
  have positive : (0 : ℚ) < line.quantity := by exact_mod_cast line.quantity_pos
  rw [price]
  push_cast
  field_simp

/-- A line deducts fairly exactly if its price divides evenly among its units. -/
theorem deductsFairly_iff (found : order.lineItems[index]? = some line) :
    order.DeductsFairly index line ↔ line.EvenlyPriced := by
  constructor
  · intro fair
    have whole := fair.whole
    rw [deducted_eq found (le_refl _)] at whole
    lift line.effectiveUnit to Nat using effectiveUnit_nonneg line with unit rounds
    have price : line.totalPrice = line.quantity * unit := by
      rw [Nat.mul_comm]
      exact_mod_cast whole.symm
    refine ⟨⟨unit, price⟩, ?_⟩
    rw [quotient_of_multiple price]
    exact isFloat_of_round (Binary64.trueDiv_isFloat line.totalPrice line.quantity_pos) rounds.symm
  · intro even
    rcases even with ⟨⟨unit, price⟩, float⟩
    have effective : line.effectiveUnit = unit := by
      rw [OrderLineItem.effectiveUnit, Binary64.trueDiv_exact line.quantity_pos float,
        quotient_of_multiple price,
        Binary64.roundHalfEven_natCast]
    have each {units : Nat} (ordered : units ≤ line.quantity) :
        order.deducted index units = (unit * units : Nat) := by
      rw [deducted_eq found ordered, effective]
      push_cast
      rfl
    constructor
    · intro units ordered
      rw [each ordered, price, Nat.mul_comm line.quantity]
      exact ⟨Int.natCast_nonneg _, Int.ofNat_le.mpr (Nat.mul_le_mul_left unit ordered)⟩
    · intro fewer more le ordered
      rw [each (le.trans ordered), each ordered]
      exact Int.ofNat_le.mpr (Nat.mul_le_mul_left unit le)
    · rw [each (le_refl _), price, Nat.mul_comm line.quantity]

end Lines

/-- Two mugs, sold together for `price`. -/
def twoMugs (price : Nat) : OrderLineItem where
  productId := 1
  quantity := 2
  unitPrice := price
  totalPrice := price
  quantity_pos := two_pieces

def mugOrder (price : Nat) : Order where
  id := 1
  storeId := 1
  customerId := 1
  lineItems := [twoMugs price]

theorem deductsFairly_evenly : (mugOrder 300).DeductsFairly 0 (twoMugs 300) :=
  (deductsFairly_iff rfl).mpr ⟨by decide, 150, by decide, 0, by norm_num [twoMugs]⟩

/-- Two mugs at 3 are 2 each by the rounded unit price, so both of them deduct 4. -/
theorem returned_mugs_cost_more : ¬(mugOrder 3).DeductsFairly 0 (twoMugs 3) := by
  intro fair
  have both : (mugOrder 3).deducted 0 2 = 4 := by decide +kernel
  have whole : (mugOrder 3).deducted 0 2 = 3 := fair.whole
  rw [both] at whole
  exact absurd whole (by decide)

end Numu.Orders
