import Mathlib.Algebra.Order.Field.Power
import Mathlib.Algebra.Order.Ring.Pow
import Mathlib.Algebra.Order.Group.Abs
import Mathlib.Tactic.FieldSimp
import Mathlib.Tactic.Linarith
import Mathlib.Tactic.Positivity
import Mathlib.Tactic.Push
import Numu.Foundation.Binary64

/-!
# Rounding errors of binary64

A division is off by at most a relative 2⁻⁵³, a multiple of the denominator below
2⁵³ comes out exactly, and `roundHalfEven` is off by at most one half. `Within n`
counts the roundings between an exact value and a computed one.
-/

namespace Numu.Binary64

theorem roundHalfEven_le (q : ℚ) : (roundHalfEven q : ℚ) ≤ q + 1 / 2 := by
  have low := Int.floor_le q
  unfold roundHalfEven
  simp only
  split_ifs with below above even
  · linarith
  · push_cast
    linarith
  · linarith
  · push_cast
    linarith

theorem le_roundHalfEven (q : ℚ) : q ≤ roundHalfEven q + 1 / 2 := by
  have high := Int.lt_floor_add_one q
  unfold roundHalfEven
  simp only
  split_ifs with below above even
  · linarith
  · push_cast
    linarith
  · linarith
  · push_cast
    linarith

theorem abs_roundHalfEven_sub_le (q : ℚ) : |(roundHalfEven q : ℚ) - q| ≤ 1 / 2 := by
  have above := roundHalfEven_le q
  have below := le_roundHalfEven q
  rw [abs_le]
  constructor <;> linarith

/-- The only integer that is closer than one half is the rounded value. -/
theorem roundHalfEven_eq {q : ℚ} {n : Int} (close : |q - n| < 1 / 2) : roundHalfEven q = n := by
  have above := roundHalfEven_le q
  have below := le_roundHalfEven q
  rw [abs_lt] at close
  have upper : (roundHalfEven q : ℚ) < n + 1 := by linarith
  have lower : (n : ℚ) < roundHalfEven q + 1 := by linarith
  have upper' : roundHalfEven q < n + 1 := by exact_mod_cast upper
  have lower' : n < roundHalfEven q + 1 := by exact_mod_cast lower
  omega

@[simp] theorem roundHalfEven_intCast (n : Int) : roundHalfEven (n : ℚ) = n :=
  roundHalfEven_eq (by simp)

@[simp] theorem roundHalfEven_natCast (n : Nat) : roundHalfEven (n : ℚ) = n := by
  exact_mod_cast roundHalfEven_intCast n

theorem truncate_of_nonneg {q : ℚ} (nonneg : 0 ≤ q) : truncate q = ⌊q⌋ := by
  rw [truncate, if_neg (not_lt.mpr nonneg)]

section Division

theorem divHalfEven_mul (quotient : Nat) {den : Nat} (den_pos : 0 < den) :
    divHalfEven (quotient * den) den = quotient := by
  simp [divHalfEven, Nat.mul_div_cancel _ den_pos, den_pos]

/-- In units of `den`, the rounded quotient is off by at most one half. -/
theorem divHalfEven_bounds (num : Nat) {den : Nat} (den_pos : 0 < den) :
    2 * (divHalfEven num den * den) ≤ 2 * num + den ∧
      2 * num ≤ 2 * (divHalfEven num den * den) + den := by
  have split := Nat.div_add_mod num den
  have small := Nat.mod_lt num den_pos
  have next : (num / den + 1) * den = den * (num / den) + den := by ring
  have same : num / den * den = den * (num / den) := Nat.mul_comm _ _
  unfold divHalfEven
  simp only
  split_ifs with below above even
  · rw [same]
    omega
  · rw [next]
    omega
  · rw [same]
    omega
  · rw [next]
    omega

/-- The two halves of a binary exponent, one of which is empty. -/
theorem two_pow_toNat_div (e : Int) : (2 : ℚ) ^ e.toNat / 2 ^ (-e).toNat = 2 ^ e := by
  rcases le_total 0 e with up | down
  · lift e to Nat using up
    simp
  · obtain ⟨k, rfl⟩ : ∃ k : Nat, e = -k := ⟨e.natAbs, by omega⟩
    simp

variable {num den : Nat}

/-- Cross-multiplied comparison with a power of two. -/
theorem scaled_lt_iff (den_pos : 0 < den) (e : Int) :
    num * 2 ^ (-e).toNat < den * 2 ^ e.toNat ↔ (num / den : ℚ) < 2 ^ e := by
  have den' : (0 : ℚ) < den := by exact_mod_cast den_pos
  rw [← two_pow_toNat_div e, div_lt_div_iff₀ den' (by positivity)]
  rw [← Nat.cast_lt (α := ℚ)]
  push_cast
  rw [mul_comm (den : ℚ)]

theorem two_zpow_log2_sub_lt (num_pos : num ≠ 0) (den_pos : 0 < den) :
    (2 : ℚ) ^ ((Nat.log2 num - Nat.log2 den : Int) - 1) ≤ num / den := by
  have den' : (0 : ℚ) < den := by exact_mod_cast den_pos
  have low : (2 : ℚ) ^ Nat.log2 num ≤ num := by exact_mod_cast Nat.log2_self_le num_pos
  have high : (den : ℚ) ≤ 2 ^ (Nat.log2 den + 1) := by
    exact_mod_cast (Nat.lt_log2_self (n := den)).le
  have exponent : (Nat.log2 num - Nat.log2 den : Int) - 1 =
      (Nat.log2 num : Int) - ((Nat.log2 den + 1 : Nat) : Int) := by
    push_cast
    ring
  rw [exponent, zpow_sub₀ two_ne_zero, zpow_natCast, zpow_natCast]
  calc (2 : ℚ) ^ Nat.log2 num / 2 ^ (Nat.log2 den + 1)
      ≤ num / 2 ^ (Nat.log2 den + 1) := by gcongr
    _ ≤ num / den := by gcongr

/-- The significand has 53 bits: the last one weighs at most 2⁻⁵² of the quotient. -/
theorem two_zpow_lastBit_le (num_pos : num ≠ 0) (den_pos : 0 < den) :
    (2 : ℚ) ^ lastBit num den * 2 ^ 52 ≤ num / den := by
  have leading := two_zpow_log2_sub_lt num_pos den_pos
  unfold lastBit
  simp only
  split_ifs with below
  · rw [← zpow_natCast, ← zpow_add₀ two_ne_zero]
    convert leading using 2
    push_cast
    ring
  · rw [scaled_lt_iff den_pos, not_lt] at below
    rw [← zpow_natCast, ← zpow_add₀ two_ne_zero]
    have exponent : (Nat.log2 num - Nat.log2 den : Int) - 52 + (52 : Nat) =
        Nat.log2 num - Nat.log2 den := by
      push_cast
      ring
    rw [exponent]
    exact below

theorem trueDiv_zero (den : Nat) : trueDiv 0 den = 0 := by
  simp [trueDiv]

theorem trueDiv_eq (num_pos : num ≠ 0) :
    trueDiv num den =
      divHalfEven (num * 2 ^ (-lastBit num den).toNat) (den * 2 ^ (lastBit num den).toNat) *
        (2 : ℚ) ^ lastBit num den := by
  unfold trueDiv
  simp only [num_pos, if_false]
  rw [Rat.mkRat_eq_div, ← two_pow_toNat_div (lastBit num den)]
  push_cast
  ring

/-- The rounding of a quotient is off by at most half of its last bit. -/
theorem abs_trueDiv_sub_le_half (num_pos : num ≠ 0) (den_pos : 0 < den) :
    |trueDiv num den - num / den| ≤ 2 ^ lastBit num den / 2 := by
  have den' : (0 : ℚ) < den := by exact_mod_cast den_pos
  rw [trueDiv_eq num_pos]
  set s := lastBit num den with hs
  have unit : (0 : ℚ) < 2 ^ s := by positivity
  have unit_pos : 0 < den * 2 ^ s.toNat := by positivity
  obtain ⟨upper, lower⟩ := divHalfEven_bounds (num * 2 ^ (-s).toNat) unit_pos
  generalize divHalfEven (num * 2 ^ (-s).toNat) (den * 2 ^ s.toNat) = significand at upper lower ⊢
  have whole : (2 : ℚ) ^ s.toNat = 2 ^ s * 2 ^ (-s).toNat := by
    rw [← two_pow_toNat_div s]
    field_simp
  have part : (0 : ℚ) < 2 ^ (-s).toNat := by positivity
  have upper' : 2 * ((significand : ℚ) * (den * 2 ^ s.toNat)) ≤
      2 * (num * 2 ^ (-s).toNat) + den * 2 ^ s.toNat := by exact_mod_cast upper
  have lower' : 2 * ((num : ℚ) * 2 ^ (-s).toNat) ≤
      2 * (significand * (den * 2 ^ s.toNat)) + den * 2 ^ s.toNat := by exact_mod_cast lower
  rw [whole] at upper' lower'
  have above : 2 * (significand * 2 ^ s * den) ≤ 2 * num + den * (2 : ℚ) ^ s := by
    nlinarith
  have below : 2 * (num : ℚ) ≤ 2 * (significand * 2 ^ s * den) + den * 2 ^ s := by
    nlinarith
  have quotient : (num / den : ℚ) * den = num := by field_simp
  rw [abs_le]
  constructor <;> nlinarith

theorem abs_trueDiv_sub_le (num : Nat) (den_pos : 0 < den) :
    |trueDiv num den - num / den| ≤ (num / den : ℚ) / 2 ^ 53 := by
  rcases eq_or_ne num 0 with rfl | num_pos
  · simp [trueDiv_zero]
  have ulp := two_zpow_lastBit_le num_pos den_pos
  have close := abs_trueDiv_sub_le_half num_pos den_pos
  linarith

theorem trueDiv_mul_self {quotient : Nat} (small : quotient < 2 ^ 53) (den_pos : 0 < den) :
    trueDiv (quotient * den) den = quotient := by
  have den' : (0 : ℚ) < den := by exact_mod_cast den_pos
  rcases eq_or_ne (quotient * den) 0 with zero | num_pos
  · rw [zero, trueDiv_zero]
    have : quotient = 0 := by
      rcases Nat.mul_eq_zero.mp zero with none | none
      · exact none
      · omega
    simp [this]
  have exact : ((quotient * den : Nat) : ℚ) / den = quotient := by
    push_cast
    field_simp
  have ulp := two_zpow_lastBit_le num_pos den_pos
  rw [trueDiv_eq num_pos]
  rw [exact] at ulp
  set s := lastBit (quotient * den) den with hs
  have fits : s ≤ 0 := by
    by_contra big
    have one : (2 : ℚ) ^ (1 : Int) ≤ 2 ^ s := zpow_le_zpow_right₀ (by norm_num) (by omega)
    have bound : (quotient : ℚ) < 2 ^ 53 := by exact_mod_cast small
    rw [zpow_one] at one
    linarith
  have scale : quotient * den * 2 ^ (-s).toNat = quotient * 2 ^ (-s).toNat * den := by ring
  have none : s.toNat = 0 := by omega
  rw [none, pow_zero, mul_one, scale, divHalfEven_mul _ den_pos, ← two_pow_toNat_div s, none]
  push_cast
  field_simp

/-- The rounded quotient depends on the quotient alone. -/
theorem divHalfEven_scale (num den : Nat) {scale : Nat} (scale_pos : 0 < scale) :
    divHalfEven (scale * num) (scale * den) = divHalfEven num den := by
  simp only [divHalfEven, Nat.mul_div_mul_left _ _ scale_pos, Nat.mul_mod_mul_left]
  have twice : 2 * (scale * (num % den)) = scale * (2 * (num % den)) := by ring
  simp only [twice, Nat.mul_lt_mul_left scale_pos]

theorem divHalfEven_mono {first second width : Nat} (den_pos : 0 < den) (width_pos : 0 < width)
    (le : first * width ≤ second * den) : divHalfEven first den ≤ divHalfEven second width := by
  by_contra less
  rcases divHalfEven_bounds first den_pos with ⟨upper, -⟩
  rcases divHalfEven_bounds second width_pos with ⟨-, lower⟩
  have above : divHalfEven second width + 1 ≤ divHalfEven first den := not_le.mp less
  -- both quotients are then the one that ties between the two results
  have tie : first * width = second * den := by
    apply le_antisymm le
    have scaled : (divHalfEven second width + 1) * (den * width) ≤
        divHalfEven first den * (den * width) := Nat.mul_le_mul_right _ above
    nlinarith
  have same : divHalfEven first den = divHalfEven second width := by
    rw [← divHalfEven_scale first den width_pos, ← divHalfEven_scale second width den_pos,
      mul_comm width first, tie, mul_comm width den, mul_comm second den]
  omega

theorem lt_two_zpow_lastBit (den_pos : 0 < den) :
    (num / den : ℚ) < 2 ^ lastBit num den * 2 ^ 53 := by
  unfold lastBit
  simp only
  split_ifs with below
  · rw [scaled_lt_iff den_pos] at below
    rw [← zpow_natCast, ← zpow_add₀ two_ne_zero]
    convert below using 2
    push_cast
    ring
  · have den' : (0 : ℚ) < den := by exact_mod_cast den_pos
    have high : (num : ℚ) < 2 ^ (Nat.log2 num + 1) := by exact_mod_cast Nat.lt_log2_self
    have low : (2 : ℚ) ^ Nat.log2 den ≤ den := by
      exact_mod_cast Nat.log2_self_le den_pos.ne'
    have exponent : (Nat.log2 num - Nat.log2 den : Int) - 52 + (53 : Nat) =
        ((Nat.log2 num + 1 : Nat) : Int) - (Nat.log2 den : Int) := by
      push_cast
      ring
    rw [← zpow_natCast, ← zpow_add₀ two_ne_zero, exponent, zpow_sub₀ two_ne_zero, zpow_natCast,
      zpow_natCast]
    calc (num / den : ℚ)
        < 2 ^ (Nat.log2 num + 1) / den := by gcongr
      _ ≤ 2 ^ (Nat.log2 num + 1) / 2 ^ Nat.log2 den := by gcongr

/-- A bound on the quotient in units of a bit bounds the rounded significand. -/
theorem significand_le (den_pos : 0 < den) {bit : Int} {bound : Nat}
    (le : (num / den : ℚ) ≤ 2 ^ bit * bound) :
    divHalfEven (num * 2 ^ (-bit).toNat) (den * 2 ^ bit.toNat) ≤ bound := by
  have width_pos : 0 < den * 2 ^ bit.toNat := by positivity
  rw [← divHalfEven_mul bound width_pos]
  apply divHalfEven_mono width_pos width_pos
  apply Nat.mul_le_mul_right
  have den' : (0 : ℚ) < den := by exact_mod_cast den_pos
  rw [← two_pow_toNat_div bit, div_mul_eq_mul_div, div_le_div_iff₀ den' (by positivity)] at le
  have whole : num * 2 ^ (-bit).toNat ≤ 2 ^ bit.toNat * bound * den := by exact_mod_cast le
  calc num * 2 ^ (-bit).toNat
      ≤ 2 ^ bit.toNat * bound * den := whole
    _ = bound * (den * 2 ^ bit.toNat) := by ring

theorem le_significand (den_pos : 0 < den) {bit : Int} {bound : Nat}
    (le : 2 ^ bit * bound ≤ (num / den : ℚ)) :
    bound ≤ divHalfEven (num * 2 ^ (-bit).toNat) (den * 2 ^ bit.toNat) := by
  have width_pos : 0 < den * 2 ^ bit.toNat := by positivity
  nth_rewrite 1 [← divHalfEven_mul bound width_pos]
  apply divHalfEven_mono width_pos width_pos
  apply Nat.mul_le_mul_right
  have den' : (0 : ℚ) < den := by exact_mod_cast den_pos
  rw [← two_pow_toNat_div bit, div_mul_eq_mul_div, div_le_div_iff₀ (by positivity) den'] at le
  have whole : 2 ^ bit.toNat * bound * den ≤ num * 2 ^ (-bit).toNat := by exact_mod_cast le
  calc bound * (den * 2 ^ bit.toNat)
      = 2 ^ bit.toNat * bound * den := by ring
    _ ≤ num * 2 ^ (-bit).toNat := whole

/-- Rounded quotients keep the order of the quotients. -/
theorem trueDiv_mono {other width : Nat} (den_pos : 0 < den) (width_pos : 0 < width)
    (le : (num / den : ℚ) ≤ other / width) : trueDiv num den ≤ trueDiv other width := by
  have den' : (0 : ℚ) < den := by exact_mod_cast den_pos
  have width' : (0 : ℚ) < width := by exact_mod_cast width_pos
  have cross : num * width ≤ other * den := by
    rw [div_le_div_iff₀ den' width'] at le
    exact_mod_cast le
  rcases eq_or_ne num 0 with rfl | num_pos
  · rw [trueDiv_zero]
    rcases eq_or_ne other 0 with rfl | other_pos
    · rw [trueDiv_zero]
    · rw [trueDiv_eq other_pos]
      positivity
  have other_pos : other ≠ 0 := by
    rintro rfl
    rw [Nat.zero_mul, Nat.le_zero, Nat.mul_eq_zero] at cross
    omega
  have low := two_zpow_lastBit_le num_pos den_pos
  have high : (num / den : ℚ) < 2 ^ lastBit num den * 2 ^ 53 := lt_two_zpow_lastBit den_pos
  have low' := two_zpow_lastBit_le other_pos width_pos
  have high' : (other / width : ℚ) < 2 ^ lastBit other width * 2 ^ 53 :=
    lt_two_zpow_lastBit width_pos
  rw [trueDiv_eq num_pos, trueDiv_eq other_pos]
  rcases lt_trichotomy (lastBit num den) (lastBit other width) with below | same | above
  · have first : divHalfEven (num * 2 ^ (-lastBit num den).toNat)
        (den * 2 ^ (lastBit num den).toNat) ≤ 2 ^ 53 :=
      significand_le den_pos (by exact_mod_cast high.le)
    have second : 2 ^ 52 ≤ divHalfEven (other * 2 ^ (-lastBit other width).toNat)
        (width * 2 ^ (lastBit other width).toNat) :=
      le_significand width_pos (by exact_mod_cast low')
    have step : (2 : ℚ) ^ lastBit num den * 2 ^ 53 ≤ 2 ^ lastBit other width * 2 ^ 52 := by
      rw [← zpow_natCast, ← zpow_natCast, ← zpow_add₀ two_ne_zero, ← zpow_add₀ two_ne_zero]
      apply zpow_le_zpow_right₀ one_le_two
      push_cast
      omega
    calc (divHalfEven _ _ : ℚ) * 2 ^ lastBit num den
        ≤ (2 ^ 53 : Nat) * 2 ^ lastBit num den := by gcongr
      _ = 2 ^ lastBit num den * 2 ^ 53 := by push_cast; ring
      _ ≤ 2 ^ lastBit other width * 2 ^ 52 := step
      _ = (2 ^ 52 : Nat) * 2 ^ lastBit other width := by push_cast; ring
      _ ≤ divHalfEven _ _ * 2 ^ lastBit other width := by gcongr
  · rw [same]
    have kept : divHalfEven (num * 2 ^ (-lastBit other width).toNat)
          (den * 2 ^ (lastBit other width).toNat) ≤
        divHalfEven (other * 2 ^ (-lastBit other width).toNat)
          (width * 2 ^ (lastBit other width).toNat) := by
      apply divHalfEven_mono (by positivity) (by positivity)
      nlinarith [Nat.mul_le_mul_right
        (2 ^ (-lastBit other width).toNat * 2 ^ (lastBit other width).toNat) cross]
    gcongr
  · exfalso
    have step : (2 : ℚ) ^ lastBit other width * 2 ^ 53 ≤ 2 ^ lastBit num den * 2 ^ 52 := by
      rw [← zpow_natCast, ← zpow_natCast, ← zpow_add₀ two_ne_zero, ← zpow_add₀ two_ne_zero]
      apply zpow_le_zpow_right₀ one_le_two
      push_cast
      omega
    linarith

/-- Quotients that are further apart than the two roundings stay in their order. -/
theorem trueDiv_lt {other width : Nat} (den_pos : 0 < den) (width_pos : 0 < width)
    (apart : (num / den : ℚ) + (num / den : ℚ) / 2 ^ 53 <
      (other / width : ℚ) - (other / width : ℚ) / 2 ^ 53) :
    trueDiv num den < trueDiv other width := by
  have above := (abs_le.mp (abs_trueDiv_sub_le num den_pos)).2
  have below := (abs_le.mp (abs_trueDiv_sub_le other width_pos)).1
  linarith

end Division

/-- One rounding to binary64 is off by at most a relative 2⁻⁵³. -/
theorem abs_nearest_sub_le (q : ℚ) : |nearest q - q| ≤ |q| / 2 ^ 53 := by
  have error := abs_trueDiv_sub_le q.num.natAbs q.den_pos
  have size : (q.num.natAbs / q.den : ℚ) = |q| := by
    conv_rhs => rw [← Rat.num_div_den q, abs_div, Nat.abs_cast]
    rw [Nat.cast_natAbs, Int.cast_abs]
  rw [size] at error
  unfold nearest
  split_ifs with negative
  · rw [abs_of_neg negative] at error ⊢
    rw [← abs_neg]
    convert error using 2
    ring
  · rw [abs_of_nonneg (not_lt.mp negative)] at error ⊢
    exact error

theorem nearest_pos_iff {q : ℚ} (nonneg : 0 ≤ q) : 0 < nearest q ↔ 0 < q := by
  have error := abs_nearest_sub_le q
  rw [abs_of_nonneg nonneg, abs_le] at error
  constructor
  · intro positive
    by_contra zero
    have none_ : q = 0 := le_antisymm (not_lt.mp zero) nonneg
    rw [none_] at error positive
    linarith [error.2]
  · intro positive
    linarith

def unitRoundoff : ℚ := 1 / 2 ^ 53

/-- `computed` comes from the nonnegative `exact` by at most `n` roundings, up or down. -/
structure Within (n : Nat) (exact computed : ℚ) : Prop where
  nonneg : 0 ≤ exact
  lower : exact * (1 - unitRoundoff) ^ n ≤ computed
  upper : computed * (1 - unitRoundoff) ^ n ≤ exact

namespace Within
variable {m n : Nat} {a b x y : ℚ}

theorem shrink_pos : 0 < 1 - unitRoundoff := by norm_num [unitRoundoff]

theorem self (nonneg : 0 ≤ a) : Within 0 a a := ⟨nonneg, by simp, by simp⟩

theorem computed_nonneg (close : Within n a x) : 0 ≤ x :=
  le_trans (mul_nonneg close.nonneg (pow_nonneg shrink_pos.le n)) close.lower

theorem mul (left : Within m a x) (right : Within n b y) : Within (m + n) (a * b) (x * y) := by
  have x_nonneg := left.computed_nonneg
  have y_nonneg := right.computed_nonneg
  have shrink := pow_pos shrink_pos n
  refine ⟨mul_nonneg left.nonneg right.nonneg, ?_, ?_⟩
  · calc a * b * (1 - unitRoundoff) ^ (m + n)
        = a * (1 - unitRoundoff) ^ m * (b * (1 - unitRoundoff) ^ n) := by ring
      _ ≤ x * y := mul_le_mul left.lower right.lower (mul_nonneg right.nonneg shrink.le) x_nonneg
  · calc x * y * (1 - unitRoundoff) ^ (m + n)
        = x * (1 - unitRoundoff) ^ m * (y * (1 - unitRoundoff) ^ n) := by ring
      _ ≤ a * b := mul_le_mul left.upper right.upper (mul_nonneg y_nonneg shrink.le) left.nonneg

theorem div (left : Within m a x) (right : Within n b y) (b_pos : 0 < b) (y_pos : 0 < y) :
    Within (m + n) (a / b) (x / y) := by
  have x_nonneg := left.computed_nonneg
  refine ⟨div_nonneg left.nonneg b_pos.le, ?_, ?_⟩
  · rw [div_mul_eq_mul_div, div_le_div_iff₀ b_pos y_pos]
    calc a * (1 - unitRoundoff) ^ (m + n) * y
        = a * (1 - unitRoundoff) ^ m * (y * (1 - unitRoundoff) ^ n) := by ring
      _ ≤ x * b := mul_le_mul left.lower right.upper
          (mul_nonneg y_pos.le (pow_nonneg shrink_pos.le n)) x_nonneg
  · rw [div_mul_eq_mul_div, div_le_div_iff₀ y_pos b_pos]
    calc x * (1 - unitRoundoff) ^ (m + n) * b
        = x * (1 - unitRoundoff) ^ m * (b * (1 - unitRoundoff) ^ n) := by ring
      _ ≤ a * y := mul_le_mul left.upper right.lower
          (mul_nonneg b_pos.le (pow_nonneg shrink_pos.le n)) left.nonneg

/-- One more rounding, of whatever kind. -/
theorem step (close : Within n a x) (error : |y - x| ≤ x / 2 ^ 53) : Within (n + 1) a y := by
  have shrink := pow_pos shrink_pos n
  rw [abs_le] at error
  have low : x * (1 - unitRoundoff) ≤ y := by
    unfold unitRoundoff
    linarith
  have high : y * (1 - unitRoundoff) ≤ x := by
    have y_nonneg : 0 ≤ y := by linarith [close.computed_nonneg]
    unfold unitRoundoff
    linarith
  refine ⟨close.nonneg, ?_, ?_⟩
  · calc a * (1 - unitRoundoff) ^ (n + 1)
        = a * (1 - unitRoundoff) ^ n * (1 - unitRoundoff) := by ring
      _ ≤ x * (1 - unitRoundoff) := mul_le_mul_of_nonneg_right close.lower shrink_pos.le
      _ ≤ y := low
  · calc y * (1 - unitRoundoff) ^ (n + 1)
        = y * (1 - unitRoundoff) * (1 - unitRoundoff) ^ n := by ring
      _ ≤ x * (1 - unitRoundoff) ^ n := mul_le_mul_of_nonneg_right high shrink.le
      _ ≤ a := close.upper

theorem nearest (close : Within n a x) : Within (n + 1) a (nearest x) := by
  have error := abs_nearest_sub_le x
  rw [abs_of_nonneg close.computed_nonneg] at error
  exact close.step error

/-- The absolute error of a few roundings. -/
theorem abs_sub_le (close : Within n a x) (few : (n : ℚ) * unitRoundoff ≤ 1 / 2) :
    |x - a| ≤ a * (2 * n * unitRoundoff) := by
  have bernoulli : 1 - n * unitRoundoff ≤ (1 - unitRoundoff) ^ n := by
    have small : (-2 : ℚ) ≤ -unitRoundoff := by norm_num [unitRoundoff]
    have step := one_add_mul_le_pow small n
    rw [← sub_eq_add_neg] at step
    linarith
  have x_nonneg := close.computed_nonneg
  have lower : a * (1 - n * unitRoundoff) ≤ x :=
    le_trans (mul_le_mul_of_nonneg_left bernoulli close.nonneg) close.lower
  have upper : x * (1 - n * unitRoundoff) ≤ a :=
    le_trans (mul_le_mul_of_nonneg_left bernoulli x_nonneg) close.upper
  have unit_nonneg : 0 ≤ n * unitRoundoff := by
    unfold unitRoundoff
    positivity
  have twice : x ≤ 2 * a := by nlinarith
  have a_nonneg := close.nonneg
  rw [abs_le]
  constructor <;> nlinarith

end Within
end Numu.Binary64
