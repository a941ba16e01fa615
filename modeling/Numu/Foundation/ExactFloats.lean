import Mathlib.Tactic.NormNum
import Numu.Foundation.Rounding

/-!
# Floats that are exact

A significand of 53 bits times a power of two is a float, so that rounding leaves it alone;
every rounded number is one.
-/

namespace Numu.Binary64

def IsFloat (q : ℚ) : Prop := ∃ significand : Nat, significand < 2 ^ 53 ∧
  ∃ exponent : Int, q = significand * 2 ^ exponent

/-- The last bit kept of a number of 53 bits is no higher than its own last bit. -/
theorem lastBit_le {num den : Nat} (num_pos : num ≠ 0) (den_pos : 0 < den) {significand : Nat}
    {exponent : Int} (small : significand < 2 ^ 53)
    (value : (num / den : ℚ) = significand * 2 ^ exponent) : lastBit num den ≤ exponent := by
  have low := two_zpow_lastBit_le num_pos den_pos
  have high : (significand : ℚ) < 2 ^ 53 := by exact_mod_cast small
  have unit : (0 : ℚ) < 2 ^ exponent := by positivity
  have less : (2 : ℚ) ^ (lastBit num den + 52) < 2 ^ (exponent + 53) := by
    calc
      (2 : ℚ) ^ (lastBit num den + 52) = 2 ^ lastBit num den * 2 ^ 52 := by
        rw [zpow_add₀ two_ne_zero]
        norm_num
      _ ≤ num / den := low
      _ = significand * 2 ^ exponent := value
      _ < 2 ^ 53 * 2 ^ exponent := mul_lt_mul_of_pos_right high unit
      _ = 2 ^ (exponent + 53) := by
        rw [zpow_add₀ two_ne_zero]
        norm_num
        ring
  have exponents := (zpow_lt_zpow_iff_right₀ (by norm_num : (1 : ℚ) < 2)).mp less
  omega

theorem trueDiv_exact {num den : Nat} (den_pos : 0 < den) (float : IsFloat (num / den : ℚ)) :
    trueDiv num den = num / den := by
  rcases eq_or_ne num 0 with rfl | num_pos
  · simp [trueDiv_zero]
  rcases float with ⟨significand, small, exponent, value⟩
  have below := lastBit_le num_pos den_pos small value
  lift exponent - lastBit num den to Nat using by omega with shift shifted
  have whole : (num / den : ℚ) = 2 ^ lastBit num den * (significand * 2 ^ shift : Nat) := by
    rw [value, show exponent = lastBit num den + shift by omega, zpow_add₀ two_ne_zero]
    push_cast
    rw [zpow_natCast]
    ring
  have rounded : divHalfEven (num * 2 ^ (-lastBit num den).toNat)
      (den * 2 ^ (lastBit num den).toNat) = significand * 2 ^ shift :=
    le_antisymm (significand_le den_pos whole.le) (le_significand den_pos whole.ge)
  rw [trueDiv_eq num_pos, rounded, whole, mul_comm]

/-- The parts of a number that is not negative, as a quotient. -/
theorem natAbs_num_div_den {q : ℚ} (nonneg : 0 ≤ q) : (q.num.natAbs / q.den : ℚ) = q := by
  conv_rhs => rw [← Rat.num_div_den q]
  rw [Nat.cast_natAbs, Int.cast_abs, abs_of_nonneg (by exact_mod_cast Rat.num_nonneg.mpr nonneg)]

theorem nearest_exact {q : ℚ} (nonneg : 0 ≤ q) (float : IsFloat q) : nearest q = q := by
  have quotient := natAbs_num_div_den nonneg
  rw [nearest, if_neg (not_lt.mpr nonneg), trueDiv_exact q.den_pos (quotient.symm ▸ float),
    quotient]

theorem trueDiv_isFloat (num : Nat) {den : Nat} (den_pos : 0 < den) : IsFloat (trueDiv num den) := by
  rcases eq_or_ne num 0 with rfl | num_pos
  · exact ⟨0, by norm_num, 0, by simp [trueDiv_zero]⟩
  rw [trueDiv_eq num_pos]
  have below : (num / den : ℚ) ≤ 2 ^ lastBit num den * (2 ^ 53 : Nat) := by
    push_cast
    exact (lt_two_zpow_lastBit den_pos).le
  have bound := significand_le den_pos below
  rcases bound.lt_or_eq with small | carry
  · exact ⟨_, small, lastBit num den, rfl⟩
  · refine ⟨2 ^ 52, by norm_num, lastBit num den + 1, ?_⟩
    rw [carry, zpow_add₀ two_ne_zero]
    push_cast
    ring

theorem nearest_isFloat {q : ℚ} (nonneg : 0 ≤ q) : IsFloat (nearest q) := by
  rw [nearest, if_neg (not_lt.mpr nonneg)]
  exact trueDiv_isFloat _ q.den_pos

theorem nearest_mono {q r : ℚ} (nonneg : 0 ≤ q) (le : q ≤ r) : nearest q ≤ nearest r := by
  have nonneg' := nonneg.trans le
  rw [nearest, nearest, if_neg (not_lt.mpr nonneg), if_neg (not_lt.mpr nonneg')]
  refine trueDiv_mono q.den_pos r.den_pos ?_
  rw [natAbs_num_div_den nonneg, natAbs_num_div_den nonneg']
  exact le

theorem nearest_nonneg {q : ℚ} (nonneg : 0 ≤ q) : 0 ≤ nearest q := by
  obtain ⟨significand, -, exponent, same⟩ := nearest_isFloat nonneg
  rw [same]
  positivity

/-- What lies below the middle between a power of two and the largest float below it is rounded to a
float below that middle. -/
theorem nearest_lt_middle {q : ℚ} {top : Nat} (nonneg : 0 ≤ q)
    (below : q < 2 ^ (top + 54) - 2 ^ top) : nearest q < 2 ^ (top + 54) - 2 ^ top := by
  have room : (2 : ℚ) ^ (top + 54) = 2 ^ top * 2 ^ 54 := pow_add 2 top 54
  have unit : (0 : ℚ) < 2 ^ top := by positivity
  rcases eq_or_lt_of_le nonneg with zero | positive
  · rw [nearest_exact nonneg ⟨0, by norm_num, 0, by rw [← zero]; simp⟩]
    exact below
  have num_pos : q.num.natAbs ≠ 0 := by
    rw [Int.natAbs_ne_zero, Ne, Rat.num_eq_zero]
    exact positive.ne'
  have quotient := natAbs_num_div_den nonneg
  have ulp := two_zpow_lastBit_le num_pos q.den_pos
  have most : (q.num.natAbs / q.den : ℚ) ≤ 2 ^ lastBit q.num.natAbs q.den * (2 ^ 53 : Nat) := by
    push_cast
    exact (lt_two_zpow_lastBit q.den_pos).le
  have significand := significand_le q.den_pos most
  have close := (abs_le.mp (abs_trueDiv_sub_le_half num_pos q.den_pos)).2
  rw [nearest, if_neg (not_lt.mpr nonneg)]
  rw [quotient] at ulp close
  rw [trueDiv_eq num_pos] at close ⊢
  generalize divHalfEven _ _ = digits at significand close ⊢
  generalize lastBit q.num.natAbs q.den = bit at ulp close ⊢
  have small : bit ≤ top + 1 := by
    have less : (2 : ℚ) ^ (bit + 52) < 2 ^ ((top : Int) + 54) := by
      rw [zpow_add₀ two_ne_zero, show ((top : Int) + 54) = ((top + 54 : Nat) : Int) by push_cast; rfl,
        zpow_natCast]
      norm_num at ulp ⊢
      linarith
    have exponents := (zpow_lt_zpow_iff_right₀ (by norm_num : (1 : ℚ) < 2)).mp less
    omega
  rcases eq_or_lt_of_le small with last | lower
  · -- the last bit weighs twice the distance from the middle, so that one of them is missing
    have weight : (2 : ℚ) ^ bit = 2 ^ top * 2 := by
      rw [last, zpow_add₀ two_ne_zero, zpow_natCast, zpow_one]
    rw [weight] at close ⊢
    have less : (digits : ℚ) < 2 ^ 53 := by
      by_contra full
      have product := mul_le_mul_of_nonneg_right (not_lt.mp full) (by positivity : 0 ≤ (2 : ℚ) ^ top * 2)
      linarith
    have fewer : (digits : ℚ) ≤ 2 ^ 53 - 1 := by
      have whole : digits + 1 ≤ 2 ^ 53 := by exact_mod_cast less
      have cast : ((digits + 1 : Nat) : ℚ) ≤ ((2 ^ 53 : Nat) : ℚ) := Nat.cast_le.mpr whole
      push_cast at cast
      linarith
    have product := mul_le_mul_of_nonneg_right fewer (by positivity : 0 ≤ (2 : ℚ) ^ top * 2)
    linarith
  · have weight : (2 : ℚ) ^ bit ≤ 2 ^ top := by
      rw [← zpow_natCast]
      exact zpow_le_zpow_right₀ one_le_two (by omega)
    have digits_le : (digits : ℚ) ≤ 2 ^ 53 := by exact_mod_cast significand
    have product : (digits : ℚ) * 2 ^ bit ≤ 2 ^ 53 * 2 ^ top :=
      mul_le_mul digits_le weight (by positivity) (by positivity)
    linarith

theorem isFloat_two_pow (n : Nat) : IsFloat (2 ^ n) :=
  ⟨1, by norm_num, n, by simp⟩

theorem IsFloat.mul_two_pow {q : ℚ} (float : IsFloat q) (n : Nat) : IsFloat (2 ^ n * q) := by
  rcases float with ⟨significand, small, exponent, rfl⟩
  refine ⟨significand, small, n + exponent, ?_⟩
  rw [zpow_add₀ two_ne_zero, zpow_natCast]
  ring

/-- Some power of two makes a float whole, and so does every higher one. -/
theorem IsFloat.whole {q : ℚ} (float : IsFloat q) :
    ∃ least : Nat, ∀ n ≥ least, ∃ whole : Nat, 2 ^ n * q = whole := by
  rcases float with ⟨significand, -, exponent, rfl⟩
  refine ⟨(-exponent).toNat, ?_⟩
  intro n enough
  lift n + exponent to Nat using by omega with shift shifted
  refine ⟨significand * 2 ^ shift, ?_⟩
  have power : (2 : ℚ) ^ n * 2 ^ exponent = 2 ^ shift := by
    rw [← zpow_natCast, ← zpow_add₀ two_ne_zero, ← shifted, zpow_natCast]
  push_cast
  rw [← power]
  ring

end Numu.Binary64
