import Mathlib.Data.Int.Log
import Numu.Foundation.Rounding

/-!
# Decimal arithmetic with 28 digits

Python's default `decimal` context: a result is rounded half-even to 28 significant
digits, and `quantize` to whole numbers refuses a result of more digits.
-/

namespace Numu.DecimalContext

def precision : Nat := 28

/-- Exponent of the last digit kept of `q`. -/
def lastDigit (q : ℚ) : Int := Int.log 10 |q| + 1 - precision

/-- The result of an operation whose exact value is `q`. -/
def fix (q : ℚ) : ℚ :=
  if q = 0 then 0 else Binary64.roundHalfEven (q / 10 ^ lastDigit q) * 10 ^ lastDigit q

def add (a b : ℚ) : ℚ := fix (a + b)

def sub (a b : ℚ) : ℚ := fix (a - b)

def mul (a b : ℚ) : ℚ := fix (a * b)

def div (a b : ℚ) : ℚ := fix (a / b)

/-- `ROUND_HALF_UP`: half away from zero. -/
def roundHalfUp (q : ℚ) : Int :=
  if 0 ≤ q then ⌊q + 1 / 2⌋ else ⌈q - 1 / 2⌉

/-- `int(q.quantize(Decimal("1"), rounding=ROUND_HALF_UP))`. -/
def quantize (q : ℚ) : Except String Int :=
  let rounded := roundHalfUp q
  if rounded.natAbs < 10 ^ precision then .ok rounded
  else .error "[<class 'decimal.InvalidOperation'>]"

/-- A decimal of at most 28 digits is left alone. -/
theorem fix_exact {q : ℚ} {n : Int} {k : Nat} (digits : q * 10 ^ k = n)
    (fits : n.natAbs < 10 ^ precision) : fix q = q := by
  unfold fix
  split_ifs with zero
  · exact zero.symm
  have ten_pos : (0 : ℚ) < 10 ^ k := by positivity
  have size : |q| * 10 ^ k < 10 ^ precision := by
    have bound : ((n.natAbs : Nat) : ℚ) < 10 ^ precision := by exact_mod_cast fits
    rw [Nat.cast_natAbs, Int.cast_abs, ← digits, abs_mul, abs_of_pos ten_pos] at bound
    exact bound
  have leading : (10 : ℚ) ^ Int.log 10 |q| ≤ |q| :=
    Int.zpow_log_le_self (by norm_num) (abs_pos.mpr zero)
  have small : (10 : ℚ) ^ (Int.log 10 |q| + k) < 10 ^ (precision : Int) := by
    rw [zpow_add₀ (by norm_num), zpow_natCast, zpow_natCast]
    refine lt_of_le_of_lt ?_ size
    gcongr
  have exponent : Int.log 10 |q| + k < precision :=
    (zpow_lt_zpow_iff_right₀ (by norm_num)).mp small
  obtain ⟨shift, shift_eq⟩ : ∃ shift : Nat, -lastDigit q = k + shift :=
    ⟨(-lastDigit q - k).toNat, by unfold lastDigit; omega⟩
  have scaled : q / 10 ^ lastDigit q = ((n * 10 ^ shift : Int) : ℚ) := by
    rw [div_eq_mul_inv, ← zpow_neg, shift_eq, zpow_add₀ (by norm_num), zpow_natCast, zpow_natCast,
      ← mul_assoc, digits]
    push_cast
    ring
  rw [scaled, Binary64.roundHalfEven_intCast, ← scaled]
  field_simp

/-- A rounded result is off by at most half a unit of its 28th digit. -/
theorem abs_fix_sub_le (q : ℚ) : |fix q - q| ≤ |q| / (2 * 10 ^ 27) := by
  unfold fix
  split_ifs with zero
  · simp [zero]
  have leading : (10 : ℚ) ^ Int.log 10 |q| ≤ |q| :=
    Int.zpow_log_le_self (by norm_num) (abs_pos.mpr zero)
  have unit : (10 : ℚ) ^ lastDigit q * 10 ^ 27 = 10 ^ Int.log 10 |q| := by
    rw [← zpow_natCast, ← zpow_add₀ (by norm_num)]
    congr 1
    unfold lastDigit precision
    push_cast
    ring
  have unit_pos : (0 : ℚ) < 10 ^ lastDigit q := by positivity
  have error := Binary64.abs_roundHalfEven_sub_le (q / 10 ^ lastDigit q)
  have scaled : q = q / 10 ^ lastDigit q * 10 ^ lastDigit q := by field_simp
  calc |(Binary64.roundHalfEven (q / 10 ^ lastDigit q) : ℚ) * 10 ^ lastDigit q - q|
      = |(Binary64.roundHalfEven (q / 10 ^ lastDigit q) : ℚ) - q / 10 ^ lastDigit q| *
          10 ^ lastDigit q := by
        rw [← abs_of_pos unit_pos, ← abs_mul, abs_of_pos unit_pos, sub_mul, ← scaled]
    _ ≤ 1 / 2 * 10 ^ lastDigit q := by gcongr
    _ ≤ |q| / (2 * 10 ^ 27) := by
        rw [le_div_iff₀ (by positivity)]
        linarith

theorem abs_fix_sub_le_float (q : ℚ) : |fix q - q| ≤ |q| / 2 ^ 53 := by
  apply (abs_fix_sub_le q).trans
  gcongr
  norm_num

/-- A decimal rounding is finer than one of a float. -/
theorem within_fix {n : Nat} {a x : ℚ} (close : Binary64.Within n a x) :
    Binary64.Within (n + 1) a (fix x) := by
  have error := abs_fix_sub_le_float x
  rw [abs_of_nonneg close.computed_nonneg] at error
  exact close.step error

@[simp] theorem roundHalfUp_intCast (n : Int) : roundHalfUp (n : ℚ) = n := by
  unfold roundHalfUp
  split_ifs
  · rw [Int.floor_intCast_add]
    norm_num
  · have shift : (n : ℚ) - 1 / 2 = -(1 / 2) + n := by ring
    rw [shift, Int.ceil_add_intCast]
    norm_num

theorem abs_roundHalfUp_sub_le (q : ℚ) : |(roundHalfUp q : ℚ) - q| ≤ 1 / 2 := by
  unfold roundHalfUp
  rw [abs_le]
  split_ifs with sign
  · have low := Int.floor_le (q + 1 / 2)
    have high := Int.lt_floor_add_one (q + 1 / 2)
    constructor <;> linarith
  · have low := Int.le_ceil (q - 1 / 2)
    have high := Int.ceil_lt_add_one (q - 1 / 2)
    constructor <;> linarith

theorem quantize_eq_ok {q : ℚ} {n : Int} :
    quantize q = .ok n ↔ roundHalfUp q = n ∧ n.natAbs < 10 ^ precision := by
  unfold quantize
  simp only
  split_ifs with fits
  · constructor
    · intro ok
      cases ok
      exact ⟨rfl, fits⟩
    · rintro ⟨rfl, -⟩
      rfl
  · constructor
    · intro ok
      cases ok
    · rintro ⟨rfl, fits'⟩
      exact absurd fits' fits

theorem quantize_intCast {n : Int} (fits : n.natAbs < 10 ^ precision) :
    quantize (n : ℚ) = .ok n :=
  quantize_eq_ok.mpr ⟨roundHalfUp_intCast n, fits⟩

end Numu.DecimalContext
