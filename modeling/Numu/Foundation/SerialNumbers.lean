import Mathlib.Algebra.Ring.Nat
import Numu.Foundation.Calendar

/-!
# Serial numbers as text

A series of numbers that are written with leading zeros up to a width, and the greatest of them
as a text. Texts are ordered as the numbers are as long as the width is enough for them.
-/

namespace Numu.Serial
open Calendar (padded padded_isDigit padded_injective)

def number (series : String) (width n : Nat) : String :=
  series ++ String.ofList (padded width n)

/-- The first numbers of a series, from 1. -/
def numbers (series : String) (width count : Nat) : List String :=
  (List.range count).map fun i => number series width (i + 1)

/-- The greatest text of a list. -/
def greatest (texts : List String) : Option String :=
  texts.foldl (fun best text => if best.all (· < text) then some text else best) none

/-! ## Digits -/

/-- The last digit of a padded number. -/
theorem padded_succ (width n : Nat) :
    padded (width + 2) n = padded (width + 1) (n / 10) ++ [(n % 10).digitChar] := by
  unfold padded
  simp only
  rw [Nat.toDigits_eq_if (n := n) (by decide)]
  split
  · rename_i small
    rw [Nat.div_eq_of_lt small, Nat.mod_eq_of_lt small]
    simp [Nat.toDigits_eq_if, List.replicate_succ']
  · rw [List.length_append, List.length_singleton, ← List.append_assoc]
    congr 3
    omega

theorem padded_one {n : Nat} (small : n < 10) : padded 1 n = [n.digitChar] := by
  rw [padded, Nat.toDigits_eq_if (by decide), if_pos small]
  rfl

theorem length_padded {width n : Nat} (fits : n < 10 ^ (width + 1)) :
    (padded (width + 1) n).length = width + 1 := by
  have digits := (Nat.length_toDigits_le_iff (b := 10) (by decide) (Nat.succ_pos width)).mpr fits
  rw [padded, List.length_append, List.length_replicate]
  omega

theorem digitChar_lt {first second : Nat} (lt : first < second) (small : second < 10) :
    first.digitChar < second.digitChar := by
  have digits : ∀ second < 10, ∀ first < second, first.digitChar < second.digitChar := by decide
  exact digits second small first lt

/-- Two texts of one length are ordered by where they first differ, whatever follows. -/
theorem append_lt_append {first second : List Char} (lt : first < second)
    (length : first.length = second.length) (rest rest' : List Char) :
    first ++ rest < second ++ rest' := by
  induction first generalizing second with
  | nil =>
      cases second with
      | nil => cases lt
      | cons c second => cases length
  | cons c first ih =>
      cases second with
      | nil => cases length
      | cons d second =>
          rw [List.cons_append, List.cons_append, List.cons_lt_cons_iff]
          rw [List.cons_lt_cons_iff] at lt
          rcases lt with smaller | ⟨same, lt⟩
          · exact Or.inl smaller
          · exact Or.inr ⟨same, ih lt (Nat.succ.inj length)⟩

/-- Padded numbers are ordered as the numbers are, while the width is enough. -/
theorem padded_lt {width first second : Nat} (lt : first < second)
    (fits : second < 10 ^ (width + 1)) : padded (width + 1) first < padded (width + 1) second := by
  induction width generalizing first second with
  | zero =>
      rw [padded_one (Nat.lt_trans lt fits), padded_one fits, List.cons_lt_cons_iff]
      exact Or.inl (digitChar_lt lt fits)
  | succ width ih =>
      rw [padded_succ, padded_succ]
      have quotient : second / 10 < 10 ^ (width + 1) := by
        rw [Nat.pow_succ] at fits
        omega
      rcases Nat.lt_or_ge (first / 10) (second / 10) with smaller | larger
      · have length : (padded (width + 1) (first / 10)).length =
            (padded (width + 1) (second / 10)).length := by
          rw [length_padded (Nat.lt_trans smaller quotient), length_padded quotient]
        exact append_lt_append (ih smaller quotient) length _ _
      · have same : first / 10 = second / 10 := by omega
        rw [same]
        apply List.append_left_lt
        rw [List.cons_lt_cons_iff]
        exact Or.inl (digitChar_lt (by omega) (Nat.mod_lt _ (by decide)))

/-- The first number that is longer than the width, and the one before it. -/
theorem padded_power (width : Nat) :
    (∃ rest, padded (width + 1) (10 ^ (width + 1)) = '1' :: rest) ∧
      ∃ rest, padded (width + 1) (10 ^ (width + 1) - 1) = '9' :: rest := by
  induction width with
  | zero => exact ⟨⟨_, rfl⟩, ⟨_, rfl⟩⟩
  | succ width ih =>
      obtain ⟨⟨one, power⟩, ⟨nine, before⟩⟩ := ih
      have whole : 10 ^ (width + 2) / 10 = 10 ^ (width + 1) := by
        rw [@Nat.pow_succ 10 (width + 1)]
        omega
      have less : (10 ^ (width + 2) - 1) / 10 = 10 ^ (width + 1) - 1 := by
        rw [@Nat.pow_succ 10 (width + 1)]
        omega
      rw [padded_succ, padded_succ, whole, less, power, before]
      exact ⟨⟨_, rfl⟩, ⟨_, rfl⟩⟩

theorem padded_overflow (width : Nat) :
    ¬padded (width + 1) (10 ^ (width + 1) - 1) < padded (width + 1) (10 ^ (width + 1)) := by
  obtain ⟨⟨one, power⟩, ⟨nine, before⟩⟩ := padded_power width
  rw [power, before, List.cons_lt_cons_iff]
  rintro (less | ⟨same, -⟩)
  · exact absurd less (by decide)
  · exact absurd same (by decide)

theorem readInt_padded (width n : Nat) :
    IntegerText.readInt (String.ofList (padded width n)) = some (n : Int) := by
  have digits := padded_isDigit width n
  have nonempty : padded width n ≠ [] := by
    rw [padded]
    exact List.append_ne_nil_of_right_ne_nil _ Nat.toDigits_ne_nil
  have value := IntegerText.readNat_digits _ nonempty digits
  rw [padded, Calendar.ofDigitChars_zeros, Nat.ofDigitChars_ten_toDigits, ← padded] at value
  have clean := IntegerText.strip_eq_self _ fun c member =>
    IntegerText.digit_not_space c (digits c member)
  rw [IntegerText.readInt, String.toList_ofList, clean]
  split
  · rename_i rest signed
    exact absurd (digits '-' (by rw [signed]; exact List.mem_cons_self)) (by decide)
  · rename_i rest signed
    exact absurd (digits '+' (by rw [signed]; exact List.mem_cons_self)) (by decide)
  · rw [value]
    rfl

/-! ## The series -/

theorem toList_number (series : String) (width n : Nat) :
    (number series width n).toList = series.toList ++ padded width n := by
  rw [number, String.toList_append, String.toList_ofList]

theorem number_injective {series : String} {width first second : Nat}
    (same : number series width first = number series width second) : first = second := by
  have chars := congrArg String.toList same
  rw [toList_number, toList_number, List.append_cancel_left_eq] at chars
  exact padded_injective chars

theorem append_lt_append_iff (series first second : List Char) :
    series ++ first < series ++ second ↔ first < second := by
  induction series with
  | nil => exact Iff.rfl
  | cons c series ih =>
      rw [List.cons_append, List.cons_append, List.cons_lt_cons_iff]
      constructor
      · rintro (less | ⟨-, later⟩)
        · exact absurd less (Char.lt_irrefl c)
        · exact ih.mp later
      · exact fun lt => Or.inr ⟨rfl, ih.mpr lt⟩

theorem number_lt_iff {series : String} {width first second : Nat} :
    number series width first < number series width second ↔
      padded width first < padded width second := by
  rw [String.lt_iff, toList_number, toList_number, append_lt_append_iff]

theorem numbers_succ (series : String) (width count : Nat) :
    numbers series width (count + 1) =
      numbers series width count ++ [number series width (count + 1)] := by
  rw [numbers, List.range_succ, List.map_append]
  rfl

theorem mem_numbers {series text : String} {width count : Nat} :
    text ∈ numbers series width count ↔
      ∃ n, 0 < n ∧ n ≤ count ∧ number series width n = text := by
  rw [numbers, List.mem_map]
  constructor
  · rintro ⟨i, member, rfl⟩
    exact ⟨i + 1, Nat.succ_pos i, List.mem_range.mp member, rfl⟩
  · rintro ⟨n, positive, le, rfl⟩
    refine ⟨n - 1, List.mem_range.mpr (by omega), ?_⟩
    rw [Nat.sub_add_cancel positive]

theorem greatest_append (texts : List String) (text : String) :
    greatest (texts ++ [text]) =
      if (greatest texts).all (· < text) then some text else greatest texts := by
  rw [greatest, List.foldl_append]
  rfl

/-- While the width is enough, the greatest number is the last. -/
theorem greatest_numbers {series : String} {width count : Nat} (fits : count < 10 ^ (width + 1)) :
    greatest (numbers series (width + 1) count) =
      if count = 0 then none else some (number series (width + 1) count) := by
  induction count with
  | zero => rfl
  | succ count ih =>
      rw [numbers_succ, greatest_append, ih (Nat.lt_of_succ_lt fits), if_neg (Nat.succ_ne_zero _)]
      split
      · rfl
      · rw [if_pos]
        rw [Option.all_some, decide_eq_true_eq, number_lt_iff]
        exact padded_lt (Nat.lt_succ_self count) fits

/-- The first number that is too long is not the greatest. -/
theorem greatest_overflow (series : String) (width : Nat) :
    greatest (numbers series (width + 1) (10 ^ (width + 1))) =
      some (number series (width + 1) (10 ^ (width + 1) - 1)) := by
  have more : 1 < 10 ^ (width + 1) := Nat.one_lt_pow (Nat.succ_ne_zero width) (by decide)
  have overflow := padded_overflow width
  obtain ⟨last, power⟩ : ∃ last, 10 ^ (width + 1) = last + 1 :=
    ⟨10 ^ (width + 1) - 1, by omega⟩
  have shorter : last < 10 ^ (width + 1) := by omega
  have nonzero : last ≠ 0 := by omega
  rw [power, Nat.add_sub_cancel] at overflow ⊢
  rw [numbers_succ, greatest_append, greatest_numbers shorter, if_neg nonzero, if_neg]
  rw [Option.all_some, decide_eq_true_eq, number_lt_iff]
  exact overflow

end Numu.Serial
