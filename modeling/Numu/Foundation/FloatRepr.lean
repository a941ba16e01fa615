import Mathlib.Algebra.Order.Floor.Semiring
import Mathlib.Data.List.DropRight
import Mathlib.Data.Nat.Log
import Mathlib.Data.Nat.Prime.Basic
import Numu.Foundation.ExactFloats
import Numu.Foundation.FloatText

/-!
# Floats as Python writes them

`repr` of a float has the fewest digits that read back as it. Its text is a literal: digits, a
fraction and an exponent. Subnormal numbers and the sign of zero are kept.
-/

namespace Numu

inductive PyFloat where
  | finite (negative : Bool) (magnitude : ℚ)
  | infinite (negative : Bool)
  | nan
  deriving DecidableEq

namespace PyFloat
open Binary64 (nearest roundHalfEven)
open FloatText (overflow readExponent spanDigits spanFraction spanSign)
open IntegerText (decimalValue isDigit_bounds strip)

/-- Below the normal numbers floats are the multiples of the least of them. -/
def binary64 (q : ℚ) : ℚ :=
  if q < 1 / 2 ^ 1022 then roundHalfEven (q * 2 ^ 1074) / 2 ^ 1074 else nearest q

def ofMagnitude (negative : Bool) (q : ℚ) : PyFloat :=
  if overflow ≤ q then .infinite negative else .finite negative (binary64 q)

/-- The magnitude of a finite float is one that reading leaves alone. -/
def Valid : PyFloat → Prop
  | .finite _ magnitude => 0 ≤ magnitude ∧ ofMagnitude false magnitude = .finite false magnitude
  | _ => True

def IsFinite : PyFloat → Prop
  | .finite _ _ => True
  | _ => False

def readMagnitude (text : List Char) : Option ℚ :=
  let (whole, afterWhole) := spanDigits text
  let (fraction, afterFraction) := spanFraction afterWhole
  if whole ++ fraction = [] then none
  else
    (readExponent afterFraction).map fun (exponent : Int) =>
      FloatText.ofDigits (whole ++ fraction) * (10 : ℚ) ^ (exponent - fraction.length)

/-- `float(text)`. -/
def readFloat (text : List Char) : Option PyFloat :=
  let (negative, unsigned) := spanSign (strip text)
  let name := String.ofList (unsigned.map Char.toLower)
  if name = "inf" ∨ name = "infinity" then some (.infinite negative)
  else if name = "nan" then some .nan
  else (readMagnitude unsigned).map (ofMagnitude negative)

/-- The parts of a literal; the exponent has a sign. -/
structure Literal where
  whole : List Char
  fraction : List Char
  exponent : Option (Bool × List Char) := none

namespace Literal

def fractionText (fraction : List Char) : List Char :=
  if fraction = [] then [] else '.' :: fraction

def exponentText : Option (Bool × List Char) → List Char
  | none => []
  | some (negative, digits) => 'e' :: (if negative then '-' else '+') :: digits

def text (literal : Literal) : List Char :=
  literal.whole ++ (fractionText literal.fraction ++ exponentText literal.exponent)

def exponentValue : Option (Bool × List Char) → Int
  | none => 0
  | some (negative, digits) =>
      if negative then -(Nat.ofDigitChars 10 digits 0 : Int) else Nat.ofDigitChars 10 digits 0

def value (literal : Literal) : ℚ :=
  Nat.ofDigitChars 10 (literal.whole ++ literal.fraction) 0 *
    (10 : ℚ) ^ (exponentValue literal.exponent - literal.fraction.length)

/-- What a float is written as: no zero leads, and a fraction or an exponent follows. -/
structure Sound (literal : Literal) : Prop where
  digits : ∀ c ∈ literal.whole ++ literal.fraction, c.isDigit
  leads : literal.whole = ['0'] ∨ ∃ c rest, literal.whole = c :: rest ∧ c ≠ '0'
  exponent : ∀ negative digits, literal.exponent = some (negative, digits) →
    digits ≠ [] ∧ ∀ c ∈ digits, c.isDigit
  marked : literal.fraction ≠ [] ∨ literal.exponent ≠ none

end Literal

/-- The decimals of a number of digits next to `q`, the nearer one first: digits and power of ten. -/
def neighbours (q : ℚ) (digits : Nat) : List (Nat × Int) :=
  let unit : Int := Int.log 10 q + 1 - digits
  let low := ⌊q / 10 ^ unit⌋₊
  if q / 10 ^ unit - low ≤ 1 / 2 then [(low, unit), (low + 1, unit)]
  else [(low + 1, unit), (low, unit)]

def decimalOf (parts : Nat × Int) : ℚ := parts.1 * 10 ^ parts.2

/-- All digits of a number whose denominator is a power of two. -/
def exact (q : ℚ) : Nat × Int :=
  let places := Nat.log 2 q.den
  (q.num.natAbs * 5 ^ places, -places)

/-- The shortest decimal that reads back as `q`; 17 digits always do. -/
def shortest (q : ℚ) : Nat × Int :=
  let found := ((List.range 17).flatMap fun n => neighbours q (n + 1)).find? fun parts =>
    ofMagnitude false (decimalOf parts) = .finite false q
  found.getD (exact q)

/-- At least two digits. -/
def exponentDigits (n : Nat) : List Char :=
  List.replicate (2 - (Nat.toDigits 10 n).length) '0' ++ Nat.toDigits 10 n

/-- Digits with a point after the first `point` of them, or with an exponent where the point is far
from them. -/
def place (digits : List Char) (point : Int) : Literal :=
  if -4 < point ∧ point ≤ 16 then
    if point ≤ 0 then { whole := ['0'], fraction := List.replicate (-point).toNat '0' ++ digits }
    else if digits.length ≤ point then
      { whole := digits ++ List.replicate (point - digits.length).toNat '0', fraction := ['0'] }
    else { whole := digits.take point.toNat, fraction := digits.drop point.toNat }
  else {
    whole := digits.take 1
    fraction := digits.drop 1
    exponent := some (point - 1 < 0, exponentDigits (point - 1).natAbs) }

def literal (q : ℚ) : Literal :=
  if q = 0 then { whole := ['0'], fraction := ['0'] }
  else
    let (mantissa, power) := shortest q
    let digits := Nat.toDigits 10 mantissa
    place (digits.rdropWhile (· = '0')) (digits.length + power)

/-- `repr`. -/
def write : PyFloat → List Char
  | .finite negative magnitude => (if negative then ['-'] else []) ++ (literal magnitude).text
  | .infinite negative => (if negative then ['-'] else []) ++ "inf".toList
  | .nan => "nan".toList

example : write (.finite true (nearest (1 / 10))) = ['-', '0', '.', '1'] := by decide +kernel

section Digits
variable {text rest digits : List Char}

/-- A text that does not go on with a digit. -/
def Stops (rest : List Char) : Prop :=
  ∀ c more, rest = c :: more → decimalValue c = none ∧ c ≠ '_'

def digitValues (digits : List Char) : List Nat := digits.map fun c => c.toNat - '0'.toNat

theorem spanMore_cons {c : Char} (plain : c ≠ '_') (more : List Char) :
    FloatText.spanMore (c :: more) =
      match decimalValue c with
      | none => ([], c :: more)
      | some digit => (digit :: (FloatText.spanMore more).1, (FloatText.spanMore more).2) := by
  rw [FloatText.spanMore]
  case x_1 =>
    rintro d others rfl -
    exact plain rfl
  all_goals rfl

theorem digit_ne_underscore {c : Char} (digit : c.isDigit) : c ≠ '_' := by
  rintro rfl
  exact absurd digit (by decide)

theorem spanMore_digits (each : ∀ c ∈ digits, c.isDigit) (stops : Stops rest) :
    FloatText.spanMore (digits ++ rest) = (digitValues digits, rest) := by
  induction digits with
  | nil =>
      cases rest with
      | nil => rfl
      | cons c more =>
          obtain ⟨foreign, plain⟩ := stops c more rfl
          rw [List.nil_append, spanMore_cons plain, foreign]
          rfl
  | cons c digits ih =>
      have digit := each c List.mem_cons_self
      rw [List.cons_append, spanMore_cons (digit_ne_underscore digit),
        IntegerText.decimalValue_digit c digit, ih fun d mem => each d (List.mem_cons_of_mem _ mem)]
      rfl

theorem spanDigits_digits (each : ∀ c ∈ digits, c.isDigit) (stops : Stops rest) :
    spanDigits (digits ++ rest) = (digitValues digits, rest) := by
  cases digits with
  | nil =>
      cases rest with
      | nil => rfl
      | cons c more =>
          rw [List.nil_append, spanDigits, (stops c more rfl).1]
          rfl
  | cons c digits =>
      have digit := each c List.mem_cons_self
      rw [List.cons_append, spanDigits, IntegerText.decimalValue_digit c digit]
      dsimp only
      rw [spanMore_digits (fun d mem => each d (List.mem_cons_of_mem _ mem)) stops]
      rfl

theorem ofDigits_values (digits : List Char) :
    FloatText.ofDigits (digitValues digits) = Nat.ofDigitChars 10 digits 0 := by
  rw [FloatText.ofDigits, digitValues, List.foldl_map, Nat.ofDigitChars_eq_foldl]

theorem stops_nil : Stops [] := fun _ _ same => nomatch same

theorem stops_mark {c : Char} (foreign : decimalValue c = none) (plain : c ≠ '_')
    (more : List Char) : Stops (c :: more) := by
  rintro d others same
  cases same
  exact ⟨foreign, plain⟩

end Digits

namespace Literal
variable {literal : Literal}

theorem stops_exponentText (exponent : Option (Bool × List Char)) : Stops (exponentText exponent) := by
  cases exponent with
  | none => exact stops_nil
  | some parts => exact stops_mark (by decide) (by decide) _

theorem spanFraction_text (each : ∀ c ∈ literal.fraction, c.isDigit) :
    spanFraction (fractionText literal.fraction ++ exponentText literal.exponent) =
      (digitValues literal.fraction, exponentText literal.exponent) := by
  rw [fractionText]
  split
  · rename_i empty
    rw [List.nil_append, empty]
    cases literal.exponent with
    | none => rfl
    | some parts => rfl
  · rw [List.cons_append, spanFraction, spanDigits_digits each (stops_exponentText _)]

theorem readExponent_text
    (sound : ∀ negative digits, literal.exponent = some (negative, digits) →
      digits ≠ [] ∧ ∀ c ∈ digits, c.isDigit) :
    readExponent (exponentText literal.exponent) = some (exponentValue literal.exponent) := by
  cases parts : literal.exponent with
  | none => rfl
  | some parts_ =>
      obtain ⟨negative, digits⟩ := parts_
      obtain ⟨solid, each⟩ := sound negative digits parts
      have spanned : spanDigits digits = (digitValues digits, []) := by
        have whole := spanDigits_digits each stops_nil
        rwa [List.append_nil] at whole
      have full : digitValues digits ≠ [] := fun empty => solid (List.map_eq_nil_iff.mp empty)
      have signed : spanSign ((if negative then '-' else '+') :: digits) = (negative, digits) := by
        cases negative <;> rfl
      rw [exponentText, readExponent, if_neg (by decide), signed]
      dsimp only
      rw [spanned]
      cases values : digitValues digits with
      | nil => exact absurd values full
      | cons value values_ =>
          dsimp only
          rw [← values, ofDigits_values]
          rfl

/-- A literal reads as its value. -/
theorem readMagnitude_text (sound : literal.Sound) :
    readMagnitude literal.text = some literal.value := by
  have each : ∀ c ∈ literal.whole, c.isDigit := fun c mem =>
    sound.digits c (List.mem_append_left _ mem)
  have each' : ∀ c ∈ literal.fraction, c.isDigit := fun c mem =>
    sound.digits c (List.mem_append_right _ mem)
  have stops : Stops (fractionText literal.fraction ++ exponentText literal.exponent) := by
    rw [fractionText]
    split
    · exact stops_exponentText _
    · exact stops_mark (by decide) (by decide) _
  have solid : literal.whole ≠ [] := by
    rcases sound.leads with zero | ⟨c, rest, starts, -⟩
    · rw [zero]
      exact List.cons_ne_nil _ _
    · rw [starts]
      exact List.cons_ne_nil _ _
  have full : digitValues literal.whole ++ digitValues literal.fraction ≠ [] := by
    intro empty
    exact solid (List.map_eq_nil_iff.mp (List.append_eq_nil_iff.mp empty).1)
  have joined : digitValues literal.whole ++ digitValues literal.fraction =
      digitValues (literal.whole ++ literal.fraction) := List.map_append.symm
  rw [readMagnitude, text, spanDigits_digits each stops]
  dsimp only
  rw [spanFraction_text each']
  dsimp only
  rw [if_neg full, readExponent_text sound.exponent, Option.map_some, joined, ofDigits_values, value,
    digitValues, List.length_map]

end Literal

section Placed
variable {digits : List Char} {c : Char} {rest : List Char} {point : Int}

theorem exponentDigits_digits (n : Nat) : ∀ c ∈ exponentDigits n, c.isDigit := by
  intro c mem
  rcases List.mem_append.mp mem with zero | digit
  · rw [List.eq_of_mem_replicate zero]
    decide
  · exact IntegerText.toDigits_isDigit n c digit

theorem exponentDigits_ne_nil (n : Nat) : exponentDigits n ≠ [] := by
  rw [exponentDigits, Ne, List.append_eq_nil_iff, not_and]
  exact fun _ => Nat.toDigits_ne_nil

theorem ofDigitChars_exponentDigits (n : Nat) : Nat.ofDigitChars 10 (exponentDigits n) 0 = n := by
  rw [exponentDigits, Nat.ofDigitChars_append, Nat.ofDigitChars_replicate_zero, Nat.mul_zero,
    Nat.ofDigitChars_ten_toDigits]

theorem exponentValue_of (n : Int) :
    Literal.exponentValue (some (decide (n < 0), exponentDigits n.natAbs)) = n := by
  rw [Literal.exponentValue, ofDigitChars_exponentDigits]
  split
  · rename_i negative
    rw [decide_eq_true_eq] at negative
    omega
  · rename_i positive
    rw [decide_eq_true_eq] at positive
    omega

theorem place_sound (each : ∀ d ∈ c :: rest, d.isDigit) (leading : c ≠ '0') (point : Int) :
    (place (c :: rest) point).Sound := by
  have zeros : ∀ n, ∀ d ∈ List.replicate n '0', d.isDigit := by
    intro n d mem
    rw [List.eq_of_mem_replicate mem]
    decide
  have none_ : ∀ negative digits, (none : Option (Bool × List Char)) = some (negative, digits) →
      digits ≠ [] ∧ ∀ d ∈ digits, d.isDigit := fun _ _ same => nomatch same
  rw [place]
  split
  · split
    · refine ⟨fun d mem => ?_, Or.inl rfl, none_, Or.inl ?_⟩
      · rcases List.mem_append.mp mem with lead | later
        · rw [List.mem_singleton.mp lead]
          decide
        · rcases List.mem_append.mp later with zero | digit
          · exact zeros _ d zero
          · exact each d digit
      · rw [Ne, List.append_eq_nil_iff, not_and]
        exact fun _ => List.cons_ne_nil _ _
    · split
      · refine ⟨fun d mem => ?_, Or.inr ⟨c, _, rfl, leading⟩, none_, Or.inl (List.cons_ne_nil _ _)⟩
        rcases List.mem_append.mp mem with whole | tenth
        · rcases List.mem_append.mp whole with digit | zero
          · exact each d digit
          · exact zeros _ d zero
        · rw [List.mem_singleton.mp tenth]
          decide
      · rename_i positive short
        refine ⟨fun d mem => ?_, Or.inr ?_, none_, Or.inl ?_⟩
        · rw [List.take_append_drop] at mem
          exact each d mem
        · lift point to Nat using by omega with place_
          cases place_ with
          | zero => omega
          | succ place_ => exact ⟨c, rest.take place_, by rw [Int.toNat_natCast, List.take_succ_cons], leading⟩
        · rw [Ne, List.drop_eq_nil_iff]
          omega
  · refine ⟨fun d mem => ?_, Or.inr ⟨c, [], rfl, leading⟩, ?_, Or.inr (Option.some_ne_none _)⟩
    · rw [List.take_append_drop] at mem
      exact each d mem
    · intro negative digits same
      cases same
      exact ⟨exponentDigits_ne_nil _, exponentDigits_digits _⟩

/-- Where the point stands is what the literal is worth. -/
theorem place_value (digits : List Char) (point : Int) (solid : digits ≠ []) :
    (place digits point).value =
      Nat.ofDigitChars 10 digits 0 * (10 : ℚ) ^ (point - digits.length) := by
  have long := List.length_pos_iff.mpr solid
  rw [place]
  split
  · split
    · rename_i near small
      have zero : Nat.ofDigitChars 10 ['0'] 0 = 0 := by decide
      rw [Literal.value, Nat.ofDigitChars_append, Nat.ofDigitChars_append, zero,
        Nat.ofDigitChars_replicate_zero, Nat.mul_zero]
      congr 2
      rw [Literal.exponentValue, List.length_append, List.length_replicate]
      push_cast
      omega
    · split
      · rename_i near positive large
        have tenth : Nat.ofDigitChars 10 (digits ++ List.replicate (point - digits.length).toNat '0' ++
            ['0']) 0 = 10 ^ ((point - digits.length).toNat + 1) * Nat.ofDigitChars 10 digits 0 := by
          have zeros : ['0'] = List.replicate 1 '0' := rfl
          rw [List.append_assoc, zeros, List.replicate_append_replicate, Nat.ofDigitChars_append,
            Nat.ofDigitChars_replicate_zero]
        have power : (10 : ℚ) ^ ((point - digits.length).toNat + 1) * 10 ^ (-1 : Int) =
            10 ^ (point - digits.length) := by
          rw [← zpow_natCast, ← zpow_add₀ (by norm_num)]
          congr 1
          push_cast
          omega
        rw [Literal.value, tenth, Literal.exponentValue]
        push_cast
        rw [← power, List.length_singleton]
        norm_num
        ring
      · rename_i near positive short
        rw [Literal.value, List.take_append_drop, Literal.exponentValue, List.length_drop]
        congr 2
        omega
  · rw [Literal.value, List.take_append_drop, exponentValue_of, List.length_drop]
    congr 2
    omega

end Placed

section Shortest
variable {q : ℚ} {n : Nat}

theorem ofDigitChars_lt (digits : List Char) (each : ∀ c ∈ digits, c.isDigit) :
    Nat.ofDigitChars 10 digits 0 < 10 ^ digits.length := by
  induction digits with
  | nil => decide
  | cons c digits ih =>
      obtain ⟨low, high⟩ := isDigit_bounds c (each c List.mem_cons_self)
      have less := ih fun d mem => each d (List.mem_cons_of_mem _ mem)
      have zero : '0'.toNat = 48 := rfl
      have digit : c.toNat - '0'.toNat ≤ 9 := by omega
      rw [Nat.ofDigitChars_cons, Nat.ofDigitChars_eq_ofDigitChars_zero, Nat.mul_zero, Nat.zero_add,
        List.length_cons, Nat.pow_succ]
      calc
        10 ^ digits.length * (c.toNat - '0'.toNat) + Nat.ofDigitChars 10 digits 0
          < 10 ^ digits.length * (c.toNat - '0'.toNat) + 10 ^ digits.length := Nat.add_lt_add_left less _
        _ = 10 ^ digits.length * (c.toNat - '0'.toNat + 1) := by ring
        _ ≤ 10 ^ digits.length * 10 := Nat.mul_le_mul_left _ (by omega)

/-- No zero leads the digits of a number. -/
theorem toDigits_leading (some_ : n ≠ 0) :
    ∃ c rest, Nat.toDigits 10 n = c :: rest ∧ c ≠ '0' := by
  cases written : Nat.toDigits 10 n with
  | nil => exact absurd written Nat.toDigits_ne_nil
  | cons c rest =>
      refine ⟨c, rest, rfl, ?_⟩
      rintro rfl
      have value := @Nat.ofDigitChars_ten_toDigits n
      have zero : 10 * 0 + ('0'.toNat - '0'.toNat) = 0 := by decide
      rw [written, Nat.ofDigitChars_cons, zero] at value
      have each : ∀ c ∈ rest, c.isDigit := fun c mem =>
        IntegerText.toDigits_isDigit n c (written ▸ List.mem_cons_of_mem _ mem)
      have less := ofDigitChars_lt rest each
      rw [value] at less
      cases rest with
      | nil =>
          rw [List.length_nil, Nat.pow_zero] at less
          omega
      | cons d rest =>
          have short := (Nat.length_toDigits_le_iff (by decide) (Nat.succ_pos _)).mpr less
          simp only [written, List.length_cons] at short
          omega

/-- The digits without the zeros at their end. -/
theorem toDigits_stripped (some_ : n ≠ 0) :
    ∃ c rest zeros, (Nat.toDigits 10 n).rdropWhile (· = '0') = c :: rest ∧ c ≠ '0' ∧
      (∀ d ∈ c :: rest, d.isDigit) ∧ Nat.toDigits 10 n = (c :: rest) ++ List.replicate zeros '0' := by
  obtain ⟨c, rest, written, leading⟩ := toDigits_leading some_
  have zeros : (Nat.toDigits 10 n).rdropWhile (· = '0') ++ (Nat.toDigits 10 n).rtakeWhile (· = '0') =
      Nat.toDigits 10 n := List.rdropWhile_append_rtakeWhile
  have same : (Nat.toDigits 10 n).rtakeWhile (· = '0') =
      List.replicate ((Nat.toDigits 10 n).rtakeWhile (· = '0')).length '0' :=
    List.eq_replicate_iff.mpr ⟨rfl, fun d mem => by simpa using List.mem_rtakeWhile_imp mem⟩
  cases kept : (Nat.toDigits 10 n).rdropWhile (· = '0') with
  | nil =>
      have all_ := List.rdropWhile_eq_nil_iff.mp kept c (by rw [written]; exact List.mem_cons_self)
      exact absurd (of_decide_eq_true all_) leading
  | cons d more =>
      rw [kept] at zeros
      have first : d = c := by
        rw [written, List.cons_append] at zeros
        exact (List.cons.inj zeros).1
      refine ⟨d, more, ((Nat.toDigits 10 n).rtakeWhile (· = '0')).length, rfl, first ▸ leading,
        fun e mem => ?_, ?_⟩
      · refine IntegerText.toDigits_isDigit n e ?_
        rw [← zeros]
        exact List.mem_append_left _ mem
      · rw [← same, zeros]

theorem binary64_zero : binary64 0 = 0 := by
  have small : (0 : ℚ) < 1 / 2 ^ 1022 := by positivity
  have none_ : roundHalfEven 0 = 0 := Binary64.roundHalfEven_natCast 0
  rw [binary64, if_pos small, zero_mul, none_, Int.cast_zero, zero_div]

theorem ofMagnitude_zero : ofMagnitude false 0 = .finite false 0 := by
  have large : (2 : ℚ) ^ 970 < 2 ^ 1024 := pow_lt_pow_right₀ (by norm_num) (by norm_num)
  have small : ¬ overflow ≤ 0 := by
    rw [overflow]
    exact not_le.mpr (sub_pos.mpr large)
  rw [ofMagnitude, if_neg small, binary64_zero]

theorem overflow_eq : overflow = 2 ^ (970 + 54) - 2 ^ 970 := rfl

theorem roundHalfEven_nonneg (nonneg : 0 ≤ q) : 0 ≤ roundHalfEven q := by
  have close := Binary64.le_roundHalfEven q
  by_contra negative
  have less : roundHalfEven q ≤ -1 := by omega
  have cast : (roundHalfEven q : ℚ) ≤ -1 := by exact_mod_cast less
  linarith

theorem binary64_nonneg (nonneg : 0 ≤ q) : 0 ≤ binary64 q := by
  rw [binary64]
  split
  · have whole := roundHalfEven_nonneg (mul_nonneg nonneg (by positivity : (0 : ℚ) ≤ 2 ^ 1074))
    have cast : (0 : ℚ) ≤ roundHalfEven (q * 2 ^ 1074) := by exact_mod_cast whole
    positivity
  · exact Binary64.nearest_nonneg nonneg

/-- A subnormal number is no more than the least normal one. -/
theorem subnormal_le (small : q < 1 / 2 ^ 1022) : roundHalfEven (q * 2 ^ 1074) ≤ 2 ^ 52 := by
  have scaled : q * 2 ^ 1074 < 2 ^ 52 := by
    have product := mul_lt_mul_of_pos_right small (by positivity : (0 : ℚ) < 2 ^ 1074)
    have power : (1 : ℚ) / 2 ^ 1022 * 2 ^ 1074 = 2 ^ 52 := by
      rw [show (1074 : Nat) = 1022 + 52 from rfl, pow_add]
      field_simp
    rwa [power] at product
  have close := Binary64.roundHalfEven_le (q * 2 ^ 1074)
  generalize q * 2 ^ 1074 = units at scaled close ⊢
  by_contra more
  have least : (2 ^ 52 + 1 : Int) ≤ roundHalfEven units := by omega
  have cast : (2 ^ 52 + 1 : ℚ) ≤ roundHalfEven units := by exact_mod_cast least
  linarith

/-- A subnormal number, or the least normal one, is left alone. -/
theorem binary64_subnormal {whole : Int} (nonneg : 0 ≤ whole) (small : whole ≤ 2 ^ 52) :
    binary64 (whole / 2 ^ 1074) = whole / 2 ^ 1074 ∧ (whole / 2 ^ 1074 : ℚ) < overflow := by
  lift whole to Nat using nonneg
  have few : (whole : ℚ) ≤ 2 ^ 52 := by exact_mod_cast small
  have unit : (0 : ℚ) < 2 ^ 1074 := by positivity
  constructor
  · rw [binary64, Int.cast_natCast]
    split
    · rw [div_mul_cancel₀ _ unit.ne', Binary64.roundHalfEven_natCast, Int.cast_natCast]
    · refine Binary64.nearest_exact (div_nonneg (Nat.cast_nonneg _) unit.le) ⟨whole, ?_, -1074, ?_⟩
      · have cast : whole ≤ 2 ^ 52 := by exact_mod_cast small
        omega
      · rw [zpow_neg, show (1074 : Int) = ((1074 : Nat) : Int) from rfl, zpow_natCast]
        exact div_eq_mul_inv _ _
  · have large : (1 : ℚ) < overflow := by
      have half : (2 : ℚ) ^ 970 ≤ 2 ^ 1023 := pow_le_pow_right₀ one_le_two (by norm_num)
      have other : (1 : ℚ) < 2 ^ 1023 := one_lt_pow₀ one_lt_two (by norm_num)
      rw [overflow, show (1024 : Nat) = 1023 + 1 from rfl, pow_succ]
      generalize (2 : ℚ) ^ 1023 = top, (2 : ℚ) ^ 970 = bottom at half other ⊢
      linarith
    have below : ((whole : Int) : ℚ) / 2 ^ 1074 ≤ 1 := by
      rw [div_le_one unit, Int.cast_natCast]
      exact few.trans (pow_le_pow_right₀ one_le_two (by norm_num))
    exact below.trans_lt large

/-- What a number is rounded to is left alone by a second rounding, and it does not overflow. -/
theorem ofMagnitude_valid (negative : Bool) (nonneg : 0 ≤ q) : (ofMagnitude negative q).Valid := by
  rw [ofMagnitude]
  split
  · trivial
  · rename_i within
    have below := not_le.mp within
    refine ⟨binary64_nonneg nonneg, ?_⟩
    have kept : binary64 (binary64 q) = binary64 q ∧ binary64 q < overflow := by
      rw [binary64.eq_def q]
      split
      · rename_i small
        exact binary64_subnormal
          (roundHalfEven_nonneg (mul_nonneg nonneg (by positivity))) (subnormal_le small)
      · rename_i normal
        have float := Binary64.nearest_isFloat nonneg
        have least : Binary64.IsFloat (1 / 2 ^ 1022) := ⟨1, by norm_num, -1022, by norm_num⟩
        have kept := Binary64.nearest_mono (by positivity) (not_lt.mp normal)
        rw [Binary64.nearest_exact (by positivity) least] at kept
        rw [binary64, if_neg (not_lt.mpr kept),
          Binary64.nearest_exact (Binary64.nearest_nonneg nonneg) float]
        rw [overflow_eq] at below ⊢
        exact ⟨rfl, Binary64.nearest_lt_middle nonneg below⟩
    rw [ofMagnitude, if_neg (not_le.mpr kept.2), kept.1]

/-- A float is a whole number over a power of two. -/
theorem exists_dyadic (nonneg : 0 ≤ q) (float : binary64 q = q) :
    ∃ (whole : Int) (places : Nat), q = whole / 2 ^ places := by
  rw [binary64] at float
  split at float
  · exact ⟨_, 1074, float.symm⟩
  · have parts := Binary64.nearest_isFloat nonneg
    rw [float] at parts
    obtain ⟨significand, -, exponent, same⟩ := parts
    by_cases large : 0 ≤ exponent
    · lift exponent to Nat using large
      refine ⟨significand * 2 ^ exponent, 0, ?_⟩
      rw [same, zpow_natCast]
      push_cast
      ring
    · obtain ⟨places, rfl⟩ : ∃ places : Nat, exponent = -places := ⟨exponent.natAbs, by omega⟩
      refine ⟨significand, places, ?_⟩
      rw [same, zpow_neg, zpow_natCast, div_eq_mul_inv]
      push_cast
      ring

theorem decimalOf_exact (nonneg : 0 ≤ q) (float : binary64 q = q) : decimalOf (exact q) = q := by
  obtain ⟨whole, places, same⟩ := exists_dyadic nonneg float
  have divides : q.den ∣ 2 ^ places := by
    have den := Rat.den_dvd whole (2 ^ places)
    rw [Rat.divInt_eq_div] at den
    push_cast at den
    rw [← same] at den
    exact_mod_cast den
  obtain ⟨power, -, den⟩ := (Nat.dvd_prime_pow Nat.prime_two).mp divides
  have num : (q.num.natAbs : ℚ) = q.num := by
    rw [Nat.cast_natAbs, Int.cast_abs, abs_of_nonneg (by exact_mod_cast Rat.num_nonneg.mpr nonneg)]
  have ten : (10 : ℚ) ^ power = 2 ^ power * 5 ^ power := by
    rw [← mul_pow]
    norm_num
  have quotient := Rat.num_div_den q
  rw [decimalOf, exact, den, Nat.log_pow (by decide), zpow_neg, zpow_natCast, ten]
  push_cast
  rw [num]
  rw [den] at quotient
  push_cast at quotient
  calc
    (q.num : ℚ) * 5 ^ power * (2 ^ power * 5 ^ power)⁻¹ = q.num / 2 ^ power := by
      field_simp
    _ = q := quotient

/-- The shortest digits of a float read back as it. -/
theorem shortest_reads (nonneg : 0 ≤ q) (float : ofMagnitude false q = .finite false q) :
    ofMagnitude false (decimalOf (shortest q)) = .finite false q := by
  rw [shortest]
  cases found : ((List.range 17).flatMap fun n => neighbours q (n + 1)).find? fun parts =>
      ofMagnitude false (decimalOf parts) = .finite false q with
  | some parts =>
      have reads := List.find?_some found
      rw [decide_eq_true_eq] at reads
      exact reads
  | none =>
      have rounded : binary64 q = q := by
        rw [ofMagnitude] at float
        split at float
        · cases float
        · exact (PyFloat.finite.inj float).2
      rw [Option.getD_none, decimalOf_exact nonneg rounded, float]

theorem shortest_ne_zero (nonneg : 0 ≤ q) (float : ofMagnitude false q = .finite false q)
    (some_ : q ≠ 0) : (shortest q).1 ≠ 0 := by
  intro none_
  have reads := shortest_reads nonneg float
  rw [decimalOf, none_, Nat.cast_zero, zero_mul, ofMagnitude_zero] at reads
  exact some_ (PyFloat.finite.inj reads).2.symm

theorem literal_sound (nonneg : 0 ≤ q) (float : ofMagnitude false q = .finite false q) :
    (literal q).Sound := by
  rw [literal]
  split
  · exact ⟨IntegerText.forall_mem_of_all (by decide), Or.inl rfl, (fun _ _ same => nomatch same), Or.inl (List.cons_ne_nil _ _)⟩
  · rename_i some_
    obtain ⟨c, rest, zeros, stripped, leading, each, -⟩ :=
      toDigits_stripped (shortest_ne_zero nonneg float some_)
    dsimp only
    rw [stripped]
    exact place_sound each leading _

theorem literal_reads (nonneg : 0 ≤ q) (float : ofMagnitude false q = .finite false q) :
    ofMagnitude false (literal q).value = .finite false q := by
  rw [literal]
  split
  · rename_i none_
    have zero : Literal.value { whole := ['0'], fraction := ['0'] } = 0 := by
      have digits : Nat.ofDigitChars 10 ['0', '0'] 0 = 0 := by decide
      rw [Literal.value, List.singleton_append, digits, Nat.cast_zero, zero_mul]
    rw [zero, none_, ofMagnitude_zero]
  · rename_i some_
    have solid := shortest_ne_zero nonneg float some_
    obtain ⟨c, rest, zeros, stripped, -, -, written⟩ := toDigits_stripped solid
    have value := @Nat.ofDigitChars_ten_toDigits (shortest q).1
    rw [written, Nat.ofDigitChars_append, Nat.ofDigitChars_replicate_zero] at value
    have long := congrArg List.length written
    rw [List.length_append, List.length_replicate] at long
    have same : (place (c :: rest) ((Nat.toDigits 10 (shortest q).1).length + (shortest q).2)).value =
        decimalOf (shortest q) := by
      have mantissa : ((shortest q).1 : ℚ) = 10 ^ zeros * Nat.ofDigitChars 10 (c :: rest) 0 := by
        exact_mod_cast value.symm
      rw [place_value _ _ (List.cons_ne_nil _ _), decimalOf, mantissa, long]
      push_cast
      rw [show ((c :: rest).length + zeros + (shortest q).2 - (c :: rest).length : Int) =
        zeros + (shortest q).2 by ring, zpow_add₀ (by norm_num), zpow_natCast]
      ring
    dsimp only
    rw [stripped, same]
    exact shortest_reads nonneg float

end Shortest

section Written
variable {literal : Literal} {c : Char} {x : PyFloat}

theorem Literal.Sound.cons (sound : literal.Sound) :
    ∃ c rest, literal.text = c :: rest ∧ c.isDigit := by
  rcases sound.leads with zero | ⟨c, rest, starts, -⟩
  · refine ⟨'0', Literal.fractionText literal.fraction ++ Literal.exponentText literal.exponent, ?_,
      by decide⟩
    rw [Literal.text, zero]
    rfl
  · refine ⟨c, rest ++ (Literal.fractionText literal.fraction ++
      Literal.exponentText literal.exponent), ?_, sound.digits c ?_⟩
    · rw [Literal.text, starts]
      rfl
    · rw [starts]
      exact List.mem_append_left _ List.mem_cons_self

/-- The characters of a literal. -/
theorem Literal.Sound.chars (sound : literal.Sound) :
    ∀ c ∈ literal.text, c.isDigit ∨ c ∈ ['.', 'e', '+', '-'] := by
  intro c mem
  rcases List.mem_append.mp mem with whole | later
  · exact Or.inl (sound.digits c (List.mem_append_left _ whole))
  rcases List.mem_append.mp later with fraction | exponent
  · rw [Literal.fractionText] at fraction
    split at fraction
    · cases fraction
    · rcases List.mem_cons.mp fraction with rfl | digit
      · exact Or.inr (by decide)
      · exact Or.inl (sound.digits c (List.mem_append_right _ digit))
  · cases parts : literal.exponent with
    | none =>
        rw [parts] at exponent
        cases exponent
    | some parts_ =>
        obtain ⟨negative, digits⟩ := parts_
        rw [parts, Literal.exponentText] at exponent
        rcases List.mem_cons.mp exponent with rfl | signed
        · exact Or.inr (by decide)
        rcases List.mem_cons.mp signed with rfl | digit
        · cases negative <;> exact Or.inr (by decide)
        · exact Or.inl ((sound.exponent negative digits parts).2 c digit)

/-- A literal holds a point or an exponent. -/
theorem Literal.Sound.marks (sound : literal.Sound) : '.' ∈ literal.text ∨ 'e' ∈ literal.text := by
  rcases sound.marked with fraction | exponent
  · refine Or.inl (List.mem_append_right _ (List.mem_append_left _ ?_))
    rw [Literal.fractionText, if_neg fraction]
    exact List.mem_cons_self
  · refine Or.inr (List.mem_append_right _ (List.mem_append_right _ ?_))
    cases parts : literal.exponent with
    | none => exact absurd parts exponent
    | some parts_ => exact List.mem_cons_self

theorem clean_of_chars (one : c.isDigit ∨ c ∈ ['.', 'e', '+', '-']) :
    IntegerText.isSpace c = false := by
  rcases one with digit | mark
  · exact IntegerText.digit_not_space c digit
  · exact IntegerText.forall_mem_of_all (p := fun c => IntegerText.isSpace c = false) (by decide) c mark

theorem spanSign_literal (sound : literal.Sound) : spanSign literal.text = (false, literal.text) := by
  obtain ⟨c, rest, starts, digit⟩ := sound.cons
  rw [starts]
  unfold spanSign
  split
  · rename_i same
    cases same
    exact absurd digit (by decide)
  · rename_i same
    cases same
    exact absurd digit (by decide)
  · rfl

/-- A literal is no name of infinity or NaN. -/
theorem toLower_digit {c : Char} (digit : c.isDigit) : c.toLower = c := by
  obtain ⟨-, high⟩ := isDigit_bounds c digit
  refine dif_neg ?_
  rintro ⟨upper, -⟩
  rw [ge_iff_le, UInt32.le_iff_toNat_le] at upper
  have letter : ('A'.val).toNat = 65 := rfl
  have same : c.val.toNat = c.toNat := rfl
  omega

theorem name_literal (sound : literal.Sound) (name : String) (letter : Char) (more : List Char)
    (spelled : name.toList = letter :: more) (foreign : letter.isDigit = false) :
    String.ofList (literal.text.map Char.toLower) ≠ name := by
  obtain ⟨c, rest, starts, digit⟩ := sound.cons
  intro same
  have chars := congrArg String.toList same
  rw [String.toList_ofList, starts, spelled, List.map_cons] at chars
  rw [toLower_digit digit] at chars
  rw [(List.cons.inj chars).1, foreign] at digit
  cases digit

/-- The text of a finite float has a point or an exponent. -/
theorem write_marks (valid : x.Valid) (finite : x.IsFinite) : '.' ∈ write x ∨ 'e' ∈ write x := by
  cases x with
  | infinite negative => cases finite
  | nan => cases finite
  | finite negative magnitude =>
      rcases (literal_sound valid.1 valid.2).marks with point | exponent
      · exact Or.inl (List.mem_append_right _ point)
      · exact Or.inr (List.mem_append_right _ exponent)

/-- What is written of a finite float reads back as it. -/
theorem readFloat_write (valid : x.Valid) (finite : x.IsFinite) : readFloat (write x) = some x := by
  cases x with
  | infinite negative => cases finite
  | nan => cases finite
  | finite negative magnitude =>
      obtain ⟨nonneg, float⟩ := valid
      have sound := literal_sound nonneg float
      have reads := literal_reads nonneg float
      have clean : ∀ c ∈ write (.finite negative magnitude), IntegerText.isSpace c = false := by
        intro c mem
        rcases List.mem_append.mp mem with sign | inside
        · cases negative
          · cases sign
          · rw [List.mem_singleton.mp sign]
            decide
        · exact clean_of_chars (sound.chars c inside)
      have signed : spanSign (write (.finite negative magnitude)) =
          (negative, (literal magnitude).text) := by
        cases negative with
        | true => rfl
        | false => exact spanSign_literal sound
      have rounded : ofMagnitude negative (literal magnitude).value = .finite negative magnitude := by
        rw [ofMagnitude] at reads ⊢
        split at reads
        · cases reads
        · rename_i small
          rw [if_neg small, (PyFloat.finite.inj reads).2]
      rw [readFloat, IntegerText.strip_eq_self _ clean, signed]
      dsimp only
      rw [if_neg, if_neg (name_literal sound "nan" 'n' ['a', 'n'] rfl rfl),
        Literal.readMagnitude_text sound, Option.map_some, rounded]
      rintro (inf | infinity)
      · exact name_literal sound "inf" 'i' ['n', 'f'] rfl rfl inf
      · exact name_literal sound "infinity" 'i' ['n', 'f', 'i', 'n', 'i', 't', 'y'] rfl rfl infinity

theorem readMagnitude_nonneg {text : List Char} (read : readMagnitude text = some q) : 0 ≤ q := by
  rw [readMagnitude] at read
  dsimp only at read
  split at read
  · cases read
  · obtain ⟨exponent, -, rfl⟩ := Option.map_eq_some_iff.mp read
    positivity

/-- What is read is a float. -/
theorem readFloat_valid {text : List Char} (read : readFloat text = some x) : x.Valid := by
  rw [readFloat] at read
  dsimp only at read
  split at read
  · cases read
    trivial
  · split at read
    · cases read
      trivial
    · obtain ⟨q, magnitude, rfl⟩ := Option.map_eq_some_iff.mp read
      exact ofMagnitude_valid _ (readMagnitude_nonneg magnitude)

end Written

end PyFloat
end Numu
