import Mathlib.Tactic.Ring
import Numu.Foundation.Calendar

/-!
# Dates as text

`isoformat` and `fromisoformat` are those of Python's `date`: a calendar date with or without
dashes, or the day of a week of a year.
-/

namespace Numu.IsoDate
open Calendar (isLeap padded)

def daysIn (year month : Nat) : Nat :=
  if month = 2 then if isLeap year then 29 else 28
  else if month ∈ [4, 6, 9, 11] then 30
  else 31

structure Date where
  year : Nat
  month : Nat
  day : Nat
  year_valid : 1 ≤ year ∧ year ≤ 9999
  month_valid : 1 ≤ month ∧ month ≤ 12
  day_valid : 1 ≤ day ∧ day ≤ daysIn year month
  deriving DecidableEq

/-- `date(year, month, day)`. -/
def Date.make (year month day : Nat) : Option Date :=
  if h : (1 ≤ year ∧ year ≤ 9999) ∧ (1 ≤ month ∧ month ≤ 12) ∧ 1 ≤ day ∧ day ≤ daysIn year month then
    some ⟨year, month, day, h.1, h.2.1, h.2.2⟩
  else none

def isoformat (date : Date) : List Char :=
  padded 4 date.year ++ ('-' :: (padded 2 date.month ++ ('-' :: padded 2 date.day)))

def takeDigits (count : Nat) (text : List Char) : Option (Nat × List Char) :=
  if (text.take count).length = count ∧ (text.take count).all Char.isDigit then
    some (Nat.ofDigitChars 10 (text.take count) 0, text.drop count)
  else none

def takeDash : List Char → Option (List Char)
  | '-' :: rest => some rest
  | _ => none

/-! ## Weeks -/

def daysBeforeYear (year : Nat) : Nat :=
  let past := year - 1
  365 * past + past / 4 - past / 100 + past / 400

def daysBeforeMonth (year month : Nat) : Nat :=
  ((List.range (month - 1)).map fun earlier => daysIn year (earlier + 1)).sum

/-- The date of a day that is counted from the first of year 1, near a year. -/
def ofOrdinal (near ordinal : Nat) : Option Date :=
  ([near - 1, near, near + 1].flatMap fun year =>
    (List.range 12).map fun month => (year, month + 1)).findSome? fun (year, month) =>
      let before := daysBeforeYear year + daysBeforeMonth year month
      if before < ordinal ∧ ordinal ≤ before + daysIn year month then
        Date.make year month (ordinal - before)
      else none

/-- Monday is 0. -/
def firstWeekday (year : Nat) : Nat := daysBeforeYear year % 7

/-- A day of a week; the first week of a year is the one with its first Thursday. -/
def ofIsoWeek (year week day : Nat) : Option Date :=
  let weekday := firstWeekday year
  let long := weekday = 3 ∨ (weekday = 2 ∧ isLeap year)
  if year = 0 ∨ week = 0 ∨ 53 < week ∨ (week = 53 ∧ ¬ long) ∨ day = 0 ∨ 7 < day then none
  else
    let first := daysBeforeYear year + 1
    let monday := if 3 < weekday then first + 7 - weekday else first - weekday
    ofOrdinal year (monday + (week - 1) * 7 + (day - 1))

/-- `date.fromisoformat`; what follows a date within the admitted lengths is not looked at. -/
def fromisoformat (text : List Char) : Option Date :=
  if (text.map Char.utf8Size).sum ∉ [7, 8, 10] then none
  else do
    let (year, rest) ← takeDigits 4 text
    let separated := (takeDash rest).isSome
    let rest := (takeDash rest).getD rest
    match rest with
    | 'W' :: rest => do
        let (week, rest) ← takeDigits 2 rest
        if rest = [] then ofIsoWeek year week 1
        else do
          let rest ← if separated then takeDash rest else some rest
          let (day, _) ← takeDigits 1 rest
          ofIsoWeek year week day
    | rest => do
        let (month, rest) ← takeDigits 2 rest
        let rest ← if separated then takeDash rest else some rest
        let (day, _) ← takeDigits 2 rest
        Date.make year month day

section RoundTrip
variable {width n : Nat}

theorem takeDash_dash (rest : List Char) : takeDash ('-' :: rest) = some rest := rfl

theorem Date.make_self (date : Date) : Date.make date.year date.month date.day = some date := by
  have inside : (1 ≤ date.year ∧ date.year ≤ 9999) ∧ (1 ≤ date.month ∧ date.month ≤ 12) ∧
      1 ≤ date.day ∧ date.day ≤ daysIn date.year date.month :=
    ⟨date.year_valid, date.month_valid, date.day_valid⟩
  rw [make, dif_pos inside]

theorem daysIn_le (year month : Nat) : daysIn year month ≤ 31 := by
  unfold daysIn
  split_ifs <;> omega

theorem length_padded (some_ : 0 < width) (small : n < 10 ^ width) : (padded width n).length = width := by
  have short := (Nat.length_toDigits_le_iff (b := 10) (by decide) some_).mpr small
  rw [padded, List.length_append, List.length_replicate]
  omega

theorem takeDigits_padded (some_ : 0 < width) (small : n < 10 ^ width) (rest : List Char) :
    takeDigits width (padded width n ++ rest) = some (n, rest) := by
  have long := length_padded some_ small
  have taken : (padded width n ++ rest).take width = padded width n := by
    rw [List.take_append_of_le_length long.ge, List.take_of_length_le long.le]
  have dropped : (padded width n ++ rest).drop width = rest := by
    rw [List.drop_append_of_le_length long.ge, List.drop_of_length_le long.le, List.nil_append]
  have value : Nat.ofDigitChars 10 (padded width n) 0 = n := by
    rw [padded, Calendar.ofDigitChars_zeros, Nat.ofDigitChars_ten_toDigits]
  rw [takeDigits, taken, dropped, value, if_pos ⟨long, List.all_eq_true.mpr (Calendar.padded_isDigit width n)⟩]

theorem utf8Size_digit {c : Char} (digit : c.isDigit) : c.utf8Size = 1 := by
  obtain ⟨-, high⟩ := IntegerText.isDigit_bounds c digit
  have small : c.val ≤ 127 := by
    rw [UInt32.le_iff_toNat_le]
    have same : c.val.toNat = c.toNat := rfl
    have bound : (127 : UInt32).toNat = 127 := rfl
    omega
  rw [Char.utf8Size]
  simp [small]

theorem size_padded (some_ : 0 < width) (small : n < 10 ^ width) :
    ((padded width n).map Char.utf8Size).sum = width := by
  have ones : (padded width n).map Char.utf8Size = (padded width n).map fun _ => 1 :=
    List.map_congr_left fun c mem => utf8Size_digit (Calendar.padded_isDigit width n c mem)
  rw [ones, List.map_const', List.sum_replicate_nat, length_padded some_ small, Nat.mul_one]

/-- No white space stands in a written date. -/
theorem strip_isoformat (date : Date) : IntegerText.strip (isoformat date) = isoformat date := by
  refine IntegerText.strip_eq_self _ fun c mem => ?_
  have digit : ∀ width n, c ∈ padded width n → IntegerText.isSpace c = false := fun width n mem =>
    IntegerText.digit_not_space c (Calendar.padded_isDigit width n c mem)
  simp only [isoformat, List.mem_append, List.mem_cons] at mem
  rcases mem with year | rfl | month | rfl | day
  · exact digit _ _ year
  · decide
  · exact digit _ _ month
  · decide
  · exact digit _ _ day

/-- A written date reads as it. -/
theorem fromisoformat_isoformat (date : Date) : fromisoformat (isoformat date) = some date := by
  have year : date.year < 10 ^ 4 := Nat.lt_succ_of_le date.year_valid.2
  have month : date.month < 10 ^ 2 := by
    have bound := date.month_valid.2
    omega
  have day : date.day < 10 ^ 2 := by
    have bound := date.day_valid.2
    have most := daysIn_le date.year date.month
    omega
  have size : ((isoformat date).map Char.utf8Size).sum = 10 := by
    have dash : '-'.utf8Size = 1 := by decide
    rw [isoformat]
    simp only [List.map_append, List.map_cons, List.sum_append, List.sum_cons,
      size_padded (by decide : 0 < 4) year, size_padded (by decide : 0 < 2) month,
      size_padded (by decide : 0 < 2) day, dash]
  have first : takeDigits 4 (isoformat date) =
      some (date.year, '-' :: (padded 2 date.month ++ ('-' :: padded 2 date.day))) :=
    takeDigits_padded (by decide) year _
  have second : takeDigits 2 (padded 2 date.month ++ ('-' :: padded 2 date.day)) =
      some (date.month, '-' :: padded 2 date.day) :=
    takeDigits_padded (by decide) month _
  have third : takeDigits 2 (padded 2 date.day) = some (date.day, []) := by
    have whole := takeDigits_padded (by decide : 0 < 2) day []
    rwa [List.append_nil] at whole
  have digit : ∀ rest, padded 2 date.month ++ ('-' :: padded 2 date.day) ≠ 'W' :: rest := by
    intro rest same
    have week := congrArg (takeDigits 2) same
    rw [second, takeDigits, if_neg] at week
    · cases week
    · rintro ⟨-, each⟩
      exact absurd (List.all_eq_true.mp each 'W' List.mem_cons_self) (by decide)
  rw [fromisoformat, size, if_neg (by decide)]
  simp only [first, Option.bind_eq_bind, Option.bind_some, takeDash_dash, Option.isSome_some,
    Option.getD_some]
  rw [second, Option.bind_some, if_pos trivial, takeDash_dash, Option.bind_some, third,
    Option.bind_some]
  exact Date.make_self date

end RoundTrip

example : (fromisoformat "2025-W01-1".toList).map isoformat = some "2024-12-30".toList := by
  decide +kernel

end Numu.IsoDate
