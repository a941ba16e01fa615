import Mathlib.Data.List.Basic
import Mathlib.Tactic.IntervalCases
import Mathlib.Tactic.Linarith
import Numu.Foundation.IntegerText

/-!
# The civil calendar

Instants are microseconds since the start of 1970, in UTC. Months are counted
from January 1970.
-/

namespace Numu.Calendar

def isLeap (year : Nat) : Bool :=
  year % 4 = 0 && (year % 100 ≠ 0 || year % 400 = 0)

def yearOf (month : Nat) : Nat := 1970 + month / 12

/-- January is 1. -/
def monthOfYear (month : Nat) : Nat := month % 12 + 1

def daysIn (month : Nat) : Nat :=
  match month % 12 with
  | 1 => if isLeap (yearOf month) then 29 else 28
  | 3 | 5 | 8 | 10 => 30
  | _ => 31

/-- The number of days before a month. -/
def daysBefore : Nat → Nat
  | 0 => 0
  | month + 1 => daysBefore month + daysIn month

/-- The month that lies a number of days after the start of another, and the day in it. -/
def locate : Nat → Nat → Nat → Nat × Nat
  | 0, month, day => (month, day)
  | fuel + 1, month, day =>
      if day < daysIn month then (month, day) else locate fuel (month + 1) (day - daysIn month)

def secondLength : Nat := 1000000

def dayLength : Nat := 86400 * secondLength

/-- The month of an instant and the day in it, from 0. -/
def monthAndDay (time : Nat) : Nat × Nat :=
  let day := time / dayLength
  locate day 0 day

def month (time : Nat) : Nat := (monthAndDay time).1

def startOf (month : Nat) : Nat := daysBefore month * dayLength

theorem daysIn_pos (month : Nat) : 28 ≤ daysIn month := by
  unfold daysIn
  split
  · split <;> omega
  all_goals omega

theorem daysIn_le (month : Nat) : daysIn month ≤ 31 := by
  unfold daysIn
  split
  · split <;> omega
  all_goals omega

/-- Locating a day finds the month it falls in. -/
theorem locate_spec (fuel month day : Nat) (enough : day ≤ fuel) :
    (locate fuel month day).2 < daysIn (locate fuel month day).1 ∧
      daysBefore (locate fuel month day).1 + (locate fuel month day).2 =
        daysBefore month + day := by
  induction fuel generalizing month day with
  | zero =>
      have some_days := daysIn_pos month
      simp only [locate]
      exact ⟨by omega, trivial⟩
  | succ fuel ih =>
      rw [locate]
      split
      · rename_i inside
        exact ⟨inside, rfl⟩
      · rename_i beyond
        have some_days := daysIn_pos month
        obtain ⟨inside, same⟩ := ih (month + 1) (day - daysIn month) (by omega)
        refine ⟨inside, same.trans ?_⟩
        rw [daysBefore]
        omega

theorem monthAndDay_spec (time : Nat) :
    (monthAndDay time).2 < daysIn (month time) ∧
      daysBefore (month time) + (monthAndDay time).2 = time / dayLength := by
  have located := locate_spec (time / dayLength) 0 (time / dayLength) (Nat.le_refl _)
  rw [daysBefore, Nat.zero_add] at located
  exact located

/-- An instant lies between the start of its month and the start of the next. -/
theorem month_bounds (time : Nat) :
    startOf (month time) ≤ time ∧ time < startOf (month time + 1) := by
  obtain ⟨inside, same⟩ := monthAndDay_spec time
  have whole := Nat.div_add_mod time dayLength
  have rest := Nat.mod_lt time (show 0 < dayLength by decide)
  have low : startOf (month time) ≤ time / dayLength * dayLength := by
    unfold startOf
    apply Nat.mul_le_mul_right
    omega
  have high : (time / dayLength + 1) * dayLength ≤ startOf (month time + 1) := by
    unfold startOf
    apply Nat.mul_le_mul_right
    rw [daysBefore]
    omega
  rw [Nat.add_mul, Nat.one_mul] at high
  rw [Nat.mul_comm dayLength] at whole
  omega

/-! ## Text -/

/-- `format(n, "0<width>d")`. -/
def padded (width n : Nat) : List Char :=
  let digits := Nat.toDigits 10 n
  List.replicate (width - digits.length) '0' ++ digits

/-- The microseconds, left out when there are none, and the offset. -/
def fraction (micro : Nat) : List Char :=
  (if micro = 0 then [] else '.' :: padded 6 micro) ++ "+00:00".toList

/-- `datetime.isoformat` in UTC. -/
def isoformat (time : Nat) : String :=
  let date := monthAndDay time
  let second := time / secondLength % 86400
  let micro := time % secondLength
  String.ofList (padded 4 (yearOf date.1) ++ '-' :: (padded 2 (monthOfYear date.1) ++
    '-' :: (padded 2 (date.2 + 1) ++ 'T' :: (padded 2 (second / 3600) ++
      ':' :: (padded 2 (second / 60 % 60) ++ ':' :: (padded 2 (second % 60) ++ fraction micro))))))

/-- Numbers end where the first character that is no digit stands. -/
theorem digits_split {first second : List Char} {stop stop' : Char} {rest rest' : List Char}
    (digits : ∀ c ∈ first, c.isDigit) (digits' : ∀ c ∈ second, c.isDigit)
    (ends : stop.isDigit = false) (ends' : stop'.isDigit = false)
    (same : first ++ stop :: rest = second ++ stop' :: rest') :
    first = second ∧ stop = stop' ∧ rest = rest' := by
  induction first generalizing second with
  | nil =>
      cases second with
      | nil =>
          rw [List.nil_append, List.nil_append, List.cons.injEq] at same
          exact ⟨rfl, same⟩
      | cons c second =>
          rw [List.nil_append, List.cons_append, List.cons.injEq] at same
          rw [same.1, digits' c List.mem_cons_self] at ends
          cases ends
  | cons c first ih =>
      cases second with
      | nil =>
          rw [List.nil_append, List.cons_append, List.cons.injEq] at same
          rw [← same.1, digits c List.mem_cons_self] at ends'
          cases ends'
      | cons d second =>
          rw [List.cons_append, List.cons_append, List.cons.injEq] at same
          obtain ⟨rfl, later⟩ := ih (fun c member => digits c (List.mem_cons_of_mem _ member))
            (fun c member => digits' c (List.mem_cons_of_mem _ member)) same.2
          exact ⟨by rw [same.1], later⟩

theorem padded_isDigit (width n : Nat) : ∀ c ∈ padded width n, c.isDigit := by
  intro c member
  rcases List.mem_append.mp member with zero | digit
  · rw [List.eq_of_mem_replicate zero]
    decide
  · exact IntegerText.toDigits_isDigit n c digit

theorem ofDigitChars_zeros (count : Nat) (digits : List Char) :
    Nat.ofDigitChars 10 (List.replicate count '0' ++ digits) 0 =
      Nat.ofDigitChars 10 digits 0 := by
  induction count with
  | zero => rfl
  | succ count ih =>
      rw [List.replicate_succ, List.cons_append, Nat.ofDigitChars_cons]
      exact ih

theorem padded_injective {width first second : Nat}
    (same : padded width first = padded width second) : first = second := by
  have value (n : Nat) : Nat.ofDigitChars 10 (padded width n) 0 = n := by
    rw [padded, ofDigitChars_zeros, Nat.ofDigitChars_ten_toDigits]
  rw [← value first, same, value second]

/-- One padded number of a text, and what follows it. -/
theorem padded_split {width first second : Nat} (stop stop' : Char) {rest rest' : List Char}
    (ends : stop.isDigit = false) (ends' : stop'.isDigit = false)
    (same : padded width first ++ stop :: rest = padded width second ++ stop' :: rest') :
    first = second ∧ stop = stop' ∧ rest = rest' := by
  obtain ⟨number, later⟩ := digits_split (padded_isDigit width first)
    (padded_isDigit width second) ends ends' same
  exact ⟨padded_injective number, later⟩

theorem fraction_split {second second' micro micro' : Nat}
    (same : padded 2 second ++ fraction micro = padded 2 second' ++ fraction micro') :
    second = second' ∧ micro = micro' := by
  unfold fraction at same
  by_cases whole : micro = 0 <;> by_cases whole' : micro' = 0
  · rw [if_pos whole, if_pos whole'] at same
    obtain ⟨seconds, -, -⟩ := padded_split '+' '+' rfl rfl same
    exact ⟨seconds, whole.trans whole'.symm⟩
  · rw [if_pos whole, if_neg whole'] at same
    obtain ⟨-, stops, -⟩ := padded_split '+' '.' rfl rfl same
    exact absurd stops (by decide)
  · rw [if_neg whole, if_pos whole'] at same
    obtain ⟨-, stops, -⟩ := padded_split '.' '+' rfl rfl same
    exact absurd stops (by decide)
  · rw [if_neg whole, if_neg whole'] at same
    obtain ⟨seconds, -, later⟩ := padded_split '.' '.' rfl rfl same
    obtain ⟨micros, -, -⟩ := padded_split '+' '+' rfl rfl later
    exact ⟨seconds, micros⟩

/-- An instant is its month, its day, the second of that day and the microseconds. -/
theorem eq_of_fields {first second : Nat} (months : month first = month second)
    (days : (monthAndDay first).2 = (monthAndDay second).2)
    (seconds : first / secondLength % 86400 = second / secondLength % 86400)
    (micros : first % secondLength = second % secondLength) : first = second := by
  have day := (monthAndDay_spec first).2
  have day' := (monthAndDay_spec second).2
  rw [months, days] at day
  have same : first / dayLength = second / dayLength := day.symm.trans day'
  simp only [dayLength, secondLength] at same seconds micros
  omega

theorem isoformat_chars (time : Nat) :
    ∀ c ∈ (isoformat time).toList, c.isDigit ∨ c ∈ ['-', 'T', ':', '.', '+'] := by
  intro c member
  have number (width n : Nat) (here : c ∈ padded width n) :
      c.isDigit ∨ c ∈ ['-', 'T', ':', '.', '+'] := .inl (padded_isDigit width n c here)
  have offset : ∀ c ∈ "+00:00".toList, c.isDigit ∨ c ∈ ['-', 'T', ':', '.', '+'] :=
    IntegerText.forall_mem_of_all (by decide)
  have stop (d : Char) (mark : d ∈ ['-', 'T', ':', '.', '+']) (here : c = d) :
      c.isDigit ∨ c ∈ ['-', 'T', ':', '.', '+'] := .inr (here ▸ mark)
  simp only [isoformat, fraction, String.toList_ofList, List.mem_append, List.mem_cons] at member
  rcases member with h | h | h | h | h | h | h | h | h | h | h | h | h
  · exact number _ _ h
  · exact stop '-' (by decide) h
  · exact number _ _ h
  · exact stop '-' (by decide) h
  · exact number _ _ h
  · exact stop 'T' (by decide) h
  · exact number _ _ h
  · exact stop ':' (by decide) h
  · exact number _ _ h
  · exact stop ':' (by decide) h
  · exact number _ _ h
  · split at h
    · cases h
    · rcases List.mem_cons.mp h with h | h
      · exact stop '.' (by decide) h
      · exact number _ _ h
  · exact offset c h

/-- Different instants are written differently. -/
theorem isoformat_injective {first second : Nat} (same : isoformat first = isoformat second) :
    first = second := by
  have chars := String.ofList_injective same
  obtain ⟨years, -, chars⟩ := padded_split _ _ (by decide) (by decide) chars
  obtain ⟨months, -, chars⟩ := padded_split _ _ (by decide) (by decide) chars
  obtain ⟨days, -, chars⟩ := padded_split _ _ (by decide) (by decide) chars
  obtain ⟨hours, -, chars⟩ := padded_split _ _ (by decide) (by decide) chars
  obtain ⟨minutes, -, chars⟩ := padded_split _ _ (by decide) (by decide) chars
  obtain ⟨seconds, micros⟩ := fraction_split chars
  apply eq_of_fields
  · simp only [yearOf, monthOfYear] at years months
    simp only [month]
    omega
  · omega
  · omega
  · exact micros

example : isoformat 1767225599000001 = "2025-12-31T23:59:59.000001+00:00" := by decide +kernel

end Numu.Calendar

/-!
# Months by year and number

The instants at which the months of the years from 1 begin, in microseconds from 1970, as the
proleptic calendar of Python's `datetime` has them.
-/

namespace Numu.Calendar

/-- The days from the start of year 1 to the start of another. -/
def daysBeforeYear (year : Nat) : Nat :=
  let past := year - 1
  past * 365 + past / 4 - past / 100 + past / 400

/-- The days of a year before a month of it; January is 1. -/
def daysBeforeMonth (year month : Nat) : Nat :=
  [0, 31, 59, 90, 120, 151, 181, 212, 243, 273, 304, 334].getD (month - 1) 0 +
    if 2 < month ∧ isLeap year then 1 else 0

/-- `datetime(year, month, 1)`. -/
def monthStart (year month : Nat) : Int :=
  ((daysBeforeYear year + daysBeforeMonth year month : Nat) - 719162 : Int) * dayLength

def lengthOfMonth (year month : Nat) : Nat :=
  match month with
  | 2 => if isLeap year then 29 else 28
  | 4 | 6 | 9 | 11 => 30
  | _ => 31

theorem isLeap_iff (year : Nat) : isLeap year = true ↔ 4 ∣ year ∧ (100 ∣ year → 400 ∣ year) := by
  simp only [isLeap, Bool.and_eq_true, Bool.or_eq_true, decide_eq_true_eq, Nat.dvd_iff_mod_eq_zero]
  exact and_congr_right fun _ => imp_iff_not_or.symm

/-- A year is a day longer if it is a leap year. -/
theorem daysBeforeYear_succ {year : Nat} (civil : 1 ≤ year) :
    daysBeforeYear (year + 1) = daysBeforeYear year + 365 + if isLeap year then 1 else 0 := by
  obtain ⟨past, rfl⟩ : ∃ past, year = past + 1 := ⟨year - 1, by omega⟩
  have centuries : past / 100 ≤ past / 4 := Nat.div_le_div_left (by decide) (by decide)
  have century_four (century : 100 ∣ past + 1) : 4 ∣ past + 1 := Nat.dvd_trans (by decide) century
  have long_century (long : 400 ∣ past + 1) : 100 ∣ past + 1 := Nat.dvd_trans (by decide) long
  simp only [daysBeforeYear, isLeap_iff, Nat.add_sub_cancel, Nat.succ_div]
  by_cases four : 4 ∣ past + 1 <;> by_cases century : 100 ∣ past + 1 <;>
    by_cases long : 400 ∣ past + 1
  · simp only [four, century, long, if_true, true_and, imp_self]
    omega
  · simp only [four, century, long, if_true, if_false, true_and, imp_false, not_true_eq_false]
    omega
  · exact absurd (long_century long) century
  · simp only [four, century, long, if_true, if_false, true_and, IsEmpty.forall_iff]
    omega
  · exact absurd (century_four century) four
  · exact absurd (century_four century) four
  · exact absurd (long_century long) century
  · simp only [four, century, long, if_false, false_and]
    omega

/-- The month after another starts when the other's days are over, in the next year after December. -/
theorem monthStart_next {year month : Nat} (civil : 1 ≤ year) (named : 1 ≤ month) (within : month ≤ 12) :
    monthStart (year + month / 12) (month % 12 + 1) =
      monthStart year month + lengthOfMonth year month * dayLength := by
  have days : daysBeforeYear (year + month / 12) + daysBeforeMonth (year + month / 12) (month % 12 + 1) =
      daysBeforeYear year + daysBeforeMonth year month + lengthOfMonth year month := by
    rcases within.lt_or_eq with before | rfl
    · interval_cases month <;> cases leap : isLeap year <;>
        simp [daysBeforeMonth, lengthOfMonth, leap]
    · have next := daysBeforeYear_succ civil
      cases leap : isLeap year <;> simp [daysBeforeMonth, lengthOfMonth, leap, next]
  rw [monthStart, monthStart, days]
  push_cast
  linarith

theorem monthStart_lt_next {year month : Nat} (civil : 1 ≤ year) (named : 1 ≤ month)
    (within : month ≤ 12) :
    monthStart year month < monthStart (year + month / 12) (month % 12 + 1) := by
  have days : 0 < lengthOfMonth year month := by
    unfold lengthOfMonth
    split
    · split <;> decide
    all_goals decide
  have length : 0 < lengthOfMonth year month * dayLength := Nat.mul_pos days (by decide)
  rw [monthStart_next civil named within]
  omega

theorem lengthOfMonth_eq (month : Nat) :
    lengthOfMonth (yearOf month) (monthOfYear month) = daysIn month := by
  have within : month % 12 < 12 := Nat.mod_lt _ (by decide)
  rw [monthOfYear, daysIn]
  generalize month % 12 = place at within
  interval_cases place <;> rfl

/-- The months counted from 1970 start when they do by year and number. -/
theorem monthStart_eq_startOf (month : Nat) :
    monthStart (yearOf month) (monthOfYear month) = startOf month := by
  induction month with
  | zero => decide
  | succ month ih =>
      have year : yearOf (month + 1) = yearOf month + monthOfYear month / 12 := by
        rw [yearOf, yearOf, monthOfYear]
        omega
      have number : monthOfYear (month + 1) = monthOfYear month % 12 + 1 := by
        rw [monthOfYear, monthOfYear]
        omega
      have within : 1 ≤ monthOfYear month ∧ monthOfYear month ≤ 12 := by
        rw [monthOfYear]
        omega
      have civil : 1 ≤ yearOf month := by
        rw [yearOf]
        omega
      rw [year, number, monthStart_next civil within.1 within.2, ih, lengthOfMonth_eq, startOf,
        startOf, daysBefore]
      push_cast
      linarith

end Numu.Calendar
