import Mathlib.Data.List.Basic

/-!
# Integers as text

`readInt` accepts what Python's `int(text)` accepts: surrounding white space, one
sign, decimal digits of any script, single underscores between digits.
-/

namespace Numu.IntegerText

/-- Code points of the digit zero in each decimal script of Unicode 14. -/
def decimalZeros : List Nat :=
  [0x30, 0x660, 0x6f0, 0x7c0, 0x966, 0x9e6, 0xa66, 0xae6, 0xb66, 0xbe6, 0xc66, 0xce6, 0xd66,
    0xde6, 0xe50, 0xed0, 0xf20, 0x1040, 0x1090, 0x17e0, 0x1810, 0x1946, 0x19d0, 0x1a80, 0x1a90,
    0x1b50, 0x1bb0, 0x1c40, 0x1c50, 0xa620, 0xa8d0, 0xa900, 0xa9d0, 0xa9f0, 0xaa50, 0xabf0,
    0xff10, 0x104a0, 0x10d30, 0x11066, 0x110f0, 0x11136, 0x111d0, 0x112f0, 0x11450, 0x114d0,
    0x11650, 0x116c0, 0x11730, 0x118e0, 0x11950, 0x11c50, 0x11d50, 0x11da0, 0x16a60, 0x16ac0,
    0x16b50, 0x1d7ce, 0x1d7d8, 0x1d7e2, 0x1d7ec, 0x1d7f6, 0x1e140, 0x1e2f0, 0x1e950, 0x1fbf0]

def whiteSpace : List Nat :=
  [0x9, 0xa, 0xb, 0xc, 0xd, 0x1c, 0x1d, 0x1e, 0x1f, 0x20, 0x85, 0xa0, 0x1680, 0x2000, 0x2001,
    0x2002, 0x2003, 0x2004, 0x2005, 0x2006, 0x2007, 0x2008, 0x2009, 0x200a, 0x2028, 0x2029,
    0x202f, 0x205f, 0x3000]

def decimalValue (c : Char) : Option Nat :=
  (decimalZeros.find? fun base => base ≤ c.toNat && c.toNat < base + 10).map (c.toNat - ·)

def isSpace (c : Char) : Bool :=
  whiteSpace.contains c.toNat

def strip (text : List Char) : List Char :=
  ((text.dropWhile isSpace).reverse.dropWhile isSpace).reverse

def readDigits (acc : Nat) : List Char → Option Nat
  | [] => some acc
  | '_' :: c :: rest => (decimalValue c).bind fun d => readDigits (10 * acc + d) rest
  | c :: rest => (decimalValue c).bind fun d => readDigits (10 * acc + d) rest

def readNat : List Char → Option Nat
  | [] => none
  | c :: rest => (decimalValue c).bind fun d => readDigits d rest

def readInt (text : String) : Option Int :=
  match strip text.toList with
  | '-' :: digits => (readNat digits).map fun n => -(n : Int)
  | '+' :: digits => (readNat digits).map fun n => (n : Int)
  | digits => (readNat digits).map fun n => (n : Int)

def writeInt (n : Int) : String :=
  toString n

/-- `sys.get_int_max_str_digits()`: beyond this many digits `int` and `str` raise `ValueError`. -/
def maxStrDigits : Nat := 4300

def isDecimal (c : Char) : Bool := (decimalValue c).isSome

def readLimited (text : List Char) : Option Int :=
  if maxStrDigits < text.countP isDecimal then none else readInt (String.ofList text)

def Writable (n : Int) : Prop := (Nat.toDigits 10 n.natAbs).length ≤ maxStrDigits

instance (n : Int) : Decidable (Writable n) :=
  inferInstanceAs (Decidable ((Nat.toDigits 10 n.natAbs).length ≤ maxStrDigits))

/-- A check of every character of a text that is given, one after the other. -/
theorem forall_mem_of_all {p : Char → Prop} [DecidablePred p] {text : List Char}
    (all : (text.all fun c => decide (p c)) = true) : ∀ c ∈ text, p c :=
  fun c mem => of_decide_eq_true (List.all_eq_true.mp all c mem)

theorem isDigit_bounds (c : Char) (digit : c.isDigit) : 48 ≤ c.toNat ∧ c.toNat < 58 := by
  simp only [Char.isDigit, Bool.and_eq_true, decide_eq_true_eq] at digit
  obtain ⟨low, high⟩ := digit
  simp only [UInt32.le_iff_toNat_le] at low high
  exact ⟨low, Nat.lt_succ_of_le high⟩

theorem decimalValue_digit (c : Char) (digit : c.isDigit) :
    decimalValue c = some (c.toNat - '0'.toNat) := by
  obtain ⟨low, high⟩ := isDigit_bounds c digit
  simp [decimalValue, decimalZeros, low, high]

theorem digit_not_space (c : Char) (digit : c.isDigit) : isSpace c = false := by
  obtain ⟨low, high⟩ := isDigit_bounds c digit
  simp only [isSpace, whiteSpace, List.contains_eq_mem, List.mem_cons, List.not_mem_nil,
    or_false, decide_eq_false_iff_not]
  omega

theorem readDigits_digits (text : List Char) (digits : ∀ c ∈ text, c.isDigit) (acc : Nat) :
    readDigits acc text = some (Nat.ofDigitChars 10 text acc) := by
  induction text generalizing acc with
  | nil => simp [readDigits]
  | cons c rest ih =>
      have hc : c.isDigit := digits c (by simp)
      have notUnderscore : c ≠ '_' := by
        intro same
        rcases same with rfl
        exact absurd hc (by decide)
      have step : readDigits acc (c :: rest) =
          (decimalValue c).bind fun d => readDigits (10 * acc + d) rest := by
        rw [readDigits]
        intro c' rest' same _
        exact notUnderscore same
      rw [step, decimalValue_digit c hc, Option.bind_some,
        ih (fun d hd => digits d (by simp [hd])), Nat.ofDigitChars_cons]

theorem readNat_digits (text : List Char) (nonempty : text ≠ [])
    (digits : ∀ c ∈ text, c.isDigit) : readNat text = some (Nat.ofDigitChars 10 text 0) := by
  cases text with
  | nil => exact absurd rfl nonempty
  | cons c rest =>
      rw [readNat, decimalValue_digit c (digits c (by simp)), Option.bind_some,
        readDigits_digits rest (fun d hd => digits d (by simp [hd])), Nat.ofDigitChars_cons]
      simp

theorem strip_eq_self (text : List Char) (clean : ∀ c ∈ text, isSpace c = false) :
    strip text = text := by
  have keep (l : List Char) (h : ∀ c ∈ l, isSpace c = false) : l.dropWhile isSpace = l := by
    cases l with
    | nil => rfl
    | cons c rest => simp [h c (by simp)]
  rw [strip, keep text clean, keep text.reverse (fun c hc => clean c (by simpa using hc)),
    List.reverse_reverse]

theorem toDigits_isDigit (n : Nat) : ∀ c ∈ Nat.toDigits 10 n, c.isDigit :=
  fun _ hc => Nat.isDigit_of_mem_toDigits (by decide) (by decide) hc

/-- Reading back a written integer gives the integer. -/
theorem readInt_writeInt (n : Int) : readInt (writeInt n) = some n := by
  cases n with
  | ofNat n =>
      have chars : (writeInt (Int.ofNat n)).toList = Nat.toDigits 10 n := by
        simp [writeInt, toString, Int.repr]
      have clean : ∀ c ∈ Nat.toDigits 10 n, isSpace c = false :=
        fun c hc => digit_not_space c (toDigits_isDigit n c hc)
      have value := readNat_digits _ Nat.toDigits_ne_nil (toDigits_isDigit n)
      rw [Nat.ofDigitChars_ten_toDigits] at value
      rw [readInt, chars, strip_eq_self _ clean]
      split
      · rename_i digits heq
        have := toDigits_isDigit n '-' (by rw [heq]; simp)
        exact absurd this (by decide)
      · rename_i digits heq
        have := toDigits_isDigit n '+' (by rw [heq]; simp)
        exact absurd this (by decide)
      · simp [value]
  | negSucc n =>
      have chars : (writeInt (Int.negSucc n)).toList = '-' :: Nat.toDigits 10 (n + 1) := by
        simp [writeInt, toString, Int.repr]
      have clean : ∀ c ∈ '-' :: Nat.toDigits 10 (n + 1), isSpace c = false := by
        intro c hc
        rcases List.mem_cons.mp hc with rfl | hc
        · decide
        · exact digit_not_space c (toDigits_isDigit _ c hc)
      have value := readNat_digits _ Nat.toDigits_ne_nil (toDigits_isDigit (n + 1))
      rw [Nat.ofDigitChars_ten_toDigits] at value
      rw [readInt, chars, strip_eq_self _ clean]
      simp [value, Int.negSucc_eq]

/-- A sign and digits. -/
theorem writeInt_toList (n : Int) :
    (writeInt n).toList = (if n < 0 then ['-'] else []) ++ Nat.toDigits 10 n.natAbs := by
  cases n with
  | ofNat n =>
      have positive : ¬ Int.ofNat n < 0 := Int.not_lt.mpr (Int.natCast_nonneg n)
      rw [if_neg positive]
      simp [writeInt, toString, Int.repr]
  | negSucc n =>
      have negative : Int.negSucc n < 0 := Int.negSucc_lt_zero n
      rw [if_pos negative]
      simp [writeInt, toString, Int.repr]

theorem countP_writeInt (n : Int) :
    (writeInt n).toList.countP isDecimal = (Nat.toDigits 10 n.natAbs).length := by
  have digits : (Nat.toDigits 10 n.natAbs).countP isDecimal = (Nat.toDigits 10 n.natAbs).length := by
    rw [List.countP_eq_length]
    intro c mem
    rw [isDecimal, decimalValue_digit c (toDigits_isDigit _ c mem)]
    rfl
  have minus : isDecimal '-' = false := by decide
  rw [writeInt_toList, List.countP_append, digits]
  split <;> simp [minus]

theorem readLimited_writeInt {n : Int} (writable : Writable n) :
    readLimited (writeInt n).toList = some n := by
  rw [readLimited, countP_writeInt, if_neg (Nat.not_lt.mpr writable), String.ofList_toList,
    readInt_writeInt]

end Numu.IntegerText
