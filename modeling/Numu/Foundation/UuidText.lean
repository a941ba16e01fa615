import Mathlib.Algebra.Group.Int.Defs
import Mathlib.Algebra.Ring.Nat
import Numu.Foundation.IntegerText

/-!
# UUIDs as text

`readUuid` accepts what Python's `UUID(text)` accepts: 32 hexadecimal digits once the
URN prefixes, the braces around them and the hyphens are gone, read by `int(hex, 16)`.
-/

namespace Numu.UuidText
open Numu.IntegerText (decimalValue strip)

def stripPrefix? : List Char → List Char → Option (List Char)
  | [], text => some text
  | _ :: _, [] => none
  | p :: pattern, c :: text => if p = c then stripPrefix? pattern text else none

/-- Python's `text.replace(pattern, "")`; `fuel` is the length of the text. -/
def removeAll (pattern : List Char) : Nat → List Char → List Char
  | 0, text => text
  | _ + 1, [] => []
  | fuel + 1, c :: text =>
      match stripPrefix? pattern (c :: text) with
      | some rest => removeAll pattern fuel rest
      | none => c :: removeAll pattern fuel text

def isBrace (c : Char) : Bool :=
  c.toNat = 123 || c.toNat = 125

def stripBraces (text : List Char) : List Char :=
  ((text.dropWhile isBrace).reverse.dropWhile isBrace).reverse

def hexValue (c : Char) : Option Nat :=
  if 97 ≤ c.toNat ∧ c.toNat ≤ 102 then some (c.toNat - 87)
  else if 65 ≤ c.toNat ∧ c.toNat ≤ 70 then some (c.toNat - 55)
  else decimalValue c

def readHexDigits (acc : Nat) : List Char → Option Nat
  | [] => some acc
  | '_' :: c :: rest => (hexValue c).bind fun d => readHexDigits (16 * acc + d) rest
  | c :: rest => (hexValue c).bind fun d => readHexDigits (16 * acc + d) rest

def readHexNat : List Char → Option Nat
  | [] => none
  | '0' :: 'x' :: c :: rest => readHexDigits 0 (c :: rest)
  | '0' :: 'X' :: c :: rest => readHexDigits 0 (c :: rest)
  | c :: rest => (hexValue c).bind fun d => readHexDigits d rest

def readHexInt (text : List Char) : Option Int :=
  match strip text with
  | '-' :: digits => (readHexNat digits).map fun n => -(n : Int)
  | '+' :: digits => (readHexNat digits).map fun n => (n : Int)
  | digits => (readHexNat digits).map fun n => (n : Int)

def readUuid (text : String) : Option (BitVec 128) :=
  let chars := text.toList
  let bare := removeAll "urn:".toList chars.length chars
  let bare := removeAll "uuid:".toList bare.length bare
  let hex := (stripBraces bare).filter (· ≠ '-')
  if hex.length ≠ 32 then none
  else (readHexInt hex).bind fun n =>
    if 0 ≤ n ∧ n < 2 ^ 128 then some (BitVec.ofInt 128 n) else none

/-- The 32 hexadecimal digits of a UUID. -/
def hexDigits (id : BitVec 128) : List Char :=
  let digits := Nat.toDigits 16 id.toNat
  List.replicate (32 - digits.length) '0' ++ digits

def groupsOf : List Nat → List Char → List (List Char)
  | [], _ => []
  | length :: lengths, chars => chars.take length :: groupsOf lengths (chars.drop length)

/-- Python's `str` of a UUID. -/
def writeUuid (id : BitVec 128) : String :=
  String.ofList (['-'].intercalate (groupsOf [8, 4, 4, 4, 12] (hexDigits id)))

/-- The number that hexadecimal digits write. -/
def hexNat (digits : List Char) : Nat :=
  digits.foldl (fun acc c => 16 * acc + (hexValue c).getD 0) 0

theorem hexNat_append (digits : List Char) (c : Char) :
    hexNat (digits ++ [c]) = 16 * hexNat digits + (hexValue c).getD 0 := by
  simp [hexNat]

theorem hexValue_digitChar : ∀ d < 16, hexValue (Nat.digitChar d) = some d := by
  decide

theorem hexNat_toDigits (n : Nat) : hexNat (Nat.toDigits 16 n) = n := by
  induction n using Nat.strongRecOn with
  | ind n ih =>
      by_cases small : n < 16
      · rw [Nat.toDigits_of_lt_base small]
        simp [hexNat, hexValue_digitChar n small]
      · have last := hexValue_digitChar (n % 16) (Nat.mod_lt n (by decide))
        rw [Nat.toDigits_of_base_le (by decide) (by omega), hexNat_append, ih (n / 16) (by omega),
          last, Option.getD_some]
        exact Nat.div_add_mod n 16

theorem hexNat_zeros (count : Nat) (digits : List Char) :
    hexNat (List.replicate count '0' ++ digits) = hexNat digits := by
  induction count with
  | zero => rfl
  | succ count ih =>
      rw [← ih, List.replicate_succ, List.cons_append, hexNat, List.foldl_cons]
      rfl

theorem length_hexDigits (id : BitVec 128) : (hexDigits id).length = 32 := by
  have short : (Nat.toDigits 16 id.toNat).length ≤ 32 :=
    (Nat.length_toDigits_le_iff (by decide) (by decide)).mpr id.isLt
  simp only [hexDigits, List.length_append, List.length_replicate]
  omega

theorem hexDigits_injective {first second : BitVec 128}
    (same : hexDigits first = hexDigits second) : first = second := by
  have value (id : BitVec 128) : hexNat (hexDigits id) = id.toNat := by
    rw [hexDigits, hexNat_zeros, hexNat_toDigits]
  apply BitVec.eq_of_toNat_eq
  rw [← value first, same, value second]

/-- Groups of fixed lengths with a separator between them determine what was grouped. -/
theorem groups_injective (separator : Char) (lengths : List Nat) {first second : List Char}
    (long : first.length = lengths.sum) (long' : second.length = lengths.sum)
    (same : [separator].intercalate (groupsOf lengths first) =
      [separator].intercalate (groupsOf lengths second)) : first = second := by
  induction lengths generalizing first second with
  | nil =>
      rw [List.eq_nil_of_length_eq_zero long, List.eq_nil_of_length_eq_zero long']
  | cons length lengths ih =>
      rw [List.sum_cons] at long long'
      have whole (chars : List Char) : chars.take length ++ chars.drop length = chars :=
        List.take_append_drop length chars
      have heads : (first.take length).length = (second.take length).length := by
        simp only [List.length_take]
        omega
      cases lengths with
      | nil =>
          simp only [List.sum_nil, Nat.add_zero] at long long'
          have all (chars : List Char) (long : chars.length = length) :
              [separator].intercalate (groupsOf [length] chars) = chars := by
            simp [groupsOf, List.intercalate, ← long]
          rw [← all first long, same, all second long']
      | cons next lengths =>
          have joined (head rest : List Char) (tail : List (List Char)) :
              [separator].intercalate (head :: rest :: tail) =
                head ++ separator :: [separator].intercalate (rest :: tail) := by
            simp [List.intercalate]
          simp only [groupsOf, joined] at same
          obtain ⟨head, tail⟩ := List.append_inj same heads
          rw [List.cons.injEq] at tail
          have rest : first.drop length = second.drop length := by
            apply ih
            · rw [List.length_drop]
              omega
            · rw [List.length_drop]
              omega
            · exact tail.2
          rw [← whole first, ← whole second, head, rest]

theorem length_writeUuid (id : BitVec 128) : (writeUuid id).toList.length = 36 := by
  simp [writeUuid, groupsOf, List.intercalate, length_hexDigits]

/-- A digit of a number is a digit. -/
theorem hexValue_of_mem_toDigits {n : Nat} {c : Char} (mem : c ∈ Nat.toDigits 16 n) :
    (hexValue c).isSome = true := by
  induction n using Nat.strongRecOn with
  | ind n ih =>
      by_cases small : n < 16
      · rw [Nat.toDigits_of_lt_base small, List.mem_singleton] at mem
        rw [mem, hexValue_digitChar n small, Option.isSome_some]
      · have last := hexValue_digitChar (n % 16) (Nat.mod_lt n (by decide))
        rw [Nat.toDigits_of_base_le (by decide) (by omega), List.mem_append] at mem
        rcases mem with first | here
        · exact ih (n / 16) (by omega) first
        · rw [List.mem_singleton] at here
          rw [here, last, Option.isSome_some]

theorem mem_groupsOf {lengths : List Nat} {chars group : List Char} {c : Char}
    (group_ : group ∈ groupsOf lengths chars) (mem : c ∈ group) : c ∈ chars := by
  induction lengths generalizing chars with
  | nil => cases group_
  | cons length lengths ih =>
      rcases List.mem_cons.mp group_ with rfl | later
      · exact List.mem_of_mem_take mem
      · exact List.mem_of_mem_drop (ih later)

theorem mem_intercalate {separator : Char} {groups : List (List Char)} {c : Char}
    (mem : c ∈ [separator].intercalate groups) : c = separator ∨ ∃ group ∈ groups, c ∈ group := by
  induction groups with
  | nil => cases mem
  | cons group groups ih =>
      have later (inside : c ∈ [separator].intercalate groups) :
          c = separator ∨ ∃ found ∈ group :: groups, c ∈ found :=
        (ih inside).imp id fun ⟨found, member, here⟩ => ⟨found, List.mem_cons_of_mem _ member, here⟩
      cases groups with
      | nil =>
          have here : c ∈ group := by simpa [List.intercalate] using mem
          exact Or.inr ⟨group, List.mem_cons_self, here⟩
      | cons next groups =>
          rw [List.intercalate_cons_cons, List.append_assoc] at mem
          rcases List.mem_append.mp mem with here | there
          · exact Or.inr ⟨group, List.mem_cons_self, here⟩
          · exact (List.mem_cons.mp there).elim Or.inl later

theorem mem_writeUuid {id : BitVec 128} {c : Char} (mem : c ∈ (writeUuid id).toList) :
    c = '-' ∨ (hexValue c).isSome = true := by
  rw [writeUuid, String.toList_ofList] at mem
  rcases mem_intercalate mem with dash | ⟨group, grouped, inside⟩
  · exact Or.inl dash
  · right
    rcases List.mem_append.mp (mem_groupsOf grouped inside) with zero | digit
    · rw [(List.mem_replicate.mp zero).2]
      decide
    · exact hexValue_of_mem_toDigits digit

theorem writeUuid_injective {first second : BitVec 128}
    (same : writeUuid first = writeUuid second) : first = second := by
  apply hexDigits_injective
  apply groups_injective '-' [8, 4, 4, 4, 12] (length_hexDigits first) (length_hexDigits second)
  exact String.ofList_injective same

/-- Texts that begin with a UUID are equal only with it. -/
theorem writeUuid_split {first second : BitVec 128} {rest rest' : List Char}
    (same : (writeUuid first).toList ++ rest = (writeUuid second).toList ++ rest') :
    first = second ∧ rest = rest' := by
  have lengths : (writeUuid first).toList.length = (writeUuid second).toList.length := by
    rw [length_writeUuid, length_writeUuid]
  obtain ⟨head, tail⟩ := List.append_inj same lengths
  exact ⟨writeUuid_injective (String.toList_injective head), tail⟩

example : readUuid "{12345678-1234-5678-1234-567812345678}" =
    some 0x12345678123456781234567812345678 := by decide +kernel

end Numu.UuidText
