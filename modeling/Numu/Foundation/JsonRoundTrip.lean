import Numu.Foundation.JsonText

/-!
# What is written of a document reads back

A document is scanned from its own text, whatever follows it, and `dumps` writes the same text of
the document that `loads` reads from what it wrote.
-/

namespace Numu.JsonText
open IntegerText (Writable writeInt)
open PyFloat (Literal readFloat)

section Strings

theorem hexValue_hexDigit : ∀ n < 16, hexValue (hexDigit n) = some n := by decide

theorem scalar_toNat (c : Char) : scalar c.toNat = c := by
  rw [scalar, if_pos (show c.toNat.isValidChar from c.valid), Char.ofNat_toNat]

/-- An escaped character reads as the character. -/
theorem scanString_escape (fuel : Nat) (c : Char) (rest : List Char) :
    scanString (fuel + 1) (escape c ++ rest) =
      (scanString fuel rest).map fun scanned => (c :: scanned.1, scanned.2) := by
  rw [escape]
  split
  · rename_i same
    rw [same]
    rfl
  split
  · rename_i same
    rw [same]
    rfl
  split
  · rename_i same
    rw [same]
    rfl
  split
  · rename_i same
    rw [same]
    rfl
  split
  · rename_i same
    rw [same]
    rfl
  split
  · rename_i same
    rw [same]
    rfl
  split
  · rename_i same
    rw [same]
    rfl
  split
  · rename_i control
    have high := hexValue_hexDigit (c.toNat / 16) (by omega)
    have low := hexValue_hexDigit (c.toNat % 16) (by omega)
    have zero : hexValue '0' = some 0 := by decide
    have four : hexFour ('0' :: '0' :: hexDigit (c.toNat / 16) :: hexDigit (c.toNat % 16) :: rest) =
        some (c.toNat, rest) := by
      simp only [hexFour, zero, high, low, Option.bind_eq_bind, Option.bind_some, Option.pure_def]
      congr 2
      omega
    have first : isHigh c.toNat = false := by
      simp [isHigh]
      omega
    have read : readEscape ('u' :: '0' :: '0' :: hexDigit (c.toNat / 16) ::
        hexDigit (c.toNat % 16) :: rest) = some (c, rest) := by
      rw [readEscape, readUnicode, four]
      simp [first, scalar_toNat]
    rw [List.cons_append, scanString, if_neg (by decide), if_pos rfl]
    simp only [List.cons_append, List.nil_append]
    rw [read]
  · rename_i quote_ backslash _ _ _ _ _ printed
    rw [List.singleton_append, scanString, if_neg quote_, if_neg backslash, if_neg printed]

theorem scanString_flatMap (text rest : List Char) (fuel : Nat) (enough : text.length < fuel) :
    scanString fuel (text.flatMap escape ++ '"' :: rest) = .ok (text, rest) := by
  induction text generalizing fuel with
  | nil =>
      cases fuel with
      | zero => cases enough
      | succ fuel => rfl
  | cons c text ih =>
      cases fuel with
      | zero => cases enough
      | succ fuel =>
          rw [List.length_cons, Nat.add_lt_add_iff_right] at enough
          rw [List.flatMap_cons, List.append_assoc, scanString_escape, ih fuel enough]
          rfl

theorem escape_ne_nil (c : Char) : escape c ≠ [] := by
  rw [escape]
  split_ifs <;> exact List.cons_ne_nil _ _

theorem length_le_flatMap (text : List Char) : text.length ≤ (text.flatMap escape).length := by
  induction text with
  | nil => exact Nat.le_refl _
  | cons c text ih =>
      have some_ := List.length_pos_iff.mpr (escape_ne_nil c)
      rw [List.flatMap_cons, List.length_append, List.length_cons]
      omega

/-- A quoted text reads as the text. -/
theorem scanString_quote (text : String) (rest : List Char) :
    scanString ((text.toList.flatMap escape ++ ('"' :: rest)).length + 1)
      (text.toList.flatMap escape ++ ('"' :: rest)) = .ok (text.toList, rest) := by
  apply scanString_flatMap
  have long := length_le_flatMap text.toList
  rw [List.length_append]
  omega

end Strings

section Numbers
variable {digits rest : List Char} {literal : Literal} {n : Int} {x : PyFloat}

/-- A number does not go on. -/
def NumberEnds (rest : List Char) : Prop :=
  ∀ c more, rest = c :: more → c.isDigit = false ∧ c ≠ '.' ∧ c ≠ 'e' ∧ c ≠ 'E'

/-- A run of digits does not go on. -/
def DigitsEnd (rest : List Char) : Prop := ∀ c more, rest = c :: more → c.isDigit = false

theorem NumberEnds.digitsEnd (ends : NumberEnds rest) : DigitsEnd rest :=
  fun c more same => (ends c more same).1

theorem digitsEnd_cons {c : Char} (foreign : c.isDigit = false) (more : List Char) :
    DigitsEnd (c :: more) := by
  intro d others same
  cases same
  exact foreign

theorem takeWhile_digits (each : ∀ c ∈ digits, c.isDigit) (ends : DigitsEnd rest) :
    (digits ++ rest).takeWhile Char.isDigit = digits := by
  rw [List.takeWhile_append_of_pos each]
  cases rest with
  | nil => rw [List.takeWhile_nil, List.append_nil]
  | cons c more =>
      rw [List.takeWhile_cons_of_neg (by simp [ends c more rfl]), List.append_nil]

theorem dropWhile_digits (each : ∀ c ∈ digits, c.isDigit) (ends : DigitsEnd rest) :
    (digits ++ rest).dropWhile Char.isDigit = rest := by
  rw [List.dropWhile_append_of_pos each]
  cases rest with
  | nil => rfl
  | cons c more => rw [List.dropWhile_cons_of_neg (by simp [ends c more rfl])]

theorem scanWhole_digits (each : ∀ c ∈ digits, c.isDigit)
    (leads : digits = ['0'] ∨ ∃ c rest, digits = c :: rest ∧ c ≠ '0') (ends : DigitsEnd rest) :
    scanWhole (digits ++ rest) = some (digits, rest) := by
  rcases leads with rfl | ⟨c, more, rfl, leading⟩
  · rfl
  · have later : ∀ d ∈ more, d.isDigit := fun d mem => each d (List.mem_cons_of_mem _ mem)
    rw [List.cons_append, scanWhole, if_neg leading, if_pos (each c List.mem_cons_self),
      takeWhile_digits later ends, dropWhile_digits later ends]

theorem scanFraction_text (each : ∀ c ∈ digits, c.isDigit) (ends : DigitsEnd rest)
    (pointless : ∀ more, rest ≠ '.' :: more) :
    scanFraction (Literal.fractionText digits ++ rest) = (digits, rest) := by
  rw [Literal.fractionText]
  split
  · rename_i empty
    rw [empty, List.nil_append]
    cases rest with
    | nil => rfl
    | cons c more =>
        rw [scanFraction, if_neg]
        rintro ⟨rfl, -⟩
        exact pointless more rfl
  · rename_i some_
    rw [List.cons_append, scanFraction, takeWhile_digits each ends, dropWhile_digits each ends,
      if_pos ⟨rfl, some_⟩]

theorem scanExponent_text {exponent : Option (Bool × List Char)}
    (sound : ∀ negative digits, exponent = some (negative, digits) →
      digits ≠ [] ∧ ∀ c ∈ digits, c.isDigit) (ends : NumberEnds rest) :
    scanExponent (Literal.exponentText exponent ++ rest) = (Literal.exponentText exponent, rest) := by
  cases exponent with
  | none =>
      rw [Literal.exponentText, List.nil_append]
      cases rest with
      | nil => rfl
      | cons c more =>
          obtain ⟨-, -, lower, upper⟩ := ends c more rfl
          rw [scanExponent, if_neg]
          rintro ⟨rfl | rfl, -⟩
          · exact lower rfl
          · exact upper rfl
  | some parts =>
      obtain ⟨negative, digits⟩ := parts
      obtain ⟨solid, each⟩ := sound negative digits rfl
      have signed : spanExponentSign ((if negative then '-' else '+') :: (digits ++ rest)) =
          ([if negative then '-' else '+'], digits ++ rest) := by
        cases negative <;> rfl
      rw [Literal.exponentText, List.cons_append, List.cons_append, scanExponent, signed]
      dsimp only
      rw [takeWhile_digits each ends.digitsEnd, dropWhile_digits each ends.digitsEnd,
        if_pos ⟨Or.inl rfl, solid⟩]
      rfl

theorem ends_exponentText (exponent : Option (Bool × List Char)) (ends : NumberEnds rest) :
    DigitsEnd (Literal.exponentText exponent ++ rest) ∧
      ∀ more, Literal.exponentText exponent ++ rest ≠ '.' :: more := by
  cases exponent with
  | none =>
      refine ⟨ends.digitsEnd, fun more same => ?_⟩
      exact (ends '.' more same).2.1 rfl
  | some parts => exact ⟨digitsEnd_cons (by decide) _, fun more same => nomatch same⟩

/-- A text that a number may begin. -/
def NumberBegins (text : List Char) : Prop :=
  ∃ c more, text = c :: more ∧ (c.isDigit ∨ (c = '-' ∧ ∃ d others, more = d :: others ∧ d.isDigit))

theorem scanPlain_number {text : List Char} (begins : NumberBegins text) :
    scanPlain text = scanNumber text := by
  have spelled : ∀ constant ∈ constants, ∃ k l more, constant.1 = k :: l :: more ∧
      k.isDigit = false ∧ l.isDigit = false := by
    intro constant mem
    simp only [constants, List.mem_cons, List.not_mem_nil, or_false] at mem
    rcases mem with rfl | rfl | rfl | rfl | rfl | rfl
    all_goals exact ⟨_, _, _, rfl, rfl, rfl⟩
  have missed : (constants.find? fun constant => constant.1.isPrefixOf text) = none := by
    rw [List.find?_eq_none]
    intro constant mem starts
    obtain ⟨k, l, more, spelling, foreign, foreign'⟩ := spelled constant mem
    obtain ⟨c, others, rfl, digit | ⟨-, d, tail, rfl, digit⟩⟩ := begins
    · rw [spelling, List.isPrefixOf_iff_prefix, List.cons_prefix_cons] at starts
      rw [starts.1, digit] at foreign
      cases foreign
    · rw [spelling, List.isPrefixOf_iff_prefix, List.cons_prefix_cons, List.cons_prefix_cons] at starts
      rw [starts.2.1, digit] at foreign'
      cases foreign'
  rw [scanPlain, missed]

theorem spanMinus_digits {c : Char} (digit : c.isDigit) (negative : Bool) (more : List Char) :
    spanMinus ((if negative then ['-'] else []) ++ (c :: more)) =
      (if negative then ['-'] else [], c :: more) := by
  cases negative with
  | true => rfl
  | false =>
      have plain : c ≠ '-' := by
        rintro rfl
        exact absurd digit (by decide)
      exact if_neg plain

theorem numberBegins_digits {c : Char} (digit : c.isDigit) (negative : Bool) (more : List Char) :
    NumberBegins ((if negative then ['-'] else []) ++ (c :: more)) := by
  cases negative with
  | true => exact ⟨'-', c :: more, rfl, Or.inr ⟨rfl, c, more, rfl, digit⟩⟩
  | false => exact ⟨c, more, rfl, Or.inl digit⟩

theorem digits_leading (n : Nat) :
    Nat.toDigits 10 n = ['0'] ∨ ∃ c rest, Nat.toDigits 10 n = c :: rest ∧ c ≠ '0' := by
  rcases Nat.eq_zero_or_pos n with rfl | positive
  · exact Or.inl rfl
  · exact Or.inr (PyFloat.toDigits_leading (Nat.pos_iff_ne_zero.mp positive))

/-- A written integer reads as it. -/
theorem scanPlain_int (writable : Writable n) (ends : NumberEnds rest) :
    scanPlain ((writeInt n).toList ++ rest) = .ok (.int n, rest) := by
  have each : ∀ c ∈ Nat.toDigits 10 n.natAbs, c.isDigit := IntegerText.toDigits_isDigit _
  have scanned := scanWhole_digits each (digits_leading _) ends.digitsEnd
  have fraction : scanFraction rest = ([], rest) :=
    scanFraction_text (fun c mem => absurd mem List.not_mem_nil) ends.digitsEnd
      fun more same => (ends '.' more same).2.1 rfl
  have exponent : scanExponent (Literal.exponentText none ++ rest) = (Literal.exponentText none, rest) :=
    scanExponent_text (fun _ _ same => by cases same) ends
  rw [Literal.exponentText, List.nil_append] at exponent
  have signed : (writeInt n).toList =
      (if decide (n < 0) then ['-'] else []) ++ Nat.toDigits 10 n.natAbs := by
    rw [IntegerText.writeInt_toList]
    simp only [decide_eq_true_eq]
  obtain ⟨c, more, starts⟩ := List.exists_cons_of_ne_nil (@Nat.toDigits_ne_nil n.natAbs 10)
  have digit : c.isDigit := each c (starts ▸ List.mem_cons_self)
  have begins : NumberBegins ((writeInt n).toList ++ rest) := by
    rw [signed, starts, List.append_assoc]
    exact numberBegins_digits digit _ _
  have minus : spanMinus ((writeInt n).toList ++ rest) =
      (if decide (n < 0) then ['-'] else [], Nat.toDigits 10 n.natAbs ++ rest) := by
    rw [signed, starts, List.append_assoc]
    exact spanMinus_digits digit _ _
  rw [scanPlain_number begins, scanNumber, minus]
  dsimp only
  rw [scanned]
  dsimp only
  rw [fraction]
  dsimp only
  rw [exponent]
  dsimp only
  rw [if_pos ⟨rfl, rfl⟩, ← signed, IntegerText.readLimited_writeInt writable]

/-- A written float reads as it. -/
theorem scanPlain_float (valid : x.Valid) (ends : NumberEnds rest) :
    scanPlain (floatText x ++ rest) = .ok (.float x, rest) := by
  cases x with
  | infinite negative => cases negative <;> rfl
  | nan => rfl
  | finite negative magnitude =>
      have reads := PyFloat.readFloat_write valid trivial
      obtain ⟨nonneg, float⟩ := valid
      have sound := PyFloat.literal_sound nonneg float
      have written : (PyFloat.finite negative magnitude).write =
          (if negative then ['-'] else []) ++ (PyFloat.literal magnitude).text := rfl
      rw [written] at reads
      rw [floatText, written]
      generalize PyFloat.literal magnitude = literal at sound reads ⊢
      obtain ⟨c, more, starts, digit⟩ := sound.cons
      have wholes : ∀ c ∈ literal.whole, c.isDigit := fun c mem =>
        sound.digits c (List.mem_append_left _ mem)
      have fractions : ∀ c ∈ literal.fraction, c.isDigit := fun c mem =>
        sound.digits c (List.mem_append_right _ mem)
      obtain ⟨ends', pointless⟩ := ends_exponentText literal.exponent ends
      have whole : scanWhole (literal.text ++ rest) = some (literal.whole,
          Literal.fractionText literal.fraction ++ (Literal.exponentText literal.exponent ++ rest)) := by
        rw [Literal.text, List.append_assoc, List.append_assoc]
        refine scanWhole_digits wholes sound.leads ?_
        rw [Literal.fractionText]
        split
        · exact ends'
        · exact digitsEnd_cons (by decide) _
      have begins : NumberBegins (((if negative then ['-'] else []) ++ literal.text) ++ rest) := by
        rw [starts, List.append_assoc]
        exact numberBegins_digits digit _ _
      have minus : spanMinus (((if negative then ['-'] else []) ++ literal.text) ++ rest) =
          (if negative then ['-'] else [], literal.text ++ rest) := by
        rw [starts, List.append_assoc]
        exact spanMinus_digits digit _ _
      have marked : ¬ (literal.fraction = [] ∧ Literal.exponentText literal.exponent = []) := by
        rintro ⟨none_, none_'⟩
        rcases sound.marked with fraction | exponent
        · exact fraction none_
        · cases parts : literal.exponent with
          | none => exact exponent parts
          | some parts_ =>
              rw [parts] at none_'
              cases none_'
      rw [scanPlain_number begins, scanNumber, minus]
      dsimp only
      rw [whole]
      dsimp only
      rw [scanFraction_text fractions ends' pointless]
      dsimp only
      rw [scanExponent_text sound.exponent ends]
      dsimp only
      rw [if_neg marked, ← Literal.text, reads]

end Numbers

mutual

/-- Enough steps for a document. -/
def size : PyValue → Nat
  | .list items => 1 + sizeItems items
  | .dict fields => 1 + sizeFields fields
  | _ => 1

def sizeItems : List PyValue → Nat
  | [] => 0
  | item :: items => 1 + size item + sizeItems items

def sizeFields : List (String × PyValue) → Nat
  | [] => 0
  | (_, value) :: fields => 1 + size value + sizeFields fields

end

section Documents
variable {rest : List Char}

/-- A text that does not begin with white space, a closing bracket or a byte order mark. -/
def Opens (text : List Char) : Prop :=
  ∃ c more, text = c :: more ∧ isWhite c = false ∧ c ≠ ']' ∧ c ≠ '\ufeff'

theorem skip_opens {text : List Char} (opens : Opens text) : skip text = text := by
  obtain ⟨c, more, rfl, solid, -⟩ := opens
  exact List.dropWhile_cons_of_neg (by simp [solid])

theorem Opens.append {text : List Char} (opens : Opens text) (more : List Char) :
    Opens (text ++ more) := by
  obtain ⟨c, others, rfl, facts⟩ := opens
  exact ⟨c, others ++ more, rfl, facts⟩

theorem opens_digit {c : Char} (digit : c.isDigit) (more : List Char) : Opens (c :: more) := by
  refine ⟨c, more, rfl, ?_, ?_⟩
  · rw [isWhite, decide_eq_false_iff_not]
    intro mem
    simp only [List.mem_cons, List.not_mem_nil, or_false] at mem
    rcases mem with rfl | rfl | rfl | rfl
    all_goals exact absurd digit (by decide)
  · refine ⟨?_, ?_⟩
    all_goals
      rintro rfl
      exact absurd digit (by decide)

theorem opens_signed {text : List Char} {c : Char} {more : List Char} (starts : text = c :: more)
    (digit : c.isDigit) (negative : Bool) : Opens ((if negative then ['-'] else []) ++ text) := by
  cases negative with
  | true => exact ⟨'-', text, rfl, by decide, by decide⟩
  | false => exact starts ▸ opens_digit digit more

theorem opens_int (n : Int) : Opens (writeInt n).toList := by
  obtain ⟨c, more, starts⟩ := List.exists_cons_of_ne_nil (@Nat.toDigits_ne_nil n.natAbs 10)
  have digit : c.isDigit := IntegerText.toDigits_isDigit _ c (starts ▸ List.mem_cons_self)
  have signed : (writeInt n).toList =
      (if decide (n < 0) then ['-'] else []) ++ Nat.toDigits 10 n.natAbs := by
    rw [IntegerText.writeInt_toList]
    simp only [decide_eq_true_eq]
  rw [signed]
  exact opens_signed starts digit _

theorem opens_float {x : PyFloat} (valid : x.Valid) : Opens (floatText x) := by
  cases x with
  | infinite negative => cases negative <;> exact ⟨_, _, rfl, by decide, by decide⟩
  | nan => exact ⟨_, _, rfl, by decide, by decide⟩
  | finite negative magnitude =>
      obtain ⟨nonneg, float⟩ := valid
      obtain ⟨c, more, starts, digit⟩ := (PyFloat.literal_sound nonneg float).cons
      exact opens_signed starts digit negative

theorem opens_write (value : PyValue) (sound : Sound value) : Opens (write value) := by
  cases value with
  | none => exact ⟨_, _, rfl, by decide, by decide⟩
  | bool value => cases value <;> exact ⟨_, _, rfl, by decide, by decide⟩
  | int value =>
      rw [write]
      exact opens_int value
  | float value =>
      rw [write]
      exact opens_float sound
  | str text => exact ⟨'"', _, by rw [write, quote], by decide, by decide⟩
  | list items => cases items <;> exact ⟨'[', _, by rw [write], by decide, by decide⟩
  | dict fields =>
      cases fields with
      | nil => exact ⟨'\x7b', _, by rw [write], by decide, by decide⟩
      | cons field fields => exact ⟨'\x7b', _, by rw [write], by decide, by decide⟩

/-- What is no string, list or object is scanned as a constant or a number. -/
theorem scanValue_plain {text : List Char} {c : Char} {more : List Char} (starts : text = c :: more)
    (other : c ≠ '"' ∧ c ≠ '[' ∧ c ≠ '\x7b') (fuel : Nat) :
    scanValue (fuel + 1) text = scanPlain text := by
  rw [starts, scanValue, if_neg other.1, if_neg other.2.1, if_neg other.2.2]

theorem plain_number {text : List Char} (begins : NumberBegins text) (fuel : Nat) :
    scanValue (fuel + 1) text = scanPlain text := by
  obtain ⟨c, more, starts, digit | ⟨rfl, -⟩⟩ := begins
  · refine scanValue_plain starts ⟨?_, ?_, ?_⟩ fuel
    all_goals
      rintro rfl
      exact absurd digit (by decide)
  · exact scanValue_plain starts (by decide) fuel

theorem scanValue_list {text : List Char} (opens : Opens text) (fuel : Nat) :
    scanValue (fuel + 1) ('[' :: text) = scanItems fuel [] text := by
  rw [scanValue, if_neg (by decide), if_pos rfl, skip_opens opens]
  obtain ⟨c, more, rfl, -, other, -⟩ := opens
  split
  · rename_i same
    cases same
    exact absurd rfl other
  · rfl

theorem scanValue_dict (text : List Char) (fuel : Nat) :
    scanValue (fuel + 1) ('\x7b' :: '"' :: text) = scanFields fuel [] ('"' :: text) := by
  rw [scanValue, if_neg (by decide), if_neg (by decide), if_pos rfl]
  rfl

theorem numberEnds_mark {c : Char} (marks : c = ',' ∨ c = ']' ∨ c = '\x7d') (more : List Char) :
    NumberEnds (c :: more) := by
  rintro d others same
  cases same
  rcases marks with rfl | rfl | rfl <;> decide

theorem numberEnds_items (items : List PyValue) (rest : List Char) :
    NumberEnds (writeItems items ++ rest) := by
  cases items with
  | nil =>
      rw [writeItems]
      exact numberEnds_mark (Or.inr (Or.inl rfl)) _
  | cons item items =>
      rw [writeItems]
      exact numberEnds_mark (Or.inl rfl) _

theorem numberEnds_fields (fields : List (String × PyValue)) (rest : List Char) :
    NumberEnds (writeFields fields ++ rest) := by
  cases fields with
  | nil =>
      rw [writeFields]
      exact numberEnds_mark (Or.inr (Or.inr rfl)) _
  | cons field fields =>
      rw [writeFields]
      exact numberEnds_mark (Or.inl rfl) _

theorem scanValue_int {n : Int} (writable : Writable n) (fuel : Nat) (ends : NumberEnds rest) :
    scanValue (fuel + 1) ((writeInt n).toList ++ rest) = .ok (.int n, rest) := by
  obtain ⟨c, more, starts⟩ := List.exists_cons_of_ne_nil (@Nat.toDigits_ne_nil n.natAbs 10)
  have digit : c.isDigit := IntegerText.toDigits_isDigit _ c (starts ▸ List.mem_cons_self)
  have signed : (writeInt n).toList =
      (if decide (n < 0) then ['-'] else []) ++ Nat.toDigits 10 n.natAbs := by
    rw [IntegerText.writeInt_toList]
    simp only [decide_eq_true_eq]
  have begins : NumberBegins ((writeInt n).toList ++ rest) := by
    rw [signed, starts, List.append_assoc]
    exact numberBegins_digits digit _ _
  rw [plain_number begins, scanPlain_int writable ends]

theorem scanValue_float {x : PyFloat} (valid : x.Valid) (fuel : Nat) (ends : NumberEnds rest) :
    scanValue (fuel + 1) (floatText x ++ rest) = .ok (.float x, rest) := by
  have plain : scanValue (fuel + 1) (floatText x ++ rest) = scanPlain (floatText x ++ rest) := by
    cases x with
    | infinite negative => cases negative <;> exact scanValue_plain rfl (by decide) fuel
    | nan => exact scanValue_plain rfl (by decide) fuel
    | finite negative magnitude =>
        obtain ⟨nonneg, float⟩ := valid
        obtain ⟨c, more, starts, digit⟩ := (PyFloat.literal_sound nonneg float).cons
        apply plain_number
        rw [floatText, PyFloat.write, starts, List.append_assoc]
        exact numberBegins_digits digit _ _
  rw [plain, scanPlain_float valid ends]

theorem scanValue_str (text : String) (fuel : Nat) (rest : List Char) :
    scanValue (fuel + 1) (quote text ++ rest) = .ok (.str text, rest) := by
  have whole : quote text ++ rest = '"' :: (text.toList.flatMap escape ++ ('"' :: rest)) := by
    rw [quote, List.cons_append, List.append_assoc]
    rfl
  rw [whole, scanValue, if_pos rfl, scanString_quote]
  simp only [Except.map, String.ofList_toList]

/-- A field is added to those that are read, and the object ends or goes on. -/
theorem scanFields_step {fuel : Nat} {done : List (String × PyValue)} {text key tail : List Char}
    {value : PyValue} (named : scanString (text.length + 1) text = .ok (key, ':' :: tail))
    (scanned : scanValue fuel (skip tail) = .ok (value, rest)) :
    scanFields (fuel + 1) done ('"' :: text) =
      match skip rest with
      | '\x7d' :: after => .ok (.dict (Json.assign done (String.ofList key) value), after)
      | ',' :: after => scanFields fuel (Json.assign done (String.ofList key) value) (skip after)
      | _ => .error .decode := by
  have colon : skip (':' :: tail) = ':' :: tail := rfl
  rw [scanFields, named]
  dsimp only [bind, Except.bind]
  rw [colon]
  split
  · rename_i same
    cases same
    revert scanned
    generalize scanValue fuel (skip tail) = result
    intro scanned
    subst scanned
    rfl
  · rename_i other
    exact absurd rfl (other tail)

/-- The items of a list that is not empty, up to the closing bracket. -/
def itemsText : List PyValue → List Char
  | [] => []
  | item :: items => write item ++ writeItems items

def fieldsText : List (String × PyValue) → List Char
  | [] => []
  | (key, value) :: fields => quote key ++ (':' :: ' ' :: (write value ++ writeFields fields))

mutual

/-- What is written of a document reads as it. -/
theorem scanValue_write : ∀ (value : PyValue) (fuel : Nat) (rest : List Char), Sound value →
    writable value = true → size value ≤ fuel → NumberEnds rest →
      scanValue fuel (write value ++ rest) = .ok (value, rest)
  | value, 0, rest, _, _, enough, _ => by
      cases value <;> simp [size] at enough
  | .none, fuel + 1, rest, _, _, _, _ => rfl
  | .bool true, fuel + 1, rest, _, _, _, _ => rfl
  | .bool false, fuel + 1, rest, _, _, _, _ => rfl
  | .int n, fuel + 1, rest, _, writable_, _, ends => by
      rw [write]
      exact scanValue_int (of_decide_eq_true writable_) fuel ends
  | .float x, fuel + 1, rest, sound, _, _, ends => by
      rw [write]
      exact scanValue_float sound fuel ends
  | .str text, fuel + 1, rest, _, _, _, _ => by
      rw [write]
      exact scanValue_str text fuel rest
  | .list [], fuel + 1, rest, _, _, _, _ => rfl
  | .list (item :: items), fuel + 1, rest, sound, writable_, enough, _ => by
      rw [size] at enough
      have scanned := scanItems_write (item :: items) [] fuel rest sound writable_ (by omega)
        (List.cons_ne_nil _ _)
      have opens : Opens (itemsText (item :: items) ++ rest) := by
        rw [itemsText, List.append_assoc]
        exact (opens_write item sound.1).append _
      rw [write, List.cons_append, ← itemsText, scanValue_list opens, scanned, List.nil_append]
  | .dict [], fuel + 1, rest, _, _, _, _ => rfl
  | .dict ((key, value) :: fields), fuel + 1, rest, sound, writable_, enough, _ => by
      rw [size] at enough
      have scanned := scanFields_write ((key, value) :: fields) [] fuel rest sound.1 sound.2 writable_
        (by omega) (List.cons_ne_nil _ _)
      rw [write, List.cons_append, ← fieldsText]
      rw [fieldsText, quote, List.cons_append, List.cons_append] at scanned ⊢
      rw [scanValue_dict, scanned, List.nil_append]

theorem scanItems_write : ∀ (items done : List PyValue) (fuel : Nat) (rest : List Char),
    SoundItems items → writableItems items = true → sizeItems items ≤ fuel → items ≠ [] →
      scanItems fuel done (itemsText items ++ rest) = .ok (.list (done ++ items), rest)
  | [], _, _, _, _, _, _, some_ => absurd rfl some_
  | item :: items, done, fuel, rest, sound, writable_, enough, _ => by
      rw [sizeItems] at enough
      rw [writableItems, Bool.and_eq_true] at writable_
      cases fuel with
      | zero => omega
      | succ fuel =>
          have first := scanValue_write item fuel (writeItems items ++ rest) sound.1 writable_.1
            (by omega) (numberEnds_items items rest)
          rw [itemsText, List.append_assoc, scanItems, first]
          cases items with
          | nil => rfl
          | cons next more =>
              have others := scanItems_write (next :: more) (done ++ [item]) fuel rest sound.2
                writable_.2 (by omega) (List.cons_ne_nil _ _)
              have opens : Opens (itemsText (next :: more) ++ rest) := by
                rw [itemsText, List.append_assoc]
                exact (opens_write next sound.2.1).append _
              have skipped : skip (' ' :: (itemsText (next :: more) ++ rest)) =
                  itemsText (next :: more) ++ rest := skip_opens opens
              rw [List.append_assoc, List.singleton_append, ← skipped] at others
              exact others

theorem scanFields_write : ∀ (fields done : List (String × PyValue)) (fuel : Nat) (rest : List Char),
    ((done ++ fields).map Prod.fst).Nodup → SoundFields fields → writableFields fields = true →
      sizeFields fields ≤ fuel → fields ≠ [] →
        scanFields fuel done (fieldsText fields ++ rest) = .ok (.dict (done ++ fields), rest)
  | [], _, _, _, _, _, _, _, some_ => absurd rfl some_
  | (key, value) :: fields, done, fuel, rest, distinct, sound, writable_, enough, _ => by
      rw [sizeFields] at enough
      rw [writableFields, Bool.and_eq_true] at writable_
      cases fuel with
      | zero => omega
      | succ fuel =>
          have first := scanValue_write value fuel (writeFields fields ++ rest) sound.1 writable_.1
            (by omega) (numberEnds_fields fields rest)
          have fresh : ∀ field ∈ done, field.1 ≠ key := by
            intro field mem same
            rw [List.map_append, List.map_cons] at distinct
            exact (List.nodup_append.mp distinct).2.2 field.1 (List.mem_map_of_mem mem) key
              List.mem_cons_self same
          have added : Json.assign done key value = done ++ [(key, value)] :=
            Json.assign_of_fresh fresh value
          have text : fieldsText ((key, value) :: fields) ++ rest =
              '"' :: (key.toList.flatMap escape ++
                ('"' :: ':' :: ' ' :: (write value ++ (writeFields fields ++ rest)))) := by
            rw [fieldsText, quote]
            simp only [List.cons_append, List.append_assoc, List.nil_append]
          have skipped : skip (' ' :: (write value ++ (writeFields fields ++ rest))) =
              write value ++ (writeFields fields ++ rest) :=
            skip_opens ((opens_write value sound.1).append _)
          rw [← skipped] at first
          rw [text, scanFields_step (scanString_quote key _) first, String.ofList_toList, added]
          cases fields with
          | nil => rfl
          | cons next more =>
              rw [List.append_cons] at distinct
              have others := scanFields_write (next :: more) (done ++ [(key, value)]) fuel rest distinct
                sound.2 writable_.2 (by omega) (List.cons_ne_nil _ _)
              have skipped' : skip (' ' :: (fieldsText (next :: more) ++ rest)) =
                  fieldsText (next :: more) ++ rest := by
                obtain ⟨key', value'⟩ := next
                rw [fieldsText, quote]
                rfl
              rw [List.append_assoc, List.singleton_append, ← skipped'] at others
              exact others

end

mutual

theorem size_le : ∀ value : PyValue, Sound value → size value ≤ (write value).length
  | .none, _ => by simp [size, write]
  | .bool true, _ => by simp [size, write]
  | .bool false, _ => by simp [size, write]
  | .int n, sound => by
      obtain ⟨c, more, starts, -⟩ := opens_write (.int n) sound
      have one : size (.int n) = 1 := rfl
      rw [starts, one, List.length_cons]
      omega
  | .float x, sound => by
      obtain ⟨c, more, starts, -⟩ := opens_write (.float x) sound
      have one : size (.float x) = 1 := rfl
      rw [starts, one, List.length_cons]
      omega
  | .str text, _ => by simp [size, write, quote]
  | .list [], _ => by simp [size, sizeItems, write]
  | .list (item :: items), sound => by
      have first := size_le item sound.1
      have others := sizeItems_lt items sound.2
      rw [size, sizeItems, write, List.length_cons, List.length_append]
      omega
  | .dict [], _ => by simp [size, sizeFields, write]
  | .dict ((key, value) :: fields), sound => by
      have first := size_le value sound.2.1
      have others := sizeFields_lt fields sound.2.2
      rw [size, sizeFields, write]
      simp only [List.length_cons, List.length_append]
      omega

theorem sizeItems_lt : ∀ items : List PyValue, SoundItems items →
    sizeItems items < (writeItems items).length
  | [], _ => by simp [sizeItems, writeItems]
  | item :: items, sound => by
      have first := size_le item sound.1
      have others := sizeItems_lt items sound.2
      rw [sizeItems, writeItems]
      simp only [List.length_cons, List.length_append]
      omega

theorem sizeFields_lt : ∀ fields : List (String × PyValue), SoundFields fields →
    sizeFields fields < (writeFields fields).length
  | [], _ => by simp [sizeFields, writeFields]
  | (key, value) :: fields, sound => by
      have first := size_le value sound.1
      have others := sizeFields_lt fields sound.2
      rw [sizeFields, writeFields]
      simp only [List.length_cons, List.length_append]
      omega

end

/-- A written document loads as it. -/
theorem loads_write {value : PyValue} (sound : Sound value) (writable_ : writable value = true) :
    loads (write value) = .ok value := by
  have opens := opens_write value sound
  have scanned := scanValue_write value (2 * (write value).length + 2) [] sound writable_
    (by have enough := size_le value sound; omega) fun _ _ same => nomatch same
  have unmarked : ['\ufeff'].isPrefixOf (write value) = false := by
    obtain ⟨c, more, starts, -, -, other⟩ := opens
    rw [starts, Bool.eq_false_iff]
    intro marked
    rw [List.isPrefixOf_iff_prefix, List.cons_prefix_cons] at marked
    exact other marked.1.symm
  rw [List.append_nil] at scanned
  rw [loads, unmarked, if_neg Bool.false_ne_true, skip_opens opens, scanned]
  rfl

end Documents

/-! ## Sorting -/

section Sorting
variable {fields : List (String × PyValue)} {value : PyValue}

instance : IsTrans (String × PyValue) KeyLe := ⟨fun _ _ _ first second => le_trans first second⟩

instance : Std.Total (α := String × PyValue) KeyLe := ⟨fun first second => le_total first.1 second.1⟩

theorem sortedFields_eq_map (fields : List (String × PyValue)) :
    sortedFields fields = fields.map fun field => (field.1, sorted field.2) := by
  induction fields with
  | nil => rw [sortedFields, List.map_nil]
  | cons field fields ih => rw [sortedFields, ih, List.map_cons]

theorem soundFields_iff : SoundFields fields ↔ ∀ field ∈ fields, Sound field.2 := by
  induction fields with
  | nil => simp [SoundFields]
  | cons field fields ih => simp [SoundFields, ih]

theorem writableFields_iff :
    writableFields fields = true ↔ ∀ field ∈ fields, writable field.2 = true := by
  induction fields with
  | nil => simp [writableFields]
  | cons field fields ih => simp [writableFields, ih]

theorem mem_sorted_dict {field : String × PyValue} :
    field ∈ (sortedFields fields).insertionSort KeyLe ↔ field ∈ sortedFields fields :=
  List.mem_insertionSort KeyLe

mutual

theorem sorted_sorted : ∀ value : PyValue, sorted (sorted value) = sorted value
  | .none => rfl
  | .bool _ => rfl
  | .int _ => rfl
  | .float _ => rfl
  | .str _ => rfl
  | .list items => by rw [sorted, sorted, sortedItems_sorted items]
  | .dict fields => by
      have fixed := sortedFields_sorted fields
      have same : sortedFields ((sortedFields fields).insertionSort KeyLe) =
          (sortedFields fields).insertionSort KeyLe := by
        rw [sortedFields_eq_map]
        refine (List.map_congr_left fun field mem => ?_).trans (List.map_id _)
        exact Prod.ext rfl (fixed field (mem_sorted_dict.mp mem))
      rw [sorted, sorted, same, List.Pairwise.insertionSort_eq (List.pairwise_insertionSort KeyLe _)]

theorem sortedItems_sorted : ∀ items : List PyValue,
    sortedItems (sortedItems items) = sortedItems items
  | [] => rfl
  | item :: items => by
      rw [sortedItems, sortedItems, sorted_sorted item, sortedItems_sorted items]

theorem sortedFields_sorted : ∀ fields : List (String × PyValue),
    ∀ field ∈ sortedFields fields, sorted field.2 = field.2
  | [], field, mem => by
      rw [sortedFields] at mem
      cases mem
  | (key, value) :: fields, field, mem => by
      rw [sortedFields] at mem
      rcases List.mem_cons.mp mem with rfl | later
      · exact sorted_sorted value
      · exact sortedFields_sorted fields field later

end

mutual

theorem sound_sorted : ∀ value : PyValue, Sound value → Sound (sorted value)
  | .none, sound => sound
  | .bool _, sound => sound
  | .int _, sound => sound
  | .float _, sound => sound
  | .str _, sound => sound
  | .list items, sound => by
      rw [sorted, Sound]
      exact soundItems_sorted items sound
  | .dict fields, sound => by
      rw [sorted, Sound]
      refine ⟨?_, ?_⟩
      · have keys : (sortedFields fields).map Prod.fst = fields.map Prod.fst := by
          rw [sortedFields_eq_map, List.map_map]
          rfl
        have perm := (List.perm_insertionSort KeyLe (sortedFields fields)).map Prod.fst
        rw [perm.nodup_iff, keys]
        exact sound.1
      · rw [soundFields_iff]
        intro field mem
        exact soundFields_iff.mp (soundFields_sorted fields sound.2) field (mem_sorted_dict.mp mem)

theorem soundItems_sorted : ∀ items : List PyValue, SoundItems items → SoundItems (sortedItems items)
  | [], sound => sound
  | item :: items, sound => by
      rw [sortedItems]
      exact ⟨sound_sorted item sound.1, soundItems_sorted items sound.2⟩

theorem soundFields_sorted : ∀ fields : List (String × PyValue), SoundFields fields →
    SoundFields (sortedFields fields)
  | [], sound => sound
  | (key, value) :: fields, sound => by
      rw [sortedFields]
      exact ⟨sound_sorted value sound.1, soundFields_sorted fields sound.2⟩

end

mutual

theorem writable_sorted : ∀ value : PyValue, writable value = true → writable (sorted value) = true
  | .none, writable_ => writable_
  | .bool _, writable_ => writable_
  | .int _, writable_ => writable_
  | .float _, writable_ => writable_
  | .str _, writable_ => writable_
  | .list items, writable_ => by
      rw [sorted, writable]
      exact writableItems_sorted items writable_
  | .dict fields, writable_ => by
      rw [sorted, writable, writableFields_iff]
      intro field mem
      exact writableFields_iff.mp (writableFields_sorted fields writable_) field (mem_sorted_dict.mp mem)

theorem writableItems_sorted : ∀ items : List PyValue, writableItems items = true →
    writableItems (sortedItems items) = true
  | [], writable_ => writable_
  | item :: items, writable_ => by
      rw [writableItems, Bool.and_eq_true] at writable_
      rw [sortedItems, writableItems, Bool.and_eq_true]
      exact ⟨writable_sorted item writable_.1, writableItems_sorted items writable_.2⟩

theorem writableFields_sorted : ∀ fields : List (String × PyValue), writableFields fields = true →
    writableFields (sortedFields fields) = true
  | [], writable_ => writable_
  | (key, value) :: fields, writable_ => by
      rw [writableFields, Bool.and_eq_true] at writable_
      rw [sortedFields, writableFields, Bool.and_eq_true]
      exact ⟨writable_sorted value writable_.1, writableFields_sorted fields writable_.2⟩

end

/-- What is dumped of a document loads as the document with its keys in order, and is what is dumped
of that. -/
theorem loads_dumps {text : List Char} (sound : Sound value) (dumped : dumps value = some text) :
    loads text = .ok (sorted value) ∧ dumps (sorted value) = some text := by
  rw [dumps] at dumped
  split at dumped
  · rename_i writable_
    cases dumped
    refine ⟨loads_write (sound_sorted value sound) (writable_sorted value writable_), ?_⟩
    rw [dumps, if_pos (writable_sorted value writable_), sorted_sorted]
  · cases dumped

end Sorting

end Numu.JsonText
