import Numu.Foundation.JsonText
import Numu.Foundation.Outcome

/-!
# What a scan takes off a text

Every value that is scanned takes something off the text, so that the number of steps that `loads`
allows is enough for every text; a string is shorter than the text it is scanned from.
-/

namespace Numu.JsonText

section Pieces
variable {text rest : List Char}

theorem length_dropWhile_le (p : Char → Bool) (text : List Char) :
    (text.dropWhile p).length ≤ text.length :=
  (List.dropWhile_suffix p).length_le

theorem length_skip_le (text : List Char) : (skip text).length ≤ text.length :=
  length_dropWhile_le _ _

theorem length_of_skip {c : Char} {after : List Char} (found : skip text = c :: after) :
    after.length < text.length := by
  have short := length_skip_le text
  rw [found, List.length_cons] at short
  omega

theorem scanWhole_length {whole : List Char} (scanned : scanWhole text = some (whole, rest)) :
    rest.length < text.length := by
  cases text with
  | nil => cases scanned
  | cons c more =>
      have short := length_dropWhile_le Char.isDigit more
      rw [scanWhole] at scanned
      split at scanned
      · cases scanned
        exact Nat.lt_succ_self _
      · split at scanned
        · cases scanned
          rw [List.length_cons]
          omega
        · cases scanned

theorem scanFraction_length (text : List Char) : (scanFraction text).2.length ≤ text.length := by
  cases text with
  | nil => exact Nat.le_refl _
  | cons c more =>
      have short := length_dropWhile_le Char.isDigit more
      rw [scanFraction]
      split
      · rw [List.length_cons]
        dsimp only
        omega
      · exact Nat.le_refl _

theorem scanExponent_length (text : List Char) : (scanExponent text).2.length ≤ text.length := by
  cases text with
  | nil => exact Nat.le_refl _
  | cons c more =>
      have signed : (spanExponentSign more).2.length ≤ more.length := by
        cases more with
        | nil => exact Nat.le_refl _
        | cons d others =>
            rw [spanExponentSign]
            split
            · exact Nat.le_succ _
            · exact Nat.le_refl _
      have short := length_dropWhile_le Char.isDigit (spanExponentSign more).2
      rw [scanExponent]
      split
      · rw [List.length_cons]
        dsimp only
        omega
      · exact Nat.le_refl _

theorem spanMinus_length (text : List Char) : (spanMinus text).2.length ≤ text.length := by
  cases text with
  | nil => exact Nat.le_refl _
  | cons c more =>
      rw [spanMinus]
      split
      · exact Nat.le_succ _
      · exact Nat.le_refl _

/-- A number or a constant is no text, and takes something off. -/
theorem scanNumber_spec {value : PyValue} (scanned : scanNumber text = .ok (value, rest)) :
    rest.length < text.length ∧ ∀ text, value ≠ .str text := by
  have minus := spanMinus_length text
  rw [scanNumber] at scanned
  dsimp only at scanned
  cases whole : scanWhole (spanMinus text).2 with
  | none =>
      rw [whole] at scanned
      cases scanned
  | some parts =>
      obtain ⟨digits, afterWhole⟩ := parts
      have short := scanWhole_length whole
      have fraction := scanFraction_length afterWhole
      have exponent := scanExponent_length (scanFraction afterWhole).2
      rw [whole] at scanned
      dsimp only at scanned
      split at scanned
      · split at scanned
        · cases scanned
        · cases scanned
          exact ⟨by omega, fun _ same => nomatch same⟩
      · split at scanned
        · cases scanned
        · cases scanned
          exact ⟨by omega, fun _ same => nomatch same⟩

theorem scanPlain_spec {value : PyValue} (scanned : scanPlain text = .ok (value, rest)) :
    rest.length < text.length ∧ ∀ text, value ≠ .str text := by
  rw [scanPlain] at scanned
  cases found : constants.find? fun constant => constant.1.isPrefixOf text with
  | none =>
      rw [found] at scanned
      exact scanNumber_spec scanned
  | some constant =>
      rw [found] at scanned
      cases scanned
      have hit := List.find?_some found
      have starts := (List.isPrefixOf_iff_prefix.mp hit).length_le
      have mem := List.mem_of_find?_eq_some found
      have facts : ∀ constant ∈ constants, 0 < constant.1.length ∧ ∀ text, constant.2 ≠ .str text := by
        intro constant mem
        simp only [constants, List.mem_cons, List.not_mem_nil, or_false] at mem
        rcases mem with rfl | rfl | rfl | rfl | rfl | rfl
        all_goals exact ⟨by decide, fun _ same => nomatch same⟩
      refine ⟨?_, (facts constant mem).2⟩
      have some_ := (facts constant mem).1
      rw [List.length_drop]
      omega

theorem hexFour_length {code : Nat} (read : hexFour text = some (code, rest)) :
    rest.length < text.length := by
  rw [hexFour.eq_def] at read
  split at read
  · simp only [Option.bind_eq_bind, Option.pure_def, Option.bind_eq_some_iff] at read
    obtain ⟨_, -, _, -, _, -, _, -, same⟩ := read
    cases same
    simp only [List.length_cons]
    omega
  · cases read

theorem readLow_length {low : Nat} (read : readLow text = some (low, rest)) :
    rest.length < text.length := by
  rw [readLow.eq_def] at read
  split at read
  · have short := hexFour_length (Option.filter_eq_some_iff.mp read).1
    simp only [List.length_cons]
    omega
  · cases read

theorem readUnicode_length {c : Char} (read : readUnicode text = some (c, rest)) :
    rest.length < text.length := by
  rw [readUnicode, Option.bind_eq_bind, Option.bind_eq_some_iff] at read
  obtain ⟨⟨code, after⟩, first, read⟩ := read
  have short := hexFour_length first
  dsimp only at read
  have known : ∀ d after, some (d, after) = some (c, rest) → after = rest := by
    intro d after same
    exact congrArg Prod.snd (Option.some.inj same)
  split at read
  · split at read
    · rename_i low later second
      have shorter := readLow_length second
      rw [← known _ _ read]
      omega
    · rw [← known _ _ read]
      exact short
  · rw [← known _ _ read]
    exact short

theorem readEscape_length {c : Char} (read : readEscape text = some (c, rest)) :
    rest.length < text.length := by
  cases text with
  | nil => cases read
  | cons d more =>
      dsimp only [readEscape] at read
      split at read
      case h_9 => exact Nat.lt_succ_of_lt (readUnicode_length read)
      case h_10 => cases read
      all_goals
        cases read
        exact Nat.lt_succ_self _

/-- A string is shorter than the text that it is scanned from, which holds its closing quote. -/
theorem scanString_length {fuel : Nat} {chars : List Char}
    (scanned : scanString fuel text = .ok (chars, rest)) :
    chars.length + rest.length < text.length := by
  induction fuel generalizing text chars with
  | zero =>
      rw [scanString] at scanned
      cases scanned
  | succ fuel ih =>
      cases text with
      | nil => cases scanned
      | cons c more =>
          rw [scanString] at scanned
          split at scanned
          · cases scanned
            rw [List.length_cons, List.length_nil]
            omega
          · split at scanned
            · split at scanned
              · cases scanned
              · rename_i d after read
                have short := readEscape_length read
                obtain ⟨⟨later, rest_⟩, inner, same⟩ := Outcome.map_eq_ok.mp scanned
                dsimp only at same
                cases same
                have shorter := ih inner
                simp only [List.length_cons] at short ⊢
                omega
            · split at scanned
              · cases scanned
              · obtain ⟨⟨later, rest_⟩, inner, same⟩ := Outcome.map_eq_ok.mp scanned
                dsimp only at same
                cases same
                have shorter := ih inner
                simp only [List.length_cons]
                omega

/-- Any number of steps above the length of the text scans the same string. -/
theorem scanString_enough {fuel : Nat} (text : List Char) (enough : text.length < fuel) :
    scanString (fuel + 1) text = scanString fuel text := by
  induction fuel generalizing text with
  | zero => exact absurd enough (Nat.not_lt_zero _)
  | succ fuel ih =>
      cases text with
      | nil => rfl
      | cons c more =>
          rw [List.length_cons] at enough
          rw [scanString, scanString, ih more (by omega)]
          cases read : readEscape more with
          | none => rfl
          | some parts =>
              obtain ⟨d, after⟩ := parts
              have short := readEscape_length read
              dsimp only
              rw [ih after (by omega)]

end Pieces

section Documents
variable {fuel : Nat}

/-- A scan of a value, or of what is left of a list or of an object. -/
abbrev Scan := List Char → Except LoadsError (PyValue × List Char)

def Takes (scan : Scan) : Prop :=
  ∀ text value rest, scan text = .ok (value, rest) → rest.length < text.length

theorem scanValue_takes (items : Takes (scanItems fuel [])) (fields : Takes (scanFields fuel [])) :
    Takes (scanValue (fuel + 1)) := by
  intro text value rest scanned
  cases text with
  | nil => cases scanned
  | cons c more =>
      have short := length_skip_le more
      rw [scanValue] at scanned
      rw [List.length_cons]
      split at scanned
      · obtain ⟨⟨chars, after⟩, inner, same⟩ := Outcome.map_eq_ok.mp scanned
        have shorter := scanString_length inner
        cases same
        dsimp only
        omega
      · split at scanned
        · split at scanned
          · rename_i after found
            cases scanned
            have shorter := length_of_skip found
            omega
          · have shorter := items _ _ _ scanned
            omega
        · split at scanned
          · split at scanned
            · rename_i after found
              cases scanned
              have shorter := length_of_skip found
              omega
            · have shorter := fields _ _ _ scanned
              omega
          · exact (scanPlain_spec scanned).1

theorem scanItems_takes (values : Takes (scanValue fuel)) (later : ∀ items, Takes (scanItems fuel items))
    (items : List PyValue) : Takes (scanItems (fuel + 1) items) := by
  intro text value rest scanned
  rw [scanItems] at scanned
  obtain ⟨⟨item, afterItem⟩, first, scanned⟩ := Outcome.bind_eq_ok.mp scanned
  have short := values _ _ _ first
  dsimp only at scanned
  split at scanned
  · rename_i after found
    have shorter := length_of_skip found
    cases scanned
    omega
  · rename_i after found
    have shorter := length_of_skip found
    have shorter_ := length_skip_le after
    have others := later _ _ _ _ scanned
    omega
  · cases scanned

/-- The fields of an object begin with a quoted key. -/
theorem scanFields_opens (text : List Char) :
    (∃ more, text = '"' :: more) ∨
      ∀ fuel fields, scanFields (fuel + 1) fields text = .error .decode := by
  by_cases quoted : ∃ more, text = '"' :: more
  · exact Or.inl quoted
  · refine Or.inr fun fuel fields => ?_
    rw [scanFields]
    intro more same
    exact quoted ⟨more, same⟩

theorem scanFields_takes (values : Takes (scanValue fuel))
    (later : ∀ fields, Takes (scanFields fuel fields)) (fields : List (String × PyValue)) :
    Takes (scanFields (fuel + 1) fields) := by
  intro text value rest scanned
  rcases scanFields_opens text with ⟨more, rfl⟩ | broken
  · rw [scanFields] at scanned
    obtain ⟨⟨key, afterKey⟩, named, scanned⟩ := Outcome.bind_eq_ok.mp scanned
    have keyShort := scanString_length named
    rw [List.length_cons]
    dsimp only at scanned
    split at scanned
    · rename_i afterColon colon
      have colonShort := length_of_skip colon
      have bare := length_skip_le afterColon
      obtain ⟨⟨item, afterItem⟩, first, scanned⟩ := Outcome.bind_eq_ok.mp scanned
      have short := values _ _ _ first
      dsimp only at scanned
      split at scanned
      · rename_i after found
        have shorter := length_of_skip found
        cases scanned
        omega
      · rename_i after found
        have shorter := length_of_skip found
        have shorter_ := length_skip_le after
        have others := later _ _ _ _ scanned
        omega
      · cases scanned
    · cases scanned
  · rw [broken] at scanned
    cases scanned

/-- Every value that is scanned takes something off the text. -/
theorem scan_takes (fuel : Nat) :
    Takes (scanValue fuel) ∧ (∀ items, Takes (scanItems fuel items)) ∧
      ∀ fields, Takes (scanFields fuel fields) := by
  induction fuel with
  | zero =>
      refine ⟨?_, ?_, ?_⟩
      · intro text value rest scanned
        rw [scanValue] at scanned
        cases scanned
      · intro items text value rest scanned
        rw [scanItems] at scanned
        cases scanned
      · intro fields text value rest scanned
        rw [scanFields] at scanned
        cases scanned
  | succ fuel ih =>
      obtain ⟨values, items, fields⟩ := ih
      exact ⟨scanValue_takes (items []) (fields []), scanItems_takes values items,
        scanFields_takes values fields⟩

/-! ## Enough steps -/

/-- One more step changes nothing on a text of which two steps for each character are left. -/
def Enough (least : Nat) (scan : Nat → Scan) (fuel : Nat) : Prop :=
  ∀ text, 2 * text.length + least ≤ fuel → scan (fuel + 1) text = scan fuel text

theorem scanValue_enough (items : Enough 2 (scanItems · []) fuel)
    (fields : Enough 2 (scanFields · []) fuel) : Enough 1 scanValue (fuel + 1) := by
  intro text enough
  cases text with
  | nil => rw [scanValue, scanValue]
  | cons c more =>
      have short := length_skip_le more
      rw [List.length_cons] at enough
      have listed := items (skip more) (by omega)
      have keyed := fields (skip more) (by omega)
      dsimp only at listed keyed
      rw [scanValue, scanValue]
      split
      · rfl
      · split
        · split
          · rfl
          · exact listed
        · split
          · split
            · rfl
            · exact keyed
          · rfl

theorem scanItems_enough (values : Enough 1 scanValue fuel)
    (later : ∀ items, Enough 2 (scanItems · items) fuel) (items : List PyValue) :
    Enough 2 (scanItems · items) (fuel + 1) := by
  intro text enough
  dsimp only
  rw [scanItems, scanItems, values text (by omega)]
  cases scanned : scanValue fuel text with
  | error error => rfl
  | ok parts =>
      have short := (scan_takes fuel).1 text parts.1 parts.2 scanned
      have bare := length_skip_le parts.2
      dsimp only [bind, Except.bind]
      split
      · rfl
      · rename_i after found
        have shorter := length_of_skip found
        have shorter_ := length_skip_le after
        exact later _ _ (by omega)
      · rfl

theorem scanFields_enough (values : Enough 1 scanValue fuel)
    (later : ∀ fields, Enough 2 (scanFields · fields) fuel) (fields : List (String × PyValue)) :
    Enough 2 (scanFields · fields) (fuel + 1) := by
  intro text enough
  dsimp only
  rcases scanFields_opens text with ⟨more, rfl⟩ | broken
  · rw [List.length_cons] at enough
    rw [scanFields, scanFields]
    cases named : scanString (more.length + 1) more with
    | error error => rfl
    | ok parts =>
        obtain ⟨key, afterKey⟩ := parts
        have keyShort := scanString_length named
        dsimp only [bind, Except.bind]
        split
        · rename_i afterColon colon
          have colonShort := length_of_skip colon
          have bare := length_skip_le afterColon
          rw [values (skip afterColon) (by omega)]
          cases scanned : scanValue fuel (skip afterColon) with
          | error error => rfl
          | ok parts =>
              have short := (scan_takes fuel).1 _ parts.1 parts.2 scanned
              dsimp only [bind, Except.bind]
              split
              · rfl
              · rename_i after found
                have shorter := length_of_skip found
                have shorter_ := length_skip_le after
                exact later _ _ (by omega)
              · rfl
        · rfl
  · rw [broken, broken]

theorem scan_enough (fuel : Nat) :
    Enough 1 scanValue fuel ∧ (∀ items, Enough 2 (scanItems · items) fuel) ∧
      ∀ fields, Enough 2 (scanFields · fields) fuel := by
  induction fuel with
  | zero =>
      refine ⟨?_, ?_, ?_⟩
      · intro text enough
        omega
      · intro items text enough
        omega
      · intro fields text enough
        omega
  | succ fuel ih =>
      obtain ⟨values, items, fields⟩ := ih
      exact ⟨scanValue_enough (items []) (fields []), scanItems_enough values items,
        scanFields_enough values fields⟩

/-- The steps that `loads` allows are enough: with more of them it reads the same. -/
theorem scanValue_more (text : List Char) (more : Nat) :
    scanValue (2 * text.length + 2 + more) (skip text) =
      scanValue (2 * text.length + 2) (skip text) := by
  have short := length_skip_le text
  induction more with
  | zero => rfl
  | succ more ih => rw [← ih, ← Nat.add_assoc, (scan_enough _).1 (skip text) (by omega)]

/-! ## Texts that are documents -/

theorem scanItems_str {items : List PyValue} {text rest : List Char} {value : PyValue}
    (scanned : scanItems fuel items text = .ok (value, rest)) : ∀ text, value ≠ .str text := by
  induction fuel generalizing items text with
  | zero =>
      rw [scanItems] at scanned
      cases scanned
  | succ fuel ih =>
      rw [scanItems] at scanned
      obtain ⟨item, -, scanned⟩ := Outcome.bind_eq_ok.mp scanned
      dsimp only at scanned
      split at scanned
      · cases scanned
        intro _ same
        cases same
      · exact ih scanned
      · cases scanned

theorem scanFields_str {fields : List (String × PyValue)} {text rest : List Char} {value : PyValue}
    (scanned : scanFields fuel fields text = .ok (value, rest)) : ∀ text, value ≠ .str text := by
  induction fuel generalizing fields text with
  | zero =>
      rw [scanFields] at scanned
      cases scanned
  | succ fuel ih =>
      rcases scanFields_opens text with ⟨more, rfl⟩ | broken
      · rw [scanFields] at scanned
        obtain ⟨key, -, scanned⟩ := Outcome.bind_eq_ok.mp scanned
        dsimp only at scanned
        split at scanned
        · obtain ⟨item, -, scanned⟩ := Outcome.bind_eq_ok.mp scanned
          split at scanned
          · cases scanned
            intro _ same
            cases same
          · exact ih scanned
          · cases scanned
        · cases scanned
      · rw [broken] at scanned
        cases scanned

/-- A text that is the document of a string is longer than that string. -/
theorem str_shorter {text : List Char} {inner : String} (loaded : loads text = .ok (.str inner)) :
    inner.toList.length < text.length := by
  rw [loads] at loaded
  split at loaded
  · cases loaded
  · obtain ⟨⟨value, rest⟩, scanned, loaded⟩ := Outcome.bind_eq_ok.mp loaded
    dsimp only at loaded
    split at loaded
    · cases loaded
      have short := length_skip_le text
      cases found : skip text with
      | nil =>
          rw [found] at scanned
          cases scanned
      | cons c more =>
          rw [found] at scanned short
          rw [List.length_cons] at short
          rw [scanValue] at scanned
          split at scanned
          · obtain ⟨⟨chars, after⟩, read, same⟩ := Outcome.map_eq_ok.mp scanned
            have shorter := scanString_length read
            cases same
            rw [String.toList_ofList]
            dsimp only at shorter ⊢
            omega
          · split at scanned
            · split at scanned
              · cases scanned
              · exact absurd rfl (scanItems_str scanned inner)
            · split at scanned
              · split at scanned
                · cases scanned
                · exact absurd rfl (scanFields_str scanned inner)
              · exact absurd rfl ((scanPlain_spec scanned).2 inner)
    · cases loaded

end Documents

end Numu.JsonText
