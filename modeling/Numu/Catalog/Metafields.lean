import Numu.Foundation.IsoDate
import Numu.Foundation.JsonScan
import Numu.Foundation.JsonRoundTrip
import Numu.Foundation.Keyed
import Numu.Foundation.Words

/-!
# Typed custom data of products, collections and pages

A value is checked against the type that its definition declares, kept as text and typed again as it
is read. The text is canonical for all types but numbers and documents: of a number a text is kept
as it was sent, and so is the text of a document.
-/

namespace Numu.Catalog
open IntegerText (strip writeInt readLimited Writable)
open PyFloat (readFloat)
open JsonText (loads dumps sorted Sound LoadsError)

inductive MetafieldType where
  | singleLineText
  | multiLineText
  | number
  | boolean
  | json
  | url
  | date
  deriving DecidableEq, Repr

def MetafieldType.value : MetafieldType → String
  | .singleLineText => "single_line_text"
  | .multiLineText => "multi_line_text"
  | .number => "number"
  | .boolean => "boolean"
  | .json => "json"
  | .url => "url"
  | .date => "date"

/-- A `ValueError`: one that is raised with a text, or the one of an integer of too many digits. -/
inductive Refusal where
  | message (text : String)
  | digits
  deriving DecidableEq, Repr

/-- `value.strip()`. -/
def stripped (text : String) : String := String.ofList (strip text.toList)

/-- `value.lower()`; no letter beyond ASCII becomes one of those that are looked for. -/
def lower (text : String) : String := String.ofList (text.toList.map Char.toLower)

def serializeText (mtype : MetafieldType) : PyValue → Except Refusal String
  | .str text =>
      if mtype = .singleLineText ∧ '\n' ∈ text.toList then
        .error (.message "single_line_text may not contain newlines")
      else .ok text
  | _ => .error (.message (mtype.value ++ " requires a string value"))

def urlStarts : List String := ["http://", "https://", "/"]

def serializeUrl : PyValue → Except Refusal String
  | .str text =>
      let candidate := stripped text
      if candidate = "" then .error (.message "url requires a non-empty string value")
      else if urlStarts.any fun start => start.toList.isPrefixOf candidate.toList then .ok candidate
      else .error (.message "url must start with http://, https:// or /")
  | _ => .error (.message "url requires a non-empty string value")

def serializeNumber : PyValue → Except Refusal String
  | .bool _ => .error (.message "number does not accept a boolean")
  | .int n => if Writable n then .ok (writeInt n) else .error .digits
  | .float x => .ok (String.ofList x.write)
  | .str text =>
      match readFloat text.toList with
      | none => .error (.message ("'" ++ text ++ "' is not a valid number"))
      | some _ => .ok (stripped text)
  | _ => .error (.message "number requires an int, float or numeric string")

def writeBool (value : Bool) : String := if value then "true" else "false"

def serializeBoolean : PyValue → Except Refusal String
  | .bool value => .ok (writeBool value)
  | .str text =>
      let word := lower (stripped text)
      if word = "true" ∨ word = "false" then .ok word
      else .error (.message "boolean requires true/false")
  | _ => .error (.message "boolean requires true/false")

def serializeDate : PyValue → Except Refusal String
  | .str text =>
      match IsoDate.fromisoformat (strip text.toList) with
      | some date => .ok (String.ofList (IsoDate.isoformat date))
      | none => .error (.message ("'" ++ text ++ "' is not a valid ISO date (YYYY-MM-DD)"))
  | _ => .error (.message "date requires an ISO 8601 string (YYYY-MM-DD)")

def serializeJson : PyValue → Except Refusal String
  | .str text =>
      match loads text.toList with
      | .ok _ => .ok text
      | .error .decode => .error (.message "json value string is not valid JSON")
      | .error .value => .error .digits
  | value =>
      match dumps value with
      | some text => .ok (String.ofList text)
      | none => .error (.message "json value is not JSON-serializable")

def serializeTyped (mtype : MetafieldType) (value : PyValue) : Except Refusal String :=
  match mtype with
  | .singleLineText => serializeText .singleLineText value
  | .multiLineText => serializeText .multiLineText value
  | .url => serializeUrl value
  | .number => serializeNumber value
  | .boolean => serializeBoolean value
  | .date => serializeDate value
  | .json => serializeJson value

def serializeMetafieldValue (mtype : MetafieldType) : PyValue → Except Refusal String
  | .none => .error (.message "Metafield value cannot be null")
  | value => serializeTyped mtype value

def coerceNumber (raw : String) : PyValue :=
  if '.' ∈ raw.toList ∨ 'e' ∈ (lower raw).toList then
    match readFloat raw.toList with
    | some x => .float x
    | none => .str raw
  else
    match readLimited raw.toList with
    | some n => .int n
    | none => .str raw

/-- An integer of too many digits within a document is an error that is not caught. -/
def coerceJson (raw : String) : Except LoadsError PyValue :=
  match loads raw.toList with
  | .error .decode => .ok (.str raw)
  | result => result

def coerceMetafieldValue (mtype : MetafieldType) : Option String → Except LoadsError PyValue
  | none => .ok .none
  | some raw =>
      match mtype with
      | .number => .ok (coerceNumber raw)
      | .boolean => .ok (.bool (lower (stripped raw) = "true"))
      | .json => coerceJson raw
      | _ => .ok (.str raw)

/-! ## The rows -/

section Rows
variable {ι : Type} [DecidableEq ι]

structure MetafieldDefinition (ι : Type) where
  id : ι
  type : MetafieldType

structure MetafieldValue (ι : Type) where
  definitionId : ι
  ownerId : ι
  value : String

def MetafieldValue.key (row : MetafieldValue ι) : ι × ι := (row.definitionId, row.ownerId)

def writeValue (rows : List (MetafieldValue ι)) (definition : MetafieldDefinition ι) (ownerId : ι)
    (value : PyValue) : Except Refusal (List (MetafieldValue ι)) := do
  let serialized ← serializeMetafieldValue definition.type value
  match Keyed.position? MetafieldValue.key (definition.id, ownerId) rows with
  | some index => return rows.modify index fun row => { row with value := serialized }
  | none => return rows ++ [⟨definition.id, ownerId, serialized⟩]

/-- What is stored under a definition and an owner. -/
def storedText (rows : List (MetafieldValue ι)) (k : ι × ι) : Option String :=
  (Keyed.held? MetafieldValue.key k rows).map MetafieldValue.value

theorem storedText_writeValue {rows rows' : List (MetafieldValue ι)}
    {definition : MetafieldDefinition ι} {ownerId : ι} {value : PyValue}
    (written : writeValue rows definition ownerId value = .ok rows') :
    ∃ serialized, serializeMetafieldValue definition.type value = .ok serialized ∧
      ∀ k, storedText rows' k =
        if k = (definition.id, ownerId) then some serialized else storedText rows k := by
  obtain ⟨serialized, accepted, written⟩ := Outcome.bind_eq_ok.mp written
  refine ⟨serialized, accepted, fun k => ?_⟩
  cases found : Keyed.position? MetafieldValue.key (definition.id, ownerId) rows with
  | some index =>
      rw [found] at written
      cases written
      have same : ∀ row : MetafieldValue ι, ({ row with value := serialized } : MetafieldValue ι).key =
          row.key := fun _ => rfl
      rw [storedText, Keyed.held?_modify found same]
      split
      · obtain ⟨row, here⟩ : ∃ row, Keyed.held? MetafieldValue.key (definition.id, ownerId) rows =
            some row := by
          rw [← Option.ne_none_iff_exists', Ne, ← Keyed.position?_eq_none, found]
          exact fun same => nomatch same
        rw [here]
        rfl
      · rfl
  | none =>
      rw [found] at written
      cases written
      have own : MetafieldValue.key ⟨definition.id, ownerId, serialized⟩ = (definition.id, ownerId) := rfl
      have fresh : Keyed.held? MetafieldValue.key
          (MetafieldValue.key ⟨definition.id, ownerId, serialized⟩) rows = none :=
        Keyed.position?_eq_none.mp found
      rw [storedText, Keyed.held?_append_new fresh, own]
      by_cases here : k = (definition.id, ownerId)
      · rw [if_pos here, if_pos here]
        rfl
      · rw [if_neg here, if_neg here]
        rfl

/-- Every text that is stored is what a sent value was serialized to. -/
def Written (types : ι → MetafieldType) (rows : List (MetafieldValue ι)) : Prop :=
  ∀ k raw, storedText rows k = some raw →
    ∃ value, Sound value ∧ serializeMetafieldValue (types k.1) value = .ok raw

/-- One write, as a request makes it. -/
structure Write (ι : Type) where
  definitionId : ι
  ownerId : ι
  value : PyValue
  sound : Sound value

def Write.run (types : ι → MetafieldType) (rows : List (MetafieldValue ι)) (write : Write ι) :
    List (MetafieldValue ι) :=
  Outcome.orKeep rows
    (writeValue rows ⟨write.definitionId, types write.definitionId⟩ write.ownerId write.value)

theorem Written.step {types : ι → MetafieldType} {rows : List (MetafieldValue ι)}
    (written : Written types rows) (write : Write ι) : Written types (write.run types rows) := by
  refine Outcome.orKeep_keeps written fun rows' done k raw stored => ?_
  obtain ⟨serialized, accepted, after⟩ := storedText_writeValue done
  rw [after] at stored
  split at stored
  · rename_i here
    cases stored
    rw [here]
    exact ⟨write.value, write.sound, accepted⟩
  · exact written k raw stored

/-- In a run of writes every stored text is a serialized one. -/
theorem written_run (types : ι → MetafieldType) (writes : List (Write ι)) :
    Written types (writes.foldl (Write.run types) []) := by
  suffices each : ∀ rows, Written types rows → Written types (writes.foldl (Write.run types) rows) from
    each [] fun k raw stored => nomatch stored
  induction writes with
  | nil => exact fun rows written => written
  | cons write writes ih => exact fun rows written => ih _ (written.step write)

end Rows

/-! ## Equal values -/

/-- The number that a value is; `True` is 1, and the sign of a zero does not count. -/
def numberOf : PyValue → Option FloatValue
  | .bool value => some (.finite (if value then 1 else 0))
  | .int n => some (.finite n)
  | .float (.finite negative magnitude) => some (.finite (if negative then -magnitude else magnitude))
  | .float (.infinite negative) => some (.infinite negative)
  | .float .nan => some .nan
  | _ => none

mutual

/-- `==` of two values that are read: numbers by what they are, objects whatever their order. All
documents share one `nan`, which a list or an object that holds it takes for equal. -/
def pyEq : PyValue → PyValue → Bool
  | .none, .none => true
  | .str text, .str text' => text = text'
  | .list items, .list items' => pyEqItems items items'
  | .dict fields, .dict fields' => fields.length = fields'.length && pyEqFields fields fields'
  | .bool value, other => numberOf (.bool value) = numberOf other
  | .int n, other => numberOf (.int n) = numberOf other
  | .float x, other => numberOf (.float x) = numberOf other
  | _, _ => false

def pyEqItems : List PyValue → List PyValue → Bool
  | [], [] => true
  | item :: items, item' :: items' => pyEq item item' && pyEqItems items items'
  | _, _ => false

def pyEqFields : List (String × PyValue) → List (String × PyValue) → Bool
  | [], _ => true
  | (key, value) :: fields, fields' =>
      (match fields'.lookup key with
        | some value' => pyEq value value'
        | none => false) && pyEqFields fields fields'

end

example : pyEq (.dict [("a", .int 1), ("b", .none)]) (.dict [("b", .none), ("a", .bool true)]) = true := by
  decide +kernel

/-! ## Round trip -/

/-- A value of the declared kind, as it is read from a text. -/
def Typed (mtype : MetafieldType) (raw : String) (value : PyValue) : Prop :=
  match mtype with
  | .number => (∃ n, value = .int n) ∨ ∃ x, value = .float x
  | .boolean => ∃ flag, value = .bool flag
  | .json => loads raw.toList = .ok value
  | _ => ∃ text, value = .str text

/-- A stored text is read as a value of the declared kind, which is stored as that text again. -/
def Stays (mtype : MetafieldType) (raw : String) : Prop :=
  ∃ value, coerceMetafieldValue mtype (some raw) = .ok value ∧ Typed mtype raw value ∧
    serializeMetafieldValue mtype value = .ok raw

/-- Texts that are read as equal values are one text. -/
def OneText (mtype : MetafieldType) (raw raw' : String) : Prop :=
  ∀ value value', coerceMetafieldValue mtype (some raw) = .ok value →
    coerceMetafieldValue mtype (some raw') = .ok value' → pyEq value value' = true → raw = raw'

/-- The value is a number that is finite, or it spells one just as Python writes it. -/
def SpellsNumber : PyValue → PyValue → Prop
  | .int n, x => x = .int n
  | .float y, x => y.IsFinite ∧ x = .float y
  | .str text, x =>
      (∃ n, Writable n ∧ stripped text = writeInt n ∧ x = .int n) ∨
        ∃ y, y.IsFinite ∧ readFloat text.toList = some y ∧ stripped text = String.ofList y.write ∧
          x = .float y
  | _, _ => False

/-- The value is a document other than a text, or it spells one, `null` apart, just as `dumps` does. -/
def SpellsJson : PyValue → PyValue → Prop
  | .str text, x =>
      loads text.toList = .ok x ∧ x ≠ .none ∧ (∀ inner, x ≠ .str inner) ∧ dumps x = some text.toList
  | value, x => x = sorted value

/-- Both values spell something, and if what they spell is equal, it is the same. -/
def Agree (spells : PyValue → PyValue → Prop) (value value' : PyValue) : Prop :=
  (∃ x, spells value x) ∧ (∃ x, spells value' x) ∧
    ∀ x x', spells value x → spells value' x' → pyEq x x' = true → x = x'

def Canonical : MetafieldType → PyValue → PyValue → Prop
  | .number => Agree SpellsNumber
  | .json => Agree SpellsJson
  | _ => fun _ _ => True

section RoundTrip
variable {mtype : MetafieldType} {value value' x : PyValue} {raw raw' : String}

theorem serialize_ok (stored : serializeMetafieldValue mtype value = .ok raw) :
    value ≠ .none ∧ serializeTyped mtype value = .ok raw := by
  cases value with
  | none => cases stored
  | bool _ | int _ | float _ | str _ | list _ | dict _ => exact ⟨(fun same => nomatch same), stored⟩

theorem serialize_some (some_ : value ≠ .none) :
    serializeMetafieldValue mtype value = serializeTyped mtype value := by
  cases value with
  | none => exact absurd rfl some_
  | bool _ | int _ | float _ | str _ | list _ | dict _ => rfl

/-- Where what is spelled is what is read, and only canonical texts stay, the condition is exact. -/
theorem stays_iff_agree {spells : PyValue → PyValue → Prop}
    (reads : ∀ {value raw x}, Sound value → serializeMetafieldValue mtype value = .ok raw →
      spells value x → coerceMetafieldValue mtype (some raw) = .ok x ∧ Typed mtype raw x ∧
        serializeMetafieldValue mtype x = .ok raw)
    (spelled : ∀ {value raw}, serializeMetafieldValue mtype value = .ok raw → Stays mtype raw →
      ∃ x, spells value x)
    (sound : Sound value) (sound' : Sound value')
    (stored : serializeMetafieldValue mtype value = .ok raw)
    (stored' : serializeMetafieldValue mtype value' = .ok raw') :
    (Stays mtype raw ∧ Stays mtype raw' ∧ OneText mtype raw raw') ↔ Agree spells value value' := by
  constructor
  · rintro ⟨stays, stays', one⟩
    refine ⟨spelled stored stays, spelled stored' stays', fun x x' left right equal => ?_⟩
    have read := (reads sound stored left).1
    have read' := (reads sound' stored' right).1
    rw [one x x' read read' equal, read'] at read
    exact (Except.ok.inj read).symm
  · rintro ⟨⟨x, left⟩, ⟨x', right⟩, same⟩
    obtain ⟨read, typed, again⟩ := reads sound stored left
    obtain ⟨read', typed', again'⟩ := reads sound' stored' right
    refine ⟨⟨x, read, typed, again⟩, ⟨x', read', typed', again'⟩, fun v v' first second equal => ?_⟩
    rw [read] at first
    rw [read'] at second
    cases first
    cases second
    rw [same x x' left right equal, again'] at again
    exact (Except.ok.inj again).symm

/-! ### Numbers -/

theorem mem_writeInt {n : Int} {c : Char} (mem : c ∈ (writeInt n).toList) : c = '-' ∨ c.isDigit := by
  rw [IntegerText.writeInt_toList] at mem
  rcases List.mem_append.mp mem with minus | digit
  · split at minus
    · exact Or.inl (List.mem_singleton.mp minus)
    · cases minus
  · exact Or.inr (IntegerText.toDigits_isDigit _ c digit)

theorem not_mem_writeInt {c : Char} (foreign : c ≠ '-' ∧ c.isDigit = false) (n : Int) :
    c ∉ (writeInt n).toList := by
  intro mem
  rcases mem_writeInt mem with minus | digit
  · exact foreign.1 minus
  · rw [foreign.2] at digit
    cases digit

theorem lower_writeInt (n : Int) : lower (writeInt n) = writeInt n := by
  have each : (writeInt n).toList.map Char.toLower = (writeInt n).toList.map id := by
    refine List.map_congr_left fun c mem => ?_
    rcases mem_writeInt mem with rfl | digit
    · decide
    · exact PyFloat.toLower_digit digit
  rw [lower, each, List.map_id, String.ofList_toList]

theorem coerceNumber_writeInt {n : Int} (writable : Writable n) :
    coerceNumber (writeInt n) = .int n := by
  have point := not_mem_writeInt (c := '.') (by decide) n
  have exponent := not_mem_writeInt (c := 'e') (by decide) n
  rw [coerceNumber, lower_writeInt, if_neg (not_or.mpr ⟨point, exponent⟩),
    IntegerText.readLimited_writeInt writable]

theorem coerceNumber_marked (marked : '.' ∈ raw.toList ∨ 'e' ∈ raw.toList) {y : PyFloat}
    (read : readFloat raw.toList = some y) : coerceNumber raw = .float y := by
  have looked : '.' ∈ raw.toList ∨ 'e' ∈ (lower raw).toList := by
    refine marked.imp_right fun mem => ?_
    rw [lower, String.toList_ofList]
    exact List.mem_map.mpr ⟨'e', mem, rfl⟩
  rw [coerceNumber, if_pos looked, read]

theorem readFloat_stripped (text : String) : readFloat (stripped text).toList = readFloat text.toList := by
  have twice : strip (strip text.toList) = strip text.toList := Words.trim_trim _ _
  rw [stripped, String.toList_ofList, readFloat, readFloat, twice]

/-- The text of a finite float is read as it. -/
theorem coerceNumber_write {y : PyFloat} (valid : y.Valid) (finite : y.IsFinite) :
    coerceNumber (String.ofList y.write) = .float y := by
  refine coerceNumber_marked ?_ ?_
  · rw [String.toList_ofList]
    exact PyFloat.write_marks valid finite
  · rw [String.toList_ofList]
    exact PyFloat.readFloat_write valid finite

/-- An infinity or `nan` is written by its name. -/
theorem write_of_not_finite {y : PyFloat} (other : ¬ y.IsFinite) :
    'n' ∈ y.write ∧ readFloat y.write = some y := by
  cases y with
  | finite negative magnitude => exact absurd trivial other
  | infinite negative => cases negative <;> exact ⟨by decide, by decide⟩
  | nan => exact ⟨by decide, by decide⟩

theorem reads_number (sound : Sound value) (stored : serializeMetafieldValue .number value = .ok raw)
    (spells : SpellsNumber value x) :
    coerceMetafieldValue .number (some raw) = .ok x ∧ Typed .number raw x ∧
      serializeMetafieldValue .number x = .ok raw := by
  have stored_ := (serialize_ok stored).2
  have int : ∀ n, Writable n → raw = writeInt n → x = .int n → coerceMetafieldValue .number (some raw) = .ok x ∧
      Typed .number raw x ∧ serializeMetafieldValue .number x = .ok raw := by
    rintro n writable rfl rfl
    exact ⟨congrArg Except.ok (coerceNumber_writeInt writable), Or.inl ⟨n, rfl⟩, if_pos writable⟩
  have float : ∀ y : PyFloat, y.Valid → y.IsFinite → raw = String.ofList y.write → x = .float y →
      coerceMetafieldValue .number (some raw) = .ok x ∧ Typed .number raw x ∧
        serializeMetafieldValue .number x = .ok raw := by
    rintro y valid finite rfl rfl
    exact ⟨congrArg Except.ok (coerceNumber_write valid finite), Or.inr ⟨y, rfl⟩, rfl⟩
  cases value with
  | int n =>
      rw [serializeTyped, serializeNumber] at stored_
      split at stored_
      · rename_i writable
        exact int n writable (Except.ok.inj stored_).symm spells
      · cases stored_
  | float y => exact float y sound spells.1 (Except.ok.inj stored_).symm spells.2
  | str text =>
      have kept : raw = stripped text := by
        rw [serializeTyped, serializeNumber] at stored_
        split at stored_
        · cases stored_
        · exact (Except.ok.inj stored_).symm
      rcases spells with ⟨n, writable, written, same⟩ | ⟨y, finite, read, written, same⟩
      · exact int n writable (kept.trans written) same
      · exact float y (PyFloat.readFloat_valid read) finite (kept.trans written) same
  | none | bool _ | list _ | dict _ => exact spells.elim

/-- What stays is the text of an integer or of a finite float. -/
theorem number_of_stays (stays : Stays .number raw) :
    (∃ n, Writable n ∧ raw = writeInt n) ∨
      ∃ y : PyFloat, y.IsFinite ∧ readFloat raw.toList = some y ∧ raw = String.ofList y.write := by
  obtain ⟨v, read, typed, again⟩ := stays
  have same : v = coerceNumber raw := (Except.ok.inj read).symm
  rcases typed with ⟨n, rfl⟩ | ⟨y, rfl⟩
  · refine Or.inl ⟨n, ?_⟩
    have written : serializeNumber (.int n) = .ok raw := again
    rw [serializeNumber] at written
    split at written
    · rename_i writable
      exact ⟨writable, (Except.ok.inj written).symm⟩
    · cases written
  · have written : raw = String.ofList y.write := (Except.ok.inj again).symm
    rw [coerceNumber] at same
    split at same
    · rename_i marked
      split at same
      · rename_i z found
        cases same
        refine Or.inr ⟨y, ?_, found, written⟩
        rw [written, lower, String.toList_ofList, String.toList_ofList] at marked
        cases y with
        | finite negative magnitude => trivial
        | infinite negative => cases negative <;> exact absurd marked (by decide)
        | nan => exact absurd marked (by decide)
      · cases same
    · split at same <;> cases same

theorem spelled_number (stored : serializeMetafieldValue .number value = .ok raw)
    (stays : Stays .number raw) : ∃ x, SpellsNumber value x := by
  have stored_ := (serialize_ok stored).2
  cases value with
  | int n => exact ⟨.int n, rfl⟩
  | float y =>
      have kept : raw = String.ofList y.write := (Except.ok.inj stored_).symm
      refine ⟨.float y, by_contra fun other => ?_, rfl⟩
      have named := write_of_not_finite other
      rcases number_of_stays stays with ⟨n, -, written⟩ | ⟨z, finite, read, -⟩
      · rw [← String.toList_ofList (l := y.write), ← kept, written] at named
        exact not_mem_writeInt (by decide) n named.1
      · rw [kept, String.toList_ofList, named.2] at read
        cases read
        exact other finite
  | str text =>
      have kept : raw = stripped text := by
        rw [serializeTyped, serializeNumber] at stored_
        split at stored_
        · cases stored_
        · exact (Except.ok.inj stored_).symm
      rcases number_of_stays stays with ⟨n, writable, written⟩ | ⟨y, finite, read, written⟩
      · exact ⟨.int n, Or.inl ⟨n, writable, kept.symm.trans written, rfl⟩⟩
      · rw [kept, readFloat_stripped] at read
        exact ⟨.float y, Or.inr ⟨y, finite, read, kept.symm.trans written, rfl⟩⟩
  | none | bool _ | list _ | dict _ => cases stored_

/-! ### Documents -/

theorem serializeJson_dumps (plain : ∀ inner, x ≠ .str inner) {text : List Char}
    (dumped : dumps x = some text) : serializeJson x = .ok (String.ofList text) := by
  rw [serializeJson, dumped]
  exact plain

theorem dumps_of_stored (plain : ∀ inner, value ≠ .str inner) (stored : serializeJson value = .ok raw) :
    dumps value = some raw.toList := by
  cases dumped : dumps value with
  | some text =>
      rw [serializeJson_dumps plain dumped] at stored
      cases stored
      rw [String.toList_ofList]
  | none =>
      rw [serializeJson, dumped] at stored
      · cases stored
      · exact plain

/-- The text of a document is kept as it was sent. -/
theorem stored_document {text : String} (stored : serializeJson (.str text) = .ok raw) : raw = text := by
  rw [serializeJson] at stored
  split at stored
  · exact (Except.ok.inj stored).symm
  · cases stored
  · cases stored

theorem sorted_plain (some_ : value ≠ .none) (plain : ∀ inner, value ≠ .str inner) :
    sorted value ≠ .none ∧ ∀ inner, sorted value ≠ .str inner := by
  cases value with
  | none => exact absurd rfl some_
  | str inner => exact absurd rfl (plain inner)
  | bool _ | int _ | float _ | list _ | dict _ =>
      exact ⟨(fun same => nomatch same), fun _ same => nomatch same⟩

theorem reads_json (sound : Sound value) (stored : serializeMetafieldValue .json value = .ok raw)
    (spells : SpellsJson value x) :
    coerceMetafieldValue .json (some raw) = .ok x ∧ Typed .json raw x ∧
      serializeMetafieldValue .json x = .ok raw := by
  obtain ⟨some_, stored_⟩ := serialize_ok stored
  rw [serializeTyped] at stored_
  have document : x ≠ .none → (∀ inner, x ≠ .str inner) → loads raw.toList = .ok x →
      dumps x = some raw.toList → coerceMetafieldValue .json (some raw) = .ok x ∧ Typed .json raw x ∧
        serializeMetafieldValue .json x = .ok raw := by
    intro filled plain loaded dumped
    refine ⟨?_, loaded, ?_⟩
    · rw [coerceMetafieldValue, coerceJson, loaded]
    · rw [serialize_some filled, serializeTyped, serializeJson_dumps plain dumped, String.ofList_toList]
  by_cases text : ∃ inner, value = .str inner
  · obtain ⟨inner, rfl⟩ := text
    obtain ⟨loaded, filled, plain, dumped⟩ := spells
    cases stored_document stored_
    exact document filled plain loaded dumped
  · have plain : ∀ inner, value ≠ .str inner := fun inner same => text ⟨inner, same⟩
    have same : x = sorted value := by
      cases value with
      | str inner => exact absurd rfl (plain inner)
      | none | bool _ | int _ | float _ | list _ | dict _ => exact spells
    obtain ⟨loaded, dumped⟩ := JsonText.loads_dumps sound (dumps_of_stored plain stored_)
    obtain ⟨filled, plain'⟩ := sorted_plain some_ plain
    rw [same]
    rw [same] at document
    exact document filled plain' loaded dumped

theorem spelled_json (stored : serializeMetafieldValue .json value = .ok raw)
    (stays : Stays .json raw) : ∃ x, SpellsJson value x := by
  obtain ⟨v, -, loaded, again⟩ := stays
  obtain ⟨filled, again_⟩ := serialize_ok again
  have plain : ∀ inner, v ≠ .str inner := by
    rintro inner rfl
    cases stored_document again_
    exact absurd (JsonText.str_shorter loaded) (Nat.lt_irrefl _)
  cases value with
  | str text =>
      cases stored_document (serialize_ok stored).2
      exact ⟨v, loaded, filled, plain, dumps_of_stored plain again_⟩
  | none | bool _ | int _ | float _ | list _ | dict _ => exact ⟨_, rfl⟩

/-! ### The other types -/

theorem oneText_str (read : ∀ raw, coerceMetafieldValue mtype (some raw) = .ok (.str raw)) :
    OneText mtype raw raw' := by
  intro v v' first second equal
  rw [read] at first second
  cases first
  cases second
  rw [pyEq, decide_eq_true_eq] at equal
  exact equal

theorem stripped_stripped (text : String) : stripped (stripped text) = stripped text := by
  have twice : strip (strip text.toList) = strip text.toList := Words.trim_trim _ _
  rw [stripped, stripped, String.toList_ofList, twice]

theorem stays_text (stored : serializeText mtype value = .ok raw) : serializeText mtype (.str raw) = .ok raw := by
  cases value with
  | str text =>
      have kept := stored
      rw [serializeText] at kept
      split at kept
      · cases kept
      · cases kept
        exact stored
  | none | bool _ | int _ | float _ | list _ | dict _ => cases stored

theorem stays_url (stored : serializeUrl value = .ok raw) : serializeUrl (.str raw) = .ok raw := by
  cases value with
  | str text =>
      have kept : stripped text = raw := by
        rw [serializeUrl] at stored
        split at stored
        · cases stored
        · split at stored
          · exact Except.ok.inj stored
          · cases stored
      rw [serializeUrl, ← kept, stripped_stripped]
      rw [serializeUrl, kept] at stored
      rw [kept]
      exact stored
  | none | bool _ | int _ | float _ | list _ | dict _ => cases stored

theorem stays_date (stored : serializeDate value = .ok raw) : serializeDate (.str raw) = .ok raw := by
  cases value with
  | str text =>
      rw [serializeDate] at stored
      split at stored
      · rename_i date _
        cases stored
        rw [serializeDate, String.toList_ofList, IsoDate.strip_isoformat,
          IsoDate.fromisoformat_isoformat]
      · cases stored
  | none | bool _ | int _ | float _ | list _ | dict _ => cases stored

theorem boolean_of_stored (stored : serializeBoolean value = .ok raw) : ∃ flag, raw = writeBool flag := by
  cases value with
  | bool flag => exact ⟨flag, (Except.ok.inj stored).symm⟩
  | str text =>
      rw [serializeBoolean] at stored
      split at stored
      · rename_i word
        rw [Except.ok.inj stored] at word
        rcases word with true_ | false_
        · exact ⟨true, true_⟩
        · exact ⟨false, false_⟩
      · exact nomatch stored
  | none | int _ | float _ | list _ | dict _ => cases stored

theorem coerce_writeBool (flag : Bool) :
    coerceMetafieldValue .boolean (some (writeBool flag)) = .ok (.bool flag) := by
  have word : decide (lower (stripped (writeBool flag)) = "true") = flag := by
    cases flag <;> decide
  rw [coerceMetafieldValue, word]

/-- A value that is sent for a type other than numbers and documents stays as it is stored, and texts
that are read as equal values are one text. -/
theorem stays_plain (plain : mtype ≠ .number ∧ mtype ≠ .json)
    (stored : serializeMetafieldValue mtype value = .ok raw)
    (stored' : serializeMetafieldValue mtype value' = .ok raw') :
    Stays mtype raw ∧ OneText mtype raw raw' := by
  have stored_ := (serialize_ok stored).2
  cases mtype with
  | number => exact absurd rfl plain.1
  | json => exact absurd rfl plain.2
  | singleLineText => exact ⟨⟨.str raw, rfl, ⟨raw, rfl⟩, stays_text stored_⟩, oneText_str fun _ => rfl⟩
  | multiLineText => exact ⟨⟨.str raw, rfl, ⟨raw, rfl⟩, stays_text stored_⟩, oneText_str fun _ => rfl⟩
  | url => exact ⟨⟨.str raw, rfl, ⟨raw, rfl⟩, stays_url stored_⟩, oneText_str fun _ => rfl⟩
  | date => exact ⟨⟨.str raw, rfl, ⟨raw, rfl⟩, stays_date stored_⟩, oneText_str fun _ => rfl⟩
  | boolean =>
      obtain ⟨flag, rfl⟩ := boolean_of_stored stored_
      obtain ⟨flag', rfl⟩ := boolean_of_stored (serialize_ok stored').2
      refine ⟨⟨.bool flag, coerce_writeBool flag, ⟨flag, rfl⟩, rfl⟩, fun v v' first second equal => ?_⟩
      rw [coerce_writeBool] at first second
      cases first
      cases second
      cases flag <;> cases flag' <;> first | rfl | exact absurd equal (by decide)

/-- Stored texts are typed and canonical just where the sent values spell canonical ones. -/
theorem stored_canonical_iff (sound : Sound value) (sound' : Sound value')
    (stored : serializeMetafieldValue mtype value = .ok raw)
    (stored' : serializeMetafieldValue mtype value' = .ok raw') :
    (Stays mtype raw ∧ Stays mtype raw' ∧ OneText mtype raw raw') ↔ Canonical mtype value value' := by
  have other : mtype ≠ .number ∧ mtype ≠ .json →
      Stays mtype raw ∧ Stays mtype raw' ∧ OneText mtype raw raw' := fun other =>
    ⟨(stays_plain other stored stored').1, (stays_plain other stored' stored).1,
      (stays_plain other stored stored').2⟩
  cases mtype with
  | number => exact stays_iff_agree reads_number spelled_number sound sound' stored stored'
  | json => exact stays_iff_agree reads_json spelled_json sound sound' stored stored'
  | singleLineText | multiLineText | url | date | boolean => exact iff_of_true (other (by decide)) trivial

end RoundTrip

theorem stored_canonical_iff_one_two :
    (Stays .number "1" ∧ Stays .number "2" ∧ OneText .number "1" "2") ↔
      Canonical .number (.str "1") (.str "2") :=
  stored_canonical_iff trivial trivial (by decide +kernel) (by decide +kernel)

/-- `nan` is taken for a number and read as a text. -/
theorem nan_is_text : ¬ ∀ (mtype : MetafieldType) (value value' : PyValue) (raw raw' : String),
    Sound value → Sound value' → serializeMetafieldValue mtype value = .ok raw →
      serializeMetafieldValue mtype value' = .ok raw' →
        Stays mtype raw ∧ Stays mtype raw' ∧ OneText mtype raw raw' := by
  intro always
  have stored : serializeMetafieldValue .number (.str "nan") = .ok "nan" := by decide +kernel
  obtain ⟨⟨v, read, typed, -⟩, -⟩ := always .number (.str "nan") (.str "nan") _ _ trivial trivial stored stored
  have text : coerceMetafieldValue .number (some "nan") = .ok (.str "nan") := rfl
  rw [text] at read
  cases read
  rcases typed with ⟨n, same⟩ | ⟨x, same⟩ <;> cases same

end Numu.Catalog
