import Mathlib.Data.List.Basic
import Mathlib.Data.Rat.Defs

/-!
# JSON documents

Documents as Python's `json` reads them. `strings` collects the texts of a
document at every depth, its keys included.
-/

namespace Numu

inductive Json where
  | null
  | bool (value : Bool)
  | int (value : Int)
  | float (value : Rat)
  | str (text : String)
  | arr (items : List Json)
  | obj (fields : List (String × Json))

namespace Json

abbrev Fields := List (String × Json)

/-- Python's truth of a value. -/
def truthy : Json → Bool
  | .null => false
  | .bool value => value
  | .int value => value ≠ 0
  | .float value => value ≠ 0
  | .str text => text ≠ ""
  | .arr items => !items.isEmpty
  | .obj fields => !fields.isEmpty

/-- `fields.get(key, default)`. -/
def Fields.get (fields : Fields) (key : String) (default : Json) : Json :=
  (fields.lookup key).getD default

/-- `entries[key] = value`, in the place of the key where it is there. -/
def assign (entries : List (String × α)) (key : String) (value : α) : List (String × α) :=
  match entries with
  | [] => [(key, value)]
  | (found, old) :: rest =>
      if found = key then (key, value) :: rest else (found, old) :: assign rest key value

def Fields.put (fields : Fields) (key : String) (value : Json) : Fields := assign fields key value

/-- `fields.pop(key, None)`. -/
def Fields.pop (fields : Fields) (key : String) : Fields :=
  fields.filter fun field => field.1 ≠ key

mutual

def strings : Json → List String
  | .str text => [text]
  | .arr items => stringsOfItems items
  | .obj fields => stringsOfFields fields
  | _ => []

def stringsOfItems : List Json → List String
  | [] => []
  | item :: rest => item.strings ++ stringsOfItems rest

def stringsOfFields : List (String × Json) → List String
  | [] => []
  | (key, value) :: rest => key :: (value.strings ++ stringsOfFields rest)

end

/-- Some text of the document contains the needle. -/
def Mentions (needle : String) (doc : Json) : Prop :=
  ∃ text ∈ doc.strings, needle.toList <:+: text.toList

instance (needle : String) (doc : Json) : Decidable (Mentions needle doc) :=
  inferInstanceAs (Decidable (∃ text ∈ doc.strings, needle.toList <:+: text.toList))

section Strings
variable {text key : String} {fields : Fields} {value : Json}

theorem mem_stringsOfItems {items : List Json} :
    text ∈ stringsOfItems items ↔ ∃ item ∈ items, text ∈ item.strings := by
  induction items with
  | nil => simp [stringsOfItems]
  | cons item rest ih => simp [stringsOfItems, ih]

theorem mem_stringsOfFields :
    text ∈ stringsOfFields fields ↔
      ∃ field ∈ fields, text = field.1 ∨ text ∈ field.2.strings := by
  induction fields with
  | nil => simp [stringsOfFields]
  | cons field rest ih =>
      rcases field with ⟨key, value⟩
      simp [stringsOfFields, ih, or_assoc]

theorem mem_of_lookup {α : Type*} {entries : List (String × α)} {value : α}
    (found : entries.lookup key = some value) : (key, value) ∈ entries := by
  induction entries with
  | nil => cases found
  | cons entry rest ih =>
      rw [List.lookup_cons] at found
      by_cases same : key == entry.1
      · simp only [same] at found
        cases found
        rw [beq_iff_eq] at same
        subst same
        exact List.mem_cons_self
      · simp only [same] at found
        exact List.mem_cons_of_mem _ (ih found)

/-- The texts of a value of an object are texts of the object. -/
theorem strings_of_lookup (found : fields.lookup key = some value)
    (mem : text ∈ value.strings) : text ∈ stringsOfFields fields :=
  mem_stringsOfFields.mpr ⟨(key, value), mem_of_lookup found, Or.inr mem⟩

theorem mem_put {field : String × Json} (mem : field ∈ fields.put key value) :
    field = (key, value) ∨ field ∈ fields := by
  induction fields with
  | nil => exact Or.inl (List.mem_singleton.mp mem)
  | cons head rest ih =>
      rw [Fields.put, assign] at mem
      split at mem
      · rcases List.mem_cons.mp mem with here | there
        · exact Or.inl here
        · exact Or.inr (List.mem_cons_of_mem _ there)
      · rcases List.mem_cons.mp mem with here | there
        · exact Or.inr (here ▸ List.mem_cons_self)
        · exact (ih there).imp id (List.mem_cons_of_mem _)

theorem mem_put_self : (key, value) ∈ fields.put key value := by
  induction fields with
  | nil => exact List.mem_singleton_self _
  | cons head rest ih =>
      rw [Fields.put, assign]
      split
      · exact List.mem_cons_self
      · exact List.mem_cons_of_mem _ ih

theorem mentions_obj {needle : String} :
    Mentions needle (.obj fields) ↔
      ∃ field ∈ fields, needle.toList <:+: field.1.toList ∨ Mentions needle field.2 := by
  constructor
  · rintro ⟨text, mem, part⟩
    rcases mem_stringsOfFields.mp mem with ⟨field, member, rfl | inside⟩
    · exact ⟨field, member, Or.inl part⟩
    · exact ⟨field, member, Or.inr ⟨text, inside, part⟩⟩
  · rintro ⟨field, member, part | ⟨text, inside, part⟩⟩
    · exact ⟨field.1, mem_stringsOfFields.mpr ⟨field, member, Or.inl rfl⟩, part⟩
    · exact ⟨text, mem_stringsOfFields.mpr ⟨field, member, Or.inr inside⟩, part⟩

theorem mentions_str {needle : String} :
    Mentions needle (.str text) ↔ needle.toList <:+: text.toList := by
  simp [Mentions, strings]

end Strings

section Within

/-- Every text of the document is plain, or stands in the source. -/
def Within (plain : String → Prop) (source : List String) (doc : Json) : Prop :=
  ∀ text ∈ doc.strings, plain text ∨ text ∈ source

variable {plain : String → Prop} {source : List String} {fields : Fields}

theorem within_str {text : String} (here : plain text ∨ text ∈ source) :
    Within plain source (.str text) := by
  intro found mem
  rw [strings, List.mem_singleton] at mem
  rw [mem]
  exact here

theorem within_obj
    (each : ∀ field ∈ fields, (plain field.1 ∨ field.1 ∈ source) ∧ Within plain source field.2) :
    Within plain source (.obj fields) := by
  intro text mem
  rcases mem_stringsOfFields.mp mem with ⟨field, member, rfl | inside⟩
  · exact (each field member).1
  · exact (each field member).2 text inside

theorem within_nil : Within plain source (.obj []) := fun _ mem => by cases mem

/-- An object, field by field. -/
theorem within_cons {key : String} {value : Json} (plain_ : plain key)
    (here : Within plain source value) (rest : Within plain source (.obj fields)) :
    Within plain source (.obj ((key, value) :: fields)) := by
  intro text mem
  rcases List.mem_cons.mp mem with rfl | inside
  · exact Or.inl plain_
  · rcases List.mem_append.mp inside with inner | outer
    · exact here text inner
    · exact rest text outer

theorem within_arr {items : List Json} (each : ∀ item ∈ items, Within plain source item) :
    Within plain source (.arr items) := by
  intro text mem
  rcases mem_stringsOfItems.mp mem with ⟨item, member, inside⟩
  exact each item member text inside

theorem within_lookup {key : String} {value : Json} (outer : Within plain source (.obj fields))
    (found : fields.lookup key = some value) : Within plain source value :=
  fun text mem => outer text (strings_of_lookup found mem)

theorem within_get {key : String} {default : Json} (outer : Within plain source (.obj fields))
    (otherwise : Within plain source default) : Within plain source (fields.get key default) := by
  rw [Fields.get]
  cases found : fields.lookup key with
  | none => exact otherwise
  | some value => exact within_lookup outer found

theorem within_self (doc : Json) : Within plain doc.strings doc := fun _ mem => Or.inr mem

/-- A needle that no plain text contains is mentioned in the source, or not at all. -/
theorem Within.mentions {needle : String} {doc : Json} (within : Within plain source doc)
    (foreign : ∀ text, plain text → ¬ needle.toList <:+: text.toList)
    (mentions : Mentions needle doc) : ∃ text ∈ source, needle.toList <:+: text.toList := by
  rcases mentions with ⟨text, mem, part⟩
  rcases within text mem with plain_ | inside
  · exact absurd part (foreign text plain_)
  · exact ⟨text, inside, part⟩

end Within
end Json
end Numu
