import Mathlib.Data.List.Basic
import Mathlib.Data.List.Nodup

/-!
# Lists of keyed entries

Entries are found by a key computed from them and rewritten in their place.
-/

namespace Numu.Keyed

variable {α κ : Type*} (key : α → κ)

/-- No key occurs twice. -/
def Distinct (entries : List α) : Prop :=
  (entries.map key).Nodup

variable [DecidableEq κ]

instance (entries : List α) : Decidable (Distinct key entries) :=
  inferInstanceAs (Decidable (List.Nodup _))

def position? (k : κ) (entries : List α) : Option Nat :=
  entries.findIdx? fun entry => key entry = k

/-- The first entry under a key. -/
def held? (k : κ) (entries : List α) : Option α :=
  entries.find? fun entry => key entry = k

variable {key} {k other : κ} {entries before after : List α} {entry entry' : α}

theorem held?_eq_none : held? key k entries = none ↔ k ∉ entries.map key := by
  simp [held?, List.find?_eq_none]

theorem held?_append : held? key k (before ++ after) =
    (held? key k before).or (held? key k after) :=
  List.find?_append

theorem held?_cons : held? key k (entry :: after) =
    if key entry = k then some entry else held? key k after := by
  rw [held?, List.find?_cons]
  by_cases here : key entry = k <;> simp [here, held?]

/-- A key has no position where no entry is under it. -/
theorem position?_eq_none : position? key k entries = none ↔ held? key k entries = none := by
  simp [position?, held?, List.findIdx?_eq_none_iff, List.find?_eq_none]

/-- The position of a key parts the list at the entry that is found under it. -/
theorem split_of_position? {index : Nat} (found : position? key k entries = some index) :
    ∃ before entry after, entries = before ++ entry :: after ∧ before.length = index ∧
      key entry = k ∧ k ∉ before.map key := by
  induction entries generalizing index with
  | nil => cases found
  | cons first rest ih =>
      rw [position?, List.findIdx?_cons] at found
      by_cases here : key first = k
      · rw [if_pos (decide_eq_true here), Option.some.injEq] at found
        exact ⟨[], first, rest, rfl, found, here, List.not_mem_nil⟩
      · rw [if_neg (by simp [here]), Option.map_eq_some_iff] at found
        obtain ⟨later, found, rfl⟩ := found
        obtain ⟨before, entry, after, rfl, rfl, under, absent⟩ := ih found
        refine ⟨first :: before, entry, after, rfl, rfl, under, ?_⟩
        rw [List.map_cons, List.mem_cons, not_or]
        exact ⟨fun same => here same.symm, absent⟩

/-- What stands first under the key of the entry at the parting is that entry. -/
theorem held?_split (under : key entry = k) (absent : k ∉ before.map key) :
    held? key k (before ++ entry :: after) = some entry := by
  rw [held?_append, held?_eq_none.mpr absent, Option.none_or, held?_cons, if_pos under]

/-- At the position of a key stands the entry that is found under it. -/
theorem getElem?_position? {index : Nat} (found : position? key k entries = some index) :
    entries[index]? = held? key k entries := by
  obtain ⟨before, entry, after, rfl, rfl, under, absent⟩ := split_of_position? found
  rw [held?_split under absent, List.getElem?_append_right (Nat.le_refl _), Nat.sub_self]
  rfl

/-- Rewriting an entry under its key leaves the other keys what they had. -/
theorem held?_modify {index : Nat} (found : position? key k entries = some index) {f : α → α}
    (same : ∀ entry, key (f entry) = key entry) : held? key other (entries.modify index f) =
      if other = k then (held? key k entries).map f else held? key other entries := by
  obtain ⟨before, entry, after, rfl, rfl, under, absent⟩ := split_of_position? found
  have rewritten : (before ++ entry :: after).modify before.length f = before ++ f entry :: after := by
    rw [List.modify_eq_take_cons_drop (by simp), List.take_left', List.drop_append]
    · simp
    · rfl
  have under' : key (f entry) = k := (same entry).trans under
  rw [rewritten]
  by_cases here : other = k
  · rw [if_pos here, here, held?_split under' absent, held?_split under absent, Option.map_some]
  · have elsewhere : ¬k = other := fun equal => here equal.symm
    rw [if_neg here, held?_append, held?_append, held?_cons, held?_cons, under, under',
      if_neg elsewhere, if_neg elsewhere]

/-- Without its entry a key has none, where no key occurs twice. -/
theorem held?_eraseIdx {index : Nat} (found : position? key k entries = some index)
    (distinct : Distinct key entries) : held? key other (entries.eraseIdx index) =
      if other = k then none else held? key other entries := by
  obtain ⟨before, entry, after, rfl, rfl, under, absent⟩ := split_of_position? found
  have erased : (before ++ entry :: after).eraseIdx before.length = before ++ after := by
    rw [List.eraseIdx_append_of_length_le (Nat.le_refl _), Nat.sub_self]
    rfl
  rw [erased]
  by_cases here : other = k
  · have later : k ∉ after.map key := by
      rw [Distinct, List.map_append, List.map_cons, List.nodup_append', List.nodup_cons, under] at distinct
      exact distinct.2.1.1
    rw [if_pos here, here, held?_append, held?_eq_none.mpr absent, Option.none_or]
    exact held?_eq_none.mpr later
  · have elsewhere : ¬k = other := fun equal => here equal.symm
    rw [if_neg here, held?_append, held?_append, held?_cons, under, if_neg elsewhere]

theorem held?_append_new (fresh : held? key (key entry) entries = none) :
    held? key other (entries ++ [entry]) =
      if other = key entry then some entry else held? key other entries := by
  by_cases same : other = key entry
  · rw [if_pos same, same]
    exact held?_split rfl (held?_eq_none.mp fresh)
  · have elsewhere : ¬key entry = other := fun equal => same equal.symm
    rw [if_neg same, held?_append, held?_cons, if_neg elsewhere]
    exact Option.or_none

omit [DecidableEq κ] in
theorem Distinct.modify (distinct : Distinct key entries) (index : Nat) {f : α → α}
    (same : ∀ entry, key (f entry) = key entry) : Distinct key (entries.modify index f) := by
  have keys : (entries.modify index f).map key = entries.map key := by
    apply List.ext_getElem?
    intro i
    rw [List.getElem?_map, List.getElem?_map, List.getElem?_modify]
    cases entries[i]? with
    | none => rfl
    | some entry =>
        rw [Option.map_eq_map, Option.map_some, Option.map_some, Option.map_some]
        split
        · rw [same]
        · rfl
  rw [Distinct, keys]
  exact distinct

omit [DecidableEq κ] in
theorem Distinct.eraseIdx (distinct : Distinct key entries) (index : Nat) :
    Distinct key (entries.eraseIdx index) :=
  distinct.sublist ((List.eraseIdx_sublist entries index).map key)

theorem Distinct.append_new (distinct : Distinct key entries)
    (fresh : held? key (key entry) entries = none) : Distinct key (entries ++ [entry]) := by
  rw [Distinct, List.map_append, List.map_singleton, List.nodup_append']
  refine ⟨distinct, List.nodup_singleton _, ?_⟩
  intro k mem here
  rw [List.mem_singleton.mp here] at mem
  exact held?_eq_none.mp fresh mem

end Numu.Keyed
