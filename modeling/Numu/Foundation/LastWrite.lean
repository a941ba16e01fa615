import Mathlib.Data.List.Induction
import Numu.Foundation.Json

/-!
# What a loop of assignments leaves

A loop that assigns to the entries of a dictionary leaves under a key what its last round that
wrote to the key wrote there.
-/

namespace Numu.Json

variable {α β : Type*}

theorem lookup_cons_eq_if (entry : String × α) (rest : List (String × α)) (key : String) :
    (entry :: rest).lookup key = if key = entry.1 then some entry.2 else rest.lookup key := by
  rw [List.lookup_cons]
  by_cases same : key = entry.1
  · rw [if_pos same, beq_iff_eq.mpr same]
  · rw [if_neg same, beq_eq_false_iff_ne.mpr same]

theorem lookup_assign (entries : List (String × α)) (key key' : String) (value : α) :
    (assign entries key value).lookup key' =
      if key' = key then some value else entries.lookup key' := by
  induction entries with
  | nil => exact lookup_cons_eq_if _ _ _
  | cons entry rest ih =>
      rw [assign]
      by_cases found : entry.1 = key
      · rw [if_pos found, lookup_cons_eq_if, lookup_cons_eq_if, found]
        by_cases same : key' = key
        · rw [if_pos same, if_pos same]
        · simp only [if_neg same]
      · rw [if_neg found, lookup_cons_eq_if, lookup_cons_eq_if, ih]
        by_cases same : key' = key
        · rw [if_neg (same ▸ Ne.symm found), if_pos same, if_pos same]
        · rw [if_neg same, if_neg same]

theorem Fields.lookup_put (fields : Fields) (key key' : String) (value : Json) :
    (fields.put key value).lookup key' = if key' = key then some value else fields.lookup key' :=
  lookup_assign fields key key' value

/-- Writing what is there changes nothing. -/
theorem assign_self {entries : List (String × α)} {key : String} {value : α}
    (found : entries.lookup key = some value) : assign entries key value = entries := by
  induction entries with
  | nil => cases found
  | cons entry rest ih =>
      rw [lookup_cons_eq_if] at found
      rw [assign]
      by_cases own : key = entry.1
      · rw [if_pos own] at found
        cases found
        rw [if_pos own.symm, own]
      · rw [if_neg own] at found
        rw [if_neg (Ne.symm own), ih found]

/-- A new key goes to the end. -/
theorem assign_of_fresh {entries : List (String × α)} {key : String}
    (fresh : ∀ entry ∈ entries, entry.1 ≠ key) (value : α) :
    assign entries key value = entries ++ [(key, value)] := by
  induction entries with
  | nil => rfl
  | cons entry rest ih =>
      rw [assign, if_neg (fresh entry List.mem_cons_self),
        ih fun other member => fresh other (List.mem_cons_of_mem _ member)]
      rfl

/-- What is picked out of a dictionary under a list of keys. -/
theorem lookup_picked (entries : List (String × α)) (keys : List String) (key : String) :
    (keys.filterMap fun key => (entries.lookup key).map fun value => (key, value)).lookup key =
      if key ∈ keys then entries.lookup key else none := by
  induction keys with
  | nil => rfl
  | cons head rest ih =>
      rw [List.filterMap_cons]
      by_cases same : key = head
      · subst same
        rw [if_pos List.mem_cons_self]
        cases found : entries.lookup key with
        | some value => exact (lookup_cons_eq_if _ _ _).trans (if_pos rfl)
        | none =>
            have nothing := ih
            rw [found, ite_self] at nothing
            exact nothing
      · have member : key ∈ head :: rest ↔ key ∈ rest := by simp [same]
        rw [if_congr member rfl rfl, ← ih]
        cases entries.lookup head with
        | some value => exact (lookup_cons_eq_if _ _ _).trans (if_neg same)
        | none => rfl

theorem keys_picked (entries : List (String × α)) (keys : List String) :
    (keys.filterMap fun key => (entries.lookup key).map fun value => (key, value)).map Prod.fst =
      keys.filter fun key => (entries.lookup key).isSome := by
  induction keys with
  | nil => rfl
  | cons head rest ih =>
      rw [List.filterMap_cons, List.filter_cons]
      cases entries.lookup head with
      | some value => simp [ih]
      | none => simp [ih]

section Loops
variable {f : List (String × α) → β → List (String × α)} {key : String} {p : β → Bool} {g : β → α}

/-- The last item that the loop writes to the key for decides what is there. -/
theorem lookup_foldl_last
    (write : ∀ entries item, p item = true → (f entries item).lookup key = some (g item))
    (keep : ∀ entries item, p item = false → (f entries item).lookup key = entries.lookup key)
    (entries : List (String × α)) (items : List β) :
    (items.foldl f entries).lookup key =
      ((items.reverse.find? p).map g).or (entries.lookup key) := by
  induction items using List.reverseRecOn with
  | nil => rfl
  | append_singleton items item ih =>
      rw [List.foldl_append, List.foldl_cons, List.foldl_nil, List.reverse_append,
        List.reverse_singleton, List.singleton_append, List.find?_cons]
      cases hit : p item with
      | true => exact write _ item hit
      | false => rw [keep _ item hit, ih]

theorem lookup_foldl_keep
    (keep : ∀ entries item, (f entries item).lookup key = entries.lookup key)
    (entries : List (String × α)) (items : List β) :
    (items.foldl f entries).lookup key = entries.lookup key := by
  induction items generalizing entries with
  | nil => rfl
  | cons item rest ih => rw [List.foldl_cons, ih, keep]

/-- Where keys come once, the last entry under a key is the first. -/
theorem find?_reverse_of_nodup {entries : List (String × α)}
    (distinct : (entries.map Prod.fst).Nodup) (key : String) :
    (entries.reverse.find? fun entry => entry.1 = key).map Prod.snd = entries.lookup key := by
  induction entries with
  | nil => rfl
  | cons entry rest ih =>
      rw [List.map_cons, List.nodup_cons] at distinct
      rw [List.reverse_cons, List.find?_append, lookup_cons_eq_if]
      by_cases same : key = entry.1
      · have fresh : rest.reverse.find? (fun other => other.1 = key) = none := by
          rw [List.find?_eq_none]
          intro other member found
          rw [decide_eq_true_eq] at found
          rw [List.mem_reverse] at member
          exact distinct.1 (List.mem_map.mpr ⟨other, member, found.trans same⟩)
        rw [fresh]
        simp [same]
      · rw [if_neg same, ← ih distinct.2]
        simp [Ne.symm same]

end Loops

end Numu.Json
