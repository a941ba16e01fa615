import Mathlib.Data.List.Forall2

/-!
# Row by row

Two lists whose items correspond by their places: what holds of the counts when it holds
of each pair, and the lists that differ at one place.
-/

namespace Numu.Pointwise

variable {α β : Type*} {R : α → β → Prop}

theorem exists_left {before : List α} {after : List β} (rows : List.Forall₂ R before after)
    {index : Nat} {new : β} (found : after[index]? = some new) :
    ∃ old, before[index]? = some old ∧ R old new := by
  induction rows generalizing index with
  | nil => cases found
  | cons first rest ih =>
      cases index with
      | zero =>
          cases found
          exact ⟨_, rfl, first⟩
      | succ index => exact ih found

theorem exists_right {before : List α} {after : List β} (rows : List.Forall₂ R before after)
    {index : Nat} {old : α} (found : before[index]? = some old) :
    ∃ new, after[index]? = some new ∧ R old new := by
  induction rows generalizing index with
  | nil => cases found
  | cons first rest ih =>
      cases index with
      | zero =>
          cases found
          exact ⟨_, rfl, first⟩
      | succ index => exact ih found

/-- Rows that count after a change did so before. -/
theorem countP_le {before : List α} {after : List β} {p : α → Bool} {q : β → Bool}
    (rows : List.Forall₂ R before after) (fewer : ∀ old new, R old new → q new = true → p old = true) :
    after.countP q ≤ before.countP p := by
  induction rows with
  | nil => exact Nat.le_refl _
  | @cons old new before after first rest ih =>
      rw [List.countP_cons, List.countP_cons]
      by_cases counts : q new = true
      · rw [if_pos counts, if_pos (fewer old new first counts)]
        exact Nat.add_le_add_right ih 1
      · rw [if_neg counts]
        exact Nat.le_trans ih (Nat.le_add_right ..)

theorem countP_eq {before : List α} {after : List β} {p : α → Bool} {q : β → Bool}
    (rows : List.Forall₂ R before after) (same : ∀ old new, R old new → q new = p old) :
    after.countP q = before.countP p := by
  induction rows with
  | nil => rfl
  | cons first rest ih => rw [List.countP_cons, List.countP_cons, ih, same _ _ first]

section Modify
variable {items : List α} {index : Nat} {f : α → α} {item : α}

theorem mem_modify (mem : item ∈ items.modify index f) :
    item ∈ items ∨ ∃ old, items[index]? = some old ∧ item = f old := by
  rcases List.mem_iff_getElem?.mp mem with ⟨place, found⟩
  rw [List.getElem?_modify] at found
  rcases Option.map_eq_some_iff.mp found with ⟨old, there, rfl⟩
  split
  · rename_i same
    exact Or.inr ⟨old, same ▸ there, rfl⟩
  · exact Or.inl (List.mem_of_getElem? there)

theorem mem_modify_self (found : items[index]? = some item) : f item ∈ items.modify index f := by
  apply List.mem_of_getElem? (i := index)
  rw [List.getElem?_modify, found]
  exact congrArg some (if_pos rfl)

/-- A relation that every item has to itself, between the lists before and after one is modified. -/
theorem forall₂_modify {R : α → α → Prop} (refl : ∀ item, R item item)
    (changes : ∀ item, items[index]? = some item → R item (f item)) :
    List.Forall₂ R items (items.modify index f) := by
  induction items generalizing index with
  | nil =>
      rw [List.modify_nil]
      exact .nil
  | cons first rest ih =>
      cases index with
      | zero => exact .cons (changes first rfl) (List.forall₂_same.mpr fun other _ => refl other)
      | succ index => exact .cons (refl first) (ih fun item found => changes item found)

/-- What counts of a list that is modified at one place. -/
theorem countP_modify {p : α → Bool} (found : items[index]? = some item) :
    (items.modify index f).countP p + (if p item then 1 else 0) =
      items.countP p + if p (f item) then 1 else 0 := by
  induction items generalizing index with
  | nil => cases found
  | cons first rest ih =>
      cases index with
      | zero =>
          cases found
          rw [List.modify_zero_cons, List.countP_cons, List.countP_cons]
          exact Nat.add_right_comm ..
      | succ index =>
          have counted := ih found
          rw [List.modify_succ_cons, List.countP_cons, List.countP_cons]
          omega

end Modify

theorem forall₂_mapIdx {R : α → α → Prop} {items : List α} {f : Nat → α → α}
    (changes : ∀ index item, items[index]? = some item → R item (f index item)) :
    List.Forall₂ R items (items.mapIdx f) := by
  induction items generalizing f with
  | nil =>
      rw [List.mapIdx_nil]
      exact .nil
  | cons first rest ih =>
      rw [List.mapIdx_cons]
      exact .cons (changes 0 first rfl) (ih fun index item found => changes (index + 1) item found)

end Numu.Pointwise
