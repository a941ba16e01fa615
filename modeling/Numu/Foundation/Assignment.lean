import Mathlib.Logic.Function.Basic
import Numu.Foundation.Table

/-!
# Partial assignments

A partial function assigns values to some of its arguments. It is injective when no value is
assigned twice; the second of two assignments speaks where the first does not.
-/

namespace Numu.Assignment

variable {α β : Type*}

def Injective (f : α → Option β) : Prop :=
  ∀ a b value, f a = some value → f b = some value → a = b

/-- A value that was not assigned may be assigned. -/
theorem Injective.update [DecidableEq α] {f : α → Option β} (injective : Injective f) {value : β}
    (unused : ∀ b, f b ≠ some value) (a : α) : Injective (Function.update f a (some value)) := by
  intro first second assigned here there
  rw [Function.update_apply] at here there
  split at here <;> split at there
  · rename_i left right
    exact left.trans right.symm
  · cases here
    exact absurd there (unused second)
  · cases there
    exact absurd here (unused first)
  · exact injective first second assigned here there

/-- An injective assignment stays so under another exactly if that one is injective and assigns
nothing that is still assigned below it. -/
theorem or_injective_iff {upper lower : α → Option β} (injective : Injective lower) :
    Injective (fun a => (upper a).or (lower a)) ↔
      Injective upper ∧
        ∀ a b value, upper a = none → lower a = some value → upper b ≠ some value := by
  constructor
  · intro both
    refine ⟨fun a b value here there => ?_, fun a b value silent here there => ?_⟩
    · exact both a b value (by simp only [here, Option.some_or]) (by simp only [there, Option.some_or])
    · have same := both a b value (by simp only [silent, Option.none_or, here])
        (by simp only [there, Option.some_or])
      rw [same, there] at silent
      cases silent
  · rintro ⟨above, apart⟩ a b value here there
    dsimp only at here there
    cases up : upper a with
    | some first =>
        rw [up, Option.some_or] at here
        cases here
        cases up' : upper b with
        | some second =>
            rw [up', Option.some_or] at there
            cases there
            exact above a b _ up up'
        | none =>
            rw [up', Option.none_or] at there
            exact absurd up (apart b a _ up' there)
    | none =>
        rw [up, Option.none_or] at here
        cases up' : upper b with
        | some second =>
            rw [up', Option.some_or] at there
            cases there
            exact absurd up' (apart a b _ up here)
        | none =>
            rw [up', Option.none_or] at there
            exact injective a b value here there

section Tables
variable [DecidableEq α]

/-- A dictionary that is filled key by key from a function. -/
theorem get?_ofList_map (f : α → β) (keys : List α) (key : α) :
    (Table.ofList (keys.map fun k => (k, f k))).get? key = if key ∈ keys then some (f key) else none := by
  have fold : ∀ (rest : List α) (table : Table α β),
      ((rest.map fun k => (k, f k)).foldl (fun table pair => table.set pair.1 pair.2) table).get? key =
        if key ∈ rest then some (f key) else table.get? key := by
    intro rest
    induction rest with
    | nil => exact fun table => rfl
    | cons k rest ih =>
        intro table
        rw [List.map_cons, List.foldl_cons, ih, Table.get?_set]
        by_cases later : key ∈ rest
        · rw [if_pos later, if_pos (List.mem_cons_of_mem k later)]
        · rw [if_neg later]
          by_cases here : key = k
          · rw [if_pos here, if_pos (List.mem_cons.mpr (Or.inl here)), here]
          · rw [if_neg here, if_neg (fun mem => (List.mem_cons.mp mem).elim here later)]
  exact fold keys Table.empty

end Tables
end Numu.Assignment
