import Mathlib.Algebra.BigOperators.Group.Finset.Basic
import Mathlib.Data.List.Induction
import Numu.Foundation.Table

/-!
# Rows grouped by a key

What a loop of `index.setdefault(key(row), []).append(row)` builds.
-/

namespace Numu.Index

variable {κ ρ : Type*} [DecidableEq κ]

def push (table : Table κ (List ρ)) (key : κ) (row : ρ) : Table κ (List ρ) :=
  table.set key ((table.get? key).getD [] ++ [row])

/-- Rows without a key are left out. -/
def index (key : ρ → Option κ) (rows : List ρ) : Table κ (List ρ) :=
  rows.foldl (fun table row =>
    match key row with
    | none => table
    | some k => push table k row) .empty

/-- The rows under a key; an absent key has none. -/
def rowsAt (table : Table κ (List ρ)) (key : κ) : List ρ :=
  (table.get? key).getD []

theorem rowsAt_push (table : Table κ (List ρ)) (key other : κ) (row : ρ) :
    rowsAt (push table key row) other =
      rowsAt table other ++ if key = other then [row] else [] := by
  rw [rowsAt, push, Table.get?_set]
  by_cases same : other = key
  · rw [if_pos same, if_pos same.symm, same]
    rfl
  · rw [if_neg same, if_neg (Ne.symm same), List.append_nil]
    rfl

/-- A key holds its rows in their order. -/
theorem rowsAt_index (key : ρ → Option κ) (rows : List ρ) (k : κ) :
    rowsAt (index key rows) k = rows.filter fun row => key row = some k := by
  induction rows using List.reverseRecOn with
  | nil => rfl
  | append_singleton front row ih =>
      rw [index, List.foldl_append, List.filter_append, ← ih, ← index]
      simp only [List.foldl_cons, List.foldl_nil]
      rcases placed : key row with _ | k'
      · simp [placed]
      · by_cases same : k' = k
        · simp [rowsAt_push, placed, same]
        · simp [rowsAt_push, placed, same]

end Numu.Index

/-! Sums over rows and their keys, and rows of a table that pair off. -/

namespace Numu.Table
variable {κ ρ M : Type*} [DecidableEq κ] [AddCommMonoid M]

/-- The sum of a value of each row and its key. -/
def sumBy (table : Table κ ρ) (value : κ → ρ → M) : M :=
  (table.rows.map fun row => value row.1 row.2).sum

omit [DecidableEq κ] in
theorem sumBy_add (table : Table κ ρ) (first second : κ → ρ → M) :
    (table.sumBy fun key row => first key row + second key row) =
      table.sumBy first + table.sumBy second := by
  simp only [sumBy]
  induction table.rows with
  | nil => simp
  | cons row rest ih =>
      simp only [List.map_cons, List.sum_cons, ih]
      exact add_add_add_comm _ _ _ _

theorem sumBy_congr (table : Table κ ρ) {first second : κ → ρ → M}
    (same : ∀ key row, table.get? key = some row → first key row = second key row) :
    table.sumBy first = table.sumBy second := by
  rw [sumBy, sumBy]
  apply congrArg
  apply List.map_congr_left
  intro row mem
  exact same row.1 row.2 ((table.get?_eq_some_iff _ _).mpr mem)

def keys (table : Table κ ρ) : Finset κ := (table.rows.map Prod.fst).toFinset

theorem mem_keys {table : Table κ ρ} {key : κ} :
    key ∈ table.keys ↔ ∃ row, table.get? key = some row := by
  rw [keys, List.mem_toFinset, ← Option.isSome_iff_exists, isSome_get?_iff]

theorem sumBy_eq_sum (table : Table κ ρ) (value : κ → ρ → M) :
    table.sumBy value = ∑ key ∈ table.keys, (table.get? key).elim 0 (value key) := by
  rw [keys, List.sum_toFinset _ table.nodup, sumBy, List.map_map]
  apply congrArg
  apply List.map_congr_left
  intro row mem
  rw [Function.comp, (table.get?_eq_some_iff row.1 row.2).mpr mem, Option.elim]

/-- Two columns have one sum if each row with a value in the one has a partner with that value in
the other. -/
theorem sumBy_paired (table : Table κ ρ) {first second : κ → ρ → M} (there back : κ → κ)
    (forth : ∀ key row, table.get? key = some row → first key row ≠ 0 → ∃ row',
      table.get? (there key) = some row' ∧ second (there key) row' = first key row ∧
        back (there key) = key)
    (return_ : ∀ key row, table.get? key = some row → second key row ≠ 0 → ∃ row',
      table.get? (back key) = some row' ∧ first (back key) row' ≠ 0 ∧ there (back key) = key) :
    table.sumBy first = table.sumBy second := by
  rw [sumBy_eq_sum, sumBy_eq_sum]
  apply Finset.sum_bij_ne_zero fun key _ _ => there key
  · intro key mem some_
    rcases mem_keys.mp mem with ⟨row, present⟩
    rw [present] at some_
    rcases forth key row present some_ with ⟨row', present', -⟩
    exact mem_keys.mpr ⟨row', present'⟩
  · intro key mem some_ other mem' some' same
    rcases mem_keys.mp mem with ⟨row, present⟩
    rcases mem_keys.mp mem' with ⟨row', present'⟩
    rw [present] at some_
    rw [present'] at some'
    rcases forth key row present some_ with ⟨-, -, -, inverse⟩
    rcases forth other row' present' some' with ⟨-, -, -, inverse'⟩
    rw [← inverse, ← inverse', same]
  · intro key mem some_
    rcases mem_keys.mp mem with ⟨row, present⟩
    rw [present] at some_
    rcases return_ key row present some_ with ⟨row', present', some', inverse⟩
    refine ⟨back key, mem_keys.mpr ⟨row', present'⟩, ?_, inverse⟩
    rw [present']
    exact some'
  · intro key mem some_
    rcases mem_keys.mp mem with ⟨row, present⟩
    rw [present] at some_ ⊢
    rcases forth key row present some_ with ⟨row', present', same, -⟩
    rw [present']
    exact same.symm

end Numu.Table
