import Mathlib.Algebra.BigOperators.Group.List.Basic
import Mathlib.Algebra.GroupWithZero.Nat
import Mathlib.Data.List.Nodup
import Mathlib.Data.List.Perm.Basic

/-!
# Tables with a primary key

Rows are stored in the order they were inserted and no key occurs twice.
-/

namespace Numu

structure Table (κ ρ : Type*) where
  rows : List (κ × ρ)
  nodup : (rows.map Prod.fst).Nodup

namespace Table
variable {κ ρ : Type*}

@[ext] theorem ext {left right : Table κ ρ} (same : left.rows = right.rows) : left = right := by
  cases left
  cases right
  simpa using same

instance [DecidableEq κ] [DecidableEq ρ] : DecidableEq (Table κ ρ) :=
  fun left right => decidable_of_iff (left.rows = right.rows) ⟨ext, congrArg rows⟩

def empty : Table κ ρ := ⟨[], List.nodup_nil⟩

variable [DecidableEq κ]

def get? (table : Table κ ρ) (key : κ) : Option ρ :=
  table.rows.lookup key

def modifyRows (key : κ) (f : ρ → ρ) (rows : List (κ × ρ)) : List (κ × ρ) :=
  rows.map fun row => if row.1 = key then (row.1, f row.2) else row

theorem modifyRows_keys (key : κ) (f : ρ → ρ) (rows : List (κ × ρ)) :
    (modifyRows key f rows).map Prod.fst = rows.map Prod.fst := by
  induction rows with
  | nil => rfl
  | cons row rows ih =>
      rw [modifyRows, List.map_cons, List.map_cons, List.map_cons, ← modifyRows, ih]
      split <;> rfl

def modify (table : Table κ ρ) (key : κ) (f : ρ → ρ) : Table κ ρ where
  rows := modifyRows key f table.rows
  nodup := by rw [modifyRows_keys]; exact table.nodup

def insert (table : Table κ ρ) (key : κ) (row : ρ) (fresh : key ∉ table.rows.map Prod.fst) :
    Table κ ρ where
  rows := table.rows ++ [(key, row)]
  nodup := by
    rw [List.map_append, List.nodup_append']
    refine ⟨table.nodup, List.nodup_singleton _, ?_⟩
    intro k hk hnew
    rw [List.map_singleton, List.mem_singleton] at hnew
    subst hnew
    exact fresh hk

/-- Python's `d[key] = value`: an old key keeps its place, a new one goes last. -/
def set (table : Table κ ρ) (key : κ) (row : ρ) : Table κ ρ :=
  if fresh : key ∉ table.rows.map Prod.fst then table.insert key row fresh
  else table.modify key fun _ => row

def ofList (pairs : List (κ × ρ)) : Table κ ρ :=
  pairs.foldl (fun table pair => table.set pair.1 pair.2) empty

/-- Equality of dictionaries, which ignores the order of the keys. -/
def sameEntries [DecidableEq ρ] (left right : Table κ ρ) : Bool :=
  left.rows.all (fun row => right.get? row.1 = some row.2) &&
    right.rows.all (fun row => left.get? row.1 = some row.2)

theorem get?_eq_some_iff (table : Table κ ρ) (key : κ) (row : ρ) :
    table.get? key = some row ↔ (key, row) ∈ table.rows := by
  obtain ⟨rows, nodup⟩ := table
  simp only [get?]
  induction rows with
  | nil => simp
  | cons head rows ih =>
      obtain ⟨k, r⟩ := head
      simp only [List.map_cons, List.nodup_cons] at nodup
      rw [List.lookup_cons, List.mem_cons]
      by_cases hk : key = k
      · subst hk
        have absent : (key, row) ∉ rows := fun member =>
          nodup.1 (List.mem_map_of_mem (f := Prod.fst) member)
        simp [absent, eq_comm]
      · have : (key == k) = false := by simp [hk]
        simp [this, ih nodup.2, hk]

theorem lookup_map {β : Type*} (view : κ → ρ → β) (key : κ) (rows : List (κ × ρ)) :
    (rows.map fun row => (row.1, view row.1 row.2)).lookup key =
      (rows.lookup key).map (view key) := by
  induction rows with
  | nil => rfl
  | cons row rows ih =>
      rw [List.map_cons, List.lookup_cons, List.lookup_cons, ih]
      rcases same : key == row.1
      · rfl
      · rw [eq_of_beq same]
        rfl

theorem isSome_get?_iff (table : Table κ ρ) (key : κ) :
    (table.get? key).isSome = true ↔ key ∈ table.rows.map Prod.fst := by
  rw [Option.isSome_iff_exists, List.mem_map]
  constructor
  · rintro ⟨row, found⟩
    exact ⟨(key, row), (get?_eq_some_iff _ _ _).mp found, rfl⟩
  · rintro ⟨⟨_, row⟩, member, rfl⟩
    exact ⟨row, (get?_eq_some_iff _ _ _).mpr member⟩

theorem modify_rows (table : Table κ ρ) (key : κ) (f : ρ → ρ) :
    (table.modify key f).rows = modifyRows key f table.rows := rfl

theorem lookup_modifyRows (key other : κ) (f : ρ → ρ) (rows : List (κ × ρ)) :
    (modifyRows key f rows).lookup other =
      if other = key then (rows.lookup other).map f else rows.lookup other := by
  induction rows with
  | nil => simp [modifyRows]
  | cons row rows ih =>
      obtain ⟨k, r⟩ := row
      have unfolded : modifyRows key f ((k, r) :: rows) =
          (if k = key then (k, f r) else (k, r)) :: modifyRows key f rows := rfl
      rw [unfolded]
      by_cases same : other = k
      · subst same
        by_cases target : other = key <;> simp [target]
      · have miss : (other == k) = false := by simp [same]
        by_cases target : k = key
        · simp [target, List.lookup_cons, ih, target ▸ miss]
        · simp [target, List.lookup_cons, ih, miss]

@[simp] theorem get?_modify_self (table : Table κ ρ) (key : κ) (f : ρ → ρ) :
    (table.modify key f).get? key = (table.get? key).map f := by
  simp [get?, modify_rows, lookup_modifyRows]

theorem get?_modify_of_ne (table : Table κ ρ) {key other : κ} (f : ρ → ρ) (h : other ≠ key) :
    (table.modify key f).get? other = table.get? other := by
  simp [get?, modify_rows, lookup_modifyRows, h]

theorem modify_modify (table : Table κ ρ) (key : κ) (f g : ρ → ρ) :
    (table.modify key f).modify key g = table.modify key (g ∘ f) := by
  apply ext
  simp only [modify_rows, modifyRows, List.map_map]
  apply List.map_congr_left
  intro row _
  by_cases h : row.1 = key <;> simp [h]

/-- Selecting rows by a property that the write does not touch. -/
theorem filter_modifyRows (key : κ) (f : ρ → ρ) (p : ρ → Bool) (stable : ∀ row, p (f row) = p row)
    (rows : List (κ × ρ)) :
    (modifyRows key f rows).filter (fun row => p row.2) =
      modifyRows key f (rows.filter fun row => p row.2) := by
  induction rows with
  | nil => rfl
  | cons row rows ih =>
      simp only [modifyRows, List.map_cons, List.filter_cons] at ih ⊢
      by_cases hit : row.1 = key <;> by_cases kept : p row.2 = true <;>
        simp [hit, kept, stable, ih]

/-- A view that the write does not change is the same for the whole table. -/
theorem map_modify {β : Type*} (table : Table κ ρ) (key : κ) (f : ρ → ρ) (view : κ × ρ → β)
    (fixed : ∀ row, table.get? key = some row → view (key, f row) = view (key, row)) :
    (table.modify key f).rows.map view = table.rows.map view := by
  rw [modify_rows, modifyRows, List.map_map]
  apply List.map_congr_left
  intro row member
  simp only [Function.comp_apply]
  by_cases h : row.1 = key
  · have present : table.get? key = some row.2 := by
      rw [get?_eq_some_iff, ← h]
      exact member
    rw [if_pos h, h, fixed row.2 present, ← h]
  · rw [if_neg h]

theorem modify_eq_self (table : Table κ ρ) (key : κ) (f : ρ → ρ)
    (fixed : ∀ row, table.get? key = some row → f row = row) : table.modify key f = table := by
  apply ext
  have same := table.map_modify key f id fun row present => by rw [fixed row present]
  simpa using same

theorem get?_insert (table : Table κ ρ) (key : κ) (row : ρ)
    (fresh : key ∉ table.rows.map Prod.fst) (other : κ) :
    (table.insert key row fresh).get? other =
      if other = key then some row else table.get? other := by
  have absent : table.get? key = none := by
    cases found : table.get? key with
    | none => rfl
    | some old =>
        have member := (table.get?_eq_some_iff key old).mp found
        exact absurd (List.mem_map_of_mem (f := Prod.fst) member) fresh
  unfold get? at absent ⊢
  simp only [insert, List.lookup_append]
  by_cases same : other = key
  · simp [same, absent]
  · have miss : (other == key) = false := by simp [same]
    simp [same, List.lookup_cons, miss]

theorem get?_set (table : Table κ ρ) (key : κ) (row : ρ) (other : κ) :
    (table.set key row).get? other = if other = key then some row else table.get? other := by
  unfold set
  split
  · exact get?_insert table key row _ other
  · rename_i present
    rw [not_not, List.mem_map] at present
    rcases present with ⟨⟨k, old⟩, member, rfl⟩
    have found : table.get? k = some old := (table.get?_eq_some_iff k old).mpr member
    by_cases same : other = k
    · subst same
      simp [found]
    · rw [get?_modify_of_ne _ _ same, if_neg same]

/-- A row under a new key goes last. -/
theorem set_rows_of_absent (table : Table κ ρ) {key : κ} (absent : table.get? key = none)
    (row : ρ) : (table.set key row).rows = table.rows ++ [(key, row)] := by
  have fresh : key ∉ table.rows.map Prod.fst := by
    intro member
    rcases List.mem_map.mp member with ⟨⟨k, old⟩, present, rfl⟩
    rw [(table.get?_eq_some_iff k old).mpr present] at absent
    cases absent
  rw [set, dif_pos fresh]
  rfl

/-- A write drops no row. -/
theorem isSome_get?_set (table : Table κ ρ) (key : κ) (row : ρ) {other : κ}
    (present : (table.get? other).isSome) : ((table.set key row).get? other).isSome := by
  rw [get?_set]
  split
  · rfl
  · exact present

/-- A row whose value differs from all others keeps the column distinct. -/
theorem set_injective {β : Type*} {table : Table κ ρ} {column : ρ → β}
    (distinct : ∀ first second row row', table.get? first = some row →
      table.get? second = some row' → column row = column row' → first = second)
    {key : κ} {new : ρ}
    (alone : ∀ other row, table.get? other = some row → column row ≠ column new) :
    ∀ first second row row', (table.set key new).get? first = some row →
      (table.set key new).get? second = some row' → column row = column row' →
        first = second := by
  intro first second row row' found found' same
  rw [get?_set] at found found'
  split at found <;> split at found'
  · rename_i left right
    rw [left, right]
  · cases found
    exact absurd same.symm (alone second row' found')
  · cases found'
    exact absurd same (alone first row found)
  · exact distinct first second row row' found found' same

@[simp] theorem get?_empty (key : κ) : (empty : Table κ ρ).get? key = none := rfl

/-- The entries of a dictionary built from pairs are among these. -/
theorem mem_of_get?_ofList {pairs : List (κ × ρ)} {key : κ} {row : ρ}
    (present : (ofList pairs).get? key = some row) : (key, row) ∈ pairs := by
  have fold : ∀ (rest : List (κ × ρ)) (table : Table κ ρ),
      (∀ key row, table.get? key = some row → (key, row) ∈ pairs) → (∀ pair ∈ rest, pair ∈ pairs) →
        ∀ key row, (rest.foldl (fun table pair => table.set pair.1 pair.2) table).get? key = some row →
          (key, row) ∈ pairs := by
    intro rest
    induction rest with
    | nil => exact fun _ held _ => held
    | cons pair rest ih =>
        intro table held within
        apply ih
        · intro key row found
          rw [get?_set] at found
          split at found
          · rename_i same
            cases found
            rw [same]
            exact within pair List.mem_cons_self
          · exact held key row found
        · exact fun other mem => within other (List.mem_cons_of_mem _ mem)
  exact fold pairs empty (fun _ _ found => by cases found) (fun _ mem => mem) key row present

/-- Pairs with distinct keys become the rows as they are. -/
theorem rows_ofList {pairs : List (κ × ρ)} (distinct : (pairs.map Prod.fst).Nodup) :
    (ofList pairs).rows = pairs := by
  have fold : ∀ (rest : List (κ × ρ)) (table : Table κ ρ),
      ((table.rows ++ rest).map Prod.fst).Nodup →
        (rest.foldl (fun table pair => table.set pair.1 pair.2) table).rows = table.rows ++ rest := by
    intro rest
    induction rest with
    | nil => exact fun table _ => (List.append_nil _).symm
    | cons pair rest ih =>
        intro table distinct
        have fresh : pair.1 ∉ table.rows.map Prod.fst := by
          rw [List.map_append, List.map_cons, List.nodup_append'] at distinct
          exact fun mem => distinct.2.2 mem List.mem_cons_self
        have placed : (table.set pair.1 pair.2).rows = table.rows ++ [pair] := by
          rw [set, dif_pos fresh]
          rfl
        have appended : table.rows ++ pair :: rest = table.rows ++ [pair] ++ rest := by simp
        rw [appended] at distinct ⊢
        rw [← placed] at distinct ⊢
        exact ih _ distinct
  exact fold pairs empty distinct

/-- A statement that updates every row. -/
def updateAll (table : Table κ ρ) (f : ρ → ρ) : Table κ ρ where
  rows := table.rows.map fun row => (row.1, f row.2)
  nodup := by
    rw [List.map_map]
    exact table.nodup

theorem get?_updateAll (table : Table κ ρ) (f : ρ → ρ) (key : κ) :
    (table.updateAll f).get? key = (table.get? key).map f := by
  obtain ⟨rows, nodup⟩ := table
  simp only [get?, updateAll]
  clear nodup
  induction rows with
  | nil => rfl
  | cons row rest ih =>
      obtain ⟨k, r⟩ := row
      simp only [List.map_cons, List.lookup_cons]
      by_cases hit : key = k
      · simp [hit]
      · have miss : (key == k) = false := by simp [hit]
        simp only [miss]
        exact ih

/-- The sum of a column. -/
def total (table : Table κ ρ) (value : ρ → Nat) : Nat :=
  (table.rows.map fun row => value row.2).sum

omit [DecidableEq κ] in
theorem total_insert (table : Table κ ρ) (key : κ) (row : ρ)
    (fresh : key ∉ table.rows.map Prod.fst) (value : ρ → Nat) :
    (table.insert key row fresh).total value = table.total value + value row := by
  simp [total, insert]

theorem le_total (table : Table κ ρ) {key : κ} {row : ρ} (present : table.get? key = some row)
    (value : ρ → Nat) : value row ≤ table.total value := by
  have member := (table.get?_eq_some_iff key row).mp present
  unfold total
  generalize table.rows = rows at member ⊢
  induction rows with
  | nil => cases member
  | cons head rest ih =>
      rw [List.map_cons, List.sum_cons]
      rcases List.mem_cons.mp member with here | later
      · subst here
        exact Nat.le_add_right _ _
      · have bound := ih later
        omega

theorem total_modify (table : Table κ ρ) {key : κ} {row : ρ} (f : ρ → ρ)
    (present : table.get? key = some row) (value : ρ → Nat) :
    (table.modify key f).total value + value row = table.total value + value (f row) := by
  obtain ⟨rows, nodup⟩ := table
  simp only [total, modify]
  simp only [get?] at present
  induction rows with
  | nil => cases present
  | cons head rest ih =>
      obtain ⟨k, r⟩ := head
      simp only [List.map_cons, List.nodup_cons] at nodup
      simp only [modifyRows, List.map_cons, List.sum_cons] at ih ⊢
      by_cases hit : k = key
      · subst hit
        have kept : rest.map (fun row => if row.1 = k then (row.1, f row.2) else row) = rest := by
          refine (List.map_congr_left fun row member => ?_).trans (List.map_id rest)
          have other : row.1 ≠ k := fun same =>
            nodup.1 (same ▸ List.mem_map_of_mem (f := Prod.fst) member)
          simp [other]
        have here : r = row := by simpa using present
        rw [kept, here]
        simp
        omega
      · have miss : (key == k) = false := by simp [Ne.symm hit]
        rw [List.lookup_cons, miss] at present
        have later := ih nodup.2 present
        simp only [hit, if_false]
        omega

omit [DecidableEq κ] in
theorem total_updateAll (table : Table κ ρ) (f : ρ → ρ) {value : ρ → Nat}
    (fixed : ∀ row, value (f row) = value row) :
    (table.updateAll f).total value = table.total value := by
  simp only [total, updateAll, List.map_map]
  congr 1
  apply List.map_congr_left
  intro row _
  exact fixed row.2

omit [DecidableEq κ] in
theorem total_mono (table : Table κ ρ) {first second : ρ → Nat}
    (below : ∀ row, first row ≤ second row) : table.total first ≤ table.total second := by
  unfold total
  induction table.rows with
  | nil => simp
  | cons head rest ih =>
      have here := below head.2
      simp only [List.map_cons, List.sum_cons]
      omega

def erase (table : Table κ ρ) (key : κ) : Table κ ρ where
  rows := table.rows.filter fun row => row.1 ≠ key
  nodup := table.nodup.sublist (List.filter_sublist.map Prod.fst)

theorem get?_erase_of_ne (table : Table κ ρ) {key other : κ} (different : other ≠ key) :
    (table.erase key).get? other = table.get? other := by
  cases found : table.get? other with
  | some row =>
      rw [get?_eq_some_iff] at found ⊢
      exact List.mem_filter.mpr ⟨found, by simpa using different⟩
  | none =>
      rw [Option.eq_none_iff_forall_ne_some] at found ⊢
      intro row present
      rw [get?_eq_some_iff] at present
      exact found row ((table.get?_eq_some_iff _ _).mpr (List.mem_filter.mp present).1)

section
variable {M : Type*} [AddCommMonoid M]

/-- The sum of a column whose values may be negative. -/
def sumOf (table : Table κ ρ) (value : ρ → M) : M :=
  (table.rows.map fun row => value row.2).sum

omit [DecidableEq κ] in
theorem sumOf_insert (table : Table κ ρ) (key : κ) (row : ρ)
    (fresh : key ∉ table.rows.map Prod.fst) (value : ρ → M) :
    (table.insert key row fresh).sumOf value = table.sumOf value + value row := by
  simp [sumOf, insert]

omit [DecidableEq κ] in
/-- The sum over some of the rows, as one over all of them. -/
theorem sum_filter (table : Table κ ρ) (selects : ρ → Bool) (value : ρ → M) :
    ((table.rows.filter fun row => selects row.2).map fun row => value row.2).sum =
      table.sumOf fun row => if selects row then value row else 0 := by
  rw [sumOf]
  induction table.rows with
  | nil => rfl
  | cons row rest ih =>
      rw [List.filter_cons, List.map_cons, List.sum_cons, ← ih]
      split
      · rw [List.map_cons, List.sum_cons]
      · rw [zero_add]

theorem filter_absent {key : κ} {rows : List (κ × ρ)} (absent : key ∉ rows.map Prod.fst) :
    rows.filter (fun row => row.1 ≠ key) = rows := by
  rw [List.filter_eq_self]
  intro row member
  have other : row.1 ≠ key := fun same =>
    absent (same ▸ List.mem_map_of_mem (f := Prod.fst) member)
  simpa using other

theorem sum_overwrite {key : κ} {rows : List (κ × ρ)} (nodup : (rows.map Prod.fst).Nodup)
    (present : key ∈ rows.map Prod.fst) (row : ρ) (value : ρ → M) :
    ((modifyRows key (fun _ => row) rows).map fun entry => value entry.2).sum =
      ((rows.filter fun entry => entry.1 ≠ key).map fun entry => value entry.2).sum +
        value row := by
  induction rows with
  | nil => cases present
  | cons head rest ih =>
      obtain ⟨k, old⟩ := head
      simp only [List.map_cons, List.nodup_cons] at nodup
      by_cases hit : k = key
      · subst hit
        have untouched : modifyRows k (fun _ => row) rest = rest := by
          refine (List.map_congr_left fun entry member => ?_).trans (List.map_id rest)
          have other : entry.1 ≠ k := fun same =>
            nodup.1 (same ▸ List.mem_map_of_mem (f := Prod.fst) member)
          simp [other]
        have unfolded : modifyRows k (fun _ => row) ((k, old) :: rest) =
            (k, row) :: modifyRows k (fun _ => row) rest := by
          simp [modifyRows]
        rw [unfolded, untouched, List.filter_cons_of_neg (by simp), filter_absent nodup.1]
        exact add_comm _ _
      · have later : key ∈ rest.map Prod.fst := by
          rcases List.mem_cons.mp present with here | later
          · exact absurd here.symm hit
          · exact later
        have unfolded : modifyRows key (fun _ => row) ((k, old) :: rest) =
            (k, old) :: modifyRows key (fun _ => row) rest := by
          simp [modifyRows, hit]
        rw [unfolded, List.filter_cons_of_pos (by simpa using hit)]
        simp only [List.map_cons, List.sum_cons, ih nodup.2 later]
        exact (add_assoc _ _ _).symm

/-- Writing a row adds its value to what the other rows sum up to. -/
theorem sumOf_set (table : Table κ ρ) (key : κ) (row : ρ) (value : ρ → M) :
    (table.set key row).sumOf value = (table.erase key).sumOf value + value row := by
  unfold set
  split
  · rename_i fresh
    rw [sumOf_insert]
    simp only [sumOf, erase, filter_absent fresh]
  · rename_i present
    exact sum_overwrite table.nodup (not_not.mp present) row value

/-- A column sums up to what it does without a row and that row's value. -/
theorem sumOf_erase (table : Table κ ρ) {key : κ} {row : ρ} (present : table.get? key = some row)
    (value : ρ → M) : table.sumOf value = (table.erase key).sumOf value + value row := by
  have taken : ¬ key ∉ table.rows.map Prod.fst := by
    rw [not_not]
    exact List.mem_map_of_mem (f := Prod.fst) ((table.get?_eq_some_iff key row).mp present)
  have same : table.set key row = table := by
    rw [set, dif_neg taken]
    apply modify_eq_self
    intro old found
    rw [present] at found
    exact Option.some.inj found
  rw [← sumOf_set, same]

/-- Modifying a row is writing its new value. -/
theorem modify_eq_set (table : Table κ ρ) {key : κ} {row : ρ} (present : table.get? key = some row)
    (f : ρ → ρ) : table.modify key f = table.set key (f row) := by
  have listed := (table.get?_eq_some_iff key row).mp present
  have taken : ¬ key ∉ table.rows.map Prod.fst :=
    not_not.mpr (List.mem_map_of_mem (f := Prod.fst) listed)
  rw [set, dif_neg taken]
  apply ext
  apply List.map_congr_left
  intro entry member
  by_cases here : entry.1 = key
  · have same : entry.2 = row := by
      have found := (table.get?_eq_some_iff entry.1 entry.2).mpr member
      rw [here, present] at found
      exact (Option.some.inj found).symm
    rw [if_pos here, if_pos here, same]
  · rw [if_neg here, if_neg here]

/-- A row under a new key adds its value. -/
theorem sumOf_set_of_absent (table : Table κ ρ) {key : κ} (absent : table.get? key = none) (row : ρ)
    (value : ρ → M) : (table.set key row).sumOf value = table.sumOf value + value row := by
  simp [sumOf, set_rows_of_absent table absent]

/-- Overwriting a row changes the sum by as much as its value. -/
theorem sumOf_set_of_present (table : Table κ ρ) {key : κ} {old : ρ}
    (present : table.get? key = some old) (row : ρ) (value : ρ → M) :
    (table.set key row).sumOf value + value old = table.sumOf value + value row := by
  rw [sumOf_set, sumOf_erase table present, add_right_comm]

/-- Modifying a row changes the sum by as much as its value. -/
theorem sumOf_modify (table : Table κ ρ) {key : κ} {row : ρ} (present : table.get? key = some row)
    (f : ρ → ρ) (value : ρ → M) :
    (table.modify key f).sumOf value + value row = table.sumOf value + value (f row) := by
  rw [modify_eq_set table present, sumOf_set_of_present table present]

end

end Table
end Numu
