import Mathlib.Algebra.BigOperators.Group.List.Basic
import Mathlib.Algebra.GroupWithZero.Nat
import Mathlib.Algebra.Ring.Int.Defs
import Mathlib.Data.List.Basic
import Numu.Foundation.Table

/-!
# Amounts per key

How much the rows of a list hold for each key.
-/

namespace Numu

variable {ρ κ : Type*} [DecidableEq κ]

def tally (key : ρ → κ) (amount : ρ → Nat) (rows : List ρ) (k : κ) : Nat :=
  ((rows.filter fun row => key row = k).map amount).sum

namespace Tally
variable (key : ρ → κ) (amount : ρ → Nat)

@[simp] theorem tally_nil (k : κ) : tally key amount [] k = 0 := rfl

theorem tally_cons (row : ρ) (rows : List ρ) (k : κ) :
    tally key amount (row :: rows) k =
      (if key row = k then amount row else 0) + tally key amount rows k := by
  by_cases hit : key row = k <;> simp [tally, hit]

theorem tally_append (front back : List ρ) (k : κ) :
    tally key amount (front ++ back) k = tally key amount front k + tally key amount back k := by
  simp [tally]

/-- What one key holds is not there for another. -/
theorem tally_add_le_sum (rows : List ρ) {k other : κ} (apart : k ≠ other) :
    tally key amount rows k + tally key amount rows other ≤ (rows.map amount).sum := by
  induction rows with
  | nil => simp
  | cons row rows ih =>
      rw [tally_cons, tally_cons, List.map_cons, List.sum_cons]
      by_cases hit : key row = k
      · have missed : key row ≠ other := hit ▸ apart
        rw [if_pos hit, if_neg missed]
        omega
      · rw [if_neg hit]
        split <;> omega

/-- Rows that hold no more than what they hold for `k` hold nothing else. -/
theorem tally_of_full {rows : List ρ} {k : κ} {total : Nat}
    (bounded : (rows.map amount).sum ≤ total) (full : tally key amount rows k = total) (other : κ) :
    tally key amount rows other = if k = other then total else 0 := by
  split
  · rename_i same
    rw [← same, full]
  · rename_i apart
    have both := tally_add_le_sum key amount rows apart
    omega

end Tally
end Numu

/-!
# Tables of counters

A counter is made when it is first bumped and never removed.
-/

namespace Numu.Counters

variable {κ : Type*}

/-- What the entries under the keys of a kind come to. -/
def sumOf (kind : κ → Bool) (entries : List (κ × Int)) : Int :=
  ((entries.filter fun entry => kind entry.1).map Prod.snd).sum

@[simp] theorem sumOf_nil (kind : κ → Bool) : sumOf kind [] = 0 := rfl

theorem sumOf_cons (kind : κ → Bool) (entry : κ × Int) (entries : List (κ × Int)) :
    sumOf kind (entry :: entries) = (if kind entry.1 then entry.2 else 0) + sumOf kind entries := by
  rw [sumOf, sumOf, List.filter_cons]
  by_cases here : kind entry.1 = true
  · rw [if_pos here, if_pos here, List.map_cons, List.sum_cons]
  · rw [if_neg here, if_neg here, Int.zero_add]

theorem sumOf_append (kind : κ → Bool) (first second : List (κ × Int)) :
    sumOf kind (first ++ second) = sumOf kind first + sumOf kind second := by
  rw [sumOf, List.filter_append, List.map_append, List.sum_append]
  rfl

theorem sumOf_flatMap {β : Type*} (kind : κ → Bool) (rows : List β) (entries : β → List (κ × Int)) :
    sumOf kind (rows.flatMap entries) = (rows.map fun row => sumOf kind (entries row)).sum := by
  induction rows with
  | nil => rfl
  | cons row rows ih => rw [List.flatMap_cons, sumOf_append, ih, List.map_cons, List.sum_cons]

theorem sumOf_eq_zero {kind : κ → Bool} {entries : List (κ × Int)}
    (none_ : ∀ entry ∈ entries, kind entry.1 = false) : sumOf kind entries = 0 := by
  have nothing : entries.filter (fun entry => kind entry.1) = [] :=
    List.filter_eq_nil_iff.mpr fun entry mem => by simp [none_ entry mem]
  rw [sumOf, nothing]
  rfl

variable [DecidableEq κ]

/-- Redis' `HINCRBY` on one hash. -/
def bump (counters : Table κ Int) (key : κ) (amount : Int) : Table κ Int :=
  counters.set key ((counters.get? key).getD 0 + amount)

def bumpAll (counters : Table κ Int) (entries : List (κ × Int)) : Table κ Int :=
  entries.foldl (fun counters entry => bump counters entry.1 entry.2) counters

theorem modifyRows_of_not_mem {ρ : Type*} {key : κ} (f : ρ → ρ) {rows : List (κ × ρ)}
    (absent : key ∉ rows.map Prod.fst) : Table.modifyRows key f rows = rows := by
  refine (List.map_congr_left fun row member => ?_).trans (List.map_id rows)
  have other : row.1 ≠ key := fun same => absent (same ▸ List.mem_map_of_mem member)
  rw [if_neg other, id]

/-- A counter that is there stays where it is, with the amount added. -/
theorem bump_of_present {counters : Table κ Int} {key : κ} {value : Int} (amount : Int)
    (present : counters.get? key = some value) :
    ∃ front back, counters.rows = front ++ (key, value) :: back ∧
      (bump counters key amount).rows = front ++ (key, value + amount) :: back := by
  have member := (counters.get?_eq_some_iff key value).mp present
  obtain ⟨front, back, rows⟩ := List.append_of_mem member
  refine ⟨front, back, rows, ?_⟩
  have distinct := counters.nodup
  rw [rows, List.map_append, List.map_cons, List.nodup_append', List.nodup_cons] at distinct
  have before : key ∉ front.map Prod.fst := fun mem => distinct.2.2 mem List.mem_cons_self
  have known : key ∈ counters.rows.map Prod.fst := List.mem_map_of_mem member
  rw [bump, present, Option.getD_some, Table.set, dif_neg (not_not.mpr known), Table.modify_rows, rows,
    Table.modifyRows, List.map_append, List.map_cons, if_pos rfl]
  have front_ := modifyRows_of_not_mem (fun _ : Int => value + amount) before
  have back_ := modifyRows_of_not_mem (fun _ : Int => value + amount) distinct.2.1.1
  rw [Table.modifyRows] at front_ back_
  rw [front_, back_]

/-- A bump adds its amount to the kinds of its key. -/
theorem sumOf_bump (kind : κ → Bool) (counters : Table κ Int) (key : κ) (amount : Int) :
    sumOf kind (bump counters key amount).rows =
      sumOf kind counters.rows + if kind key then amount else 0 := by
  cases found : counters.get? key with
  | none =>
      rw [bump, found, Table.set_rows_of_absent counters found, sumOf_append, sumOf_cons]
      simp
  | some value =>
      obtain ⟨front, back, rows, rows'⟩ := bump_of_present amount found
      rw [rows', rows, sumOf_append, sumOf_append, sumOf_cons, sumOf_cons]
      split <;> omega

theorem any_bump (kind : κ → Bool) (counters : Table κ Int) (key : κ) (amount : Int) :
    ((bump counters key amount).rows.any fun entry => kind entry.1) =
      ((counters.rows.any fun entry => kind entry.1) || kind key) := by
  cases found : counters.get? key with
  | none =>
      rw [bump, found, Table.set_rows_of_absent counters found, List.any_append]
      simp
  | some value =>
      obtain ⟨front, back, rows, rows'⟩ := bump_of_present amount found
      rw [rows', rows, List.any_append, List.any_append, List.any_cons, List.any_cons]
      dsimp only
      cases kind key <;> simp

theorem sumOf_bumpAll (kind : κ → Bool) (counters : Table κ Int) (entries : List (κ × Int)) :
    sumOf kind (bumpAll counters entries).rows =
      sumOf kind counters.rows + sumOf kind entries := by
  induction entries generalizing counters with
  | nil => exact (Int.add_zero _).symm
  | cons entry entries ih =>
      have later := ih (bump counters entry.1 entry.2)
      rw [sumOf_bump, Int.add_assoc] at later
      rw [sumOf_cons]
      exact later

theorem any_bumpAll (kind : κ → Bool) (counters : Table κ Int) (entries : List (κ × Int)) :
    ((bumpAll counters entries).rows.any fun entry => kind entry.1) =
      ((counters.rows.any fun entry => kind entry.1) || entries.any fun entry => kind entry.1) := by
  induction entries generalizing counters with
  | nil => exact (Bool.or_false _).symm
  | cons entry entries ih =>
      have later := ih (bump counters entry.1 entry.2)
      rw [any_bump, Bool.or_assoc] at later
      rw [List.any_cons]
      exact later

theorem bumpAll_append (counters : Table κ Int) (first second : List (κ × Int)) :
    bumpAll counters (first ++ second) = bumpAll (bumpAll counters first) second :=
  List.foldl_append

end Numu.Counters

/-!
# Counters that expire

A counter stands under a key until its time to live is over. Counting once more
restarts the time to live of a counter that stood at zero or not at all.
-/

namespace Numu

structure Counter where
  value : Nat
  expiresAt : Nat
  deriving DecidableEq, Repr

namespace Counter
variable {κ : Type*} [DecidableEq κ]

/-- The counter under a key, unless its time is over. -/
def find? (store : Table κ Counter) (now : Nat) (key : κ) : Option Counter :=
  (store.get? key).filter (now < ·.expiresAt)

def read (store : Table κ Counter) (now : Nat) (key : κ) : Nat :=
  ((find? store now key).map value).getD 0

/-- The counter after counting once more. -/
def next (store : Table κ Counter) (now : Nat) (key : κ) (ttl : Nat) : Counter :=
  match find? store now key with
  | some counter =>
      if counter.value = 0 then { value := 1, expiresAt := now + ttl }
      else { counter with value := counter.value + 1 }
  | none => { value := 1, expiresAt := now + ttl }

/-- Counts once more. -/
def increment (store : Table κ Counter) (now : Nat) (key : κ) (ttl : Nat) : Table κ Counter :=
  store.set key (next store now key ttl)

/-- Sets a counter that is missing. -/
def seed (store : Table κ Counter) (now : Nat) (key : κ) (value ttl : Nat) : Table κ Counter :=
  match find? store now key with
  | some _ => store
  | none => store.set key { value := value, expiresAt := now + ttl }

variable {store : Table κ Counter} {now ttl end_ : Nat} {key : κ}

theorem next_value : (next store now key ttl).value = read store now key + 1 := by
  rw [next, read]
  cases found : find? store now key with
  | none => rfl
  | some counter =>
      simp only [Option.map_some, Option.getD_some]
      split
      · rename_i zero
        rw [zero]
      · rfl

/-- A counter lasts as long as what stood before it or its own time to live. -/
theorem next_lasts (covers : end_ ≤ now + ttl)
    (lasts : ∀ counter, store.get? key = some counter → end_ ≤ counter.expiresAt) :
    end_ ≤ (next store now key ttl).expiresAt := by
  rw [next]
  cases found : find? store now key with
  | none => exact covers
  | some counter =>
      dsimp only
      split
      · exact covers
      · exact lasts counter (Option.filter_eq_some_iff.mp found).1

theorem get?_increment (other : κ) :
    (increment store now key ttl).get? other =
      if other = key then some (next store now key ttl) else store.get? other := by
  rw [increment, Table.get?_set]

/-- Before the end until which they last, counters read as they are stored. -/
theorem read_eq (lasts : ∀ counter, store.get? key = some counter → end_ ≤ counter.expiresAt)
    (before : now < end_) : read store now key = ((store.get? key).map value).getD 0 := by
  rw [read, find?]
  cases found : store.get? key with
  | none => rfl
  | some counter =>
      have live : now < counter.expiresAt := Nat.lt_of_lt_of_le before (lasts counter found)
      simp only [Option.filter, decide_eq_true live, if_true]

theorem get?_seed (value : Nat) (other : κ) :
    (seed store now key value ttl).get? other =
      if other = key ∧ find? store now key = none then some { value := value, expiresAt := now + ttl }
      else store.get? other := by
  rw [seed]
  cases found : find? store now key with
  | none => simp only [Table.get?_set, and_true]
  | some counter => simp

end Counter
end Numu
