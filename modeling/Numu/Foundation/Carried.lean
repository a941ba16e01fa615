import Mathlib.Data.List.Basic
import Mathlib.Logic.Basic

/-! Writing back one column of a row that the session has loaded before. -/

namespace Numu

/-- An assignment of the value that was loaded is no change, and the update leaves the stored
column alone. -/
def column {α : Type*} [DecidableEq α] (loaded new stored : α) : α :=
  if new = loaded then stored else new

section
variable {α : Type*} [DecidableEq α]

theorem column_kept {loaded new : α} (same : new = loaded) (stored : α) :
    column loaded new stored = stored := by
  simp [column, same]

theorem column_changed {loaded new : α} (changed : new ≠ loaded) (stored : α) :
    column loaded new stored = new := by
  simp [column, changed]

/-- With a current copy the write does what the assignment says. -/
theorem column_current (stored new : α) : column stored new stored = new := by
  unfold column
  split
  · rename_i same
    exact same.symm
  · rfl

end
end Numu

/-!
# Entries that are carried from one table to another

A table is carried to another when each of its entries is found there under its key with a value
that is related to its own. Of three tables that are carried one to the next, the first is carried
to the third exactly as the values that share a key compose.
-/

namespace Numu.Carry

variable {κ α β γ : Type*} [BEq κ]

/-- Each entry is found in the other table, and the values are related. -/
def Carried (R : α → β → Prop) (old : List (κ × α)) (new : List (κ × β)) : Prop :=
  ∀ entry ∈ old, ∃ value, new.lookup entry.1 = some value ∧ R entry.2 value

/-- What holds of the values under each key that three tables share. -/
def Through (T : α → β → γ → Prop) (first : List (κ × α)) (second : List (κ × β))
    (third : List (κ × γ)) : Prop :=
  ∀ entry ∈ first, ∀ y z, second.lookup entry.1 = some y → third.lookup entry.1 = some z →
    T entry.2 y z

variable {R : α → β → Prop} {S : β → γ → Prop} {Q : α → γ → Prop} {T : α → β → γ → Prop}
  {first : List (κ × α)} {second : List (κ × β)} {third : List (κ × γ)}

theorem Carried.value {entry : κ × α} (carried : Carried R first second) (member : entry ∈ first)
    {y : β} (found : second.lookup entry.1 = some y) : R entry.2 y := by
  obtain ⟨value, there, related⟩ := carried entry member
  rw [there] at found
  cases found
  exact related

variable [LawfulBEq κ]

theorem mem_of_lookup {key : κ} {y : β} (found : second.lookup key = some y) :
    (key, y) ∈ second := by
  obtain ⟨before, after, split_, -⟩ := List.lookup_eq_some_iff.mp found
  rw [split_]
  exact List.mem_append_right _ List.mem_cons_self

/-- Where two steps compose to a third for the values exactly under a condition, they do for the
tables exactly if it holds of the values under each key. -/
theorem carried_comp_iff (before : Carried R first second) (after : Carried S second third)
    (compose : ∀ x y z, R x y → S y z → (Q x z ↔ T x y z)) :
    Carried Q first third ↔ Through T first second third := by
  constructor
  · intro carried entry member y z here there
    have step := before.value member here
    have next : S y z := after.value (mem_of_lookup here) there
    exact (compose entry.2 y z step next).mp (carried.value member there)
  · intro through entry member
    obtain ⟨y, here, step⟩ := before entry member
    obtain ⟨z, there, next⟩ := after (entry.1, y) (mem_of_lookup here)
    exact ⟨z, there, (compose entry.2 y z step next).mpr (through entry member y z here there)⟩

end Numu.Carry
