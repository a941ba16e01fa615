import Mathlib.Data.List.DropRight
import Mathlib.Order.BoundedOrder.Lattice
import Mathlib.Order.Lattice

/-!
# Latches

A latch follows a sequence of readings. It rises to every reading above it, says so,
and falls back only when a reading is at the bottom.
-/

namespace Numu.Latch

variable {α : Type*} [LinearOrder α] [OrderBot α]

/-- The latch after one more reading. -/
def step (held reading : α) : α :=
  if held < reading then reading else if reading = ⊥ then ⊥ else held

/-- What the latch says of a reading: the level it rises to, if it rises. -/
def notice (held reading : α) : Option α :=
  if held < reading then some reading else none

/-- What the latch says along a sequence of readings. -/
def notices (held : α) : List α → List α
  | [] => []
  | reading :: rest => (notice held reading).toList ++ notices (step held reading) rest

/-- The readings since the last one at the bottom. -/
def excursion (readings : List α) : List α :=
  readings.rtakeWhile fun reading => reading ≠ ⊥

/-- The highest reading since the last one at the bottom. -/
def peak (readings : List α) : α :=
  (excursion readings).foldl max ⊥

variable {held reading : α} {readings : List α}

@[simp] theorem peak_concat_bot : peak (readings ++ [(⊥ : α)]) = ⊥ := by
  rw [peak, excursion, List.rtakeWhile_concat_neg _ _ _ (by simp)]
  rfl

theorem peak_concat (high : reading ≠ ⊥) :
    peak (readings ++ [reading]) = max (peak readings) reading := by
  rw [peak, excursion, List.rtakeWhile_concat_pos _ _ _ (by simpa using high), List.foldl_append]
  rfl

/-- A latch at the peak of some readings is at their peak after one more. -/
theorem step_peak : step (peak readings) reading = peak (readings ++ [reading]) := by
  rcases eq_or_ne reading ⊥ with low | high
  · subst low
    rw [peak_concat_bot, step, if_neg not_lt_bot, if_pos rfl]
  · rw [peak_concat high, step, if_neg high]
    split
    · rename_i rises
      exact (max_eq_right rises.le).symm
    · rename_i stays
      exact (max_eq_left (not_lt.mp stays)).symm

/-- A latch that starts at the bottom is at the peak of its readings. -/
theorem foldl_step_eq_peak (readings : List α) : readings.foldl step ⊥ = peak readings := by
  induction readings using List.reverseRecOn with
  | nil => rfl
  | append_singleton before reading ih =>
      rw [List.foldl_append, ih]
      exact step_peak

/-- A latch says what it rises to exactly when the peak rises, and the peak is what it says. -/
theorem notice_peak :
    notice (peak readings) reading =
      if peak readings < peak (readings ++ [reading]) then some (peak (readings ++ [reading]))
      else none := by
  rcases eq_or_ne reading ⊥ with low | high
  · subst low
    rw [peak_concat_bot, notice]
  · rw [peak_concat high, notice]
    rcases lt_or_ge (peak readings) reading with rises | stays
    · rw [max_eq_right rises.le]
    · rw [max_eq_left stays, if_neg (not_lt.mpr stays), if_neg (lt_irrefl _)]

/-- Until a reading is at the bottom, each level said is above the ones before it. -/
theorem notices_rising (held : α) (high : ∀ reading ∈ readings, reading ≠ ⊥) :
    (∀ level ∈ notices held readings, held < level) ∧ (notices held readings).Pairwise (· < ·) := by
  induction readings generalizing held with
  | nil => exact ⟨by simp [notices], .nil⟩
  | cons reading rest ih =>
      have here : reading ≠ ⊥ := high reading List.mem_cons_self
      have later := fun other member => high other (List.mem_cons_of_mem _ member)
      rw [notices, notice, step, if_neg here]
      split
      · rename_i rises
        rcases ih reading later with ⟨above, sorted⟩
        constructor
        · intro level member
          rcases List.mem_cons.mp member with rfl | member
          · exact rises
          · exact rises.trans (above level member)
        · exact .cons above sorted
      · exact ih held later

end Numu.Latch
