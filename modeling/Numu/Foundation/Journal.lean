import Mathlib.Algebra.BigOperators.Group.List.Basic
import Mathlib.Data.List.Chain
import Mathlib.Data.List.Induction
import Mathlib.Tactic.Ring

/-!
# Journals of moves

A journal lists moves between states. It tells the whole story of a state when
each move is an edge, starts where the move before it ended, and the last one
ended in the present state.
-/

namespace Numu

variable {ι μ : Type*}

structure Journal (edge : ι → ι → Prop) (source target : μ → ι) (moves : List μ) (current : ι) :
    Prop where
  edges : ∀ move ∈ moves, edge (source move) (target move)
  linked : moves.IsChain fun first second => target first = source second
  ends : ∀ move ∈ moves.getLast?, target move = current

namespace Journal
variable {edge : ι → ι → Prop} {source target : μ → ι} {moves : List μ} {current next : ι}

theorem nil : Journal edge source target ([] : List μ) current :=
  ⟨by simp, .nil, by simp⟩

theorem append (journal : Journal edge source target moves current) (move : μ)
    (starts : source move = current) (step : edge current (target move)) :
    Journal edge source target (moves ++ [move]) (target move) where
  edges := by
    intro m member
    rcases List.mem_append.mp member with old | new
    · exact journal.edges m old
    · rw [List.mem_singleton] at new
      rw [new, starts]
      exact step
  linked := by
    refine journal.linked.append (.singleton move) ?_
    intro last isLast first isFirst
    rw [List.head?_cons, Option.mem_some_iff] at isFirst
    rw [journal.ends last isLast, ← isFirst, starts]
  ends := by simp

/-- A journal with an entry determines the present state. -/
theorem current_unique (journal : Journal edge source target moves current)
    (other : Journal edge source target moves next) (nonempty : moves ≠ []) : current = next := by
  have member := List.getLast?_eq_some_getLast nonempty
  rw [← journal.ends _ member, other.ends _ member]

end Journal
end Numu

/-!
# Ledgers with running totals

Every entry has an amount and records the total it left behind.
-/

namespace Numu.RunningTotal

variable {ε : Type*} (amount after : ε → Int)

def total (entries : List ε) : Int :=
  (entries.map amount).sum

/-- Each entry records the sum of the amounts up to and including its own. -/
def Recorded (start : Int) : List ε → Prop
  | [] => True
  | entry :: rest => after entry = start + amount entry ∧ Recorded (start + amount entry) rest

instance decidableRecorded (start : Int) : ∀ entries, Decidable (Recorded amount after start entries)
  | [] => isTrue trivial
  | entry :: rest =>
      have := decidableRecorded (start + amount entry) rest
      inferInstanceAs (Decidable (_ ∧ _))

theorem total_append (entries : List ε) (entry : ε) :
    total amount (entries ++ [entry]) = total amount entries + amount entry := by
  simp [total]

theorem recorded_append (start : Int) (entries : List ε) (entry : ε) :
    Recorded amount after start (entries ++ [entry]) ↔
      Recorded amount after start entries ∧
        after entry = start + total amount entries + amount entry := by
  induction entries generalizing start with
  | nil => simp [Recorded, total]
  | cons head rest ih =>
      have shifted : start + amount head + total amount rest =
          start + total amount (head :: rest) := by
        simp only [total, List.map_cons, List.sum_cons]
        ring
      simp only [List.cons_append, Recorded, ih, shifted, and_assoc]

/-- The recorded totals are the sums of the prefixes. -/
theorem recorded_iff_prefix (entries : List ε) :
    Recorded amount after 0 entries ↔
      ∀ before entry later, entries = before ++ entry :: later →
        after entry = total amount (before ++ [entry]) := by
  induction entries using List.reverseRecOn with
  | nil => simp [Recorded]
  | append_singleton front last ih =>
      rw [recorded_append, ih, zero_add]
      constructor
      · intro facts before entry later split_
        rcases facts with ⟨earlier, current⟩
        rcases List.eq_nil_or_concat later with rfl | ⟨body, tip, rfl⟩
        · obtain ⟨rfl, same⟩ := List.append_inj' split_ rfl
          cases same
          rw [total_append, current]
        · have shape : front ++ [last] = (before ++ entry :: body) ++ [tip] := by
            rw [split_]
            simp
          obtain ⟨rfl, -⟩ := List.append_inj' shape rfl
          exact earlier before entry body rfl
      · intro prefixes
        refine ⟨fun before entry later split_ => ?_, ?_⟩
        · exact prefixes before entry (later ++ [last]) (by rw [split_]; simp)
        · rw [prefixes front last [] rfl, total_append]

end Numu.RunningTotal
