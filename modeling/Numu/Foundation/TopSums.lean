import Mathlib.Algebra.BigOperators.Group.List.Basic
import Mathlib.Algebra.Order.Monoid.Defs
import Mathlib.Algebra.Order.BigOperators.Group.List
import Mathlib.Algebra.Order.Group.Defs
import Mathlib.Data.List.Perm.Subperm

/-!
# The largest elements of a descending list

In a list that does not increase, no selection sums up to more than the first elements of the same
number, and later blocks of elements sum up to no more than earlier ones.
-/

namespace Numu.TopSums

def Descending {M : Type*} [LE M] (values : List M) : Prop :=
  values.Pairwise fun first second => second ≤ first

variable {M : Type*} [AddCommMonoid M] [PartialOrder M] [IsOrderedAddMonoid M]
variable {values : List M}

omit [IsOrderedAddMonoid M] [AddCommMonoid M] in
theorem Descending.tail {first : M} (descending : Descending (first :: values)) :
    Descending values :=
  List.Pairwise.of_cons descending

omit [IsOrderedAddMonoid M] [AddCommMonoid M] in
theorem Descending.drop (descending : Descending values) (count : Nat) :
    Descending (values.drop count) :=
  List.Pairwise.drop descending

/-- A first element takes the place of one that is no larger. -/
theorem sum_take_le_cons {first : M} (descending : Descending (first :: values)) {count : Nat}
    (enough : count ≤ values.length) :
    (values.take count).sum ≤ ((first :: values).take count).sum := by
  induction count generalizing first values with
  | zero => simp
  | succ count ih =>
      cases values with
      | nil => simp at enough
      | cons second rest =>
          have smaller : second ≤ first := List.rel_of_pairwise_cons descending List.mem_cons_self
          have later := ih descending.tail (by simpa using enough)
          simp only [List.take_succ_cons, List.sum_cons]
          exact add_le_add smaller later

theorem sum_take_drop_le (descending : Descending values) (skipped : Nat) {count : Nat}
    (enough : skipped + count ≤ values.length) :
    ((values.drop skipped).take count).sum ≤ (values.take count).sum := by
  induction skipped generalizing values with
  | zero => simp
  | succ skipped ih =>
      cases values with
      | nil => simp
      | cons first rest =>
          rw [List.length_cons] at enough
          have shorter : skipped + count ≤ rest.length := by omega
          calc ((rest.drop skipped).take count).sum
              ≤ (rest.take count).sum := ih descending.tail shorter
            _ ≤ ((first :: rest).take count).sum := sum_take_le_cons descending (by omega)

theorem sum_le_of_sublist (descending : Descending values) {chosen : List M}
    (sublist : chosen.Sublist values) : chosen.sum ≤ (values.take chosen.length).sum := by
  induction sublist with
  | slnil => simp
  | cons first sublist ih =>
      exact (ih descending.tail).trans (sum_take_le_cons descending sublist.length_le)
  | cons_cons first sublist ih =>
      simp only [List.length_cons, List.take_succ_cons, List.sum_cons]
      exact add_le_add_right (ih descending.tail) first

/-- No selection sums up to more than the first elements. -/
theorem sum_le_of_subperm (descending : Descending values) {chosen : List M}
    (subperm : chosen.Subperm values) : chosen.sum ≤ (values.take chosen.length).sum := by
  rcases subperm with ⟨sorted, perm, sublist⟩
  rw [← perm.sum_eq, ← perm.length_eq]
  exact sum_le_of_sublist descending sublist

omit [PartialOrder M] [IsOrderedAddMonoid M] in
theorem sum_take_add (values : List M) (first second : Nat) :
    (values.take (first + second)).sum =
      (values.take first).sum + ((values.drop first).take second).sum := by
  rw [List.take_add, List.sum_append]

/-- Blocks of one length sum up to no more than as many times the first of them. -/
theorem sum_take_mul_le (descending : Descending values) (size : Nat) {blocks : Nat}
    (enough : blocks * size ≤ values.length) :
    (values.take (blocks * size)).sum ≤ blocks • (values.take size).sum := by
  induction blocks with
  | zero => simp
  | succ blocks ih =>
      rw [Nat.succ_mul] at enough
      have before := ih (by omega)
      have last : ((values.drop (blocks * size)).take size).sum ≤ (values.take size).sum :=
        sum_take_drop_le descending (blocks * size) enough
      rw [Nat.succ_mul, sum_take_add, succ_nsmul]
      exact add_le_add before last

/-- The average of the first elements does not rise with their number. -/
theorem sum_take_average (descending : Descending values) {fewer more : Nat} (le : fewer ≤ more)
    (enough : more ≤ values.length) :
    fewer • (values.take more).sum ≤ more • (values.take fewer).sum := by
  induction more, le using Nat.le_induction with
  | base => exact le_refl _
  | succ more le ih =>
      have before := ih (by omega)
      have last : fewer • values[more] ≤ (values.take fewer).sum := by
        have length : (values.take fewer).length = fewer := by
          rw [List.length_take]
          omega
        nth_rewrite 1 [← length]
        apply List.card_nsmul_le_sum
        intro value mem
        rcases List.mem_iff_getElem.mp mem with ⟨index, bound, rfl⟩
        rw [List.getElem_take]
        apply List.pairwise_iff_getElem.mp descending
        omega
      rw [List.take_succ_eq_append_getElem (by omega), List.sum_append, List.sum_singleton,
        nsmul_add, succ_nsmul]
      exact add_le_add before last

end Numu.TopSums
