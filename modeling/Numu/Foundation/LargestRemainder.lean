import Mathlib.Algebra.Order.BigOperators.Group.List
import Mathlib.Data.List.GetD
import Mathlib.Data.List.Nodup
import Mathlib.Data.List.Perm.Subperm
import Mathlib.Data.Rat.Defs
import Mathlib.Tactic.Linarith

/-!
# Largest remainders

A whole amount in proportion to weights: every weight gets the floor of its share, and what is
left goes, a unit each, to the first places of some order. The order is any that puts the places
with a remainder first.
-/

namespace Numu.LargestRemainder

/-- One more at the named places. -/
def raise (shares places : List Nat) : List Nat :=
  shares.mapIdx fun i share => if i ∈ places then share + 1 else share

@[simp] theorem length_raise (shares places : List Nat) :
    (raise shares places).length = shares.length := by
  simp [raise]

theorem raise_eq (shares places : List Nat) :
    raise shares places =
      (List.range shares.length).map fun i =>
        shares.getD i 0 + if i ∈ places then 1 else 0 := by
  apply List.ext_getElem
  · simp
  · intro i left right
    have bound : i < shares.length := by simpa using left
    simp only [raise, List.getElem_mapIdx, List.getElem_map, List.getElem_range,
      List.getD_eq_getElem _ _ bound]
    split <;> rfl

theorem sum_indicator (p : Nat → Prop) [DecidablePred p] (places : List Nat) :
    (places.map fun i => if p i then 1 else 0).sum = places.countP fun i => p i := by
  induction places with
  | nil => rfl
  | cons place rest ih =>
      rw [List.map_cons, List.sum_cons, ih, List.countP_cons, Nat.add_comm]
      simp only [decide_eq_true_eq]

theorem map_getD_range (shares : List Nat) :
    (List.range shares.length).map (fun i => shares.getD i 0) = shares := by
  apply List.ext_getElem
  · simp
  · intro i left right
    simp only [List.getElem_map, List.getElem_range]
    exact List.getD_eq_getElem _ _ right

theorem sum_raise {shares places : List Nat} (nodup : places.Nodup)
    (within : ∀ i ∈ places, i < shares.length) :
    (raise shares places).sum = shares.sum + places.length := by
  have perm : ((List.range shares.length).filter fun i => i ∈ places).Perm places := by
    apply (List.perm_ext_iff_of_nodup (List.nodup_range.filter _) nodup).mpr
    intro i
    simp only [List.mem_filter, List.mem_range, decide_eq_true_eq]
    exact ⟨fun both => both.2, fun member => ⟨within i member, member⟩⟩
  have ones : ((List.range shares.length).map fun i => if i ∈ places then 1 else 0).sum =
      places.length := by
    rw [← perm.length_eq, ← List.countP_eq_length_filter, sum_indicator]
  calc
    _ = ((List.range shares.length).map fun i => shares.getD i 0).sum +
        ((List.range shares.length).map fun i => if i ∈ places then 1 else 0).sum := by
      rw [raise_eq, List.sum_map_add]
    _ = shares.sum + places.length := by rw [map_getD_range, ones]

/-- The first places of a descending order are positive, as many as there are positive ones. -/
theorem pos_of_mem_take {key : Nat → ℚ} {order : List Nat}
    (descending : order.Pairwise fun i j => key j ≤ key i) {count : Nat}
    (enough : count ≤ order.countP fun i => 0 < key i) : ∀ i ∈ order.take count, 0 < key i := by
  induction order generalizing count with
  | nil => simp
  | cons first rest ih =>
      cases count with
      | zero => simp
      | succ count =>
          rcases List.pairwise_cons.mp descending with ⟨below, later⟩
          by_cases positive : 0 < key first
          · rw [List.countP_cons_of_pos (by simpa using positive)] at enough
            intro i member
            rcases List.mem_cons.mp member with rfl | member
            · exact positive
            · exact ih later (by omega) i member
          · have none_ : rest.countP (fun i => 0 < key i) = 0 := by
              rw [List.countP_eq_zero]
              intro i member
              have less := below i member
              simp only [decide_eq_true_eq, not_lt] at positive ⊢
              exact less.trans positive
            rw [List.countP_cons_of_neg (by simpa using positive), none_] at enough
            omega

section Floors
variable (weights : List Nat) (amount : Nat) {total : Nat}

def floors (total : Nat) : List Nat := weights.map fun weight => weight * amount / total

theorem sum_div_mod (total : Nat) :
    total * (floors weights amount total).sum +
        (weights.map fun weight => weight * amount % total).sum = weights.sum * amount := by
  induction weights with
  | nil => simp [floors]
  | cons weight rest ih =>
      have here := Nat.div_add_mod (weight * amount) total
      simp only [floors, List.map_cons, List.sum_cons, Nat.mul_add, Nat.add_mul] at ih ⊢
      omega

theorem sum_mod_le (positive : 0 < total) :
    (weights.map fun weight => weight * amount % total).sum ≤
      total * weights.countP fun weight => weight * amount % total ≠ 0 := by
  induction weights with
  | nil => simp
  | cons weight rest ih =>
      rw [List.map_cons, List.sum_cons, List.countP_cons, Nat.mul_add]
      by_cases whole : weight * amount % total = 0
      · simpa [whole] using ih
      · have small : weight * amount % total ≤ total := (Nat.mod_lt _ positive).le
        have counted : decide (weight * amount % total ≠ 0) = true := decide_eq_true whole
        rw [if_pos counted, Nat.mul_one, Nat.add_comm]
        exact Nat.add_le_add ih small

/-- What is left over is at most the number of weights whose share has a remainder. -/
theorem le_floors_add (positive : 0 < total) (whole : weights.sum = total) :
    amount ≤ (floors weights amount total).sum +
      weights.countP fun weight => weight * amount % total ≠ 0 := by
  have exact_ := sum_div_mod weights amount total
  have bound := sum_mod_le weights amount positive
  rw [whole] at exact_
  apply Nat.le_of_mul_le_mul_left _ positive
  rw [Nat.mul_add]
  omega

theorem floors_sum_le (positive : 0 < total) (whole : weights.sum = total) :
    (floors weights amount total).sum ≤ amount := by
  have exact_ := sum_div_mod weights amount total
  rw [whole] at exact_
  apply Nat.le_of_mul_le_mul_left _ positive
  omega

end Floors

section Apportion
variable {weights order : List Nat} {amount total : Nat} {key : Nat → ℚ}

/-- The places are all of them, those with a remainder first. -/
structure Ranks (weights : List Nat) (amount total : Nat) (key : Nat → ℚ) (order : List Nat) :
    Prop where
  perm : order.Perm (List.range weights.length)
  descending : order.Pairwise fun i j => key j ≤ key i
  key_pos : ∀ i < weights.length, 0 < key i ↔ weights.getD i 0 * amount % total ≠ 0

def shares (weights : List Nat) (amount total : Nat) (order : List Nat) : List Nat :=
  let low := floors weights amount total
  raise low (order.take (amount - low.sum))

theorem Ranks.countP_pos (ranks : Ranks weights amount total key order) :
    (order.countP fun i => 0 < key i) =
      weights.countP fun weight => weight * amount % total ≠ 0 := by
  calc
    _ = (List.range weights.length).countP fun i => weights.getD i 0 * amount % total ≠ 0 := by
      rw [ranks.perm.countP_eq]
      apply List.countP_congr
      intro i member
      simpa only [decide_eq_true_eq] using ranks.key_pos i (List.mem_range.mp member)
    _ = ((List.range weights.length).map fun i => weights.getD i 0).countP
        fun weight => weight * amount % total ≠ 0 := by
      rw [List.countP_map]
      rfl
    _ = weights.countP fun weight => weight * amount % total ≠ 0 := by rw [map_getD_range]

theorem Ranks.raised_remainder (ranks : Ranks weights amount total key order)
    (positive : 0 < total) (whole : weights.sum = total) :
    ∀ i ∈ order.take (amount - (floors weights amount total).sum),
      i < weights.length ∧ weights.getD i 0 * amount % total ≠ 0 := by
  have left_ := le_floors_add weights amount positive whole
  intro i member
  have place : i < weights.length :=
    List.mem_range.mp (ranks.perm.mem_iff.mp (List.mem_of_mem_take member))
  have enough : amount - (floors weights amount total).sum ≤
      order.countP fun i => 0 < key i := by
    rw [ranks.countP_pos]
    omega
  exact ⟨place, (ranks.key_pos i place).mp (pos_of_mem_take ranks.descending enough i member)⟩

theorem Ranks.sum_shares (ranks : Ranks weights amount total key order)
    (positive : 0 < total) (whole : weights.sum = total) :
    (shares weights amount total order).sum = amount := by
  have less := floors_sum_le weights amount positive whole
  have left_ := le_floors_add weights amount positive whole
  have nodup : order.Nodup := ranks.perm.nodup_iff.mpr List.nodup_range
  have enough : amount - (floors weights amount total).sum ≤ order.length := by
    have counted := List.countP_le_length (p := fun i => decide (0 < key i)) (l := order)
    rw [ranks.countP_pos] at counted
    omega
  rw [shares, sum_raise (nodup.sublist (List.take_sublist _ _)), List.length_take,
    Nat.min_eq_left enough]
  · omega
  · intro i member
    rw [floors, List.length_map]
    exact (ranks.raised_remainder positive whole i member).1

theorem floor_le {weight : Nat} (positive : 0 < total) (within : amount ≤ total) :
    weight * amount / total ≤ weight :=
  (Nat.div_le_iff_le_mul_add_pred positive).mpr <| by
    have part : weight * amount ≤ total * weight := by
      rw [Nat.mul_comm total]
      exact Nat.mul_le_mul_left _ within
    omega

/-- A share with a remainder stays below its weight. -/
theorem floor_lt {weight : Nat} (within : amount ≤ total)
    (remainder : weight * amount % total ≠ 0) : weight * amount / total < weight := by
  have part : weight * amount ≤ total * weight := by
    rw [Nat.mul_comm total]
    exact Nat.mul_le_mul_left _ within
  have split_ := Nat.div_add_mod (weight * amount) total
  by_contra most
  have whole : total * weight ≤ total * (weight * amount / total) :=
    Nat.mul_le_mul_left _ (not_lt.mp most)
  omega

/-- No share is larger than its weight. -/
theorem Ranks.shares_le (ranks : Ranks weights amount total key order)
    (positive : 0 < total) (whole : weights.sum = total) (within : amount ≤ total) :
    List.Forall₂ (· ≤ ·) (shares weights amount total order) weights := by
  have length : (floors weights amount total).length = weights.length := List.length_map ..
  have raised := ranks.raised_remainder positive whole
  apply List.forall₂_iff_get.mpr
  constructor
  · rw [shares, length_raise, length]
  · intro i _ bound
    simp only [shares, raise, floors, List.get_eq_getElem, List.getElem_mapIdx, List.getElem_map]
    split
    · rename_i member
      have remainder := (raised i member).2
      rw [List.getD_eq_getElem _ _ bound] at remainder
      exact floor_lt within remainder
    · exact floor_le positive within

end Apportion

end Numu.LargestRemainder
