import Mathlib.Algebra.BigOperators.Group.List.Basic
import Mathlib.Algebra.Order.Group.Abs
import Mathlib.Data.List.Forall2
import Mathlib.Data.Rat.Defs
import Mathlib.Tactic.FieldSimp
import Mathlib.Tactic.Linarith
import Mathlib.Tactic.LinearCombination
import Mathlib.Tactic.Positivity
import Mathlib.Tactic.Ring

/-!
# The last share takes the rest

A whole amount in proportion to weights: every weight but the last gets the floor of its share, and
the last one what is left. What the floors cut off all lands there, however many they are.
-/

namespace Numu.LastShare

/-- The shares of the weights still to come, after `given` went to those before. -/
def shares (total whole : Int) : List Int → Int → List Int
  | [], _ => []
  | [_], given => [total - given]
  | weight :: next :: rest, given =>
      total * weight / whole ::
        shares total whole (next :: rest) (given + total * weight / whole)

/-- What the floors cut off, in parts of one `whole`th. -/
def cut (total whole : Int) (weights : List Int) : Int :=
  (weights.dropLast.map fun weight => total * weight % whole).sum

/-- A share that is less than one away from the exact one, and nothing for a weight of zero. -/
def Near (total whole weight share : Int) : Prop :=
  (weight = 0 → share = 0) ∧ |(share : ℚ) - total * weight / whole| < 1

variable {total whole weight share given : Int}

theorem near_iff (positive : 0 < whole) :
    Near total whole weight share ↔
      (weight = 0 → share = 0) ∧ |share * whole - total * weight| < whole := by
  have positive' : (0 : ℚ) < whole := by exact_mod_cast positive
  have scaled : (share : ℚ) - total * weight / whole =
      ((share * whole - total * weight : Int) : ℚ) / whole := by
    push_cast
    field_simp
  unfold Near
  rw [scaled, abs_div, abs_of_pos positive', div_lt_one positive']
  exact and_congr_right fun _ => by exact_mod_cast Iff.rfl

theorem floor_near (positive : 0 < whole) :
    Near total whole weight (total * weight / whole) := by
  have parts := Int.mul_ediv_add_emod (total * weight) whole
  have low := Int.emod_nonneg (total * weight) positive.ne'
  have high := Int.emod_lt_of_pos (total * weight) positive
  rw [near_iff positive]
  constructor
  · intro zero
    rw [zero, mul_zero, Int.zero_ediv]
  · rw [abs_lt, mul_comm]
    constructor <;> linarith

@[simp] theorem sum_shares (weights : List Int) (nonempty : weights ≠ []) (given : Int) :
    (shares total whole weights given).sum = total - given := by
  induction weights generalizing given with
  | nil => exact absurd rfl nonempty
  | cons weight rest ih =>
      cases rest with
      | nil => simp [shares]
      | cons next rest =>
          rw [shares, List.sum_cons, ih (List.cons_ne_nil next rest)]
          ring

/-- The last share is near when what is behind, with what the floors still cut off, makes less than
one. -/
theorem shares_near_iff {weights : List Int} (positive : 0 < whole) (nonempty : weights ≠ [])
    (behind : 0 ≤ total * (whole - weights.sum) - given * whole) :
    List.Forall₂ (Near total whole) weights (shares total whole weights given) ↔
      total * (whole - weights.sum) - given * whole + cut total whole weights < whole := by
  induction weights generalizing given with
  | nil => exact absurd rfl nonempty
  | cons weight rest ih =>
      cases rest with
      | nil =>
          -- Nothing is left to floor: the share's error is what is behind.
          rw [List.sum_singleton] at behind ⊢
          have error : (total - given) * whole - total * weight =
              total * (whole - weight) - given * whole := by ring
          simp only [shares, cut, List.dropLast_singleton, List.map_nil, List.sum_nil, add_zero,
            List.forall₂_cons, List.Forall₂.nil, and_true]
          rw [near_iff positive, error, abs_of_nonneg behind]
          constructor
          · exact fun both => both.2
          · intro small
            refine ⟨fun zero => ?_, small⟩
            rw [zero, sub_zero, ← sub_mul] at behind small
            have share_nonneg : 0 ≤ total - given := nonneg_of_mul_nonneg_left behind positive
            have share_small : total - given < 1 := by
              by_contra large
              nlinarith
            omega
      | cons next rest =>
          have parts := Int.mul_ediv_add_emod (total * weight) whole
          have low := Int.emod_nonneg (total * weight) positive.ne'
          have later : total * (whole - (next :: rest).sum) -
              (given + total * weight / whole) * whole =
                total * (whole - (weight :: next :: rest).sum) - given * whole +
                  total * weight % whole := by
            simp only [List.sum_cons]
            linear_combination -parts
          have still_behind := add_nonneg behind low
          rw [← later] at still_behind
          have kept := ih (List.cons_ne_nil next rest) still_behind
          rw [shares, List.forall₂_cons, kept, later]
          simp only [cut, List.dropLast_cons_cons, List.map_cons, List.sum_cons]
          rw [add_assoc]
          exact and_iff_right (floor_near positive)

/-- No share is negative, and none is more than there was. -/
theorem mem_shares {weights : List Int} (positive : 0 < whole) (nonneg : 0 ≤ total)
    (weights_nonneg : ∀ weight ∈ weights, 0 ≤ weight) (within : weights.sum ≤ whole)
    (given_nonneg : 0 ≤ given) (behind : given * whole ≤ total * (whole - weights.sum)) :
    ∀ share ∈ shares total whole weights given, 0 ≤ share ∧ share ≤ total := by
  induction weights generalizing given with
  | nil => simp [shares]
  | cons weight rest ih =>
      have weight_nonneg := weights_nonneg weight List.mem_cons_self
      have rest_nonneg : ∀ weight ∈ rest, 0 ≤ weight := fun other member =>
        weights_nonneg other (List.mem_cons_of_mem _ member)
      have rest_sum := List.sum_nonneg rest_nonneg
      rw [List.sum_cons] at within behind
      cases rest with
      | nil =>
          intro share member
          rcases List.mem_singleton.mp member with rfl
          have left : given ≤ total := by nlinarith
          omega
      | cons next rest =>
          have floor_nonneg : 0 ≤ total * weight / whole := by positivity
          have floor_mul := Int.ediv_mul_le (total * weight) positive.ne'
          have floor_le : total * weight / whole ≤ total := by nlinarith
          have given_later : 0 ≤ given + total * weight / whole := by linarith
          have later := ih rest_nonneg (by linarith) given_later (by linarith)
          intro share member
          rcases List.mem_cons.mp member with rfl | member
          · exact ⟨floor_nonneg, floor_le⟩
          · exact later share member

end Numu.LastShare

/-!
# Shares rounded one by one

Every share is rounded to a nearest integer on its own, and one more takes what the roundings
leave. That one is off by at most a half for each share that was not zero.
-/

namespace Numu.NearestShare

/-- A rounding to a nearest integer that keeps the order. -/
structure Rounds (round : ℚ → Int) : Prop where
  near : ∀ q, |(round q : ℚ) - q| ≤ 1 / 2
  mono : ∀ p q, p ≤ q → round p ≤ round q

namespace Rounds
variable {round : ℚ → Int} (rounds : Rounds round)
include rounds

/-- An integer is its own nearest. -/
theorem intCast (n : Int) : round n = n := by
  have near := abs_le.mp (rounds.near n)
  have below : (round n : ℚ) < n + 1 := by linarith [near.2]
  have above : (n : ℚ) < round n + 1 := by linarith [near.1]
  have below' : round n < n + 1 := by exact_mod_cast below
  have above' : n < round n + 1 := by exact_mod_cast above
  omega

theorem zero : round 0 = 0 := by exact_mod_cast rounds.intCast 0

/-- What lies between integers is rounded to between them. -/
theorem between {q : ℚ} {n : Int} (nonneg : 0 ≤ q) (le : q ≤ n) : 0 ≤ round q ∧ round q ≤ n := by
  have low := rounds.mono 0 q nonneg
  have high := rounds.mono q n le
  rw [rounds.zero] at low
  rw [rounds.intCast] at high
  exact ⟨low, high⟩

/-- Together the roundings are off by at most a half for each amount that is not zero. -/
theorem sum_near (amounts : List ℚ) :
    |((amounts.map round).sum : ℚ) - amounts.sum| ≤ (amounts.filter (· ≠ 0)).length / 2 := by
  induction amounts with
  | nil => simp
  | cons amount amounts ih =>
      have parts := abs_le.mp ih
      rw [List.map_cons, List.sum_cons, List.sum_cons, List.filter_cons]
      by_cases zero : amount = 0
      · rw [if_neg (by simp [zero]), zero, rounds.zero, Int.zero_add, zero_add]
        exact ih
      · have near := abs_le.mp (rounds.near amount)
        rw [if_pos (by simp [zero]), List.length_cons]
        rw [Int.cast_add, Nat.cast_add, Nat.cast_one, abs_le]
        constructor <;> linarith [parts.1, parts.2, near.1, near.2]

/-- The share that takes the rest is as near to its own amount as the others leave it. -/
theorem rest_near {amounts : List ℚ} {last : ℚ} {whole : Int}
    (total : amounts.sum + last = whole) :
    |((whole - (amounts.map round).sum : Int) : ℚ) - last| ≤ (amounts.filter (· ≠ 0)).length / 2 := by
  have off : ((whole - (amounts.map round).sum : Int) : ℚ) - last =
      -(((amounts.map round).sum : ℚ) - amounts.sum) := by
    rw [Int.cast_sub, ← total]
    linarith
  rw [off, abs_neg]
  exact rounds.sum_near amounts

end Rounds

end Numu.NearestShare
