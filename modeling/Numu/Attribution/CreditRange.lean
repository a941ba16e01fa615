import Mathlib.Tactic.FieldSimp
import Mathlib.Tactic.Positivity
import Numu.Attribution.AttributionModels
import Numu.Foundation.Shares
import Numu.Foundation.Rounding

/-! How far from its exact share a touch's credit can be, floats taken for exact. -/

namespace Numu.Attribution
open Numu.Binary64 (roundHalfEven)

variable {τ : Type*}

/-- `shares` in exact arithmetic, with the rounding of the source. -/
def exactShares (weights : List ℚ) (revenueCents : Int) : List Int :=
  let totalWeight := weights.sum
  let raw := weights.map fun weight => roundHalfEven (revenueCents * (weight / totalWeight))
  addLast (revenueCents - raw.sum) raw

/-- `_distribute` in exact arithmetic. -/
def exactDistribute (touches : List τ) (weights : List ℚ) (revenueCents : Int) : List (τ × Int) :=
  if touches = [] ∨ revenueCents = 0 then touches.map fun touch => (touch, 0)
  else if weights.sum ≤ 0 then
    touches.zip (exactShares (List.replicate touches.length 1) revenueCents)
  else touches.zip (exactShares weights revenueCents)

theorem roundHalfEven_rounds : NearestShare.Rounds roundHalfEven where
  near := Binary64.abs_roundHalfEven_sub_le
  mono p q le := by
    have below := Binary64.roundHalfEven_le p
    have above := Binary64.le_roundHalfEven q
    rcases le.lt_or_eq with lt | same
    · have close : (roundHalfEven p : ℚ) < roundHalfEven q + 1 := by linarith
      have close' : roundHalfEven p < roundHalfEven q + 1 := by exact_mod_cast close
      omega
    · rw [same]

theorem addLast_concat (drift : Int) (front : List Int) (last : Int) :
    addLast drift (front ++ [last]) = front ++ [last + drift] := by
  induction front with
  | nil => rfl
  | cons share front ih =>
      rw [List.cons_append, List.cons_append, ← ih]
      cases front <;> rfl

/-- The last share of a list becomes what the others leave. -/
theorem addLast_rest (round : ℚ → Int) (front : List ℚ) (last : ℚ) (revenueCents : Int) :
    addLast (revenueCents - ((front ++ [last]).map round).sum) ((front ++ [last]).map round) =
      front.map round ++ [revenueCents - (front.map round).sum] := by
  rw [List.map_append, List.map_singleton, addLast_concat, List.sum_append, List.sum_singleton]
  congr 2
  omega

theorem exactShares_free (weights : List ℚ) : exactShares weights 0 = weights.map fun _ => 0 := by
  have zeros (raw : List Int) (zero : ∀ share ∈ raw, share = 0) : addLast (0 - raw.sum) raw = raw := by
    have total : raw.sum = 0 := List.sum_eq_zero zero
    rw [total]
    induction raw using List.reverseRecOn with
    | nil => rfl
    | append_singleton front last _ => rw [addLast_concat, sub_zero, Int.add_zero]
  have raw : (weights.map fun weight => roundHalfEven (((0 : Int) : ℚ) * (weight / weights.sum))) =
      weights.map fun _ => 0 := by
    apply List.map_congr_left
    intro weight _
    rw [Int.cast_zero, zero_mul]
    exact roundHalfEven_rounds.zero
  rw [exactShares, raw]
  apply zeros
  intro share mem
  exact (List.mem_map.mp mem).choose_spec.2.symm

theorem sum_amounts (revenue total : ℚ) (weights : List ℚ) :
    (weights.map fun weight => revenue * (weight / total)).sum = revenue * (weights.sum / total) := by
  induction weights with
  | nil => simp
  | cons weight weights ih =>
      rw [List.map_cons, List.sum_cons, List.sum_cons, ih]
      ring

/-- Weights with a sum are used as they are. -/
theorem exactDistribute_eq {touches : List τ} {weights : List ℚ}
    (aligned : weights.length = touches.length) (positive : 0 < weights.sum) (revenueCents : Int) :
    exactDistribute touches weights revenueCents =
      touches.zip (exactShares weights revenueCents) := by
  rw [exactDistribute]
  split_ifs with idle nothing
  · rcases idle with nobody | free
    · rw [nobody]
      rfl
    · rw [free, exactShares_free, List.map_const', aligned]
      apply List.ext_getElem
      · simp
      · simp
  · exact absurd nothing (not_le.mpr positive)
  · rfl

/-- Every touch but the last is credited between nothing and the revenue, nothing for a weight of
zero, and no less than a touch of less weight. The last one takes the rest: never more than the
revenue, and off its exact share by at most a half for each other touch that has a weight. -/
theorem credits_in_range (touches : List τ) (weights : List ℚ) (revenueCents : Int)
    (aligned : weights.length = touches.length) (nonneg : ∀ weight ∈ weights, 0 ≤ weight)
    (positive : 0 < weights.sum) (earned : 0 ≤ revenueCents) :
    ∃ (front : List Int) (last : Int), (exactDistribute touches weights revenueCents).map Prod.snd = front ++ [last] ∧
      (∀ credit ∈ front, 0 ≤ credit ∧ credit ≤ revenueCents) ∧
      (∀ (i : Nat) (weight : ℚ) (credit : Int), weights[i]? = some weight →
        front[i]? = some credit → weight = 0 → credit = 0) ∧
      (∀ (i j : Nat) (weight weight' : ℚ) (credit credit' : Int), weights[i]? = some weight →
        weights[j]? = some weight' → front[i]? = some credit → front[j]? = some credit' →
          weight ≤ weight' → credit ≤ credit') ∧
      last = revenueCents - front.sum ∧ last ≤ revenueCents ∧
      ∀ weight, weights.getLast? = some weight →
        |(last : ℚ) - revenueCents * (weight / weights.sum)| ≤
          (weights.dropLast.filter (0 < ·)).length / 2 := by
  have weighted : weights ≠ [] := by
    rintro rfl
    exact lt_irrefl _ positive
  obtain ⟨front, last, rfl⟩ := List.eq_nil_or_concat' weights |>.resolve_left weighted
  let total := (front ++ [last]).sum
  let amount (weight : ℚ) : ℚ := revenueCents * (weight / total)
  let credits := front.map fun weight => roundHalfEven (amount weight)
  have credited : (exactDistribute touches (front ++ [last]) revenueCents).map Prod.snd =
      credits ++ [revenueCents - credits.sum] := by
    have shares := addLast_rest (fun weight => roundHalfEven (amount weight)) front last revenueCents
    rw [exactDistribute_eq aligned positive, List.map_snd_zip (by rw [exactShares, length_addLast,
      List.length_map, aligned])]
    exact shares
  have revenue_nonneg : (0 : ℚ) ≤ revenueCents := by exact_mod_cast earned
  have amount_mono {weight weight' : ℚ} (le : weight ≤ weight') : amount weight ≤ amount weight' :=
    mul_le_mul_of_nonneg_left (div_le_div_of_nonneg_right le positive.le) revenue_nonneg
  have amount_zero : amount 0 = 0 := by simp [amount]
  have amount_total : amount total = revenueCents := by
    simp only [amount]
    rw [div_self positive.ne', mul_one]
  have share {weight : ℚ} (mem : weight ∈ front) :
      0 ≤ roundHalfEven (amount weight) ∧ roundHalfEven (amount weight) ≤ revenueCents := by
    have inside : weight ∈ front ++ [last] := List.mem_append_left _ mem
    have low := amount_mono (nonneg weight inside)
    have high := amount_mono (List.single_le_sum nonneg weight inside)
    rw [amount_zero] at low
    exact roundHalfEven_rounds.between low (high.trans_eq amount_total)
  -- The places of the credits before the last are those of their weights.
  have placed {i : Nat} {weight : ℚ} {credit : Int} (weight_ : (front ++ [last])[i]? = some weight)
      (credit_ : credits[i]? = some credit) : credit = roundHalfEven (amount weight) := by
    rw [List.getElem?_map, Option.map_eq_some_iff] at credit_
    obtain ⟨found, here, rfl⟩ := credit_
    have inside := (List.getElem?_eq_some_iff.mp here).1
    rw [List.getElem?_append_left inside, here, Option.some.injEq] at weight_
    rw [weight_]
  refine ⟨credits, revenueCents - credits.sum, credited, ?_, ?_, ?_, rfl, ?_, ?_⟩
  · intro credit mem
    obtain ⟨weight, inside, rfl⟩ := List.mem_map.mp mem
    exact share inside
  · intro i weight credit weight_ credit_ zero
    rw [placed weight_ credit_, zero, amount_zero]
    exact roundHalfEven_rounds.zero
  · intro i j weight weight' credit credit' weight_ weight'_ credit_ credit'_ le
    rw [placed weight_ credit_, placed weight'_ credit'_]
    exact roundHalfEven_rounds.mono _ _ (amount_mono le)
  · have others : 0 ≤ credits.sum := by
      apply List.sum_nonneg
      intro credit mem
      obtain ⟨weight, inside, rfl⟩ := List.mem_map.mp mem
      exact (share inside).1
    omega
  · intro weight here
    rw [List.getLast?_concat, Option.some.injEq] at here
    subst here
    have shares : (front.map amount).sum + amount last = revenueCents := by
      have whole := sum_amounts revenueCents total (front ++ [last])
      rw [List.map_append, List.sum_append, List.map_singleton, List.sum_singleton] at whole
      exact whole.trans amount_total
    have near := roundHalfEven_rounds.rest_near shares
    rw [List.map_map] at near
    refine near.trans ?_
    -- A weight of zero is rounded without an error.
    have fewer : ((front.map amount).filter (· ≠ 0)).length ≤ (front.filter (0 < ·)).length := by
      rw [← List.countP_eq_length_filter, ← List.countP_eq_length_filter, List.countP_map]
      apply List.countP_mono_left
      intro weight mem some_
      have weight_nonneg := nonneg weight (List.mem_append_left _ mem)
      have weighs : weight ≠ 0 := by
        rintro rfl
        exact absurd amount_zero (of_decide_eq_true some_)
      exact decide_eq_true (lt_of_le_of_ne weight_nonneg weighs.symm)
    rw [List.dropLast_concat]
    have fewer' : (((front.map amount).filter (· ≠ 0)).length : ℚ) ≤ (front.filter (0 < ·)).length := by
      exact_mod_cast fewer
    linarith

/-- Three touches of weights one, two and one. -/
theorem middle_credit_in_range :
    ∃ (front : List Int) (last : Int),
      (exactDistribute ["a", "b", "c"] [1, 2, 1] 10).map Prod.snd = front ++ [last] ∧
      (∀ credit ∈ front, 0 ≤ credit ∧ credit ≤ 10) :=
  have ⟨front, last, credited, range, _⟩ := credits_in_range ["a", "b", "c"] [1, 2, 1] 10 rfl
    (by decide) (by decide +kernel) (by decide)
  ⟨front, last, credited, range⟩

/-- Ten even touches of fifteen cents: nine get two, and the last one owes three. -/
theorem last_credit_negative :
    (exactDistribute (List.range 10) (List.replicate 10 1) 15).map Prod.snd =
      List.replicate 9 2 ++ [-3] := by decide +kernel

end Numu.Attribution
