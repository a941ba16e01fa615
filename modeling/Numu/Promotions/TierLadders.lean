import Mathlib.Data.Set.Finite.Lemmas
import Mathlib.Data.Set.Finite.List
import Mathlib.Order.Bounds.Basic
import Numu.Foundation.Rounding
import Numu.Promotions.Multibuy
import Numu.Promotions.Scope

/-!
# Ladders of tiers

What a choice of groups takes off depends on how many units it spends and on its prices alone. The
loop goes by the saving per unit; with one tier that is as good as any choice, with two it is not.
-/

namespace Numu.Promotions
namespace DiscountRule

def sizes (used : List (Nat × Nat)) : Nat := (used.map Prod.fst).sum

def costs (used : List (Nat × Nat)) : Nat := (used.map Prod.snd).sum

/-- What the tiers take off the first units. -/
def offer (units : List CartUnit) (used : List (Nat × Nat)) : Int :=
  unitsValue (units.take (sizes used)) - costs used

/-- Disjoint groups, each of some tier's quantity. -/
structure Packing (tiers : List (Nat × Nat)) (units : List CartUnit)
    (groups : List ((Nat × Nat) × List CartUnit)) : Prop where
  sized : ∀ group ∈ groups, group.1 ∈ tiers ∧ group.2.length = group.1.1
  disjoint : (groups.flatMap Prod.snd).Subperm units

def packingSaving (groups : List ((Nat × Nat) × List CartUnit)) : Int :=
  (groups.map fun group => unitsValue group.2 - group.1.2).sum

theorem packingSaving_eq (groups : List ((Nat × Nat) × List CartUnit)) :
    packingSaving groups =
      unitsValue (groups.flatMap Prod.snd) - costs (groups.map Prod.fst) := by
  induction groups with
  | nil => simp [packingSaving, costs, unitsValue]
  | cons group groups ih =>
      rw [packingSaving] at ih ⊢
      rw [costs] at ih ⊢
      rw [List.map_cons, List.sum_cons, ih, List.flatMap_cons, unitsValue_append, List.map_cons,
        List.map_cons, List.sum_cons]
      push_cast
      omega

theorem Packing.size {tiers : List (Nat × Nat)} {units : List CartUnit}
    {groups : List ((Nat × Nat) × List CartUnit)} (packing : Packing tiers units groups) :
    (groups.flatMap Prod.snd).length = sizes (groups.map Prod.fst) := by
  have sized := packing.sized
  clear packing
  induction groups with
  | nil => rfl
  | cons group groups ih =>
      have later := ih fun other mem => sized other (List.mem_cons_of_mem _ mem)
      rw [sizes] at later ⊢
      rw [List.flatMap_cons, List.length_append, later, (sized group List.mem_cons_self).2,
        List.map_cons, List.map_cons, List.sum_cons]

/-- No groups take off more than their tiers do of the first units. -/
theorem Packing.le_offer {tiers : List (Nat × Nat)} {units : List CartUnit}
    (descending : TopSums.Descending (prices units))
    {groups : List ((Nat × Nat) × List CartUnit)} (packing : Packing tiers units groups) :
    packingSaving groups ≤ offer units (groups.map Prod.fst) := by
  have top := unitsValue_le_take descending packing.disjoint
  rw [packing.size] at top
  rw [packingSaving_eq, offer]
  omega

/-- Tiers that fit together are taken one after another from the front. -/
theorem packing_of {tiers used : List (Nat × Nat)} (within : ∀ tier ∈ used, tier ∈ tiers)
    {units : List CartUnit} (fits : sizes used ≤ units.length) :
    ∃ groups, Packing tiers units groups ∧ packingSaving groups = offer units used := by
  induction used generalizing units with
  | nil => exact ⟨[], ⟨by simp, by simp⟩, by simp [packingSaving, offer, sizes, costs, unitsValue]⟩
  | cons tier used ih =>
      have whole : sizes (tier :: used) = tier.1 + sizes used := by simp [sizes]
      have price : costs (tier :: used) = tier.2 + costs used := by simp [costs]
      have fewer : sizes used ≤ (units.drop tier.1).length := by
        rw [List.length_drop]
        omega
      rcases ih (fun other mem => within other (List.mem_cons_of_mem _ mem)) fewer with
        ⟨groups, ⟨sized, disjoint⟩, saving⟩
      refine ⟨(tier, units.take tier.1) :: groups, ⟨?_, ?_⟩, ?_⟩
      · intro group mem
        rcases List.mem_cons.mp mem with rfl | mem
        · refine ⟨within tier List.mem_cons_self, ?_⟩
          rw [List.length_take]
          exact Nat.min_eq_left (by omega)
        · exact sized group mem
      · rw [List.flatMap_cons]
        have together := (List.subperm_append_left (units.take tier.1)).mpr disjoint
        rw [List.take_append_drop] at together
        exact together
      · rw [packingSaving] at saving ⊢
        rw [List.map_cons, List.sum_cons, saving, offer, offer, whole, price, List.take_add,
          unitsValue_append]
        push_cast
        omega

/-- What the loop takes off. -/
def ladderSavings (tiers : List (Nat × Nat)) (fuel : Nat) (units : List CartUnit) : Int :=
  ((multibuyGroups tiers fuel units).map MultibuyGroup.saving).sum

theorem ladderSavings_of_none {tiers : List (Nat × Nat)} {units : List CartUnit}
    (none_ : bestTier tiers units = none) (fuel : Nat) : ladderSavings tiers fuel units = 0 := by
  rw [ladderSavings, multibuyGroups_of_none none_]
  rfl

theorem ladderSavings_of_some {tiers : List (Nat × Nat)} {units : List CartUnit} {pick : TierPick}
    (some_ : bestTier tiers units = some pick) (fuel : Nat) :
    ladderSavings tiers (fuel + 1) units =
      pick.saving + ladderSavings tiers fuel (units.drop pick.quantity) := by
  rw [ladderSavings, multibuyGroups, some_]
  rfl

theorem ladderSavings_nonneg (tiers : List (Nat × Nat)) (fuel : Nat) (units : List CartUnit) :
    0 ≤ ladderSavings tiers fuel units := by
  induction fuel generalizing units with
  | zero => simp [ladderSavings, multibuyGroups]
  | succ fuel ih =>
      cases best : bestTier tiers units with
      | none => rw [ladderSavings_of_none best]
      | some pick =>
          rcases bestTier_round best with ⟨price, -, -, -, saves⟩
          have later := ih (units.drop pick.quantity)
          rw [ladderSavings_of_some best]
          omega

/-- Every smaller tier costs more per unit. -/
def Sensible (tiers : List (Nat × Nat)) (tier : Nat × Nat) : Prop :=
  ∀ smaller ∈ tiers, smaller.1 < tier.1 → tier.2 * smaller.1 < smaller.2 * tier.1

/-- A tier whose saving per unit is no less is not beaten. -/
theorem perUnit_le {units : List CartUnit} {first second : Nat × Nat} {pick other : TierPick}
    (first_pos : 0 < first.1) (second_pos : 0 < second.1)
    (candidate : tierPick units first = some pick) (candidate' : tierPick units second = some other)
    (le : pick.saving * second.1 ≤ other.saving * first.1) : pick.perUnit ≤ other.perUnit := by
  rcases tierPick_eq_some.mp candidate with ⟨-, saves, rfl⟩
  rcases tierPick_eq_some.mp candidate' with ⟨-, saves', rfl⟩
  dsimp only at le ⊢
  apply Binary64.trueDiv_mono first_pos second_pos
  generalize unitsValue (units.take first.1) - first.2 = saving at saves le
  generalize unitsValue (units.take second.1) - second.2 = saving' at saves' le
  lift saving to Nat using saves.le
  lift saving' to Nat using saves'.le
  rw [div_le_div_iff₀ (by exact_mod_cast first_pos) (by exact_mod_cast second_pos)]
  exact_mod_cast le

/-- A tier that is not the best saves less per unit than the best one, if it is smaller. -/
theorem saving_lt_of_best {tiers : List (Nat × Nat)} (positive : ∀ tier ∈ tiers, 0 < tier.1)
    {units : List CartUnit} {tier other : Nat × Nat} (mem : tier ∈ tiers) (mem' : other ∈ tiers)
    {pick : TierPick} (best : bestTier tiers units = some pick)
    (candidate : tierPick units tier = some pick) (smaller : other.1 < tier.1) :
    (unitsValue (units.take other.1) - other.2) * tier.1 <
      (unitsValue (units.take tier.1) - tier.2) * other.1 := by
  rcases tierPick_eq_some.mp candidate with ⟨fits, saves, shape⟩
  have right : 0 < (unitsValue (units.take tier.1) - tier.2) * other.1 :=
    Int.mul_pos saves (by exact_mod_cast positive other mem')
  by_cases saves' : 0 < unitsValue (units.take other.1) - other.2
  · by_contra more
    have candidate' := tierPick_eq_some.mpr ⟨smaller.le.trans fits, saves', rfl⟩
    have above := (bestTier_eq_some best).2 other mem' _ candidate'
    have rate := perUnit_le (positive tier mem) (positive other mem') candidate candidate'
      (by rw [shape]; exact not_lt.mp more)
    rw [TierPick.beats, Bool.or_eq_false_iff, Bool.and_eq_false_iff, decide_eq_false_iff_not,
      decide_eq_false_iff_not, decide_eq_false_iff_not] at above
    rcases above with ⟨notMore, different | larger⟩
    · exact different (le_antisymm rate (not_lt.mp notMore))
    · rw [shape] at larger
      exact larger smaller
  · have left : (unitsValue (units.take other.1) - other.2) * tier.1 ≤ 0 :=
      Int.mul_nonpos_of_nonpos_of_nonneg (not_lt.mp saves') (Int.natCast_nonneg _)
    exact left.trans_lt right

/-- The loop's tier costs less per unit than every smaller one: a smaller tier at no higher price
per unit has no less saving per unit and the smaller group. -/
theorem bestTier_sensible {tiers : List (Nat × Nat)} (positive : ∀ tier ∈ tiers, 0 < tier.1)
    {units : List CartUnit} (descending : TopSums.Descending (prices units)) {tier : Nat × Nat}
    (mem : tier ∈ tiers) {pick : TierPick} (best : bestTier tiers units = some pick)
    (candidate : tierPick units tier = some pick) : Sensible tiers tier := by
  intro smaller mem' less
  by_contra dear
  rcases tierPick_eq_some.mp candidate with ⟨fits, -, -⟩
  have room : tier.1 ≤ (prices units).length := by
    rw [prices, List.length_map]
    exact fits
  have average := TopSums.sum_take_average descending less.le room
  rw [← unitsValue_take, ← unitsValue_take, nsmul_eq_mul, nsmul_eq_mul] at average
  have price : (smaller.2 : Int) * tier.1 ≤ tier.2 * smaller.1 := by exact_mod_cast not_lt.mp dear
  have worse := saving_lt_of_best positive mem mem' best candidate less
  nlinarith

/-- The tiers of the loop's groups, and what they take off. -/
theorem ladderSavings_used {tiers : List (Nat × Nat)} (positive : ∀ tier ∈ tiers, 0 < tier.1)
    (fuel : Nat) {units : List CartUnit} (descending : TopSums.Descending (prices units)) :
    ∃ used, (∀ tier ∈ used, tier ∈ tiers ∧ Sensible tiers tier) ∧ sizes used ≤ units.length ∧
      ladderSavings tiers fuel units = offer units used := by
  induction fuel generalizing units with
  | zero => exact ⟨[], by simp, by simp [sizes],
      by simp [ladderSavings, multibuyGroups, offer, sizes, costs, unitsValue]⟩
  | succ fuel ih =>
      cases best : bestTier tiers units with
      | none =>
          rw [ladderSavings_of_none best]
          exact ⟨[], by simp, by simp [sizes], by simp [offer, sizes, costs, unitsValue]⟩
      | some pick =>
          rcases (bestTier_eq_some best).1 with ⟨tier, mem, candidate⟩
          have sensible := bestTier_sensible positive descending mem best candidate
          rcases tierPick_eq_some.mp candidate with ⟨fits, -, shape⟩
          have lower : TopSums.Descending (prices (units.drop tier.1)) := by
            rw [prices, List.map_drop]
            exact TopSums.Descending.drop descending tier.1
          rcases ih lower with ⟨used, within, room, same⟩
          rw [List.length_drop] at room
          have whole : sizes (tier :: used) = tier.1 + sizes used := by simp [sizes]
          have price : costs (tier :: used) = tier.2 + costs used := by simp [costs]
          refine ⟨tier :: used, List.forall_mem_cons.mpr ⟨⟨mem, sensible⟩, within⟩, ?_, ?_⟩
          · omega
          · rw [ladderSavings_of_some best, shape]
            dsimp only
            rw [same, offer, offer, whole, price, List.take_add, unitsValue_append]
            push_cast
            omega

/-- Where only one sensible tier leaves a unit over, no number of its groups takes off more. -/
theorem sole_tier_le_savings {tiers : List (Nat × Nat)} {sole : Nat × Nat}
    (positive : ∀ tier ∈ tiers, 0 < tier.1) (mem : sole ∈ tiers) {count fuel : Nat}
    {units : List CartUnit} (descending : TopSums.Descending (prices units))
    (distinct : ∀ tier ∈ tiers, tier.1 = sole.1 → tier = sole)
    (alone : ∀ tier ∈ tiers, Sensible tiers tier → tier.1 < units.length → tier = sole)
    (fits : count * sole.1 ≤ units.length) (fuelled : units.length ≤ fuel) :
    unitsValue (units.take (count * sole.1)) - count * sole.2 ≤ ladderSavings tiers fuel units := by
  have size_pos := positive sole mem
  induction count generalizing units fuel with
  | zero => simpa [unitsValue] using ladderSavings_nonneg tiers fuel units
  | succ count ih =>
      rw [Nat.succ_mul] at fits
      have room : (count + 1) * sole.1 ≤ (prices units).length := by
        rw [prices, List.length_map, Nat.succ_mul]
        exact fits
      have blocks := TopSums.sum_take_mul_le descending sole.1 room
      rw [← unitsValue_take, ← unitsValue_take, nsmul_eq_mul] at blocks
      have once : sole.1 ≤ units.length := by omega
      cases fuel with
      | zero => omega
      | succ fuel =>
          cases best : bestTier tiers units with
          | none =>
              have stopped := tierPick_eq_none.mp (bestTier_eq_none.mp best sole mem) once
              rw [ladderSavings_of_none best]
              have scaled := Int.mul_le_mul_of_nonneg_left stopped (Int.natCast_nonneg (count + 1))
              omega
          | some pick =>
              rcases (bestTier_eq_some best).1 with ⟨tier, mem', candidate⟩
              have sensible := bestTier_sensible positive descending mem' best candidate
              rcases tierPick_eq_some.mp candidate with ⟨room, saves, shape⟩
              rw [ladderSavings_of_some best, shape]
              dsimp only
              rcases Nat.lt_or_eq_of_le room with less | all
              · have same := alone tier mem' sensible less
                subst same
                have lower : TopSums.Descending (prices (units.drop tier.1)) := by
                  rw [prices, List.map_drop]
                  exact TopSums.Descending.drop descending tier.1
                have length : (units.drop tier.1).length = units.length - tier.1 :=
                  List.length_drop
                have later := ih lower
                  (fun other member sensible' less' => alone other member sensible' (by omega))
                  (by omega) (show (units.drop tier.1).length ≤ fuel by omega)
                rw [Nat.succ_mul, Nat.add_comm, List.take_add, unitsValue_append]
                push_cast
                rw [Int.add_mul]
                omega
              · have rest := ladderSavings_nonneg tiers fuel (units.drop tier.1)
                rcases Nat.lt_or_eq_of_le once with less | whole
                · have worse := saving_lt_of_best positive mem' mem best candidate (all ▸ less)
                  have groups : ((count + 1 : Nat) : Int) * sole.1 ≤ tier.1 := by
                    rw [all]
                    exact_mod_cast (Nat.succ_mul count sole.1).symm ▸ fits
                  have size' : (0 : Int) < sole.1 := by exact_mod_cast size_pos
                  generalize unitsValue (units.take sole.1) = value at blocks worse
                  rcases le_or_gt value sole.2 with nothing | something
                  · have scaled := Int.mul_le_mul_of_nonneg_left nothing
                      (Int.natCast_nonneg (count + 1))
                    omega
                  · have scaled : ((count + 1 : Nat) * (value - sole.2)) * sole.1 <
                        (unitsValue (units.take tier.1) - tier.2) * sole.1 := by
                      calc ((count + 1 : Nat) * (value - sole.2)) * (sole.1 : Int)
                          = (value - sole.2) * ((count + 1 : Nat) * sole.1) := by ring
                        _ ≤ (value - sole.2) * tier.1 :=
                            Int.mul_le_mul_of_nonneg_left groups (by omega)
                        _ < (unitsValue (units.take tier.1) - tier.2) * sole.1 := worse
                    have less' := lt_of_mul_lt_mul_right scaled size'.le
                    rw [Int.mul_sub] at less'
                    omega
                · have same := distinct tier mem' (all.trans whole.symm)
                  have none_ : count * tier.1 = 0 := by
                    rw [same]
                    omega
                  have once' : count = 0 := by
                    rcases Nat.mul_eq_zero.mp none_ with zero | zero
                    · exact zero
                    · have taken := positive tier mem'
                      omega
                  rw [once', ← same, Nat.zero_add, Nat.one_mul]
                  push_cast
                  omega

/-- The loop's groups are among the choices. -/
theorem ladderSavings_achieved {tiers : List (Nat × Nat)} (positive : ∀ tier ∈ tiers, 0 < tier.1)
    (fuel : Nat) {units : List CartUnit} (descending : TopSums.Descending (prices units)) :
    ∃ groups, Packing tiers units groups ∧ ladderSavings tiers fuel units = packingSaving groups := by
  rcases ladderSavings_used positive fuel descending with ⟨used, within, room, same⟩
  rcases packing_of (fun tier mem => (within tier mem).1) room with ⟨groups, packing, saving⟩
  exact ⟨groups, packing, same.trans saving.symm⟩

theorem sizes_replicate (count : Nat) (tier : Nat × Nat) :
    sizes (List.replicate count tier) = count * tier.1 := by
  simp [sizes]

theorem costs_replicate (count : Nat) (tier : Nat × Nat) :
    costs (List.replicate count tier) = count * tier.2 := by
  simp [costs]

/-- Where one tier alone fits the units, no groups take off more than the loop. -/
theorem packing_le_savings {tiers : List (Nat × Nat)} (positive : ∀ tier ∈ tiers, 0 < tier.1)
    {units : List CartUnit} (descending : TopSums.Descending (prices units))
    (alone : ∀ first ∈ tiers, ∀ second ∈ tiers, first.1 ≤ units.length →
      second.1 ≤ units.length → first = second)
    (distinct : ∀ first ∈ tiers, ∀ second ∈ tiers, first.1 = second.1 → first = second)
    {groups : List ((Nat × Nat) × List CartUnit)} (packing : Packing tiers units groups) {fuel : Nat}
    (fuelled : units.length ≤ fuel) : packingSaving groups ≤ ladderSavings tiers fuel units := by
  have fits : ∀ group ∈ groups, group.1.1 ≤ units.length := by
    intro group mem
    rw [← (packing.sized group mem).2]
    have inside : group.2.Sublist (groups.flatMap Prod.snd) := by
      rw [List.flatMap_def]
      exact List.sublist_flatten_of_mem (List.mem_map_of_mem mem)
    exact (inside.subperm.trans packing.disjoint).length_le
  cases groups with
  | nil => simpa [packingSaving] using ladderSavings_nonneg tiers fuel units
  | cons group rest =>
      have mem := (packing.sized group List.mem_cons_self).1
      have same : (group :: rest).map Prod.fst =
          List.replicate ((group :: rest).map Prod.fst).length group.1 := by
        apply List.eq_replicate_of_mem
        intro tier listed
        rcases List.mem_map.mp listed with ⟨other, member, rfl⟩
        exact alone _ (packing.sized other member).1 _ mem (fits other member)
          (fits group List.mem_cons_self)
      have below := packing.le_offer descending
      have room := packing.disjoint.length_le
      rw [packing.size] at room
      rw [same] at below room
      rw [sizes_replicate] at room
      rw [offer, sizes_replicate, costs_replicate] at below
      have most := sole_tier_le_savings positive mem descending
        (fun tier member size => distinct tier member group.1 mem size)
        (fun tier member _ less => alone tier member group.1 mem less.le
          (fits group List.mem_cons_self)) room fuelled
      push_cast at below
      exact below.trans most

/-- What the first units are worth: some dear ones, then some others, then nothing. -/
theorem value_of_steps {units : List CartUnit} {dear mid none_ : Nat} {high low : Int}
    (same : prices units =
      List.replicate dear high ++ (List.replicate mid low ++ List.replicate none_ 0)) (more : Nat) :
    unitsValue (units.take (dear + more)) = dear * high + (min more mid : Nat) * low := by
  rw [unitsValue_take, same, List.take_append, List.take_append]
  simp [List.take_replicate, List.sum_replicate]

theorem le_sizes {used : List (Nat × Nat)} {tier : Nat × Nat} (mem : tier ∈ used) :
    tier.1 ≤ sizes used :=
  List.le_sum_of_mem (List.mem_map_of_mem mem)

/-- Tiers that cost no less per unit than another one do so together. -/
theorem rate_le_costs {tier : Nat × Nat} {used : List (Nat × Nat)}
    (dearer : ∀ other ∈ used, tier.2 * other.1 ≤ other.2 * tier.1) :
    tier.2 * sizes used ≤ costs used * tier.1 := by
  induction used with
  | nil => simp [sizes]
  | cons other used ih =>
      have first := dearer other List.mem_cons_self
      have later := ih fun next mem => dearer next (List.mem_cons_of_mem _ mem)
      calc tier.2 * sizes (other :: used)
          = tier.2 * other.1 + tier.2 * sizes used := by simp [sizes, Nat.mul_add]
        _ ≤ other.2 * tier.1 + costs used * tier.1 := Nat.add_le_add first later
        _ = costs (other :: used) * tier.1 := by simp [costs, Nat.add_mul]

/-- The prices that make the loop lose: enough dear units for the smallest tier, then as many as
the larger tier has more, worth its price each, then nothing. -/
def losingPrices (small tier : Nat × Nat) (count : Nat) : List Int :=
  List.replicate small.1 ((tier.2 : Int) + 2 * small.2) ++
    (List.replicate (tier.1 - small.1) (tier.2 : Int) ++ List.replicate (count - tier.1) 0)

/-- Dear first units make the loop take the smallest tier first. -/
theorem small_first {tiers : List (Nat × Nat)} (positive : ∀ tier ∈ tiers, 0 < tier.1 ∧ 0 < tier.2)
    (distinct : ∀ first ∈ tiers, ∀ second ∈ tiers, first.1 = second.1 → first = second)
    {small tier : Nat × Nat} (mem : small ∈ tiers) (least : ∀ other ∈ tiers, small.1 ≤ other.1)
    {units : List CartUnit} (same : prices units = losingPrices small tier units.length)
    {pick : TierPick} (best : bestTier tiers units = some pick) :
    pick.quantity = small.1 ∧ pick.saving = unitsValue (units.take small.1) - small.2 := by
  have size : ∀ other ∈ tiers, 0 < other.1 := fun other member => (positive other member).1
  rcases (bestTier_eq_some best).1 with ⟨other, mem', candidate⟩
  rcases tierPick_eq_some.mp candidate with ⟨-, -, shape⟩
  rcases Nat.lt_or_eq_of_le (least other mem') with larger | equal
  · exfalso
    have worse := saving_lt_of_best size mem' mem best candidate larger
    rcases Nat.exists_eq_add_of_lt larger with ⟨more, gap⟩
    have first := value_of_steps same 0
    have second := value_of_steps same (more + 1)
    rw [Nat.add_zero] at first
    rw [gap, Nat.add_assoc, second, first] at worse
    have small_pos := positive small mem
    have other_pos := positive other mem'
    have few : ((min (more + 1) (tier.1 - small.1) : Nat) : Int) ≤ more + 1 := by
      exact_mod_cast Nat.min_le_left _ _
    generalize (min (more + 1) (tier.1 - small.1) : Nat) = within at worse few
    rw [Nat.zero_min] at worse
    have worth : (within : Int) * (tier.2 * small.1) ≤ (more + 1) * (tier.2 * small.1) :=
      Int.mul_le_mul_of_nonneg_right few (by positivity)
    have alone : (0 : Int) ≤ small.2 * small.1 * more := by positivity
    have spread : (0 : Int) ≤ small.2 * (more + 1) * (small.1 - 1) := by
      apply Int.mul_nonneg (by positivity)
      omega
    have paid : (0 : Int) < other.2 * small.1 := by
      exact_mod_cast Nat.mul_pos other_pos.2 small_pos.1
    push_cast at worse
    linarith
  · have whole := distinct small mem other mem' equal
    rw [shape, ← whole]
    exact ⟨rfl, rfl⟩

/-- The loop starts with the smallest tier and spoils the larger one, or comes to spend the units
of the larger one at a worse price. -/
theorem losingPrices_lose {tiers : List (Nat × Nat)}
    (positive : ∀ tier ∈ tiers, 0 < tier.1 ∧ 0 < tier.2)
    (distinct : ∀ first ∈ tiers, ∀ second ∈ tiers, first.1 = second.1 → first = second)
    {small tier : Nat × Nat} (mem : small ∈ tiers) (least : ∀ other ∈ tiers, small.1 ≤ other.1)
    (mem' : tier ∈ tiers) (sensible : Sensible tiers tier) (larger : small.1 < tier.1)
    {units : List CartUnit} (descending : TopSums.Descending (prices units))
    (fits : tier.1 ≤ units.length) (same : prices units = losingPrices small tier units.length)
    {fuel : Nat} (fuelled : units.length ≤ fuel) :
    ∃ used, (∀ tier ∈ used, tier ∈ tiers) ∧ sizes used ≤ units.length ∧
      ladderSavings tiers fuel units < offer units used := by
  have size : ∀ other ∈ tiers, 0 < other.1 := fun other member => (positive other member).1
  have small_pos := positive small mem
  have tier_pos := positive tier mem'
  have value := value_of_steps same
  have first := value 0
  have whole := value (tier.1 - small.1)
  rw [Nat.add_zero, Nat.zero_min] at first
  rw [Nat.add_sub_of_le larger.le, Nat.min_self] at whole
  cases fuel with
  | zero => omega
  | succ fuel =>
      cases best : bestTier tiers units with
      | none =>
          have stopped := tierPick_eq_none.mp (bestTier_eq_none.mp best small mem) (by omega)
          rw [first] at stopped
          have dear : (0 : Int) < (small.1 - 1) * (tier.2 + 2 * small.2) + small.2 + tier.2 := by
            have worth : (0 : Int) ≤ (small.1 - 1) * (tier.2 + 2 * small.2) := by
              apply Int.mul_nonneg <;> omega
            omega
          push_cast at stopped
          linarith
      | some pick =>
          rcases small_first positive distinct mem least same best with ⟨quantity, saving⟩
          rw [ladderSavings_of_some best, quantity, saving]
          have lower : TopSums.Descending (prices (units.drop small.1)) := by
            rw [prices, List.map_drop]
            exact TopSums.Descending.drop descending small.1
          rcases ladderSavings_used size fuel lower with ⟨used, within, room, later⟩
          rw [List.length_drop] at room
          have spent := value (sizes used)
          have rest : offer (units.drop small.1) used =
              unitsValue (units.take (small.1 + sizes used)) -
                unitsValue (units.take small.1) - costs used := by
            rw [offer, List.take_add, unitsValue_append]
            omega
          rw [later, rest]
          rcases Nat.lt_or_ge (sizes used) tier.1 with few | many
          · refine ⟨[tier], by simpa using mem', by simpa [sizes] using fits, ?_⟩
            have target : offer units [tier] = unitsValue (units.take tier.1) - tier.2 := by
              simp [offer, sizes, costs]
            rw [target, whole, spent]
            rcases Nat.lt_or_ge (sizes used) (tier.1 - small.1) with short | enough
            · -- the rest leaves a unit of the larger tier unspent
              have missed : ((sizes used + 1 : Nat) : Int) * tier.2 ≤
                  (tier.1 - small.1 : Nat) * tier.2 := by
                exact_mod_cast Nat.mul_le_mul_right tier.2 short
              rw [Nat.min_eq_left short.le]
              push_cast at missed ⊢
              linarith
            · -- the rest and the first group spend them dearer than the larger tier would
              have dearer : ∀ other ∈ used, tier.2 * other.1 ≤ other.2 * tier.1 := by
                intro other member
                have less := (le_sizes member).trans_lt few
                exact (sensible other (within other member).1 less).le
              have rates := rate_le_costs dearer
              have rate := sensible small mem larger
              have price : tier.2 < small.2 + costs used := by
                apply Nat.lt_of_mul_lt_mul_right (a := tier.1)
                calc tier.2 * tier.1
                    ≤ tier.2 * (small.1 + sizes used) := Nat.mul_le_mul_left _ (by omega)
                  _ = tier.2 * small.1 + tier.2 * sizes used := Nat.mul_add ..
                  _ < small.2 * tier.1 + costs used * tier.1 :=
                      Nat.add_lt_add_of_lt_of_le rate rates
                  _ = (small.2 + costs used) * tier.1 := (Nat.add_mul ..).symm
              rw [Nat.min_eq_right enough]
              omega
          · refine ⟨used, fun other member => (within other member).1, by omega, ?_⟩
            have worth := value (sizes used - small.1)
            rw [Nat.add_sub_of_le (by omega), Nat.min_eq_right (by omega)] at worth
            rw [offer, worth, spent, Nat.min_eq_right (by omega)]
            omega

def unitLine (price : Int) : CartLine :=
  { productId := 0, quantity := 1, unitPriceCents := price }

def cartOf (values : List Int) : DiscountContext where
  subtotalCents := values.sum
  lineItems := values.map unitLine

theorem prices_cartOf {values : List Int} (descending : TopSums.Descending values) :
    prices (expandUnits (cartOf values).lineItems none) = values := by
  have singles : (cartOf values).lineItems.flatMap (fun line =>
      List.replicate line.quantity.toNat (⟨line.unitPriceCents, line.productId, line⟩ : CartUnit)) =
        values.map fun price => ⟨price, 0, unitLine price⟩ := by
    rw [cartOf, List.flatMap_map, List.map_eq_flatMap]
    rfl
  have sorted : (values.map fun price => (⟨price, 0, unitLine price⟩ : CartUnit)).Pairwise
      fun a b => b.priceCents ≤ a.priceCents := List.pairwise_map.mpr descending
  rw [expandUnits, eligible, singles, List.Pairwise.insertionSort_eq sorted, prices, List.map_map]
  exact List.map_id values

theorem resolvedMultibuyTiers_distinct (rule : DiscountRule) :
    ∀ first ∈ rule.resolvedMultibuyTiers, ∀ second ∈ rule.resolvedMultibuyTiers,
      first.1 = second.1 → first = second := by
  intro first mem second mem' same
  rw [resolvedMultibuyTiers, (List.perm_insertionSort _ _).mem_iff,
    ← Table.get?_eq_some_iff] at mem mem'
  rw [same, mem'] at mem
  exact Prod.ext same (Option.some.inj mem).symm

/-- The loop's total is the best that disjoint groups can save on every cart of a size exactly
where at most one tier is small enough for it. -/
theorem multibuy_optimal_iff (rule : DiscountRule)
    (sensible : ∀ tier ∈ rule.resolvedMultibuyTiers, Sensible rule.resolvedMultibuyTiers tier)
    (count : Nat) :
    (∀ (context : DiscountContext) (lineFilter : Option LineFilter),
      (expandUnits context.lineItems lineFilter).length = count →
        IsGreatest {saving | ∃ groups, Packing rule.resolvedMultibuyTiers
            (expandUnits context.lineItems lineFilter) groups ∧ saving = packingSaving groups}
          (rule.multibuyTotal context lineFilter)) ↔
      ∀ first ∈ rule.resolvedMultibuyTiers, ∀ second ∈ rule.resolvedMultibuyTiers,
        first.1 ≤ count → second.1 ≤ count → first = second := by
  have positive : ∀ tier ∈ rule.resolvedMultibuyTiers, 0 < tier.1 ∧ 0 < tier.2 := by
    intro tier mem
    have bounds := rule.resolvedMultibuyTiers_bounds tier mem
    omega
  have size : ∀ tier ∈ rule.resolvedMultibuyTiers, 0 < tier.1 := fun tier mem =>
    (positive tier mem).1
  have distinct := rule.resolvedMultibuyTiers_distinct
  constructor
  · intro optimal first mem second mem' fits fits'
    by_contra different
    wlog ordered : first.1 < second.1 generalizing first second
    · have sizes_ne : first.1 ≠ second.1 := fun same => different (distinct _ mem _ mem' same)
      exact this second mem' first mem fits' fits (Ne.symm different) (by omega)
    rcases Set.exists_min_image {tier | tier ∈ rule.resolvedMultibuyTiers} Prod.fst
      (List.finite_toSet _) ⟨first, mem⟩ with ⟨small, mem_small, least⟩
    have larger : small.1 < second.1 := (least first mem).trans_lt ordered
    have length : (losingPrices small second count).length = count := by
      simp only [losingPrices, List.length_append, List.length_replicate]
      omega
    have descending : TopSums.Descending (losingPrices small second count) := by
      simp only [TopSums.Descending, losingPrices, List.pairwise_append, List.pairwise_replicate,
        List.mem_append, List.mem_replicate]
      grind
    have same := prices_cartOf descending
    have number : (expandUnits (cartOf (losingPrices small second count)).lineItems none).length =
        count := by
      rw [← List.length_map CartUnit.priceCents]
      exact (congrArg List.length same).trans length
    rcases losingPrices_lose positive distinct mem_small least mem' (sensible second mem') larger
      (expandUnits_descending _ _) (number.symm ▸ fits') (number.symm ▸ same)
      (le_refl _) with ⟨used, within, room, loses⟩
    rcases packing_of within room with ⟨groups, packing, saving⟩
    have best := (optimal _ none number).2 ⟨groups, packing, rfl⟩
    rw [saving] at best
    exact absurd loses (not_lt.mpr best)
  · intro alone context lineFilter length
    have descending := expandUnits_descending context.lineItems lineFilter
    constructor
    · exact ladderSavings_achieved size _ descending
    · rintro saving ⟨groups, packing, rfl⟩
      apply packing_le_savings size descending _ distinct packing (le_refl _)
      rw [length]
      exact alone

/-- Two for 8.00, four for 15.00. -/
theorem eightPounds_pos : 0 < 800 := by decide

def pairsAndFours : DiscountRule where
  kind := .multibuy
  multibuyTiers := [⟨2, 800, pair_fits, eightPounds_pos⟩, ⟨4, 1500, by decide, by decide⟩]

theorem pairsAndFours_sensible : ∀ tier ∈ pairsAndFours.resolvedMultibuyTiers,
    Sensible pairsAndFours.resolvedMultibuyTiers tier := by
  rw [show pairsAndFours.resolvedMultibuyTiers = [(4, 1500), (2, 800)] by decide +kernel]
  simp [Sensible]

theorem pairsAndFours_optimal_below_four :
    (∀ (context : DiscountContext) (lineFilter : Option LineFilter),
      (expandUnits context.lineItems lineFilter).length = 3 →
        IsGreatest {saving | ∃ groups, Packing pairsAndFours.resolvedMultibuyTiers
            (expandUnits context.lineItems lineFilter) groups ∧ saving = packingSaving groups}
          (pairsAndFours.multibuyTotal context lineFilter)) ↔
      ∀ first ∈ pairsAndFours.resolvedMultibuyTiers,
        ∀ second ∈ pairsAndFours.resolvedMultibuyTiers,
          first.1 ≤ 3 → second.1 ≤ 3 → first = second :=
  multibuy_optimal_iff pairsAndFours pairsAndFours_sensible 3

/-- Two units at 10.00 and two at 5.00: the pair saves 12.00 and then 2.00, the four 15.00. -/
theorem pairsAndFours_not_optimal :
    (∀ tier ∈ pairsAndFours.resolvedMultibuyTiers,
      Sensible pairsAndFours.resolvedMultibuyTiers tier) ∧
    ¬IsGreatest {saving | ∃ groups, Packing pairsAndFours.resolvedMultibuyTiers
        (expandUnits (cartOf [1000, 1000, 500, 500]).lineItems none) groups ∧
          saving = packingSaving groups}
      (pairsAndFours.multibuyTotal (cartOf [1000, 1000, 500, 500]) none) := by
  refine ⟨pairsAndFours_sensible, ?_⟩
  intro best
  have four : Packing pairsAndFours.resolvedMultibuyTiers
      (expandUnits (cartOf [1000, 1000, 500, 500]).lineItems none)
      [((4, 1500), expandUnits (cartOf [1000, 1000, 500, 500]).lineItems none)] :=
    ⟨by simp only [List.mem_singleton, forall_eq]; decide +kernel, by rw [List.flatMap_singleton]⟩
  have less := best.2 ⟨_, four, rfl⟩
  rw [show pairsAndFours.multibuyTotal (cartOf [1000, 1000, 500, 500]) none = 1400 by
    decide +kernel] at less
  revert less
  decide +kernel

end DiscountRule
end Numu.Promotions
