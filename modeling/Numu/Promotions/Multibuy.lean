import Numu.Foundation.TopSums
import Numu.Promotions.DiscountRule

/-!
# The groups of a multibuy

The loop takes its groups from the front of the units, most expensive first, so that what it leaves
is the cheap end of the cart: no selection of it is worth more than its first units.
-/

namespace Numu.Promotions
open Numu.Orders (UUID)

def prices (units : List CartUnit) : List Int := units.map CartUnit.priceCents

theorem unitsValue_take (units : List CartUnit) (count : Nat) :
    unitsValue (units.take count) = ((prices units).take count).sum := by
  rw [unitsValue, prices, List.map_take]

theorem expandUnits_descending (lines : List CartLine) (filter : Option LineFilter) :
    TopSums.Descending (prices (expandUnits lines filter)) := by
  rw [TopSums.Descending, prices, List.pairwise_map, expandUnits]
  have total : Std.Total fun a b : CartUnit => b.priceCents ≤ a.priceCents :=
    ⟨fun a b => Int.le_total b.priceCents a.priceCents⟩
  have trans_ : IsTrans CartUnit fun a b => b.priceCents ≤ a.priceCents :=
    ⟨fun _ _ _ first second => second.trans first⟩
  exact List.pairwise_insertionSort _ _

/-- The first units are worth no less than any others of the same number. -/
theorem unitsValue_le_take {units chosen : List CartUnit}
    (descending : TopSums.Descending (prices units)) (subperm : chosen.Subperm units) :
    unitsValue chosen ≤ unitsValue (units.take chosen.length) := by
  rcases subperm with ⟨sorted, perm, sublist⟩
  have mapped : (prices chosen).Subperm (prices units) :=
    ⟨prices sorted, perm.map _, sublist.map _⟩
  have sums := TopSums.sum_le_of_subperm descending mapped
  rw [prices, List.length_map] at sums
  rw [unitsValue_take]
  exact sums

namespace DiscountRule

theorem TierPick.not_beats_self (pick : TierPick) : pick.beats pick = false := by
  simp [TierPick.beats]

theorem TierPick.not_beats_of_beats {pick held : TierPick} (beats : pick.beats held = true) :
    held.beats pick = false := by
  simp only [TierPick.beats, Bool.or_eq_true, Bool.or_eq_false_iff, Bool.and_eq_true,
    Bool.and_eq_false_iff, decide_eq_true_eq, decide_eq_false_iff_not] at beats ⊢
  grind

theorem TierPick.not_beats_trans {first second third : TierPick}
    (below : first.beats second = false) (above : second.beats third = false) :
    first.beats third = false := by
  simp only [TierPick.beats, Bool.or_eq_false_iff, Bool.and_eq_false_iff,
    decide_eq_false_iff_not] at below above ⊢
  grind

/-- What a tier saves on the units, if it fits and saves something. -/
def tierPick (units : List CartUnit) (tier : Nat × Nat) : Option TierPick :=
  let saving := unitsValue (units.take tier.1) - tier.2
  if units.length < tier.1 ∨ saving ≤ 0 then none
  else some ⟨Binary64.trueDiv saving.toNat tier.1, saving, tier.1⟩

theorem tierPick_eq_none {units : List CartUnit} {tier : Nat × Nat} :
    tierPick units tier = none ↔
      (tier.1 ≤ units.length → unitsValue (units.take tier.1) ≤ tier.2) := by
  simp only [tierPick, ite_eq_left_iff, reduceCtorEq, imp_false, not_not]
  omega

theorem tierPick_eq_some {units : List CartUnit} {tier : Nat × Nat} {pick : TierPick} :
    tierPick units tier = some pick ↔ tier.1 ≤ units.length ∧
      0 < unitsValue (units.take tier.1) - tier.2 ∧
      pick = ⟨Binary64.trueDiv (unitsValue (units.take tier.1) - tier.2).toNat tier.1,
        unitsValue (units.take tier.1) - tier.2, tier.1⟩ := by
  simp only [tierPick, Option.ite_none_left_eq_some, Option.some.injEq, not_or, not_lt, not_le,
    and_assoc]
  exact ⟨fun ⟨fits, saves, same⟩ => ⟨fits, saves, same.symm⟩,
    fun ⟨fits, saves, same⟩ => ⟨fits, saves, same.symm⟩⟩

theorem offerTier_eq (units : List CartUnit) (best : Option TierPick) (tier : Nat × Nat) :
    offerTier units best tier =
      match tierPick units tier, best with
      | none, _ => best
      | some pick, none => some pick
      | some pick, some held => if pick.beats held then some pick else best := by
  rw [offerTier, tierPick]
  by_cases fits : units.length < tier.1
  · rw [if_pos fits, if_pos (.inl fits)]
  · rw [if_neg fits]
    dsimp only
    by_cases saves : unitsValue (units.take tier.1) - tier.2 ≤ 0
    · rw [if_pos saves, if_pos (.inr saves)]
    · rw [if_neg saves, if_neg (not_or.mpr ⟨fits, saves⟩)]
      cases best <;> rfl

theorem offerTier_source {units : List CartUnit} {best : Option TierPick} {tier : Nat × Nat}
    {pick : TierPick} (offered : offerTier units best tier = some pick) :
    best = some pick ∨ tierPick units tier = some pick := by
  rw [offerTier_eq] at offered
  cases candidate : tierPick units tier with
  | none =>
      rw [candidate] at offered
      exact .inl offered
  | some fresh =>
      rw [candidate] at offered
      cases best with
      | none => exact .inr offered
      | some held =>
          dsimp only at offered
          split at offered
          · exact .inr offered
          · exact .inl offered

theorem offerTier_above {units : List CartUnit} {best : Option TierPick} {tier : Nat × Nat}
    {other : TierPick} (offered : best = some other ∨ tierPick units tier = some other) :
    ∃ pick, offerTier units best tier = some pick ∧ other.beats pick = false := by
  rw [offerTier_eq]
  cases candidate : tierPick units tier with
  | none =>
      rw [candidate] at offered
      rcases offered with rfl | absent
      · exact ⟨other, rfl, other.not_beats_self⟩
      · cases absent
  | some fresh =>
      rw [candidate] at offered
      cases best with
      | none =>
          rcases offered with absent | same
          · cases absent
          · cases same
            exact ⟨_, rfl, TierPick.not_beats_self _⟩
      | some held =>
          dsimp only
          split
          · rename_i beats
            rcases offered with same | same
            · cases same
              exact ⟨fresh, rfl, TierPick.not_beats_of_beats beats⟩
            · cases same
              exact ⟨_, rfl, TierPick.not_beats_self _⟩
          · rename_i beaten
            rcases offered with same | same
            · cases same
              exact ⟨_, rfl, TierPick.not_beats_self _⟩
            · cases same
              exact ⟨held, rfl, by simpa using beaten⟩

theorem foldl_offerTier_source {units : List CartUnit} {tiers : List (Nat × Nat)}
    {best : Option TierPick} {pick : TierPick}
    (folded : tiers.foldl (offerTier units) best = some pick) :
    best = some pick ∨ ∃ tier ∈ tiers, tierPick units tier = some pick := by
  induction tiers generalizing best with
  | nil => exact .inl folded
  | cons tier rest ih =>
      rcases ih folded with offered | ⟨later, mem, candidate⟩
      · rcases offerTier_source offered with held | candidate
        · exact .inl held
        · exact .inr ⟨tier, List.mem_cons_self, candidate⟩
      · exact .inr ⟨later, List.mem_cons_of_mem _ mem, candidate⟩

theorem foldl_offerTier_above {units : List CartUnit} {tiers : List (Nat × Nat)}
    {best : Option TierPick} {other : TierPick}
    (offered : best = some other ∨ ∃ tier ∈ tiers, tierPick units tier = some other) :
    ∃ pick, tiers.foldl (offerTier units) best = some pick ∧ other.beats pick = false := by
  induction tiers generalizing best other with
  | nil =>
      rcases offered with rfl | ⟨tier, mem, -⟩
      · exact ⟨other, rfl, other.not_beats_self⟩
      · cases mem
  | cons tier rest ih =>
      have now : (best = some other ∨ tierPick units tier = some other) ∨
          ∃ later ∈ rest, tierPick units later = some other := by
        rcases offered with held | ⟨later, mem, candidate⟩
        · exact .inl (.inl held)
        · rcases List.mem_cons.mp mem with rfl | mem
          · exact .inl (.inr candidate)
          · exact .inr ⟨later, mem, candidate⟩
      rw [List.foldl_cons]
      rcases now with here | later
      · rcases offerTier_above here with ⟨pick, offers, below⟩
        rcases ih (.inl offers) with ⟨final, folded, above⟩
        exact ⟨final, folded, TierPick.not_beats_trans below above⟩
      · exact ih (.inr later)

/-- The best tier is one that fits and saves, and no other beats it. -/
theorem bestTier_eq_some {tiers : List (Nat × Nat)} {units : List CartUnit} {pick : TierPick}
    (best : bestTier tiers units = some pick) :
    (∃ tier ∈ tiers, tierPick units tier = some pick) ∧
      ∀ tier ∈ tiers, ∀ other, tierPick units tier = some other → other.beats pick = false := by
  constructor
  · rcases foldl_offerTier_source best with absent | source
    · cases absent
    · exact source
  · intro tier mem other candidate
    rcases foldl_offerTier_above (.inr ⟨tier, mem, candidate⟩) with ⟨final, folded, above⟩
    have same : some final = some pick := folded.symm.trans best
    cases same
    exact above

theorem bestTier_eq_none {tiers : List (Nat × Nat)} {units : List CartUnit} :
    bestTier tiers units = none ↔ ∀ tier ∈ tiers, tierPick units tier = none := by
  constructor
  · intro stopped tier mem
    cases candidate : tierPick units tier with
    | none => rfl
    | some other =>
        have offered : none = some other ∨ ∃ later ∈ tiers, tierPick units later = some other :=
          .inr ⟨tier, mem, candidate⟩
        rcases foldl_offerTier_above offered with ⟨final, folded, -⟩
        have absurd_ : some final = none := folded.symm.trans stopped
        cases absurd_
  · intro all
    cases best : bestTier tiers units with
    | none => rfl
    | some pick =>
        rcases (bestTier_eq_some best).1 with ⟨tier, mem, candidate⟩
        rw [all tier mem] at candidate
        cases candidate

/-- The groups that the loop takes from the units and what it leaves when it stops. -/
structure Groups (tiers : List (Nat × Nat)) (units : List CartUnit) (groups : List MultibuyGroup)
    (rest : List CartUnit) : Prop where
  taken : groups.flatMap MultibuyGroup.units ++ rest = units
  priced : ∀ group ∈ groups, ∃ price, (group.quantity, price) ∈ tiers ∧
    group.units.length = group.quantity ∧ group.saving = unitsValue group.units - price ∧
      0 < group.saving
  stopped : bestTier tiers rest = none

/-- What a round takes. -/
theorem bestTier_round {tiers : List (Nat × Nat)} {units : List CartUnit} {pick : TierPick}
    (best : bestTier tiers units = some pick) :
    ∃ price, (pick.quantity, price) ∈ tiers ∧ pick.quantity ≤ units.length ∧
      pick.saving = unitsValue (units.take pick.quantity) - price ∧ 0 < pick.saving := by
  rcases (bestTier_eq_some best).1 with ⟨tier, mem, candidate⟩
  rcases tierPick_eq_some.mp candidate with ⟨fits, saves, rfl⟩
  exact ⟨tier.2, mem, fits, rfl, saves⟩

/-- The loop ends: each round takes at least one unit, so the number of units is fuel enough. -/
theorem multibuyGroups_groups {tiers : List (Nat × Nat)} (positive : ∀ tier ∈ tiers, 0 < tier.1)
    {fuel : Nat} {units : List CartUnit} (enough : units.length ≤ fuel) :
    ∃ rest, Groups tiers units (multibuyGroups tiers fuel units) rest := by
  induction fuel generalizing units with
  | zero =>
      have empty : units = [] := List.length_eq_zero_iff.mp (Nat.le_zero.mp enough)
      refine ⟨[], by simp [empty, multibuyGroups], by simp [multibuyGroups], ?_⟩
      rw [bestTier_eq_none]
      intro tier mem
      rw [tierPick_eq_none]
      intro fits
      exact absurd (positive tier mem) (by simpa using fits)
  | succ fuel ih =>
      rw [multibuyGroups]
      cases best : bestTier tiers units with
      | none => exact ⟨units, rfl, by simp, best⟩
      | some pick =>
          rcases bestTier_round best with ⟨price, mem, fits, saving, saves⟩
          have taken : 0 < pick.quantity := positive _ mem
          have fewer : (units.drop pick.quantity).length ≤ fuel := by
            rw [List.length_drop]
            omega
          rcases ih fewer with ⟨rest, later⟩
          refine ⟨rest, ?_, ?_, later.stopped⟩
          · rw [List.flatMap_cons, List.append_assoc, later.taken, List.take_append_drop]
          · intro group member
            rcases List.mem_cons.mp member with rfl | member
            · refine ⟨price, mem, ?_, saving, saves⟩
              rw [List.length_take]
              exact Nat.min_eq_left fits
            · exact later.priced group member

theorem multibuyGroups_of_none {tiers : List (Nat × Nat)} {units : List CartUnit}
    (none_ : bestTier tiers units = none) (fuel : Nat) : multibuyGroups tiers fuel units = [] := by
  cases fuel with
  | zero => rfl
  | succ fuel => rw [multibuyGroups, none_]

theorem Groups.left {tiers : List (Nat × Nat)} {units rest : List CartUnit}
    {groups : List MultibuyGroup} (taken : Groups tiers units groups rest) :
    rest.Sublist units := by
  rw [← taken.taken]
  exact List.sublist_append_right _ _

/-- Nothing of what the loop leaves would save anything with any tier. -/
theorem Groups.exhausted {tiers : List (Nat × Nat)} {units rest : List CartUnit}
    {groups : List MultibuyGroup} (taken : Groups tiers units groups rest)
    (descending : TopSums.Descending (prices units)) {tier : Nat × Nat} (mem : tier ∈ tiers)
    {selection : List CartUnit} (subperm : selection.Subperm rest)
    (size : selection.length = tier.1) : unitsValue selection ≤ tier.2 := by
  have lower : TopSums.Descending (prices rest) :=
    List.Pairwise.sublist (taken.left.map CartUnit.priceCents) descending
  have top := unitsValue_le_take lower subperm
  have enough := subperm.length_le
  rw [size] at top enough
  have none_ := bestTier_eq_none.mp taken.stopped tier mem
  exact top.trans (tierPick_eq_none.mp none_ enough)

theorem Groups.rounds {tiers : List (Nat × Nat)} (pairs : ∀ tier ∈ tiers, 2 ≤ tier.1)
    {units rest : List CartUnit} {groups : List MultibuyGroup}
    (taken : Groups tiers units groups rest) : 2 * groups.length ≤ units.length := by
  have spent : ∀ some_ : List MultibuyGroup, (∀ group ∈ some_, group ∈ groups) →
      2 * some_.length ≤ (some_.flatMap MultibuyGroup.units).length := by
    intro some_
    induction some_ with
    | nil => simp
    | cons group others ih =>
        intro within
        rcases taken.priced group (within group List.mem_cons_self) with ⟨price, mem, size, -⟩
        have two := pairs _ mem
        have later := ih fun other mem => within other (List.mem_cons_of_mem _ mem)
        simp only [List.flatMap_cons, List.length_append, List.length_cons]
        dsimp only at two
        omega
  have all := spent groups fun _ mem => mem
  rw [← taken.taken, List.length_append]
  omega

theorem resolvedMultibuyTiers_bounds (rule : DiscountRule) :
    ∀ tier ∈ rule.resolvedMultibuyTiers, 2 ≤ tier.1 ∧ 0 < tier.2 := by
  intro tier mem
  rw [resolvedMultibuyTiers, (List.perm_insertionSort _ _).mem_iff, ← Table.get?_eq_some_iff] at mem
  rcases List.mem_append.mp (Table.mem_of_get?_ofList mem) with scalar | listed
  · cases quantity : rule.multibuyQuantity with
    | none => simp [quantity] at scalar
    | some quantity' =>
        cases price : rule.multibuyPriceCents with
        | none => simp [quantity, price] at scalar
        | some price' =>
            simp only [quantity, price, List.mem_singleton, Prod.mk.injEq] at scalar
            rw [scalar.1, scalar.2]
            exact ⟨rule.multibuyQuantity_ge quantity' quantity,
              rule.multibuyPriceCents_pos price' price⟩
  · rcases List.mem_map.mp listed with ⟨offered, -, same⟩
    rcases Prod.mk.inj same with ⟨quantity, price⟩
    rw [← quantity, ← price]
    exact ⟨offered.quantity_ge, offered.priceCents_pos⟩

/-- What a multibuy takes off before it is capped. -/
def multibuyTotal (rule : DiscountRule) (context : DiscountContext)
    (lineFilter : Option LineFilter) : Int :=
  let units := expandUnits context.lineItems lineFilter
  ((multibuyGroups rule.resolvedMultibuyTiers units.length units).map MultibuyGroup.saving).sum

theorem smallest_le {tiers : List (Nat × Nat)} {tier : Nat × Nat} (mem : tier ∈ tiers) :
    (tiers.map Prod.fst).min?.getD 0 ≤ tier.1 := by
  have listed : tier.1 ∈ tiers.map Prod.fst := List.mem_map_of_mem mem
  cases smallest : (tiers.map Prod.fst).min? with
  | none =>
      rw [List.min?_eq_none_iff] at smallest
      rw [smallest] at listed
      cases listed
  | some least =>
      rw [List.min?_eq_some_iff] at smallest
      exact smallest.2 _ listed

theorem multibuy_discountCents (rule : DiscountRule) (context : DiscountContext)
    (lineFilter : Option LineFilter) :
    (rule.multibuy context lineFilter).discountCents =
      if rule.multibuyTotal context lineFilter ≤ 0 then 0
      else rule.cap (rule.multibuyTotal context lineFilter) context := by
  rw [multibuy]
  dsimp only
  split
  · rename_i short
    have none_ : bestTier rule.resolvedMultibuyTiers
        (expandUnits context.lineItems lineFilter) = none := by
      rw [bestTier_eq_none]
      intro tier mem
      rw [tierPick_eq_none]
      intro fits
      exact absurd (short.trans_le (smallest_le mem)) (not_lt.mpr fits)
    have nothing : rule.multibuyTotal context lineFilter = 0 := by
      rw [multibuyTotal, multibuyGroups_of_none none_]
      rfl
    rw [if_pos nothing.le]
  · split
    · rename_i nothing
      exact (if_pos nothing).symm
    · rename_i something
      exact (if_neg something).symm

/-- The loop ends with disjoint groups that each save something, and leaves nothing to save. -/
theorem multibuy_sound (rule : DiscountRule) (context : DiscountContext)
    (lineFilter : Option LineFilter) :
    let tiers := rule.resolvedMultibuyTiers
    let units := expandUnits context.lineItems lineFilter
    let groups := multibuyGroups tiers units.length units
    let total := (groups.map MultibuyGroup.saving).sum
    (rule.multibuy context lineFilter).discountCents =
        (if total ≤ 0 then 0 else rule.cap total context) ∧
      2 * groups.length ≤ units.length ∧
      ∃ rest, groups.flatMap MultibuyGroup.units ++ rest = units ∧
        (∀ group ∈ groups, ∃ price, (group.quantity, price) ∈ tiers ∧
          group.units.length = group.quantity ∧ group.saving = unitsValue group.units - price ∧
            0 < group.saving) ∧
        bestTier tiers rest = none ∧
        ∀ tier ∈ tiers, ∀ selection : List CartUnit, selection.Subperm rest →
          selection.length = tier.1 → unitsValue selection ≤ tier.2 := by
  intro tiers units groups total
  have bounds : ∀ tier ∈ tiers, 2 ≤ tier.1 ∧ 0 < tier.2 := rule.resolvedMultibuyTiers_bounds
  have positive : ∀ tier ∈ tiers, 0 < tier.1 :=
    fun tier mem => Nat.lt_of_lt_of_le Nat.two_pos (bounds tier mem).1
  have descending : TopSums.Descending (prices units) := expandUnits_descending _ _
  rcases multibuyGroups_groups positive (le_refl units.length) with ⟨rest, taken⟩
  refine ⟨rule.multibuy_discountCents context lineFilter,
    taken.rounds fun tier mem => (bounds tier mem).1, rest, taken.taken, taken.priced,
    taken.stopped, ?_⟩
  intro tier mem selection subperm size
  exact taken.exhausted descending mem subperm size

end DiscountRule
end Numu.Promotions
