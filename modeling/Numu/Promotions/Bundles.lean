import Mathlib.Order.Bounds.Basic
import Numu.Promotions.Multibuy
import Numu.Promotions.Scope

/-!
# The sets of a bundle

With disjoint scopes each leg takes from a pool of its own, most expensive first. A set is worth
less than the one before it, so that the loop stops at the right one.
-/

namespace Numu.Promotions
namespace DiscountRule

abbrev Legs := List (BundleLeg × Option LineFilter)

section TakeUnits
variable (fits : CartUnit → Bool)

theorem takeUnits_fst (count : Nat) (pool : List CartUnit) :
    (takeUnits fits count pool).1 = (pool.filter fits).take count := by
  induction pool generalizing count with
  | nil => cases count <;> simp [takeUnits]
  | cons unit pool ih =>
      cases count with
      | zero => simp [takeUnits]
      | succ count =>
          rw [takeUnits]
          cases hit : fits unit with
          | true => simp [hit, ih]
          | false => simp [hit, ih]

theorem takeUnits_filter (count : Nat) (pool : List CartUnit) :
    (takeUnits fits count pool).2.filter fits = (pool.filter fits).drop count := by
  induction pool generalizing count with
  | nil => cases count <;> simp [takeUnits]
  | cons unit pool ih =>
      cases count with
      | zero => simp [takeUnits]
      | succ count =>
          rw [takeUnits]
          cases hit : fits unit with
          | true => simp [hit, ih]
          | false => simp [hit, ih]

/-- A pool that shares nothing with the leg is left as it was. -/
theorem takeUnits_filter_other {other : CartUnit → Bool} (count : Nat) {pool : List CartUnit}
    (apart : ∀ unit ∈ pool, fits unit = true → other unit = false) :
    (takeUnits fits count pool).2.filter other = pool.filter other := by
  induction pool generalizing count with
  | nil => cases count <;> simp [takeUnits]
  | cons unit pool ih =>
      have rest : ∀ other_ ∈ pool, fits other_ = true → other other_ = false :=
        fun other_ mem => apart other_ (List.mem_cons_of_mem _ mem)
      cases count with
      | zero => simp [takeUnits]
      | succ count =>
          rw [takeUnits]
          cases hit : fits unit with
          | true => simp [apart unit List.mem_cons_self hit, ih _ rest]
          | false => simp [List.filter_cons, ih _ rest]

theorem takeUnits_sublist (count : Nat) (pool : List CartUnit) :
    (takeUnits fits count pool).2.Sublist pool := by
  induction pool generalizing count with
  | nil => cases count <;> simp [takeUnits]
  | cons unit pool ih =>
      cases count with
      | zero => simp [takeUnits]
      | succ count =>
          rw [takeUnits]
          split
          · exact (ih count).cons unit
          · exact (ih (count + 1)).cons_cons unit

end TakeUnits

/-- The units that a leg may take. -/
def legPool (leg : BundleLeg × Option LineFilter) (units : List CartUnit) : List CartUnit :=
  units.filter (legFits leg.2)

/-- No unit fits two legs. -/
def Disjoint (legs : Legs) (units : List CartUnit) : Prop :=
  legs.Pairwise fun first second =>
    ∀ unit ∈ units, legFits first.2 unit = true → legFits second.2 unit = false

/-- Each leg can be filled so many times. -/
def Enough (legs : Legs) (units : List CartUnit) (count : Nat) : Prop :=
  ∀ leg ∈ legs, count * leg.1.quantity ≤ (legPool leg units).length

/-- What the first units of so many sets are worth. -/
def topValue (legs : Legs) (units : List CartUnit) (count : Nat) : Int :=
  (legs.map fun leg => unitsValue ((legPool leg units).take (count * leg.1.quantity))).sum

instance (legs : Legs) (units : List CartUnit) : Decidable (Disjoint legs units) :=
  inferInstanceAs (Decidable (List.Pairwise _ _))

theorem Disjoint.sublist {legs : Legs} {units fewer : List CartUnit} (disjoint : Disjoint legs units)
    (sublist : fewer.Sublist units) : Disjoint legs fewer :=
  List.Pairwise.imp (fun apart unit mem => apart unit (sublist.subset mem)) disjoint

/-- A set takes the first units of each leg. -/
theorem formBundle_takes {legs : Legs} {units : List CartUnit} (disjoint : Disjoint legs units)
    (enough : Enough legs units 1) :
    ∃ chosen rest, formBundle legs units = some (chosen, rest) ∧
      unitsValue chosen = topValue legs units 1 ∧ (chosen ++ rest).Perm units ∧
      rest.Sublist units ∧
      (∀ leg ∈ legs, legPool leg rest = (legPool leg units).drop leg.1.quantity) ∧
      ∀ other : BundleLeg × Option LineFilter, (∀ leg ∈ legs, ∀ unit ∈ units,
        legFits leg.2 unit = true → legFits other.2 unit = false) →
          legPool other rest = legPool other units := by
  induction legs generalizing units with
  | nil => exact ⟨[], units, rfl, rfl, .refl _, .refl _, by simp, fun _ _ => rfl⟩
  | cons leg legs ih =>
      rcases List.pairwise_cons.mp disjoint with ⟨apart, others⟩
      have here := enough leg List.mem_cons_self
      rw [Nat.one_mul] at here
      set taken := takeUnits (legFits leg.2) leg.1.quantity units with shape
      have first : taken.1 = (legPool leg units).take leg.1.quantity := takeUnits_fst _ _ _
      have sublist : taken.2.Sublist units := takeUnits_sublist _ _ _
      have left : legPool leg taken.2 = (legPool leg units).drop leg.1.quantity :=
        takeUnits_filter _ _ _
      have kept : ∀ other ∈ legs, legPool other taken.2 = legPool other units := fun other mem =>
        takeUnits_filter_other _ _ (apart other mem)
      have filled : taken.1.length = leg.1.quantity := by
        rw [first, List.length_take]
        exact Nat.min_eq_left here
      have later : Enough legs taken.2 1 := by
        intro other mem
        rw [kept other mem]
        exact enough other (List.mem_cons_of_mem _ mem)
      rcases ih (Disjoint.sublist others sublist) later with
        ⟨chosen, rest, formed, value, perm, fewer, drops, keeps⟩
      refine ⟨taken.1 ++ chosen, rest, ?_, ?_, ?_, fewer.trans sublist, ?_, ?_⟩
      · rw [formBundle, ← shape, if_pos filled, formed]
        rfl
      · have same : topValue legs taken.2 1 = topValue legs units 1 := by
          rw [topValue, topValue]
          apply congrArg
          apply List.map_congr_left
          intro other mem
          rw [kept other mem]
        rw [unitsValue, List.map_append, List.sum_append, ← unitsValue, ← unitsValue, value, same,
          first]
        simp [topValue]
      · rw [List.append_assoc]
        exact (perm.append_left taken.1).trans (takeUnits_spec _ _ _).1
      · intro other mem
        rcases List.mem_cons.mp mem with rfl | mem
        · rw [keeps other ?_, left]
          intro second later' unit inside hit
          cases both : legFits other.2 unit with
          | false => rfl
          | true =>
              rw [apart second later' unit (sublist.subset inside) both] at hit
              cases hit
        · rw [drops other mem, kept other mem]
      · intro other apart'
        have untouched : legPool other taken.2 = legPool other units :=
          takeUnits_filter_other _ _ (apart' leg List.mem_cons_self)
        rw [← untouched]
        apply keeps
        intro second mem unit inside
        exact apart' second (List.mem_cons_of_mem _ mem) unit (sublist.subset inside)

theorem topValue_add {legs : Legs} {units rest : List CartUnit} (count : Nat)
    (drops : ∀ leg ∈ legs, legPool leg rest = (legPool leg units).drop leg.1.quantity) :
    topValue legs units (count + 1) = topValue legs units 1 + topValue legs rest count := by
  simp only [topValue]
  rw [← List.sum_map_add]
  apply congrArg
  apply List.map_congr_left
  intro leg mem
  rw [drops leg mem, Nat.one_mul, Nat.succ_mul, Nat.add_comm, List.take_add, unitsValue_append]

/-- So many sets are worth no more than as many times the first. -/
theorem topValue_le {legs : Legs} {units : List CartUnit}
    (descending : TopSums.Descending (prices units)) {count : Nat}
    (enough : Enough legs units count) :
    topValue legs units count ≤ count * topValue legs units 1 := by
  simp only [topValue]
  induction legs with
  | nil => simp
  | cons leg legs ih =>
      have later := ih fun other mem => enough other (List.mem_cons_of_mem _ mem)
      have lower : TopSums.Descending (prices (legPool leg units)) :=
        List.Pairwise.sublist (List.filter_sublist.map CartUnit.priceCents) descending
      have size : count * leg.1.quantity ≤ (prices (legPool leg units)).length := by
        rw [prices, List.length_map]
        exact enough leg List.mem_cons_self
      have here := TopSums.sum_take_mul_le lower leg.1.quantity size
      rw [← unitsValue_take, ← unitsValue_take, nsmul_eq_mul] at here
      simp only [List.map_cons, List.sum_cons, Nat.one_mul] at later ⊢
      rw [Int.mul_add]
      exact add_le_add here later

/-- What the sets of the loop take off. -/
def bundleSavings (legs : Legs) (price fuel : Nat) (units : List CartUnit) : Int :=
  ((formBundles legs price fuel units).map fun chosen => unitsValue chosen - price).sum

theorem bundleSavings_nonneg (legs : Legs) (price fuel : Nat) (units : List CartUnit) :
    0 ≤ bundleSavings legs price fuel units := by
  induction fuel generalizing units with
  | zero => simp [bundleSavings, formBundles]
  | succ fuel ih =>
      rw [bundleSavings, formBundles]
      cases formed : formBundle legs units with
      | none => simp
      | some pair =>
          dsimp only
          split
          · simp
          · have later := ih pair.2
            rw [bundleSavings] at later
            simp only [List.map_cons, List.sum_cons]
            omega

/-- No number of sets saves more than the loop does. -/
theorem topValue_le_savings {legs : Legs} (price : Nat) {units : List CartUnit}
    (disjoint : Disjoint legs units) (descending : TopSums.Descending (prices units))
    {count fuel : Nat} (enough : Enough legs units count) (fuelled : units.length ≤ fuel) :
    topValue legs units count - count * price ≤ bundleSavings legs price fuel units := by
  induction count generalizing units fuel with
  | zero =>
      have nothing : topValue legs units 0 = 0 := by simp [topValue, unitsValue]
      rw [nothing]
      simpa using bundleSavings_nonneg legs price fuel units
  | succ count ih =>
      have once : Enough legs units 1 := by
        intro leg mem
        have many := enough leg mem
        rw [Nat.succ_mul] at many
        omega
      rcases formBundle_takes disjoint once with
        ⟨chosen, rest, formed, value, perm, sublist, drops, -⟩
      by_cases stops : unitsValue chosen ≤ price
      · have below := topValue_le descending enough
        have scaled : ((count + 1 : Nat) : Int) * topValue legs units 1 ≤
            ((count + 1 : Nat) : Int) * price :=
          Int.mul_le_mul_of_nonneg_left (value ▸ stops) (Int.natCast_nonneg _)
        have savings := bundleSavings_nonneg legs price fuel units
        omega
      · have spent : 0 < chosen.length := by
          rw [List.length_pos_iff]
          rintro rfl
          exact stops (by simp [unitsValue])
        have lengths := perm.length_eq
        rw [List.length_append] at lengths
        cases fuel with
        | zero => omega
        | succ fuel =>
            have feasible : Enough legs rest count := by
              intro leg mem
              have many := enough leg mem
              rw [drops leg mem, List.length_drop]
              rw [Nat.succ_mul] at many
              omega
            have lower : TopSums.Descending (prices rest) :=
              List.Pairwise.sublist (sublist.map CartUnit.priceCents) descending
            have later := ih (disjoint.sublist sublist) lower feasible
              (show rest.length ≤ fuel by omega)
            have split_ := topValue_add count drops
            have round : bundleSavings legs price (fuel + 1) units =
                unitsValue chosen - price + bundleSavings legs price fuel rest := by
              rw [bundleSavings, formBundles, formed]
              dsimp only
              rw [if_neg stops, List.map_cons, List.sum_cons, ← bundleSavings]
            rw [round, split_, ← value]
            push_cast
            rw [Int.add_mul]
            omega

/-- One complete set: for each leg its number of units from its scope. -/
def CompleteSet (legs : Legs) (chosen : List (List CartUnit)) : Prop :=
  List.Forall₂ (fun leg units => units.length = leg.1.quantity ∧
    ∀ unit ∈ units, legFits leg.2 unit = true) legs chosen

/-- Disjoint complete sets of a cart's units. -/
structure Sets (legs : Legs) (units : List CartUnit) (sets : List (List (List CartUnit))) :
    Prop where
  complete : ∀ set ∈ sets, CompleteSet legs set
  disjoint : sets.flatten.flatten.Subperm units

def setsSaving (price : Nat) (sets : List (List (List CartUnit))) : Int :=
  (sets.map fun set => unitsValue set.flatten - price).sum

theorem setsSaving_eq (price : Nat) (sets : List (List (List CartUnit))) :
    setsSaving price sets = unitsValue sets.flatten.flatten - sets.length * price := by
  induction sets with
  | nil => simp [setsSaving, unitsValue]
  | cons set sets ih =>
      rw [setsSaving] at ih ⊢
      rw [List.map_cons, List.sum_cons, ih, List.flatten_cons, List.flatten_append,
        unitsValue_append, List.length_cons]
      push_cast
      rw [Int.add_mul]
      omega

/-- The units of the first legs and those of the others. -/
theorem flatten_heads {legs : Legs} {leg : BundleLeg × Option LineFilter}
    {sets : List (List (List CartUnit))}
    (complete : ∀ set ∈ sets, CompleteSet (leg :: legs) set) :
    ∃ heads : List (List CartUnit), ∃ tails : List (List (List CartUnit)),
      heads.length = sets.length ∧ tails.length = sets.length ∧
      (∀ head ∈ heads, head.length = leg.1.quantity ∧
        ∀ unit ∈ head, legFits leg.2 unit = true) ∧
      (∀ tail ∈ tails, CompleteSet legs tail) ∧
      sets.flatten.flatten.Perm (heads.flatten ++ tails.flatten.flatten) := by
  induction sets with
  | nil => exact ⟨[], [], rfl, rfl, by simp, by simp, by simp⟩
  | cons set sets ih =>
      rcases ih fun other mem => complete other (List.mem_cons_of_mem _ mem) with
        ⟨heads, tails, headCount, tailCount, headUnits, tailSets, perm⟩
      rcases List.forall₂_cons_left_iff.mp (complete set List.mem_cons_self) with
        ⟨head, tail, fits, rest, rfl⟩
      refine ⟨head :: heads, tail :: tails, by simp [headCount], by simp [tailCount],
        List.forall_mem_cons.mpr ⟨fits, headUnits⟩, List.forall_mem_cons.mpr ⟨rest, tailSets⟩, ?_⟩
      simp only [List.flatten_cons, List.flatten_append, List.append_assoc]
      apply List.Perm.append_left
      exact (perm.append_left _).trans (List.perm_append_comm_assoc _ _ _)

theorem length_flatten_const {groups : List (List CartUnit)} {size : Nat}
    (sized : ∀ group ∈ groups, group.length = size) :
    groups.flatten.length = groups.length * size := by
  induction groups with
  | nil => simp
  | cons group groups ih =>
      have later := ih fun other mem => sized other (List.mem_cons_of_mem _ mem)
      rw [List.flatten_cons, List.length_append, later, sized group List.mem_cons_self,
        List.length_cons, Nat.succ_mul, Nat.add_comm]

/-- Disjoint sets are worth no more than the first units of each leg. -/
theorem Sets.value_le {legs : Legs} {units : List CartUnit} {sets : List (List (List CartUnit))}
    (descending : TopSums.Descending (prices units)) (family : Sets legs units sets) :
    Enough legs units sets.length ∧
      unitsValue sets.flatten.flatten ≤ topValue legs units sets.length := by
  rcases family with ⟨complete, disjoint⟩
  induction legs generalizing sets with
  | nil =>
      have empty : ∀ set ∈ sets, set = [] := fun set mem =>
        List.forall₂_nil_left_iff.mp (complete set mem)
      have nothing : sets.flatten = [] := List.flatten_eq_nil_iff.mpr empty
      refine ⟨by simp [Enough], ?_⟩
      rw [nothing]
      simp [unitsValue, topValue]
  | cons leg legs ih =>
      rcases flatten_heads complete with
        ⟨heads, tails, headCount, tailCount, headUnits, tailSets, perm⟩
      have together : (heads.flatten ++ tails.flatten.flatten).Subperm units :=
        perm.symm.subperm.trans disjoint
      have first : heads.flatten.Subperm units :=
        (List.sublist_append_left _ _).subperm.trans together
      have second : tails.flatten.flatten.Subperm units :=
        (List.sublist_append_right _ _).subperm.trans together
      rcases ih tailSets second with ⟨enough, others⟩
      rw [tailCount] at enough others
      have fits : heads.flatten.filter (legFits leg.2) = heads.flatten := by
        rw [List.filter_eq_self]
        intro unit mem
        rcases List.mem_flatten.mp mem with ⟨head, inside, member⟩
        exact (headUnits head inside).2 unit member
      have pooled : heads.flatten.Subperm (legPool leg units) := by
        rw [← fits]
        exact first.filter _
      have size : heads.flatten.length = sets.length * leg.1.quantity := by
        rw [length_flatten_const fun head mem => (headUnits head mem).1, headCount]
      have lower : TopSums.Descending (prices (legPool leg units)) :=
        List.Pairwise.sublist (List.filter_sublist.map CartUnit.priceCents) descending
      have top := unitsValue_le_take lower pooled
      rw [size] at top
      constructor
      · intro other mem
        rcases List.mem_cons.mp mem with rfl | mem
        · rw [← size]
          exact pooled.length_le
        · exact enough other mem
      · rw [unitsValue_perm perm, unitsValue_append]
        exact add_le_add top others

/-- The units of a set, leg by leg. -/
theorem formBundle_complete {legs : Legs} {units chosen rest : List CartUnit}
    (formed : formBundle legs units = some (chosen, rest)) :
    ∃ set, CompleteSet legs set ∧ set.flatten = chosen ∧ (chosen ++ rest).Perm units := by
  induction legs generalizing units chosen with
  | nil =>
      cases formed
      exact ⟨[], .nil, rfl, .refl _⟩
  | cons leg legs ih =>
      rw [formBundle] at formed
      split at formed
      · rename_i filled
        rcases Option.map_eq_some_iff.mp formed with ⟨⟨later, last⟩, recursive, same⟩
        cases same
        rcases ih recursive with ⟨set, complete, rfl, perm⟩
        rcases takeUnits_spec (legFits leg.2) leg.1.quantity units with ⟨taken, fit⟩
        refine ⟨_ :: set, .cons ⟨filled, fit⟩ complete, rfl, ?_⟩
        rw [List.append_assoc]
        exact (perm.append_left _).trans taken
      · cases formed

/-- The sets that the loop forms. -/
theorem formBundles_sets (legs : Legs) (price fuel : Nat) (units : List CartUnit) :
    ∃ sets, Sets legs units sets ∧ sets.map List.flatten = formBundles legs price fuel units := by
  induction fuel generalizing units with
  | zero => exact ⟨[], ⟨by simp, by simp⟩, rfl⟩
  | succ fuel ih =>
      rw [formBundles]
      cases formed : formBundle legs units with
      | none => exact ⟨[], ⟨by simp, by simp⟩, rfl⟩
      | some pair =>
          dsimp only
          split
          · exact ⟨[], ⟨by simp, by simp⟩, rfl⟩
          · rcases formBundle_complete formed with ⟨set, complete, flat, perm⟩
            rcases ih pair.2 with ⟨sets, ⟨others, disjoint⟩, same⟩
            refine ⟨set :: sets, ⟨List.forall_mem_cons.mpr ⟨complete, others⟩, ?_⟩, ?_⟩
            · rw [List.flatten_cons, List.flatten_append, flat]
              exact ((List.subperm_append_left pair.1).mpr disjoint).trans perm.subperm
            · rw [List.map_cons, flat, same]

/-- The legs of a rule, each with its filter. -/
def legsOf (rule : DiscountRule) (legFilters : Option (List (Option LineFilter))) : Legs :=
  rule.bundleLegs.mapIdx fun index leg => (leg, ((legFilters.getD [])[index]?).join)

theorem bundle_discountCents (rule : DiscountRule) (context : DiscountContext)
    (legFilters : Option (List (Option LineFilter))) :
    let units := expandUnits context.lineItems none
    let total := bundleSavings (rule.legsOf legFilters) (rule.bundlePriceCents.getD 0)
      units.length units
    (rule.bundle context legFilters).discountCents =
      if total ≤ 0 then 0 else rule.cap total context := by
  intro units total
  rw [bundle]
  dsimp only
  split
  · rename_i nothing
    exact (if_pos nothing).symm
  · rename_i something
    exact (if_neg something).symm

/-- With disjoint scopes a bundle takes off the most that any disjoint sets would. -/
theorem bundle_optimal (rule : DiscountRule) (context : DiscountContext)
    (legFilters : Option (List (Option LineFilter))) {price : Nat}
    (priced : rule.bundlePriceCents = some price)
    (disjoint : Disjoint (rule.legsOf legFilters) (expandUnits context.lineItems none)) :
    ∃ total, IsGreatest
        {saving | ∃ sets, Sets (rule.legsOf legFilters) (expandUnits context.lineItems none) sets ∧
          saving = setsSaving price sets} total ∧
      (rule.bundle context legFilters).discountCents =
        if total ≤ 0 then 0 else rule.cap total context := by
  have result := rule.bundle_discountCents context legFilters
  rw [priced, Option.getD_some] at result
  refine ⟨_, ⟨?_, ?_⟩, result⟩
  · rcases formBundles_sets (rule.legsOf legFilters) price
      (expandUnits context.lineItems none).length (expandUnits context.lineItems none) with
      ⟨sets, family, same⟩
    refine ⟨sets, family, ?_⟩
    rw [bundleSavings, ← same, setsSaving, List.map_map]
    rfl
  · rintro saving ⟨sets, family, rfl⟩
    have descending := expandUnits_descending context.lineItems none
    rcases family.value_le descending with ⟨enough, value⟩
    have top := topValue_le_savings price disjoint descending enough (le_refl _)
    rw [setsSaving_eq]
    omega

/-- One tee and one cap for 9.00. -/
def teeAndCap : DiscountRule where
  kind := .bundle
  bundleLegs := [{}, {}]
  bundlePriceCents := some 900

def teesAndCaps : DiscountContext where
  subtotalCents := 2700
  lineItems := [⟨1, 2, 700, none⟩, ⟨2, 1, 500, none⟩, ⟨3, 2, 400, none⟩]

def teeAndCapScopes : List (Option LineFilter) :=
  [some fun line => line.productId = 1, some fun line => line.productId ≠ 1]

theorem teesAndCaps_optimal :
    ∃ total, IsGreatest
        {saving | ∃ sets, Sets (teeAndCap.legsOf (some teeAndCapScopes))
          (expandUnits teesAndCaps.lineItems none) sets ∧ saving = setsSaving 900 sets} total ∧
      (teeAndCap.bundle teesAndCaps (some teeAndCapScopes)).discountCents =
        if total ≤ 0 then 0 else teeAndCap.cap total teesAndCaps :=
  bundle_optimal teeAndCap teesAndCaps (some teeAndCapScopes) rfl (by decide +kernel)

theorem bestTier_single (tier : Nat × Nat) (units : List CartUnit) :
    bestTier [tier] units = tierPick units tier := by
  rw [bestTier, List.foldl_cons, List.foldl_nil, offerTier_eq]
  cases tierPick units tier <;> rfl

section Unscoped
variable {legs : Legs} (unscoped : ∀ leg ∈ legs, leg.2 = none)

theorem takeUnits_unscoped (count : Nat) (units : List CartUnit) :
    takeUnits (legFits none) count units = (units.take count, units.drop count) := by
  have all : ∀ pool : List CartUnit, pool.filter (legFits none) = pool := fun pool =>
    List.filter_eq_self.mpr fun _ _ => rfl
  have first := takeUnits_fst (legFits none) count units
  have second := takeUnits_filter (legFits none) count units
  rw [all] at first
  rw [all, all] at second
  rw [← first, ← second]

include unscoped

/-- Legs without a scope take the first units together. -/
theorem formBundle_unscoped (units : List CartUnit) :
    formBundle legs units =
      let size := (legs.map fun leg => leg.1.quantity).sum
      if size ≤ units.length then some (units.take size, units.drop size) else none := by
  induction legs generalizing units with
  | nil => simp [formBundle]
  | cons leg legs ih =>
      have later := ih fun other mem => unscoped other (List.mem_cons_of_mem _ mem)
      rw [formBundle, unscoped leg List.mem_cons_self, takeUnits_unscoped]
      dsimp only
      rw [List.length_take, List.map_cons, List.sum_cons, later]
      dsimp only
      rw [List.length_drop]
      by_cases filled : leg.1.quantity ≤ units.length
      · rw [if_pos (Nat.min_eq_left filled)]
        by_cases all : leg.1.quantity + (legs.map fun leg => leg.1.quantity).sum ≤ units.length
        · rw [if_pos all, if_pos (by omega), Option.map_some, List.take_add, List.drop_drop]
        · rw [if_neg all, if_neg (by omega), Option.map_none]
      · have short : ¬ min leg.1.quantity units.length = leg.1.quantity := by omega
        rw [if_neg short, if_neg (by omega)]

/-- Round by round the two loops take the same units. -/
theorem formBundles_unscoped (price fuel : Nat) (units : List CartUnit) :
    let groups := multibuyGroups [((legs.map fun leg => leg.1.quantity).sum, price)] fuel units
    formBundles legs price fuel units = groups.map MultibuyGroup.units ∧
      (formBundles legs price fuel units).map (fun chosen => unitsValue chosen - price) =
        groups.map MultibuyGroup.saving := by
  induction fuel generalizing units with
  | zero => exact ⟨rfl, rfl⟩
  | succ fuel ih =>
      dsimp only
      rw [formBundles, multibuyGroups, formBundle_unscoped unscoped, bestTier_single]
      dsimp only
      set size := (legs.map fun leg => leg.1.quantity).sum
      by_cases fits : size ≤ units.length
      · rw [if_pos fits]
        dsimp only
        by_cases saves : unitsValue (units.take size) ≤ price
        · have none_ : tierPick units (size, price) = none := tierPick_eq_none.mpr fun _ => saves
          rw [if_pos saves, none_]
          exact ⟨rfl, rfl⟩
        · have some_ : tierPick units (size, price) =
              some ⟨Binary64.trueDiv (unitsValue (units.take size) - price).toNat size,
                unitsValue (units.take size) - price, size⟩ :=
            tierPick_eq_some.mpr ⟨fits, by dsimp only; omega, rfl⟩
          rw [if_neg saves, some_]
          rcases ih (units.drop size) with ⟨same, savings⟩
          dsimp only
          rw [List.map_cons, List.map_cons, List.map_cons, savings, same]
          exact ⟨rfl, rfl⟩
      · have none_ : tierPick units (size, price) = none :=
          tierPick_eq_none.mpr fun enough => absurd enough fits
        rw [if_neg fits, none_]
        exact ⟨rfl, rfl⟩

end Unscoped

/-- A bundle whose legs all match anything is the multibuy of their number of units. -/
theorem unscoped_bundle_is_multibuy {bundleRule multibuyRule : DiscountRule}
    {legFilters : Option (List (Option LineFilter))} {price : Nat}
    (unscoped : ∀ filter ∈ legFilters.getD [], filter = none)
    (bundlePrice : bundleRule.bundlePriceCents = some price)
    (tier : multibuyRule.resolvedMultibuyTiers =
      [((bundleRule.bundleLegs.map BundleLeg.quantity).sum, price)])
    (capped : bundleRule.maxDiscountCents = multibuyRule.maxDiscountCents)
    (context : DiscountContext) :
    (bundleRule.bundle context legFilters).discountCents =
      (multibuyRule.multibuy context none).discountCents := by
  have legs : ∀ leg ∈ bundleRule.legsOf legFilters, leg.2 = none := by
    intro leg mem
    rcases List.mem_mapIdx.mp mem with ⟨index, -, rfl⟩
    cases listed : (legFilters.getD [])[index]? with
    | none => simp
    | some filter =>
        have free := unscoped filter (List.mem_of_getElem? listed)
        simp [free]
  have quantities : ((bundleRule.legsOf legFilters).map fun leg => leg.1.quantity) =
      bundleRule.bundleLegs.map BundleLeg.quantity := by
    apply List.ext_getElem?
    intro index
    rw [legsOf, List.getElem?_map, List.getElem?_map, List.getElem?_mapIdx, Option.map_map]
    rfl
  have caps : ∀ raw, bundleRule.cap raw context = multibuyRule.cap raw context := by
    intro raw
    rw [cap, cap, capped]
  have rounds := (formBundles_unscoped legs price (expandUnits context.lineItems none).length
    (expandUnits context.lineItems none)).2
  rw [quantities] at rounds
  rw [bundle_discountCents, multibuy_discountCents, multibuyTotal, tier, bundlePrice,
    Option.getD_some, bundleSavings, rounds, caps]

/-- Any two for 9.00. -/
def anyTwo : DiscountRule where
  kind := .multibuy
  multibuyTiers := [{ quantity := 2, priceCents := 900 }]

theorem teeAndCap_unscoped :
    (teeAndCap.bundle teesAndCaps none).discountCents =
      (anyTwo.multibuy teesAndCaps none).discountCents :=
  unscoped_bundle_is_multibuy (fun _ absent => (List.not_mem_nil absent).elim) rfl
    (show anyTwo.resolvedMultibuyTiers = [((teeAndCap.bundleLegs.map BundleLeg.quantity).sum, 900)]
      by decide +kernel)
    rfl teesAndCaps

end DiscountRule
end Numu.Promotions
