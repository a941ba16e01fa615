import Mathlib.Data.List.Pairwise
import Numu.Foundation.Rounding
import Numu.Promotions.TierLadders

/-!
# One more unit in the cart

A unit that comes in makes no group worth less. It can make the loop change its mind though: a
smaller tier then wins the first round, and what it leaves is worth too little for a second one.
-/

namespace Numu.Promotions
namespace DiscountRule

/-- Only one tier that the units fill costs less per unit than every smaller one. -/
def SoleSensible (tiers : List (Nat × Nat)) (count : Nat) : Prop :=
  ∀ first ∈ tiers, ∀ second ∈ tiers, Sensible tiers first → Sensible tiers second →
    first.1 ≤ count → second.1 ≤ count → first = second

theorem value_le_of_added {units more : List CartUnit}
    (descending : TopSums.Descending (prices more)) {extra : Int}
    (added : (prices more).Perm (extra :: prices units)) {count : Nat}
    (fits : count ≤ units.length) :
    unitsValue (units.take count) ≤ unitsValue (more.take count) := by
  have inside : ((prices units).take count).Subperm (prices more) := by
    have sublist : ((prices units).take count).Sublist (extra :: prices units) :=
      (List.take_sublist _ _).trans (List.sublist_cons_self _ _)
    exact sublist.subperm.trans added.symm.subperm
  have length : ((prices units).take count).length = count := by
    rw [List.length_take, prices, List.length_map]
    exact Nat.min_eq_left fits
  have top := TopSums.sum_le_of_subperm descending inside
  rw [length] at top
  rw [unitsValue_take, unitsValue_take]
  exact top

/-- The groups before the addition are all of one tier, and the loop is at least as good as that
tier alone. -/
theorem ladderSavings_le_of_added {tiers : List (Nat × Nat)}
    (positive : ∀ tier ∈ tiers, 0 < tier.1)
    (distinct : ∀ first ∈ tiers, ∀ second ∈ tiers, first.1 = second.1 → first = second)
    {units more : List CartUnit} (descending : TopSums.Descending (prices units))
    (descending' : TopSums.Descending (prices more)) {extra : Int}
    (added : (prices more).Perm (extra :: prices units)) (sole : SoleSensible tiers units.length)
    (fuel : Nat) {fuel' : Nat} (fuelled : more.length ≤ fuel') :
    ladderSavings tiers fuel units ≤ ladderSavings tiers fuel' more := by
  have length : more.length = units.length + 1 := by
    have same := added.length_eq
    simpa [prices] using same
  rcases ladderSavings_used positive fuel descending with ⟨used, within, room, saved⟩
  rw [saved]
  cases used with
  | nil => simpa [offer, sizes, costs, unitsValue] using ladderSavings_nonneg tiers fuel' more
  | cons tier rest =>
      have fits : ∀ other ∈ tier :: rest, other.1 ≤ units.length := fun other mem =>
        (le_sizes mem).trans room
      have only : tier :: rest = List.replicate (tier :: rest).length tier := by
        apply List.eq_replicate_of_mem
        intro other mem
        exact sole other (within other mem).1 tier (within tier List.mem_cons_self).1
          (within other mem).2 (within tier List.mem_cons_self).2 (fits other mem)
          (fits tier List.mem_cons_self)
      have mem := within tier List.mem_cons_self
      rw [only] at room ⊢
      rw [sizes_replicate] at room
      rw [offer, sizes_replicate, costs_replicate]
      have before := value_le_of_added descending' added room
      have after := sole_tier_le_savings positive mem.1 descending'
        (fun other member size => distinct other member tier mem.1 size)
        (fun other member sensible less => sole other member tier mem.1 sensible mem.2 (by omega)
          (fits tier List.mem_cons_self))
        (show (tier :: rest).length * tier.1 ≤ more.length by omega) fuelled
      push_cast
      omega

/-- A price for each quantity under which two of them compete and no other one saves anything. -/
def rivalPrice (small large quantity : Nat) : Nat :=
  if quantity = small then small + 2 * large
  else if quantity = large then large + 2 * small
  else quantity + 2 * small + 2 * large

theorem rivalPrice_cases (small large quantity : Nat) :
    (quantity = small ∧ rivalPrice small large quantity = quantity + 2 * large) ∨
      (quantity = large ∧ rivalPrice small large quantity = quantity + 2 * small) ∨
        rivalPrice small large quantity = quantity + 2 * small + 2 * large := by
  rw [rivalPrice]
  split_ifs with first second
  · exact .inl ⟨first, by rw [first]⟩
  · exact .inr (.inl ⟨second, by rw [second]⟩)
  · exact .inr (.inr rfl)

/-- Units at one cent but for some dear ones in front. -/
def openingPrices (dear : List Int) (cheap : Nat) : List Int := dear ++ List.replicate cheap 1

theorem value_of_opening {units : List CartUnit} {dear : List Int} {cheap : Nat}
    (opening : prices units = openingPrices dear cheap) {count : Nat} (fits : count ≤ units.length)
    (past : dear.length ≤ count) :
    unitsValue (units.take count) = dear.sum + (count - dear.length : Nat) := by
  have length : units.length = dear.length + cheap := by
    rw [← List.length_map CartUnit.priceCents]
    exact (congrArg List.length opening).trans (by simp [openingPrices])
  rw [unitsValue_take, opening, openingPrices, List.take_append, List.take_of_length_le past,
    List.take_replicate, List.sum_append, List.sum_replicate, Nat.min_eq_left (by omega)]
  simp

section Rivals
variable {tiers : List (Nat × Nat)} {small large : Nat}

/-- The two rates are too far apart for their rounding to make them equal. -/
theorem large_rate (two : 2 ≤ small) (less : small < large) (bound : large ≤ 2 ^ 24)
    (saves : 2 * large ≤ 4 * small) :
    Binary64.trueDiv (4 * small + 1 - 2 * large) small <
      Binary64.trueDiv (2 * small + 1) large := by
  have smaller : 4 * small + 1 - 2 * large ≤ 2 * small := by omega
  have cross : (4 * small + 1 - 2 * large) * large + 1 ≤ (2 * small + 1) * small := by
    obtain ⟨more, rfl⟩ := Nat.exists_eq_add_of_lt less
    obtain ⟨saving, amount⟩ : ∃ saving, 2 * small = saving + 2 * more + 1 :=
      ⟨2 * small - (2 * more + 1), by omega⟩
    rw [show 4 * small + 1 - 2 * (small + more + 1) = saving by omega]
    nlinarith
  generalize 4 * small + 1 - 2 * large = saving at smaller cross
  have small_pos : (0 : ℚ) < small := by exact_mod_cast (show 0 < small by omega)
  have large_pos : (0 : ℚ) < large := by exact_mod_cast (show 0 < large by omega)
  have first : (saving / small : ℚ) ≤ 2 := by
    rw [div_le_iff₀ small_pos]
    exact_mod_cast smaller
  have second : ((2 * small + 1 : Nat) / large : ℚ) ≤ 2 := by
    rw [div_le_iff₀ large_pos]
    exact_mod_cast (show 2 * small + 1 ≤ 2 * large by omega)
  have size : (small * large : ℚ) ≤ 2 ^ 48 := by
    exact_mod_cast (Nat.mul_le_mul (less.le.trans bound) bound).trans (by norm_num)
  have apart : (saving / small : ℚ) + 1 / 2 ^ 48 ≤ (2 * small + 1 : Nat) / large := by
    calc (saving / small : ℚ) + 1 / 2 ^ 48
        ≤ saving / small + 1 / (small * large) := by gcongr
      _ = (saving * large + 1 : Nat) / (small * large) := by
          push_cast
          field_simp
      _ ≤ ((2 * small + 1) * small : Nat) / (small * large) := by gcongr
      _ = (2 * small + 1 : Nat) / large := by
          push_cast
          field_simp
  apply Binary64.trueDiv_lt (by omega) (by omega)
  linarith

/-- Before the addition the larger rival saves more per unit. -/
theorem large_wins {units : List CartUnit} {cheap : Nat} (two : 2 ≤ small) (less : small < large)
    (bound : large ≤ 2 ^ 24) (fits : large ≤ units.length)
    (priced : ∀ tier ∈ tiers, 2 ≤ tier.1 ∧ tier.2 = rivalPrice small large tier.1)
    (mem : (large, rivalPrice small large large) ∈ tiers)
    (opening : prices units = openingPrices [4 * small + 2] cheap) (fuel : Nat) :
    2 * small + 1 ≤ ladderSavings tiers (fuel + 1) units := by
  have value : ∀ count, count ≤ units.length → 1 ≤ count →
      unitsValue (units.take count) = 4 * small + 1 + count := by
    intro count fits past
    rw [value_of_opening opening fits past]
    simp
    omega
  have price : rivalPrice small large large = large + 2 * small := by
    rw [rivalPrice, if_neg (by omega), if_pos rfl]
  have candidate : tierPick units (large, rivalPrice small large large) =
      some ⟨Binary64.trueDiv (2 * small + 1) large, 2 * small + 1, large⟩ := by
    have saving : unitsValue (units.take large) - (rivalPrice small large large : Nat) =
        2 * small + 1 := by
      rw [value large fits (by omega), price]
      push_cast
      omega
    apply tierPick_eq_some.mpr
    dsimp only
    rw [saving]
    exact ⟨fits, by omega, rfl⟩
  cases best : bestTier tiers units with
  | none =>
      rw [bestTier_eq_none.mp best _ mem] at candidate
      cases candidate
  | some pick =>
      rw [ladderSavings_of_some best]
      have later := ladderSavings_nonneg tiers fuel (units.drop pick.quantity)
      rcases (bestTier_eq_some best).1 with ⟨⟨quantity, cost⟩, listed, source⟩
      rcases tierPick_eq_some.mp source with ⟨room, saves, shape⟩
      rcases priced _ listed with ⟨pair, cost_eq⟩
      dsimp only at room saves shape pair cost_eq
      have above := (bestTier_eq_some best).2 _ mem _ candidate
      rw [shape] at later ⊢
      dsimp only at later ⊢
      rw [value quantity room (by omega), cost_eq] at saves ⊢
      rcases rivalPrice_cases small large quantity with ⟨rfl, price'⟩ | ⟨rfl, price'⟩ | price'
      · exfalso
        rw [shape, value quantity room (by omega), cost_eq, price'] at above
        rw [price'] at saves
        have rate := large_rate two less bound (by omega)
        rw [TierPick.beats, Bool.or_eq_false_iff, decide_eq_false_iff_not] at above
        apply above.1
        convert rate using 2
        omega
      · rw [price']
        omega
      · rw [price'] at saves
        omega

/-- After the addition both rivals save as much per unit; the smaller one wins and leaves units
that no tier saves anything on. -/
theorem small_wins {units : List CartUnit} {high low : Int} {cheap : Nat} (two : 2 ≤ small)
    (less : small < large)
    (priced : ∀ tier ∈ tiers, 2 ≤ tier.1 ∧ tier.2 = rivalPrice small large tier.1)
    (mem : (small, rivalPrice small large small) ∈ tiers)
    (opening : prices units = openingPrices [high, low] cheap)
    (worth : high + low = 2 * small + 2 * large + 2) (fuel : Nat) :
    ladderSavings tiers fuel units ≤ 2 * small := by
  have value : ∀ count, count ≤ units.length → 2 ≤ count →
      unitsValue (units.take count) = 2 * small + 2 * large + count := by
    intro count fits past
    rw [value_of_opening opening fits past]
    simp
    omega
  have price : rivalPrice small large small = small + 2 * large := if_pos rfl
  cases fuel with
  | zero => simp [ladderSavings, multibuyGroups]
  | succ fuel =>
      cases best : bestTier tiers units with
      | none =>
          rw [ladderSavings_of_none best]
          omega
      | some pick =>
          rcases (bestTier_eq_some best).1 with ⟨⟨quantity, cost⟩, listed, source⟩
          rcases tierPick_eq_some.mp source with ⟨room, saves, shape⟩
          rcases priced _ listed with ⟨pair, cost_eq⟩
          dsimp only at room saves shape pair cost_eq
          rw [value quantity room pair, cost_eq] at saves
          rcases rivalPrice_cases small large quantity with ⟨rfl, price'⟩ | ⟨rfl, price'⟩ | price'
          · have rest : bestTier tiers (units.drop quantity) = none := by
              rw [bestTier_eq_none]
              intro tier mem'
              rw [tierPick_eq_none]
              intro _
              have left : prices (units.drop quantity) =
                  List.replicate (cheap - (quantity - 2)) 1 := by
                rw [prices, List.map_drop, ← prices, opening, openingPrices, List.drop_append,
                  List.drop_eq_nil_of_le (by simpa using two), List.drop_replicate]
                rfl
              have dear : tier.1 ≤ tier.2 := by
                rw [(priced tier mem').2]
                have shapes := rivalPrice_cases quantity large tier.1
                omega
              rw [unitsValue_take, left, List.take_replicate, List.sum_replicate]
              simp only [nsmul_eq_mul, mul_one]
              omega
            rw [ladderSavings_of_some best, shape]
            dsimp only
            rw [ladderSavings_of_none rest, value quantity room pair, cost_eq, price']
            push_cast
            omega
          · exfalso
            have worse := saving_lt_of_best (fun tier listed' => by
              have two' := (priced tier listed').1
              omega) listed mem best source less
            dsimp only at worse
            rw [value quantity room pair, value small (by omega) two, cost_eq, price, price'] at worse
            push_cast at worse
            linarith
          · rw [price'] at saves
            omega

end Rivals

/-- The tiers of some quantities at the rivals' prices. -/
def rivalTiers (small large : Nat) (quantities : List Nat)
    (pairs : ∀ quantity ∈ quantities, 2 ≤ quantity) : List MultibuyTier :=
  quantities.pmap (fun quantity pair =>
    { quantity, priceCents := rivalPrice small large quantity, quantity_ge := pair
      priceCents_pos := by
        have cases_ := rivalPrice_cases small large quantity
        omega }) pairs

/-- A rule with these tiers. -/
def ladderOf (offered : List MultibuyTier) (some_ : offered ≠ [])
    (distinct : (offered.map MultibuyTier.quantity).Nodup) : DiscountRule where
  kind := .multibuy
  multibuyTiers := offered
  validated := by
    simp only [validateKindFields, validateMultibuy, some_, and_false, if_false, Option.isNone_none,
      ne_eq, not_true_eq_false, distinct, if_true]

theorem ladderOf_tiers {offered : List MultibuyTier} (some_ : offered ≠ [])
    (distinct : (offered.map MultibuyTier.quantity).Nodup) :
    (ladderOf offered some_ distinct).resolvedMultibuyTiers.Perm
      (offered.map fun tier => (tier.quantity, tier.priceCents)) := by
  have keys : ((offered.map fun tier => (tier.quantity, tier.priceCents)).map Prod.fst).Nodup := by
    rw [List.map_map]
    exact distinct
  rw [resolvedMultibuyTiers]
  apply (List.perm_insertionSort _ _).trans
  rw [show (ladderOf offered some_ distinct).multibuyQuantity = none from rfl]
  dsimp only [ladderOf]
  rw [List.nil_append, Table.rows_ofList keys]

/-- No unit that joins a cart of so many units takes anything off the total. -/
def NeverLess (rule : DiscountRule) (count : Nat) : Prop :=
  ∀ (context context' : DiscountContext) (lineFilter lineFilter' : Option LineFilter) (extra : Int),
    (expandUnits context.lineItems lineFilter).length = count →
      (prices (expandUnits context'.lineItems lineFilter')).Perm
          (extra :: prices (expandUnits context.lineItems lineFilter)) →
        rule.multibuyTotal context lineFilter ≤ rule.multibuyTotal context' lineFilter'

theorem neverLess_of_sole (rule : DiscountRule) {count : Nat}
    (sole : SoleSensible rule.resolvedMultibuyTiers count) : rule.NeverLess count := by
  intro context context' lineFilter lineFilter' extra length added
  have positive : ∀ tier ∈ rule.resolvedMultibuyTiers, 0 < tier.1 := by
    intro tier mem
    have bounds := rule.resolvedMultibuyTiers_bounds tier mem
    omega
  exact ladderSavings_le_of_added positive rule.resolvedMultibuyTiers_distinct
    (expandUnits_descending _ _) (expandUnits_descending _ _) added (length.symm ▸ sole) _ (le_refl _)

theorem opening_descending {dear : List Int} (descending : TopSums.Descending dear)
    (least : ∀ price ∈ dear, 1 ≤ price) (cheap : Nat) :
    TopSums.Descending (openingPrices dear cheap) := by
  rw [TopSums.Descending, openingPrices, List.pairwise_append]
  refine ⟨descending, List.pairwise_replicate.mpr (.inr (le_refl _)), ?_⟩
  intro price mem other mem'
  rw [List.eq_of_mem_replicate mem']
  exact least price mem

/-- Two rivals that fit make a cart lose by a unit more. -/
theorem rivals_lose {quantities : List Nat} (distinct : quantities.Nodup)
    (bounds : ∀ quantity ∈ quantities, 2 ≤ quantity ∧ quantity ≤ 2 ^ 24) {small large : Nat}
    (mem : small ∈ quantities) (mem' : large ∈ quantities) (less : small < large) {count : Nat}
    (fits : large ≤ count) :
    ∃ rule : DiscountRule, (rule.resolvedMultibuyTiers.map Prod.fst).Perm quantities ∧
      ¬rule.NeverLess count := by
  have pairs : ∀ quantity ∈ quantities, 2 ≤ quantity := fun quantity listed =>
    (bounds quantity listed).1
  have names : (rivalTiers small large quantities pairs).map MultibuyTier.quantity = quantities := by
    rw [rivalTiers, List.map_pmap, List.pmap_eq_map, List.map_id']
  have listed : (rivalTiers small large quantities pairs).map
      (fun tier => (tier.quantity, tier.priceCents)) =
        quantities.map fun quantity => (quantity, rivalPrice small large quantity) := by
    rw [rivalTiers, List.map_pmap]
    change List.pmap (fun quantity _ => (quantity, rivalPrice small large quantity)) _ pairs = _
    exact List.pmap_eq_map pairs
  have some_ : rivalTiers small large quantities pairs ≠ [] := by
    intro empty
    rw [empty] at names
    rw [← names] at mem
    cases mem
  have perm := ladderOf_tiers some_ (names.symm ▸ distinct)
  rw [listed] at perm
  have priced : ∀ tier ∈ (ladderOf _ some_ (names.symm ▸ distinct)).resolvedMultibuyTiers,
      2 ≤ tier.1 ∧ tier.2 = rivalPrice small large tier.1 := by
    intro tier member
    rcases List.mem_map.mp (perm.mem_iff.mp member) with ⟨quantity, member', rfl⟩
    exact ⟨pairs quantity member', rfl⟩
  have present : ∀ quantity ∈ quantities, (quantity, rivalPrice small large quantity) ∈
      (ladderOf _ some_ (names.symm ▸ distinct)).resolvedMultibuyTiers := fun quantity member =>
    perm.mem_iff.mpr (List.mem_map_of_mem member)
  refine ⟨ladderOf _ some_ (names.symm ▸ distinct), ?_, ?_⟩
  · have keys := perm.map Prod.fst
    rw [List.map_map] at keys
    exact keys.trans (by simp [Function.comp_def])
  · intro never
    have before : TopSums.Descending (openingPrices [4 * small + 2] (count - 1)) :=
      opening_descending (List.pairwise_singleton _ _) (by simp; omega) _
    have after : TopSums.Descending (openingPrices [max (4 * small + 2) (2 * large - 2 * small),
        min (4 * small + 2) (2 * large - 2 * small)] (count - 1)) := by
      apply opening_descending
      · simp [TopSums.Descending]
      · simp
        omega
    have same := prices_cartOf before
    have same' := prices_cartOf after
    have length : (expandUnits (cartOf (openingPrices [4 * (small : Int) + 2]
        (count - 1))).lineItems none).length = count := by
      rw [← List.length_map CartUnit.priceCents]
      refine (congrArg List.length same).trans ?_
      simp [openingPrices]
      omega
    have kept := never _ (cartOf (openingPrices [max (4 * small + 2) (2 * large - 2 * small),
      min (4 * small + 2) (2 * large - 2 * small)] (count - 1))) none none
        (2 * large - 2 * small) length ?_
    · have more := large_wins (pairs small mem) less (bounds large mem').2 (length.symm ▸ fits) priced
        (present large mem') same (count - 1)
      have fewer := small_wins (pairs small mem) less priced (present small mem) same'
        ((max_add_min _ _).trans (by ring)) (expandUnits (cartOf (openingPrices
          [max (4 * small + 2) (2 * large - 2 * small), min (4 * small + 2) (2 * large - 2 * small)]
            (count - 1))).lineItems none).length
      rw [multibuyTotal, length, show count = count - 1 + 1 by omega] at kept
      have absurd_ := more.trans (kept.trans fewer)
      omega
    · rw [same, same', openingPrices, openingPrices]
      rcases le_total (4 * (small : Int) + 2) (2 * large - 2 * small) with le | le
      · rw [max_eq_right le, min_eq_left le]
        exact List.Perm.refl _
      · rw [max_eq_left le, min_eq_right le]
        exact List.Perm.swap _ _ _

/-- A unit more takes nothing off where only one sensible tier fits the cart; for all prices of some
quantities it never does exactly where only one of them fits. -/
theorem neverLess_iff (rule : DiscountRule) (count : Nat) :
    (SoleSensible rule.resolvedMultibuyTiers count → rule.NeverLess count) ∧
    ∀ quantities : List Nat, quantities.Nodup →
      (∀ quantity ∈ quantities, 2 ≤ quantity ∧ quantity ≤ 2 ^ 24) →
        ((∀ rule : DiscountRule, (rule.resolvedMultibuyTiers.map Prod.fst).Perm quantities →
            rule.NeverLess count) ↔
          ∀ first ∈ quantities, ∀ second ∈ quantities,
            first ≤ count → second ≤ count → first = second) := by
  refine ⟨rule.neverLess_of_sole, ?_⟩
  intro quantities distinct bounds
  constructor
  · intro never first mem second mem' fits fits'
    by_contra different
    wlog less : first < second generalizing first second
    · exact this second mem' first mem fits' fits (Ne.symm different) (by omega)
    rcases rivals_lose distinct bounds mem mem' less fits' with ⟨rule, perm, loses⟩
    exact loses (never rule perm)
  · intro alone rule perm
    apply rule.neverLess_of_sole
    intro first mem second mem' _ _ fits fits'
    apply rule.resolvedMultibuyTiers_distinct first mem second mem'
    exact alone first.1 (perm.mem_iff.mp (List.mem_map_of_mem mem)) second.1
      (perm.mem_iff.mp (List.mem_map_of_mem mem')) fits fits'

/-- Two for 7.00, three for 8.00. -/
def pairsAndTrios : DiscountRule where
  kind := .multibuy
  multibuyTiers := [⟨2, 700, pair_fits, by decide⟩, ⟨3, 800, trio_fits, eightPounds_pos⟩]

/-- A unit at 5.00 joins units at 8.00, 4.00 and 4.00: 8.00 come off before, 7.00 after. -/
theorem pairsAndTrios_lose : ¬pairsAndTrios.NeverLess 3 := by
  intro never
  have less := never (cartOf [800, 400, 400]) (cartOf [800, 500, 400, 400]) none none 500
    (by decide +kernel) (by decide +kernel)
  rw [show pairsAndTrios.multibuyTotal (cartOf [800, 400, 400]) none = 800 by decide +kernel,
    show pairsAndTrios.multibuyTotal (cartOf [800, 500, 400, 400]) none = 700 by
      decide +kernel] at less
  omega

end DiscountRule
end Numu.Promotions
