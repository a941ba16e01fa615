import Numu.Foundation.IntegerText
import Numu.Promotions.ListOrder

/-! Minimum subtotals and subtotal tiers of the automatic promotions. -/

namespace Numu.Promotions
open Numu.Orders (UUID)

/-- The reason for refusing a rule whose minimum is not met. -/
def belowText (minimum : Nat) : String := s!"subtotal below minimum ({minimum} cents)"

/-- A text that begins with another letter than the reason above. -/
def Apart (text : List Char) : Prop := text.head? ≠ some 's'

theorem belowText_not_apart (minimum : Nat) : ¬Apart (belowText minimum).toList := by
  have begins : "subtotal below minimum (".toList.head? = some 's' := by simp
  intro apart
  apply apart
  unfold belowText
  rw [String.toList_append, String.toList_append, List.append_assoc, List.head?_append]
  change ("subtotal below minimum (".toList.head?.or _) = _
  rw [begins]
  rfl

theorem anotherTier_apart : Apart anotherTier.toList := by
  have begins : "another multibuy tier over the same catalogue saved more — ".toList.head? =
      some 'a' := rfl
  unfold Apart anotherTier
  rw [String.toList_append, List.head?_append, begins]
  decide

theorem apart_repr (n : Nat) (rest : List Char) : Apart (n.repr.toList ++ rest) := by
  rw [Apart, Nat.toList_repr]
  cases digits : Nat.toDigits 10 n with
  | nil => exact absurd digits Nat.toDigits_ne_nil
  | cons c others =>
      intro same
      have digit := IntegerText.toDigits_isDigit n c (by rw [digits]; exact List.mem_cons_self)
      rw [List.cons_append, List.head?_cons, Option.some.injEq] at same
      rw [same] at digit
      exact absurd digit (by decide)

/-- A joined text begins like its first part. -/
theorem intercalate_begins (separator first : String) (rest : List String) :
    ∃ more, (separator.intercalate (first :: rest)).toList = first.toList ++ more := by
  cases rest with
  | nil => exact ⟨[], by rw [String.intercalate_singleton, List.append_nil]⟩
  | cons next others =>
      refine ⟨separator.toList ++ (separator.intercalate (next :: others)).toList, ?_⟩
      rw [String.intercalate_cons_cons, String.toList_append, String.toList_append,
        List.append_assoc]

namespace DiscountRule
variable (rule : DiscountRule) (context : DiscountContext)

theorem percentage_apart (buyFilter : Option LineFilter) :
    Apart (rule.percentage context buyFilter).explanation.toList := by
  simp only [percentage, String.toList_append, toString, List.append_assoc]
  exact apart_repr _ _

theorem fixed_apart (buyFilter : Option LineFilter) :
    Apart (rule.fixed context buyFilter).explanation.toList := by
  simp only [fixed, String.toList_append, toString, List.append_assoc]
  exact apart_repr _ _

theorem bogo_apart (buyFilter getFilter : Option LineFilter) :
    Apart (rule.bogo context buyFilter getFilter).explanation.toList := by
  simp only [bogo, toString]
  split
  · simp [Apart]
  · simp [Apart, String.toList_append]

theorem tiered_apart : Apart (rule.tiered context).explanation.toList := by
  rw [tiered]
  split
  · simp [Apart]
  · simp only [toString, String.toList_append, List.append_assoc]
    exact apart_repr _ _

theorem multibuy_apart (lineFilter : Option LineFilter) :
    Apart (rule.multibuy context lineFilter).explanation.toList := by
  simp only [multibuy, toString]
  split
  · simp [Apart, String.toList_append]
  · split
    · simp [Apart, String.toList_append]
    · simp only [String.toList_append, List.append_assoc]
      set used := ((multibuyGroups rule.resolvedMultibuyTiers
        (expandUnits context.lineItems lineFilter).length
          (expandUnits context.lineItems lineFilter)).map MultibuyGroup.quantity).eraseDups
      cases used with
      | nil => simp [Apart]
      | cons quantity others =>
          rcases intercalate_begins ", "
            (tierText (quantity, (rule.resolvedMultibuyTiers.lookup quantity).getD 0) ++ " cents")
            (others.map fun quantity =>
              tierText (quantity, (rule.resolvedMultibuyTiers.lookup quantity).getD 0) ++ " cents")
            with ⟨more, same⟩
          rw [List.map_cons, same]
          simp only [tierText, toString, String.toList_append, List.append_assoc]
          exact apart_repr _ _

theorem bundle_apart (legFilters : Option (List (Option LineFilter))) :
    Apart (rule.bundle context legFilters).explanation.toList := by
  simp only [bundle, toString]
  split <;> simp [Apart, String.toList_append]

/-- Only a rule below its minimum says so. -/
theorem calculate_apart (reached : rule.belowMinimum context = false)
    (buyFilter getFilter : Option LineFilter) (legFilters : Option (List (Option LineFilter))) :
    Apart (rule.calculate context buyFilter getFilter legFilters).explanation.toList := by
  rw [calculate, reached]
  simp only [Bool.false_eq_true, if_false]
  cases rule.kind with
  | freeShipping => simp [Apart]
  | percentage => exact rule.percentage_apart context buyFilter
  | fixed => exact rule.fixed_apart context buyFilter
  | bogo => exact rule.bogo_apart context buyFilter getFilter
  | tiered => exact rule.tiered_apart context
  | multibuy => exact rule.multibuy_apart context buyFilter
  | bundle => exact rule.bundle_apart context legFilters

theorem calculate_below {minimum : Nat} (given : rule.minSubtotalCents = some minimum)
    (below : context.subtotalCents < minimum) (buyFilter getFilter : Option LineFilter)
    (legFilters : Option (List (Option LineFilter))) :
    rule.calculate context buyFilter getFilter legFilters =
      { discountCents := 0, explanation := belowText minimum } := by
  have below_ : rule.belowMinimum context = true := by
    simp only [belowMinimum, given, decide_eq_true_eq]
    exact below
  rw [calculate, if_pos below_]
  simp only [given, Option.getD_some]
  unfold belowText
  rfl

/-- The tier of a subtotal. -/
def tierAt (rule : DiscountRule) (subtotalCents : Int) : Option DiscountTier :=
  rule.tiers.foldl (winningTier subtotalCents) none

theorem winningTier_source {subtotalCents : Int} {best : Option DiscountTier}
    {tier winner : DiscountTier} (won : winner ∈ winningTier subtotalCents best tier) :
    winner ∈ best ∨ (winner = tier ∧ (tier.thresholdCents : Int) ≤ subtotalCents) := by
  unfold winningTier at won
  split at won
  · exact .inl won
  · rename_i reached
    cases best with
    | none => exact .inr ⟨(Option.some.inj won).symm, not_lt.mp reached⟩
    | some held =>
        simp only at won
        split at won
        · exact .inr ⟨(Option.some.inj won).symm, not_lt.mp reached⟩
        · exact .inl won

theorem winningTier_above {subtotalCents : Int} {best : Option DiscountTier}
    {tier other : DiscountTier}
    (offered : other ∈ best ∨ (other = tier ∧ (tier.thresholdCents : Int) ≤ subtotalCents)) :
    ∃ winner ∈ winningTier subtotalCents best tier,
      other.thresholdCents ≤ winner.thresholdCents := by
  unfold winningTier
  split
  · rename_i missed
    rcases offered with held | ⟨rfl, reached⟩
    · exact ⟨other, held, le_refl _⟩
    · exact absurd missed (not_lt.mpr reached)
  · cases best with
    | none =>
        rcases offered with held | ⟨rfl, -⟩
        · cases held
        · exact ⟨other, rfl, le_refl _⟩
    | some held =>
        simp only
        rcases offered with mine | ⟨rfl, -⟩
        · have same : held = other := Option.some.inj mine
          subst same
          split
          · exact ⟨tier, rfl, by omega⟩
          · exact ⟨held, rfl, le_refl _⟩
        · split
          · exact ⟨other, rfl, le_refl _⟩
          · exact ⟨held, rfl, by omega⟩

theorem foldl_winningTier (subtotalCents : Int) (tiers : List DiscountTier)
    (best : Option DiscountTier) :
    (∀ winner ∈ tiers.foldl (winningTier subtotalCents) best, winner ∈ best ∨
      (winner ∈ tiers ∧ (winner.thresholdCents : Int) ≤ subtotalCents)) ∧
    ∀ other, other ∈ best ∨ (other ∈ tiers ∧ (other.thresholdCents : Int) ≤ subtotalCents) →
      ∃ winner ∈ tiers.foldl (winningTier subtotalCents) best,
        other.thresholdCents ≤ winner.thresholdCents := by
  induction tiers generalizing best with
  | nil =>
      refine ⟨fun winner won => .inl won, fun other offered => ?_⟩
      rcases offered with held | ⟨absent, -⟩
      · exact ⟨other, held, le_refl _⟩
      · cases absent
  | cons tier rest ih =>
      rw [List.foldl_cons]
      rcases ih (winningTier subtotalCents best tier) with ⟨source, above⟩
      constructor
      · intro winner won
        rcases source winner won with early | ⟨member, reached⟩
        · rcases winningTier_source early with held | ⟨rfl, reached⟩
          · exact .inl held
          · exact .inr ⟨List.mem_cons_self, reached⟩
        · exact .inr ⟨List.mem_cons_of_mem _ member, reached⟩
      · intro other offered
        have here (first : other ∈ best ∨
            (other = tier ∧ (tier.thresholdCents : Int) ≤ subtotalCents)) :
            ∃ winner ∈ rest.foldl (winningTier subtotalCents)
              (winningTier subtotalCents best tier),
                other.thresholdCents ≤ winner.thresholdCents := by
          rcases winningTier_above first with ⟨mid, chosen, less⟩
          rcases above mid (.inl chosen) with ⟨winner, won, more⟩
          exact ⟨winner, won, less.trans more⟩
        rcases offered with held | ⟨member, reached⟩
        · exact here (.inl held)
        · rcases List.mem_cons.mp member with rfl | later
          · exact here (.inr ⟨rfl, reached⟩)
          · exact above other (.inr ⟨later, reached⟩)

/-- A smaller subtotal has the same tier exactly when it reaches the same thresholds. -/
theorem tierAt_eq_iff (rule : DiscountRule) {left subtotalCents : Int}
    (less : left ≤ subtotalCents) :
    rule.tierAt left = rule.tierAt subtotalCents ↔
      ∀ tier ∈ rule.tiers, (tier.thresholdCents : Int) ≤ subtotalCents →
        (tier.thresholdCents : Int) ≤ left := by
  constructor
  · intro same tier member reached
    rcases (foldl_winningTier subtotalCents rule.tiers none).2 tier
      (.inr ⟨member, reached⟩) with ⟨winner, won, above⟩
    change winner ∈ rule.tierAt subtotalCents at won
    rw [← same] at won
    rcases (foldl_winningTier left rule.tiers none).1 winner won with
      none_ | ⟨-, within⟩
    · cases none_
    · omega
  · intro keeps
    unfold tierAt
    apply List.foldl_ext
    intro best tier member
    have kept := keeps tier member
    unfold winningTier
    by_cases reached : (tier.thresholdCents : Int) ≤ subtotalCents
    · rw [if_neg (not_lt.mpr (kept reached)), if_neg (not_lt.mpr reached)]
    · rw [if_pos (by omega), if_pos (by omega)]

/-- The subtotals that the rule asks for, to apply at all or for a tier. -/
def thresholds (rule : DiscountRule) : List Nat :=
  rule.minSubtotalCents.toList ++
    if rule.kind = .tiered then rule.tiers.map DiscountTier.thresholdCents else []

end DiscountRule

section Gate
variable {promotions : List Promotion} {context : DiscountContext} {targets : TargetsByPromotion}
  {result : DiscountTotalResult}

/-- An automatic promotion with a minimum that the cart reaches. -/
structure Admitted (promotions : List Promotion) (context : DiscountContext) (id : UUID)
    (minimum : Nat) : Prop where
  source : ∃ promo ∈ promotions, promo.id = id ∧ promo.surface = .automatic ∧
    ∃ rule, promo.discountRule = some rule ∧ rule.minSubtotalCents = some minimum
  reached : (minimum : Int) ≤ context.subtotalCents

/-- The whole cart decides on the minimum and on the tier of each automatic promotion. -/
structure GatedOnCart (promotions : List Promotion) (context : DiscountContext)
    (targets : TargetsByPromotion) (result : DiscountTotalResult) : Prop where
  accepted : ∀ id minimum, Admitted promotions context id minimum →
    (id, belowText minimum) ∉ result.rejected
  sameTier : ∀ turn ∈ autoTurns promotions context targets, turn.offer.rule.kind = .tiered →
    turn.offer.rule.belowMinimum context = false →
      turn.offer.rule.tierAt turn.left = turn.offer.rule.tierAt context.subtotalCents

/-- What the best code and the promotions before it leave of the subtotal is enough for each
threshold of an automatic promotion that the cart reaches. -/
def LeavesEnough (promotions : List Promotion) (context : DiscountContext)
    (targets : TargetsByPromotion) : Prop :=
  ∀ before offer after,
    keptOf targets context (splitBySurface promotions).autos = before ++ offer :: after →
      offer.rule.belowMinimum context = false →
        ∀ threshold : Nat, threshold ∈ offer.rule.thresholds →
          (threshold : Int) ≤ context.subtotalCents → (threshold : Int) ≤ leftAfter targets context
            (context.subtotalCents - bestSaving (codeResults promotions context targets)) before

theorem codeContest_saving (legible : AllLegible promotions targets)
    (subtotal : 0 ≤ context.subtotalCents) :
    (codeContest promotions context targets).discount =
      bestSaving (codeResults promotions context targets) :=
  bestSaving_eq (codeResults_plain legible subtotal)

theorem leavesEnough_turns (enough : LeavesEnough promotions context targets)
    (legible : AllLegible promotions targets) (subtotal : 0 ≤ context.subtotalCents) {turn : Turn}
    (played : turn ∈ autoTurns promotions context targets)
    (admitted : turn.offer.rule.belowMinimum context = false) :
    ∀ threshold : Nat, threshold ∈ turn.offer.rule.thresholds →
      (threshold : Int) ≤ context.subtotalCents → (threshold : Int) ≤ turn.left := by
  rcases mem_turns.mp played with ⟨before, after, split_, left_⟩
  rw [left_, codeContest_saving legible subtotal]
  exact enough before turn.offer after split_ admitted

theorem codeContest_report (legible : AllLegible promotions targets)
    (subtotal : 0 ≤ context.subtotalCents) (distinct : (promotions.map Promotion.id).Nodup) :
    CodeReport (splitBySurface promotions).codes context
      (codeContest promotions context targets) :=
  codeOutcome_report subtotal (codes_distinct distinct)
    (evaluateAll_eq context fun offer member => legible offer (List.mem_append_left _ member))

theorem turn_left_le (legible : AllLegible promotions targets)
    (subtotal : 0 ≤ context.subtotalCents) (distinct : (promotions.map Promotion.id).Nodup)
    {turn : Turn} (played : turn ∈ autoTurns promotions context targets) :
    turn.left ≤ context.subtotalCents := by
  have report := codeContest_report legible subtotal distinct
  rcases mem_turns.mp played with ⟨before, -, -, left_⟩
  have code := report.nonneg
  have bounds := leftAfter_bounds targets context (sub_nonneg.mpr report.bounded) before
  rw [left_]
  omega

/-- A promotion below its minimum at its turn is refused for that. -/
theorem refused_of_below (total : TotalOf promotions context targets result)
    (legible : AllLegible promotions targets) {turn : Turn}
    (played : turn ∈ autoTurns promotions context targets) {minimum : Nat}
    (given : turn.offer.rule.minSubtotalCents = some minimum) (below : turn.left < minimum) :
    (turn.id, belowText minimum) ∈ result.rejected := by
  have auto : turn.offer ∈ (splitBySurface promotions).autos :=
    (List.mem_filter.mp (offer_mem_of_turns played)).1
  rcases (legible _ (List.mem_append_right _ auto)).result_eq with ⟨buy, get, legs, same⟩
  have outcome : turn.result targets context =
      { discountCents := 0, explanation := belowText minimum } := by
    rw [Turn.result, (same _).2]
    exact turn.offer.rule.calculate_below (turn.narrowed context) given below buy get legs
  have idle : turn.applies targets context = false := by simp [Turn.applies, outcome]
  have reason : noSavings (turn.result targets context) = belowText minimum := by
    rw [noSavings, outcome]
    apply if_neg
    intro empty
    change belowText minimum = "" at empty
    apply belowText_not_apart minimum
    rw [empty]
    simp [Apart]
  rcases total.rejected with ⟨losers, -, rejected⟩
  rw [rejected]
  apply List.mem_append_right
  rw [← reason]
  exact List.mem_map_of_mem (List.mem_filter.mpr ⟨played, by simp [idle]⟩)

/-- Who is refused for being below a minimum was below it at his turn. -/
theorem below_of_refused (total : TotalOf promotions context targets result)
    (legible : AllLegible promotions targets) (subtotal : 0 ≤ context.subtotalCents)
    (distinct : (promotions.map Promotion.id).Nodup) {offer : Offer}
    (auto : offer ∈ (splitBySurface promotions).autos) {minimum : Nat}
    (refused : (offer.id, belowText minimum) ∈ result.rejected) :
    ∃ turn ∈ autoTurns promotions context targets, turn.offer = offer ∧
      turn.offer.rule.belowMinimum (turn.narrowed context) = true := by
  have all := ((splitBySurface_spec promotions).reported.nodup_iff).mpr distinct
  rw [List.append_assoc, List.nodup_append', List.nodup_append'] at all
  rcases all with ⟨-, ⟨-, autosDistinct, codesApart⟩, apart⟩
  have mine : offer.id ∈ (splitBySurface promotions).autos.map Offer.id :=
    List.mem_map_of_mem auto
  rcases total.rejected with ⟨losers, reasons, rejected⟩
  rw [rejected] at refused
  rcases List.mem_append.mp refused with early | played
  · exfalso
    rcases List.mem_append.mp early with early | lost
    · rcases List.mem_append.mp early with surface | code
      · exact apart (List.mem_map_of_mem (f := Prod.fst) surface) (List.mem_append_right _ mine)
      · have report := codeContest_report legible subtotal distinct
        have listed := report.reported.subset
          (List.mem_append_right _ (List.mem_map_of_mem (f := Prod.fst) code))
        exact codesApart listed mine
    · have reason : belowText minimum = anotherTier := reasons _ lost
      have apart_ := belowText_not_apart minimum
      rw [reason] at apart_
      exact apart_ anotherTier_apart
  · rcases List.mem_map.mp played with ⟨turn, listed, same⟩
    have here := (List.mem_filter.mp listed).1
    have inAutos := (List.mem_filter.mp (offer_mem_of_turns here)).1
    rw [Prod.mk.injEq] at same
    have identical := List.inj_on_of_nodup_map autosDistinct inAutos auto same.1
    refine ⟨turn, here, identical, ?_⟩
    by_contra reached
    rw [Bool.not_eq_true] at reached
    rcases (legible _ (List.mem_append_right _ inAutos)).result_eq with ⟨buy, get, legs, equal⟩
    apply belowText_not_apart minimum
    rw [← same.2, noSavings]
    split
    · simp [Apart]
    · rw [Turn.result, (equal _).2]
      exact turn.offer.rule.calculate_apart (turn.narrowed context) reached buy get legs

theorem gatedOnCart_of_leavesEnough (total : TotalOf promotions context targets result)
    (legible : AllLegible promotions targets) (subtotal : 0 ≤ context.subtotalCents)
    (distinct : (promotions.map Promotion.id).Nodup)
    (enough : LeavesEnough promotions context targets) :
    GatedOnCart promotions context targets result := by
  constructor
  · rintro id minimum ⟨⟨promo, member, rfl, surface, rule, has_rule, given⟩, reached⟩ refused
    have auto : (⟨promo, rule, has_rule⟩ : Offer) ∈ (splitBySurface promotions).autos := by
      rw [(splitBySurface_offers promotions).2]
      exact List.mem_filterMap.mpr ⟨promo, member, offerOn_eq_some.mpr ⟨rfl, surface⟩⟩
    rcases below_of_refused total legible subtotal distinct auto refused with
      ⟨turn, played, same, below⟩
    have minimum_ : turn.offer.rule.minSubtotalCents = some minimum := by rw [same]; exact given
    have admitted : turn.offer.rule.belowMinimum context = false := by
      simpa [DiscountRule.belowMinimum, minimum_] using reached
    have listed : minimum ∈ turn.offer.rule.thresholds := by
      simp [DiscountRule.thresholds, minimum_]
    have left_ := leavesEnough_turns enough legible subtotal played admitted minimum listed reached
    have reaches : turn.offer.rule.belowMinimum (turn.narrowed context) = false := by
      simp only [DiscountRule.belowMinimum, minimum_]
      exact decide_eq_false (not_lt.mpr left_)
    rw [reaches] at below
    cases below
  · intro turn played kind admitted
    apply (turn.offer.rule.tierAt_eq_iff (turn_left_le legible subtotal distinct played)).mpr
    intro tier member
    apply leavesEnough_turns enough legible subtotal played admitted tier.thresholdCents
    rw [DiscountRule.thresholds, if_pos kind]
    exact List.mem_append_right _ (List.mem_map_of_mem member)

theorem leavesEnough_of_gatedOnCart (total : TotalOf promotions context targets result)
    (legible : AllLegible promotions targets) (subtotal : 0 ≤ context.subtotalCents)
    (distinct : (promotions.map Promotion.id).Nodup)
    (gated : GatedOnCart promotions context targets result) :
    LeavesEnough promotions context targets := by
  intro before offer after split_ admitted threshold listed reached
  rw [← codeContest_saving legible subtotal]
  set left := leftAfter targets context
    (context.subtotalCents - (codeContest promotions context targets).discount) before with hleft
  have played : (⟨offer, left⟩ : Turn) ∈ autoTurns promotions context targets :=
    mem_turns.mpr ⟨before, after, split_, rfl⟩
  rcases List.mem_append.mp listed with minimum | tier
  · have given : offer.rule.minSubtotalCents = some threshold := by simpa using minimum
    by_contra below
    have refused := refused_of_below total legible played given (not_le.mp below)
    have kept := offer_mem_of_turns played
    rcases (splitBySurface_spec promotions).autos offer (List.mem_filter.mp kept).1 with
      ⟨member, surface⟩
    exact gated.accepted offer.id threshold
      ⟨⟨offer.promo, member, rfl, surface, offer.rule, offer.has_rule, given⟩, reached⟩ refused
  · by_cases kind : offer.rule.kind = .tiered
    · rw [if_pos kind] at tier
      rcases List.mem_map.mp tier with ⟨asked, member, rfl⟩
      have same := gated.sameTier ⟨offer, left⟩ played kind admitted
      have less := turn_left_le legible subtotal distinct played
      exact (offer.rule.tierAt_eq_iff less).mp same asked member reached
    · rw [if_neg kind] at tier
      cases tier

/-- The whole cart decides on minimum and tier of each automatic promotion exactly when what is
taken off before it leaves enough. -/
theorem gatedOnCart_iff_leavesEnough (promotions : List Promotion)
    (distinct : (promotions.map Promotion.id).Nodup) (context : DiscountContext)
    (subtotal : 0 ≤ context.subtotalCents) (targets : TargetsByPromotion)
    (result : DiscountTotalResult) (ok : calculateTotal promotions context targets = .ok result) :
    GatedOnCart promotions context targets result ↔ LeavesEnough promotions context targets := by
  have total := totalOf_calculateTotal distinct subtotal ok
  have legible := legible_of_calculateTotal ok
  constructor
  · exact leavesEnough_of_gatedOnCart total legible subtotal distinct
  · exact gatedOnCart_of_leavesEnough total legible subtotal distinct

end Gate

/-- A percentage for carts from a subtotal on. -/
def percentFrom (percent minimum : Nat) (within : percent ≤ 100) : DiscountRule where
  kind := .percentage
  valuePercent := some percent
  minSubtotalCents := some minimum
  valuePercent_le := some_le_hundred within
  validated := rfl

theorem gatedOnCart_half_off :
    let promotions := [autoFor 101 (percentFrom 10 1500 (by decide)),
      autoFor 102 (percentOff 50 (by decide))]
    ∃ result, calculateTotal promotions (cartContext bagAndShoes none) none = .ok result ∧
      GatedOnCart promotions (cartContext bagAndShoes none) none result := by
  intro promotions
  refine ⟨_, rfl, ?_⟩
  apply (gatedOnCart_iff_leavesEnough promotions (by decide) (cartContext bagAndShoes none)
    (by decide) none _ rfl).mpr
  intro before offer after split_ admitted threshold listed reached
  cases before with
  | nil => exact reached
  | cons first rest =>
      injection split_ with _ tail
      cases rest with
      | nil =>
          injection tail with same _
          rw [← same] at listed
          cases listed
      | cons second others =>
          injection tail with _ narrowed
          have none_ : [] = others ++ offer :: after := narrowed
          exact absurd none_.symm (by simp)

/-- Half off leaves 1000 of a cart of 2000, below the 1500 of the promotion after it. -/
theorem half_off_shuts_out_minimum :
    let promotions := [autoFor 101 (percentOff 50 (by decide)),
      autoFor 102 (percentFrom 10 1500 (by decide))]
    let cart := cartContext bagAndShoes none
    Admitted promotions cart 102 1500 ∧
      ∃ result, calculateTotal promotions cart none = .ok result ∧
        result.rejected = [(102, belowText 1500)] := by
  intro promotions cart
  constructor
  · refine ⟨⟨_, List.mem_cons_of_mem _ List.mem_cons_self, rfl, rfl, _, rfl, rfl⟩, by decide⟩
  · exact ⟨_, rfl, by decide⟩

end Numu.Promotions
