import Numu.Promotions.Scope
import Numu.Promotions.Turns

/-! What the order of the promotions decides in `calculate_total`. -/

namespace Numu.Promotions
open Numu.Orders (UUID)

/-- The offer of a promotion on a surface. -/
def offerOn (surface : PromotionSurface) (promo : Promotion) : Option Offer :=
  match has_rule : promo.discountRule with
  | none => none
  | some rule => if promo.surface = surface then some ⟨promo, rule, has_rule⟩ else none

theorem offerOn_eq_some {surface : PromotionSurface} {promo : Promotion} {offer : Offer} :
    offerOn surface promo = some offer ↔ offer.promo = promo ∧ promo.surface = surface := by
  unfold offerOn
  split
  · rename_i bare
    constructor
    · intro absurd_
      cases absurd_
    · rintro ⟨rfl, -⟩
      rw [offer.has_rule] at bare
      cases bare
  · rename_i rule has_rule
    split
    · rename_i on
      constructor
      · intro same
        cases same
        exact ⟨rfl, on⟩
      · rintro ⟨rfl, -⟩
        cases offer with
        | mk promo own given =>
            have same : rule = own := Option.some.inj (has_rule.symm.trans given)
            subst same
            rfl
    · rename_i off
      constructor
      · intro absurd_
        cases absurd_
      · rintro ⟨-, on⟩
        exact absurd on off

theorem offerOn_bare {surface : PromotionSurface} {promo : Promotion}
    (bare : promo.discountRule = none) : offerOn surface promo = none := by
  apply Option.eq_none_iff_forall_not_mem.mpr
  intro offer found
  rcases offerOn_eq_some.mp found with ⟨rfl, -⟩
  rw [offer.has_rule] at bare
  cases bare

theorem offerOn_off {surface : PromotionSurface} {promo : Promotion}
    (off : promo.surface ≠ surface) : offerOn surface promo = none := by
  apply Option.eq_none_iff_forall_not_mem.mpr
  intro offer found
  exact off (offerOn_eq_some.mp found).2

theorem splitBySurface_offers (promotions : List Promotion) :
    (splitBySurface promotions).codes = promotions.filterMap (offerOn .discountCode) ∧
      (splitBySurface promotions).autos = promotions.filterMap (offerOn .automatic) := by
  induction promotions with
  | nil => exact ⟨rfl, rfl⟩
  | cons promo rest ih =>
      rw [splitBySurface, List.filterMap_cons, List.filterMap_cons]
      split
      · rename_i bare
        rw [offerOn_bare bare, offerOn_bare bare]
        exact ih
      · rename_i rule has_rule
        have on (surface : PromotionSurface) (same : promo.surface = surface) :
            offerOn surface promo = some ⟨promo, rule, has_rule⟩ :=
          offerOn_eq_some.mpr ⟨rfl, same⟩
        split
        · rename_i code
          rw [on _ code, offerOn_off (by simp [code]), ih.1, ih.2]
          exact ⟨rfl, rfl⟩
        · rename_i auto
          rw [on _ auto, offerOn_off (by simp [auto]), ih.1, ih.2]
          exact ⟨rfl, rfl⟩
        · rename_i code auto
          rw [offerOn_off code, offerOn_off auto]
          exact ih

namespace DiscountRule

/-- Free shipping is a rule of its own kind, above its minimum. It takes nothing off. -/
theorem calculate_freeShipping (rule : DiscountRule) (context : DiscountContext)
    (buyFilter getFilter : Option LineFilter) (legFilters : Option (List (Option LineFilter))) :
    ((rule.calculate context buyFilter getFilter legFilters).freeShipping = true ↔
      rule.kind = .freeShipping ∧ rule.belowMinimum context = false) ∧
    (rule.kind = .freeShipping →
      (rule.calculate context buyFilter getFilter legFilters).discountCents = 0) := by
  rw [calculate]
  cases below : rule.belowMinimum context with
  | true => simp
  | false =>
      simp only [Bool.false_eq_true, if_false]
      cases kind : rule.kind with
      | freeShipping => simp
      | percentage => simp [percentage]
      | fixed => simp [fixed]
      | bogo =>
          simp only [bogo]
          split <;> simp
      | tiered =>
          simp only [tiered]
          split <;> simp
      | multibuy =>
          simp only [multibuy]
          split
          · simp
          · split <;> simp
      | bundle =>
          simp only [bundle]
          split <;> simp

end DiscountRule

section Codes
variable {best : Offer × DiscountResult} {results shuffled : List (Offer × DiscountResult)}

theorem bestResult_max (best : Offer × DiscountResult) (results : List (Offer × DiscountResult)) :
    ∀ pair ∈ best :: results,
      pair.2.discountCents ≤ (bestResult best results).2.discountCents := by
  induction results generalizing best with
  | nil =>
      intro pair member
      rw [List.mem_singleton.mp member]
      exact le_refl _
  | cons next rest ih =>
      intro pair member
      rw [bestResult]
      split
      · rename_i less
        rcases List.mem_cons.mp member with rfl | later
        · exact less.le.trans (ih next next List.mem_cons_self)
        · exact ih next pair later
      · rename_i least
        rcases List.mem_cons.mp member with rfl | later
        · exact ih pair pair List.mem_cons_self
        · rcases List.mem_cons.mp later with rfl | later
          · exact (not_lt.mp least).trans (ih best best List.mem_cons_self)
          · exact ih best pair (List.mem_cons_of_mem _ later)

theorem bestResult_first {amount : Int} (first : best.2.discountCents = amount)
    (least : ∀ pair ∈ results, pair.2.discountCents = amount) : bestResult best results = best := by
  induction results with
  | nil => rfl
  | cons next rest ih =>
      have same := least next List.mem_cons_self
      rw [bestResult, if_neg (by omega)]
      exact ih fun pair member => least pair (List.mem_cons_of_mem _ member)

/-- Results as rules give them: an amount, or free shipping, or nothing. -/
def Plain (results : List (Offer × DiscountResult)) : Prop :=
  ∀ pair ∈ results, 0 ≤ pair.2.discountCents ∧
    (pair.2.freeShipping = true → pair.2.discountCents = 0)

theorem codeOutcome_of_pos (plain : Plain results) {pair : Offer × DiscountResult}
    (member : pair ∈ results) (positive : 0 < pair.2.discountCents) :
    0 < (codeOutcome results).discount ∧
      (∀ other ∈ results, other.2.discountCents ≤ (codeOutcome results).discount) ∧
      (∃ other ∈ results, (codeOutcome results).discount = other.2.discountCents) ∧
      (codeOutcome results).freeShipping = false ∧ (codeOutcome results).applied ≠ [] := by
  cases results with
  | nil => cases member
  | cons first rest =>
      have most := bestResult_max first rest
      have chosen := bestResult_mem first rest
      have here := most pair member
      have cents : 0 < (bestResult first rest).2.discountCents := by omega
      have saves : ¬((bestResult first rest).2.discountCents = 0 ∧
          (bestResult first rest).2.freeShipping = false) := by
        intro nothing
        omega
      have charged : (bestResult first rest).2.freeShipping = false := by
        by_contra free
        rw [Bool.not_eq_false] at free
        have nothing := (plain _ chosen).2 free
        omega
      rw [codeOutcome, if_neg saves]
      exact ⟨cents, most, ⟨_, chosen, rfl⟩, charged, List.cons_ne_nil _ _⟩

theorem codeOutcome_of_zero {first : Offer × DiscountResult}
    (zero : ∀ pair ∈ first :: results, pair.2.discountCents = 0) :
    (codeOutcome (first :: results)).discount = 0 ∧
      (codeOutcome (first :: results)).freeShipping = first.2.freeShipping ∧
      ((codeOutcome (first :: results)).applied ≠ [] ↔ first.2.freeShipping = true) := by
  have same : bestResult first results = first :=
    bestResult_first (zero first List.mem_cons_self)
      fun pair member => zero pair (List.mem_cons_of_mem _ member)
  have cents := zero first List.mem_cons_self
  rw [codeOutcome, same]
  cases shipping : first.2.freeShipping with
  | true => simp [cents]
  | false => simp [cents]

/-- The codes do not tie: one takes something off, or all or none give free shipping. -/
def Alike (results : List (Offer × DiscountResult)) : Prop :=
  (∃ pair ∈ results, 0 < pair.2.discountCents) ∨
    ∀ pair ∈ results, ∀ other ∈ results, pair.2.freeShipping = other.2.freeShipping

/-- What a customer sees of the contest. -/
def SameContest (one other : CodeOutcome) : Prop :=
  other.discount = one.discount ∧ other.freeShipping = one.freeShipping ∧
    (other.applied ≠ [] ↔ one.applied ≠ [])

theorem zero_of_plain (plain : Plain results)
    (none_ : ¬∃ pair ∈ results, 0 < pair.2.discountCents) :
    ∀ pair ∈ results, pair.2.discountCents = 0 := by
  intro pair member
  have floor := (plain pair member).1
  by_contra other
  exact none_ ⟨pair, member, by omega⟩

theorem alike_same (plain : Plain results) (perm : shuffled.Perm results)
    (alike : Alike results) : SameContest (codeOutcome results) (codeOutcome shuffled) := by
  have plain_ : Plain shuffled := fun pair member => plain pair (perm.mem_iff.mp member)
  by_cases positive : ∃ pair ∈ results, 0 < pair.2.discountCents
  · rcases positive with ⟨pair, member, positive⟩
    rcases codeOutcome_of_pos plain member positive with ⟨-, most, ⟨top, listed, same⟩, free, some_⟩
    rcases codeOutcome_of_pos plain_ (perm.mem_iff.mpr member) positive with
      ⟨-, most_, ⟨top_, listed_, same_⟩, free_, some__⟩
    have upper := most top_ (perm.mem_iff.mp listed_)
    have lower := most_ top (perm.mem_iff.mpr listed)
    exact ⟨by omega, by rw [free, free_], by simp [some_, some__]⟩
  · have zero := zero_of_plain plain positive
    have zero_ : ∀ pair ∈ shuffled, pair.2.discountCents = 0 :=
      fun pair member => zero pair (perm.mem_iff.mp member)
    have same := alike.resolve_left positive
    cases results with
    | nil =>
        rw [List.perm_nil.mp perm]
        exact ⟨rfl, rfl, Iff.rfl⟩
    | cons first rest =>
        cases shuffled with
        | nil => exact absurd perm.symm.eq_nil (List.cons_ne_nil _ _)
        | cons head tail =>
            rcases codeOutcome_of_zero zero with ⟨amount, shipping, applied⟩
            rcases codeOutcome_of_zero zero_ with ⟨amount_, shipping_, applied_⟩
            have heads := same head (perm.mem_iff.mp List.mem_cons_self) first List.mem_cons_self
            exact ⟨by rw [amount, amount_], by rw [shipping, shipping_, heads],
              by rw [applied, applied_, heads]⟩

/-- Codes that are not alike: the two that come first decide whether one is applied. -/
theorem unlike_differ (plain : Plain results) (unlike : ¬Alike results) :
    (∀ pair ∈ results, pair.2.discountCents = 0) ∧
      (∃ pair ∈ results, pair.2.freeShipping = true) ∧
        ∃ pair ∈ results, pair.2.freeShipping = false := by
  rw [Alike, not_or] at unlike
  refine ⟨zero_of_plain plain unlike.1, ?_⟩
  have differ := unlike.2
  push Not at differ
  rcases differ with ⟨pair, member, other, listed, apart⟩
  cases shipping : pair.2.freeShipping with
  | true =>
      rw [shipping] at apart
      exact ⟨⟨pair, member, shipping⟩, other, listed, by simpa using apart.symm⟩
  | false =>
      rw [shipping] at apart
      exact ⟨⟨other, listed, by simpa using apart.symm⟩, pair, member, shipping⟩

end Codes

section Shipping
variable {targets : TargetsByPromotion} {context : DiscountContext}

/-- The offers that take money off. -/
def paying (offers : List Offer) : List Offer :=
  offers.filter fun offer => offer.rule.kind ≠ .freeShipping

/-- A subtotal that the rule's minimum lets through. -/
def DiscountRule.Reaches (rule : DiscountRule) (subtotalCents : Int) : Prop :=
  ∀ minimum ∈ rule.minSubtotalCents, (minimum : Int) ≤ subtotalCents

theorem DiscountRule.belowMinimum_eq_false {rule : DiscountRule} {context : DiscountContext} :
    rule.belowMinimum context = false ↔ rule.Reaches context.subtotalCents := by
  unfold belowMinimum Reaches
  cases rule.minSubtotalCents with
  | none => simp
  | some minimum => simp

theorem DiscountRule.Reaches.mono {rule : DiscountRule} {less more : Int}
    (reaches : rule.Reaches less) (le : less ≤ more) : rule.Reaches more :=
  fun minimum given => (reaches minimum given).trans le

theorem result_ships {offer : Offer} (legible : offer.Legible targets)
    (context : DiscountContext) :
    (offer.result targets context).freeShipping = true ↔
      offer.rule.kind = .freeShipping ∧ offer.rule.Reaches context.subtotalCents := by
  rcases legible.result_eq with ⟨buyFilter, getFilter, legFilters, same⟩
  rw [(same context).2, (offer.rule.calculate_freeShipping context _ _ _).1,
    DiscountRule.belowMinimum_eq_false]

theorem result_of_free {offer : Offer} (free : offer.rule.kind = .freeShipping)
    (targets : TargetsByPromotion) (context : DiscountContext) :
    (offer.result targets context).discountCents = 0 := by
  by_cases legible : offer.Legible targets
  · rcases legible.result_eq with ⟨buyFilter, getFilter, legFilters, same⟩
    rw [(same context).2]
    exact (offer.rule.calculate_freeShipping context _ _ _).2 free
  · unfold Offer.result
    cases evaluated : offer.evaluate targets context with
    | error message => rfl
    | ok result => exact absurd (Offer.legible_of_evaluate evaluated) legible

theorem leftAfter_paying (left : Int) (offers : List Offer) :
    leftAfter targets context left (paying offers) = leftAfter targets context left offers := by
  induction offers generalizing left with
  | nil => rfl
  | cons offer rest ih =>
      by_cases free : offer.rule.kind = .freeShipping
      · have nothing : (Turn.result ⟨offer, left⟩ targets context).discountCents = 0 :=
          result_of_free free targets _
        have dropped : paying (offer :: rest) = paying rest := by simp [paying, free]
        rw [leftAfter, nothing, sub_zero, dropped]
        exact ih left
      · have kept : paying (offer :: rest) = offer :: paying rest := by simp [paying, free]
        rw [kept, leftAfter, leftAfter]
        exact ih _

theorem key_of_free {offer : Offer} (free : offer.rule.kind = .freeShipping) :
    multibuyScopeKey offer targets = none := by
  rw [multibuyScopeKey, free]
  rfl

theorem rivals_paying (autos : List Offer) (key : String) :
    rivals targets (paying autos) key = rivals targets autos key := by
  rw [rivals, paying, List.filter_filter]
  apply List.filter_congr
  intro offer _
  by_cases free : offer.rule.kind = .freeShipping
  · simp [key_of_free free]
  · simp [free]

theorem keptOf_paying (autos : List Offer) :
    keptOf targets context (paying autos) = paying (keptOf targets context autos) := by
  rw [keptOf, keptOf, survives_congr fun key => rivals_paying autos key, paying, paying,
    List.filter_comm]

theorem rivals_of_free {free : List Offer} (all : ∀ offer ∈ free, offer.rule.kind = .freeShipping)
    (key : String) : rivals targets free key = [] := by
  apply List.filter_eq_nil_iff.mpr
  intro offer member
  simp [key_of_free (all offer member)]

theorem rivals_append (front back : List Offer) (key : String) :
    rivals targets (front ++ back) key =
      rivals targets front key ++ rivals targets back key :=
  List.filter_append _ _

/-- Free shipping takes no part in the contest of the multibuys. -/
theorem keptOf_append_free (targets : TargetsByPromotion) (context : DiscountContext)
    (offers : List Offer) {free : List Offer}
    (all : ∀ offer ∈ free, offer.rule.kind = .freeShipping) :
    keptOf targets context (offers ++ free) = keptOf targets context offers ++ free ∧
      keptOf targets context (free ++ offers) = free ++ keptOf targets context offers := by
  have stay (autos : List Offer) : free.filter (survives targets context autos) = free := by
    apply List.filter_eq_self.mpr
    intro offer member
    exact survives_of_none (key_of_free (all offer member))
  have behind : survives targets context (offers ++ free) = survives targets context offers :=
    survives_congr fun key => by rw [rivals_append, rivals_of_free all, List.append_nil]
  have ahead : survives targets context (free ++ offers) = survives targets context offers :=
    survives_congr fun key => by rw [rivals_append, rivals_of_free all, List.nil_append]
  constructor
  · rw [keptOf, keptOf, behind, List.filter_append, stay]
  · rw [keptOf, keptOf, ahead, List.filter_append, stay]

theorem mem_keptOf_of_free (targets : TargetsByPromotion) (context : DiscountContext)
    {autos : List Offer} {offer : Offer} (member : offer ∈ autos)
    (free : offer.rule.kind = .freeShipping) : offer ∈ keptOf targets context autos := by
  apply List.mem_filter.mpr
  exact ⟨member, survives_of_none (key_of_free free)⟩

/-- An automatic promotion that ships for free, if the rest leaves it enough. -/
def FreeAt (autos : List Offer) (left : Int) : Prop :=
  ∃ offer ∈ autos, offer.rule.kind = .freeShipping ∧ offer.rule.Reaches left

theorem freeAt_of_ships {autos : List Offer} (legible : ∀ offer ∈ autos, offer.Legible targets)
    {left : Int} (nonneg : 0 ≤ left)
    (ships : ((turns targets context left (keptOf targets context autos)).any fun turn =>
      (turn.result targets context).freeShipping) = true) : FreeAt autos left := by
  rcases List.any_eq_true.mp ships with ⟨turn, played, free⟩
  rcases mem_turns.mp played with ⟨before, -, -, left_⟩
  have member := (List.mem_filter.mp (offer_mem_of_turns played)).1
  rcases (result_ships (legible _ member) (turn.narrowed context)).mp free with ⟨kind, reaches⟩
  have less := (leftAfter_bounds targets context nonneg before).2
  exact ⟨turn.offer, member, kind, reaches.mono (by rw [← left_] at less; exact less)⟩

/-- A free shipping that what the others leave in the end still reaches is granted at its turn. -/
theorem ships_of_freeAt {autos : List Offer} (legible : ∀ offer ∈ autos, offer.Legible targets)
    {left : Int} (nonneg : 0 ≤ left)
    (free : FreeAt autos (leftAfter targets context left (keptOf targets context autos))) :
    ((turns targets context left (keptOf targets context autos)).any fun turn =>
      (turn.result targets context).freeShipping) = true := by
  rcases free with ⟨offer, member, kind, reaches⟩
  rcases List.append_of_mem (mem_keptOf_of_free targets context member kind) with ⟨before, after, split_⟩
  apply List.any_eq_true.mpr
  refine ⟨⟨offer, leftAfter targets context left before⟩,
    mem_turns.mpr ⟨before, after, split_, rfl⟩, ?_⟩
  apply (result_ships (legible offer member) _).mpr
  refine ⟨kind, reaches.mono ?_⟩
  have upTo := (leftAfter_bounds targets context nonneg before).1
  rw [split_, leftAfter_append]
  exact (leftAfter_bounds targets context upTo _).2

end Shipping

section Shuffles
variable {promotions shuffled : List Promotion} {targets : TargetsByPromotion}
  {context : DiscountContext}

theorem codes_perm (perm : shuffled.Perm promotions) :
    (splitBySurface shuffled).codes.Perm (splitBySurface promotions).codes := by
  rw [(splitBySurface_offers shuffled).1, (splitBySurface_offers promotions).1]
  exact perm.filterMap _

theorem autos_perm (perm : shuffled.Perm promotions) :
    (splitBySurface shuffled).autos.Perm (splitBySurface promotions).autos := by
  rw [(splitBySurface_offers shuffled).2, (splitBySurface_offers promotions).2]
  exact perm.filterMap _

theorem AllLegible.perm (legible : AllLegible promotions targets)
    (perm : shuffled.Perm promotions) : AllLegible shuffled targets := by
  intro offer member
  apply legible offer
  rcases List.mem_append.mp member with code | auto
  · exact List.mem_append_left _ ((codes_perm perm).mem_iff.mp code)
  · exact List.mem_append_right _ ((autos_perm perm).mem_iff.mp auto)

/-- Any of the codes can be the first. -/
theorem exists_code_first {offer : Offer} (member : offer ∈ (splitBySurface promotions).codes) :
    ∃ shuffled : List Promotion, shuffled.Perm promotions ∧
      ∃ rest, (splitBySurface shuffled).codes = offer :: rest := by
  rw [(splitBySurface_offers promotions).1] at member
  rcases List.mem_filterMap.mp member with ⟨promo, listed, found⟩
  rcases List.append_of_mem listed with ⟨before, after, rfl⟩
  refine ⟨promo :: (before ++ after), List.perm_middle.symm,
    (before ++ after).filterMap (offerOn .discountCode), ?_⟩
  rw [(splitBySurface_offers _).1, List.filterMap_cons, found]

theorem filterMap_promo {surface : PromotionSurface} {offers : List Offer}
    (on : ∀ offer ∈ offers, offer.promo.surface = surface) :
    (offers.map Offer.promo).filterMap (offerOn surface) = offers := by
  induction offers with
  | nil => rfl
  | cons offer rest ih =>
      have here : offerOn surface offer.promo = some offer :=
        offerOn_eq_some.mpr ⟨rfl, on offer List.mem_cons_self⟩
      rw [List.map_cons, List.filterMap_cons, here]
      exact congrArg _ (ih fun other member => on other (List.mem_cons_of_mem _ member))

theorem map_promo_filterMap (surface : PromotionSurface) (promotions : List Promotion) :
    (promotions.filterMap (offerOn surface)).map Offer.promo =
      promotions.filter fun promo => (offerOn surface promo).isSome := by
  induction promotions with
  | nil => rfl
  | cons promo rest ih =>
      cases found : offerOn surface promo with
      | none => simpa [List.filterMap_cons, found] using ih
      | some offer =>
          have same := (offerOn_eq_some.mp found).1
          simpa [List.filterMap_cons, found, same] using ih

/-- The automatic promotions can come in any order, and the codes stay as they are. -/
theorem exists_auto_order {order : List Offer}
    (perm : order.Perm (splitBySurface promotions).autos) :
    ∃ shuffled : List Promotion, shuffled.Perm promotions ∧
      (splitBySurface shuffled).autos = order ∧
        (splitBySurface shuffled).codes = (splitBySurface promotions).codes := by
  rw [(splitBySurface_offers promotions).2] at perm
  have on : ∀ offer ∈ order, offer.promo.surface = .automatic := by
    intro offer member
    rcases List.mem_filterMap.mp (perm.mem_iff.mp member) with ⟨promo, -, found⟩
    rcases offerOn_eq_some.mp found with ⟨rfl, surface⟩
    exact surface
  set others := promotions.filter fun promo => !(offerOn .automatic promo).isSome with hothers
  refine ⟨order.map Offer.promo ++ others, ?_, ?_, ?_⟩
  · have here := (perm.map Offer.promo).append_right others
    rw [map_promo_filterMap] at here
    exact here.trans (List.filter_append_perm _ promotions)
  · have none_ : others.filterMap (offerOn .automatic) = [] := by
      apply List.filterMap_eq_nil_iff.mpr
      intro promo member
      simpa using (List.mem_filter.mp member).2
    rw [(splitBySurface_offers _).2, List.filterMap_append, filterMap_promo on, none_,
      List.append_nil]
  · have none_ : (order.map Offer.promo).filterMap (offerOn .discountCode) = [] := by
      apply List.filterMap_eq_nil_iff.mpr
      intro promo member
      rcases List.mem_map.mp member with ⟨offer, listed, rfl⟩
      exact offerOn_off (by simp [on offer listed])
    rw [(splitBySurface_offers _).1, (splitBySurface_offers _).1, List.filterMap_append, none_,
      List.nil_append, hothers, List.filterMap_filter]
    apply List.filterMap_congr
    intro promo _
    cases auto : offerOn .automatic promo with
    | none => rfl
    | some offer =>
        have surface := (offerOn_eq_some.mp auto).2
        rw [offerOn_off (by simp [surface])]
        rfl

end Shuffles

section Choice
variable {promotions shuffled : List Promotion} {targets : TargetsByPromotion}
  {context : DiscountContext} {result : DiscountTotalResult}

/-- Some code is among the applied promotions. -/
def CodeApplied (promotions : List Promotion) (result : DiscountTotalResult) : Prop :=
  ∃ promo ∈ promotions, promo.surface = .discountCode ∧ promo.id ∈ result.appliedPromotionIds

/-- What the codes give over the cart. -/
def codeResults (promotions : List Promotion) (context : DiscountContext)
    (targets : TargetsByPromotion) : List (Offer × DiscountResult) :=
  (splitBySurface promotions).codes.map fun offer => (offer, offer.result targets context)

theorem codeResults_plain (legible : AllLegible promotions targets)
    (subtotal : 0 ≤ context.subtotalCents) : Plain (codeResults promotions context targets) := by
  intro pair member
  rcases List.mem_map.mp member with ⟨offer, listed, rfl⟩
  have readable := legible offer (List.mem_append_left _ listed)
  refine ⟨(offer.result_bounds targets subtotal).1, fun free => ?_⟩
  exact result_of_free ((result_ships readable context).mp free).1 targets context

theorem codeResults_perm (perm : shuffled.Perm promotions) :
    (codeResults shuffled context targets).Perm (codeResults promotions context targets) :=
  (codes_perm perm).map _

theorem codeOutcome_applied (results : List (Offer × DiscountResult)) :
    ∀ id ∈ (codeOutcome results).applied, ∃ pair ∈ results, pair.1.id = id := by
  cases results with
  | nil => exact fun id member => absurd member List.not_mem_nil
  | cons first rest =>
      intro id member
      rw [codeOutcome] at member
      split at member
      · cases member
      · rw [List.mem_singleton] at member
        exact ⟨_, bestResult_mem first rest, member.symm⟩

/-- A code is applied exactly when the contest over the codes applies one. -/
theorem codeApplied_iff (distinct : (promotions.map Promotion.id).Nodup)
    (perm : shuffled.Perm promotions) (total : TotalOf shuffled context targets result) :
    CodeApplied promotions result ↔ (codeContest shuffled context targets).applied ≠ [] := by
  have split_ := splitBySurface_spec shuffled
  constructor
  · rintro ⟨promo, member, surface, applied⟩ none_
    rw [total.applied, none_, List.nil_append] at applied
    rcases List.mem_map.mp applied with ⟨turn, played, same⟩
    have inKept := offer_mem_of_turns (List.mem_filter.mp played).1
    rcases split_.autos turn.offer (List.mem_filter.mp inKept).1 with ⟨source, auto⟩
    have identical := List.inj_on_of_nodup_map distinct (perm.mem_iff.mp source) member same
    rw [identical, surface] at auto
    cases auto
  · intro some_
    rcases List.exists_mem_of_ne_nil _ some_ with ⟨id, applied⟩
    rcases codeOutcome_applied _ id applied with ⟨pair, listed, rfl⟩
    rcases List.mem_map.mp listed with ⟨offer, code, rfl⟩
    rcases split_.codes offer code with ⟨source, surface⟩
    refine ⟨offer.promo, perm.mem_iff.mp source, surface, ?_⟩
    rw [total.applied]
    exact List.mem_append_left _ applied

/-- The largest amount that one of the codes takes off. -/
def bestSaving (results : List (Offer × DiscountResult)) : Int :=
  (results.map fun pair => pair.2.discountCents).foldr max 0

theorem bestSaving_cons (pair : Offer × DiscountResult) (rest : List (Offer × DiscountResult)) :
    bestSaving (pair :: rest) = max pair.2.discountCents (bestSaving rest) := rfl

theorem bestSaving_spec (results : List (Offer × DiscountResult)) :
    0 ≤ bestSaving results ∧ (∀ pair ∈ results, pair.2.discountCents ≤ bestSaving results) ∧
      (bestSaving results = 0 ∨ ∃ pair ∈ results, bestSaving results = pair.2.discountCents) := by
  induction results with
  | nil => simp [bestSaving]
  | cons head rest ih =>
      rcases ih with ⟨nonneg, upper, source⟩
      rw [bestSaving_cons]
      refine ⟨nonneg.trans (le_max_right _ _), ?_, ?_⟩
      · intro pair member
        rcases List.mem_cons.mp member with rfl | later
        · exact le_max_left _ _
        · exact (upper pair later).trans (le_max_right _ _)
      · rcases max_choice head.2.discountCents (bestSaving rest) with here | there
        · exact .inr ⟨head, List.mem_cons_self, here⟩
        · rw [there]
          rcases source with zero | ⟨pair, listed, same⟩
          · exact .inl zero
          · exact .inr ⟨pair, List.mem_cons_of_mem _ listed, same⟩

theorem bestSaving_eq {results : List (Offer × DiscountResult)} (plain : Plain results) :
    (codeOutcome results).discount = bestSaving results := by
  rcases bestSaving_spec results with ⟨nonneg, upper, source⟩
  by_cases positive : ∃ pair ∈ results, 0 < pair.2.discountCents
  · rcases positive with ⟨pair, member, positive⟩
    rcases codeOutcome_of_pos plain member positive with ⟨cents, most, ⟨top, listed, same⟩, -, -⟩
    have lower := upper top listed
    rcases source with zero | ⟨other, known, equal⟩
    · omega
    · have bound := most other known
      omega
  · have zero := zero_of_plain plain positive
    have nothing : bestSaving results = 0 := by
      rcases source with zero_ | ⟨other, known, equal⟩
      · exact zero_
      · rw [equal, zero other known]
    rw [nothing]
    cases results with
    | nil => rfl
    | cons first rest => exact (codeOutcome_of_zero zero).1

/-- All codes give free shipping. -/
def CodesShip (results : List (Offer × DiscountResult)) : Prop :=
  results ≠ [] ∧ ∀ pair ∈ results, pair.2.freeShipping = true

theorem codesShip_iff {results : List (Offer × DiscountResult)} (plain : Plain results)
    (alike : Alike results) :
    (codeOutcome results).freeShipping = true ↔ CodesShip results := by
  by_cases positive : ∃ pair ∈ results, 0 < pair.2.discountCents
  · rcases positive with ⟨pair, member, positive⟩
    rcases codeOutcome_of_pos plain member positive with ⟨-, -, -, charged, -⟩
    rw [charged]
    constructor
    · intro absurd_
      cases absurd_
    · rintro ⟨-, all⟩
      have nothing := (plain pair member).2 (all pair member)
      omega
  · have same := alike.resolve_left positive
    cases results with
    | nil => exact ⟨fun free => absurd free Bool.false_ne_true, fun ships => absurd rfl ships.1⟩
    | cons first rest =>
        rw [(codeOutcome_of_zero (zero_of_plain plain positive)).2.1]
        constructor
        · intro free
          refine ⟨List.cons_ne_nil _ _, fun pair member => ?_⟩
          rw [same pair member first List.mem_cons_self, free]
        · exact fun ships => ships.2 first List.mem_cons_self

theorem applied_of_helps {results : List (Offer × DiscountResult)} (plain : Plain results)
    (alike : Alike results)
    (helps : ∃ pair ∈ results, 0 < pair.2.discountCents ∨ pair.2.freeShipping = true) :
    (codeOutcome results).applied ≠ [] := by
  by_cases positive : ∃ pair ∈ results, 0 < pair.2.discountCents
  · rcases positive with ⟨pair, member, positive⟩
    exact (codeOutcome_of_pos plain member positive).2.2.2.2
  · rcases helps with ⟨pair, member, helps⟩
    have free := helps.resolve_left fun here => positive ⟨pair, member, here⟩
    cases results with
    | nil => cases member
    | cons first rest =>
        apply (codeOutcome_of_zero (zero_of_plain plain positive)).2.2.mpr
        rw [← free]
        exact alike.resolve_left positive first List.mem_cons_self pair member

/-- Once an automatic promotion could ship for free, in every order of the others some such
promotion keeps its minimum. -/
def ShippingSettled (autos : List Offer) (targets : TargetsByPromotion) (context : DiscountContext)
    (left : Int) : Prop :=
  FreeAt autos left → ∀ order : List Offer, order.Perm (paying autos) →
    FreeAt autos (leftAfter targets context left (keptOf targets context order))

/-- Nothing that the customer sees of the codes depends on the order of the promotions. -/
structure OrderFree (promotions : List Promotion) (context : DiscountContext)
    (targets : TargetsByPromotion) : Prop where
  alike : Alike (codeResults promotions context targets)
  shipping : CodesShip (codeResults promotions context targets) ∨
    ShippingSettled (splitBySurface promotions).autos targets context
      (context.subtotalCents - bestSaving (codeResults promotions context targets))

theorem FreeAt.perm {autos order : List Offer} {left : Int} (free : FreeAt autos left)
    (perm : order.Perm autos) : FreeAt order left := by
  rcases free with ⟨offer, member, kind, reaches⟩
  exact ⟨offer, perm.mem_iff.mpr member, kind, reaches⟩

/-- Where free shipping is settled, the automatic promotions ship for free in every order or in
none. -/
theorem ships_iff_of_settled {autos order : List Offer} (perm : order.Perm autos)
    (legible : ∀ offer ∈ autos, offer.Legible targets) {left : Int} (nonneg : 0 ≤ left)
    (settled : ShippingSettled autos targets context left) :
    ((turns targets context left (keptOf targets context order)).any fun turn =>
      (turn.result targets context).freeShipping) = true ↔ FreeAt autos left := by
  have readable : ∀ offer ∈ order, offer.Legible targets :=
    fun offer member => legible offer (perm.mem_iff.mp member)
  constructor
  · intro ships
    exact (freeAt_of_ships readable nonneg ships).perm perm.symm
  · intro free
    apply ships_of_freeAt readable nonneg
    have stays := settled free (paying order) (perm.filter _)
    rw [keptOf_paying, leftAfter_paying] at stays
    exact stays.perm perm

theorem left_nonneg (promotions : List Promotion) (targets : TargetsByPromotion)
    (subtotal : 0 ≤ context.subtotalCents) :
    0 ≤ context.subtotalCents - bestSaving (codeResults promotions context targets) := by
  rcases (bestSaving_spec (codeResults promotions context targets)).2.2 with zero | ⟨pair, member, same⟩
  · omega
  · rcases List.mem_map.mp member with ⟨offer, -, rfl⟩
    rw [same]
    exact sub_nonneg.mpr (offer.result_bounds targets subtotal).2

/-- The choice of the code, and free shipping, are the same in every order of the promotions and
no helpful code is left aside. -/
structure Settled (promotions : List Promotion) (context : DiscountContext)
    (targets : TargetsByPromotion) (result : DiscountTotalResult) : Prop where
  everyOrder : ∀ shuffled : List Promotion, shuffled.Perm promotions →
    ∃ other, calculateTotal shuffled context targets = .ok other ∧
      other.codeDiscountCents = result.codeDiscountCents ∧
        other.freeShipping = result.freeShipping ∧
          (CodeApplied promotions other ↔ CodeApplied promotions result)
  helpful : (∃ pair ∈ codeResults promotions context targets,
    0 < pair.2.discountCents ∨ pair.2.freeShipping = true) → CodeApplied promotions result

theorem settled_of_orderFree (distinct : (promotions.map Promotion.id).Nodup)
    (subtotal : 0 ≤ context.subtotalCents)
    (ok : calculateTotal promotions context targets = .ok result)
    (free : OrderFree promotions context targets) : Settled promotions context targets result := by
  have legible := legible_of_calculateTotal ok
  have plain := codeResults_plain legible subtotal
  have total := totalOf_calculateTotal distinct subtotal ok
  constructor
  · intro shuffled perm
    have distinct_ : (shuffled.map Promotion.id).Nodup := (perm.map _).nodup_iff.mpr distinct
    rcases calculateTotal_turns distinct_ subtotal (legible.perm perm) with ⟨other, ok_, total_⟩
    have same : SameContest (codeContest promotions context targets)
        (codeContest shuffled context targets) :=
      alike_same plain (codeResults_perm perm) free.alike
    refine ⟨other, ok_, ?_, ?_, ?_⟩
    · rw [total_.codeDiscount, total.codeDiscount, same.1]
    · rw [total_.freeShipping, total.freeShipping, same.2.1]
      rcases free.shipping with ships | settled
      · have granted : (codeContest promotions context targets).freeShipping = true :=
          (codesShip_iff plain free.alike).mpr ships
        rw [granted, Bool.true_or, Bool.true_or]
      · have autos : ∀ offer ∈ (splitBySurface promotions).autos, offer.Legible targets :=
          fun offer member => legible offer (List.mem_append_right _ member)
        have saving : (codeContest promotions context targets).discount =
            bestSaving (codeResults promotions context targets) := bestSaving_eq plain
        have nonneg := left_nonneg promotions targets subtotal
        have here := ships_iff_of_settled (List.Perm.refl _) autos nonneg settled
        have there := ships_iff_of_settled (autos_perm perm) autos nonneg settled
        congr 1
        rw [autoTurns, autoTurns, same.1, saving]
        exact Bool.eq_iff_iff.mpr (there.trans here.symm)
    · rw [codeApplied_iff distinct perm total_, codeApplied_iff distinct (List.Perm.refl _) total]
      exact same.2.2
  · intro helps
    rw [codeApplied_iff distinct (List.Perm.refl _) total]
    exact applied_of_helps plain free.alike helps

theorem alike_of_settled (distinct : (promotions.map Promotion.id).Nodup)
    (subtotal : 0 ≤ context.subtotalCents)
    (ok : calculateTotal promotions context targets = .ok result)
    (settled : Settled promotions context targets result) :
    Alike (codeResults promotions context targets) := by
  by_contra unlike
  have legible := legible_of_calculateTotal ok
  have plain := codeResults_plain legible subtotal
  rcases unlike_differ plain unlike with ⟨zero, ⟨free, isFree, ships⟩, ⟨idle, isIdle, charges⟩⟩
  -- The code that comes first decides.
  have first (pair : Offer × DiscountResult)
      (member : pair ∈ codeResults promotions context targets) :
      CodeApplied promotions result ↔ pair.2.freeShipping = true := by
    rcases List.mem_map.mp member with ⟨offer, listed, rfl⟩
    rcases exists_code_first listed with ⟨shuffled, perm, rest, codes⟩
    rcases settled.everyOrder shuffled perm with ⟨other, ok_, -, -, same⟩
    have distinct_ : (shuffled.map Promotion.id).Nodup := (perm.map _).nodup_iff.mpr distinct
    rw [← same, codeApplied_iff distinct perm (totalOf_calculateTotal distinct_ subtotal ok_)]
    have results : codeResults shuffled context targets =
        (offer, offer.result targets context) ::
          rest.map fun offer => (offer, offer.result targets context) := by
      rw [codeResults, codes, List.map_cons]
    have zero_ : ∀ pair ∈ codeResults shuffled context targets, pair.2.discountCents = 0 :=
      fun pair member => zero pair ((codeResults_perm perm).mem_iff.mp member)
    rw [results] at zero_
    change (codeOutcome (codeResults shuffled context targets)).applied ≠ [] ↔ _
    rw [results]
    exact (codeOutcome_of_zero zero_).2.2
  have applied := (first free isFree).mpr ships
  have granted := (first idle isIdle).mp applied
  rw [charges] at granted
  cases granted

theorem shipping_of_settled (distinct : (promotions.map Promotion.id).Nodup)
    (subtotal : 0 ≤ context.subtotalCents)
    (ok : calculateTotal promotions context targets = .ok result)
    (settled : Settled promotions context targets result)
    (charged : ¬CodesShip (codeResults promotions context targets)) :
    ShippingSettled (splitBySurface promotions).autos targets context
      (context.subtotalCents - bestSaving (codeResults promotions context targets)) := by
  have legible := legible_of_calculateTotal ok
  have plain := codeResults_plain legible subtotal
  have alike := alike_of_settled distinct subtotal ok settled
  have nonneg := left_nonneg promotions targets subtotal
  have autos : ∀ offer ∈ (splitBySurface promotions).autos, offer.Legible targets :=
    fun offer member => legible offer (List.mem_append_right _ member)
  set left := context.subtotalCents - bestSaving (codeResults promotions context targets)
    with hleft
  -- With the codes as they are, the turns of the automatic promotions decide.
  have turns_ (order : List Offer) (perm : order.Perm (splitBySurface promotions).autos) :
      result.freeShipping = ((turns targets context left (keptOf targets context order)).any
        fun turn => (turn.result targets context).freeShipping) := by
    rcases exists_auto_order perm with ⟨shuffled, shuffle, autos_, codes_⟩
    rcases settled.everyOrder shuffled shuffle with ⟨other, ok_, -, same, -⟩
    have distinct_ : (shuffled.map Promotion.id).Nodup := (shuffle.map _).nodup_iff.mpr distinct
    have total := totalOf_calculateTotal distinct_ subtotal ok_
    have contest : codeContest shuffled context targets =
        codeOutcome (codeResults promotions context targets) := by
      rw [codeContest, codes_]
      rfl
    have none_ : (codeOutcome (codeResults promotions context targets)).freeShipping = false := by
      by_contra free
      rw [Bool.not_eq_false] at free
      exact charged ((codesShip_iff plain alike).mp free)
    rw [← same, total.freeShipping, autoTurns, contest, none_, Bool.false_or, autos_,
      bestSaving_eq plain]
  intro free order perm
  rcases free with ⟨offer, member, kind, reaches⟩
  set others := (splitBySurface promotions).autos.filter
    fun o => !decide (o.rule.kind ≠ .freeShipping) with hothers
  have all : (order ++ others).Perm (splitBySurface promotions).autos :=
    (perm.append_right others).trans (List.filter_append_perm _ _)
  have early : (others ++ order).Perm (splitBySurface promotions).autos :=
    List.perm_append_comm.trans all
  have free : ∀ o ∈ others, o.rule.kind = .freeShipping := by
    intro o listed
    simpa using (List.mem_filter.mp listed).2
  rcases keptOf_append_free targets context order free with ⟨behind, ahead⟩
  -- Ahead of the others the free shipping is granted, so it is granted behind them as well.
  have granted : result.freeShipping = true := by
    have listed : offer ∈ others := List.mem_filter.mpr ⟨member, by simp [kind]⟩
    rcases List.append_of_mem listed with ⟨before, after, split_⟩
    have charged_ : paying before = [] := by
      apply List.filter_eq_nil_iff.mpr
      intro o here
      have shipping := free o (by rw [split_]; exact List.mem_append_left _ here)
      simp [shipping]
    rw [turns_ _ early, ahead, turns_append, List.any_append, Bool.or_eq_true]
    left
    apply List.any_eq_true.mpr
    refine ⟨⟨offer, leftAfter targets context left before⟩,
      mem_turns.mpr ⟨before, after, split_, rfl⟩, ?_⟩
    apply (result_ships (autos offer member) _).mpr
    refine ⟨kind, ?_⟩
    change offer.rule.Reaches (leftAfter targets context left before)
    rw [← leftAfter_paying, charged_]
    exact reaches
  rw [turns_ _ all, behind, turns_append, List.any_append, Bool.or_eq_true] at granted
  rcases granted with inOrder | inOthers
  · rcases List.any_eq_true.mp inOrder with ⟨turn, played, ships⟩
    have listed := (List.mem_filter.mp (offer_mem_of_turns played)).1
    have pays : turn.offer.rule.kind ≠ .freeShipping := by
      simpa using (List.mem_filter.mp (perm.mem_iff.mp listed)).2
    have inAutos := all.mem_iff.mp (List.mem_append_left others listed)
    exact absurd ((result_ships (autos _ inAutos) _).mp ships).1 pays
  · rcases List.any_eq_true.mp inOthers with ⟨turn, played, ships⟩
    have listed := offer_mem_of_turns played
    have inAutos := all.mem_iff.mp (List.mem_append_right order listed)
    rcases mem_turns.mp played with ⟨before, -, -, left_⟩
    rcases (result_ships (autos _ inAutos) _).mp ships with ⟨shipping, reaches_⟩
    have most := leftAfter_bounds targets context nonneg (keptOf targets context order)
    have less := (leftAfter_bounds targets context most.1 before).2
    refine ⟨turn.offer, inAutos, shipping, reaches_.mono ?_⟩
    rw [← left_] at less
    exact less

/-- The choice of the code and free shipping do not depend on the order of the promotions exactly
when the codes are alike and free shipping is settled. -/
theorem settled_iff_orderFree (promotions : List Promotion)
    (distinct : (promotions.map Promotion.id).Nodup) (context : DiscountContext)
    (subtotal : 0 ≤ context.subtotalCents) (targets : TargetsByPromotion)
    (result : DiscountTotalResult) (ok : calculateTotal promotions context targets = .ok result) :
    Settled promotions context targets result ↔ OrderFree promotions context targets := by
  constructor
  · intro settled
    refine ⟨alike_of_settled distinct subtotal ok settled, ?_⟩
    by_cases ships : CodesShip (codeResults promotions context targets)
    · exact .inl ships
    · exact .inr (shipping_of_settled distinct subtotal ok settled ships)
  · exact settled_of_orderFree distinct subtotal ok

end Choice

def codeFor (id : UUID) (rule : DiscountRule) : Promotion :=
  { id := id, surface := .discountCode, discountRule := some rule }

def autoFor (id : UUID) (rule : DiscountRule) : Promotion :=
  { id := id, surface := .automatic, discountRule := some rule }

def freeShippingFrom (minimum : Option Nat) : DiscountRule where
  kind := .freeShipping
  minSubtotalCents := minimum
  validated := rfl

theorem settled_twenty_off :
    let promotions := [codeFor 101 (percentOff 20 (by decide)), autoFor 102 (freeShippingFrom (some 500))]
    ∃ result, calculateTotal promotions (cartContext bagAndShoes none) none = .ok result ∧
      Settled promotions (cartContext bagAndShoes none) none result := by
  intro promotions
  refine ⟨_, rfl, ?_⟩
  apply (settled_iff_orderFree promotions (by decide) (cartContext bagAndShoes none) (by decide)
    none _ rfl).mpr
  constructor
  · exact .inl ⟨_, List.mem_cons_self, by decide⟩
  · right
    intro free order perm
    have none_ : order = [] := List.perm_nil.mp perm
    rw [none_]
    exact free

/-- The first promotion is for the bag only. -/
def bagForFirst : TargetsByPromotion := some fun id =>
  if id = 101 then
    [{ targetKind := .product
       productIds := ["00000000-0000-0000-0000-000000000001"]
       role := some .buySet }]
  else []

/-- A code that takes nothing off a cart of shoes keeps the free shipping of the other code from
being applied, unless the other code comes first. -/
theorem idle_code_shuts_out_free_shipping :
    let bags := codeFor 101 (percentOff 20 (by decide))
    let shipping := codeFor 102 (freeShippingFrom none)
    let cart := cartContext [{ productId := 2, unitPrice := 1000 }] none
    ∃ result other, calculateTotal [bags, shipping] cart bagForFirst = .ok result ∧
      calculateTotal [shipping, bags] cart bagForFirst = .ok other ∧
        result.freeShipping = false ∧ result.appliedPromotionIds = [] ∧
          other.freeShipping = true ∧ other.appliedPromotionIds = [102] := by
  intro bags shipping cart
  exact ⟨_, _, rfl, rfl, by decide, by decide, by decide, by decide⟩

end Numu.Promotions
