import Mathlib.Data.String.Basic
import Numu.Promotions.BuyGet
import Numu.Promotions.ListOrder
import Numu.Promotions.Multibuy
import Numu.Promotions.Scope

/-! Multibuys over the same products whose ids are written in different ways. -/

namespace Numu.Promotions
open Numu.Orders (UUID)
open Numu.Outcome (bind_eq_ok)

/-- What the targets of a promotion list for its eligible set, as it is written. -/
def buyTexts (targets : TargetsByPromotion) (promo : Promotion) (kind : TargetKind) :
    List String :=
  listedIds (targetsOf targets promo) .buySet kind

def hasBuySet (targets : TargetsByPromotion) (promo : Promotion) : Bool :=
  (targetsOf targets promo).any fun target => target.role = some .buySet

/-- Two promotions are for the lines of the same products and categories. -/
structure SameIds (targets : TargetsByPromotion) (first second : Promotion) : Prop where
  scoped_ : hasBuySet targets first = hasBuySet targets second
  ids : ∀ kind, ∃ mine yours, parseIds (buyTexts targets first kind) = .ok mine ∧
    parseIds (buyTexts targets second kind) = .ok yours ∧ ∀ id, id ∈ mine ↔ id ∈ yours

def SpelledAlike (targets : TargetsByPromotion) (first second : Promotion) : Prop :=
  ∀ kind text, text ∈ buyTexts targets first kind ↔ text ∈ buyTexts targets second kind

/-- An automatic multibuy. -/
def IsMultibuy (promo : Promotion) : Prop :=
  promo.surface = .automatic ∧ ∃ rule, promo.discountRule = some rule ∧ rule.kind = .multibuy

/-- No two multibuys over the same ids are applied together. -/
def NoStacking (promotions : List Promotion) (targets : TargetsByPromotion)
    (result : DiscountTotalResult) : Prop :=
  ∀ first ∈ promotions, ∀ second ∈ promotions, first.id ≠ second.id →
    IsMultibuy first → IsMultibuy second → SameIds targets first second →
      ¬(first.id ∈ result.appliedPromotionIds ∧ second.id ∈ result.appliedPromotionIds)

theorem sortedTexts_congr {first second : List String}
    (same : ∀ text, text ∈ first ↔ text ∈ second) : sortedTexts first = sortedTexts second := by
  have perm : first.eraseDups.Perm second.eraseDups := by
    apply (List.perm_ext_iff_of_nodup (nodup_eraseDups first) (nodup_eraseDups second)).mpr
    intro text
    rw [List.mem_eraseDups, List.mem_eraseDups]
    exact same text
  have sorted := (List.perm_insertionSort (· ≤ ·) first.eraseDups).trans
    (perm.trans (List.perm_insertionSort (· ≤ ·) second.eraseDups).symm)
  exact sorted.eq_of_pairwise' (List.pairwise_insertionSort (· ≤ ·) _)
    (List.pairwise_insertionSort (· ≤ ·) _)

/-- Ids written alike make the same scope key. -/
theorem scopeKey_of_alike {targets : TargetsByPromotion} {first second : Offer}
    (mine : first.rule.kind = .multibuy) (yours : second.rule.kind = .multibuy)
    (alike : SpelledAlike targets first.promo second.promo) :
    multibuyScopeKey first targets = multibuyScopeKey second targets := by
  have products := sortedTexts_congr (alike .product)
  have categories := sortedTexts_congr (alike .category)
  unfold buyTexts at products categories
  simp [multibuyScopeKey, mine, yours, products, categories]

/-- Of the multibuys with one key at most one is left. -/
theorem one_survivor {targets : TargetsByPromotion} {context : DiscountContext}
    {autos : List Offer} {first second : Offer}
    (kind : first.rule.kind = .multibuy)
    (same : multibuyScopeKey first targets = multibuyScopeKey second targets)
    (mine : survives targets context autos first = true)
    (yours : survives targets context autos second = true) : first.id = second.id := by
  cases scope : multibuyScopeKey first targets with
  | none => simp [multibuyScopeKey, kind] at scope
  | some key =>
      rw [survives_of_some scope, decide_eq_true_eq] at mine
      rw [same] at scope
      rw [survives_of_some scope, decide_eq_true_eq, mine] at yours
      exact Option.some.inj yours

section Stacking
variable {promotions : List Promotion} {context : DiscountContext} {targets : TargetsByPromotion}
  {result : DiscountTotalResult}

/-- A multibuy that takes something off what is left. -/
def Offer.SavesAt (offer : Offer) (targets : TargetsByPromotion) (context : DiscountContext)
    (left : Int) : Prop :=
  0 < left ∧ offer.rule.Reaches left ∧ offer.rule.maxDiscountCents ≠ some 0 ∧
    ∃ filters, buildLineFilters offer.promo targets = .ok filters ∧
      0 < offer.rule.multibuyTotal context filters.1

theorem applies_iff_savesAt {offer : Offer} (legible : offer.Legible targets)
    (kind : offer.rule.kind = .multibuy) (left : Int) :
    Turn.applies ⟨offer, left⟩ targets context = true ↔ offer.SavesAt targets context left := by
  rcases legible with ⟨filters, legFilters, built, legs⟩
  set narrowed := Turn.narrowed ⟨offer, left⟩ context with hnarrowed
  have evaluated : offer.evaluate targets narrowed =
      .ok (offer.rule.calculate narrowed filters.1 filters.2 legFilters) :=
    bind_eq_ok.mpr ⟨filters, built, bind_eq_ok.mpr ⟨legFilters, legs, rfl⟩⟩
  have outcome : Turn.result ⟨offer, left⟩ targets context =
      offer.rule.calculate narrowed filters.1 filters.2 legFilters := by
    rw [Turn.result, Offer.result, ← hnarrowed, evaluated]
  have total : offer.rule.multibuyTotal narrowed filters.1 =
      offer.rule.multibuyTotal context filters.1 := rfl
  have charged : (offer.rule.calculate narrowed filters.1 filters.2 legFilters).freeShipping ≠ true := by
    rw [ne_eq, (offer.rule.calculate_freeShipping narrowed _ _ _).1, kind]
    simp
  have reaches : offer.rule.belowMinimum narrowed = false ↔ offer.rule.Reaches left :=
    DiscountRule.belowMinimum_eq_false
  have some_ : (∃ filters, buildLineFilters offer.promo targets = .ok filters ∧
      0 < offer.rule.multibuyTotal context filters.1) ↔
        0 < offer.rule.multibuyTotal context filters.1 := by
    constructor
    · rintro ⟨other, again, positive⟩
      rw [built] at again
      cases again
      exact positive
    · exact fun positive => ⟨filters, built, positive⟩
  rw [Turn.applies, outcome, Bool.or_eq_true, decide_eq_true_eq, or_iff_left charged,
    Offer.SavesAt, some_, ← reaches]
  cases below : offer.rule.belowMinimum narrowed with
  | true => simp [DiscountRule.calculate, below]
  | false =>
      have amount : (offer.rule.calculate narrowed filters.1 filters.2 legFilters).discountCents =
          (offer.rule.multibuy narrowed filters.1).discountCents := by
        simp [DiscountRule.calculate, below, kind]
      rw [amount, DiscountRule.multibuy_discountCents, total]
      split
      · rename_i nothing
        simp [not_lt.mpr nothing]
      · rename_i something
        rw [DiscountRule.cap_pos]
        have positive := not_le.mp something
        simp [positive, hnarrowed, Turn.narrowed]

/-- A multibuy that beats its rivals, and takes something off what the discounts before it
leave. -/
def Takes (promotions : List Promotion) (context : DiscountContext) (targets : TargetsByPromotion)
    (promo : Promotion) : Prop :=
  ∃ before offer after, offer.promo = promo ∧
    keptOf targets context (splitBySurface promotions).autos = before ++ offer :: after ∧
      offer.SavesAt targets context (leftAfter targets context
        (context.subtotalCents - bestSaving (codeResults promotions context targets)) before)

theorem auto_mem {promo : Promotion} (member : promo ∈ promotions)
    (multibuy : IsMultibuy promo) :
    ∃ offer ∈ (splitBySurface promotions).autos, offer.promo = promo ∧
      offer.rule.kind = .multibuy := by
  rcases multibuy with ⟨surface, rule, has_rule, kind⟩
  refine ⟨⟨promo, rule, has_rule⟩, ?_, rfl, kind⟩
  rw [(splitBySurface_offers promotions).2]
  exact List.mem_filterMap.mpr ⟨promo, member, offerOn_eq_some.mpr ⟨rfl, surface⟩⟩

/-- An automatic promotion is applied at its turn or not at all. -/
theorem auto_applied_iff (distinct : (promotions.map Promotion.id).Nodup)
    (total : TotalOf promotions context targets result) {offer : Offer}
    (auto : offer ∈ (splitBySurface promotions).autos) :
    offer.id ∈ result.appliedPromotionIds ↔
      ∃ left, (⟨offer, left⟩ : Turn) ∈ autoTurns promotions context targets ∧
        Turn.applies ⟨offer, left⟩ targets context = true := by
  have all := ((splitBySurface_spec promotions).reported.nodup_iff).mpr distinct
  rw [List.append_assoc, List.nodup_append', List.nodup_append'] at all
  rcases all with ⟨-, ⟨-, autosDistinct, apart⟩, -⟩
  rw [total.applied, List.mem_append]
  constructor
  · rintro (code | auto_)
    · rcases codeOutcome_applied _ _ code with ⟨pair, listed, same⟩
      rcases List.mem_map.mp listed with ⟨other, known, rfl⟩
      have here : offer.id ∈ (splitBySurface promotions).codes.map Offer.id := by
        rw [← same]
        exact List.mem_map_of_mem known
      exact absurd (List.mem_map_of_mem auto) (apart here)
    · rcases List.mem_map.mp auto_ with ⟨turn, listed, same⟩
      rcases List.mem_filter.mp listed with ⟨played, applies⟩
      have inAutos := (List.mem_filter.mp (offer_mem_of_turns played)).1
      have identical := List.inj_on_of_nodup_map autosDistinct inAutos auto same
      subst identical
      exact ⟨turn.left, played, applies⟩
  · rintro ⟨left, played, applies⟩
    right
    exact List.mem_map.mpr ⟨_, List.mem_filter.mpr ⟨played, applies⟩, rfl⟩

theorem takes_iff_applied (distinct : (promotions.map Promotion.id).Nodup)
    (subtotal : 0 ≤ context.subtotalCents) (legible : AllLegible promotions targets)
    (total : TotalOf promotions context targets result) {promo : Promotion}
    (member : promo ∈ promotions) (multibuy : IsMultibuy promo) :
    Takes promotions context targets promo ↔ promo.id ∈ result.appliedPromotionIds := by
  rcases auto_mem member multibuy with ⟨offer, auto, rfl, kind⟩
  have readable := legible offer (List.mem_append_right _ auto)
  have saving : (codeContest promotions context targets).discount =
      bestSaving (codeResults promotions context targets) :=
    bestSaving_eq (codeResults_plain legible subtotal)
  rw [show offer.promo.id = offer.id from rfl, auto_applied_iff distinct total auto]
  constructor
  · rintro ⟨before, other, after, same, split_, saves⟩
    have kept : other ∈ keptOf targets context (splitBySurface promotions).autos := by
      rw [split_]
      exact List.mem_append_right _ List.mem_cons_self
    have identical : other = offer :=
      List.inj_on_of_nodup_map (autos_distinct distinct) (List.mem_filter.mp kept).1 auto
        (congrArg Promotion.id same)
    subst identical
    refine ⟨_, mem_turns.mpr ⟨before, after, split_, rfl⟩, ?_⟩
    rw [saving]
    exact (applies_iff_savesAt readable kind _).mpr saves
  · rintro ⟨left, played, applies⟩
    rcases mem_turns.mp played with ⟨before, after, split_, left_⟩
    refine ⟨before, offer, after, rfl, split_, ?_⟩
    rw [← saving, ← left_]
    exact (applies_iff_savesAt readable kind left).mp applies

/-- Multibuys over the same ids do not stack exactly when, of each two that write the ids in
different ways, one takes nothing. -/
theorem noStacking_iff (promotions : List Promotion)
    (distinct : (promotions.map Promotion.id).Nodup) (context : DiscountContext)
    (subtotal : 0 ≤ context.subtotalCents) (targets : TargetsByPromotion)
    (result : DiscountTotalResult) (ok : calculateTotal promotions context targets = .ok result) :
    NoStacking promotions targets result ↔
      ∀ first ∈ promotions, ∀ second ∈ promotions, first.id ≠ second.id →
        IsMultibuy first → IsMultibuy second → SameIds targets first second →
          ¬SpelledAlike targets first second →
            ¬(Takes promotions context targets first ∧ Takes promotions context targets second) := by
  have total := totalOf_calculateTotal distinct subtotal ok
  have legible := legible_of_calculateTotal ok
  constructor
  · intro alone first one second two apart mine yours ids _
    rw [takes_iff_applied distinct subtotal legible total one mine,
      takes_iff_applied distinct subtotal legible total two yours]
    exact alone first one second two apart mine yours ids
  · intro differ first one second two apart mine yours ids applied
    rw [← takes_iff_applied distinct subtotal legible total one mine,
      ← takes_iff_applied distinct subtotal legible total two yours] at applied
    by_cases alike : SpelledAlike targets first second
    · rcases applied with ⟨⟨_, here, _, rfl, split_, -⟩, ⟨_, there, _, rfl, split__, -⟩⟩
      have inFirst : here ∈ keptOf targets context (splitBySurface promotions).autos := by
        rw [split_]
        exact List.mem_append_right _ List.mem_cons_self
      have inSecond : there ∈ keptOf targets context (splitBySurface promotions).autos := by
        rw [split__]
        exact List.mem_append_right _ List.mem_cons_self
      have kindOf (offer : Offer) (multibuy : IsMultibuy offer.promo) :
          offer.rule.kind = .multibuy := by
        rcases multibuy with ⟨-, rule, has_rule, kind⟩
        rw [offer.has_rule] at has_rule
        cases has_rule
        exact kind
      have same := scopeKey_of_alike (kindOf here mine) (kindOf there yours) alike
      exact apart (one_survivor (kindOf here mine) same (List.mem_filter.mp inFirst).2
        (List.mem_filter.mp inSecond).2)
    · exact differ first one second two apart mine yours ids alike applied

end Stacking

def twoFor (price : Nat) (positive : 0 < price) : DiscountRule where
  kind := .multibuy
  multibuyQuantity := some 2
  multibuyPriceCents := some price
  multibuyQuantity_ge := by simp
  multibuyPriceCents_pos := by simpa using positive
  validated := rfl

theorem noStacking_one_spelling :
    let promotions := [autoFor 101 (twoFor 1500 (by decide)), autoFor 102 (twoFor 1200 (by decide))]
    let cart := cartContext [{ productId := 1, quantity := 2, unitPrice := 1000 }] none
    ∃ result, calculateTotal promotions cart bagOnly = .ok result ∧
      NoStacking promotions bagOnly result := by
  have returns : (calculateTotal
      [autoFor 101 (twoFor 1500 (by decide)), autoFor 102 (twoFor 1200 (by decide))]
      (cartContext [{ productId := 1, quantity := 2, unitPrice := 1000 }] none)
      bagOnly).toBool = true := by
    decide +kernel
  intro promotions cart
  cases ok : calculateTotal promotions cart bagOnly with
  | error error =>
      rw [ok] at returns
      cases returns
  | ok result =>
      refine ⟨result, rfl, ?_⟩
      apply (noStacking_iff promotions (by decide) cart (by decide) bagOnly result ok).mpr
      intro first _ second _ _ _ _ _ unlike
      exact absurd (fun _ _ => Iff.rfl) unlike

/-- One product, with its id in small and in capital letters. -/
def twoSpellings : TargetsByPromotion := some fun id =>
  [{ targetKind := .product
     productIds := [if id = 101 then "00000000-0000-0000-0000-00000000000a"
       else "00000000-0000-0000-0000-00000000000A"]
     role := some .buySet }]

/-- Two pieces are sold for 1200 by one offer and for 1500 by the other, and both are applied. -/
theorem two_spellings_stack :
    let promotions := [autoFor 101 (twoFor 1500 (by decide)), autoFor 102 (twoFor 1200 (by decide))]
    let cart := cartContext [{ productId := 10, quantity := 2, unitPrice := 1000 }] none
    (∀ promo ∈ promotions, IsMultibuy promo) ∧
      SameIds twoSpellings (autoFor 101 (twoFor 1500 (by decide)))
        (autoFor 102 (twoFor 1200 (by decide))) ∧
        ∃ result, calculateTotal promotions cart twoSpellings = .ok result ∧
          result.appliedPromotionIds = [101, 102] ∧ result.automaticDiscountCents = 1300 := by
  have returns : (calculateTotal
      [autoFor 101 (twoFor 1500 (by decide)), autoFor 102 (twoFor 1200 (by decide))]
      (cartContext [{ productId := 10, quantity := 2, unitPrice := 1000 }] none)
      twoSpellings).toOption.map (fun result =>
        (result.appliedPromotionIds, result.automaticDiscountCents)) =
          some ([101, 102], 1300) := by
    decide +kernel
  intro promotions cart
  refine ⟨?_, ⟨rfl, ?_⟩, ?_⟩
  · intro promo member
    rcases List.mem_pair.mp member with rfl | rfl
    · exact ⟨rfl, _, rfl, rfl⟩
    · exact ⟨rfl, _, rfl, rfl⟩
  · intro kind
    cases kind with
    | product => exact ⟨[10], [10], rfl, rfl, fun _ => Iff.rfl⟩
    | _ => exact ⟨[], [], rfl, rfl, fun _ => Iff.rfl⟩
  · cases ok : calculateTotal promotions cart twoSpellings with
    | error error =>
        rw [ok] at returns
        cases returns
    | ok result =>
        rw [ok] at returns
        have both := Option.some.inj returns
        exact ⟨result, rfl, congrArg Prod.fst both, congrArg Prod.snd both⟩

end Numu.Promotions
