import Mathlib.Data.List.Nodup
import Numu.Promotions.DiscountCalculator

/-! What `calculate_total` reports adds up. -/

namespace Numu.Promotions
open Numu.Orders (UUID)
open Numu.Outcome (bind_eq_ok mapM_isOk)

namespace DiscountRule

theorem cap_bounds (rule : DiscountRule) (raw : Int) {context : DiscountContext}
    (subtotal : 0 ≤ context.subtotalCents) :
    0 ≤ rule.cap raw context ∧ rule.cap raw context ≤ context.subtotalCents := by
  unfold cap
  cases rule.maxDiscountCents with
  | none =>
      constructor
      · exact le_min (le_max_left 0 raw) subtotal
      · exact min_le_right _ _
  | some limit =>
      constructor
      · exact le_min (le_min (le_max_left 0 raw) (Int.natCast_nonneg limit)) subtotal
      · exact min_le_right _ _

/-- Every kind gives either nothing or a capped amount. -/
theorem calculate_capped (rule : DiscountRule) (context : DiscountContext)
    (buyFilter getFilter : Option LineFilter) (legFilters : Option (List (Option LineFilter))) :
    (rule.calculate context buyFilter getFilter legFilters).discountCents = 0 ∨
      ∃ raw, (rule.calculate context buyFilter getFilter legFilters).discountCents =
        rule.cap raw context := by
  rw [calculate]
  split
  · exact .inl rfl
  · split
    · exact .inl rfl
    · exact .inr ⟨_, rfl⟩
    · exact .inr ⟨_, rfl⟩
    · simp only [bogo]
      split
      · exact .inl rfl
      · exact .inr ⟨_, rfl⟩
    · rw [tiered]
      split
      · exact .inl rfl
      · exact .inr ⟨_, rfl⟩
    · simp only [multibuy]
      split
      · exact .inl rfl
      · split
        · exact .inl rfl
        · exact .inr ⟨_, rfl⟩
    · simp only [bundle]
      split
      · exact .inl rfl
      · exact .inr ⟨_, rfl⟩

theorem calculate_bounds (rule : DiscountRule) {context : DiscountContext}
    (subtotal : 0 ≤ context.subtotalCents) (buyFilter getFilter : Option LineFilter)
    (legFilters : Option (List (Option LineFilter))) :
    0 ≤ (rule.calculate context buyFilter getFilter legFilters).discountCents ∧
      (rule.calculate context buyFilter getFilter legFilters).discountCents ≤
        context.subtotalCents := by
  rcases rule.calculate_capped context buyFilter getFilter legFilters with none_ | ⟨raw, capped⟩
  · rw [none_]
    exact ⟨le_refl 0, subtotal⟩
  · rw [capped]
    exact rule.cap_bounds raw subtotal

end DiscountRule

theorem Offer.evaluate_bounds {offer : Offer} {targets : TargetsByPromotion}
    {context : DiscountContext} {result : DiscountResult} (subtotal : 0 ≤ context.subtotalCents)
    (ok : offer.evaluate targets context = .ok result) :
    0 ≤ result.discountCents ∧ result.discountCents ≤ context.subtotalCents := by
  rcases bind_eq_ok.mp ok with ⟨filters, -, ok⟩
  rcases bind_eq_ok.mp ok with ⟨legFilters, -, same⟩
  cases same
  exact offer.rule.calculate_bounds subtotal filters.1 filters.2 legFilters

/-- The surface of the promotion with an id. -/
def surfaceOf (promotions : List Promotion) (id : UUID) : Option PromotionSurface :=
  (promotions.find? fun promo => promo.id = id).map Promotion.surface

theorem surfaceOf_mem {promotions : List Promotion} (distinct : (promotions.map Promotion.id).Nodup)
    {promo : Promotion} (member : promo ∈ promotions) :
    surfaceOf promotions promo.id = some promo.surface := by
  induction promotions with
  | nil => cases member
  | cons head rest ih =>
      rw [List.map_cons, List.nodup_cons] at distinct
      rcases List.mem_cons.mp member with rfl | later
      · simp [surfaceOf]
      · have other : head.id ≠ promo.id := by
          intro same
          exact distinct.1 (same ▸ List.mem_map_of_mem later)
        have found := ih distinct.2 later
        simpa [surfaceOf, other] using found

namespace DiscountTotalResult

def entry (result : DiscountTotalResult) (id : UUID) : Int :=
  (result.discountByPromotion.get? id).getD 0

def appliedOn (result : DiscountTotalResult) (promotions : List Promotion)
    (surface : PromotionSurface) : List UUID :=
  result.appliedPromotionIds.filter fun id => surfaceOf promotions id = some surface

end DiscountTotalResult

/-- The totals and the entries of a result agree, and each promotion is reported once. -/
structure Reconciles (promotions : List Promotion) (context : DiscountContext)
    (result : DiscountTotalResult) : Prop where
  code_nonneg : 0 ≤ result.codeDiscountCents
  automatic_nonneg : 0 ≤ result.automaticDiscountCents
  within_subtotal :
    result.codeDiscountCents + result.automaticDiscountCents ≤ context.subtotalCents
  automatic_entries :
    ((result.appliedOn promotions .automatic).map result.entry).sum = result.automaticDiscountCents
  code_entry : ∀ id ∈ result.appliedOn promotions .discountCode,
    result.discountByPromotion.get? id = some result.codeDiscountCents
  reported_once :
    (result.appliedPromotionIds ++ result.rejected.map Prod.fst).Perm (promotions.map Promotion.id)
  one_code : (result.appliedOn promotions .discountCode).length ≤ 1

structure SplitOf (promotions : List Promotion) (surfaces : SurfaceSplit) : Prop where
  reported : (surfaces.rejected.map Prod.fst ++ surfaces.codes.map Offer.id ++
    surfaces.autos.map Offer.id).Perm (promotions.map Promotion.id)
  codes : ∀ offer ∈ surfaces.codes, offer.promo ∈ promotions ∧ offer.promo.surface = .discountCode
  autos : ∀ offer ∈ surfaces.autos, offer.promo ∈ promotions ∧ offer.promo.surface = .automatic

theorem splitBySurface_spec (promotions : List Promotion) :
    SplitOf promotions (splitBySurface promotions) := by
  induction promotions with
  | nil => exact ⟨.refl _, by simp [splitBySurface], by simp [splitBySurface]⟩
  | cons promo rest ih =>
      rcases ih with ⟨reported, codes, autos⟩
      have laterCode (offer : Offer) (member : offer ∈ (splitBySurface rest).codes) :
          offer.promo ∈ promo :: rest ∧ offer.promo.surface = .discountCode :=
        ⟨List.mem_cons_of_mem _ (codes offer member).1, (codes offer member).2⟩
      have laterAuto (offer : Offer) (member : offer ∈ (splitBySurface rest).autos) :
          offer.promo ∈ promo :: rest ∧ offer.promo.surface = .automatic :=
        ⟨List.mem_cons_of_mem _ (autos offer member).1, (autos offer member).2⟩
      rw [splitBySurface]
      split
      · exact ⟨reported.cons promo.id, laterCode, laterAuto⟩
      · split
        · rename_i surface
          refine ⟨?_, ?_, laterAuto⟩
          · simp only [List.map_cons, Offer.id, List.append_assoc, List.cons_append]
            apply (List.perm_middle).trans
            rw [← List.append_assoc]
            exact reported.cons promo.id
          · intro offer member
            rcases List.mem_cons.mp member with rfl | later
            · exact ⟨List.mem_cons_self, surface⟩
            · exact laterCode offer later
        · rename_i surface
          refine ⟨?_, laterCode, ?_⟩
          · simp only [List.map_cons, Offer.id]
            exact (List.perm_middle).trans (reported.cons promo.id)
          · intro offer member
            rcases List.mem_cons.mp member with rfl | later
            · exact ⟨List.mem_cons_self, surface⟩
            · exact laterAuto offer later
        · exact ⟨reported.cons promo.id, laterCode, laterAuto⟩

theorem evaluateAll_ok {offers : List Offer} {targets : TargetsByPromotion}
    {context : DiscountContext} {results : List (Offer × DiscountResult)}
    (ok : evaluateAll offers targets context = .ok results) :
    results.map Prod.fst = offers ∧
      ∀ pair ∈ results, pair.1.evaluate targets context = .ok pair.2 := by
  unfold evaluateAll at ok
  induction offers generalizing results with
  | nil =>
      cases ok
      simp
  | cons offer rest ih =>
      rw [List.mapM_cons] at ok
      rcases bind_eq_ok.mp ok with ⟨pair, here, ok⟩
      rcases bind_eq_ok.mp ok with ⟨later, there, same⟩
      cases same
      cases evaluated : offer.evaluate targets context with
      | error message => simp [evaluated, Except.map] at here
      | ok result =>
          simp only [evaluated, Except.map, Except.ok.injEq] at here
          subst here
          rcases ih there with ⟨offers, sound⟩
          refine ⟨by simp [offers], ?_⟩
          intro pair member
          rcases List.mem_cons.mp member with rfl | member
          · exact evaluated
          · exact sound pair member

theorem bestResult_mem (best : Offer × DiscountResult) (results : List (Offer × DiscountResult)) :
    bestResult best results ∈ best :: results := by
  induction results generalizing best with
  | nil => simp [bestResult]
  | cons next rest ih =>
      rw [bestResult]
      split
      · exact List.mem_cons_of_mem _ (ih next)
      · rcases List.mem_cons.mp (ih best) with same | member
        · simp [same]
        · simp [member]

/-- Taking out the one element with a given key leaves the others. -/
theorem perm_cons_filter {α κ : Type*} [DecidableEq κ] (key : α → κ) {rows : List α} {row : α}
    (member : row ∈ rows) (distinct : (rows.map key).Nodup) :
    (key row :: (rows.filter fun other => key other ≠ key row).map key).Perm (rows.map key) := by
  induction rows with
  | nil => cases member
  | cons head rest ih =>
      rw [List.map_cons, List.nodup_cons] at distinct
      rcases List.mem_cons.mp member with rfl | later
      · have others : rest.filter (fun other => key other ≠ key row) = rest := by
          apply List.filter_eq_self.mpr
          intro other listed
          have apart : key other ≠ key row := fun same =>
            distinct.1 (same ▸ List.mem_map_of_mem listed)
          simpa using apart
        rw [List.filter_cons_of_neg (by simp), others, List.map_cons]
      · have apart : key head ≠ key row := fun same =>
          distinct.1 (same ▸ List.mem_map_of_mem later)
        rw [List.filter_cons_of_pos (by simpa using apart), List.map_cons, List.map_cons]
        exact (List.Perm.swap _ _ _).trans ((ih later distinct.2).cons _)

/-- What the contest over the codes leaves. -/
structure CodeReport (codes : List Offer) (context : DiscountContext) (code : CodeOutcome) :
    Prop where
  nonneg : 0 ≤ code.discount
  bounded : code.discount ≤ context.subtotalCents
  at_most_one : code.applied.length ≤ 1
  reported : (code.applied ++ code.rejected.map Prod.fst).Perm (codes.map Offer.id)

theorem codeOutcome_report {codes : List Offer} {targets : TargetsByPromotion}
    {context : DiscountContext} {results : List (Offer × DiscountResult)}
    (subtotal : 0 ≤ context.subtotalCents) (distinct : (codes.map Offer.id).Nodup)
    (ok : evaluateAll codes targets context = .ok results) :
    CodeReport codes context (codeOutcome results) := by
  rcases evaluateAll_ok ok with ⟨rfl, sound⟩
  cases results with
  | nil => exact ⟨le_refl 0, subtotal, Nat.zero_le 1, .refl _⟩
  | cons first rest =>
      have member := bestResult_mem first rest
      have bounds := Offer.evaluate_bounds subtotal (sound _ member)
      have ids (pairs : List (Offer × DiscountResult)) :
          (pairs.map Prod.fst).map Offer.id = pairs.map fun pair => pair.1.id := List.map_map
      rw [ids] at distinct
      have others := perm_cons_filter (fun pair : Offer × DiscountResult => pair.1.id) member
        distinct
      rw [codeOutcome]
      split
      · refine ⟨le_refl 0, subtotal, Nat.zero_le 1, ?_⟩
        rw [ids, List.nil_append, List.map_cons, List.map_map]
        exact others
      · refine ⟨bounds.1, bounds.2, le_refl 1, ?_⟩
        rw [ids, List.map_map]
        exact others

section Rivalry
variable {targets : TargetsByPromotion} {context : DiscountContext}

theorem groupWinner_mem {group : List Offer} {winner : Option Offer}
    (ok : groupWinner targets context group = .ok winner) (inhabited : group ≠ []) :
    ∃ offer ∈ group, winner = some offer := by
  match group, inhabited with
  | [only], _ =>
      cases ok
      exact ⟨only, List.mem_singleton_self only, rfl⟩
  | first :: second :: rest, _ =>
      rcases bind_eq_ok.mp ok with ⟨results, evaluated, ok⟩
      rcases evaluateAll_ok evaluated with ⟨offers, -⟩
      cases results with
      | nil => cases offers
      | cons head tail =>
          cases ok
          refine ⟨_, ?_, rfl⟩
          rw [← offers]
          exact List.mem_map_of_mem (bestResult_mem head tail)

theorem groupWinners_ok {groups : List (List Offer)} {winners : List (UUID × List Offer)}
    (ok : groupWinners targets context groups = .ok winners) (inhabited : ∀ g ∈ groups, g ≠ []) :
    winners.map Prod.snd = groups ∧ ∀ entry ∈ winners, entry.1 ∈ entry.2.map Offer.id := by
  induction groups generalizing winners with
  | nil =>
      cases ok
      simp
  | cons group rest ih =>
      rcases bind_eq_ok.mp ok with ⟨winner, here, ok⟩
      rcases bind_eq_ok.mp ok with ⟨later, there, same⟩
      rcases groupWinner_mem here (inhabited group List.mem_cons_self) with ⟨offer, member, rfl⟩
      cases same
      rcases ih there (fun g listed => inhabited g (List.mem_cons_of_mem _ listed)) with
        ⟨groups, members⟩
      refine ⟨by simp [groups], ?_⟩
      intro entry listed
      rcases List.mem_cons.mp listed with rfl | listed
      · exact List.mem_map_of_mem member
      · exact members entry listed

theorem nodup_eraseDups {α : Type*} [DecidableEq α] (rows : List α) : rows.eraseDups.Nodup := by
  induction count : rows.length using Nat.strong_induction_on generalizing rows with
  | _ n ih =>
      cases rows with
      | nil => simp
      | cons head rest =>
          rw [List.eraseDups_cons, List.nodup_cons]
          constructor
          · simp [List.mem_eraseDups]
          · refine ih _ ?_ _ rfl
            have shorter := List.length_filter_le (fun b => !b == head) rest
            simp only [List.length_cons] at count
            omega

theorem mem_scopeGroups {autos : List Offer} {group : List Offer}
    (listed : group ∈ scopeGroups autos targets) :
    ∃ key, group = autos.filter (fun offer => multibuyScopeKey offer targets = some key) ∧
      group ≠ [] := by
  rcases List.mem_map.mp listed with ⟨key, known, rfl⟩
  refine ⟨key, rfl, ?_⟩
  rw [List.mem_eraseDups, List.mem_filterMap] at known
  rcases known with ⟨offer, member, scope⟩
  apply List.ne_nil_of_mem (a := offer)
  simp [member, scope]

theorem scopeGroups_of_key {autos : List Offer} {offer : Offer} {key : String}
    (member : offer ∈ autos) (scope : multibuyScopeKey offer targets = some key) :
    ∃ group ∈ scopeGroups autos targets, offer ∈ group := by
  refine ⟨_, List.mem_map_of_mem (a := key) ?_, ?_⟩
  · rw [List.mem_eraseDups, List.mem_filterMap]
    exact ⟨offer, member, scope⟩
  · simp [member, scope]

/-- An offer is in the group of its own scope alone. -/
theorem scopeGroups_unique {autos : List Offer} {first second : List Offer} {offer : Offer}
    (inFirst : first ∈ scopeGroups autos targets) (inSecond : second ∈ scopeGroups autos targets)
    (here : offer ∈ first) (there : offer ∈ second) : first = second := by
  rcases mem_scopeGroups inFirst with ⟨key, rfl, -⟩
  rcases mem_scopeGroups inSecond with ⟨other, rfl, -⟩
  have scope : multibuyScopeKey offer targets = some key := by
    simpa using (List.mem_filter.mp here).2
  have again : multibuyScopeKey offer targets = some other := by
    simpa using (List.mem_filter.mp there).2
  have same : key = other := by simpa [scope] using again
  rw [same]

theorem scopeGroups_nodup (autos : List Offer) (targets : TargetsByPromotion) :
    (scopeGroups autos targets).Nodup := by
  apply (List.nodup_map_iff_inj_on (nodup_eraseDups _)).mpr
  intro key known other _ same
  rw [List.mem_eraseDups, List.mem_filterMap] at known
  rcases known with ⟨offer, member, scope⟩
  have here : offer ∈ autos.filter (fun o => multibuyScopeKey o targets = some key) := by
    simp [member, scope]
  rw [same] at here
  have again : multibuyScopeKey offer targets = some other := by
    simpa using (List.mem_filter.mp here).2
  simpa [scope] using again

/-- The offers of each group that did not win it. -/
def beaten (winners : List (UUID × List Offer)) : List Offer :=
  winners.flatMap fun entry => entry.2.filter fun offer => offer.id ≠ entry.1

theorem beaten_losers (winners : List (UUID × List Offer)) :
    (winners.flatMap fun entry =>
      (entry.2.filter fun offer => offer.id ≠ entry.1).map fun offer =>
        (offer.id, anotherTier)).map Prod.fst = (beaten winners).map Offer.id := by
  simp only [beaten, List.map_flatMap, List.map_map]
  rfl

structure WinnersOf (autos : List Offer) (targets : TargetsByPromotion)
    (winners : List (UUID × List Offer)) : Prop where
  groups : winners.map Prod.snd = scopeGroups autos targets
  members : ∀ entry ∈ winners, entry.1 ∈ entry.2.map Offer.id

theorem WinnersOf.same_entry {autos : List Offer} {winners : List (UUID × List Offer)}
    (of : WinnersOf autos targets winners) {first second : UUID × List Offer}
    (inFirst : first ∈ winners) (inSecond : second ∈ winners) {offer : Offer}
    (here : offer ∈ first.2) (there : offer ∈ second.2) : first = second := by
  have listed (entry : UUID × List Offer) (member : entry ∈ winners) :
      entry.2 ∈ scopeGroups autos targets := by
    rw [← of.groups]
    exact List.mem_map_of_mem member
  have groups := scopeGroups_unique (listed first inFirst) (listed second inSecond) here there
  have distinct : (winners.map Prod.snd).Nodup := by
    rw [of.groups]
    exact scopeGroups_nodup autos targets
  exact List.inj_on_of_nodup_map distinct inFirst inSecond groups

theorem WinnersOf.mem_autos {autos : List Offer} {winners : List (UUID × List Offer)}
    (of : WinnersOf autos targets winners) {entry : UUID × List Offer} (listed : entry ∈ winners)
    {offer : Offer} (member : offer ∈ entry.2) :
    offer ∈ autos ∧ multibuyScopeKey offer targets ≠ none := by
  have group : entry.2 ∈ scopeGroups autos targets := by
    rw [← of.groups]
    exact List.mem_map_of_mem listed
  rcases mem_scopeGroups group with ⟨key, same, -⟩
  rw [same, List.mem_filter] at member
  refine ⟨member.1, ?_⟩
  have scope : multibuyScopeKey offer targets = some key := by simpa using member.2
  simp [scope]

/-- An offer is beaten when it is in a group that another one won. -/
theorem WinnersOf.kept_iff {autos : List Offer} {winners : List (UUID × List Offer)}
    (of : WinnersOf autos targets winners) (distinct : (autos.map Offer.id).Nodup) {offer : Offer}
    (member : offer ∈ autos) :
    (offer.id ∈ winners.map Prod.fst ∨
      offer.id ∈ (autos.filter fun o => (multibuyScopeKey o targets).isNone).map Offer.id) ↔
        offer ∉ beaten winners := by
  have sameOffer {other : Offer} (listed : other ∈ autos) (same : other.id = offer.id) :
      other = offer := List.inj_on_of_nodup_map distinct listed member same
  constructor
  · intro keeps lost
    rcases List.mem_flatMap.mp lost with ⟨entry, listed, inGroup⟩
    rw [List.mem_filter] at inGroup
    rcases inGroup with ⟨inGroup, loses⟩
    rcases keeps with won | passed
    · rcases List.mem_map.mp won with ⟨victory, scored, winner⟩
      rcases List.mem_map.mp (of.members victory scored) with ⟨champion, inVictory, named⟩
      have same := sameOffer (of.mem_autos scored inVictory).1 (named.trans winner)
      subst same
      have entries := of.same_entry listed scored inGroup inVictory
      rw [entries, winner] at loses
      simp at loses
    · rcases List.mem_map.mp passed with ⟨other, unscoped, same⟩
      rw [List.mem_filter] at unscoped
      rcases unscoped with ⟨inAutos, unscoped⟩
      have identical := sameOffer inAutos same
      subst identical
      have scope := (of.mem_autos listed inGroup).2
      exact scope (by simpa using unscoped)
  · intro unbeaten
    cases scope : multibuyScopeKey offer targets with
    | none =>
        right
        apply List.mem_map_of_mem
        simp [member, scope]
    | some key =>
        left
        rcases scopeGroups_of_key member scope with ⟨group, known, inGroup⟩
        rw [← of.groups] at known
        rcases List.mem_map.mp known with ⟨entry, listed, rfl⟩
        by_cases winner : offer.id = entry.1
        · rw [winner]
          exact List.mem_map_of_mem listed
        · exfalso
          apply unbeaten
          refine List.mem_flatMap.mpr ⟨entry, listed, ?_⟩
          simp [inGroup, winner]

theorem WinnersOf.beaten_nodup {autos : List Offer} {winners : List (UUID × List Offer)}
    (of : WinnersOf autos targets winners) (distinct : autos.Nodup) : (beaten winners).Nodup := by
  apply List.nodup_flatMap.mpr
  constructor
  · intro entry listed
    have group : entry.2 ∈ scopeGroups autos targets := by
      rw [← of.groups]
      exact List.mem_map_of_mem listed
    rcases mem_scopeGroups group with ⟨key, same, -⟩
    rw [same]
    exact (distinct.filter _).filter _
  · have entries : winners.Nodup := by
      apply List.Nodup.of_map Prod.snd
      rw [of.groups]
      exact scopeGroups_nodup autos targets
    apply entries.imp_of_mem
    intro first second inFirst inSecond apart offer here there
    exact apart (of.same_entry inFirst inSecond (List.mem_filter.mp here).1
      (List.mem_filter.mp there).1)

theorem rivalry_reported {autos : List Offer} {rivalry : Rivalry}
    (distinct : (autos.map Offer.id).Nodup)
    (ok : resolveMultibuyTierRivalry autos targets context = .ok rivalry) :
    (rivalry.kept.map Offer.id ++ rivalry.losers.map Prod.fst).Perm (autos.map Offer.id) ∧
      ∀ offer ∈ rivalry.kept, offer ∈ autos := by
  unfold resolveMultibuyTierRivalry at ok
  simp only at ok
  split at ok
  · cases ok
    simp
  · rcases bind_eq_ok.mp ok with ⟨winners, contest, same⟩
    cases same
    have of : WinnersOf autos targets winners := by
      have nonempty : ∀ group ∈ scopeGroups autos targets, group ≠ [] := by
        intro group listed
        rcases mem_scopeGroups listed with ⟨key, -, inhabited⟩
        exact inhabited
      rcases groupWinners_ok contest nonempty with ⟨groups, members⟩
      exact ⟨groups, members⟩
    have offers : autos.Nodup := List.Nodup.of_map Offer.id distinct
    refine ⟨?_, fun offer kept => (List.mem_filter.mp kept).1⟩
    rw [beaten_losers, ← List.map_append]
    apply List.Perm.map
    have beatenAutos : ∀ offer ∈ beaten winners, offer ∈ autos := by
      intro offer lost
      rcases List.mem_flatMap.mp lost with ⟨entry, listed, inGroup⟩
      exact (of.mem_autos listed (List.mem_filter.mp inGroup).1).1
    apply (List.perm_ext_iff_of_nodup ?_ offers).mpr
    · intro offer
      rw [List.mem_append, List.mem_filter, Bool.or_eq_true, decide_eq_true_eq, decide_eq_true_eq]
      constructor
      · intro facts
        rcases facts with kept | lost
        · exact kept.1
        · exact beatenAutos offer lost
      · intro member
        by_cases lost : offer ∈ beaten winners
        · exact .inr lost
        · exact .inl ⟨member, (of.kept_iff distinct member).mpr lost⟩
    · apply (List.nodup_append').mpr
      refine ⟨offers.filter _, of.beaten_nodup offers, ?_⟩
      intro offer kept lost
      rw [List.mem_filter, Bool.or_eq_true, decide_eq_true_eq, decide_eq_true_eq] at kept
      exact (of.kept_iff distinct kept.1).mp kept.2 lost

end Rivalry

/-- What the automatic promotions applied so far leave. -/
structure Stacked (context : DiscountContext) (codeDiscount : Int) (start : Table UUID Int)
    (outcome : AutoOutcome) : Prop where
  nonneg : 0 ≤ outcome.running
  within : codeDiscount + outcome.running ≤ context.subtotalCents
  entries : (outcome.applied.map fun id => (outcome.byPromotion.get? id).getD 0).sum =
    outcome.running
  frame : ∀ id, id ∉ outcome.applied → outcome.byPromotion.get? id = start.get? id

theorem Stacked.apply {context : DiscountContext} {codeDiscount : Int} {start : Table UUID Int}
    {outcome : AutoOutcome} (stacked : Stacked context codeDiscount start outcome) {id : UUID}
    {result : DiscountResult} (nonneg : 0 ≤ result.discountCents)
    (bounded : result.discountCents ≤
      (remainingContext context codeDiscount outcome.running).subtotalCents)
    (fresh : id ∉ outcome.applied) (unlisted : start.get? id = none) :
    Stacked context codeDiscount start (applyAuto outcome id result) := by
  rw [applyAuto]
  split
  · exact ⟨stacked.nonneg, stacked.within, stacked.entries, stacked.frame⟩
  · have kept : ∀ other ∈ outcome.applied, other ≠ id := by
      intro other listed same
      exact fresh (same ▸ listed)
    have others : (outcome.byPromotion.set id result.discountCents).get? =
        fun other => if other = id then some result.discountCents
          else outcome.byPromotion.get? other := by
      funext other
      exact Table.get?_set outcome.byPromotion id result.discountCents other
    refine ⟨?_, ?_, ?_, ?_⟩
    · have := stacked.nonneg
      simp only
      omega
    · have within := stacked.within
      simp only [remainingContext] at bounded ⊢
      omega
    · simp only [List.map_append, List.sum_append, List.map_singleton, List.sum_singleton]
      split
      · have earlier : (outcome.applied.map fun other =>
            (((outcome.byPromotion.set id result.discountCents).get? other).getD 0)) =
            outcome.applied.map fun other => (outcome.byPromotion.get? other).getD 0 := by
          apply List.map_congr_left
          intro other listed
          rw [others]
          simp [kept other listed]
        rw [earlier, stacked.entries, others]
        simp
      · have nothing : result.discountCents = 0 := by omega
        rw [stacked.entries, stacked.frame id fresh, unlisted, nothing]
        rfl
    · intro other unapplied
      rw [List.mem_append, not_or, List.mem_singleton] at unapplied
      simp only
      split
      · rw [others]
        simp only [unapplied.2, if_false]
        exact stacked.frame other unapplied.1
      · exact stacked.frame other unapplied.1

theorem applyAuto_reported (outcome : AutoOutcome) (id : UUID) (result : DiscountResult) :
    ((applyAuto outcome id result).applied ++
      (applyAuto outcome id result).rejected.map Prod.fst).Perm
        (id :: (outcome.applied ++ outcome.rejected.map Prod.fst)) := by
  rw [applyAuto]
  split
  · simp only [List.map_append, List.map_singleton, ← List.append_assoc]
    exact List.perm_append_singleton id _
  · simp only [List.append_assoc, List.singleton_append]
    exact List.perm_middle

theorem stackAutos_fresh {outcome : AutoOutcome} {offer : Offer} {rest : List Offer}
    (distinct : (outcome.applied ++ (offer :: rest).map Offer.id).Nodup) :
    offer.id ∉ outcome.applied := by
  intro listed
  rw [List.map_cons, List.nodup_append'] at distinct
  exact distinct.2.2 listed List.mem_cons_self

theorem stackAutos_distinct {outcome : AutoOutcome} {offer : Offer} {rest : List Offer}
    (distinct : (outcome.applied ++ (offer :: rest).map Offer.id).Nodup)
    (result : DiscountResult) :
    ((applyAuto outcome offer.id result).applied ++ rest.map Offer.id).Nodup := by
  rw [applyAuto]
  split
  · have shorter := (List.sublist_cons_self offer.id (rest.map Offer.id)).append_left
      outcome.applied
    exact List.Nodup.sublist shorter distinct
  · simpa using distinct

theorem stackAutos_stacked {targets : TargetsByPromotion} {context : DiscountContext}
    {codeDiscount : Int} {start : Table UUID Int} {offers : List Offer}
    {outcome last : AutoOutcome} (stacked : Stacked context codeDiscount start outcome)
    (distinct : (outcome.applied ++ offers.map Offer.id).Nodup)
    (unlisted : ∀ offer ∈ offers, start.get? offer.id = none)
    (ok : stackAutos targets context codeDiscount outcome offers = .ok last) :
    Stacked context codeDiscount start last ∧
      (last.applied ++ last.rejected.map Prod.fst).Perm
        (outcome.applied ++ outcome.rejected.map Prod.fst ++ offers.map Offer.id) := by
  induction offers generalizing outcome with
  | nil =>
      cases ok
      exact ⟨stacked, by simp⟩
  | cons offer rest ih =>
      rcases bind_eq_ok.mp ok with ⟨result, evaluated, ok⟩
      have bounds := Offer.evaluate_bounds (le_max_left 0 _) evaluated
      have next := stacked.apply bounds.1 bounds.2 (stackAutos_fresh distinct)
        (unlisted offer List.mem_cons_self)
      have later := stackAutos_distinct distinct result
      rcases ih next later (fun o listed => unlisted o (List.mem_cons_of_mem _ listed)) ok with
        ⟨final, reported⟩
      refine ⟨final, reported.trans ?_⟩
      have step := (applyAuto_reported outcome offer.id result).append_right (rest.map Offer.id)
      apply step.trans
      rw [List.map_cons]
      exact List.perm_middle.symm

/-- The overflow trim finds nothing to trim. -/
theorem trimOverflow_stacked {context : DiscountContext} {codeDiscount : Int}
    {start : Table UUID Int} {outcome : AutoOutcome}
    (stacked : Stacked context codeDiscount start outcome) :
    trimOverflow context codeDiscount outcome = outcome :=
  if_neg (not_lt.mpr stacked.within)

/-- The ids that the role-tagged targets list are ids. -/
def Readable (targets : TargetsByPromotion) (promotions : List Promotion) : Prop :=
  ∀ promo ∈ promotions, ∀ target ∈ targetsOf targets promo, target.role ≠ none →
    ∀ text ∈ target.productIds ++ target.categoryIds, (UuidText.readUuid text).isSome

section Returns
variable {targets : TargetsByPromotion} {promotions : List Promotion}

theorem parseIds_isOk (readable : Readable targets promotions) {promo : Promotion}
    (member : promo ∈ promotions) (role : TargetRole) (kind : TargetKind) :
    ∃ ids, parseIds (listedIds (targetsOf targets promo) role kind) = .ok ids := by
  apply mapM_isOk
  intro text listed
  have source : ∃ target ∈ targetsOf targets promo, target.role ≠ none ∧
      text ∈ target.productIds ++ target.categoryIds := by
    cases kind with
    | product =>
        rcases List.mem_flatMap.mp listed with ⟨target, tagged, found⟩
        simp only [List.mem_filter, Bool.and_eq_true, decide_eq_true_eq] at tagged
        exact ⟨target, tagged.1, by simp [tagged.2.1], List.mem_append_left _ found⟩
    | category =>
        rcases List.mem_flatMap.mp listed with ⟨target, tagged, found⟩
        simp only [List.mem_filter, Bool.and_eq_true, decide_eq_true_eq] at tagged
        exact ⟨target, tagged.1, by simp [tagged.2.1], List.mem_append_right _ found⟩
    | _ => cases listed
  rcases source with ⟨target, row, tagged, found⟩
  rcases Option.isSome_iff_exists.mp (readable promo member target row tagged text found) with
    ⟨id, parsed⟩
  exact ⟨id, by simp [parsed]⟩

theorem evaluate_isOk (readable : Readable targets promotions) {offer : Offer}
    (member : offer.promo ∈ promotions) (context : DiscountContext) :
    ∃ result, offer.evaluate targets context = .ok result := by
  have role (role : TargetRole) : ∃ filter, roleFilter (targetsOf targets offer.promo) role =
      .ok filter := by
    rcases parseIds_isOk readable member role .product with ⟨products, first⟩
    rcases parseIds_isOk readable member role .category with ⟨categories, second⟩
    exact ⟨_, bind_eq_ok.mpr ⟨products, first, bind_eq_ok.mpr ⟨categories, second, rfl⟩⟩⟩
  have leg (index : Nat) : ∃ filter, legFilter (targetsOf targets offer.promo) index =
      .ok filter := by
    rcases parseIds_isOk readable member (.leg (Fin.ofNat 100 index)) .product with
      ⟨products, first⟩
    rcases parseIds_isOk readable member (.leg (Fin.ofNat 100 index)) .category with
      ⟨categories, second⟩
    exact ⟨_, bind_eq_ok.mpr ⟨products, first, bind_eq_ok.mpr ⟨categories, second, rfl⟩⟩⟩
  have legs : ∃ filters, buildLegFilters offer.promo offer.rule targets = .ok filters := by
    unfold buildLegFilters
    split
    · exact ⟨none, rfl⟩
    · have each : ∀ index ∈ List.range offer.rule.bundleLegs.length,
          ∃ filter, legFilter (targetsOf targets offer.promo) index = .ok filter :=
        fun index _ => leg index
      rcases mapM_isOk each with ⟨filters, built⟩
      exact ⟨some filters, bind_eq_ok.mpr ⟨filters, built, rfl⟩⟩
  rcases role .buySet with ⟨buyFilter, buy⟩
  rcases role .getSet with ⟨getFilter, get⟩
  rcases legs with ⟨legFilters, legs⟩
  have lines : buildLineFilters offer.promo targets = .ok (buyFilter, getFilter) :=
    bind_eq_ok.mpr ⟨buyFilter, buy, bind_eq_ok.mpr ⟨getFilter, get, rfl⟩⟩
  exact ⟨_, bind_eq_ok.mpr ⟨_, lines, bind_eq_ok.mpr ⟨legFilters, legs, rfl⟩⟩⟩

theorem evaluateAll_isOk (readable : Readable targets promotions) {offers : List Offer}
    (members : ∀ offer ∈ offers, offer.promo ∈ promotions) (context : DiscountContext) :
    ∃ results, evaluateAll offers targets context = .ok results := by
  apply mapM_isOk
  intro offer listed
  rcases evaluate_isOk readable (members offer listed) context with ⟨result, evaluated⟩
  exact ⟨(offer, result), by rw [evaluated]; rfl⟩

theorem groupWinners_isOk (readable : Readable targets promotions) (context : DiscountContext)
    {groups : List (List Offer)}
    (members : ∀ group ∈ groups, ∀ offer ∈ group, offer.promo ∈ promotions) :
    ∃ winners, groupWinners targets context groups = .ok winners := by
  induction groups with
  | nil => exact ⟨[], rfl⟩
  | cons group rest ih =>
      have here : ∃ winner, groupWinner targets context group = .ok winner := by
        match group with
        | [] => exact ⟨none, rfl⟩
        | [only] => exact ⟨some only, rfl⟩
        | first :: second :: others =>
            rcases evaluateAll_isOk readable (members _ List.mem_cons_self) context with
              ⟨results, evaluated⟩
            cases results with
            | nil => exact ⟨none, bind_eq_ok.mpr ⟨[], evaluated, rfl⟩⟩
            | cons head tail => exact ⟨_, bind_eq_ok.mpr ⟨head :: tail, evaluated, rfl⟩⟩
      rcases here with ⟨winner, here⟩
      rcases ih fun g listed => members g (List.mem_cons_of_mem _ listed) with ⟨later, there⟩
      cases winner with
      | none => exact ⟨later, bind_eq_ok.mpr ⟨none, here, bind_eq_ok.mpr ⟨later, there, rfl⟩⟩⟩
      | some offer =>
          exact ⟨_, bind_eq_ok.mpr ⟨some offer, here, bind_eq_ok.mpr ⟨later, there, rfl⟩⟩⟩

theorem resolveMultibuyTierRivalry_isOk (readable : Readable targets promotions)
    {autos : List Offer} (members : ∀ offer ∈ autos, offer.promo ∈ promotions)
    (context : DiscountContext) :
    ∃ rivalry, resolveMultibuyTierRivalry autos targets context = .ok rivalry := by
  unfold resolveMultibuyTierRivalry
  simp only
  split
  · exact ⟨_, rfl⟩
  · have grouped : ∀ group ∈ scopeGroups autos targets, ∀ offer ∈ group,
        offer.promo ∈ promotions := by
      intro group listed offer inGroup
      rcases mem_scopeGroups listed with ⟨key, rfl, -⟩
      exact members offer (List.mem_filter.mp inGroup).1
    rcases groupWinners_isOk readable context grouped with ⟨winners, contest⟩
    exact ⟨_, bind_eq_ok.mpr ⟨winners, contest, rfl⟩⟩

theorem stackAutos_isOk (readable : Readable targets promotions) (context : DiscountContext)
    (codeDiscount : Int) {offers : List Offer}
    (members : ∀ offer ∈ offers, offer.promo ∈ promotions) (outcome : AutoOutcome) :
    ∃ last, stackAutos targets context codeDiscount outcome offers = .ok last := by
  induction offers generalizing outcome with
  | nil => exact ⟨outcome, rfl⟩
  | cons offer rest ih =>
      rcases evaluate_isOk readable (members offer List.mem_cons_self)
        (remainingContext context codeDiscount outcome.running) with ⟨result, evaluated⟩
      rcases ih (fun o listed => members o (List.mem_cons_of_mem _ listed))
        (applyAuto outcome offer.id result) with ⟨last, later⟩
      exact ⟨last, bind_eq_ok.mpr ⟨result, evaluated, later⟩⟩

end Returns

/-- The ids of the stacked promotions in the order a result lists them. -/
theorem reported_perm {surfaces : SurfaceSplit} {code : CodeOutcome} {rivalry : Rivalry}
    {stacked : AutoOutcome}
    (codes : (code.applied ++ code.rejected.map Prod.fst).Perm (surfaces.codes.map Offer.id))
    (autos : (rivalry.kept.map Offer.id ++ rivalry.losers.map Prod.fst).Perm
      (surfaces.autos.map Offer.id))
    (stack : (stacked.applied ++ stacked.rejected.map Prod.fst).Perm
      (rivalry.kept.map Offer.id)) :
    (code.applied ++ stacked.applied ++
      (surfaces.rejected ++ code.rejected ++ rivalry.losers ++ stacked.rejected).map Prod.fst).Perm
        (surfaces.rejected.map Prod.fst ++ surfaces.codes.map Offer.id ++
          surfaces.autos.map Offer.id) := by
  classical
  rw [List.perm_iff_count] at *
  intro id
  have code_ := codes id
  have auto_ := autos id
  have stack_ := stack id
  simp only [List.map_append, List.count_append] at *
  omega

/-- The entries that the automatic promotions start from. -/
def codeEntries (code : CodeOutcome) : Table UUID Int :=
  .ofList (code.applied.map fun id => (id, code.discount))

theorem codeEntries_get? {code : CodeOutcome} (at_most_one : code.applied.length ≤ 1) (id : UUID) :
    (codeEntries code).get? id = if id ∈ code.applied then some code.discount else none := by
  rcases code with ⟨discount, shipping, applied, rejected⟩
  match applied, at_most_one with
  | [], _ => simp [codeEntries, Table.ofList]
  | [only], _ => simp [codeEntries, Table.ofList, Table.get?_set]

/-- What the stages of `calculate_total` hand to one another. -/
structure Parts (promotions : List Promotion) (context : DiscountContext)
    (targets : TargetsByPromotion) (results : List (Offer × DiscountResult)) (rivalry : Rivalry)
    (stacked : AutoOutcome) : Prop where
  split_ : SplitOf promotions (splitBySurface promotions)
  evaluated : evaluateAll (splitBySurface promotions).codes targets context = .ok results
  report : CodeReport (splitBySurface promotions).codes context (codeOutcome results)
  rivals : (rivalry.kept.map Offer.id ++ rivalry.losers.map Prod.fst).Perm
    ((splitBySurface promotions).autos.map Offer.id)
  kept : ∀ offer ∈ rivalry.kept, offer ∈ (splitBySurface promotions).autos
  keptDistinct : (rivalry.kept.map Offer.id).Nodup
  unlisted : ∀ offer ∈ rivalry.kept, (codeEntries (codeOutcome results)).get? offer.id = none
  stack : stackAutos targets context (codeOutcome results).discount
    { byPromotion := codeEntries (codeOutcome results) } rivalry.kept = .ok stacked

theorem calculateTotal_parts {promotions : List Promotion} {context : DiscountContext}
    {targets : TargetsByPromotion} {result : DiscountTotalResult}
    (distinct : (promotions.map Promotion.id).Nodup) (subtotal : 0 ≤ context.subtotalCents)
    (ok : calculateTotal promotions context targets = .ok result) :
    ∃ results rivalry stacked, Parts promotions context targets results rivalry stacked ∧
      result = {
        codeDiscountCents := (codeOutcome results).discount
        automaticDiscountCents :=
          (trimOverflow context (codeOutcome results).discount stacked).running
        freeShipping := (codeOutcome results).freeShipping ||
          (trimOverflow context (codeOutcome results).discount stacked).freeShipping
        appliedPromotionIds := (codeOutcome results).applied ++
          (trimOverflow context (codeOutcome results).discount stacked).applied
        rejected := (splitBySurface promotions).rejected ++ (codeOutcome results).rejected ++
          rivalry.losers ++ (trimOverflow context (codeOutcome results).discount stacked).rejected
        discountByPromotion :=
          (trimOverflow context (codeOutcome results).discount stacked).byPromotion } := by
  rcases bind_eq_ok.mp ok with ⟨results, evaluated, ok⟩
  rcases bind_eq_ok.mp ok with ⟨rivalry, contest, ok⟩
  rcases bind_eq_ok.mp ok with ⟨stacked, stack, same⟩
  cases same
  have split_ := splitBySurface_spec promotions
  have all := (split_.reported.nodup_iff).mpr distinct
  rw [List.append_assoc, List.nodup_append', List.nodup_append'] at all
  rcases all with ⟨-, ⟨codesDistinct, autosDistinct, apart⟩, -⟩
  have report := codeOutcome_report subtotal codesDistinct evaluated
  rcases rivalry_reported autosDistinct contest with ⟨rivals, kept⟩
  have unlisted : ∀ offer ∈ rivalry.kept,
      (codeEntries (codeOutcome results)).get? offer.id = none := by
    intro offer member
    have unapplied : offer.id ∉ (codeOutcome results).applied := by
      intro applied
      exact apart (report.reported.subset (List.mem_append_left _ applied))
        (List.mem_map_of_mem (kept offer member))
    rw [codeEntries_get? report.at_most_one, if_neg unapplied]
  have keptDistinct : (rivalry.kept.map Offer.id).Nodup :=
    List.Nodup.of_append_left ((rivals.nodup_iff).mpr autosDistinct)
  exact ⟨results, rivalry, stacked,
    ⟨split_, evaluated, report, rivals, kept, keptDistinct, unlisted, stack⟩, rfl⟩

section Parts
variable {promotions : List Promotion} {context : DiscountContext} {targets : TargetsByPromotion}
  {results : List (Offer × DiscountResult)} {rivalry : Rivalry} {stacked : AutoOutcome}

theorem Parts.initial (parts : Parts promotions context targets results rivalry stacked) :
    Stacked context (codeOutcome results).discount (codeEntries (codeOutcome results))
      { byPromotion := codeEntries (codeOutcome results) } :=
  ⟨le_refl 0, by simpa using parts.report.bounded, rfl, fun _ _ => rfl⟩

theorem Parts.stacked_spec (parts : Parts promotions context targets results rivalry stacked) :
    Stacked context (codeOutcome results).discount (codeEntries (codeOutcome results)) stacked ∧
      (stacked.applied ++ stacked.rejected.map Prod.fst).Perm (rivalry.kept.map Offer.id) := by
  have spec := stackAutos_stacked parts.initial (by simpa using parts.keptDistinct) parts.unlisted
    parts.stack
  simpa using spec

theorem Parts.code_surface (parts : Parts promotions context targets results rivalry stacked)
    (distinct : (promotions.map Promotion.id).Nodup) :
    ∀ id ∈ (codeOutcome results).applied, surfaceOf promotions id = some .discountCode := by
  intro id applied
  have listed := parts.report.reported.subset (List.mem_append_left _ applied)
  rcases List.mem_map.mp listed with ⟨offer, member, rfl⟩
  rcases parts.split_.codes offer member with ⟨source, surface⟩
  rw [← surface]
  exact surfaceOf_mem distinct source

theorem Parts.auto_surface (parts : Parts promotions context targets results rivalry stacked)
    (distinct : (promotions.map Promotion.id).Nodup) :
    ∀ id ∈ stacked.applied, surfaceOf promotions id = some .automatic := by
  intro id applied
  have listed := parts.stacked_spec.2.subset (List.mem_append_left _ applied)
  rcases List.mem_map.mp listed with ⟨offer, member, rfl⟩
  rcases parts.split_.autos offer (parts.kept offer member) with ⟨source, surface⟩
  rw [← surface]
  exact surfaceOf_mem distinct source

end Parts

theorem calculateTotal_reconciles {promotions : List Promotion} {context : DiscountContext}
    {targets : TargetsByPromotion} {result : DiscountTotalResult}
    (distinct : (promotions.map Promotion.id).Nodup) (subtotal : 0 ≤ context.subtotalCents)
    (ok : calculateTotal promotions context targets = .ok result) :
    Reconciles promotions context result := by
  rcases calculateTotal_parts distinct subtotal ok with ⟨results, rivalry, stacked, parts, rfl⟩
  rcases parts.stacked_spec with ⟨stack, reported⟩
  rw [trimOverflow_stacked stack]
  have report := parts.report
  have onCode : ((codeOutcome results).applied ++ stacked.applied).filter
      (fun id => surfaceOf promotions id = some .discountCode) = (codeOutcome results).applied := by
    rw [List.filter_append, List.filter_eq_self.mpr, List.filter_eq_nil_iff.mpr, List.append_nil]
    · intro id applied
      simp [parts.auto_surface distinct id applied]
    · intro id applied
      simp [parts.code_surface distinct id applied]
  have onAuto : ((codeOutcome results).applied ++ stacked.applied).filter
      (fun id => surfaceOf promotions id = some .automatic) = stacked.applied := by
    rw [List.filter_append, List.filter_eq_nil_iff.mpr, List.filter_eq_self.mpr, List.nil_append]
    · intro id applied
      simp [parts.auto_surface distinct id applied]
    · intro id applied
      simp [parts.code_surface distinct id applied]
  constructor
  · exact report.nonneg
  · exact stack.nonneg
  · exact stack.within
  · rw [DiscountTotalResult.appliedOn, onAuto]
    exact stack.entries
  · intro id applied
    rw [DiscountTotalResult.appliedOn, onCode] at applied
    have unstacked : id ∉ stacked.applied := by
      intro also
      have clash := parts.code_surface distinct id applied
      rw [parts.auto_surface distinct id also] at clash
      cases clash
    apply (stack.frame id unstacked).trans
    rw [codeEntries_get? report.at_most_one, if_pos applied]
  · exact (reported_perm report.reported parts.rivals reported).trans parts.split_.reported
  · rw [DiscountTotalResult.appliedOn, onCode]
    exact report.at_most_one

theorem calculateTotal_isOk {promotions : List Promotion} {targets : TargetsByPromotion}
    (readable : Readable targets promotions) (context : DiscountContext) :
    ∃ result, calculateTotal promotions context targets = .ok result := by
  have split_ := splitBySurface_spec promotions
  rcases evaluateAll_isOk readable (fun offer member => (split_.codes offer member).1) context with
    ⟨results, evaluated⟩
  rcases resolveMultibuyTierRivalry_isOk readable (fun offer member => (split_.autos offer member).1)
    context with ⟨rivalry, contest⟩
  have members : ∀ offer ∈ rivalry.kept, offer.promo ∈ promotions := by
    intro offer kept
    have auto : offer ∈ (splitBySurface promotions).autos := by
      unfold resolveMultibuyTierRivalry at contest
      simp only at contest
      split at contest
      · cases contest
        exact kept
      · rcases bind_eq_ok.mp contest with ⟨winners, -, same⟩
        cases same
        exact (List.mem_filter.mp kept).1
    exact (split_.autos offer auto).1
  rcases stackAutos_isOk readable context (codeOutcome results).discount members
    { byPromotion := .ofList ((codeOutcome results).applied.map fun id =>
        (id, (codeOutcome results).discount)) } with ⟨stacked, stack⟩
  exact ⟨_, bind_eq_ok.mpr ⟨results, evaluated, bind_eq_ok.mpr ⟨rivalry, contest,
    bind_eq_ok.mpr ⟨stacked, stack, rfl⟩⟩⟩⟩

/-- Whatever the promotions, `calculate_total` returns unless a target lists a malformed id, and
what it returns reconciles. -/
theorem calculateTotal_accounting (promotions : List Promotion)
    (distinct : (promotions.map Promotion.id).Nodup) (context : DiscountContext)
    (nonneg : 0 ≤ context.subtotalCents) (targets : TargetsByPromotion) :
    (Readable targets promotions → ∃ result, calculateTotal promotions context targets = .ok result) ∧
      ∀ result, calculateTotal promotions context targets = .ok result →
        Reconciles promotions context result :=
  ⟨fun readable => calculateTotal_isOk readable context,
    fun _ ok => calculateTotal_reconciles distinct nonneg ok⟩

def percentOff (percent : Nat) (within : percent ≤ 100) : DiscountRule where
  kind := .percentage
  valuePercent := some percent
  valuePercent_le := some_le_hundred within
  validated := rfl

/-- Two codes, two tiers of one ladder and an automatic fifth off. -/
def capPromotions : List Promotion :=
  [{ id := 1, surface := .discountCode, discountRule := some { kind := .fixed, valueCents := some 200 } },
    { id := 2, surface := .discountCode, discountRule := some { kind := .freeShipping } },
    { id := 3
      surface := .automatic
      discountRule := some {
        kind := .multibuy
        multibuyTiers := [{ quantity := 2, priceCents := 968 }] } },
    { id := 4
      surface := .automatic
      discountRule := some {
        kind := .multibuy
        multibuyTiers := [{ quantity := 3, priceCents := 1320 }] } },
    { id := 5
      surface := .automatic
      discountRule := some (percentOff 20 (by decide)) },
    { id := 6, surface := .popup }]

def capCart : DiscountContext where
  subtotalCents := 1500
  lineItems := [{ productId := 1, quantity := 3, unitPriceCents := 500 }]

theorem calculateTotal_accounting_caps :
    ∃ result, calculateTotal capPromotions capCart none = .ok result ∧
      Reconciles capPromotions capCart result := by
  have law := calculateTotal_accounting capPromotions (by decide) capCart (by decide) none
  have readable : Readable none capPromotions := by
    intro promo _ target row
    cases row
  rcases law.1 readable with ⟨result, ok⟩
  exact ⟨result, ok, law.2 result ok⟩

end Numu.Promotions
