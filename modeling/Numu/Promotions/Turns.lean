import Numu.Promotions.Accounting

/-! The automatic promotions one turn after another, and what `calculate_total` makes of them. -/

namespace Numu.Promotions
open Numu.Orders (UUID)
open Numu.Outcome (bind_eq_ok mapM_isOk)

/-- The ids that the targets of the offer list can be read. -/
def Offer.Legible (offer : Offer) (targets : TargetsByPromotion) : Prop :=
  ∃ filters legFilters, buildLineFilters offer.promo targets = .ok filters ∧
    buildLegFilters offer.promo offer.rule targets = .ok legFilters

/-- What the offer's rule gives over a cart. -/
def Offer.result (offer : Offer) (targets : TargetsByPromotion) (context : DiscountContext) :
    DiscountResult :=
  match offer.evaluate targets context with
  | .ok result => result
  | .error _ => { discountCents := 0 }

section Legible
variable {offer : Offer} {offers : List Offer} {targets : TargetsByPromotion}
  {context : DiscountContext}

theorem Offer.legible_of_evaluate {result : DiscountResult}
    (ok : offer.evaluate targets context = .ok result) : offer.Legible targets := by
  rcases bind_eq_ok.mp ok with ⟨filters, built, ok⟩
  rcases bind_eq_ok.mp ok with ⟨legFilters, legs, -⟩
  exact ⟨filters, legFilters, built, legs⟩

theorem Offer.Legible.result_eq (legible : offer.Legible targets) :
    ∃ buyFilter getFilter legFilters, ∀ context,
      offer.evaluate targets context = .ok (offer.result targets context) ∧
        offer.result targets context =
          offer.rule.calculate context buyFilter getFilter legFilters := by
  rcases legible with ⟨filters, legFilters, built, legs⟩
  refine ⟨filters.1, filters.2, legFilters, fun context => ?_⟩
  have evaluated : offer.evaluate targets context =
      .ok (offer.rule.calculate context filters.1 filters.2 legFilters) :=
    bind_eq_ok.mpr ⟨filters, built, bind_eq_ok.mpr ⟨legFilters, legs, rfl⟩⟩
  rw [Offer.result, evaluated]
  exact ⟨rfl, rfl⟩

theorem Offer.Legible.evaluate (legible : offer.Legible targets) (context : DiscountContext) :
    offer.evaluate targets context = .ok (offer.result targets context) := by
  rcases legible.result_eq with ⟨_, _, _, same⟩
  exact (same context).1

theorem Offer.result_bounds (offer : Offer) (targets : TargetsByPromotion)
    {context : DiscountContext} (subtotal : 0 ≤ context.subtotalCents) :
    0 ≤ (offer.result targets context).discountCents ∧
      (offer.result targets context).discountCents ≤ context.subtotalCents := by
  unfold Offer.result
  cases evaluated : offer.evaluate targets context with
  | error message => exact ⟨le_refl 0, subtotal⟩
  | ok result => exact Offer.evaluate_bounds subtotal evaluated

theorem evaluateAll_eq (context : DiscountContext)
    (legible : ∀ offer ∈ offers, offer.Legible targets) :
    evaluateAll offers targets context =
      .ok (offers.map fun offer => (offer, offer.result targets context)) := by
  unfold evaluateAll
  induction offers with
  | nil => rfl
  | cons offer rest ih =>
      have here := (legible offer List.mem_cons_self).evaluate context
      have there := ih fun other member => legible other (List.mem_cons_of_mem _ member)
      rw [List.mapM_cons, there, here]
      rfl

theorem legible_of_evaluateAll {results : List (Offer × DiscountResult)}
    (ok : evaluateAll offers targets context = .ok results) :
    ∀ offer ∈ offers, offer.Legible targets := by
  rcases evaluateAll_ok ok with ⟨rfl, sound⟩
  intro offer member
  rcases List.mem_map.mp member with ⟨pair, listed, rfl⟩
  exact Offer.legible_of_evaluate (sound pair listed)

end Legible

section Champion
variable (targets : TargetsByPromotion) (context : DiscountContext)

/-- The first of the offers that take off most. -/
def champion : List Offer → Option Offer
  | [] => none
  | first :: rest =>
      some (bestResult (first, first.result targets context)
        (rest.map fun offer => (offer, offer.result targets context))).1

/-- The rivals of a scope. -/
def rivals (autos : List Offer) (key : String) : List Offer :=
  autos.filter fun offer => multibuyScopeKey offer targets = some key

/-- A multibuy has to beat its rivals. -/
def survives (autos : List Offer) (offer : Offer) : Bool :=
  match multibuyScopeKey offer targets with
  | none => true
  | some key => (champion targets context (rivals targets autos key)).map Offer.id = some offer.id

/-- The automatic promotions without the multibuys that lose to a rival. -/
def keptOf (autos : List Offer) : List Offer :=
  autos.filter (survives targets context autos)

variable {targets context} {autos : List Offer}

theorem survives_of_none {offer : Offer} (unscoped : multibuyScopeKey offer targets = none) :
    survives targets context autos offer = true := by
  simp only [survives, unscoped]

theorem survives_of_some {offer : Offer} {key : String}
    (scope : multibuyScopeKey offer targets = some key) :
    survives targets context autos offer =
      decide ((champion targets context (rivals targets autos key)).map Offer.id =
        some offer.id) := by
  simp only [survives, scope]

theorem survives_congr {others : List Offer}
    (same : ∀ key, rivals targets autos key = rivals targets others key) :
    survives targets context autos = survives targets context others := by
  funext offer
  cases scope : multibuyScopeKey offer targets with
  | none => rw [survives_of_none scope, survives_of_none scope]
  | some key => rw [survives_of_some scope, survives_of_some scope, same]

theorem groupWinner_eq (context : DiscountContext) {group : List Offer}
    (legible : 2 ≤ group.length → ∀ offer ∈ group, offer.Legible targets) :
    groupWinner targets context group = .ok (champion targets context group) := by
  match group with
  | [] => rfl
  | [only] => rfl
  | first :: second :: rest =>
      have evaluated := evaluateAll_eq context (legible (by simp))
      exact bind_eq_ok.mpr ⟨_, evaluated, rfl⟩

theorem champion_mem (targets : TargetsByPromotion) (context : DiscountContext)
    {group : List Offer} (inhabited : group ≠ []) :
    ∃ offer ∈ group, champion targets context group = some offer := by
  cases group with
  | nil => exact absurd rfl inhabited
  | cons first rest =>
      have member := bestResult_mem (first, first.result targets context)
        (rest.map fun offer => (offer, offer.result targets context))
      refine ⟨_, ?_, rfl⟩
      rcases List.mem_cons.mp member with same | later
      · rw [same]
        exact List.mem_cons_self
      · rcases List.mem_map.mp later with ⟨offer, listed, same⟩
        rw [← same]
        exact List.mem_cons_of_mem _ listed

theorem groupWinners_eq {groups : List (List Offer)}
    (legible : ∀ group ∈ groups, ∀ offer ∈ group, offer.Legible targets) :
    groupWinners targets context groups =
      .ok (groups.filterMap fun group =>
        (champion targets context group).map fun offer => (offer.id, group)) := by
  induction groups with
  | nil => rfl
  | cons group rest ih =>
      have here := groupWinner_eq context fun _ => legible group List.mem_cons_self
      have there := ih fun other member => legible other (List.mem_cons_of_mem _ member)
      rw [groupWinners, here, there]
      cases chosen : champion targets context group with
      | none =>
          rw [List.filterMap_cons, chosen]
          rfl
      | some offer =>
          rw [List.filterMap_cons, chosen]
          rfl

theorem mem_rivals {offer : Offer} {key : String} :
    offer ∈ rivals targets autos key ↔
      offer ∈ autos ∧ multibuyScopeKey offer targets = some key := by
  simp [rivals]

theorem rivals_mem_scopeGroups {offer : Offer} {key : String} (member : offer ∈ autos)
    (scope : multibuyScopeKey offer targets = some key) :
    rivals targets autos key ∈ scopeGroups autos targets := by
  apply List.mem_map_of_mem
  rw [List.mem_eraseDups, List.mem_filterMap]
  exact ⟨offer, member, scope⟩

theorem mem_winners_iff (context : DiscountContext)
    (distinct : (autos.map Offer.id).Nodup) {offer : Offer} {key : String}
    (member : offer ∈ autos) (scope : multibuyScopeKey offer targets = some key) :
    offer.id ∈ ((scopeGroups autos targets).filterMap fun group =>
        (champion targets context group).map fun o => (o.id, group)).map Prod.fst ↔
      (champion targets context (rivals targets autos key)).map Offer.id = some offer.id := by
  constructor
  · intro won
    rcases List.mem_map.mp won with ⟨entry, listed, same⟩
    rcases List.mem_filterMap.mp listed with ⟨group, grouped, named⟩
    rcases mem_scopeGroups grouped with ⟨other, rfl, inhabited⟩
    rcases champion_mem targets context inhabited with
      ⟨winner, inGroup, chosen⟩
    rw [chosen, Option.map_some, Option.some.injEq] at named
    subst named
    rcases List.mem_filter.mp inGroup with ⟨inAutos, scoped_⟩
    have identical := List.inj_on_of_nodup_map distinct inAutos member same
    subst identical
    have keys : multibuyScopeKey winner targets = some other := by simpa using scoped_
    rw [scope, Option.some.injEq] at keys
    subst keys
    exact congrArg (Option.map Offer.id) chosen
  · intro won
    rcases Option.map_eq_some_iff.mp won with ⟨winner, chosen, same⟩
    rw [← same]
    refine List.mem_map_of_mem (f := Prod.fst) (a := (winner.id, rivals targets autos key))
      (List.mem_filterMap.mpr ⟨_, rivals_mem_scopeGroups member scope, ?_⟩)
    rw [chosen]
    rfl

/-- Who is left of the automatic promotions. -/
theorem resolve_kept (context : DiscountContext)
    (distinct : (autos.map Offer.id).Nodup)
    (legible : ∀ offer ∈ autos, offer.Legible targets) :
    ∃ losers : List (UUID × String), (∀ loss ∈ losers, loss.2 = anotherTier) ∧
      resolveMultibuyTierRivalry autos targets context =
        .ok ⟨keptOf targets context autos, losers⟩ := by
  have grouped : ∀ group ∈ scopeGroups autos targets, ∀ offer ∈ group, offer.Legible targets := by
    intro group listed offer member
    rcases mem_scopeGroups listed with ⟨key, rfl, -⟩
    exact legible offer (List.mem_filter.mp member).1
  unfold resolveMultibuyTierRivalry
  simp only
  split
  · rename_i single
    refine ⟨[], by simp, ?_⟩
    have all : keptOf targets context autos = autos := by
      apply List.filter_eq_self.mpr
      intro offer member
      cases scope : multibuyScopeKey offer targets with
      | none => exact survives_of_none scope
      | some key =>
          have alone := List.all_eq_true.mp single _ (rivals_mem_scopeGroups member scope)
          rw [decide_eq_true_eq, List.length_eq_one_iff] at alone
          rcases alone with ⟨only, same⟩
          have inside := mem_rivals.mpr ⟨member, scope⟩
          rw [same, List.mem_singleton] at inside
          subst inside
          simp [survives_of_some scope, same, champion, bestResult]
    rw [all]
  · rw [groupWinners_eq grouped]
    refine ⟨_, ?_, congrArg (fun kept => Except.ok (Rivalry.mk kept _)) ?_⟩
    · intro loss lost
      rcases List.mem_flatMap.mp lost with ⟨entry, -, named⟩
      rcases List.mem_map.mp named with ⟨offer, -, rfl⟩
      rfl
    apply List.filter_congr
    intro offer member
    cases scope : multibuyScopeKey offer targets with
    | none =>
        have passes : offer.id ∈ (autos.filter fun o =>
            (multibuyScopeKey o targets).isNone).map Offer.id := by
          apply List.mem_map_of_mem
          simp [member, scope]
        simp [passes, survives_of_none scope]
    | some key =>
        have stays : offer.id ∉ (autos.filter fun o =>
            (multibuyScopeKey o targets).isNone).map Offer.id := by
          intro passed
          rcases List.mem_map.mp passed with ⟨other, unscoped, same⟩
          rcases List.mem_filter.mp unscoped with ⟨inAutos, unscoped⟩
          have identical := List.inj_on_of_nodup_map distinct inAutos member same
          subst identical
          simp [scope] at unscoped
        have won := mem_winners_iff context distinct member scope
        simp only [stays, decide_false, Bool.or_false, survives_of_some scope]
        exact decide_eq_decide.mpr won

theorem groupWinners_each {groups : List (List Offer)} {winners : List (UUID × List Offer)}
    (ok : groupWinners targets context groups = .ok winners) {group : List Offer}
    (listed : group ∈ groups) :
    ∃ winner, groupWinner targets context group = .ok winner ∧
      ∀ offer ∈ winner, offer.id ∈ winners.map Prod.fst := by
  induction groups generalizing winners with
  | nil => cases listed
  | cons head rest ih =>
      rcases bind_eq_ok.mp ok with ⟨winner, here, ok⟩
      rcases bind_eq_ok.mp ok with ⟨later, there, same⟩
      have wider : ∀ id ∈ later.map Prod.fst, id ∈ winners.map Prod.fst := by
        intro id won
        cases winner with
        | none =>
            cases same
            exact won
        | some offer =>
            cases same
            exact List.mem_cons_of_mem _ won
      rcases List.mem_cons.mp listed with rfl | listed
      · refine ⟨winner, here, ?_⟩
        intro offer chosen
        cases chosen
        cases same
        exact List.mem_cons_self
      · rcases ih there listed with ⟨other, found, named⟩
        exact ⟨other, found, fun offer chosen => wider _ (named offer chosen)⟩

theorem groupWinner_legible {group : List Offer} {winner : Option Offer}
    (ok : groupWinner targets context group = .ok winner) :
    (∃ only, group = [only] ∧ winner = some only) ∨ ∀ offer ∈ group, offer.Legible targets := by
  match group with
  | [] => exact .inr fun offer member => absurd member List.not_mem_nil
  | [only] =>
      cases ok
      exact .inl ⟨only, rfl, rfl⟩
  | first :: second :: rest =>
      rcases bind_eq_ok.mp ok with ⟨results, evaluated, -⟩
      exact .inr (legible_of_evaluateAll evaluated)

/-- Where the contest returns and who is left can be evaluated, so can all. -/
theorem legible_of_resolve {rivalry : Rivalry}
    (ok : resolveMultibuyTierRivalry autos targets context = .ok rivalry)
    (legible : ∀ offer ∈ rivalry.kept, offer.Legible targets) :
    ∀ offer ∈ autos, offer.Legible targets := by
  unfold resolveMultibuyTierRivalry at ok
  simp only at ok
  split at ok
  · cases ok
    exact legible
  · rcases bind_eq_ok.mp ok with ⟨winners, contest, same⟩
    cases same
    intro offer member
    cases scope : multibuyScopeKey offer targets with
    | none =>
        apply legible offer
        have passes : offer.id ∈ (autos.filter fun o =>
            (multibuyScopeKey o targets).isNone).map Offer.id := by
          apply List.mem_map_of_mem
          simp [member, scope]
        simp [member, passes]
    | some key =>
        rcases groupWinners_each contest (rivals_mem_scopeGroups member scope) with
          ⟨winner, chosen, named⟩
        have inside := mem_rivals.mpr ⟨member, scope⟩
        rcases groupWinner_legible chosen with ⟨only, alone, won⟩ | all
        · rw [alone, List.mem_singleton] at inside
          subst inside
          apply legible offer
          have wins := named offer won
          simp [member, wins]
        · exact all offer inside

end Champion

/-- The turn of an automatic promotion, with what the discounts before it leave of the
subtotal. -/
structure Turn where
  offer : Offer
  left : Int

def Turn.narrowed (turn : Turn) (context : DiscountContext) : DiscountContext :=
  { context with subtotalCents := turn.left }

def Turn.result (turn : Turn) (targets : TargetsByPromotion) (context : DiscountContext) :
    DiscountResult :=
  turn.offer.result targets (turn.narrowed context)

def Turn.id (turn : Turn) : UUID := turn.offer.id

theorem Turn.result_bounds (targets : TargetsByPromotion) (context : DiscountContext)
    (turn : Turn) (nonneg : 0 ≤ turn.left) :
    0 ≤ (turn.result targets context).discountCents ∧
      (turn.result targets context).discountCents ≤ turn.left :=
  turn.offer.result_bounds targets nonneg

/-- The promotion is applied at its turn. -/
def Turn.applies (turn : Turn) (targets : TargetsByPromotion) (context : DiscountContext) : Bool :=
  0 < (turn.result targets context).discountCents || (turn.result targets context).freeShipping

section Turns
variable (targets : TargetsByPromotion) (context : DiscountContext)

def turns : Int → List Offer → List Turn
  | _, [] => []
  | left, offer :: rest =>
      ⟨offer, left⟩ ::
        turns (left - (Turn.result ⟨offer, left⟩ targets context).discountCents) rest

/-- What a list of promotions leaves in the end. -/
def leftAfter : Int → List Offer → Int
  | left, [] => left
  | left, offer :: rest =>
      leftAfter (left - (Turn.result ⟨offer, left⟩ targets context).discountCents) rest

variable {targets context}

theorem turns_append (left : Int) (front back : List Offer) :
    turns targets context left (front ++ back) =
      turns targets context left front ++
        turns targets context (leftAfter targets context left front) back := by
  induction front generalizing left with
  | nil => rfl
  | cons offer rest ih =>
      rw [List.cons_append, turns, turns, leftAfter, ih, List.cons_append]

theorem leftAfter_append (left : Int) (front back : List Offer) :
    leftAfter targets context left (front ++ back) =
      leftAfter targets context (leftAfter targets context left front) back := by
  induction front generalizing left with
  | nil => rfl
  | cons offer rest ih => rw [List.cons_append, leftAfter, leftAfter, ih]

theorem leftAfter_bounds (targets : TargetsByPromotion) (context : DiscountContext) {left : Int}
    (nonneg : 0 ≤ left) (offers : List Offer) :
    0 ≤ leftAfter targets context left offers ∧
      leftAfter targets context left offers ≤ left := by
  induction offers generalizing left with
  | nil => exact ⟨nonneg, le_refl left⟩
  | cons offer rest ih =>
      have given := Turn.result_bounds targets context ⟨offer, left⟩ nonneg
      have upper : (Turn.result ⟨offer, left⟩ targets context).discountCents ≤ left := given.2
      have lower : 0 ≤ (Turn.result ⟨offer, left⟩ targets context).discountCents := given.1
      have later := ih (sub_nonneg.mpr upper)
      rw [leftAfter]
      omega

/-- Each turn comes after a prefix of the list, and meets what this leaves. -/
theorem mem_turns {left : Int} {offers : List Offer} {turn : Turn} :
    turn ∈ turns targets context left offers ↔
      ∃ before after, offers = before ++ turn.offer :: after ∧
        turn.left = leftAfter targets context left before := by
  induction offers generalizing left with
  | nil => simp [turns]
  | cons offer rest ih =>
      rw [turns, List.mem_cons, ih]
      constructor
      · rintro (rfl | ⟨before, after, rfl, same⟩)
        · exact ⟨[], rest, rfl, rfl⟩
        · exact ⟨offer :: before, after, rfl, same⟩
      · rintro ⟨before, after, split_, same⟩
        cases before with
        | nil =>
            injection split_ with head _
            left
            rw [head]
            cases turn
            exact congrArg _ same
        | cons first others =>
            injection split_ with head tail
            subst head
            exact .inr ⟨others, after, tail, same⟩

theorem offer_mem_of_turns {left : Int} {offers : List Offer} {turn : Turn}
    (played : turn ∈ turns targets context left offers) : turn.offer ∈ offers := by
  rcases mem_turns.mp played with ⟨before, after, split_, -⟩
  rw [split_]
  exact List.mem_append_right _ List.mem_cons_self

/-- What a list of turns adds to the automatic promotions applied so far. -/
structure Stacks (targets : TargetsByPromotion) (context : DiscountContext)
    (outcome last : AutoOutcome) (played : List Turn) : Prop where
  freeShipping : last.freeShipping =
    (outcome.freeShipping || played.any fun turn => (turn.result targets context).freeShipping)
  applied : last.applied =
    outcome.applied ++ (played.filter fun turn => turn.applies targets context).map Turn.id
  rejected : last.rejected =
    outcome.rejected ++ (played.filter fun turn => !turn.applies targets context).map fun turn =>
      (turn.id, noSavings (turn.result targets context))

theorem applyAuto_stacks (targets : TargetsByPromotion) (context : DiscountContext)
    (outcome : AutoOutcome) (turn : Turn) :
    Stacks targets context outcome
      (applyAuto outcome turn.id (turn.result targets context)) [turn] := by
  rw [applyAuto]
  split
  · rename_i nothing
    have idle : turn.applies targets context = false := by
      simp [Turn.applies, nothing.2, nothing.1]
    constructor <;> simp [idle]
  · rename_i something
    have active : turn.applies targets context = true := by
      simp only [Turn.applies, Bool.or_eq_true, decide_eq_true_eq]
      by_contra none_
      rw [not_or, not_lt, Bool.not_eq_true] at none_
      exact something none_
    constructor <;> simp [active]

theorem Stacks.cons {outcome mid last : AutoOutcome} {turn : Turn} {later : List Turn}
    (here : Stacks targets context outcome mid [turn])
    (there : Stacks targets context mid last later) :
    Stacks targets context outcome last (turn :: later) := by
  constructor
  · rw [there.freeShipping, here.freeShipping]
    simp [Bool.or_assoc]
  · rw [there.applied, here.applied, List.append_assoc, ← List.map_append, ← List.filter_append]
    rfl
  · rw [there.rejected, here.rejected, List.append_assoc, ← List.map_append, ← List.filter_append]
    rfl

theorem applyAuto_running (outcome : AutoOutcome) (id : UUID) {result : DiscountResult}
    (nonneg : 0 ≤ result.discountCents) :
    (applyAuto outcome id result).running = outcome.running + result.discountCents := by
  rw [applyAuto]
  split
  · simp only
    omega
  · rfl

theorem stackAutos_turns {offers : List Offer} (legible : ∀ offer ∈ offers, offer.Legible targets)
    {codeDiscount : Int} (outcome : AutoOutcome)
    (within : codeDiscount + outcome.running ≤ context.subtotalCents) :
    ∃ last, stackAutos targets context codeDiscount outcome offers = .ok last ∧
      Stacks targets context outcome last
        (turns targets context (context.subtotalCents - codeDiscount - outcome.running) offers) := by
  induction offers generalizing outcome with
  | nil =>
      refine ⟨outcome, rfl, ?_⟩
      constructor <;> simp [turns]
  | cons offer rest ih =>
      set left := context.subtotalCents - codeDiscount - outcome.running with hleft
      have nonneg : 0 ≤ left := by omega
      have narrowed : remainingContext context codeDiscount outcome.running =
          Turn.narrowed ⟨offer, left⟩ context := by
        simp only [remainingContext, Turn.narrowed, ← hleft]
        rw [max_eq_right nonneg]
      have evaluated := (legible offer List.mem_cons_self).evaluate (Turn.narrowed ⟨offer, left⟩ context)
      have given := Turn.result_bounds targets context ⟨offer, left⟩ nonneg
      set result := offer.result targets (Turn.narrowed ⟨offer, left⟩ context) with hresult
      have upper : result.discountCents ≤ left := given.2
      have running : (applyAuto outcome offer.id result).running =
          outcome.running + result.discountCents := applyAuto_running outcome offer.id given.1
      have step := applyAuto_stacks targets context outcome ⟨offer, left⟩
      have room : codeDiscount + (applyAuto outcome offer.id result).running ≤
          context.subtotalCents := by omega
      rcases ih (fun o member => legible o (List.mem_cons_of_mem _ member)) _ room with
        ⟨last, later, rest_⟩
      refine ⟨last, ?_, ?_⟩
      · rw [stackAutos, narrowed, evaluated]
        exact later
      · rw [turns]
        apply step.cons
        have same : context.subtotalCents - codeDiscount -
            (applyAuto outcome offer.id result).running =
            left - (Turn.result ⟨offer, left⟩ targets context).discountCents := by
          rw [running]
          change _ = left - result.discountCents
          omega
        rw [← same]
        exact rest_

theorem legible_of_stackAutos {codeDiscount : Int} {offers : List Offer}
    {outcome last : AutoOutcome}
    (ok : stackAutos targets context codeDiscount outcome offers = .ok last) :
    ∀ offer ∈ offers, offer.Legible targets := by
  induction offers generalizing outcome with
  | nil => exact fun offer member => absurd member List.not_mem_nil
  | cons head rest ih =>
      rcases bind_eq_ok.mp ok with ⟨result, evaluated, ok⟩
      intro offer member
      rcases List.mem_cons.mp member with rfl | later
      · exact Offer.legible_of_evaluate evaluated
      · exact ih ok offer later

end Turns

section Total
variable {promotions : List Promotion} {context : DiscountContext} {targets : TargetsByPromotion}

/-- What the contest over the codes comes to. -/
def codeContest (promotions : List Promotion) (context : DiscountContext)
    (targets : TargetsByPromotion) : CodeOutcome :=
  codeOutcome ((splitBySurface promotions).codes.map fun offer =>
    (offer, offer.result targets context))

/-- The turns of the automatic promotions in `calculate_total`. -/
def autoTurns (promotions : List Promotion) (context : DiscountContext)
    (targets : TargetsByPromotion) : List Turn :=
  turns targets context
    (context.subtotalCents - (codeContest promotions context targets).discount)
    (keptOf targets context (splitBySurface promotions).autos)

/-- The ids that the targets of the promotions list can be read. -/
def AllLegible (promotions : List Promotion) (targets : TargetsByPromotion) : Prop :=
  ∀ offer ∈ (splitBySurface promotions).codes ++ (splitBySurface promotions).autos,
    offer.Legible targets

/-- A total as the turns make it. -/
structure TotalOf (promotions : List Promotion) (context : DiscountContext)
    (targets : TargetsByPromotion) (result : DiscountTotalResult) : Prop where
  codeDiscount : result.codeDiscountCents = (codeContest promotions context targets).discount
  freeShipping : result.freeShipping =
    ((codeContest promotions context targets).freeShipping ||
      (autoTurns promotions context targets).any fun turn =>
        (turn.result targets context).freeShipping)
  applied : result.appliedPromotionIds = (codeContest promotions context targets).applied ++
    ((autoTurns promotions context targets).filter fun turn =>
      turn.applies targets context).map Turn.id
  rejected : ∃ losers : List (UUID × String), (∀ loss ∈ losers, loss.2 = anotherTier) ∧
    result.rejected =
      (splitBySurface promotions).rejected ++ (codeContest promotions context targets).rejected ++
        losers ++ ((autoTurns promotions context targets).filter fun turn =>
          !turn.applies targets context).map fun turn =>
            (turn.id, noSavings (turn.result targets context))

theorem legible_of_calculateTotal {result : DiscountTotalResult}
    (ok : calculateTotal promotions context targets = .ok result) :
    AllLegible promotions targets := by
  rcases bind_eq_ok.mp ok with ⟨results, evaluated, ok⟩
  rcases bind_eq_ok.mp ok with ⟨rivalry, contest, ok⟩
  rcases bind_eq_ok.mp ok with ⟨stacked, stack, -⟩
  intro offer member
  rcases List.mem_append.mp member with code | auto
  · exact legible_of_evaluateAll evaluated offer code
  · exact legible_of_resolve contest (legible_of_stackAutos stack) offer auto

theorem codes_distinct (distinct : (promotions.map Promotion.id).Nodup) :
    ((splitBySurface promotions).codes.map Offer.id).Nodup := by
  have all := ((splitBySurface_spec promotions).reported.nodup_iff).mpr distinct
  exact List.Nodup.of_append_right (List.Nodup.of_append_left all)

theorem autos_distinct (distinct : (promotions.map Promotion.id).Nodup) :
    ((splitBySurface promotions).autos.map Offer.id).Nodup := by
  have all := ((splitBySurface_spec promotions).reported.nodup_iff).mpr distinct
  exact List.Nodup.of_append_right all

theorem trimOverflow_keeps (context : DiscountContext) (codeDiscount : Int)
    (outcome : AutoOutcome) :
    (trimOverflow context codeDiscount outcome).freeShipping = outcome.freeShipping ∧
      (trimOverflow context codeDiscount outcome).applied = outcome.applied ∧
        (trimOverflow context codeDiscount outcome).rejected = outcome.rejected := by
  rw [trimOverflow]
  simp only
  split <;> exact ⟨rfl, rfl, rfl⟩

/-- The total, told by the contest over the codes and by the turns. -/
theorem calculateTotal_turns (distinct : (promotions.map Promotion.id).Nodup)
    (subtotal : 0 ≤ context.subtotalCents) (legible : AllLegible promotions targets) :
    ∃ result, calculateTotal promotions context targets = .ok result ∧
      TotalOf promotions context targets result := by
  have evaluated := evaluateAll_eq context fun offer member =>
    legible offer (List.mem_append_left _ member)
  have autos : ∀ offer ∈ (splitBySurface promotions).autos, offer.Legible targets :=
    fun offer member => legible offer (List.mem_append_right _ member)
  rcases resolve_kept context (autos_distinct distinct) autos with
    ⟨losers, reasons, contest⟩
  have keeps : ∀ offer ∈ keptOf targets context (splitBySurface promotions).autos,
      offer.Legible targets := fun offer member => autos offer (List.mem_filter.mp member).1
  have report := codeOutcome_report subtotal (codes_distinct distinct) evaluated
  have within : (codeContest promotions context targets).discount + 0 ≤ context.subtotalCents := by
    rw [add_zero]
    exact report.bounded
  rcases stackAutos_turns keeps
    { byPromotion := codeEntries (codeContest promotions context targets) } within with ⟨last, stack, played⟩
  rw [sub_zero] at played
  rcases trimOverflow_keeps context (codeContest promotions context targets).discount last with
    ⟨shipping, applied, rejected⟩
  refine ⟨_, bind_eq_ok.mpr ⟨_, evaluated, bind_eq_ok.mpr ⟨_, contest,
    bind_eq_ok.mpr ⟨last, stack, rfl⟩⟩⟩, ?_⟩
  constructor
  · rfl
  · change (_ || (trimOverflow context (codeContest promotions context targets).discount
      last).freeShipping) = _
    rw [shipping, played.freeShipping, Bool.false_or]
    rfl
  · change _ ++ (trimOverflow context (codeContest promotions context targets).discount
      last).applied = _
    rw [applied, played.applied, List.nil_append]
    rfl
  · refine ⟨losers, reasons, ?_⟩
    change _ ++ (trimOverflow context (codeContest promotions context targets).discount
      last).rejected = _
    rw [rejected, played.rejected, List.nil_append]
    rfl

/-- What `calculate_total` returns, where it returns. -/
theorem totalOf_calculateTotal {result : DiscountTotalResult}
    (distinct : (promotions.map Promotion.id).Nodup) (subtotal : 0 ≤ context.subtotalCents)
    (ok : calculateTotal promotions context targets = .ok result) :
    TotalOf promotions context targets result := by
  rcases calculateTotal_turns distinct subtotal (legible_of_calculateTotal ok) with
    ⟨other, same, total⟩
  rw [ok] at same
  cases same
  exact total

end Total

end Numu.Promotions
