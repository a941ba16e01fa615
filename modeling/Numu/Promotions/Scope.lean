import Mathlib.Algebra.BigOperators.Group.List.Basic
import Mathlib.Algebra.Order.BigOperators.Group.List
import Numu.Promotions.Accounting

/-! Promotions scoped to some of the lines of a cart. -/

namespace Numu.Promotions
open Numu.Orders (UUID)
open Numu.Outcome (bind_eq_ok)

/-- An item of a stored cart. -/
structure CartItem where
  productId : UUID
  quantity : Nat := 1
  unitPrice : Nat := 0
  categoryId : Option UUID := none
  quantity_pos : 1 ≤ quantity := by first | exact Numu.Orders.one_piece | decide

def CartItem.line (item : CartItem) : CartLine :=
  ⟨item.productId, item.quantity, item.unitPrice, item.categoryId⟩

/-- The context that the cart's use case builds. -/
def cartContext (items : List CartItem) (customerId : Option UUID) : DiscountContext where
  subtotalCents := linesValue (items.map CartItem.line)
  lineItems := items.map CartItem.line
  customerId := customerId

/-- A filter that lets only lines of the scope through. -/
def Within (scope : LineFilter) : Option LineFilter → Prop
  | none => False
  | some accepts => ∀ line, accepts line = true → scope line = true

/-- The lines that the rule discounts are in the scope. -/
def DiscountRule.ScopedTo (rule : DiscountRule) (scope : LineFilter)
    (buyFilter getFilter : Option LineFilter) (legFilters : Option (List (Option LineFilter))) :
    Prop :=
  match rule.kind with
  | .percentage | .fixed | .multibuy => Within scope buyFilter
  | .bogo => Within scope getFilter
  | .bundle =>
      ∀ index < rule.bundleLegs.length, Within scope (((legFilters.getD [])[index]?).join)
  | .freeShipping => True
  | .tiered => False

def ScopedPromotion (scope : LineFilter) (targets : TargetsByPromotion) (promo : Promotion) :
    Prop :=
  ∀ rule, promo.discountRule = some rule →
    ∀ filters legFilters, buildLineFilters promo targets = .ok filters →
      buildLegFilters promo rule targets = .ok legFilters →
        rule.ScopedTo scope filters.1 filters.2 legFilters

/-- No line of the cart is worth less than nothing. -/
def Sellable (lines : List CartLine) : Prop :=
  ∀ line ∈ lines, 0 ≤ line.quantity ∧ 0 ≤ line.unitPriceCents

theorem Sellable.filter {lines : List CartLine} (sellable : Sellable lines) (keep : LineFilter) :
    Sellable (lines.filter keep) :=
  fun line member => sellable line (List.mem_filter.mp member).1

theorem linesValue_cons (line : CartLine) (lines : List CartLine) :
    linesValue (line :: lines) = line.unitPriceCents * line.quantity + linesValue lines := by
  simp [linesValue]

theorem linesValue_nonneg {lines : List CartLine} (sellable : Sellable lines) :
    0 ≤ linesValue lines := by
  induction lines with
  | nil => exact le_refl 0
  | cons line rest ih =>
      rcases sellable line List.mem_cons_self with ⟨quantity, price⟩
      have here := mul_nonneg price quantity
      have later := ih fun other member => sellable other (List.mem_cons_of_mem _ member)
      rw [linesValue_cons]
      omega

theorem linesValue_perm {first second : List CartLine} (same : first.Perm second) :
    linesValue first = linesValue second :=
  (same.map _).sum_eq

/-- A narrower set of lines is worth no more. -/
theorem linesValue_filter_mono {lines : List CartLine} (sellable : Sellable lines)
    {narrow wide : LineFilter} (inside : ∀ line, narrow line = true → wide line = true) :
    linesValue (lines.filter narrow) ≤ linesValue (lines.filter wide) := by
  induction lines with
  | nil => exact le_refl _
  | cons line rest ih =>
      rcases sellable line List.mem_cons_self with ⟨quantity, price⟩
      have here := mul_nonneg price quantity
      have later := ih fun other member => sellable other (List.mem_cons_of_mem _ member)
      cases hit : narrow line with
      | true =>
          rw [List.filter_cons_of_pos hit, List.filter_cons_of_pos (inside line hit),
            linesValue_cons, linesValue_cons]
          omega
      | false =>
          rw [List.filter_cons_of_neg (by simp [hit])]
          cases kept : wide line with
          | true =>
              rw [List.filter_cons_of_pos kept, linesValue_cons]
              omega
          | false =>
              rw [List.filter_cons_of_neg (by simp [kept])]
              exact later

theorem unitsValue_append (front back : List CartUnit) :
    unitsValue (front ++ back) = unitsValue front + unitsValue back := by
  simp [unitsValue]

theorem unitsValue_nonneg {units : List CartUnit} (priced : ∀ unit ∈ units, 0 ≤ unit.priceCents) :
    0 ≤ unitsValue units := by
  apply List.sum_nonneg
  intro price member
  rcases List.mem_map.mp member with ⟨unit, listed, rfl⟩
  exact priced unit listed

/-- The units of the lines, before they are sorted. -/
def unitsOf (lines : List CartLine) : List CartUnit :=
  lines.flatMap fun line =>
    List.replicate line.quantity.toNat ⟨line.unitPriceCents, line.productId, line⟩

theorem expandUnits_perm (lines : List CartLine) (filter : Option LineFilter) :
    (expandUnits lines filter).Perm (unitsOf (eligible filter lines)) :=
  List.perm_insertionSort _ _

theorem unitsValue_perm {first second : List CartUnit} (same : first.Perm second) :
    unitsValue first = unitsValue second :=
  (same.map _).sum_eq

theorem mem_unitsOf {lines : List CartLine} {unit : CartUnit} (member : unit ∈ unitsOf lines) :
    unit.line ∈ lines ∧ unit.priceCents = unit.line.unitPriceCents := by
  rcases List.mem_flatMap.mp member with ⟨line, listed, copied⟩
  rw [List.eq_of_mem_replicate copied]
  exact ⟨listed, rfl⟩

theorem unitsOf_filter (lines : List CartLine) (scope : LineFilter) :
    (unitsOf lines).filter (fun unit => scope unit.line) = unitsOf (lines.filter scope) := by
  induction lines with
  | nil => rfl
  | cons line rest ih =>
      have here : unitsOf (line :: rest) =
          List.replicate line.quantity.toNat ⟨line.unitPriceCents, line.productId, line⟩ ++
            unitsOf rest := List.flatMap_cons
      rw [here, List.filter_append, ih, List.filter_replicate]
      cases kept : scope line with
      | true => simp [kept, unitsOf]
      | false => simp [kept]

theorem unitsValue_unitsOf {lines : List CartLine} (sellable : Sellable lines) :
    unitsValue (unitsOf lines) = linesValue lines := by
  induction lines with
  | nil => rfl
  | cons line rest ih =>
      rcases sellable line List.mem_cons_self with ⟨quantity, -⟩
      have later := ih fun other member => sellable other (List.mem_cons_of_mem _ member)
      have here : unitsOf (line :: rest) =
          List.replicate line.quantity.toNat ⟨line.unitPriceCents, line.productId, line⟩ ++
            unitsOf rest := List.flatMap_cons
      rw [here, unitsValue_append, later, linesValue_cons]
      simp [unitsValue, Int.toNat_of_nonneg quantity, mul_comm]

theorem expandUnits_priced {lines : List CartLine} (sellable : Sellable lines)
    (filter : Option LineFilter) : ∀ unit ∈ expandUnits lines filter, 0 ≤ unit.priceCents := by
  intro unit member
  rcases mem_unitsOf ((expandUnits_perm lines filter).mem_iff.mp member) with ⟨listed, price⟩
  rw [price]
  cases filter with
  | none => exact (sellable unit.line listed).2
  | some accepts => exact (sellable unit.line (List.mem_filter.mp listed).1).2

namespace DiscountRule

theorem cap_le (rule : DiscountRule) {raw value : Int} (context : DiscountContext)
    (nonneg : 0 ≤ value) (bounded : raw ≤ value) : rule.cap raw context ≤ value := by
  have floored : max 0 raw ≤ value := max_le nonneg bounded
  unfold cap
  cases rule.maxDiscountCents with
  | none => exact (min_le_left _ _).trans floored
  | some limit => exact (min_le_left _ _).trans ((min_le_left _ _).trans floored)

theorem percent_le {base : Int} (nonneg : 0 ≤ base) {percent : Nat} (bounded : percent ≤ 100) :
    base * percent / 100 ≤ base := by
  apply Int.ediv_le_of_le_mul (by decide)
  exact mul_le_mul_of_nonneg_left (by exact_mod_cast bounded) nonneg

theorem giveUnits_le {percent : Nat} (bounded : percent ≤ 100) {lines : List CartLine}
    (sellable : Sellable lines) (remaining : Int) :
    (giveUnits percent remaining lines).1 ≤ linesValue lines := by
  induction lines generalizing remaining with
  | nil => exact le_refl 0
  | cons line rest ih =>
      rcases sellable line List.mem_cons_self with ⟨quantity, price⟩
      have others : Sellable rest := fun other member =>
        sellable other (List.mem_cons_of_mem _ member)
      rw [giveUnits]
      split
      · exact linesValue_nonneg sellable
      · rename_i left_
        have off := percent_le price bounded
        have share : line.unitPriceCents * percent / 100 * min line.quantity remaining ≤
            line.unitPriceCents * line.quantity :=
          calc
            _ ≤ line.unitPriceCents * min line.quantity remaining := by
              apply mul_le_mul_of_nonneg_right off
              exact le_min quantity (by omega)
            _ ≤ line.unitPriceCents * line.quantity :=
              mul_le_mul_of_nonneg_left (min_le_left _ _) price
        have later := ih others (remaining - min line.quantity remaining)
        rw [linesValue_cons]
        simp only
        omega

/-- The pick of the best tier saves less than its units are worth. -/
theorem offerTier_le {units : List CartUnit} {best : Option TierPick} {tier : Nat × Nat}
    (held : ∀ pick ∈ best, pick.saving ≤ unitsValue (units.take pick.quantity)) :
    ∀ pick ∈ offerTier units best tier, pick.saving ≤ unitsValue (units.take pick.quantity) := by
  intro pick picked
  rw [offerTier] at picked
  split at picked
  · exact held pick picked
  · simp only at picked
    have fresh : ∀ p ∈ (some ⟨Binary64.trueDiv (unitsValue (units.take tier.1) - tier.2).toNat tier.1,
        unitsValue (units.take tier.1) - tier.2, tier.1⟩ : Option TierPick),
        p.saving ≤ unitsValue (units.take p.quantity) := by
      intro p same
      cases same
      simp only
      omega
    split at picked
    · exact held pick picked
    · split at picked
      · exact fresh pick picked
      · split at picked
        · exact fresh pick picked
        · exact held pick picked

theorem bestTier_le {tiers : List (Nat × Nat)} {units : List CartUnit} {pick : TierPick}
    (picked : bestTier tiers units = some pick) :
    pick.saving ≤ unitsValue (units.take pick.quantity) := by
  have fold (best : Option TierPick)
      (held : ∀ p ∈ best, p.saving ≤ unitsValue (units.take p.quantity)) :
      ∀ p ∈ tiers.foldl (offerTier units) best, p.saving ≤ unitsValue (units.take p.quantity) := by
    clear picked
    induction tiers generalizing best with
    | nil => exact held
    | cons tier rest ih =>
        rw [List.foldl_cons]
        exact ih _ (offerTier_le held)
  exact fold none (fun _ absent => by cases absent) pick picked

theorem multibuyGroups_le {tiers : List (Nat × Nat)} {units : List CartUnit}
    (priced : ∀ unit ∈ units, 0 ≤ unit.priceCents) (fuel : Nat) :
    ((multibuyGroups tiers fuel units).map MultibuyGroup.saving).sum ≤ unitsValue units := by
  induction fuel generalizing units with
  | zero => exact unitsValue_nonneg priced
  | succ fuel ih =>
      rw [multibuyGroups]
      cases picked : bestTier tiers units with
      | none => exact unitsValue_nonneg priced
      | some pick =>
          have here := bestTier_le picked
          have later := ih fun unit member =>
            priced unit (List.mem_of_mem_drop (i := pick.quantity) member)
          have whole := unitsValue_append (units.take pick.quantity) (units.drop pick.quantity)
          rw [List.take_append_drop] at whole
          simp only [List.map_cons, List.sum_cons]
          omega

theorem takeUnits_spec (fits : CartUnit → Bool) (n : Nat) (pool : List CartUnit) :
    ((takeUnits fits n pool).1 ++ (takeUnits fits n pool).2).Perm pool ∧
      ∀ unit ∈ (takeUnits fits n pool).1, fits unit = true := by
  induction pool generalizing n with
  | nil => cases n <;> simp [takeUnits]
  | cons unit pool ih =>
      cases n with
      | zero => simp [takeUnits]
      | succ n =>
          rw [takeUnits]
          split
          · rename_i hit
            rcases ih n with ⟨perm, fit⟩
            refine ⟨perm.cons unit, ?_⟩
            intro other member
            rcases List.mem_cons.mp member with rfl | member
            · exact hit
            · exact fit other member
          · rcases ih (n + 1) with ⟨perm, fit⟩
            exact ⟨List.perm_middle.trans (perm.cons unit), fit⟩

theorem formBundle_spec {scope : LineFilter} {legs : List (BundleLeg × Option LineFilter)}
    (inScope : ∀ leg ∈ legs, Within scope leg.2) {pool chosen rest : List CartUnit}
    (formed : formBundle legs pool = some (chosen, rest)) :
    (chosen ++ rest).Perm pool ∧ ∀ unit ∈ chosen, scope unit.line = true := by
  induction legs generalizing pool chosen with
  | nil =>
      cases formed
      simp
  | cons leg legs ih =>
      simp only [formBundle] at formed
      split at formed
      · rcases takeUnits_spec (legFits leg.2) leg.1.quantity pool with ⟨taken, fit⟩
        rcases Option.map_eq_some_iff.mp formed with ⟨⟨later, last⟩, recursive, same⟩
        cases same
        rcases ih (fun l member => inScope l (List.mem_cons_of_mem _ member)) recursive with
          ⟨perm, inside⟩
        constructor
        · rw [List.append_assoc]
          exact (perm.append_left _).trans taken
        · intro unit member
          rcases List.mem_append.mp member with here | there
          · have within := inScope leg List.mem_cons_self
            have accepted := fit unit here
            cases filter : leg.2 with
            | none => simp [filter, Within] at within
            | some accepts =>
                rw [filter] at within accepted
                exact within unit.line accepted
          · exact inside unit there
      · cases formed

theorem formBundles_le {scope : LineFilter} {legs : List (BundleLeg × Option LineFilter)}
    (inScope : ∀ leg ∈ legs, Within scope leg.2) (price : Nat) {pool : List CartUnit}
    (priced : ∀ unit ∈ pool, 0 ≤ unit.priceCents) (fuel : Nat) :
    ((formBundles legs price fuel pool).map fun chosen => unitsValue chosen - price).sum ≤
      unitsValue (pool.filter fun unit => scope unit.line) := by
  have worth (units : List CartUnit) (known : ∀ unit ∈ units, 0 ≤ unit.priceCents) :
      0 ≤ unitsValue (units.filter fun unit => scope unit.line) :=
    unitsValue_nonneg fun unit member => known unit (List.mem_filter.mp member).1
  induction fuel generalizing pool with
  | zero => exact worth pool priced
  | succ fuel ih =>
      rw [formBundles]
      cases formed : formBundle legs pool with
      | none => exact worth pool priced
      | some pair =>
          rcases pair with ⟨chosen, rest⟩
          rcases formBundle_spec inScope formed with ⟨perm, inside⟩
          simp only
          split
          · exact worth pool priced
          · have remaining : ∀ unit ∈ rest, 0 ≤ unit.priceCents := by
              intro unit member
              exact priced unit (perm.subset (List.mem_append_right _ member))
            have later := ih remaining
            have split_ := unitsValue_perm (perm.filter fun unit => scope unit.line)
            rw [List.filter_append, List.filter_eq_self.mpr inside, unitsValue_append] at split_
            simp only [List.map_cons, List.sum_cons]
            omega

theorem eligible_le {lines : List CartLine} (sellable : Sellable lines) {scope : LineFilter}
    {filter : Option LineFilter} (within : Within scope filter) :
    linesValue (eligible filter lines) ≤ linesValue (lines.filter scope) := by
  cases filter with
  | none => cases within
  | some accepts => exact linesValue_filter_mono sellable within

theorem eligible_sellable {lines : List CartLine} (sellable : Sellable lines)
    (filter : Option LineFilter) : Sellable (eligible filter lines) := by
  cases filter with
  | none => exact sellable
  | some accepts => exact sellable.filter accepts

theorem scopedBaseCents_eq {context : DiscountContext} (filled : context.lineItems ≠ [])
    {scope : LineFilter} {filter : Option LineFilter} (within : Within scope filter) :
    scopedBaseCents context filter = (linesValue (eligible filter context.lineItems), true) := by
  cases filter with
  | none => cases within
  | some accepts => simp [scopedBaseCents, filled, eligible]

theorem bogo_le (rule : DiscountRule) {context : DiscountContext}
    (sellable : Sellable context.lineItems) {scope : LineFilter}
    {buyFilter getFilter : Option LineFilter} (within : Within scope getFilter) :
    (rule.bogo context buyFilter getFilter).discountCents ≤
      linesValue (context.lineItems.filter scope) := by
  have worth := linesValue_nonneg (sellable.filter scope)
  have percent : rule.getDiscountPercent.getD 100 ≤ 100 := by
    cases given : rule.getDiscountPercent with
    | none => exact le_refl 100
    | some percent => exact rule.getDiscountPercent_le percent given
  set sorted := context.lineItems.insertionSort fun a b => a.unitPriceCents ≤ b.unitPriceCents
    with hsorted
  have perm : sorted.Perm context.lineItems := List.perm_insertionSort _ _
  have sold : Sellable sorted := fun line member => sellable line (perm.mem_iff.mp member)
  simp only [bogo, ← hsorted]
  split
  · exact worth
  · apply rule.cap_le context worth
    apply (giveUnits_le percent (eligible_sellable sold getFilter) _).trans
    rw [← linesValue_perm (perm.filter scope)]
    exact eligible_le sold within

theorem multibuy_le (rule : DiscountRule) {context : DiscountContext}
    (sellable : Sellable context.lineItems) {scope : LineFilter} {filter : Option LineFilter}
    (within : Within scope filter) :
    (rule.multibuy context filter).discountCents ≤
      linesValue (context.lineItems.filter scope) := by
  have worth := linesValue_nonneg (sellable.filter scope)
  have units : unitsValue (expandUnits context.lineItems filter) ≤
      linesValue (context.lineItems.filter scope) := by
    rw [unitsValue_perm (expandUnits_perm _ _),
      unitsValue_unitsOf (eligible_sellable sellable filter)]
    exact eligible_le sellable within
  simp only [multibuy]
  split
  · exact worth
  · split
    · exact worth
    · apply rule.cap_le context worth
      exact (multibuyGroups_le (expandUnits_priced sellable filter) _).trans units

theorem bundle_le (rule : DiscountRule) {context : DiscountContext}
    (sellable : Sellable context.lineItems) {scope : LineFilter}
    {legFilters : Option (List (Option LineFilter))}
    (within : ∀ index < rule.bundleLegs.length,
      Within scope (((legFilters.getD [])[index]?).join)) :
    (rule.bundle context legFilters).discountCents ≤
      linesValue (context.lineItems.filter scope) := by
  have worth := linesValue_nonneg (sellable.filter scope)
  have inScope : ∀ leg ∈ rule.bundleLegs.mapIdx fun index leg =>
      (leg, (((legFilters.getD [])[index]?).join)), Within scope leg.2 := by
    intro leg member
    rcases List.mem_mapIdx.mp member with ⟨index, inRange, rfl⟩
    exact within index inRange
  have units : unitsValue ((expandUnits context.lineItems none).filter
      fun unit => scope unit.line) = linesValue (context.lineItems.filter scope) := by
    rw [unitsValue_perm ((expandUnits_perm _ _).filter _), eligible, unitsOf_filter,
      unitsValue_unitsOf (sellable.filter scope)]
  simp only [bundle]
  split
  · exact worth
  · apply rule.cap_le context worth
    rw [← units]
    exact formBundles_le inScope _ (expandUnits_priced sellable none) _

/-- A rule never takes off more than the lines of its scope are worth. -/
theorem calculate_le_scope (rule : DiscountRule) {context : DiscountContext}
    (sellable : Sellable context.lineItems) (nonneg : 0 ≤ context.subtotalCents)
    (bounded : context.subtotalCents ≤ linesValue context.lineItems) {scope : LineFilter}
    {buyFilter getFilter : Option LineFilter} {legFilters : Option (List (Option LineFilter))}
    (scopedTo : rule.ScopedTo scope buyFilter getFilter legFilters) :
    (rule.calculate context buyFilter getFilter legFilters).discountCents ≤
      linesValue (context.lineItems.filter scope) := by
  have worth := linesValue_nonneg (sellable.filter scope)
  by_cases filled : context.lineItems = []
  · have capped := (rule.calculate_bounds nonneg buyFilter getFilter legFilters).2
    rw [filled] at bounded
    exact capped.trans (bounded.trans (by rw [filled]; exact le_refl _))
  · rw [calculate]
    split
    · exact worth
    · cases kind : rule.kind with
      | freeShipping => exact worth
      | percentage =>
          simp only [ScopedTo, kind] at scopedTo
          have base := eligible_le sellable scopedTo
          have percent : rule.valuePercent.getD 0 ≤ 100 := by
            cases given : rule.valuePercent with
            | none => decide
            | some percent => exact rule.valuePercent_le percent given
          simp only [percentage, scopedBaseCents_eq filled scopedTo]
          apply rule.cap_le context worth
          have priced := linesValue_nonneg (eligible_sellable sellable buyFilter)
          exact (percent_le priced percent).trans base
      | fixed =>
          simp only [ScopedTo, kind] at scopedTo
          simp only [fixed, scopedBaseCents_eq filled scopedTo, if_true]
          apply rule.cap_le context worth
          exact (min_le_right _ _).trans (eligible_le sellable scopedTo)
      | bogo =>
          simp only [ScopedTo, kind] at scopedTo
          exact rule.bogo_le sellable scopedTo
      | tiered =>
          simp only [ScopedTo, kind] at scopedTo
      | multibuy =>
          simp only [ScopedTo, kind] at scopedTo
          exact rule.multibuy_le sellable scopedTo
      | bundle =>
          simp only [ScopedTo, kind] at scopedTo
          exact rule.bundle_le sellable scopedTo

end DiscountRule

/-- An amount that a promotion's own rule gave over what was left of the cart. -/
structure Given (promotions : List Promotion) (targets : TargetsByPromotion)
    (context : DiscountContext) (id : UUID) (amount : Int) : Prop where
  source : ∃ offer : Offer, offer.id = id ∧ offer.promo ∈ promotions ∧
    ∃ rest : DiscountContext, rest.lineItems = context.lineItems ∧ 0 ≤ rest.subtotalCents ∧
      rest.subtotalCents ≤ context.subtotalCents ∧
        ∃ result, offer.evaluate targets rest = .ok result ∧ result.discountCents = amount

section Entries
variable {promotions : List Promotion} {targets : TargetsByPromotion} {context : DiscountContext}

theorem Stacked.remaining {codeDiscount : Int} {start : Table UUID Int} {outcome : AutoOutcome}
    (stacked : Stacked context codeDiscount start outcome) (code : 0 ≤ codeDiscount) :
    (remainingContext context codeDiscount outcome.running).subtotalCents ≤
      context.subtotalCents := by
  have nonneg := stacked.nonneg
  have within := stacked.within
  simp only [remainingContext]
  omega

theorem applyAuto_entry {codeDiscount : Int} {start : Table UUID Int} {outcome : AutoOutcome}
    (stacked : Stacked context codeDiscount start outcome) {id : UUID} {result : DiscountResult}
    (nonneg : 0 ≤ result.discountCents) (fresh : id ∉ outcome.applied)
    (unlisted : start.get? id = none) {other : UUID}
    (applied : other ∈ (applyAuto outcome id result).applied) :
    (other ∈ outcome.applied ∧
        ((applyAuto outcome id result).byPromotion.get? other).getD 0 =
          (outcome.byPromotion.get? other).getD 0) ∨
      (other = id ∧
        ((applyAuto outcome id result).byPromotion.get? other).getD 0 = result.discountCents) := by
  rw [applyAuto] at applied ⊢
  split at applied
  · rename_i rejected
    rw [if_pos rejected]
    exact .inl ⟨applied, rfl⟩
  · rename_i kept
    rw [if_neg kept]
    simp only at applied ⊢
    rcases List.mem_append.mp applied with earlier | here
    · have apart : other ≠ id := fun same => fresh (same ▸ earlier)
      refine .inl ⟨earlier, ?_⟩
      split
      · rw [Table.get?_set, if_neg apart]
      · rfl
    · rw [List.mem_singleton] at here
      subst here
      refine .inr ⟨rfl, ?_⟩
      split
      · rw [Table.get?_set, if_pos rfl, Option.getD_some]
      · have nothing : result.discountCents = 0 := by omega
        rw [stacked.frame other fresh, unlisted, nothing, Option.getD_none]

theorem stackAutos_given {codeDiscount : Int} (code : 0 ≤ codeDiscount) {start : Table UUID Int}
    {offers : List Offer} {outcome last : AutoOutcome}
    (stacked : Stacked context codeDiscount start outcome)
    (distinct : (outcome.applied ++ offers.map Offer.id).Nodup)
    (unlisted : ∀ offer ∈ offers, start.get? offer.id = none)
    (members : ∀ offer ∈ offers, offer.promo ∈ promotions)
    (given : ∀ id ∈ outcome.applied,
      Given promotions targets context id ((outcome.byPromotion.get? id).getD 0))
    (ok : stackAutos targets context codeDiscount outcome offers = .ok last) :
    ∀ id ∈ last.applied, Given promotions targets context id ((last.byPromotion.get? id).getD 0) := by
  induction offers generalizing outcome with
  | nil =>
      cases ok
      exact given
  | cons offer rest ih =>
      rcases bind_eq_ok.mp ok with ⟨result, evaluated, ok⟩
      have bounds := Offer.evaluate_bounds (le_max_left 0 _) evaluated
      have fresh := stackAutos_fresh distinct
      have unlisted_ := unlisted offer List.mem_cons_self
      apply ih (stacked.apply bounds.1 bounds.2 fresh unlisted_)
        (stackAutos_distinct distinct result)
        (fun o member => unlisted o (List.mem_cons_of_mem _ member))
        (fun o member => members o (List.mem_cons_of_mem _ member)) _ ok
      intro id applied
      rcases applyAuto_entry stacked bounds.1 fresh unlisted_ applied with
        ⟨earlier, same⟩ | ⟨rfl, amount⟩
      · rw [same]
        exact given id earlier
      · rw [amount]
        exact ⟨offer, rfl, members offer List.mem_cons_self,
          remainingContext context codeDiscount outcome.running, rfl, le_max_left 0 _,
          stacked.remaining code, result, evaluated, rfl⟩

theorem codeOutcome_given {offers : List Offer} {results : List (Offer × DiscountResult)}
    (nonneg : 0 ≤ context.subtotalCents) (members : ∀ offer ∈ offers, offer.promo ∈ promotions)
    (ok : evaluateAll offers targets context = .ok results) :
    ∀ id ∈ (codeOutcome results).applied,
      Given promotions targets context id (codeOutcome results).discount := by
  rcases evaluateAll_ok ok with ⟨rfl, sound⟩
  intro id applied
  cases results with
  | nil => cases applied
  | cons first rest =>
      have member := bestResult_mem first rest
      rw [codeOutcome] at applied ⊢
      split at applied
      · cases applied
      · rename_i saves
        rw [if_neg saves]
        rw [List.mem_singleton] at applied
        subst applied
        exact ⟨_, rfl, members _ (List.mem_map_of_mem member), context, rfl, nonneg, le_refl _, _,
          sound _ member, rfl⟩

theorem codeOutcome_unapplied (results : List (Offer × DiscountResult))
    (unapplied : (codeOutcome results).applied = []) : (codeOutcome results).discount = 0 := by
  cases results with
  | nil => rfl
  | cons first rest =>
      rw [codeOutcome] at unapplied ⊢
      split at unapplied
      · rename_i nothing
        rw [if_pos nothing]
      · cases unapplied

/-- Every entry is what the promotion's own rule gave, and the entries make up the totals. -/
theorem calculateTotal_given {result : DiscountTotalResult}
    (distinct : (promotions.map Promotion.id).Nodup) (nonneg : 0 ≤ context.subtotalCents)
    (ok : calculateTotal promotions context targets = .ok result) :
    (∀ id ∈ result.appliedPromotionIds, Given promotions targets context id (result.entry id)) ∧
      result.codeDiscountCents + result.automaticDiscountCents =
        (result.appliedPromotionIds.map result.entry).sum := by
  rcases calculateTotal_parts distinct nonneg ok with ⟨results, rivalry, stacked, parts, rfl⟩
  rcases parts.stacked_spec with ⟨stack, -⟩
  have report := parts.report
  have codes : ∀ offer ∈ (splitBySurface promotions).codes, offer.promo ∈ promotions :=
    fun offer member => (parts.split_.codes offer member).1
  have autos : ∀ offer ∈ rivalry.kept, offer.promo ∈ promotions :=
    fun offer member => (parts.split_.autos offer (parts.kept offer member)).1
  have code := codeOutcome_given nonneg codes parts.evaluated
  have auto := stackAutos_given report.nonneg parts.initial (by simpa using parts.keptDistinct)
    parts.unlisted autos (fun _ absent => by cases absent) parts.stack
  have entry : ∀ id ∈ (codeOutcome results).applied,
      (stacked.byPromotion.get? id).getD 0 = (codeOutcome results).discount := by
    intro id applied
    have unstacked : id ∉ stacked.applied := by
      intro also
      have clash := parts.code_surface distinct id applied
      rw [parts.auto_surface distinct id also] at clash
      cases clash
    rw [stack.frame id unstacked, codeEntries_get? report.at_most_one, if_pos applied,
      Option.getD_some]
  rw [trimOverflow_stacked stack]
  constructor
  · intro id applied
    rcases List.mem_append.mp applied with here | there
    · simp only [DiscountTotalResult.entry]
      rw [entry id here]
      exact code id here
    · exact auto id there
  · have codeSum : ((codeOutcome results).applied.map fun id =>
        (stacked.byPromotion.get? id).getD 0).sum = (codeOutcome results).discount := by
      have one := report.at_most_one
      cases applied : (codeOutcome results).applied with
      | nil => exact (codeOutcome_unapplied results applied).symm
      | cons only others =>
          have alone : others = [] := by
            rw [applied, List.length_cons] at one
            exact List.length_eq_zero_iff.mp (by omega)
          have here := entry only (applied ▸ List.mem_cons_self)
          simpa [alone] using here
    change _ = (((codeOutcome results).applied ++ stacked.applied).map fun id =>
      (stacked.byPromotion.get? id).getD 0).sum
    rw [List.map_append, List.sum_append, codeSum, stack.entries]

end Entries

theorem cartContext_sellable (items : List CartItem) (customerId : Option UUID) :
    Sellable (cartContext items customerId).lineItems := by
  intro line member
  rcases List.mem_map.mp member with ⟨item, -, rfl⟩
  exact ⟨Int.natCast_nonneg _, Int.natCast_nonneg _⟩

/-- When all applied promotions are scoped to the same lines, each takes off at most what these
are worth. Stacked they are limited by the cart alone. -/
theorem entry_le_scope (items : List CartItem) (customerId : Option UUID)
    (promotions : List Promotion) (distinct : (promotions.map Promotion.id).Nodup)
    (targets : TargetsByPromotion) (scope : LineFilter) (result : DiscountTotalResult)
    (ok : calculateTotal promotions (cartContext items customerId) targets = .ok result)
    (scoped_ : ∀ promo ∈ promotions, promo.id ∈ result.appliedPromotionIds →
      ScopedPromotion scope targets promo) :
    let value := linesValue ((items.map CartItem.line).filter scope)
    (∀ id ∈ result.appliedPromotionIds, result.entry id ≤ value) ∧
      result.codeDiscountCents + result.automaticDiscountCents ≤
        min (linesValue (items.map CartItem.line)) (result.appliedPromotionIds.length * value) := by
  intro value
  have sellable := cartContext_sellable items customerId
  have nonneg : 0 ≤ (cartContext items customerId).subtotalCents := linesValue_nonneg sellable
  rcases calculateTotal_given distinct nonneg ok with ⟨given, total⟩
  have entries : ∀ id ∈ result.appliedPromotionIds, result.entry id ≤ value := by
    intro id applied
    rcases (given id applied).source with
      ⟨offer, rfl, member, rest, lines, positive, bounded, outcome, evaluated, amount⟩
    rcases bind_eq_ok.mp evaluated with ⟨filters, built, evaluated⟩
    rcases bind_eq_ok.mp evaluated with ⟨legFilters, legs, same⟩
    cases same
    have narrow := scoped_ offer.promo member applied offer.rule offer.has_rule filters legFilters
      built legs
    rw [← amount]
    have sold : Sellable rest.lineItems := by
      rw [lines]
      exact sellable
    have worth : rest.subtotalCents ≤ linesValue rest.lineItems := by
      rw [lines]
      exact bounded
    have bound := offer.rule.calculate_le_scope sold positive worth narrow
    rw [lines] at bound
    exact bound
  refine ⟨entries, le_min ?_ ?_⟩
  · exact (calculateTotal_reconciles distinct nonneg ok).within_subtotal
  · rw [total]
    calc
      _ ≤ (result.appliedPromotionIds.map fun _ => value).sum := by
        exact List.sum_le_sum entries
      _ = result.appliedPromotionIds.length * value := by
        rw [List.map_const', List.sum_replicate, nsmul_eq_mul]

def sixtyOff (id : UUID) : Promotion :=
  { id := id
    surface := .automatic
    discountRule := some (percentOff 60 (by decide)) }

/-- Every promotion targets the bag. -/
def bagOnly : TargetsByPromotion := some fun _ =>
  [{ targetKind := .product
     productIds := ["00000000-0000-0000-0000-000000000001"]
     role := some .buySet }]

/-- A bag worth 1000 and shoes worth 1000. -/
def bagAndShoes : List CartItem :=
  [{ productId := 1, unitPrice := 1000 }, { productId := 2, unitPrice := 1000 }]

def isBag : LineFilter := fun line => line.productId = 1

theorem bagOnly_filters (id : UUID) :
    buildLineFilters (sixtyOff id) bagOnly = .ok (some (allowLines [1] []), none) := rfl

theorem sixtyOff_bagOnly (id : UUID) : ScopedPromotion isBag bagOnly (sixtyOff id) := by
  intro rule given filters legFilters built _
  cases given
  rw [bagOnly_filters] at built
  cases built
  intro line accepted
  cases category : line.categoryId with
  | none => simpa [allowLines, isBag, category] using accepted
  | some id => simpa [allowLines, isBag, category] using accepted

theorem entry_le_scope_bag :
    ∃ result,
      calculateTotal [sixtyOff 101] (cartContext bagAndShoes none) bagOnly = .ok result ∧
        result.appliedPromotionIds = [101] ∧ result.entry 101 ≤ 1000 := by
  refine ⟨_, rfl, rfl, ?_⟩
  have law := entry_le_scope bagAndShoes none [sixtyOff 101] (by decide) bagOnly isBag _ rfl
    (by
      intro promo member _
      rw [List.mem_singleton.mp member]
      exact sixtyOff_bagOnly 101)
  exact law.1 101 List.mem_cons_self

/-- Both promotions take 600 off a bag of 1000: the shoes pay for the rest. -/
theorem two_scoped_overspend :
    ∃ promotions result,
      (∀ promo ∈ promotions, ScopedPromotion isBag bagOnly promo) ∧
        calculateTotal promotions (cartContext bagAndShoes none) bagOnly = .ok result ∧
          linesValue ((bagAndShoes.map CartItem.line).filter isBag) <
            result.codeDiscountCents + result.automaticDiscountCents := by
  refine ⟨[sixtyOff 101, sixtyOff 102], _, ?_, rfl, ?_⟩
  · intro promo member
    rcases List.mem_pair.mp member with rfl | rfl
    · exact sixtyOff_bagOnly 101
    · exact sixtyOff_bagOnly 102
  · decide

end Numu.Promotions
