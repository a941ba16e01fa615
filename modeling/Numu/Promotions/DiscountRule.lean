import Mathlib.Data.List.Sort
import Numu.Foundation.Binary64
import Numu.Foundation.Table
import Numu.Orders.Order

/-! The discount rule: the math of a single discount over a cart. -/

namespace Numu.Promotions
open Numu.Orders (UUID)

inductive DiscountRuleKind where
  | percentage
  | fixed
  | freeShipping
  | bogo
  | tiered
  | multibuy
  | bundle
  deriving DecidableEq, Repr

structure DiscountTier where
  thresholdCents : Nat
  percent : Nat
  percent_le : percent ≤ 100 := by decide
  deriving DecidableEq

theorem pair_fits : 2 ≤ 2 := le_refl 2

theorem trio_fits : 2 ≤ 3 := by decide

structure MultibuyTier where
  quantity : Nat
  priceCents : Nat
  quantity_ge : 2 ≤ quantity := by
    first | exact Numu.Promotions.pair_fits | exact Numu.Promotions.trio_fits | decide
  priceCents_pos : 0 < priceCents := by decide
  deriving DecidableEq

structure BundleLeg where
  quantity : Nat := 1
  label : Option String := none
  quantity_pos : 1 ≤ quantity := by first | exact Numu.Orders.one_piece | decide
  label_length : ∀ text ∈ label, text.length ≤ 80 := by simp

instance : DecidableEq BundleLeg := fun left right =>
  decidable_of_iff (left.quantity = right.quantity ∧ left.label = right.label) <| by
    cases left
    cases right
    simp

structure CartLine where
  productId : UUID
  quantity : Int
  unitPriceCents : Int
  categoryId : Option UUID := none
  deriving DecidableEq

abbrev LineFilter := CartLine → Bool

structure DiscountContext where
  subtotalCents : Int
  lineItems : List CartLine
  shippingCents : Int := 0
  customerId : Option UUID := none

structure DiscountResult where
  discountCents : Int
  freeShipping : Bool := false
  affectedLineItemIds : List UUID := []
  explanation : String := ""
  deriving DecidableEq

theorem none_le_hundred : ∀ percent ∈ (none : Option Nat), percent ≤ 100 := by simp

theorem some_le_hundred {percent : Nat} (within : percent ≤ 100) :
    ∀ given ∈ some percent, given ≤ 100 := by simpa using within

theorem hundred_le_hundred : ∀ percent ∈ some 100, percent ≤ 100 := by simp

theorem none_ge_one : ∀ quantity ∈ (none : Option Nat), 1 ≤ quantity := by simp

theorem one_ge_one : ∀ quantity ∈ some 1, 1 ≤ quantity := by simp

theorem none_ge_two : ∀ quantity ∈ (none : Option Nat), 2 ≤ quantity := by simp

theorem none_pos : ∀ price ∈ (none : Option Nat), 0 < price := by simp

/-- The fields of a rule with their own bounds. -/
structure RuleFields where
  kind : DiscountRuleKind
  valueCents : Option Nat := none
  valuePercent : Option Nat := none
  minSubtotalCents : Option Nat := none
  maxDiscountCents : Option Nat := none
  buyQuantity : Option Nat := none
  getQuantity : Option Nat := none
  getDiscountPercent : Option Nat := none
  tiers : List DiscountTier := []
  multibuyQuantity : Option Nat := none
  multibuyPriceCents : Option Nat := none
  multibuyTiers : List MultibuyTier := []
  bundleLegs : List BundleLeg := []
  bundlePriceCents : Option Nat := none
  valuePercent_le : ∀ percent ∈ valuePercent, percent ≤ 100 := by
    first | exact Numu.Promotions.none_le_hundred | simp
  buyQuantity_pos : ∀ quantity ∈ buyQuantity, 1 ≤ quantity := by
    first | exact Numu.Promotions.none_ge_one | exact Numu.Promotions.one_ge_one | simp
  getQuantity_pos : ∀ quantity ∈ getQuantity, 1 ≤ quantity := by
    first | exact Numu.Promotions.none_ge_one | exact Numu.Promotions.one_ge_one | simp
  getDiscountPercent_le : ∀ percent ∈ getDiscountPercent, percent ≤ 100 := by
    first
      | exact Numu.Promotions.none_le_hundred
      | exact Numu.Promotions.hundred_le_hundred
      | simp
  multibuyQuantity_ge : ∀ quantity ∈ multibuyQuantity, 2 ≤ quantity := by
    first | exact Numu.Promotions.none_ge_two | simp
  multibuyPriceCents_pos : ∀ price ∈ multibuyPriceCents, 0 < price := by
    first | exact Numu.Promotions.none_pos | simp
  bundlePriceCents_pos : ∀ price ∈ bundlePriceCents, 0 < price := by
    first | exact Numu.Promotions.none_pos | simp
  deriving DecidableEq

def maxBundleLegs : Nat := 5

def validateMultibuy (fields : RuleFields) : Except String RuleFields :=
  let hasScalar := fields.multibuyQuantity.isSome && fields.multibuyPriceCents.isSome
  if !hasScalar ∧ fields.multibuyTiers = [] then
    .error ("multibuy discount requires multibuy_quantity and " ++
      "multibuy_price_cents, or a non-empty multibuy_tiers")
  else if fields.multibuyQuantity.isNone ≠ fields.multibuyPriceCents.isNone then
    .error "multibuy_quantity and multibuy_price_cents must be set together"
  else if (fields.multibuyTiers.map MultibuyTier.quantity).Nodup then .ok fields
  else .error "multibuy tiers must have distinct quantities"

def validateBundle (fields : RuleFields) : Except String RuleFields :=
  if fields.bundleLegs = [] ∨ fields.bundlePriceCents.isNone then
    .error "bundle discount requires bundle_legs and bundle_price_cents"
  else if fields.bundleLegs.length < 2 then
    .error "bundle discount needs at least 2 legs — a single leg is a multibuy"
  else if maxBundleLegs < fields.bundleLegs.length then
    .error s!"bundle discount supports at most {maxBundleLegs} legs"
  else .ok fields

/-- `_validate_kind_fields`: each kind requires some of the fields. -/
def validateKindFields (fields : RuleFields) : Except String RuleFields :=
  match fields.kind with
  | .percentage =>
      if fields.valuePercent.isNone then .error "percentage discount requires value_percent"
      else .ok fields
  | .fixed =>
      if fields.valueCents.isNone then .error "fixed discount requires value_cents"
      else .ok fields
  | .bogo =>
      if fields.buyQuantity.isNone ∨ fields.getQuantity.isNone then
        .error "bogo discount requires buy_quantity and get_quantity"
      else if fields.getDiscountPercent.isNone then
        .ok { fields with
          getDiscountPercent := some 100
          getDiscountPercent_le := hundred_le_hundred }
      else .ok fields
  | .tiered =>
      if fields.tiers = [] then .error "tiered discount requires at least one tier" else .ok fields
  | .multibuy => validateMultibuy fields
  | .bundle => validateBundle fields
  | .freeShipping => .ok fields

/-- A rule that validation has passed, and would pass again. -/
structure DiscountRule extends RuleFields where
  validated : validateKindFields toRuleFields = .ok toRuleFields := by decide

theorem validateKindFields_idempotent {fields accepted : RuleFields}
    (ok : validateKindFields fields = .ok accepted) :
    validateKindFields accepted = .ok accepted := by
  have unchanged (same : accepted = fields) : validateKindFields accepted = .ok accepted := by
    rw [same] at ok ⊢
    exact ok
  cases kind : fields.kind with
  | bogo =>
      simp only [validateKindFields, kind] at ok
      split at ok
      · cases ok
      · rename_i required
        split at ok
        · cases ok
          simp only [validateKindFields, if_neg required, Option.isNone_some,
            Bool.false_eq_true, if_false]
        · exact unchanged (Except.ok.inj ok).symm
  | freeShipping =>
      apply unchanged
      simp only [validateKindFields, kind] at ok
      exact (Except.ok.inj ok).symm
  | _ =>
      apply unchanged
      simp only [validateKindFields, kind, validateMultibuy, validateBundle] at ok
      split_ifs at ok
      exact (Except.ok.inj ok).symm

/-- The rule that a valid set of fields becomes. -/
def DiscountRule.ofFields (fields : RuleFields) : Except String DiscountRule :=
  match ok : validateKindFields fields with
  | .error message => .error message
  | .ok accepted => .ok { toRuleFields := accepted, validated := validateKindFields_idempotent ok }

/-- The value of some lines of a cart. -/
def linesValue (lines : List CartLine) : Int :=
  (lines.map fun line => line.unitPriceCents * line.quantity).sum

def eligible (filter : Option LineFilter) (lines : List CartLine) : List CartLine :=
  match filter with
  | none => lines
  | some accepts => lines.filter accepts

/-- One purchasable unit of a line. -/
structure CartUnit where
  priceCents : Int
  productId : UUID
  line : CartLine

/-- `_expand_units`: most expensive first. -/
def expandUnits (lines : List CartLine) (filter : Option LineFilter) : List CartUnit :=
  let units := (eligible filter lines).flatMap fun line =>
    List.replicate line.quantity.toNat ⟨line.unitPriceCents, line.productId, line⟩
  units.insertionSort fun a b => b.priceCents ≤ a.priceCents

def unitsValue (units : List CartUnit) : Int :=
  (units.map CartUnit.priceCents).sum

def affectedBy (units : List CartUnit) : List UUID :=
  (units.map CartUnit.productId).eraseDups

namespace DiscountRule

def belowMinimum (rule : DiscountRule) (context : DiscountContext) : Bool :=
  match rule.minSubtotalCents with
  | none => false
  | some minimum => context.subtotalCents < minimum

/-- `_cap`. -/
def cap (rule : DiscountRule) (raw : Int) (context : DiscountContext) : Int :=
  let capped := max 0 raw
  let capped :=
    match rule.maxDiscountCents with
    | none => capped
    | some limit => min capped limit
  min capped context.subtotalCents

/-- `_scoped_base_cents`. -/
def scopedBaseCents (context : DiscountContext) (buyFilter : Option LineFilter) : Int × Bool :=
  match buyFilter with
  | none => (context.subtotalCents, false)
  | some accepts =>
      if context.lineItems = [] then (context.subtotalCents, false)
      else (linesValue (context.lineItems.filter accepts), true)

-- The fields a kind requires are set, so that no `getD` below takes its default.

def percentage (rule : DiscountRule) (context : DiscountContext)
    (buyFilter : Option LineFilter) : DiscountResult :=
  let percent := rule.valuePercent.getD 0
  let base := (scopedBaseCents context buyFilter).1
  let capped := rule.cap (base * percent / 100) context
  let matching :=
    if (scopedBaseCents context buyFilter).2 then s!" (on {base} cents of matching items)" else ""
  let limited :=
    match rule.maxDiscountCents with
    | none => ""
    | some limit => if capped = limit then s!" (capped at {limit} cents)" else ""
  { discountCents := capped, explanation := s!"{percent}% off" ++ matching ++ limited }

def fixed (rule : DiscountRule) (context : DiscountContext) (buyFilter : Option LineFilter) :
    DiscountResult :=
  let value := rule.valueCents.getD 0
  let base := (scopedBaseCents context buyFilter).1
  let restricted := (scopedBaseCents context buyFilter).2
  let raw := if restricted then min (value : Int) base else value
  let note := if restricted then s!" (limited to {base} cents of matching items)" else ""
  { discountCents := rule.cap raw context, explanation := s!"{value} cents off" ++ note }

/-- The cheapest `remaining` units of the get side: what comes off and which products. -/
def giveUnits (percent : Nat) : Int → List CartLine → Int × List UUID
  | _, [] => (0, [])
  | remaining, line :: rest =>
      if remaining ≤ 0 then (0, [])
      else
        let take := min line.quantity remaining
        let unitOff := line.unitPriceCents * percent / 100
        let later := giveUnits percent (remaining - take) rest
        (unitOff * take + later.1, line.productId :: later.2)

def totalUnits (lines : List CartLine) : Int :=
  (lines.map CartLine.quantity).sum

def bogoBundles (rule : DiscountRule) (lines : List CartLine)
    (buyFilter getFilter : Option LineFilter) : Int :=
  let buy : Int := rule.buyQuantity.getD 1
  let get : Int := rule.getQuantity.getD 1
  if buyFilter.isNone ∧ getFilter.isNone then totalUnits lines / (buy + get)
  else min (totalUnits (eligible buyFilter lines) / buy) (totalUnits (eligible getFilter lines) / get)

def bogo (rule : DiscountRule) (context : DiscountContext)
    (buyFilter getFilter : Option LineFilter) : DiscountResult :=
  let sortedLines := context.lineItems.insertionSort fun a b => a.unitPriceCents ≤ b.unitPriceCents
  let bundles := rule.bogoBundles sortedLines buyFilter getFilter
  if bundles = 0 then { discountCents := 0, explanation := "bogo not met" }
  else
    let buy := rule.buyQuantity.getD 1
    let get := rule.getQuantity.getD 1
    let percent := rule.getDiscountPercent.getD 100
    let given := giveUnits percent (bundles * get) (eligible getFilter sortedLines)
    let scope := if buyFilter.isSome || getFilter.isSome then "scoped" else "any-product"
    { discountCents := rule.cap given.1 context
      affectedLineItemIds := given.2
      explanation := s!"buy {buy} get {get} @ {percent}% off — {bundles} bundle(s) ({scope})" }

/-- The price breaks by quantity, largest group first; the tier list wins over the scalars. -/
def resolvedMultibuyTiers (rule : DiscountRule) : List (Nat × Nat) :=
  let scalar :=
    match rule.multibuyQuantity, rule.multibuyPriceCents with
    | some quantity, some price => [(quantity, price)]
    | _, _ => []
  let listed := rule.multibuyTiers.map fun tier => (tier.quantity, tier.priceCents)
  (Table.ofList (scalar ++ listed)).rows.insertionSort fun a b => b.1 ≤ a.1

structure TierPick where
  perUnit : ℚ
  saving : Int
  quantity : Nat
  deriving DecidableEq

/-- More saving per unit, then the smaller group. -/
def TierPick.beats (pick best : TierPick) : Bool :=
  best.perUnit < pick.perUnit || (best.perUnit = pick.perUnit && pick.quantity < best.quantity)

def offerTier (units : List CartUnit) (best : Option TierPick) (tier : Nat × Nat) :
    Option TierPick :=
  if units.length < tier.1 then best
  else
    let saving := unitsValue (units.take tier.1) - tier.2
    if saving ≤ 0 then best
    else
      let pick : TierPick := ⟨Binary64.trueDiv saving.toNat tier.1, saving, tier.1⟩
      match best with
      | none => some pick
      | some held => if pick.beats held then some pick else best

def bestTier (tiers : List (Nat × Nat)) (units : List CartUnit) : Option TierPick :=
  tiers.foldl (offerTier units) none

structure MultibuyGroup where
  saving : Int
  quantity : Nat
  units : List CartUnit

/-- The groups one after another. A group has at least two units, so that the number of units
is fuel enough. -/
def multibuyGroups (tiers : List (Nat × Nat)) : Nat → List CartUnit → List MultibuyGroup
  | 0, _ => []
  | fuel + 1, units =>
      match bestTier tiers units with
      | none => []
      | some pick =>
          ⟨pick.saving, pick.quantity, units.take pick.quantity⟩ ::
            multibuyGroups tiers fuel (units.drop pick.quantity)

def tierText (tier : Nat × Nat) : String :=
  s!"{tier.1} for {tier.2}"

def multibuy (rule : DiscountRule) (context : DiscountContext) (lineFilter : Option LineFilter) :
    DiscountResult :=
  let tiers := rule.resolvedMultibuyTiers
  let units := expandUnits context.lineItems lineFilter
  let count := units.length
  let scope := if lineFilter.isSome then "scoped" else "any-product"
  let smallest := (tiers.map Prod.fst).min?.getD 0
  if count < smallest then {
    discountCents := 0
    explanation := s!"multibuy needs {smallest} eligible items, cart has {count} ({scope})" }
  else
    let groups := multibuyGroups tiers count units
    let total := (groups.map MultibuyGroup.saving).sum
    if total ≤ 0 then
      let offered := ", ".intercalate (tiers.reverse.map tierText)
      { discountCents := 0
        explanation := s!"multibuy price ({offered} cents) is not below the " ++
          s!"regular price of those items ({scope})" }
    else
      let used := (groups.map MultibuyGroup.quantity).eraseDups
      let shape := ", ".intercalate (used.map fun quantity =>
        tierText (quantity, (tiers.lookup quantity).getD 0) ++ " cents")
      let applied := groups.length
      { discountCents := rule.cap total context
        affectedLineItemIds := affectedBy (groups.flatMap MultibuyGroup.units)
        explanation := s!"{shape} — {applied} group(s) ({scope})" }

/-- `_take`: the first units that fit, and the pool without them. -/
def takeUnits (fits : CartUnit → Bool) : Nat → List CartUnit → List CartUnit × List CartUnit
  | 0, pool => ([], pool)
  | _ + 1, [] => ([], [])
  | n + 1, unit :: pool =>
      if fits unit then
        let later := takeUnits fits n pool
        (unit :: later.1, later.2)
      else
        let later := takeUnits fits (n + 1) pool
        (later.1, unit :: later.2)

/-- A leg without a filter takes anything. -/
def legFits (legFilter : Option LineFilter) (unit : CartUnit) : Bool :=
  match legFilter with
  | none => true
  | some accepts => accepts unit.line

/-- One bundle in the order of its legs, or `none` when a leg cannot be filled. -/
def formBundle : List (BundleLeg × Option LineFilter) → List CartUnit →
    Option (List CartUnit × List CartUnit)
  | [], pool => some ([], pool)
  | leg :: legs, pool =>
      let taken := takeUnits (legFits leg.2) leg.1.quantity pool
      if taken.1.length = leg.1.quantity then
        (formBundle legs taken.2).map fun later => (taken.1 ++ later.1, later.2)
      else none

/-- The bundles one after another; each spends units, so that their number is fuel enough. -/
def formBundles (legs : List (BundleLeg × Option LineFilter)) (price : Nat) :
    Nat → List CartUnit → List (List CartUnit)
  | 0, _ => []
  | fuel + 1, pool =>
      match formBundle legs pool with
      | none => []
      | some (chosen, rest) =>
          if unitsValue chosen ≤ price then [] else chosen :: formBundles legs price fuel rest

def bundle (rule : DiscountRule) (context : DiscountContext)
    (legFilters : Option (List (Option LineFilter))) : DiscountResult :=
  let filters := legFilters.getD []
  let legs := rule.bundleLegs.mapIdx fun index leg => (leg, (filters[index]?).join)
  let price := rule.bundlePriceCents.getD 0
  let units := expandUnits context.lineItems none
  let formed := formBundles legs price units.length units
  let total := (formed.map fun chosen => unitsValue chosen - price).sum
  let shape := " + ".intercalate (rule.bundleLegs.map fun leg => toString leg.quantity)
  if total ≤ 0 then {
    discountCents := 0
    explanation := s!"bundle ({shape}) for {price} cents not satisfied by the cart" }
  else
    let bundles := formed.length
    { discountCents := rule.cap total context
      affectedLineItemIds := affectedBy formed.flatten
      explanation := s!"bundle {shape} for {price} cents — {bundles} bundle(s)" }

/-- The highest threshold the cart meets; of two equal ones the first. -/
def winningTier (subtotalCents : Int) (best : Option DiscountTier) (tier : DiscountTier) :
    Option DiscountTier :=
  if subtotalCents < tier.thresholdCents then best
  else
    match best with
    | none => some tier
    | some held => if held.thresholdCents < tier.thresholdCents then some tier else best

def tiered (rule : DiscountRule) (context : DiscountContext) : DiscountResult :=
  match rule.tiers.foldl (winningTier context.subtotalCents) none with
  | none => { discountCents := 0, explanation := "no tier threshold met" }
  | some winning => {
      discountCents := rule.cap (context.subtotalCents * winning.percent / 100) context
      explanation := s!"{winning.percent}% off (tier ≥ {winning.thresholdCents} cents)" }

def calculate (rule : DiscountRule) (context : DiscountContext)
    (buyFilter getFilter : Option LineFilter) (legFilters : Option (List (Option LineFilter))) :
    DiscountResult :=
  if rule.belowMinimum context then
    let minimum := rule.minSubtotalCents.getD 0
    { discountCents := 0, explanation := s!"subtotal below minimum ({minimum} cents)" }
  else
    match rule.kind with
    | .freeShipping =>
        { discountCents := 0, freeShipping := true, explanation := "free shipping" }
    | .percentage => rule.percentage context buyFilter
    | .fixed => rule.fixed context buyFilter
    | .bogo => rule.bogo context buyFilter getFilter
    | .tiered => rule.tiered context
    | .multibuy => rule.multibuy context buyFilter
    | .bundle => rule.bundle context legFilters

end DiscountRule
end Numu.Promotions
