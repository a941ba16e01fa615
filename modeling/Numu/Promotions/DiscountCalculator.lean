import Numu.Foundation.Outcome
import Numu.Foundation.UuidText
import Numu.Promotions.DiscountRule

/-! `DiscountCalculator.calculate_total`: the promotions of a cart stacked over it. -/

namespace Numu.Promotions
open Numu.Orders (UUID)

inductive PromotionSurface where
  | discountCode
  | automatic
  | announcementBar
  | popup
  | floatingWidget
  | cookieBanner
  deriving DecidableEq, Repr

def PromotionSurface.value : PromotionSurface → String
  | discountCode => "discount_code"
  | automatic => "automatic"
  | announcementBar => "announcement_bar"
  | popup => "popup"
  | floatingWidget => "floating_widget"
  | cookieBanner => "cookie_banner"

inductive TargetKind where
  | audience
  | product
  | category
  | customerTag
  | geo
  deriving DecidableEq, Repr

/-- `TARGET_ROLE_PATTERN`. -/
inductive TargetRole where
  | buySet
  | getSet
  | leg (index : Fin 100)
  deriving DecidableEq

structure PromotionTarget where
  targetKind : TargetKind
  /-- `target_value["product_ids"]`. -/
  productIds : List String := []
  /-- `target_value["category_ids"]`. -/
  categoryIds : List String := []
  role : Option TargetRole := none
  deriving DecidableEq

structure Promotion where
  id : UUID
  surface : PromotionSurface
  discountRule : Option DiscountRule := none

/-- The target rows of each promotion, where the caller has read them. -/
abbrev TargetsByPromotion := Option (UUID → List PromotionTarget)

def targetsOf (targets : TargetsByPromotion) (promo : Promotion) : List PromotionTarget :=
  match targets with
  | none => []
  | some byPromotion => byPromotion promo.id

/-- The ids of one kind that the targets of one role list. -/
def listedIds (targets : List PromotionTarget) (role : TargetRole) : TargetKind → List String
  | .product =>
      (targets.filter fun t => t.role = some role && t.targetKind = .product).flatMap
        PromotionTarget.productIds
  | .category =>
      (targets.filter fun t => t.role = some role && t.targetKind = .category).flatMap
        PromotionTarget.categoryIds
  | _ => []

/-- `UUID(s)` raises on a malformed id. -/
def parseIds (texts : List String) : Except String (List UUID) :=
  texts.mapM fun text =>
    match UuidText.readUuid text with
    | some id => .ok id
    | none => .error "badly formed hexadecimal UUID string"

/-- The lines of either allow-list. An empty list matches nothing. -/
def allowLines (productIds categoryIds : List UUID) : LineFilter := fun line =>
  line.productId ∈ productIds ||
    match line.categoryId with
    | none => false
    | some id => id ∈ categoryIds

def roleFilter (targets : List PromotionTarget) (role : TargetRole) :
    Except String (Option LineFilter) := do
  let productIds ← parseIds (listedIds targets role .product)
  let categoryIds ← parseIds (listedIds targets role .category)
  let tagged := targets.any fun t => t.role = some role
  return if tagged then some (allowLines productIds categoryIds) else none

/-- `_build_line_filters`. -/
def buildLineFilters (promo : Promotion) (targets : TargetsByPromotion) :
    Except String (Option LineFilter × Option LineFilter) := do
  let buyFilter ← roleFilter (targetsOf targets promo) .buySet
  let getFilter ← roleFilter (targetsOf targets promo) .getSet
  return (buyFilter, getFilter)

def legFilter (targets : List PromotionTarget) (index : Nat) :
    Except String (Option LineFilter) := do
  let role := TargetRole.leg (Fin.ofNat 100 index)
  let productIds ← parseIds (listedIds targets role .product)
  let categoryIds ← parseIds (listedIds targets role .category)
  return if productIds = [] ∧ categoryIds = [] then none
    else some (allowLines productIds categoryIds)

/-- `_build_leg_filters`: one filter a leg, sized from the rule. -/
def buildLegFilters (promo : Promotion) (rule : DiscountRule) (targets : TargetsByPromotion) :
    Except String (Option (List (Option LineFilter))) :=
  if rule.kind ≠ .bundle then .ok none
  else do
    let filters ← (List.range rule.bundleLegs.length).mapM (legFilter (targetsOf targets promo))
    return some filters

structure DiscountedLine where
  productId : UUID
  discountCents : Int

structure DiscountTotalResult where
  lineItems : List DiscountedLine := []
  codeDiscountCents : Int := 0
  automaticDiscountCents : Int := 0
  freeShipping : Bool := false
  appliedPromotionIds : List UUID := []
  rejected : List (UUID × String) := []
  discountByPromotion : Table UUID Int := .empty

/-- A promotion with math: one that the split by surface lets through. -/
structure Offer where
  promo : Promotion
  rule : DiscountRule
  has_rule : promo.discountRule = some rule

def Offer.id (offer : Offer) : UUID := offer.promo.id

def Offer.evaluate (offer : Offer) (targets : TargetsByPromotion) (context : DiscountContext) :
    Except String DiscountResult := do
  let filters ← buildLineFilters offer.promo targets
  let legFilters ← buildLegFilters offer.promo offer.rule targets
  return offer.rule.calculate context filters.1 filters.2 legFilters

structure SurfaceSplit where
  codes : List Offer
  autos : List Offer
  rejected : List (UUID × String)

def splitBySurface : List Promotion → SurfaceSplit
  | [] => ⟨[], [], []⟩
  | promo :: rest =>
      let later := splitBySurface rest
      match has_rule : promo.discountRule with
      | none => { later with rejected := (promo.id, "no discount_rule") :: later.rejected }
      | some rule =>
          match promo.surface with
          | .discountCode => { later with codes := ⟨promo, rule, has_rule⟩ :: later.codes }
          | .automatic => { later with autos := ⟨promo, rule, has_rule⟩ :: later.autos }
          | surface =>
              { later with
                rejected := (promo.id, s!"surface {surface.value} has no math") :: later.rejected }

/-- The first of the results with the greatest discount. -/
def bestResult (best : Offer × DiscountResult) :
    List (Offer × DiscountResult) → Offer × DiscountResult
  | [] => best
  | next :: rest =>
      if best.2.discountCents < next.2.discountCents then bestResult next rest
      else bestResult best rest

def evaluateAll (offers : List Offer) (targets : TargetsByPromotion) (context : DiscountContext) :
    Except String (List (Offer × DiscountResult)) :=
  offers.mapM fun offer => (offer.evaluate targets context).map fun result => (offer, result)

def noSavings (result : DiscountResult) : String :=
  if result.explanation = "" then "no savings" else result.explanation

def anotherCode : String := "another code-based promo had higher savings"

structure CodeOutcome where
  discount : Int := 0
  freeShipping : Bool := false
  applied : List UUID := []
  rejected : List (UUID × String) := []

def codeOutcome (results : List (Offer × DiscountResult)) : CodeOutcome :=
  match results with
  | [] => {}
  | first :: rest =>
      let best := bestResult first rest
      let others := (results.filter fun other => other.1.id ≠ best.1.id).map fun other =>
        (other.1.id, anotherCode)
      if best.2.discountCents = 0 ∧ best.2.freeShipping = false then
        { rejected := (best.1.id, noSavings best.2) :: others }
      else {
        discount := best.2.discountCents
        freeShipping := best.2.freeShipping
        applied := [best.1.id]
        rejected := others }

def sortedTexts (texts : List String) : List String :=
  texts.eraseDups.insertionSort (· ≤ ·)

/-- `_multibuy_scope_key`. -/
def multibuyScopeKey (offer : Offer) (targets : TargetsByPromotion) : Option String :=
  if offer.rule.kind ≠ .multibuy then none
  else
    let rows := targetsOf targets offer.promo
    let productIds := ",".intercalate (sortedTexts (listedIds rows .buySet .product))
    let categoryIds := ",".intercalate (sortedTexts (listedIds rows .buySet .category))
    some ("p:" ++ productIds ++ "|c:" ++ categoryIds)

/-- The multibuys of each scope, in the order of their first member. -/
def scopeGroups (autos : List Offer) (targets : TargetsByPromotion) : List (List Offer) :=
  (autos.filterMap fun offer => multibuyScopeKey offer targets).eraseDups.map fun key =>
    autos.filter fun offer => multibuyScopeKey offer targets = some key

def anotherTier : String :=
  "another multibuy tier over the same catalogue saved more — " ++
    "combine the tiers on one promotion (multibuy_tiers)"

/-- The multibuy of a scope that saves most; one alone is not evaluated. The legs play no part
in a multibuy. -/
def groupWinner (targets : TargetsByPromotion) (context : DiscountContext) :
    List Offer → Except String (Option Offer)
  | [] => .ok none
  | [only] => .ok (some only)
  | group => do
      let results ← evaluateAll group targets context
      match results with
      | [] => return none
      | first :: rest => return some (bestResult first rest).1

/-- The winner of each group, with the group. -/
def groupWinners (targets : TargetsByPromotion) (context : DiscountContext) :
    List (List Offer) → Except String (List (UUID × List Offer))
  | [] => .ok []
  | group :: rest => do
      let winner ← groupWinner targets context group
      let later ← groupWinners targets context rest
      match winner with
      | none => return later
      | some offer => return (offer.id, group) :: later

structure Rivalry where
  kept : List Offer
  losers : List (UUID × String)

/-- `_resolve_multibuy_tier_rivalry`. -/
def resolveMultibuyTierRivalry (autos : List Offer) (targets : TargetsByPromotion)
    (context : DiscountContext) : Except String Rivalry :=
  let groups := scopeGroups autos targets
  if groups.all fun group => group.length = 1 then .ok ⟨autos, []⟩
  else do
    let winners ← groupWinners targets context groups
    let winnerIds := winners.map Prod.fst
    let passthrough :=
      (autos.filter fun offer => (multibuyScopeKey offer targets).isNone).map Offer.id
    let kept := autos.filter fun offer => offer.id ∈ winnerIds || offer.id ∈ passthrough
    let losers := winners.flatMap fun entry =>
      (entry.2.filter fun offer => offer.id ≠ entry.1).map fun offer => (offer.id, anotherTier)
    return ⟨kept, losers⟩

structure AutoOutcome where
  running : Int := 0
  freeShipping : Bool := false
  applied : List UUID := []
  rejected : List (UUID × String) := []
  byPromotion : Table UUID Int

/-- One automatic promotion over what the discounts before it leave of the subtotal. -/
def applyAuto (outcome : AutoOutcome) (id : UUID) (result : DiscountResult) : AutoOutcome :=
  let freeShipping := outcome.freeShipping || result.freeShipping
  if result.discountCents ≤ 0 ∧ result.freeShipping = false then
    { outcome with
      freeShipping := freeShipping
      rejected := outcome.rejected ++ [(id, noSavings result)] }
  else
    { outcome with
      running := outcome.running + result.discountCents
      freeShipping := freeShipping
      applied := outcome.applied ++ [id]
      byPromotion :=
        if 0 < result.discountCents then outcome.byPromotion.set id result.discountCents
        else outcome.byPromotion }

def remainingContext (context : DiscountContext) (codeDiscount running : Int) : DiscountContext :=
  { context with subtotalCents := max 0 (context.subtotalCents - codeDiscount - running) }

def stackAutos (targets : TargetsByPromotion) (context : DiscountContext) (codeDiscount : Int) :
    AutoOutcome → List Offer → Except String AutoOutcome
  | outcome, [] => .ok outcome
  | outcome, offer :: rest => do
      let result ← offer.evaluate targets
        (remainingContext context codeDiscount outcome.running)
      stackAutos targets context codeDiscount (applyAuto outcome offer.id result) rest

/-- The overflow taken off the entries of the automatic promotions, last applied first. -/
def trimEntries : List UUID → Int → Table UUID Int → Table UUID Int
  | [], _, byPromotion => byPromotion
  | id :: earlier, overflow, byPromotion =>
      if overflow ≤ 0 then byPromotion
      else
        let share := (byPromotion.get? id).getD 0
        let taken := min share overflow
        trimEntries earlier (overflow - taken) (byPromotion.set id (share - taken))

/-- The automatic bucket is trimmed down to the subtotal; the code wins precedence. -/
def trimOverflow (context : DiscountContext) (codeDiscount : Int) (outcome : AutoOutcome) :
    AutoOutcome :=
  let total := codeDiscount + outcome.running
  if context.subtotalCents < total then
    let overflow := total - context.subtotalCents
    { outcome with
      running := max 0 (outcome.running - overflow)
      byPromotion := trimEntries outcome.applied.reverse overflow outcome.byPromotion }
  else outcome

def calculateTotal (promotions : List Promotion) (context : DiscountContext)
    (targets : TargetsByPromotion) : Except String DiscountTotalResult := do
  let surfaces := splitBySurface promotions
  let results ← evaluateAll surfaces.codes targets context
  let code := codeOutcome results
  let rivalry ← resolveMultibuyTierRivalry surfaces.autos targets context
  let entries : Table UUID Int := .ofList (code.applied.map fun id => (id, code.discount))
  let stacked ← stackAutos targets context code.discount { byPromotion := entries } rivalry.kept
  let trimmed := trimOverflow context code.discount stacked
  return {
    codeDiscountCents := code.discount
    automaticDiscountCents := trimmed.running
    freeShipping := code.freeShipping || trimmed.freeShipping
    appliedPromotionIds := code.applied ++ trimmed.applied
    rejected := surfaces.rejected ++ code.rejected ++ rivalry.losers ++ trimmed.rejected
    discountByPromotion := trimmed.byPromotion }

end Numu.Promotions
