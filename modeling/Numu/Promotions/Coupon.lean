import Numu.Foundation.FloatText
import Numu.Foundation.Json
import Numu.Foundation.UuidText
import Numu.Promotions.DiscountRule

/-!
# Coupons

A coupon keeps its amounts as decimals of the store's currency, which are exact here, and the
numbers of some types in a JSON document. A promotion's rule is copied into its coupon.
-/

namespace Numu.Promotions

inductive CouponType where
  | percentage
  | fixed
  | freeShipping
  | buyXGetY
  | tiered
  deriving DecidableEq, Repr

structure Coupon where
  couponType : CouponType
  value : ℚ := 0
  minOrderAmount : Option ℚ := none
  maxDiscountAmount : Option ℚ := none
  config : Option Json.Fields := none
  isActive : Bool := true
  value_nonneg : 0 ≤ value := by norm_num
  minOrderAmount_nonneg : ∀ amount ∈ minOrderAmount, 0 ≤ amount := by simp
  maxDiscountAmount_nonneg : ∀ amount ∈ maxDiscountAmount, 0 ≤ amount := by simp

/-- What a malformed configuration raises. -/
inductive CouponError where
  | invalidOperation
  | valueError
  | typeError
  deriving DecidableEq, Repr

/-- A line of the cart as the coupon reads it. -/
structure CouponLine where
  productId : String
  unitPrice : ℚ
  quantity : Int

/-- The lines of a cart as checkout passes them on. -/
def couponLines (lines : List CartLine) : List CouponLine :=
  lines.map fun line =>
    { productId := UuidText.writeUuid line.productId
      unitPrice := line.unitPriceCents / 100
      quantity := line.quantity }

namespace Coupon

/-- `int` of a number of the configuration; a boolean is one. -/
def wholeNumber : Json → Option Int
  | .int value => some value
  | .float value => some (Binary64.truncate value)
  | .bool value => some (if value then 1 else 0)
  | _ => none

/-- `Decimal(str(value))`. -/
def decimalOf : Json → Except CouponError ℚ
  | .int value => .ok value
  | .float value => .ok (DecimalText.shortest value)
  | .str text =>
      match DecimalText.readDecimal text with
      | some value => .ok value
      | none => .error .invalidOperation
  | _ => .error .invalidOperation

/-- One tier of `_calculate_tiered_discount` against the best threshold and percentage so far. -/
def offerTier (orderCents : Int) (best : Int × ℚ) : Json → Except CouponError (Int × ℚ)
  | .obj tier =>
      let threshold := wholeNumber (Json.Fields.get tier "min_subtotal_cents" .null)
      let percent := Json.Fields.get tier "discount_percentage" .null
      match threshold, wholeNumber percent with
      | some threshold, some _ =>
          if threshold ≤ orderCents ∧ best.1 < threshold then
            (decimalOf percent).map fun percent => (threshold, percent)
          else .ok best
      | _, _ => .ok best
  | _ => .ok best

def calculateTieredDiscount (config : Option Json.Fields) (orderAmount : ℚ) : Except CouponError ℚ :=
  match (config.getD []).get "tiers" .null with
  | .arr tiers =>
      let orderCents := Binary64.truncate (orderAmount * 100)
      (tiers.foldlM (offerTier orderCents) (-1, 0)).map fun best => orderAmount * best.2 / 100
  | _ => .ok 0

/-- `int(value or 0)`. -/
def countOf (value : Json) : Except CouponError Int :=
  if value.truthy then
    match value with
    | .str text =>
        match IntegerText.readInt text with
        | some count => .ok count
        | none => .error .valueError
    | number =>
        match wholeNumber number with
        | some count => .ok count
        | none => .error .typeError
  else .ok 0

/-- The texts of a filter; the text of anything but a string is no product's id. -/
def filterTexts : Json → Except CouponError (List String)
  | .arr items => .ok <| items.filterMap fun
      | .str text => some text
      | _ => none
  | .str text => .ok (text.toList.map fun c => String.ofList [c])
  | .obj fields => .ok (fields.map Prod.fst)
  | _ => .error .typeError

/-- `_matches`, for every line at once. -/
def matching (filter : Json) (lines : List CouponLine) : Except CouponError (List CouponLine) :=
  if filter.truthy then
    (filterTexts filter).map fun texts => lines.filter fun line => line.productId ∈ texts
  else .ok lines

/-- One entry for each unit. -/
def unitPrices (lines : List CouponLine) : List ℚ :=
  lines.flatMap fun line => List.replicate line.quantity.toNat line.unitPrice

/-- What the configuration of a buy-X-get-Y coupon says. -/
structure BogoTerms where
  buyQuantity : Nat
  getQuantity : Nat
  percent : ℚ
  buyFilter : Json
  getFilter : Json
  buyQuantity_pos : 1 ≤ buyQuantity := by decide
  getQuantity_pos : 1 ≤ getQuantity := by decide

def bogoTerms (config : Json.Fields) : Except CouponError (Option BogoTerms) := do
  let buy ← countOf (config.get "buy_quantity" .null)
  let get ← countOf (config.get "get_quantity" .null)
  let percent := config.get "get_discount_percentage" .null
  if quantities : 1 ≤ buy ∧ 1 ≤ get then
    match percent with
    | .null => return none
    | given =>
        let percent ← decimalOf given
        let buyFilter := config.get "buy_product_ids" .null
        let getFilter := config.get "get_product_ids" .null
        return some {
          buyQuantity := buy.toNat
          getQuantity := get.toNat
          percent := percent
          buyFilter := buyFilter
          getFilter := if getFilter.truthy then getFilter else buyFilter
          buyQuantity_pos := by omega
          getQuantity_pos := by omega }
  else return none

/-- Python's `units[:count]`, where a negative count drops from the end. -/
def firstUnits (units : List ℚ) (count : Int) : List ℚ :=
  units.take (if 0 ≤ count then count else units.length + count).toNat

/-- The units that the bundles discount, the cheapest of the get side. -/
def unitsToDiscount (terms : BogoTerms) (lines : List CouponLine) : Except CouponError (List ℚ) := do
  let getLines ← matching terms.getFilter lines
  let buyLines ← matching terms.buyFilter lines
  let qualifyingUnits := unitPrices getLines
  let buyUnits := (buyLines.map CouponLine.quantity).sum
  let bundleSize : Int := terms.buyQuantity + terms.getQuantity
  let bundles := min (buyUnits / bundleSize) (qualifyingUnits.length / bundleSize)
  return firstUnits (qualifyingUnits.insertionSort (· ≤ ·)) (bundles * terms.getQuantity)

def calculateBogoDiscount (config : Option Json.Fields) (lines : List CouponLine) :
    Except CouponError ℚ :=
  match config, lines with
  | some (field :: fields), line :: rest => do
      match ← bogoTerms (field :: fields) with
      | none => return 0
      | some terms =>
          let units ← unitsToDiscount terms (line :: rest)
          return units.sum * terms.percent / 100
  | _, _ => .ok 0

/-- The discount before the limits. -/
def typeDiscount (coupon : Coupon) (orderAmount : ℚ) (lineItems : List CouponLine) :
    Except CouponError ℚ :=
  match coupon.couponType with
  | .freeShipping => .ok 0
  | .percentage => .ok (orderAmount * coupon.value / 100)
  | .fixed => .ok (min coupon.value orderAmount)
  | .tiered => calculateTieredDiscount coupon.config orderAmount
  | .buyXGetY => calculateBogoDiscount coupon.config lineItems

def limited (coupon : Coupon) (discount orderAmount : ℚ) : ℚ :=
  match coupon.maxDiscountAmount with
  | none => min discount orderAmount
  | some limit => min (min discount limit) orderAmount

def calculateDiscount (coupon : Coupon) (orderAmount : ℚ) (lineItems : List CouponLine) :
    Except CouponError ℚ :=
  if coupon.couponType = .freeShipping then .ok 0
  else
    (coupon.typeDiscount orderAmount lineItems).map fun discount =>
      coupon.limited discount orderAmount

/-- `int(discount * 100)`, what checkout takes off a subtotal of so many cents. -/
def checkoutCents (coupon : Coupon) (subtotalCents : Int) (lineItems : List CouponLine) :
    Except CouponError Int :=
  (coupon.calculateDiscount (subtotalCents / 100) lineItems).map fun discount =>
    Binary64.truncate (discount * 100)

end Coupon

def tierDocument (tier : DiscountTier) : Json :=
  .obj [("min_subtotal_cents", .int tier.thresholdCents),
    ("discount_percentage", .int tier.percent)]

/-- `Decimal(cents) / Decimal(100)`. -/
def major (cents : Nat) : ℚ := cents / 100

theorem major_nonneg (cents : Nat) : 0 ≤ major cents := by
  unfold major
  positivity

theorem major_option_nonneg (cents : Option Nat) : ∀ amount ∈ cents.map major, 0 ≤ amount := by
  intro amount mem
  rcases Option.mem_map.mp mem with ⟨own, -, rfl⟩
  exact major_nonneg own

def limitedAs (coupon : Coupon) (rule : DiscountRule) : Coupon :=
  { coupon with
    minOrderAmount := rule.minSubtotalCents.map major
    maxDiscountAmount := rule.maxDiscountCents.map major
    minOrderAmount_nonneg := major_option_nonneg _
    maxDiscountAmount_nonneg := major_option_nonneg _ }

/-- The coupon of a rule, of the kinds that a coupon can express. -/
def syncedCoupon (coupon : Coupon) (rule : DiscountRule) : Option Coupon :=
  let limited := limitedAs coupon rule
  match rule.kind with
  | .tiered =>
      some { limited with
        couponType := .tiered
        value := 0
        config := some [("tiers", .arr (rule.tiers.map tierDocument))]
        value_nonneg := le_refl 0 }
  | .percentage =>
      some { limited with
        couponType := .percentage
        value := (rule.valuePercent.getD 0 : Nat)
        config := none
        value_nonneg := Nat.cast_nonneg _ }
  | .fixed =>
      some { limited with
        couponType := .fixed
        value := major (rule.valueCents.getD 0)
        config := none
        value_nonneg := major_nonneg _ }
  | .freeShipping =>
      some { limited with
        couponType := .freeShipping
        value := 0
        config := none
        value_nonneg := le_refl 0 }
  | _ => none

/-- `sync_coupon_rule`: the coupon afterwards, and whether it is saved. -/
def syncCouponRule (coupon : Coupon) (rule : Option DiscountRule) (activate : Bool) :
    Coupon × Bool :=
  let coupon := if activate then { coupon with isActive := true } else coupon
  match rule.bind (syncedCoupon coupon) with
  | none => (coupon, activate)
  | some synced => (synced, true)

end Numu.Promotions
