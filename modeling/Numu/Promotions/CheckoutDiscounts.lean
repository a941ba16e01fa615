import Numu.Orders.CreateOrder
import Numu.Promotions.AppliedSnapshot
import Numu.Promotions.Coupon
import Numu.Shipping.Checkout

/-!
# The discounts of a checkout

What `create_order` takes off, in its order: the coupon, the promotion behind its code, the
automatic promotions and the incentive for paying online.
-/

namespace Numu.Promotions
open Numu.Orders (UUID Time NewOrderError PlacedOrder Store StorefrontCheckout given priceLines)
open Numu.Invoices (UpperCase)
open Numu.Outcome (bind_eq_ok map_eq_ok)
open Numu.Shipping (ShippingResolver ShippingTables ShippingRequest StoreShipping)

inductive CheckoutError where
  | couponNotFound (code : String)
  /-- A `ValidationError`. -/
  | refused (message : String)
  | belowMinimum (minimum : Option ℚ)
  | configuration (error : CouponError)
  | shipping (detail : String)
  | order (error : NewOrderError)

/-- A coupon with what limits its use. -/
structure StoredCoupon extends Coupon where
  id : UUID
  code : String
  validFrom : Option Time := none
  validUntil : Option Time := none
  usageLimit : Option Nat := none
  usageCount : Nat := 0

namespace StoredCoupon
variable (coupon : StoredCoupon) (now : Time)

def isExpired : Bool :=
  match coupon.validUntil with
  | none => false
  | some end_ => end_ < now

def isStarted : Bool :=
  match coupon.validFrom with
  | none => true
  | some start => start ≤ now

def hasRemainingUses : Bool :=
  match coupon.usageLimit with
  | none => true
  | some limit => coupon.usageCount < limit

def isUsable : Bool :=
  coupon.isActive && (coupon.isStarted now && !coupon.isExpired now) && coupon.hasRemainingUses

/-- The promotion behind a code decides its schedule. -/
def usableFor (promotionLinked : Bool) : Bool :=
  if promotionLinked then coupon.isActive && coupon.hasRemainingUses else coupon.isUsable now

def meetsMinimumOrder (orderAmount : ℚ) : Bool :=
  match coupon.minOrderAmount with
  | none => true
  | some minimum => minimum ≤ orderAmount

end StoredCoupon

structure AppliedCoupon where
  couponId : UUID
  code : String
  discountCents : Int
  freeShipping : Bool

/-- `ApplyCouponUseCase.execute`, with the discount in cents as checkout takes it. -/
def applyCoupon (stored : Option StoredCoupon) (code : String) (subtotalCents : Int)
    (lineItems : List CouponLine) (promotionLinked : Bool) (now : Time) :
    Except CheckoutError AppliedCoupon :=
  match stored with
  | none => .error (.couponNotFound code)
  | some coupon =>
      if !coupon.usableFor now promotionLinked then .error (.refused "This coupon cannot be applied")
      else if !promotionLinked && !coupon.meetsMinimumOrder (subtotalCents / 100) then
        .error (.belowMinimum coupon.minOrderAmount)
      else
        match coupon.checkoutCents subtotalCents lineItems with
        | .error error => .error (.configuration error)
        | .ok cents =>
            .ok { couponId := coupon.id
                  code := coupon.code
                  discountCents := cents
                  freeShipping := coupon.couponType = .freeShipping }

/-- The promotions of a store that a cart passes the checks of; their ids are primary keys. -/
structure EligiblePromotions where
  promotions : List Promotion
  distinct : (promotions.map Promotion.id).Nodup

structure CartDiscountsOutput where
  codeDiscountCents : Int
  automaticDiscountCents : Int
  freeShipping : Bool
  appliedPromotionIds : List UUID
  /-- The ids and amounts of the automatic promotions. -/
  appliedPromotions : List (UUID × Int)

/-- `CalculateCartDiscountsUseCase.execute` from the eligible promotions on. -/
def cartDiscounts (eligible : EligiblePromotions) (context : DiscountContext)
    (targets : TargetsByPromotion) : Except String CartDiscountsOutput := do
  let result ← calculateTotal eligible.promotions context targets
  return {
    codeDiscountCents := result.codeDiscountCents
    automaticDiscountCents := result.automaticDiscountCents
    freeShipping := result.freeShipping
    appliedPromotionIds := result.appliedPromotionIds
    appliedPromotions := (result.appliedOn eligible.promotions .automatic).map fun id =>
      (id, result.entry id) }

inductive IncentiveKind where
  | percent
  | fixed
  | freeShipping
  deriving DecidableEq, Repr

theorem five_ge_one : 1 ≤ 5 := by decide

theorem five_le_fifty : 5 ≤ 50 := by decide

structure PrepaidIncentive where
  enabled : Bool := false
  kind : IncentiveKind := .percent
  percent : Nat := 5
  amountCents : Nat := 0
  minOrderCents : Nat := 0
  percent_pos : 1 ≤ percent := by first | exact Numu.Promotions.five_ge_one | decide
  percent_le : percent ≤ 50 := by first | exact Numu.Promotions.five_le_fifty | decide

structure Incentive where
  discountCents : Int := 0
  freeShipping : Bool := false

namespace PrepaidIncentive

def earned (rule : PrepaidIncentive) (isCod : Bool) (subtotalCents : Int) : Bool :=
  rule.enabled && !isCod && decide (rule.minOrderCents ≤ subtotalCents)

/-- `prepaid_incentive`. -/
def incentive (rule : PrepaidIncentive) (isCod : Bool) (subtotalCents discountCents : Int) :
    Incentive :=
  if !rule.earned isCod subtotalCents then {}
  else
    let room := max 0 (subtotalCents - discountCents)
    match rule.kind with
    | .freeShipping => { freeShipping := true }
    | .percent => { discountCents := min (room * rule.percent / 100) room }
    | .fixed => { discountCents := min rule.amountCents room }

end PrepaidIncentive

/-- What a call of `create_order` has read when it comes to the discounts. -/
structure CheckoutCall where
  /-- The cart; its shipping cost and its discount are not settled yet. -/
  cart : StorefrontCheckout
  categoryOf : UUID → Option UUID
  requiresShipping : Bool
  isCod : Bool
  couponCode : Option String
  /-- The coupon of the code. -/
  storedCoupon : Option StoredCoupon
  /-- The promotion that owns the coupon. -/
  promotionOfCoupon : Option UUID
  hasTenant : Bool
  /-- Reading the promotions or checking the cart against them may raise. -/
  eligible : Except String EligiblePromotions
  targets : TargetsByPromotion
  promotionCopy : UUID → Except String (Option PromotionCopy)
  resolver : ShippingResolver
  resolveGovernorate : String → Option String
  tables : ShippingTables
  storeShipping : StoreShipping
  shippingRequest : ShippingRequest
  weightG : Int
  codRequested : Bool
  codShield : Bool
  prepaid : PrepaidIncentive
  now : Time

structure Discounts where
  discountAmount : Int := 0
  freeShipping : Bool := false
  appliedPromotions : List AppliedPromotion := []

structure Charges where
  discountAmount : Int
  shippingCost : Nat
  appliedPromotions : List AppliedPromotion

def couponUnvalidated : CheckoutError := .refused "Unable to validate this coupon right now"

def offerElsewhere : CheckoutError := .refused "This coupon's offer does not apply to this order"

namespace CheckoutCall
variable (call : CheckoutCall)

def subtotal : Nat := (priceLines call.cart.lineItems).2

def cartLines : List CartLine :=
  call.cart.lineItems.map fun line =>
    { productId := line.productId
      quantity := line.quantity
      unitPriceCents := line.unitPrice
      categoryId := call.categoryOf line.productId }

def context : DiscountContext where
  subtotalCents := linesValue call.cartLines
  lineItems := call.cartLines
  customerId := some call.cart.customerId

/-- The coupon that the customer named. -/
def redeemed : Option StoredCoupon :=
  if given call.couponCode then call.storedCoupon else none

def linkedPromotion : Option UUID :=
  call.redeemed.bind fun _ => call.promotionOfCoupon

def afterCoupon : Except CheckoutError Discounts :=
  if given call.couponCode then
    (applyCoupon call.storedCoupon (call.couponCode.getD "") call.subtotal
      (couponLines call.cartLines) call.linkedPromotion.isSome call.now).map fun coupon =>
        { discountAmount := coupon.discountCents, freeShipping := coupon.freeShipping }
  else .ok {}

def offers : Except String CartDiscountsOutput := do
  let eligible ← call.eligible
  cartDiscounts eligible call.context call.targets

/-- A linked promotion replaces the coupon's own amount, and the automatic promotions take what
is left of the subtotal. -/
def withOffers (settled : Discounts) (out : CartDiscountsOutput) : Except CheckoutError Discounts :=
  if call.linkedPromotion.any fun id => id ∉ out.appliedPromotionIds then .error offerElsewhere
  else
    let discountAmount :=
      if call.linkedPromotion.isSome then min out.codeDiscountCents call.subtotal
      else settled.discountAmount
    let autoCents := max 0 (min out.automaticDiscountCents (call.subtotal - discountAmount))
    let freeShipping := settled.freeShipping || out.freeShipping
    if out.appliedPromotions = [] then .ok { settled with discountAmount, freeShipping }
    else
      .ok { discountAmount := discountAmount + autoCents
            freeShipping
            appliedPromotions := buildAppliedPromotions call.promotionCopy
              (out.appliedPromotions.map Prod.fst) autoCents
              (some (breakdownOf out.appliedPromotions)) }

def afterOffers : Except CheckoutError Discounts := do
  let settled ← call.afterCoupon
  match call.hasTenant, call.offers with
  | true, .ok out => call.withOffers settled out
  | _, _ =>
      -- The engine could not run: only a code that needs it stops the checkout.
      if call.linkedPromotion.isSome then .error couponUnvalidated else .ok settled

/-- The resolved rate, waived where nothing ships or shipping is free. -/
def shippingCost (freeShipping : Bool) : Except CheckoutError Nat :=
  match call.resolver.resolveShipping call.resolveGovernorate call.tables call.storeShipping
      call.shippingRequest ⟨call.subtotal, call.weightG, call.codRequested⟩ with
  | .error detail => .error (.shipping detail)
  | .ok charge => .ok (if !call.requiresShipping || freeShipping then 0 else charge.shippingCostCents)

def earnedIncentive (discountAmount : Int) : Incentive :=
  if call.codShield then call.prepaid.incentive call.isCod call.subtotal discountAmount else {}

def charges : Except CheckoutError Charges := do
  let settled ← call.afterOffers
  let shippingCost ← call.shippingCost settled.freeShipping
  let incentive := call.earnedIncentive settled.discountAmount
  return {
    discountAmount := settled.discountAmount + incentive.discountCents
    shippingCost := if incentive.freeShipping then 0 else shippingCost
    appliedPromotions := settled.appliedPromotions }

def charged (charges : Charges) : StorefrontCheckout :=
  { call.cart with
    shippingCost := charges.shippingCost
    discountAmount := charges.discountAmount }

def createOrder [UpperCase] (store : Store) (orderId : UUID) (orderNumber : String) :
    Except CheckoutError PlacedOrder := do
  let charges ← call.charges
  match (call.charged charges).place store orderId orderNumber call.now with
  | .error error => .error (.order error)
  | .ok order => .ok order

/-- The benefits of a checkout that make its shipping free. -/
inductive GrantsFreeShipping : Prop
  | coupon {coupon : StoredCoupon} (redeemed : call.redeemed = some coupon)
      (kind : coupon.couponType = .freeShipping)
  | promotion {eligible : EligiblePromotions} {out : CartDiscountsOutput} {promo : Promotion}
      {rule : DiscountRule} (tenant : call.hasTenant = true) (read : call.eligible = .ok eligible)
      (computed : call.offers = .ok out) (member : promo ∈ eligible.promotions)
      (applied : promo.id ∈ out.appliedPromotionIds) (has_rule : promo.discountRule = some rule)
      (kind : rule.kind = .freeShipping)
  | incentive (shield : call.codShield = true)
      (earned : call.prepaid.earned call.isCod call.subtotal = true)
      (kind : call.prepaid.kind = .freeShipping)

end CheckoutCall
end Numu.Promotions
