import Numu.Promotions.CheckoutDiscounts
import Numu.Promotions.ListOrder

/-! What a placed order is charged, whatever its discounts. -/

namespace Numu.Promotions
open Numu.Orders (UUID Time PlacedOrder Store StorefrontCheckout insertPriced insertPriced_ok given)
open Numu.Invoices (UpperCase)
open Numu.Outcome (bind_eq_ok map_eq_ok)

section FreeShipping
variable {targets : TargetsByPromotion} {context : DiscountContext}

theorem Offer.evaluate_freeShipping {offer : Offer} (kind : offer.rule.kind = .freeShipping)
    {result : DiscountResult} (ok : offer.evaluate targets context = .ok result) :
    result.discountCents = 0 := by
  rcases bind_eq_ok.mp ok with ⟨filters, -, ok⟩
  rcases bind_eq_ok.mp ok with ⟨legFilters, -, same⟩
  cases same
  exact (offer.rule.calculate_freeShipping context filters.1 filters.2 legFilters).2 kind

/-- An offer that was applied for its free shipping turned the outcome's on. -/
def Granted (freeShipping : Bool) (offers : List Offer) (id : UUID) : Prop :=
  ∃ offer ∈ offers, offer.id = id ∧ (offer.rule.kind = .freeShipping → freeShipping = true)

theorem codeOutcome_granted {codes : List Offer} {results : List (Offer × DiscountResult)}
    (ok : evaluateAll codes targets context = .ok results) :
    ∀ id ∈ (codeOutcome results).applied, Granted (codeOutcome results).freeShipping codes id := by
  rcases evaluateAll_ok ok with ⟨rfl, sound⟩
  intro id applied
  cases results with
  | nil => cases applied
  | cons first rest =>
      have member := bestResult_mem first rest
      rw [codeOutcome] at applied ⊢
      split at applied
      · cases applied
      · rename_i worth
        rw [if_neg worth]
        refine ⟨_, List.mem_map_of_mem member, (List.mem_singleton.mp applied).symm, ?_⟩
        intro kind
        have nothing := Offer.evaluate_freeShipping kind (sound _ member)
        simpa [nothing] using worth

theorem stackAutos_granted {codeDiscount : Int} {offers : List Offer} {outcome last : AutoOutcome}
    (ok : stackAutos targets context codeDiscount outcome offers = .ok last) :
    (outcome.freeShipping = true → last.freeShipping = true) ∧
      ∀ id ∈ last.applied, id ∈ outcome.applied ∨ Granted last.freeShipping offers id := by
  induction offers generalizing outcome with
  | nil =>
      cases ok
      exact ⟨id, fun _ applied => .inl applied⟩
  | cons offer rest ih =>
      rcases bind_eq_ok.mp ok with ⟨result, evaluated, ok⟩
      rcases ih ok with ⟨kept, later⟩
      constructor
      · intro free
        apply kept
        rw [applyAuto]
        split <;> simp [free]
      · intro id applied
        rcases later id applied with here | ⟨other, member, same, grants⟩
        · rw [applyAuto] at here
          split at here
          · exact .inl here
          · rename_i worth
            rcases List.mem_append.mp here with earlier | new
            · exact .inl earlier
            · right
              refine ⟨offer, List.mem_cons_self, (List.mem_singleton.mp new).symm, ?_⟩
              intro kind
              have nothing := Offer.evaluate_freeShipping kind evaluated
              have free : result.freeShipping = true := by simpa [nothing] using worth
              apply kept
              rw [applyAuto, if_neg worth]
              simp [free]
        · exact .inr ⟨other, List.mem_cons_of_mem _ member, same, grants⟩

/-- An applied promotion whose rule is free shipping makes the cart's shipping free. -/
theorem calculateTotal_freeShipping {promotions : List Promotion} {result : DiscountTotalResult}
    (distinct : (promotions.map Promotion.id).Nodup) (subtotal : 0 ≤ context.subtotalCents)
    (ok : calculateTotal promotions context targets = .ok result) {promo : Promotion}
    {rule : DiscountRule} (member : promo ∈ promotions)
    (applied : promo.id ∈ result.appliedPromotionIds) (has_rule : promo.discountRule = some rule)
    (kind : rule.kind = .freeShipping) : result.freeShipping = true := by
  rcases calculateTotal_parts distinct subtotal ok with ⟨results, rivalry, stacked, parts, rfl⟩
  -- The offer behind the id is the promotion's own, so its rule is the promotion's.
  have own {freeShipping : Bool} {offers : List Offer}
      (sources : ∀ offer ∈ offers, offer.promo ∈ promotions)
      (granted : Granted freeShipping offers promo.id) : freeShipping = true := by
    rcases granted with ⟨offer, listed, same, grants⟩
    have promo_eq := List.inj_on_of_nodup_map distinct (sources offer listed) member same
    have rule_eq : offer.rule = rule := by
      have held := offer.has_rule
      rw [promo_eq, has_rule] at held
      exact (Option.some.inj held).symm
    exact grants (rule_eq ▸ kind)
  simp only [trimOverflow_stacked parts.stacked_spec.1, Bool.or_eq_true] at applied ⊢
  rcases List.mem_append.mp applied with code | auto
  · left
    exact own (fun offer listed => (parts.split_.codes offer listed).1)
      (codeOutcome_granted parts.evaluated promo.id code)
  · right
    rcases (stackAutos_granted parts.stack).2 promo.id auto with earlier | granted
    · cases earlier
    · exact own (fun offer kept => (parts.split_.autos offer (parts.kept offer kept)).1) granted

end FreeShipping

section Coupons

theorem Coupon.checkoutCents_le (coupon : Coupon) {subtotalCents : Int} (nonneg : 0 ≤ subtotalCents)
    {lineItems : List CouponLine} {cents : Int}
    (ok : coupon.checkoutCents subtotalCents lineItems = .ok cents) : cents ≤ subtotalCents := by
  rcases map_eq_ok.mp ok with ⟨discount, calculated, rfl⟩
  have bound : discount * 100 ≤ subtotalCents := by
    have whole : (0 : ℚ) ≤ subtotalCents := by exact_mod_cast nonneg
    rw [calculateDiscount] at calculated
    split at calculated
    · cases calculated
      simpa using whole
    · rcases map_eq_ok.mp calculated with ⟨raw, -, rfl⟩
      have limited : coupon.limited raw (subtotalCents / 100) ≤ subtotalCents / 100 := by
        rw [Coupon.limited]
        split
        · exact min_le_right _ _
        · exact min_le_right _ _
      linarith
  rw [Binary64.truncate]
  split
  · rename_i negative
    have upward : ⌈discount * 100⌉ ≤ 0 := Int.ceil_le.mpr (by simpa using negative.le)
    exact upward.trans nonneg
  · exact Int.cast_le.mp ((Int.floor_le (discount * 100)).trans bound)

theorem applyCoupon_spec {coupon : StoredCoupon} {code : String} {subtotalCents : Int}
    (nonneg : 0 ≤ subtotalCents) {lineItems : List CouponLine} {linked : Bool} {now : Time}
    {applied : AppliedCoupon}
    (ok : applyCoupon (some coupon) code subtotalCents lineItems linked now = .ok applied) :
    applied.discountCents ≤ subtotalCents ∧
      applied.freeShipping = decide (coupon.couponType = .freeShipping) := by
  simp only [applyCoupon] at ok
  split at ok
  · cases ok
  · split at ok
    · cases ok
    · split at ok
      · cases ok
      · rename_i cents counted
        cases ok
        exact ⟨coupon.checkoutCents_le nonneg counted, rfl⟩

end Coupons

namespace PrepaidIncentive

theorem incentive_le (rule : PrepaidIncentive) (isCod : Bool) (subtotalCents discountCents : Int) :
    (rule.incentive isCod subtotalCents discountCents).discountCents ≤
      max 0 (subtotalCents - discountCents) := by
  rw [incentive]
  split
  · exact le_max_left _ _
  · simp only
    split
    · exact le_max_left _ _
    · exact min_le_right _ _
    · exact min_le_right _ _

theorem incentive_free {rule : PrepaidIncentive} {isCod : Bool} {subtotalCents : Int}
    (earned : rule.earned isCod subtotalCents = true) (kind : rule.kind = .freeShipping)
    (discountCents : Int) :
    (rule.incentive isCod subtotalCents discountCents).freeShipping = true := by
  rw [incentive, if_neg (by simp [earned])]
  simp [kind]

end PrepaidIncentive

namespace CheckoutCall
variable {call : CheckoutCall}

theorem subtotal_context : 0 ≤ call.context.subtotalCents := by
  simp only [context, linesValue, cartLines, List.map_map]
  apply List.sum_nonneg
  intro amount member
  rcases List.mem_map.mp member with ⟨line, -, rfl⟩
  simp only [Function.comp_apply]
  positivity

/-- The discount has not outgrown the subtotal, and shipping is free if the benefits so far say so. -/
structure WithinCart (call : CheckoutCall) (settled : Discounts) : Prop where
  bounded : settled.discountAmount ≤ call.subtotal
  coupon : ∀ coupon, call.redeemed = some coupon → coupon.couponType = .freeShipping →
    settled.freeShipping = true

theorem afterCoupon_within {settled : Discounts} (ok : call.afterCoupon = .ok settled) :
    WithinCart call settled := by
  rw [afterCoupon] at ok
  split at ok
  · rename_i named
    rcases map_eq_ok.mp ok with ⟨applied, accepted, rfl⟩
    cases stored : call.storedCoupon with
    | none =>
        rw [stored] at accepted
        cases accepted
    | some coupon =>
        rw [stored] at accepted
        rcases applyCoupon_spec (Int.natCast_nonneg _) accepted with ⟨bounded, free⟩
        refine ⟨bounded, ?_⟩
        intro other redeemed kind
        rw [CheckoutCall.redeemed, if_pos named, stored] at redeemed
        cases redeemed
        simpa [kind] using free
  · rename_i unnamed
    cases ok
    refine ⟨Int.natCast_nonneg _, ?_⟩
    intro coupon redeemed
    simp [CheckoutCall.redeemed, unnamed] at redeemed

theorem withOffers_within {settled after : Discounts} {out : CartDiscountsOutput}
    (within : WithinCart call settled) (ok : call.withOffers settled out = .ok after) :
    WithinCart call after ∧ (out.freeShipping = true → after.freeShipping = true) := by
  simp only [withOffers] at ok
  split at ok
  · cases ok
  · -- A code's promotion is capped at the subtotal like the coupon it replaces.
    have replaced : (if call.linkedPromotion.isSome then min out.codeDiscountCents call.subtotal
        else settled.discountAmount) ≤ call.subtotal := by
      split
      · exact min_le_right _ _
      · exact within.bounded
    have kept (coupon : StoredCoupon) (redeemed : call.redeemed = some coupon)
        (kind : coupon.couponType = .freeShipping) :
        (settled.freeShipping || out.freeShipping) = true := by
      rw [within.coupon coupon redeemed kind, Bool.true_or]
    have offered (free : out.freeShipping = true) :
        (settled.freeShipping || out.freeShipping) = true := by
      rw [free, Bool.or_true]
    split at ok
    · cases ok
      exact ⟨⟨replaced, kept⟩, offered⟩
    · cases ok
      refine ⟨⟨?_, kept⟩, offered⟩
      simp only
      omega

theorem afterOffers_within {after : Discounts} (ok : call.afterOffers = .ok after) :
    WithinCart call after ∧ ∀ out, call.hasTenant = true → call.offers = .ok out →
      out.freeShipping = true → after.freeShipping = true := by
  rcases bind_eq_ok.mp ok with ⟨settled, coupon, ok⟩
  have within := afterCoupon_within coupon
  cases tenant : call.hasTenant with
  | false =>
      simp only [tenant] at ok
      split at ok
      · cases ok
      · cases ok
        exact ⟨within, fun out impossible => by cases impossible⟩
  | true =>
      cases computed : call.offers with
      | error message =>
          simp only [tenant, computed] at ok
          split at ok
          · cases ok
          · cases ok
            exact ⟨within, fun out _ impossible => by cases impossible⟩
      | ok out =>
          simp only [tenant, computed] at ok
          have spec := withOffers_within within ok
          refine ⟨spec.1, ?_⟩
          intro other _ same
          cases same
          exact spec.2

theorem offers_freeShipping {eligible : EligiblePromotions} {out : CartDiscountsOutput}
    {promo : Promotion} {rule : DiscountRule} (read : call.eligible = .ok eligible)
    (computed : call.offers = .ok out) (member : promo ∈ eligible.promotions)
    (applied : promo.id ∈ out.appliedPromotionIds) (has_rule : promo.discountRule = some rule)
    (kind : rule.kind = .freeShipping) : out.freeShipping = true := by
  rcases bind_eq_ok.mp computed with ⟨same, reads, computed⟩
  rw [read] at reads
  cases reads
  rcases bind_eq_ok.mp computed with ⟨result, total, built⟩
  cases built
  exact calculateTotal_freeShipping eligible.distinct subtotal_context total member applied has_rule
    kind

/-- The discount stays within the subtotal, and a benefit that frees the shipping does so. -/
theorem charges_within {charges : Charges} (ok : call.charges = .ok charges) :
    charges.discountAmount ≤ call.subtotal ∧
      (call.GrantsFreeShipping → charges.shippingCost = 0) := by
  rcases bind_eq_ok.mp ok with ⟨settled, offered, ok⟩
  rcases bind_eq_ok.mp ok with ⟨shippingCost, priced, same⟩
  cases same
  rcases afterOffers_within offered with ⟨within, free⟩
  have waived (flagged : settled.freeShipping = true) : shippingCost = 0 := by
    rw [CheckoutCall.shippingCost] at priced
    split at priced
    · cases priced
    · cases priced
      simp [flagged]
  constructor
  · have bounded := within.bounded
    have incentive : (call.earnedIncentive settled.discountAmount).discountCents ≤
        max 0 ((call.subtotal : Int) - settled.discountAmount) := by
      rw [earnedIncentive]
      split
      · exact call.prepaid.incentive_le _ _ _
      · exact le_max_left _ _
    simp only
    omega
  · intro grants
    simp only
    split
    · rfl
    · rename_i unearned
      cases grants with
      | coupon redeemed kind => exact waived (within.coupon _ redeemed kind)
      | promotion tenant read computed member applied has_rule kind =>
          exact waived (free _ tenant computed
            (offers_freeShipping read computed member applied has_rule kind))
      | incentive shield earned kind =>
          rw [earnedIncentive, if_pos shield] at unearned
          exact absurd (PrepaidIncentive.incentive_free earned kind _) unearned

end CheckoutCall

/-- What a checkout that returns has stored. -/
theorem place_amounts [UpperCase] {checkout : StorefrontCheckout} {store : Store} {orderId : UUID}
    {orderNumber : String} {now : Time} {order : PlacedOrder}
    (placed : checkout.place store orderId orderNumber now = .ok order) :
    (order.discountAmount : Int) = checkout.discountAmount ∧
      order.shippingCost = checkout.shippingCost ∧
        order.subtotal = (Orders.priceLines checkout.lineItems).2 := by
  unfold StorefrontCheckout.place at placed
  cases resolved : checkout.resolvedTax with
  | error message =>
      rw [resolved] at placed
      cases placed
  | ok resolution =>
      rw [resolved] at placed
      have same := insertPriced_ok placed
      have checked : ¬checkout.discountAmount < 0 := by
        intro negative
        simp only [insertPriced] at placed
        rw [dif_pos (by simp [negative])] at placed
        cases placed
      rw [same]
      exact ⟨Int.toNat_of_nonneg (not_lt.mp checked), rfl, rfl⟩

namespace CheckoutCall
variable {call : CheckoutCall}

/-- Whatever the discounts of a placed order, they are between nothing and its subtotal, its total
is what they leave with the shipping, and a benefit that frees the shipping does so. -/
theorem createOrder_amounts [UpperCase] {store : Store} {orderId : UUID} {orderNumber : String}
    {order : PlacedOrder} (placed : call.createOrder store orderId orderNumber = .ok order) :
    ∃ charges, call.charges = .ok charges ∧
      (order.discountAmount : Int) = charges.discountAmount ∧
      0 ≤ charges.discountAmount ∧ charges.discountAmount ≤ order.subtotal ∧
      0 ≤ (order.subtotal : Int) + order.shippingCost - charges.discountAmount ∧
      (order.total : Int) = order.subtotal + order.shippingCost - charges.discountAmount ∧
      (call.GrantsFreeShipping → order.shippingCost = 0) := by
  rcases bind_eq_ok.mp placed with ⟨charges, settled, placed⟩
  rcases charges_within settled with ⟨bounded, free⟩
  split at placed
  · cases placed
  · rename_i inserted
    cases placed
    rcases place_amounts inserted with ⟨discount, shipping, subtotal⟩
    have total := order.priced.total_eq
    have within : charges.discountAmount ≤ order.subtotal := by
      rw [subtotal]
      exact bounded
    rw [charged] at discount shipping
    simp only at discount shipping
    rw [discount] at total
    refine ⟨charges, settled, discount, ?_, within, ?_, total, ?_⟩
    · rw [← discount]
      exact Int.natCast_nonneg _
    · rw [← total]
      exact Int.natCast_nonneg _
    · intro grants
      rw [shipping, free grants]

end CheckoutCall

theorem fifth_le_hundred : 20 ≤ 100 :=
  Nat.le_add_right 20 80

/-- A fifth off for 80.00, and free shipping. -/
def springOffers : EligiblePromotions where
  promotions := [
    { id := 5, surface := .automatic, discountRule := some (percentOff 20 fifth_le_hundred) },
    { id := 6
      surface := .automatic
      discountRule := some { kind := .freeShipping, validated := rfl } }]
  distinct := by decide

theorem twenty_nonneg : (0 : ℚ) ≤ 20 :=
  Nat.cast_nonneg 20

theorem amount_nonneg_none : ∀ amount ∈ (none : Option ℚ), 0 ≤ amount :=
  fun _ member => nomatch member

/-- A cart of 100.00 to Cairo, paid online, with a coupon of 20.00 and the offers of spring. -/
def springCheckout : CheckoutCall where
  cart := {
    customerId := 1
    lineItems := [{ productId := 1, unitPrice := 10000 }]
    shippingAddress := {}
    shippingCost := 0
    discountAmount := 0
    currency := "EGP"
    paymentMethod := some "card"
    taxSettings := {}
    country := some "EG"
    taxExemptProductIds := [] }
  categoryOf := fun _ => none
  requiresShipping := true
  isCod := false
  couponCode := some "TWENTY"
  storedCoupon := some {
    couponType := .fixed
    value := 20
    value_nonneg := twenty_nonneg
    minOrderAmount_nonneg := amount_nonneg_none
    maxDiscountAmount_nonneg := amount_nonneg_none
    id := 7
    code := "TWENTY" }
  promotionOfCoupon := none
  hasTenant := true
  eligible := .ok springOffers
  targets := none
  promotionCopy := nobodyFound
  resolver := Shipping.riderResolver
  resolveGovernorate := some
  tables := Shipping.cairoTables
  storeShipping := { storeId := 3 }
  shippingRequest := { selectedShippingRateId := some 8, state := some "EG-C" }
  weightG := 500
  codRequested := false
  codShield := true
  prepaid := { enabled := true, kind := .percent }
  now := 0

theorem createOrder_amounts_spring : letI := UpperCase.ascii
    ∃ order charges, springCheckout.createOrder ⟨3, 1, 1⟩ 1 "1001" = .ok order ∧
      springCheckout.charges = .ok charges ∧ charges.discountAmount ≤ order.subtotal ∧
        order.shippingCost = 0 := by
  let _ := UpperCase.ascii
  have accepted : (springCheckout.createOrder ⟨3, 1, 1⟩ 1 "1001").isOk = true := by decide +kernel
  have applied : springCheckout.offers.map CartDiscountsOutput.appliedPromotionIds = .ok [5, 6] := by
    decide +kernel
  cases placed : springCheckout.createOrder ⟨3, 1, 1⟩ 1 "1001" with
  | error problem =>
      rw [placed] at accepted
      cases accepted
  | ok order =>
      rcases map_eq_ok.mp applied with ⟨out, computed, ids⟩
      rcases CheckoutCall.createOrder_amounts placed with
        ⟨charges, settled, -, -, within, -, -, free⟩
      have grants : springCheckout.GrantsFreeShipping :=
        .promotion rfl rfl computed (List.mem_cons_of_mem _ List.mem_cons_self) (by simp [ids]) rfl rfl
      exact ⟨order, charges, rfl, settled, within, free grants⟩

end Numu.Promotions
