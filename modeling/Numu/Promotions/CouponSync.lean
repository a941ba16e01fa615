import Numu.Foundation.Rounding
import Numu.Promotions.Coupon

/-! A rule copied into a coupon takes the same amount off as the rule itself. -/

namespace Numu.Promotions
open Coupon (checkoutCents offerTier)
open DiscountRule (winningTier)
open Binary64 (truncate_of_nonneg)

/-- The kinds of a rule that a coupon can express. -/
def projectedKinds : List DiscountRuleKind := [.percentage, .fixed, .freeShipping, .tiered]

theorem major_mul (cents : Nat) : major cents * 100 = cents := by
  unfold major
  ring

theorem minor_mul (cents : Int) : (cents : ℚ) / 100 * 100 = cents := by
  ring

/-- A percentage in the two units. -/
theorem floor_percent (cents : Int) (percent : Nat) :
    ⌊(cents : ℚ) / 100 * percent / 100 * 100⌋ = cents * percent / 100 := by
  calc
    _ = ⌊((cents * percent : Int) : ℚ) / (100 : Nat)⌋ := by
      congr 1
      push_cast
      ring
    _ = cents * percent / 100 := Rat.floor_intCast_div_natCast _ _

/-- The limits of the coupon are those of the rule. -/
theorem floor_limited {coupon : Coupon} {rule : DiscountRule} {context : DiscountContext}
    (most : coupon.maxDiscountAmount = rule.maxDiscountCents.map major)
    (subtotal : 0 ≤ context.subtotalCents) {discount : ℚ} (nonneg : 0 ≤ discount) :
    Binary64.truncate (coupon.limited discount (context.subtotalCents / 100) * 100) =
      rule.cap ⌊discount * 100⌋ context := by
  have hundred : (0 : ℚ) ≤ 100 := by norm_num
  have scaled (a b : ℚ) : ⌊min a b * 100⌋ = min ⌊a * 100⌋ ⌊b * 100⌋ := by
    rw [min_mul_of_nonneg a b hundred]
    exact Int.floor_mono.map_min
  have whole : ⌊(context.subtotalCents : ℚ) / 100 * 100⌋ = context.subtotalCents := by
    rw [minor_mul, Int.floor_intCast]
  have floor : 0 ≤ ⌊discount * 100⌋ := Int.floor_nonneg.mpr (mul_nonneg nonneg hundred)
  have order : (0 : ℚ) ≤ context.subtotalCents / 100 := by positivity
  unfold Coupon.limited DiscountRule.cap
  rw [most]
  cases rule.maxDiscountCents with
  | none =>
      have least := mul_nonneg (le_min nonneg order) hundred
      simp only [Option.map_none]
      rw [truncate_of_nonneg least, scaled, whole, max_eq_right floor]
  | some limit =>
      have least := mul_nonneg (le_min (le_min nonneg (major_nonneg limit)) order) hundred
      simp only [Option.map_some]
      rw [truncate_of_nonneg least, scaled, scaled, whole, major_mul, Int.floor_natCast,
        max_eq_right floor]

/-- The best threshold and percentage of the coupon's loop. -/
def bestTerms : Option DiscountTier → Int × ℚ
  | none => (-1, 0)
  | some tier => (tier.thresholdCents, tier.percent)

theorem winningTier_eq (orderCents : Int) (best : Option DiscountTier) (tier : DiscountTier) :
    winningTier orderCents best tier =
      if tier.thresholdCents ≤ orderCents ∧ (bestTerms best).1 < tier.thresholdCents then some tier
      else best := by
  unfold winningTier
  cases best with
  | none =>
      have above : (bestTerms none).1 < tier.thresholdCents := by
        simp only [bestTerms]
        omega
      by_cases reached : tier.thresholdCents ≤ orderCents
      · rw [if_neg (not_lt.mpr reached), if_pos ⟨reached, above⟩]
      · rw [if_pos (not_le.mp reached), if_neg (fun both => reached both.1)]
  | some held =>
      by_cases reached : tier.thresholdCents ≤ orderCents
      · simp only [bestTerms, if_neg (not_lt.mpr reached), reached, true_and, Nat.cast_lt]
      · rw [if_pos (not_le.mp reached), if_neg (fun both => reached both.1)]

theorem offerTier_document (orderCents : Int) (best : Option DiscountTier) (tier : DiscountTier) :
    offerTier orderCents (bestTerms best) (tierDocument tier) =
      .ok (bestTerms (winningTier orderCents best tier)) := by
  have threshold : Json.Fields.get [("min_subtotal_cents", .int tier.thresholdCents),
      ("discount_percentage", .int tier.percent)] "min_subtotal_cents" .null =
        .int tier.thresholdCents := rfl
  have percent : Json.Fields.get [("min_subtotal_cents", .int tier.thresholdCents),
      ("discount_percentage", .int tier.percent)] "discount_percentage" .null =
        .int tier.percent := rfl
  rw [winningTier_eq]
  simp only [tierDocument, offerTier, threshold, percent, Coupon.wholeNumber, Coupon.decimalOf]
  split
  · simp [Except.map, bestTerms]
  · rfl

theorem foldlM_offerTier (orderCents : Int) (tiers : List DiscountTier)
    (best : Option DiscountTier) :
    (tiers.map tierDocument).foldlM (offerTier orderCents) (bestTerms best) =
      .ok (bestTerms (tiers.foldl (winningTier orderCents) best)) := by
  induction tiers generalizing best with
  | nil => rfl
  | cons tier rest ih =>
      rw [List.map_cons, List.foldlM_cons, offerTier_document, List.foldl_cons, ← ih]
      rfl

theorem truncate_minor (cents : Int) : Binary64.truncate ((cents : ℚ) / 100 * 100) = cents := by
  rw [minor_mul, Binary64.truncate]
  split
  · exact Int.ceil_intCast cents
  · exact Int.floor_intCast cents

/-- What the coupon of a ladder takes off before its limits. -/
theorem calculateTieredDiscount_document (tiers : List DiscountTier) (orderCents : Int) :
    Coupon.calculateTieredDiscount (some [("tiers", .arr (tiers.map tierDocument))])
        (orderCents / 100) =
      .ok (orderCents / 100 * (bestTerms (tiers.foldl (winningTier orderCents) none)).2 / 100) := by
  have listed : Json.Fields.get [("tiers", .arr (tiers.map tierDocument))] "tiers" .null =
      .arr (tiers.map tierDocument) := rfl
  have run := foldlM_offerTier orderCents tiers none
  rw [show bestTerms none = (-1, 0) from rfl] at run
  simp only [Coupon.calculateTieredDiscount, Option.getD_some, listed, truncate_minor, run]
  rfl

section Agreement
variable {coupon synced : Coupon} {rule : DiscountRule} {context : DiscountContext}

theorem checkoutCents_of_typeDiscount (lines : List CouponLine)
    (most : coupon.maxDiscountAmount = rule.maxDiscountCents.map major)
    (priced : coupon.couponType ≠ .freeShipping) (subtotal : 0 ≤ context.subtotalCents)
    {discount : ℚ} (nonneg : 0 ≤ discount)
    (found : coupon.typeDiscount (context.subtotalCents / 100) lines = .ok discount) :
    coupon.checkoutCents context.subtotalCents lines =
      .ok (rule.cap ⌊discount * 100⌋ context) := by
  rw [checkoutCents, Coupon.calculateDiscount, if_neg priced, found]
  exact congrArg Except.ok (floor_limited most subtotal nonneg)

theorem bestTerms_nonneg (best : Option DiscountTier) : 0 ≤ (bestTerms best).2 := by
  cases best with
  | none => exact le_refl 0
  | some tier => exact Nat.cast_nonneg tier.percent

theorem cap_zero (subtotal : 0 ≤ context.subtotalCents) : rule.cap 0 context = 0 := by
  unfold DiscountRule.cap
  cases rule.maxDiscountCents with
  | none => exact min_eq_left subtotal
  | some limit =>
      simp only
      omega

/-- A fixed amount is limited to the subtotal once more by the cap. -/
theorem cap_min_subtotal (raw : Int) (subtotal : 0 ≤ context.subtotalCents) :
    rule.cap (min raw context.subtotalCents) context = rule.cap raw context := by
  unfold DiscountRule.cap
  cases rule.maxDiscountCents with
  | none =>
      simp only
      omega
  | some limit =>
      simp only
      omega

theorem tiered_discountCents (subtotal : 0 ≤ context.subtotalCents) :
    let best := rule.tiers.foldl (winningTier context.subtotalCents) none
    (rule.tiered context).discountCents =
      rule.cap ⌊(context.subtotalCents : ℚ) / 100 * (bestTerms best).2 / 100 * 100⌋ context := by
  intro best
  unfold DiscountRule.tiered
  cases found : rule.tiers.foldl (winningTier context.subtotalCents) none with
  | none =>
      have nothing : rule.cap 0 context = 0 := cap_zero subtotal
      simp [best, found, bestTerms, nothing]
  | some winning => simp only [best, found, bestTerms, floor_percent]

theorem syncedCoupon_most (found : syncedCoupon coupon rule = some synced) :
    synced.maxDiscountAmount = rule.maxDiscountCents.map major := by
  unfold syncedCoupon at found
  cases kind : rule.kind with
  | bogo | multibuy | bundle => simp only [kind, reduceCtorEq] at found
  | _ =>
      simp only [kind, Option.some.injEq] at found
      rw [← found]
      rfl

/-- By the kind of the rule. The coupon's amount before the limits is the rule's in major units. -/
theorem synced_agrees (found : syncedCoupon coupon rule = some synced)
    (subtotal : 0 ≤ context.subtotalCents) (reached : rule.belowMinimum context = false)
    (lines : List CouponLine) (legFilters : Option (List (Option LineFilter))) :
    synced.checkoutCents context.subtotalCents lines =
      .ok (rule.calculate context none none legFilters).discountCents := by
  have order : (0 : ℚ) ≤ context.subtotalCents / 100 := by positivity
  have most := syncedCoupon_most found
  unfold syncedCoupon at found
  rw [DiscountRule.calculate, reached, if_neg Bool.false_ne_true]
  cases kind : rule.kind with
  | percentage =>
      simp only [kind, Option.some.injEq] at found
      have typed : synced.couponType = .percentage := by rw [← found]
      have value : synced.value = (rule.valuePercent.getD 0 : Nat) := by rw [← found]
      have worth : synced.typeDiscount (context.subtotalCents / 100) lines =
          .ok (context.subtotalCents / 100 * (rule.valuePercent.getD 0 : Nat) / 100) := by
        simp only [Coupon.typeDiscount, typed, value]
      rw [checkoutCents_of_typeDiscount lines most (by simp [typed]) subtotal (by positivity) worth,
        floor_percent]
      rfl
  | fixed =>
      simp only [kind, Option.some.injEq] at found
      have typed : synced.couponType = .fixed := by rw [← found]
      have value : synced.value = major (rule.valueCents.getD 0) := by rw [← found]
      have worth : synced.typeDiscount (context.subtotalCents / 100) lines =
          .ok (min (major (rule.valueCents.getD 0)) (context.subtotalCents / 100)) := by
        simp only [Coupon.typeDiscount, typed, value]
      rw [checkoutCents_of_typeDiscount lines most (by simp [typed]) subtotal
        (le_min (major_nonneg _) order) worth, min_mul_of_nonneg _ _ (by norm_num), major_mul,
        minor_mul, ← Int.cast_natCast, ← Int.cast_min, Int.floor_intCast,
        cap_min_subtotal _ subtotal]
      rfl
  | freeShipping =>
      simp only [kind, Option.some.injEq] at found
      have typed : synced.couponType = .freeShipping := by rw [← found]
      rw [checkoutCents, Coupon.calculateDiscount, if_pos typed]
      simp [Except.map, Binary64.truncate]
  | tiered =>
      simp only [kind, Option.some.injEq] at found
      have typed : synced.couponType = .tiered := by rw [← found]
      have config : synced.config = some [("tiers", .arr (rule.tiers.map tierDocument))] := by
        rw [← found]
      have worth := calculateTieredDiscount_document rule.tiers context.subtotalCents
      rw [← config] at worth
      have nonneg := bestTerms_nonneg (rule.tiers.foldl (winningTier context.subtotalCents) none)
      have taken : synced.typeDiscount (context.subtotalCents / 100) lines =
          Coupon.calculateTieredDiscount synced.config (context.subtotalCents / 100) := by
        simp only [Coupon.typeDiscount, typed]
      rw [checkoutCents_of_typeDiscount lines most (by simp [typed]) subtotal (by positivity)
        (taken.trans worth), tiered_discountCents subtotal]
  | _ => simp only [kind, reduceCtorEq] at found

theorem syncedCoupon_of_projected (coupon : Coupon) (projected : rule.kind ∈ projectedKinds) :
    ∃ synced, syncedCoupon coupon rule = some synced := by
  unfold syncedCoupon
  cases kind : rule.kind with
  | bogo | multibuy | bundle => simp [kind, projectedKinds] at projected
  | _ => exact ⟨_, rfl⟩

end Agreement

/-- The coupon a rule is copied into takes off at checkout what the rule takes off an unscoped
cart of the same subtotal, whatever the coupon was before. -/
theorem syncCouponRule_agrees (coupon : Coupon) (rule : DiscountRule) (activate : Bool)
    (projected : rule.kind ∈ projectedKinds) (context : DiscountContext)
    (subtotal : 0 ≤ context.subtotalCents) (reached : rule.belowMinimum context = false)
    (lines : List CouponLine) (legFilters : Option (List (Option LineFilter))) :
    (syncCouponRule coupon (some rule) activate).1.checkoutCents context.subtotalCents lines =
      .ok (rule.calculate context none none legFilters).discountCents := by
  set active := if activate then { coupon with isActive := true } else coupon
  rcases syncedCoupon_of_projected active projected with ⟨synced, found⟩
  have same : (syncCouponRule coupon (some rule) activate).1 = synced := by
    simp only [syncCouponRule, Option.bind_some, active] at found ⊢
    rw [found]
  rw [same]
  exact synced_agrees found subtotal reached lines legFilters

def tenOrFifteen : DiscountRule where
  kind := .tiered
  tiers := [⟨50000, 10, by decide⟩, ⟨100000, 15, by decide⟩]
  minSubtotalCents := some 60000
  maxDiscountCents := some 20000

def plainCoupon : Coupon where
  couponType := .fixed

theorem syncCouponRule_agrees_tiers :
    (syncCouponRule plainCoupon (some tenOrFifteen) true).1.checkoutCents 123456 [] =
      .ok 18518 :=
  syncCouponRule_agrees _ tenOrFifteen true (by decide)
    { subtotalCents := 123456, lineItems := [] } (by decide) (by decide) [] none

end Numu.Promotions
