import Numu.Foundation.Rescale
import Numu.Promotions.Accounting

/-! The snapshot of the automatic promotions that an order keeps. -/

namespace Numu.Promotions
open Numu.Orders (UUID)
open Numu.Outcome (bind_eq_ok)
open UuidText (writeUuid)

/-- `translations["ar"].headline`. -/
structure Headline where
  ar : Option String := none
  /-- `str(headline)`. -/
  text : String

structure PromotionCopy where
  name : String
  arHeadline : Option Headline := none

structure AppliedPromotion where
  id : String
  title : String
  titleAr : Option String
  amount : Int

def orElse (text : Option String) (otherwise : String) : String :=
  match text with
  | none => otherwise
  | some text => if text = "" then otherwise else text

def titleOf (copy : Option PromotionCopy) : String :=
  orElse (copy.map PromotionCopy.name) "Discount"

def titleArOf (copy : Option PromotionCopy) : Option String :=
  match copy.bind PromotionCopy.arHeadline with
  | none => none
  | some headline =>
      let title := orElse headline.ar headline.text
      if title = "" then none else some title

/-- What checkout charged for, out of the engine's own amounts; empty where these say nothing. -/
def scaledAmounts (totalAutomaticCents : Int) : Option (Table String Int) → Table String Int
  | none => .empty
  | some amounts =>
      let engineTotal := amounts.sumOf fun amount => amount
      if 0 < engineTotal then
        if engineTotal = totalAutomaticCents then amounts
        else amounts.rescale engineTotal totalAutomaticCents
      else .empty

def amountOf (scaled : Table String Int) (totalAutomaticCents : Int) (pid : UUID) (index : Nat) :
    Int :=
  if scaled.rows = [] then if index = 0 then totalAutomaticCents else 0
  else (scaled.get? (writeUuid pid)).getD 0

/-- `_build_applied_promotions`. A promotion that cannot be loaded keeps its entry. -/
def buildAppliedPromotions (getById : UUID → Except String (Option PromotionCopy))
    (promotionIds : List UUID) (totalAutomaticCents : Int)
    (amountsByPromotion : Option (Table String Int)) : List AppliedPromotion :=
  let scaled := scaledAmounts totalAutomaticCents amountsByPromotion
  promotionIds.zipIdx.map fun entry =>
    let copy := (getById entry.1).toOption.join
    { id := writeUuid entry.1
      title := titleOf copy
      titleAr := titleArOf copy
      amount := amountOf scaled totalAutomaticCents entry.1 entry.2 }

section Scaled
variable {totalAutomaticCents : Int} {amounts : Option (Table String Int)}

end Scaled

/-- The breakdown that checkout passes on, out of the engine's entries. -/
def breakdownOf (entries : List (UUID × Int)) : Table String Int :=
  .ofList (entries.map fun entry => (writeUuid entry.1, entry.2))

section Engine
variable {targets : TargetsByPromotion} {context : DiscountContext} {codeDiscount : Int}

theorem applyAuto_entries {outcome : AutoOutcome}
    (nonneg : ∀ id, 0 ≤ (outcome.byPromotion.get? id).getD 0) (id : UUID) (result : DiscountResult) :
    ∀ other, 0 ≤ ((applyAuto outcome id result).byPromotion.get? other).getD 0 := by
  intro other
  rw [applyAuto]
  split
  · exact nonneg other
  · simp only
    split
    · rename_i saving
      rw [Table.get?_set]
      split
      · exact saving.le
      · exact nonneg other
    · exact nonneg other

theorem stackAutos_entries {offers : List Offer} {outcome last : AutoOutcome}
    (nonneg : ∀ id, 0 ≤ (outcome.byPromotion.get? id).getD 0)
    (ok : stackAutos targets context codeDiscount outcome offers = .ok last) :
    ∀ id, 0 ≤ (last.byPromotion.get? id).getD 0 := by
  induction offers generalizing outcome with
  | nil =>
      cases ok
      exact nonneg
  | cons offer rest ih =>
      rcases bind_eq_ok.mp ok with ⟨result, -, ok⟩
      exact ih (applyAuto_entries nonneg offer.id result) ok

/-- What the engine reports of a promotion is never negative, as the snapshot expects. -/
theorem calculateTotal_entry_nonneg {promotions : List Promotion} {result : DiscountTotalResult}
    (distinct : (promotions.map Promotion.id).Nodup) (subtotal : 0 ≤ context.subtotalCents)
    (ok : calculateTotal promotions context targets = .ok result) (id : UUID) :
    0 ≤ result.entry id := by
  rcases calculateTotal_parts distinct subtotal ok with ⟨results, rivalry, stacked, parts, rfl⟩
  have initial : ∀ other, 0 ≤ ((codeEntries (codeOutcome results)).get? other).getD 0 := by
    intro other
    rw [codeEntries_get? parts.report.at_most_one]
    split
    · exact parts.report.nonneg
    · exact le_refl 0
  rw [DiscountTotalResult.entry, trimOverflow_stacked parts.stacked_spec.1]
  exact stackAutos_entries initial parts.stack id

end Engine

def nobodyFound (_ : UUID) : Except String (Option PromotionCopy) := .ok none

end Numu.Promotions
