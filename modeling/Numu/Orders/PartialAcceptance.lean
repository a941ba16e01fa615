import Mathlib.Algebra.BigOperators.Group.List.Basic
import Mathlib.Algebra.Order.BigOperators.Group.List
import Mathlib.Tactic.IntervalCases
import Numu.Foundation.Rounding
import Numu.Foundation.Outcome
import Numu.Orders.CreateOrder

/-! What a partial acceptance collects of the order's charge. -/

namespace Numu.Orders
open Outcome (bind_eq_ok)

/-- The price of a line by its index in the order; there is none outside. -/
def Order.unitPriceAt (order : Order) (index : Int) : Nat :=
  ((order.lineItems[index.toNat]?).map OrderLineItem.unitPrice).getD 0

/-- The returned units at their list prices. -/
def Order.listValue (order : Order) (returned : List (Int × Int)) : Int :=
  (returned.map fun pair : Int × Int => (order.unitPriceAt pair.1 : Int) * pair.2).sum

/-- A dict of returned quantities within the ordered ones; lines nobody returns are not in it. -/
structure Order.Returnable (order : Order) (returned : List (Int × Int)) : Prop where
  distinct : (returned.map Prod.fst).Nodup
  ordered : ∀ pair ∈ returned, 0 ≤ pair.1 ∧ 1 ≤ pair.2 ∧
    ∃ line, order.lineItems[pair.1.toNat]? = some line ∧ pair.2 ≤ line.quantity

/-- One more unit of a line comes back. -/
def oneMore (returned : List (Int × Int)) (index : Int) : List (Int × Int) :=
  if index ∈ returned.map Prod.fst then
    returned.map fun pair => if pair.1 = index then (pair.1, pair.2 + 1) else pair
  else returned ++ [(index, 1)]

/-- The cash to collect after a partial acceptance; a refused one changes nothing. -/
def Order.cashAfter (order : Order) (returned : List (Int × Int)) (reason : Option String)
    (now : Time) : Nat :=
  match order.recordPartialAcceptance returned reason now with
  | .ok (recorded, _) => recorded.collectibleTotal
  | .error _ => order.collectibleTotal

/-- The agreement of a partial acceptance with what the order charges. -/
structure Order.AgreesWithCharge (order : Order) (returned : List (Int × Int))
    (reason : Option String) (now : Time) : Prop where
  shipping_kept : order.shippingCost ≤ order.cashAfter returned reason now
  at_most_total : order.cashAfter returned reason now ≤ order.total
  nothing_returned : returned = [] → order.cashAfter returned reason now = order.total
  one_more : ∀ index, order.Returnable (oneMore returned index) →
    order.cashAfter (oneMore returned index) reason now ≤ order.cashAfter returned reason now

namespace Order.Priced
variable {order : Order} {line : OrderLineItem}

theorem unitPrice_small (priced : order.Priced) (member : line ∈ order.lineItems) :
    line.unitPrice < 2 ^ 31 := by
  have part : line.totalPrice ≤ order.subtotal := by
    rw [priced.subtotal_eq]
    exact List.single_le_sum (fun _ _ => Nat.zero_le _) _ (List.mem_map_of_mem member)
  have unit : line.unitPrice * 1 ≤ line.unitPrice * line.quantity :=
    Nat.mul_le_mul_left _ line.quantity_pos
  rw [← priced.line_total line member] at unit
  have small := priced.subtotal_fits
  omega

/-- The effective unit price of a line is its unit price: the division is exact. -/
theorem effectiveUnit (priced : order.Priced) (member : line ∈ order.lineItems) :
    Binary64.roundHalfEven (Binary64.trueDiv line.totalPrice line.quantity) = line.unitPrice := by
  have small := priced.unitPrice_small member
  have narrow : line.unitPrice < 2 ^ 53 := by omega
  rw [priced.line_total line member, Binary64.trueDiv_mul_self narrow line.quantity_pos,
    Binary64.roundHalfEven_natCast]

theorem returnedLine_ok (priced : order.Priced) {pair : Int × Int}
    (ordered : 0 ≤ pair.1 ∧ 1 ≤ pair.2 ∧
      ∃ line, order.lineItems[pair.1.toNat]? = some line ∧ pair.2 ≤ line.quantity) :
    ∃ recorded, order.returnedLine pair.1 pair.2 = .ok recorded ∧
      recorded.valueCents = order.unitPriceAt pair.1 * pair.2 := by
  rcases ordered with ⟨index, some_unit, line, found, enough⟩
  have known : ¬pair.1 < 0 := by omega
  have inRange : ¬(pair.2 < 1 ∨ (line.quantity : Int) < pair.2) := by omega
  have unit := priced.effectiveUnit (List.mem_of_getElem? found)
  unfold Order.returnedLine
  simp only [known, if_false, found, inRange]
  refine ⟨_, rfl, ?_⟩
  simp only [unit, unitPriceAt, found, Option.map_some, Option.getD_some]

theorem returnedLines_ok (priced : order.Priced) {returned : List (Int × Int)}
    (ordered : ∀ pair ∈ returned, 0 ≤ pair.1 ∧ 1 ≤ pair.2 ∧
      ∃ line, order.lineItems[pair.1.toNat]? = some line ∧ pair.2 ≤ line.quantity) :
    ∃ lines, order.returnedLines returned = .ok lines ∧
      (lines.map ReturnedLine.valueCents).sum = order.listValue returned := by
  induction returned with
  | nil => exact ⟨[], rfl, rfl⟩
  | cons pair rest ih =>
      rcases priced.returnedLine_ok (ordered pair List.mem_cons_self) with ⟨line, here, value⟩
      rcases ih fun other member => ordered other (List.mem_cons_of_mem _ member) with
        ⟨lines, there, values⟩
      refine ⟨line :: lines, ?_, ?_⟩
      · unfold Order.returnedLines at there ⊢
        rw [List.mapM_cons]
        exact bind_eq_ok.mpr ⟨line, here, bind_eq_ok.mpr ⟨lines, there, rfl⟩⟩
      · simp only [List.map_cons, List.sum_cons, listValue] at values ⊢
        rw [value, values]

/-- What is left of the charge when the returned units are taken off at list price. -/
theorem cashAfter_eq (priced : order.Priced) {returned : List (Int × Int)}
    (within : order.Returnable returned) (reason : Option String) (now : Time) :
    order.cashAfter returned reason now = ((order.total : Int) - order.listValue returned).toNat := by
  rcases eq_or_ne returned [] with rfl | filled
  · simp [cashAfter, recordPartialAcceptance, collectibleTotal, priced.uncollected, listValue]
  · rcases priced.returnedLines_ok within.ordered with ⟨lines, recorded, value⟩
    simp only [cashAfter, recordPartialAcceptance, filled, if_false, recorded]
    simp [collectibleTotal, bind, Except.bind, pure, Except.pure, touch, ← value]

end Order.Priced

theorem listValue_nonneg {order : Order} {returned : List (Int × Int)}
    (within : order.Returnable returned) : 0 ≤ order.listValue returned := by
  unfold Order.listValue
  refine List.sum_nonneg ?_
  intro value member
  rcases List.mem_map.mp member with ⟨pair, listed, rfl⟩
  have units := (within.ordered pair listed).2.1
  positivity

/-- One more unit of a listed line adds its price; the other entries stay. -/
theorem listValue_bump (order : Order) {returned : List (Int × Int)}
    (distinct : (returned.map Prod.fst).Nodup) {index : Int} (listed : index ∈ returned.map Prod.fst) :
    order.listValue
        (returned.map fun pair => if pair.1 = index then (pair.1, pair.2 + 1) else pair) =
      order.listValue returned + order.unitPriceAt index := by
  induction returned with
  | nil => simp at listed
  | cons pair rest ih =>
      rw [List.map_cons, List.nodup_cons] at distinct
      rw [List.map_cons, List.mem_cons] at listed
      simp only [Order.listValue, List.map_cons, List.sum_cons] at ih ⊢
      rcases eq_or_ne pair.1 index with same | other
      · have untouched : (rest.map fun pair =>
            if pair.1 = index then (pair.1, pair.2 + 1) else pair) = rest := by
          refine (List.map_congr_left ?_).trans (List.map_id rest)
          intro entry member
          have apart : entry.1 ≠ index := by
            intro equal
            exact distinct.1 (same ▸ equal ▸ List.mem_map_of_mem member)
          simp [apart]
        rw [untouched, if_pos same, same]
        ring
      · have later : index ∈ rest.map Prod.fst := by
          rcases listed with same | later
          · exact absurd same.symm other
          · exact later
        rw [ih distinct.2 later, if_neg other]
        ring

theorem listValue_oneMore (order : Order) {returned : List (Int × Int)}
    (distinct : (returned.map Prod.fst).Nodup) (index : Int) :
    order.listValue (oneMore returned index) =
      order.listValue returned + order.unitPriceAt index := by
  unfold oneMore
  split_ifs with listed
  · exact listValue_bump order distinct listed
  · simp [Order.listValue]

/-- A partial acceptance agrees with the order's charge exactly when there is no shipping to
keep or the order-level discount fits the units that are not returned. -/
theorem agreesWithCharge_iff (order : PlacedOrder) (returned : List (Int × Int))
    (within : order.Returnable returned) (reason : Option String) (now : Time) :
    order.AgreesWithCharge returned reason now ↔
      order.shippingCost = 0 ∨
        order.listValue returned + order.discountAmount ≤ order.subtotal := by
  have cash := order.priced.cashAfter_eq within reason now
  have total := order.priced.total_eq
  have value := listValue_nonneg within
  constructor
  · intro agrees
    have kept := agrees.shipping_kept
    rw [cash] at kept
    omega
  · intro fits
    refine ⟨?_, ?_, ?_, ?_⟩
    · rw [cash]
      omega
    · rw [cash]
      omega
    · intro empty
      subst empty
      rw [cash]
      simp [Order.listValue]
    · intro index more
      rw [cash, order.priced.cashAfter_eq more, listValue_oneMore _ within.distinct]
      omega

/-- Pieces of 15000 and 5000, with 10000 off the order and 5000 for shipping. -/
def couponOrder : PlacedOrder where
  lineItems := [{ productId := 1, unitPrice := 15000, totalPrice := 15000 },
    { productId := 2, unitPrice := 5000, totalPrice := 5000 }]
  subtotal := 20000
  shippingCost := 5000
  discountAmount := 10000
  total := 15000
  priced := ⟨by decide, rfl, by decide, by decide, rfl⟩

theorem couponOrder_returnable {index : Nat} (inside : index < 2) :
    couponOrder.Returnable [(index, 1)] := by
  refine ⟨by simp, ?_⟩
  intro pair member
  rw [List.mem_singleton] at member
  subst member
  interval_cases index
  · exact ⟨by decide, by decide, _, rfl, by decide⟩
  · exact ⟨by decide, by decide, _, rfl, by decide⟩

/-- The 5000 piece comes back. -/
theorem agreesWithCharge_coupon : couponOrder.AgreesWithCharge [(1, 1)] none 9 :=
  (agreesWithCharge_iff couponOrder [(1, 1)] (couponOrder_returnable (by decide)) none 9).mpr
    (Or.inr (by decide))

/-- The 15000 piece comes back: a piece is kept and shipped, and the courier collects nothing. -/
theorem shipping_not_collected :
    couponOrder.Returnable [(0, 1)] ∧ ¬couponOrder.AgreesWithCharge [(0, 1)] none 9 := by
  refine ⟨couponOrder_returnable (by decide), ?_⟩
  intro agrees
  have kept := agrees.shipping_kept
  revert kept
  decide +kernel

end Numu.Orders
