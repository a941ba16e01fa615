import Mathlib.Data.List.Perm.Subperm
import Numu.Promotions.Scope

/-! Which units a buy-and-get rule gives away, and which units have to pay for them. -/

namespace Numu.Promotions
open DiscountRule (totalUnits giveUnits)

theorem unitsOf_cons (line : CartLine) (lines : List CartLine) :
    unitsOf (line :: lines) =
      List.replicate line.quantity.toNat ⟨line.unitPriceCents, line.productId, line⟩ ++
        unitsOf lines :=
  List.flatMap_cons

theorem unitsOf_perm {first second : List CartLine} (same : first.Perm second) :
    (unitsOf first).Perm (unitsOf second) :=
  same.flatMap_right _

theorem length_unitsOf {lines : List CartLine} (sellable : Sellable lines) :
    ((unitsOf lines).length : Int) = totalUnits lines := by
  induction lines with
  | nil => rfl
  | cons line rest ih =>
      have quantity := (sellable line List.mem_cons_self).1
      have later := ih fun other member => sellable other (List.mem_cons_of_mem _ member)
      rw [unitsOf_cons, List.length_append, List.length_replicate]
      simp only [totalUnits, List.map_cons, List.sum_cons] at later ⊢
      omega

theorem countP_unitsOf (lines : List CartLine) (scope : LineFilter) :
    (unitsOf lines).countP (fun unit => scope unit.line) = (unitsOf (lines.filter scope)).length := by
  rw [List.countP_eq_length_filter, unitsOf_filter]

/-- What a percentage takes off one unit. -/
def unitOff (percent : Nat) (unit : CartUnit) : Int := unit.priceCents * percent / 100

theorem unitOff_pos {percent : Nat} {unit : CartUnit} :
    0 < unitOff percent unit ↔ 100 ≤ unit.priceCents * percent := by
  unfold unitOff
  omega

namespace DiscountRule

/-- The lines are scanned one after another, which takes the first units of all. -/
theorem giveUnits_eq (percent : Nat) {lines : List CartLine} (sellable : Sellable lines)
    (remaining : Int) :
    (giveUnits percent remaining lines).1 =
      (((unitsOf lines).take remaining.toNat).map (unitOff percent)).sum := by
  induction lines generalizing remaining with
  | nil => simp [giveUnits, unitsOf]
  | cons line rest ih =>
      have quantity := (sellable line List.mem_cons_self).1
      have later := ih fun other member => sellable other (List.mem_cons_of_mem _ member)
      rw [giveUnits]
      split
      · rename_i done
        rw [Int.toNat_of_nonpos done, List.take_zero]
        rfl
      · rename_i left_
        have rest_ : (remaining - min line.quantity remaining).toNat =
            remaining.toNat - line.quantity.toNat := by omega
        have off : unitOff percent ⟨line.unitPriceCents, line.productId, line⟩ =
            line.unitPriceCents * percent / 100 := rfl
        have count : ((min remaining.toNat line.quantity.toNat : Nat) : Int) =
            min line.quantity remaining := by omega
        rw [unitsOf_cons, List.take_append, List.length_replicate, List.take_replicate,
          List.map_append, List.sum_append, List.map_replicate, List.sum_replicate, off,
          nsmul_eq_mul, count, ← rest_, ← later]
        simp only [mul_comm]

end DiscountRule

/-- The units of a scope, cheapest first. -/
def cheapestUnits (lines : List CartLine) (scope : LineFilter) : List CartUnit :=
  unitsOf ((lines.insertionSort fun a b => a.unitPriceCents ≤ b.unitPriceCents).filter scope)

theorem cheapestUnits_perm (lines : List CartLine) (scope : LineFilter) :
    (cheapestUnits lines scope).Perm (unitsOf (lines.filter scope)) :=
  unitsOf_perm ((List.perm_insertionSort _ lines).filter scope)

theorem cheapestUnits_subperm (lines : List CartLine) (scope : LineFilter) :
    (cheapestUnits lines scope).Subperm (unitsOf lines) := by
  apply (cheapestUnits_perm lines scope).subperm.trans
  rw [← unitsOf_filter]
  exact List.filter_sublist.subperm

theorem cheapestUnits_scope {lines : List CartLine} {scope : LineFilter} {unit : CartUnit}
    (member : unit ∈ cheapestUnits lines scope) : scope unit.line = true :=
  (List.mem_filter.mp (mem_unitsOf member).1).2

theorem cheapestUnits_priced {lines : List CartLine} (sellable : Sellable lines)
    {scope : LineFilter} : ∀ unit ∈ cheapestUnits lines scope, 0 ≤ unit.priceCents := by
  intro unit member
  rcases mem_unitsOf ((cheapestUnits_perm lines scope).mem_iff.mp member) with ⟨listed, price⟩
  rw [price]
  exact (sellable unit.line (List.mem_filter.mp listed).1).2

theorem totalUnits_perm {first second : List CartLine} (same : first.Perm second) :
    totalUnits first = totalUnits second :=
  (same.map _).sum_eq

/-- Units of one kind can be set aside next to others as long as they are numerous enough. -/
theorem exists_beside {units taken : List CartUnit} (fits : CartUnit → Bool) (count : Nat)
    (part : taken.Subperm units) :
    (∃ chosen : List CartUnit, (chosen ++ taken).Subperm units ∧
      (∀ unit ∈ chosen, fits unit = true) ∧ chosen.length = count) ↔
        count + taken.countP fits ≤ units.countP fits := by
  constructor
  · rintro ⟨chosen, beside, fit, enough⟩
    have counted := beside.countP_le fits
    rw [List.countP_append, List.countP_eq_length.mpr fit, enough] at counted
    exact counted
  · intro room
    rcases part with ⟨same, perm, sublist⟩
    rcases sublist.exists_perm_append with ⟨rest, split_⟩
    have whole : units.Perm (rest ++ taken) :=
      split_.trans ((perm.append_right rest).trans List.perm_append_comm)
    have counted := whole.countP_eq fits
    rw [List.countP_append] at counted
    refine ⟨(rest.filter fits).take count, ?_, ?_, ?_⟩
    · have inside : ((rest.filter fits).take count).Sublist rest :=
        (List.take_sublist _ _).trans List.filter_sublist
      exact (inside.append_right taken).subperm.trans whole.symm.subperm
    · intro unit member
      exact (List.mem_filter.mp (List.mem_of_mem_take member)).2
    · rw [List.length_take, ← List.countP_eq_length_filter]
      omega

namespace DiscountRule

/-- The units that a rule over two scopes gives away. -/
def givenUnits (rule : DiscountRule) (context : DiscountContext) (buyScope getScope : LineFilter) :
    List CartUnit :=
  let bundles := rule.bogoBundles context.lineItems (some buyScope) (some getScope)
  (cheapestUnits context.lineItems getScope).take (bundles * rule.getQuantity.getD 1).toNat

theorem bogoBundles_perm (rule : DiscountRule) {first second : List CartLine}
    (same : first.Perm second) (buyFilter getFilter : Option LineFilter) :
    rule.bogoBundles first buyFilter getFilter = rule.bogoBundles second buyFilter getFilter := by
  have side (filter : Option LineFilter) :
      totalUnits (eligible filter first) = totalUnits (eligible filter second) := by
    cases filter with
    | none => exact totalUnits_perm same
    | some accepts => exact totalUnits_perm (same.filter accepts)
  simp only [bogoBundles, side, totalUnits_perm same]

/-- The number of bundles that each scope affords by itself. -/
theorem bogoBundles_scoped (rule : DiscountRule) {lines : List CartLine} (sellable : Sellable lines)
    (buyScope getScope : LineFilter) :
    rule.bogoBundles lines (some buyScope) (some getScope) =
      ((min ((unitsOf (lines.filter buyScope)).length / rule.buyQuantity.getD 1)
        ((unitsOf (lines.filter getScope)).length / rule.getQuantity.getD 1) : Nat) : Int) := by
  simp [bogoBundles, eligible, ← length_unitsOf (sellable.filter _)]

/-- What a rule over two scopes takes off, from the units that it gives away. -/
theorem bogo_discountCents (rule : DiscountRule) {context : DiscountContext}
    (sellable : Sellable context.lineItems) (buyScope getScope : LineFilter) :
    (rule.bogo context (some buyScope) (some getScope)).discountCents =
      if rule.bogoBundles context.lineItems (some buyScope) (some getScope) = 0 then 0
      else rule.cap (((rule.givenUnits context buyScope getScope).map
        (unitOff (rule.getDiscountPercent.getD 100))).sum) context := by
  set sorted := context.lineItems.insertionSort fun a b => a.unitPriceCents ≤ b.unitPriceCents
    with hsorted
  have perm : sorted.Perm context.lineItems := List.perm_insertionSort _ _
  have sold : Sellable (sorted.filter getScope) := fun line member =>
    sellable line (perm.mem_iff.mp (List.mem_filter.mp member).1)
  have same := rule.bogoBundles_perm perm (some buyScope) (some getScope)
  simp only [bogo, ← hsorted, same]
  split
  · rfl
  · simp only [eligible, giveUnits_eq _ sold, givenUnits, cheapestUnits, ← hsorted]

theorem cap_pos {rule : DiscountRule} {raw : Int} {context : DiscountContext} :
    0 < rule.cap raw context ↔
      0 < raw ∧ 0 < context.subtotalCents ∧ rule.maxDiscountCents ≠ some 0 := by
  unfold cap
  cases rule.maxDiscountCents with
  | none => simp
  | some limit => simp [Nat.pos_iff_ne_zero, and_comm]

theorem sum_unitOff_pos {percent : Nat} {units : List CartUnit}
    (priced : ∀ unit ∈ units, 0 ≤ unit.priceCents) :
    0 < (units.map (unitOff percent)).sum ↔
      ∃ unit ∈ units, 100 ≤ unit.priceCents * percent := by
  have nonneg : ∀ off ∈ units.map (unitOff percent), 0 ≤ off := by
    intro off member
    rcases List.mem_map.mp member with ⟨unit, listed, rfl⟩
    exact Int.ediv_nonneg (mul_nonneg (priced unit listed) (Int.natCast_nonneg _)) (by decide)
  constructor
  · intro positive
    by_contra none_
    have zero : ∀ off ∈ units.map (unitOff percent), off = 0 := by
      intro off member
      have floor := nonneg off member
      rcases List.mem_map.mp member with ⟨unit, listed, rfl⟩
      by_contra other
      exact none_ ⟨unit, listed, unitOff_pos.mp (by omega)⟩
    rw [List.sum_eq_zero zero] at positive
    exact absurd positive (by decide)
  · rintro ⟨unit, listed, worth⟩
    exact (unitOff_pos.mpr worth).trans_le
      (List.single_le_sum nonneg _ (List.mem_map_of_mem listed))

/-- The cart holds the units that a number of bundles has to be bought with, next to the units
given away for them. -/
def Qualified (rule : DiscountRule) (context : DiscountContext) (buyScope getScope : LineFilter)
    (bundles : Int) : Prop :=
  let given := rule.givenUnits context buyScope getScope
  ∃ bought : List CartUnit, (bought ++ given).Subperm (unitsOf context.lineItems) ∧
    (∀ unit ∈ bought, buyScope unit.line = true) ∧
    (bought.length : Int) = bundles * rule.buyQuantity.getD 1 ∧
    (∀ unit ∈ given, getScope unit.line = true) ∧
    (given.length : Int) ≤ bundles * rule.getQuantity.getD 1

theorem buyQuantity_one_le (rule : DiscountRule) : 1 ≤ rule.buyQuantity.getD 1 := by
  cases given : rule.buyQuantity with
  | none => exact le_refl 1
  | some quantity => exact rule.buyQuantity_pos quantity given

theorem getQuantity_one_le (rule : DiscountRule) : 1 ≤ rule.getQuantity.getD 1 := by
  cases given : rule.getQuantity with
  | none => exact le_refl 1
  | some quantity => exact rule.getQuantity_pos quantity given

/-- Some unit of these has something to come off. -/
def Worth (rule : DiscountRule) (units : List CartUnit) : Prop :=
  ∃ unit ∈ units, 100 ≤ unit.priceCents * rule.getDiscountPercent.getD 100

/-- The units bought and the units given away find room in the cart together. -/
def Room (rule : DiscountRule) (lines : List CartLine) (buyScope getScope : LineFilter)
    (bundles : Nat) : Prop :=
  bundles * rule.buyQuantity.getD 1 +
      ((cheapestUnits lines getScope).take (bundles * rule.getQuantity.getD 1)).countP
        (fun unit => buyScope unit.line) ≤
    (unitsOf (lines.filter buyScope)).length

/-- However many bundles the two scopes hold one at a time, the cart has room for both sides of
them. Bundles that nothing comes off do not matter. -/
def HoldsBoth (rule : DiscountRule) (context : DiscountContext) (buyScope getScope : LineFilter) :
    Prop :=
  let lines := context.lineItems
  ∀ bundles : Nat,
    bundles * rule.buyQuantity.getD 1 ≤ (unitsOf (lines.filter buyScope)).length →
      bundles * rule.getQuantity.getD 1 ≤ (unitsOf (lines.filter getScope)).length →
        rule.Worth ((cheapestUnits lines getScope).take (bundles * rule.getQuantity.getD 1)) →
          rule.Room lines buyScope getScope bundles

theorem Room.fewer {rule : DiscountRule} {lines : List CartLine} {buyScope getScope : LineFilter}
    {fewer bundles : Nat} (room : rule.Room lines buyScope getScope bundles)
    (less : fewer ≤ bundles) : rule.Room lines buyScope getScope fewer := by
  have bought : fewer * rule.buyQuantity.getD 1 ≤ bundles * rule.buyQuantity.getD 1 :=
    Nat.mul_le_mul_right _ less
  have given : fewer * rule.getQuantity.getD 1 ≤ bundles * rule.getQuantity.getD 1 :=
    Nat.mul_le_mul_right _ less
  have part := (List.take_prefix_take_left (l := cheapestUnits lines getScope) given).sublist
  have counted := part.countP_le (p := fun unit => buyScope unit.line)
  unfold Room at room ⊢
  omega

theorem qualified_iff_room (rule : DiscountRule) (context : DiscountContext)
    (buyScope getScope : LineFilter) {bundles : Nat}
    (same : rule.bogoBundles context.lineItems (some buyScope) (some getScope) = bundles) :
    rule.Qualified context buyScope getScope bundles ↔
      rule.Room context.lineItems buyScope getScope bundles := by
  have given : rule.givenUnits context buyScope getScope =
      (cheapestUnits context.lineItems getScope).take (bundles * rule.getQuantity.getD 1) := by
    simp only [givenUnits, same]
    congr 1
  have part : (rule.givenUnits context buyScope getScope).Subperm (unitsOf context.lineItems) := by
    rw [given]
    exact (List.take_sublist _ _).subperm.trans (cheapestUnits_subperm _ _)
  have scoped_ : ∀ unit ∈ rule.givenUnits context buyScope getScope,
      getScope unit.line = true := by
    intro unit member
    rw [given] at member
    exact cheapestUnits_scope (List.mem_of_mem_take member)
  have limited : ((rule.givenUnits context buyScope getScope).length : Int) ≤
      bundles * rule.getQuantity.getD 1 := by
    rw [given]
    exact_mod_cast List.length_take_le _ _
  have beside := exists_beside (fun unit => buyScope unit.line)
    (bundles * rule.buyQuantity.getD 1) part
  rw [countP_unitsOf] at beside
  simp only [Room, ← given]
  rw [← beside]
  constructor
  · rintro ⟨bought, room, bought_scope, enough, -⟩
    exact ⟨bought, room, bought_scope, by exact_mod_cast enough⟩
  · rintro ⟨bought, room, bought_scope, enough⟩
    exact ⟨bought, room, bought_scope, by exact_mod_cast enough, scoped_, limited⟩

/-- Something comes off exactly in a cart with a subtotal, where the rule is not limited to
nothing and where some unit given away is worth enough. -/
theorem bogo_pos_iff (rule : DiscountRule) {context : DiscountContext}
    (sellable : Sellable context.lineItems) (buyScope getScope : LineFilter) {bundles : Nat}
    (same : rule.bogoBundles context.lineItems (some buyScope) (some getScope) = bundles) :
    0 < (rule.bogo context (some buyScope) (some getScope)).discountCents ↔
      0 < context.subtotalCents ∧ rule.maxDiscountCents ≠ some 0 ∧
        rule.Worth ((cheapestUnits context.lineItems getScope).take
          (bundles * rule.getQuantity.getD 1)) := by
  have given : rule.givenUnits context buyScope getScope =
      (cheapestUnits context.lineItems getScope).take (bundles * rule.getQuantity.getD 1) := by
    simp only [givenUnits, same]
    congr 1
  have priced : ∀ unit ∈ rule.givenUnits context buyScope getScope, 0 ≤ unit.priceCents := by
    intro unit member
    rw [given] at member
    exact cheapestUnits_priced sellable unit (List.mem_of_mem_take member)
  rw [rule.bogo_discountCents sellable, ← given]
  split
  · rename_i none_
    have empty : rule.givenUnits context buyScope getScope = [] := by
      simp [givenUnits, none_]
    simp [Worth, empty]
  · rw [cap_pos, sum_unitOff_pos priced]
    simp only [Worth]
    tauto

/-- A rule over two scopes gives away no unit that its bundles need to be bought with exactly
in the carts that hold both sides of each number of bundles, or where nothing comes off. -/
theorem bogo_qualified_iff (rule : DiscountRule) (context : DiscountContext)
    (sellable : Sellable context.lineItems) (buyScope getScope : LineFilter) :
    (0 < (rule.bogo context (some buyScope) (some getScope)).discountCents →
      rule.Qualified context buyScope getScope
        (rule.bogoBundles context.lineItems (some buyScope) (some getScope))) ↔
      (0 < context.subtotalCents → rule.maxDiscountCents ≠ some 0 →
        rule.HoldsBoth context buyScope getScope) := by
  have bundles := rule.bogoBundles_scoped sellable buyScope getScope
  set most := min ((unitsOf (context.lineItems.filter buyScope)).length / rule.buyQuantity.getD 1)
    ((unitsOf (context.lineItems.filter getScope)).length / rule.getQuantity.getD 1) with hmost
  rw [rule.bogo_pos_iff sellable buyScope getScope bundles, bundles,
    rule.qualified_iff_room context buyScope getScope bundles]
  constructor
  · intro qualified subtotal unlimited count bought got worth
    have less : count ≤ most :=
      le_min ((Nat.le_div_iff_mul_le rule.buyQuantity_one_le).mpr bought)
        ((Nat.le_div_iff_mul_le rule.getQuantity_one_le).mpr got)
    have wider : count * rule.getQuantity.getD 1 ≤ most * rule.getQuantity.getD 1 :=
      Nat.mul_le_mul_right _ less
    rcases worth with ⟨unit, member, enough⟩
    have within := (List.take_prefix_take_left
      (l := cheapestUnits context.lineItems getScope) wider).subset member
    exact (qualified ⟨subtotal, unlimited, unit, within, enough⟩).fewer less
  · rintro holds ⟨subtotal, unlimited, worth⟩
    have bought : most * rule.buyQuantity.getD 1 ≤
        (unitsOf (context.lineItems.filter buyScope)).length :=
      (Nat.mul_le_mul_right _ (min_le_left _ _)).trans (Nat.div_mul_le_self _ _)
    have got : most * rule.getQuantity.getD 1 ≤
        (unitsOf (context.lineItems.filter getScope)).length :=
      (Nat.mul_le_mul_right _ (min_le_right _ _)).trans (Nat.div_mul_le_self _ _)
    exact holds subtotal unlimited most bought got worth

def buyOneGetOne : DiscountRule where
  kind := .bogo
  buyQuantity := some 1
  getQuantity := some 1
  getDiscountPercent := some 100

def isShoes : LineFilter := fun line => line.productId = 2

theorem bogo_qualified_apart :
    buyOneGetOne.Qualified (cartContext bagAndShoes none) isBag isShoes 1 := by
  have law := bogo_qualified_iff buyOneGetOne (cartContext bagAndShoes none)
    (cartContext_sellable bagAndShoes none) isBag isShoes
  apply law.mpr
  · intro _ _ bundles bought _ _
    have few : bundles ≤ 1 := by
      change bundles * 1 ≤ 1 at bought
      omega
    have room : buyOneGetOne.Room (cartContext bagAndShoes none).lineItems isBag isShoes 1 := by
      simp only [Room]
      decide
    exact room.fewer few
  · decide

/-- One bag is both what has to be bought and what is given away. -/
theorem bag_pays_for_itself :
    let scope := allowLines [1] []
    let cart := cartContext [{ productId := 1, unitPrice := 1000 }] none
    0 < (buyOneGetOne.bogo cart (some scope) (some scope)).discountCents ∧
      ¬buyOneGetOne.Qualified cart scope scope
        (buyOneGetOne.bogoBundles cart.lineItems (some scope) (some scope)) := by
  intro scope cart
  have one : buyOneGetOne.bogoBundles cart.lineItems (some scope) (some scope) = (1 : Nat) := by
    decide
  constructor
  · decide
  · rw [one, buyOneGetOne.qualified_iff_room cart scope scope one, Room]
    decide

end DiscountRule
end Numu.Promotions
