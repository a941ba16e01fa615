import Numu.Promotions.BuyGet
import Numu.Promotions.Coupon

/-!
# Buy-X-get-Y coupons

Over a set of products to buy and another to give, a coupon counts bundles of both quantities
together on either side, where a rule counts each side by its own quantity.
-/

namespace Numu.Promotions
open Coupon (BogoTerms bogoTerms calculateBogoDiscount filterTexts firstUnits matching unitPrices
  unitsToDiscount)
open UuidText (writeUuid)

/-- The configuration names the products to buy and the products to give. -/
structure SetsNamed (config : Json.Fields) (terms : BogoTerms) (buyIds getIds : List String) :
    Prop where
  terms_eq : bogoTerms config = .ok (some terms)
  buy_given : terms.buyFilter.truthy = true
  buy_texts : filterTexts terms.buyFilter = .ok buyIds
  get_given : terms.getFilter.truthy = true
  get_texts : filterTexts terms.getFilter = .ok getIds

def inTexts (ids : List String) : LineFilter := fun line => writeUuid line.productId ∈ ids

/-- A unit's price in major units. -/
def majorPrice (unit : CartUnit) : ℚ := unit.priceCents / 100

theorem matching_couponLines {filter : Json} {ids : List String} (given : filter.truthy = true)
    (texts : filterTexts filter = .ok ids) (lines : List CartLine) :
    matching filter (couponLines lines) = .ok (couponLines (lines.filter (inTexts ids))) := by
  rw [matching, if_pos given, texts]
  apply congrArg Except.ok
  simp only [couponLines, List.filter_map]
  rfl

theorem unitPrices_couponLines (lines : List CartLine) :
    unitPrices (couponLines lines) = (unitsOf lines).map majorPrice := by
  induction lines with
  | nil => rfl
  | cons line rest ih =>
      rw [unitsOf_cons, List.map_append, List.map_replicate, ← ih]
      rfl

theorem quantities_couponLines (lines : List CartLine) :
    ((couponLines lines).map CouponLine.quantity).sum = DiscountRule.totalUnits lines := by
  rw [couponLines, List.map_map]
  rfl

/-- Units of lines in the order of their prices are in that order themselves. -/
theorem unitsOf_pairwise {lines : List CartLine}
    (sorted : lines.Pairwise fun a b => a.unitPriceCents ≤ b.unitPriceCents) :
    (unitsOf lines).Pairwise fun a b => a.priceCents ≤ b.priceCents := by
  induction sorted with
  | nil => exact List.Pairwise.nil
  | cons first _ ih =>
      rw [unitsOf_cons, List.pairwise_append]
      refine ⟨List.pairwise_replicate.mpr (Or.inr le_rfl), ih, ?_⟩
      intro unit member other later
      rw [List.eq_of_mem_replicate member]
      rcases mem_unitsOf later with ⟨listed, price⟩
      rw [price]
      exact first _ listed

/-- Sorting the prices of the units gives the units of the sorted lines. -/
theorem insertionSort_unitPrices (lines : List CartLine) (scope : LineFilter) :
    (unitPrices (couponLines (lines.filter scope))).insertionSort (· ≤ ·) =
      (cheapestUnits lines scope).map majorPrice := by
  have perm : ((unitPrices (couponLines (lines.filter scope))).insertionSort (· ≤ ·)).Perm
      ((cheapestUnits lines scope).map majorPrice) := by
    rw [unitPrices_couponLines]
    exact (List.perm_insertionSort _ _).trans ((cheapestUnits_perm lines scope).symm.map _)
  refine List.Perm.eq_of_pairwise' (r := (· ≤ ·)) (List.pairwise_insertionSort _ _) ?_ perm
  have lines_sorted := (List.pairwise_insertionSort
    (fun a b : CartLine => a.unitPriceCents ≤ b.unitPriceCents) lines).filter scope
  refine (unitsOf_pairwise lines_sorted).map _ ?_
  intro a b less
  simp only [majorPrice]
  gcongr

theorem combined_le {buy get bought given : Nat} (buy_pos : 1 ≤ buy) (get_pos : 1 ≤ get) :
    min (bought / (buy + get)) (given / (buy + get)) ≤ min (bought / buy) (given / get) :=
  min_le_min (Nat.div_le_div_left (by omega) buy_pos) (Nat.div_le_div_left (by omega) get_pos)

/-- Counting by the combined size comes to the same exactly where every number of bundles that
the two sides hold fits into each side by the combined size as well. -/
theorem combined_iff {buy get : Nat} (bought given : Nat) (buy_pos : 1 ≤ buy)
    (get_pos : 1 ≤ get) :
    min (bought / (buy + get)) (given / (buy + get)) = min (bought / buy) (given / get) ↔
      ∀ bundles, bundles * buy ≤ bought → bundles * get ≤ given →
        bundles * (buy + get) ≤ bought ∧ bundles * (buy + get) ≤ given := by
  have size_pos : 0 < buy + get := by omega
  have combined (bundles : Nat) :
      bundles ≤ min (bought / (buy + get)) (given / (buy + get)) ↔
        bundles * (buy + get) ≤ bought ∧ bundles * (buy + get) ≤ given := by
    rw [le_min_iff, Nat.le_div_iff_mul_le size_pos, Nat.le_div_iff_mul_le size_pos]
  have separate (bundles : Nat) :
      bundles ≤ min (bought / buy) (given / get) ↔
        bundles * buy ≤ bought ∧ bundles * get ≤ given := by
    rw [le_min_iff, Nat.le_div_iff_mul_le buy_pos, Nat.le_div_iff_mul_le get_pos]
  constructor
  · intro same bundles enough room
    apply (combined bundles).mp
    rw [same]
    exact (separate bundles).mpr ⟨enough, room⟩
  · intro holds
    have most := (separate (min (bought / buy) (given / get))).mp le_rfl
    exact le_antisymm (combined_le buy_pos get_pos) ((combined _).mpr (holds _ most.1 most.2))

section Sides
variable {config : Json.Fields} {terms : BogoTerms} {buyIds getIds : List String}
  {lines : List CartLine}

/-- The numbers of units on the two sides. -/
def unitsIn (lines : List CartLine) (ids : List String) : Nat :=
  (unitsOf (lines.filter (inTexts ids))).length

/-- The coupon's bundles. -/
def combinedBundles (terms : BogoTerms) (lines : List CartLine) (buyIds getIds : List String) :
    Nat :=
  let size := terms.buyQuantity + terms.getQuantity
  min (unitsIn lines buyIds / size) (unitsIn lines getIds / size)

/-- The rule's bundles. -/
def separateBundles (terms : BogoTerms) (lines : List CartLine) (buyIds getIds : List String) :
    Nat :=
  min (unitsIn lines buyIds / terms.buyQuantity) (unitsIn lines getIds / terms.getQuantity)

/-- The cheapest units of the get side for a number of bundles. -/
def bundlesWorth (terms : BogoTerms) (lines : List CartLine) (getIds : List String)
    (bundles : Nat) : List CartUnit :=
  (cheapestUnits lines (inTexts getIds)).take (bundles * terms.getQuantity)

theorem unitsToDiscount_couponLines (named : SetsNamed config terms buyIds getIds)
    (sellable : Sellable lines) :
    unitsToDiscount terms (couponLines lines) =
      .ok ((bundlesWorth terms lines getIds (combinedBundles terms lines buyIds getIds)).map
        majorPrice) := by
  have bought : ((unitsIn lines buyIds : Nat) : Int) =
      DiscountRule.totalUnits (lines.filter (inTexts buyIds)) :=
    length_unitsOf (sellable.filter _)
  have given : (unitPrices (couponLines (lines.filter (inTexts getIds)))).length =
      unitsIn lines getIds := by
    rw [unitPrices_couponLines, List.length_map, unitsIn]
  have count : min ((unitsIn lines buyIds : Int) / (terms.buyQuantity + terms.getQuantity))
      ((unitsIn lines getIds : Int) / (terms.buyQuantity + terms.getQuantity)) *
        terms.getQuantity =
      ((combinedBundles terms lines buyIds getIds * terms.getQuantity : Nat) : Int) := by
    simp [combinedBundles]
  rw [unitsToDiscount, matching_couponLines named.get_given named.get_texts,
    matching_couponLines named.buy_given named.buy_texts]
  simp only [bind, Except.bind, pure, Except.pure, quantities_couponLines, ← bought, given, count,
    insertionSort_unitPrices, firstUnits, Int.natCast_nonneg, if_true, Int.toNat_natCast,
    bundlesWorth, List.map_take]

theorem calculateBogoDiscount_of_units (named : SetsNamed config terms buyIds getIds)
    {units : List ℚ} (found : unitsToDiscount terms (couponLines lines) = .ok units) :
    calculateBogoDiscount (some config) (couponLines lines) =
      .ok (units.sum * terms.percent / 100) := by
  cases lines with
  | nil =>
      have empty := unitsToDiscount_couponLines named (show Sellable [] from nofun)
      rw [found] at empty
      have none_ : units = [] := by
        rw [Except.ok.inj empty]
        simp [bundlesWorth, cheapestUnits, unitsOf]
      cases config with
      | nil => cases named.terms_eq
      | cons field fields =>
          rw [none_, List.sum_nil, zero_mul, zero_div]
          rfl
  | cons line rest =>
      cases config with
      | nil => cases named.terms_eq
      | cons field fields =>
          have read := named.terms_eq
          rw [couponLines, List.map_cons] at found ⊢
          simp only [calculateBogoDiscount, read, bind, Except.bind, found]
          rfl

/-- The units of exactly one bundle earn nothing. -/
theorem unitsToDiscount_one_bundle (named : SetsNamed config terms buyIds getIds)
    (sellable : Sellable lines) (bought : unitsIn lines buyIds = terms.buyQuantity) :
    unitsToDiscount terms (couponLines lines) = .ok [] := by
  have short : terms.buyQuantity / (terms.buyQuantity + terms.getQuantity) = 0 :=
    Nat.div_eq_of_lt (Nat.lt_add_of_pos_right terms.getQuantity_pos)
  rw [unitsToDiscount_couponLines named sellable, combinedBundles, bought, short, Nat.zero_min,
    bundlesWorth, Nat.zero_mul]
  rfl

/-- The units that the rule of the same quantities gives away. -/
theorem givenUnits_eq_bundlesWorth {rule : DiscountRule} {context : DiscountContext}
    (buy : rule.buyQuantity = some terms.buyQuantity)
    (get : rule.getQuantity = some terms.getQuantity) (sellable : Sellable context.lineItems)
    (buyIds getIds : List String) :
    rule.givenUnits context (inTexts buyIds) (inTexts getIds) =
      bundlesWorth terms context.lineItems getIds
        (separateBundles terms context.lineItems buyIds getIds) := by
  have bundles := rule.bogoBundles_scoped sellable (inTexts buyIds) (inTexts getIds)
  simp only [buy, get, Option.getD_some] at bundles
  simp only [DiscountRule.givenUnits, bundles, get, Option.getD_some]
  rfl

end Sides

/-- The coupon rewards as many bundles' worth of units as each side affords by its own quantity,
which are the units that the rule gives away. -/
def AgreesWith (config : Json.Fields) (terms : BogoTerms) (buyIds getIds : List String)
    (rule : DiscountRule) (context : DiscountContext) : Prop :=
  let lines := context.lineItems
  let rewarded := bundlesWorth terms lines getIds (separateBundles terms lines buyIds getIds)
  unitsToDiscount terms (couponLines lines) = .ok (rewarded.map majorPrice) ∧
    calculateBogoDiscount (some config) (couponLines lines) =
      .ok ((rewarded.map majorPrice).sum * terms.percent / 100) ∧
    rewarded = rule.givenUnits context (inTexts buyIds) (inTexts getIds)

/-- However many bundles the two sides hold, each side holds as many of both quantities. -/
def HoldsCombined (terms : BogoTerms) (lines : List CartLine) (buyIds getIds : List String) :
    Prop :=
  let size := terms.buyQuantity + terms.getQuantity
  ∀ bundles, bundles * terms.buyQuantity ≤ unitsIn lines buyIds →
    bundles * terms.getQuantity ≤ unitsIn lines getIds →
      bundles * size ≤ unitsIn lines buyIds ∧ bundles * size ≤ unitsIn lines getIds

theorem length_bundlesWorth {terms : BogoTerms} {lines : List CartLine} {getIds : List String}
    {bundles : Nat} (room : bundles * terms.getQuantity ≤ unitsIn lines getIds) :
    (bundlesWorth terms lines getIds bundles).length = bundles * terms.getQuantity := by
  rw [bundlesWorth, List.length_take, (cheapestUnits_perm lines (inTexts getIds)).length_eq]
  exact Nat.min_eq_left room

/-- A coupon over two sets of products agrees with the rule of its quantities exactly in the carts
that hold every number of bundles by the combined size as well. -/
theorem bogo_agrees_iff {config : Json.Fields} {terms : BogoTerms} {buyIds getIds : List String}
    (named : SetsNamed config terms buyIds getIds) (rule : DiscountRule)
    (buy : rule.buyQuantity = some terms.buyQuantity)
    (get : rule.getQuantity = some terms.getQuantity) (context : DiscountContext)
    (sellable : Sellable context.lineItems) :
    AgreesWith config terms buyIds getIds rule context ↔
      HoldsCombined terms context.lineItems buyIds getIds := by
  set lines := context.lineItems
  have units := unitsToDiscount_couponLines named sellable
  have same := combined_iff (unitsIn lines buyIds) (unitsIn lines getIds)
    terms.buyQuantity_pos terms.getQuantity_pos
  constructor
  · rintro ⟨rewarded, -, -⟩
    apply same.mp
    have fewer : combinedBundles terms lines buyIds getIds ≤
        separateBundles terms lines buyIds getIds :=
      combined_le terms.buyQuantity_pos terms.getQuantity_pos
    have room : separateBundles terms lines buyIds getIds * terms.getQuantity ≤
        unitsIn lines getIds :=
      (Nat.mul_le_mul_right _ (min_le_right _ _)).trans (Nat.div_mul_le_self _ _)
    have alike := congrArg List.length (Except.ok.inj (units.symm.trans rewarded))
    rw [List.length_map, List.length_map, length_bundlesWorth room,
      length_bundlesWorth ((Nat.mul_le_mul_right _ fewer).trans room)] at alike
    exact Nat.eq_of_mul_eq_mul_right terms.getQuantity_pos alike
  · intro holds
    have bundles : combinedBundles terms lines buyIds getIds =
        separateBundles terms lines buyIds getIds := same.mpr holds
    rw [bundles] at units
    exact ⟨units, calculateBogoDiscount_of_units named units,
      (givenUnits_eq_bundlesWorth buy get sellable buyIds getIds).symm⟩

theorem inTexts_writeUuid (ids : List Orders.UUID) :
    inTexts (ids.map writeUuid) = fun line => decide (line.productId ∈ ids) := by
  funext line
  rw [inTexts, decide_eq_decide]
  exact List.mem_map_of_injective fun _ _ same => UuidText.writeUuid_injective same

def twoForOne : Json.Fields :=
  [("buy_quantity", .int 2), ("get_quantity", .int 1), ("get_discount_percentage", .int 100),
    ("buy_product_ids", .arr [.str (writeUuid 1)]), ("get_product_ids", .arr [.str (writeUuid 2)])]

def twoForOneTerms : BogoTerms where
  buyQuantity := 2
  getQuantity := 1
  percent := 100
  buyFilter := .arr [.str (writeUuid 1)]
  getFilter := .arr [.str (writeUuid 2)]
  buyQuantity_pos := Numu.Orders.two_pieces

def twoForOneRule : DiscountRule where
  kind := .bogo
  buyQuantity := some 2
  getQuantity := some 1
  getDiscountPercent := some 100

theorem twoForOne_named :
    SetsNamed twoForOne twoForOneTerms ([1].map writeUuid) ([2].map writeUuid) where
  terms_eq := rfl
  buy_given := rfl
  buy_texts := rfl
  get_given := rfl
  get_texts := rfl

def shirtsAndSocks (shirts socks : Nat) : DiscountContext :=
  { subtotalCents := 5000 * shirts + 1000 * socks
    lineItems := [⟨1, shirts, 5000, none⟩, ⟨2, socks, 1000, none⟩] }

theorem shirtsAndSocks_sellable (shirts socks : Nat) :
    Sellable (shirtsAndSocks shirts socks).lineItems := by
  simp [shirtsAndSocks, Sellable]

theorem bogo_agrees_threes :
    AgreesWith twoForOne twoForOneTerms ([1].map writeUuid) ([2].map writeUuid) twoForOneRule
      (shirtsAndSocks 3 3) := by
  apply (bogo_agrees_iff twoForOne_named twoForOneRule rfl rfl _ (shirtsAndSocks_sellable 3 3)).mpr
  have shirts : unitsIn (shirtsAndSocks 3 3).lineItems ([1].map writeUuid) = 3 := by
    rw [unitsIn, inTexts_writeUuid]
    decide
  have socks : unitsIn (shirtsAndSocks 3 3).lineItems ([2].map writeUuid) = 3 := by
    rw [unitsIn, inTexts_writeUuid]
    decide
  intro bundles enough _
  rw [shirts, socks]
  have fits : bundles * 2 ≤ 3 := shirts ▸ enough
  change bundles * 3 ≤ 3 ∧ bundles * 3 ≤ 3
  omega

/-- Two shirts and a pair of socks are one bundle, and nothing comes off. -/
theorem two_shirts_earn_nothing :
    ¬AgreesWith twoForOne twoForOneTerms ([1].map writeUuid) ([2].map writeUuid) twoForOneRule
        (shirtsAndSocks 2 1) ∧
      calculateBogoDiscount (some twoForOne) (couponLines (shirtsAndSocks 2 1).lineItems) = .ok 0 ∧
      (twoForOneRule.bogo (shirtsAndSocks 2 1) (some (inTexts ([1].map writeUuid)))
        (some (inTexts ([2].map writeUuid)))).discountCents = 1000 := by
  have sellable := shirtsAndSocks_sellable 2 1
  have shirts : unitsIn (shirtsAndSocks 2 1).lineItems ([1].map writeUuid) = 2 := by
    rw [unitsIn, inTexts_writeUuid]
    decide
  have socks : unitsIn (shirtsAndSocks 2 1).lineItems ([2].map writeUuid) = 1 := by
    rw [unitsIn, inTexts_writeUuid]
    decide
  have nothing := unitsToDiscount_one_bundle twoForOne_named sellable shirts
  refine ⟨?_, ?_, ?_⟩
  · rintro ⟨rewarded, -, -⟩
    have bundles : separateBundles twoForOneTerms (shirtsAndSocks 2 1).lineItems
        ([1].map writeUuid) ([2].map writeUuid) = 1 := by
      rw [separateBundles, shirts, socks]
      rfl
    have alike := congrArg List.length (Except.ok.inj (nothing.symm.trans rewarded))
    rw [bundles, List.length_map, length_bundlesWorth (by rw [socks]; decide)] at alike
    exact absurd alike (by decide)
  · rw [calculateBogoDiscount_of_units twoForOne_named nothing, List.sum_nil, zero_mul, zero_div]
  · rw [inTexts_writeUuid, inTexts_writeUuid]
    decide

end Numu.Promotions
