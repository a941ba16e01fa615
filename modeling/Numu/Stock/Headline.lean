import Numu.Stock.Conservation
import Numu.Stock.InventoryService
import Numu.Stock.LevelMirror

/-!
`variant_sync_service`: the product's own count and the counts of its variants. What the sync
does to prices and SKUs is left out.
-/

namespace Numu.Stock
open Numu.Orders (UUID Selections)

namespace Inventory

def variantTotal (inv : Inventory) (productId : UUID) : Int :=
  ((inv.variantsOf productId).map fun row => row.2.inventoryQuantity).sum

/-- `sync_simple_product_to_variant`: the count of a product with one variant, without options. -/
def syncSimpleProduct (inv : Inventory) (productId : UUID) : Inventory :=
  match inv.products.get? productId, inv.variantsOf productId with
  | some product, [row] =>
      if row.2.optionValues = [] then
        inv.modifyVariant row.1 fun variant =>
          { variant with inventoryQuantity := product.quantity }
      else inv
  | _, _ => inv

/-- `recompute_product_quantity`; without variants the product keeps its count. -/
def recomputeQuantity (inv : Inventory) (productId : UUID) : Inventory :=
  if inv.variantsOf productId = [] then inv
  else inv.modifyProduct productId fun product =>
    { product with quantity := inv.variantTotal productId }

/-- What no stock write touches: which variants there are, of which product, with which options. -/
def shape (inv : Inventory) : List (UUID × UUID × Selections) :=
  inv.variants.rows.map fun row => (row.1, row.2.productId, row.2.optionValues)

def quantityOf (inv : Inventory) (productId : UUID) : Int :=
  ((inv.products.get? productId).map Product.quantity).getD 0

variable {inv : Inventory} {id productId : UUID}

theorem variantTotal_eq (inv : Inventory) (productId : UUID) :
    inv.variantTotal productId =
      inv.variants.sumOf fun row => if row.productId = productId then row.inventoryQuantity else 0 := by
  rw [variantTotal, variantsOf]
  apply (inv.variants.sum_filter (fun row => row.productId = productId) _).trans
  simp only [decide_eq_true_iff]

theorem shape_modifyVariant (inv : Inventory) (id : UUID) {f : Variant → Variant}
    (keeps : ∀ variant, (f variant).productId = variant.productId ∧
      (f variant).optionValues = variant.optionValues) :
    (inv.modifyVariant id f).shape = inv.shape := by
  apply Table.map_modify
  intro row _
  rw [(keeps row).1, (keeps row).2]

theorem variantsOf_shape (inv : Inventory) (productId : UUID) :
    (inv.variantsOf productId).map (fun row => (row.1, row.2.productId, row.2.optionValues)) =
      inv.shape.filter fun entry => entry.2.1 = productId := by
  rw [variantsOf, shape, List.filter_map]
  rfl

/-- Changing a variant's count changes the total of its product alone. -/
theorem variantTotal_modifyVariant {variant : Variant}
    (present : inv.variants.get? id = some variant) {f : Variant → Variant}
    (keeps : (f variant).productId = variant.productId) (productId : UUID) :
    (inv.modifyVariant id f).variantTotal productId = inv.variantTotal productId +
      if variant.productId = productId then
        (f variant).inventoryQuantity - variant.inventoryQuantity else 0 := by
  have summed := inv.variants.sumOf_modify present f fun row =>
    if row.productId = productId then row.inventoryQuantity else 0
  rw [variantTotal_eq, variantTotal_eq, modifyVariant]
  simp only [keeps] at summed ⊢
  split at summed
  · rename_i mine
    rw [if_pos mine]
    omega
  · rename_i foreign
    rw [if_neg foreign]
    omega

theorem quantityOf_modifyProduct {product : Product}
    (present : inv.products.get? id = some product) (f : Product → Product) (productId : UUID) :
    (inv.modifyProduct id f).quantityOf productId = inv.quantityOf productId +
      if id = productId then (f product).quantity - product.quantity else 0 := by
  rw [quantityOf, quantityOf, modifyProduct]
  by_cases mine : id = productId
  · subst mine
    rw [Table.get?_modify_self, present, if_pos rfl]
    simp
  · rw [Table.get?_modify_of_ne _ _ (Ne.symm mine), if_neg mine, add_zero]

end Inventory
end Numu.Stock

/-!
Whether a product's own count stays the sum of its variants. Order lines change the two by the same
number of pieces when they find a variant; an edit of a level reaches the variant alone.
-/

namespace Numu.Stock
open Numu.Orders (UUID Time Selections StockLine Order)
open Numu.Outcome (bind_eq_ok orKeep)

namespace Inventory

/-- The product has variants, and its own count is their sum. -/
def Headline (productId : UUID) (inv : Inventory) : Prop :=
  (∃ product, inv.products.get? productId = some product ∧
    product.quantity = inv.variantTotal productId) ∧ inv.variantsOf productId ≠ []

/-- By how much the product's own count is above the sum. -/
def drift (productId : UUID) (inv : Inventory) : Int :=
  inv.quantityOf productId - inv.variantTotal productId

/-- A write that leaves the products and variants there are. -/
structure SameRows (productId : UUID) (inv after : Inventory) : Prop where
  owner : (after.products.get? productId).map Product.tenantId =
    (inv.products.get? productId).map Product.tenantId
  shape : after.shape = inv.shape

variable {inv after last : Inventory} {productId : UUID}

theorem SameRows.refl (inv : Inventory) : SameRows productId inv inv := ⟨rfl, rfl⟩

theorem SameRows.trans (first : SameRows productId inv after)
    (second : SameRows productId after last) : SameRows productId inv last :=
  ⟨second.owner.trans first.owner, second.shape.trans first.shape⟩

theorem SameRows.present (same : SameRows productId inv after) :
    (after.products.get? productId).isSome = (inv.products.get? productId).isSome := by
  have owners := congrArg Option.isSome same.owner
  rwa [Option.isSome_map, Option.isSome_map] at owners

theorem SameRows.known (same : SameRows productId inv after) (tenantId : Option UUID) :
    (after.product? tenantId productId).isSome = (inv.product? tenantId productId).isSome := by
  have owner := same.owner
  rw [product?, product?]
  cases found : inv.products.get? productId with
  | none =>
      rw [found, Option.map_none, Option.map_eq_none_iff] at owner
      rw [owner]
  | some product =>
      rw [found, Option.map_some, Option.map_eq_some_iff] at owner
      rcases owner with ⟨product', found', mine⟩
      by_cases theirs : some product.tenantId = tenantId <;>
        simp [found', Option.filter, mine, theirs]

theorem variantsOf_eq_nil (productId : UUID) (inv : Inventory) :
    inv.variantsOf productId = [] ↔ (inv.shape.filter fun entry => entry.2.1 = productId) = [] := by
  rw [← variantsOf_shape, List.map_eq_nil_iff]

theorem headline_iff : inv.Headline productId ↔
    (inv.products.get? productId).isSome ∧ inv.variantsOf productId ≠ [] ∧
      inv.drift productId = 0 := by
  rw [Headline, drift, quantityOf]
  cases found : inv.products.get? productId with
  | none => simp
  | some product =>
      simp only [Option.some.injEq, exists_eq_left', Option.isSome_some, Option.map_some,
        Option.getD_some, true_and, sub_eq_zero]
      exact and_comm

/-- Where the rows stay, the count stays the sum exactly if the two change alike. -/
theorem headline_of_same (headline : inv.Headline productId) (same : SameRows productId inv after) :
    after.Headline productId ↔ after.drift productId = inv.drift productId := by
  rcases headline_iff.mp headline with ⟨present, sold, level⟩
  rw [headline_iff, same.present, ne_eq, variantsOf_eq_nil, same.shape, ← variantsOf_eq_nil, level]
  simp [present, sold]

theorem sameRows_modifyProduct (productId : UUID) (inv : Inventory) (id : UUID)
    {f : Product → Product} (keeps : ∀ product, (f product).tenantId = product.tenantId) :
    SameRows productId inv (inv.modifyProduct id f) := by
  refine ⟨?_, rfl⟩
  rw [modifyProduct]
  by_cases mine : productId = id
  · rw [mine, Table.get?_modify_self, Option.map_map]
    exact congrArg (fun view => Option.map view _) (funext keeps)
  · rw [Table.get?_modify_of_ne _ _ mine]

theorem sameRows_modifyVariant (productId : UUID) (inv : Inventory) (id : UUID) {f : Variant → Variant}
    (keeps : ∀ variant, (f variant).productId = variant.productId ∧
      (f variant).optionValues = variant.optionValues) :
    SameRows productId inv (inv.modifyVariant id f) :=
  ⟨rfl, shape_modifyVariant inv id keeps⟩

/-- The levels do not matter. -/
theorem sameRows_of_tables (productId : UUID) (products : after.products = inv.products)
    (variants : after.variants = inv.variants) :
    SameRows productId inv after ∧ after.drift productId = inv.drift productId := by
  constructor
  · exact ⟨by rw [products], by rw [shape, variants, shape]⟩
  · rw [drift, drift, quantityOf, quantityOf, variantTotal_eq, variantTotal_eq, products, variants]

theorem drift_modifyVariant (productId : UUID) {id : UUID} {variant : Variant}
    (present : inv.variants.get? id = some variant) {f : Variant → Variant}
    (keeps : (f variant).productId = variant.productId) :
    (inv.modifyVariant id f).drift productId = inv.drift productId -
      if variant.productId = productId then
        (f variant).inventoryQuantity - variant.inventoryQuantity else 0 := by
  have quantity : (inv.modifyVariant id f).quantityOf productId = inv.quantityOf productId := rfl
  rw [drift, drift, variantTotal_modifyVariant present keeps, quantity]
  omega

theorem drift_modifyProduct (productId : UUID) {id : UUID} {product : Product}
    (present : inv.products.get? id = some product) (f : Product → Product) :
    (inv.modifyProduct id f).drift productId = inv.drift productId +
      if id = productId then (f product).quantity - product.quantity else 0 := by
  have total : (inv.modifyProduct id f).variantTotal productId = inv.variantTotal productId := rfl
  rw [drift, drift, quantityOf_modifyProduct present, total]
  omega

end Inventory

theorem mem_variantsOf {inv : Inventory} {productId : UUID} {row : UUID × Variant} :
    row ∈ inv.variantsOf productId ↔
      inv.variants.get? row.1 = some row.2 ∧ row.2.productId = productId := by
  rw [Inventory.variantsOf, List.mem_filter, decide_eq_true_iff, Table.get?_eq_some_iff]

theorem drift_moveVariantRow {inv : Inventory} {row : UUID × Variant}
    (present : inv.variants.get? row.1 = some row.2) (scan : Scan) (delta : Int)
    (productId : UUID) :
    Inventory.SameRows productId inv (moveVariantRow inv scan (some row) delta) ∧
      (moveVariantRow inv scan (some row) delta).drift productId = inv.drift productId -
        if row.2.productId = productId then delta else 0 := by
  have counted := Inventory.drift_modifyVariant productId (f := moveVariant delta) present rfl
  have rows := Inventory.sameRows_modifyVariant productId inv row.1
    (f := moveVariant delta) fun _ => ⟨rfl, rfl⟩
  have change : (moveVariant delta row.2).inventoryQuantity - row.2.inventoryQuantity = delta :=
    add_sub_cancel_left _ _
  have products : (moveVariantRow inv scan (some row) delta).products =
      (inv.modifyVariant row.1 (moveVariant delta)).products :=
    moveVariantRow_products inv scan (some row) delta
  rcases Inventory.sameRows_of_tables productId products (moveVariantRow_variants inv scan row delta)
    with ⟨mirrored, level⟩
  refine ⟨rows.trans mirrored, ?_⟩
  rw [level, counted, change]

section Lines
variable [TextCase]

/-- A line finds a variant of its product. -/
def Answers (inv : Inventory) (productId : UUID) (variantId : Option UUID)
    (selections : Option Selections) : Prop :=
  (resolveVariantRow inv .stored productId variantId selections).isSome

instance (inv : Inventory) (productId : UUID) (variantId : Option UUID)
    (selections : Option Selections) : Decidable (Answers inv productId variantId selections) :=
  inferInstanceAs (Decidable (_ = true))

theorem resolveVariantRow_isSome (inv : Inventory) (scan : Scan) (productId : UUID)
    (variantId : Option UUID) (selections : Option Selections) :
    (resolveVariantRow inv scan productId variantId selections).isSome ↔
      (∃ row ∈ inv.variantsOf productId, variantId = some row.1) ∨
        if chosen selections then
          ∃ row ∈ inv.variantsOf productId,
            (norm (some row.2.optionValues)).sameEntries (norm selections)
        else (∃ row ∈ inv.variantsOf productId, row.2.optionValues = []) ∨
          (inv.variantsOf productId).length = 1 := by
  have listed := fun row => (scan.variants_perm (inv.variantsOf productId)).mem_iff (a := row)
  have number := (scan.variants_perm (inv.variantsOf productId)).length_eq
  have explicit : (variantId.bind fun id => (inv.variants.get? id).bind fun row =>
      if row.productId = productId then some (id, row) else none).isSome ↔
        ∃ row ∈ inv.variantsOf productId, variantId = some row.1 := by
    constructor
    · intro found
      rcases Option.isSome_iff_exists.mp found with ⟨row, found⟩
      rcases Option.bind_eq_some_iff.mp found with ⟨id, named, found⟩
      rcases Option.bind_eq_some_iff.mp found with ⟨variant, present, found⟩
      rcases Option.ite_none_right_eq_some.mp found with ⟨mine, same⟩
      cases same
      exact ⟨(id, variant), mem_variantsOf.mpr ⟨present, mine⟩, named⟩
    · rintro ⟨row, member, rfl⟩
      rcases mem_variantsOf.mp member with ⟨present, mine⟩
      simp [present, mine]
  rw [← explicit, resolveVariantRow]
  dsimp only
  cases (variantId.bind fun id => (inv.variants.get? id).bind fun row =>
    if row.productId = productId then some (id, row) else none) with
  | some row => simp
  | none =>
      rw [← number]
      dsimp only
      generalize scan.variants (inv.variantsOf productId) = rows at listed number
      by_cases empty : rows = []
      · subst empty
        simp [← listed]
      · rw [if_neg empty]
        split
        · simp [List.find?_isSome, ← listed]
        · rename_i bare
          cases default_ : rows.find? fun row => row.2.optionValues = [] with
          | some row =>
              have member := List.mem_of_find?_eq_some default_
              have plain := List.find?_some default_
              rw [decide_eq_true_iff] at plain
              simp only [Option.isSome_some, Option.isSome_none, Bool.false_eq_true, false_or,
                true_iff]
              exact .inl ⟨row, (listed row).mp member, plain⟩
          | none =>
              have none_ : ¬∃ row ∈ inv.variantsOf productId, row.2.optionValues = [] := by
                rintro ⟨row, member, plain⟩
                exact List.find?_eq_none.mp default_ row ((listed row).mpr member) (by simpa using plain)
              simp only [none_, Option.isSome_none, Bool.false_eq_true, false_or]
              split
              · rename_i single
                have first : rows.head?.isSome := by
                  cases rows with
                  | nil => cases single
                  | cons row rest => rfl
                exact iff_of_true first single
              · rename_i several
                simp [several]

/-- What a line finds does not depend on the counts. -/
theorem answers_of_shape {inv after : Inventory} (same : after.shape = inv.shape)
    (productId : UUID) (variantId : Option UUID) (selections : Option Selections) :
    Answers after productId variantId selections ↔ Answers inv productId variantId selections := by
  have rows (inv : Inventory) (holds : UUID × Selections → Prop) :
      (∃ row ∈ inv.variantsOf productId, holds (row.1, row.2.optionValues)) ↔
        ∃ entry ∈ inv.shape.filter (fun entry => entry.2.1 = productId),
          holds (entry.1, entry.2.2) := by
    rw [← inv.variantsOf_shape]
    simp only [List.mem_map, exists_exists_and_eq_and]
  have number (inv : Inventory) : (inv.variantsOf productId).length =
      (inv.shape.filter fun entry => entry.2.1 = productId).length := by
    rw [← inv.variantsOf_shape, List.length_map]
  have named := fun inv => rows inv fun row => variantId = some row.1
  have picked := fun inv => rows inv fun row =>
    (norm (some row.2)).sameEntries (norm selections) = true
  have bare := fun inv => rows inv fun row => row.2 = []
  simp only at named picked bare
  rw [Answers, Answers, resolveVariantRow_isSome, resolveVariantRow_isSome, named, named, picked,
    picked, bare, bare, number, number, same]

theorem moveProduct_quantity (combo : Option Combo) (selections : Option Selections) (delta : Int)
    (product : Product) : (moveProduct combo selections delta product).quantity =
      product.quantity + delta := by
  cases combo <;> rfl

theorem moveProduct_tenantId (combo : Option Combo) (selections : Option Selections) (delta : Int)
    (product : Product) : (moveProduct combo selections delta product).tenantId =
      product.tenantId := by
  cases combo <;> rfl

/-- An order line that finds no variant moves the product's own count alone. -/
theorem drift_applyLineDelta {inv after : Inventory} {scan : Scan} {tenantId : Option UUID}
    {soldId : UUID} {variantId : Option UUID} {selections : Option Selections} {delta : Int}
    {allowNegative : Bool} {entry : StockLine}
    (ok : applyLineDelta inv scan tenantId soldId variantId selections delta allowNegative =
      .ok (after, entry)) (productId : UUID) :
    Inventory.SameRows productId inv after ∧
      after.drift productId = inv.drift productId +
        if soldId = productId ∧ ¬Answers inv soldId variantId selections then delta else 0 := by
  rcases applyLineDelta_ok ok with ⟨product, found, rfl, -⟩
  have present : inv.products.get? soldId = some product := (Option.filter_eq_some_iff.mp found).1
  have moved := Inventory.drift_modifyProduct productId present
    (moveProduct (findCombo (product.attributes.getD {}) selections) selections delta)
  have same := Inventory.sameRows_modifyProduct productId inv soldId
    (moveProduct_tenantId (findCombo (product.attributes.getD {}) selections) selections delta)
  rw [moveProduct_quantity, add_sub_cancel_left] at moved
  have answers : (resolveVariantRow inv scan soldId variantId selections).isSome ↔
      Answers inv soldId variantId selections := by
    rw [Answers, resolveVariantRow_isSome, resolveVariantRow_isSome]
  cases resolved : resolveVariantRow inv scan soldId variantId selections with
  | none =>
      rw [resolved] at answers
      have missing : ¬Answers inv soldId variantId selections := by simp [← answers]
      refine ⟨same, ?_⟩
      rw [moveVariantRow, moved]
      simp [missing]
  | some row =>
      rw [resolved] at answers
      have found' : Answers inv soldId variantId selections := answers.mp rfl
      rcases resolveVariantRow_mem resolved with ⟨present', mine⟩
      have stays : (inv.modifyProduct soldId (moveProduct
          (findCombo (product.attributes.getD {}) selections) selections delta)).variants.get?
            row.1 = some row.2 := present'
      rcases drift_moveVariantRow stays scan delta productId with ⟨rows, counted⟩
      refine ⟨same.trans rows, ?_⟩
      rw [counted, moved, mine]
      simp [found']

/-- A line of a tenant's product that finds no variant of it. -/
def Stranded (inv : Inventory) (tenantId : Option UUID) (productId : UUID) (line : StockLine) :
    Prop :=
  line.productId = productId ∧ (inv.product? tenantId productId).isSome ∧
    ¬Answers inv line.productId line.variantId line.selections

instance (inv : Inventory) (tenantId : Option UUID) (productId : UUID) (line : StockLine) :
    Decidable (Stranded inv tenantId productId line) :=
  inferInstanceAs (Decidable (_ ∧ _ ∧ _))

theorem stranded_of_same {inv after : Inventory} {productId : UUID}
    (same : Inventory.SameRows productId inv after) (tenantId : Option UUID) (line : StockLine) :
    Stranded after tenantId productId line ↔ Stranded inv tenantId productId line := by
  rw [Stranded, Stranded, same.known, answers_of_shape same.shape]

theorem drift_restockLine (tenantId : Option UUID) (inv : Inventory) (scan : Scan)
    (line : StockLine) (productId : UUID) :
    Inventory.SameRows productId inv (restockLine tenantId inv scan line) ∧
      (restockLine tenantId inv scan line).drift productId = inv.drift productId +
        if Stranded inv tenantId productId line then (line.quantity : Int) else 0 := by
  rw [restockLine]
  split
  · rename_i nothing
    exact ⟨.refl inv, by simp [nothing]⟩
  · cases found : inv.product? tenantId line.productId with
    | none =>
        have missing : ¬Stranded inv tenantId productId line := by
          rintro ⟨rfl, known, -⟩
          rw [found] at known
          cases known
        simp only [applyLineDelta, found, if_neg missing, add_zero]
        exact ⟨.refl inv, trivial⟩
    | some product =>
        have ok := applyLineDelta_restock found scan line.variantId line.selections
          (Int.natCast_nonneg line.quantity) true
        rcases drift_applyLineDelta ok productId with ⟨same, moved⟩
        rw [ok]
        refine ⟨same, moved.trans ?_⟩
        have known : (line.productId = productId ∧
            ¬Answers inv line.productId line.variantId line.selections) ↔
              Stranded inv tenantId productId line := by
          rw [Stranded]
          constructor
          · rintro ⟨mine, missing⟩
            exact ⟨mine, by rw [← mine, found]; rfl, missing⟩
          · rintro ⟨mine, -, missing⟩
            exact ⟨mine, missing⟩
        simp only [known]

/-- A restock moves the product's own count above the sum by the pieces of its stranded lines. -/
theorem drift_restockLines (tenantId : Option UUID) (inv : Inventory) {replies : Nat → Reply}
    {lines : List StockLine} (quiet : raises replies lines = false) (productId : UUID) :
    Inventory.SameRows productId inv (restockLines tenantId inv replies lines).inventory ∧
      (restockLines tenantId inv replies lines).inventory.drift productId = inv.drift productId +
        (((lines.filter (Stranded inv tenantId productId)).map StockLine.quantity).sum : Nat) := by
  induction lines generalizing inv replies with
  | nil => exact ⟨.refl inv, by simp [restockLines]⟩
  | cons line rest ih =>
      have later : (restockLines tenantId inv replies (line :: rest)).inventory =
          (restockLines tenantId (restockLine tenantId inv (replies 0).scan line)
            (fun n => replies (n + 1)) rest).inventory := by
        rcases Nat.eq_zero_or_pos line.quantity with nothing | some_
        · rw [restockLines_empty nothing]
        · rw [raises, Bool.or_eq_false_iff, Bool.and_eq_false_iff] at quiet
          have answered : (replies 0).raises = false := by
            rcases quiet.1 with nothing | answered
            · simp [some_.ne'] at nothing
            · exact answered
          cases found : inv.product? tenantId line.productId with
          | none => rw [restockLines_missing some_ answered found]
          | some product => rw [restockLines_found some_ answered found]
      rw [raises, Bool.or_eq_false_iff] at quiet
      rcases drift_restockLine tenantId inv (replies 0).scan line productId with ⟨same, moved⟩
      rcases ih _ quiet.2 with ⟨same', moved'⟩
      rw [later]
      refine ⟨same.trans same', ?_⟩
      have alike : (fun other => decide (Stranded (restockLine tenantId inv (replies 0).scan line)
          tenantId productId other)) = fun other => decide (Stranded inv tenantId productId other) :=
        funext fun other => decide_eq_decide.mpr (stranded_of_same same tenantId other)
      rw [moved', moved, alike, List.filter_cons]
      by_cases lost : Stranded inv tenantId productId line
      · simp [lost]
        omega
      · simp [lost]

end Lines

/-- An edit of the stock. -/
inductive StockEdit where
  | debit (line : LineMove) (allowNegative : Bool)
  | restockOrder (order : Order) (replies : Nat → Reply) (reason : Option String) (now : Time)
  /-- The lines that a partial acceptance returns. -/
  | restockLines (tenantId : Option UUID) (replies : Nat → Reply) (lines : List StockLine)
  | setLevel (rowId storeId variantId locationId : UUID) (available : Int)
  | adjustLevel (variantId locationId : UUID) (delta : Int)
  | syncSimpleProduct (productId : UUID)
  | recomputeQuantity (productId : UUID)

namespace Warehouse
variable [TextCase]

def edit (warehouse : Warehouse) : StockEdit → Warehouse
  | .debit line allowNegative => warehouse.moved line (-(line.quantity : Int)) allowNegative
  | .restockOrder order replies reason now =>
      let restocked := tryRestockOrder warehouse.inventory replies order reason now
      { warehouse with inventory := restocked.inventory }
  | .restockLines tenantId replies lines =>
      let replay := Stock.restockLines tenantId warehouse.inventory replies lines
      if replay.raised then warehouse else { warehouse with inventory := replay.inventory }
  | .setLevel rowId storeId variantId locationId available =>
      orKeep warehouse (warehouse.setLevel rowId storeId variantId locationId available)
  | .adjustLevel variantId locationId delta =>
      orKeep warehouse (warehouse.adjustLevel variantId locationId delta)
  | .syncSimpleProduct productId =>
      { warehouse with inventory := warehouse.inventory.syncSimpleProduct productId }
  | .recomputeQuantity productId =>
      { warehouse with inventory := warehouse.inventory.recomputeQuantity productId }

/-- A line that the stock lets through. -/
def Passes (inv : Inventory) (line : LineMove) (delta : Int) (allowNegative : Bool) : Prop :=
  ∃ product, inv.product? line.tenantId line.productId = some product ∧
    debitRefusal product (findCombo (product.attributes.getD {}) line.selections)
      (resolveVariantRow inv line.scan line.productId line.variantId line.selections)
      line.variantId line.selections delta allowNegative = none

/-- Each line that puts pieces of the product back finds a variant of it, unless one raises. -/
def PutsBack (inv : Inventory) (tenantId : Option UUID) (productId : UUID)
    (replies : Nat → Reply) (lines : List StockLine) : Prop :=
  raises replies lines = false → ∀ line ∈ lines, 0 < line.quantity →
    ¬Stranded inv tenantId productId line

/-- The locations of a variant of the product hold what it counts already once one of them changes
by so much. -/
def Recounts (inv : Inventory) (productId variantId : UUID) (change : Int) : Prop :=
  ∀ variant, inv.variants.get? variantId = some variant → variant.productId = productId →
    inv.levelTotal variantId + change = variant.inventoryQuantity

def availableAt (inv : Inventory) (variantId locationId : UUID) : Int :=
  ((inv.levelAt variantId locationId).map fun row => row.2.available).getD 0

/-- The level is there, or its row id is free. -/
def Upserts (inv : Inventory) (rowId variantId locationId : UUID) : Prop :=
  inv.levelAt variantId locationId = none → inv.levels.get? rowId = none

/-- When an edit keeps the product's own count the sum of its variants. -/
def KeepsHeadline (productId : UUID) (warehouse : Warehouse) : StockEdit → Prop
  | .debit line allowNegative =>
      line.productId = productId → 0 < line.quantity →
        Passes warehouse.inventory line (-(line.quantity : Int)) allowNegative →
          Answers warehouse.inventory line.productId line.variantId line.selections
  | .restockOrder order replies _ _ =>
      order.metadata.stockRestockedAt = none →
        PutsBack warehouse.inventory order.tenantId productId replies
          (minusRestocked (manifest order) (order.metadata.stockRestockedLines.getD []))
  | .restockLines tenantId replies lines =>
      PutsBack warehouse.inventory tenantId productId replies lines
  | .setLevel rowId storeId variantId locationId available =>
      warehouse.variantStores.get? variantId = some storeId →
        warehouse.locationStores.get? locationId = some storeId →
          Upserts warehouse.inventory rowId variantId locationId →
            Recounts warehouse.inventory productId variantId
              (available - availableAt warehouse.inventory variantId locationId)
  | .adjustLevel variantId locationId delta =>
      ∀ row, warehouse.inventory.levelAt variantId locationId = some row →
        0 ≤ row.2.available + delta → Recounts warehouse.inventory productId variantId delta
  | .syncSimpleProduct _ => True
  | .recomputeQuantity _ => True

section Step
variable {warehouse : Warehouse} {productId : UUID}

theorem move_ok_of_passes {line : LineMove} {delta : Int} {allowNegative : Bool}
    (passes : Passes warehouse.inventory line delta allowNegative) :
    ∃ result, warehouse.move line delta allowNegative = .ok result := by
  rcases passes with ⟨product, found, refused⟩
  rw [move, applyLineDelta, found]
  dsimp only
  rw [refused]
  exact ⟨_, rfl⟩

theorem passes_of_move {line : LineMove} {delta : Int} {allowNegative : Bool}
    {result : Inventory × StockLine}
    (ok : warehouse.move line delta allowNegative = .ok result) :
    Passes warehouse.inventory line delta allowNegative := by
  rw [move, applyLineDelta] at ok
  split at ok
  · cases ok
  · rename_i product found
    dsimp only at ok
    split at ok
    · cases ok
    · rename_i refused
      exact ⟨product, found, refused⟩

theorem headline_debit_iff (headline : warehouse.inventory.Headline productId) (line : LineMove)
    (allowNegative : Bool) :
    (warehouse.edit (.debit line allowNegative)).inventory.Headline productId ↔
      warehouse.KeepsHeadline productId (.debit line allowNegative) := by
  cases went : warehouse.move line (-(line.quantity : Int)) allowNegative with
  | error reason =>
      rw [edit, moved, went]
      refine iff_of_true headline fun _ _ passes => ?_
      rcases move_ok_of_passes passes with ⟨result, ok⟩
      rw [went] at ok
      cases ok
  | ok result =>
      rcases drift_applyLineDelta went productId with ⟨same, shifted⟩
      rw [edit, moved, went]
      dsimp only
      rw [Inventory.headline_of_same headline same, shifted, KeepsHeadline]
      have passes := passes_of_move went
      constructor
      · intro level mine some_ _
        by_contra lost
        rw [if_pos ⟨mine, lost⟩] at level
        omega
      · intro answers
        split
        · rename_i lost
          have nothing : ¬0 < line.quantity := fun some_ =>
            lost.2 (answers lost.1 some_ passes)
          omega
        · exact add_zero _

theorem headline_restock_iff {inv : Inventory} (headline : inv.Headline productId)
    (tenantId : Option UUID) {replies : Nat → Reply} {lines : List StockLine}
    (quiet : raises replies lines = false) :
    (Stock.restockLines tenantId inv replies lines).inventory.Headline productId ↔
      PutsBack inv tenantId productId replies lines := by
  rcases drift_restockLines tenantId inv quiet productId with ⟨same, shifted⟩
  rw [Inventory.headline_of_same headline same, shifted, PutsBack]
  have empty : (inv.drift productId + (((lines.filter (Stranded inv tenantId productId)).map
      StockLine.quantity).sum : Nat) = inv.drift productId) ↔
        ((lines.filter (Stranded inv tenantId productId)).map StockLine.quantity).sum = 0 := by
    omega
  rw [empty, List.sum_eq_zero_iff_forall_eq_nat]
  constructor
  · intro none_ _ line mem some_ lost
    have zero := none_ line.quantity
      (List.mem_map_of_mem (List.mem_filter.mpr ⟨mem, decide_eq_true lost⟩))
    omega
  · intro finds quantity mem
    rcases List.mem_map.mp mem with ⟨line, inside, rfl⟩
    rcases List.mem_filter.mp inside with ⟨listed, lost⟩
    by_contra some_
    exact finds quiet line listed (Nat.pos_of_ne_zero some_) (of_decide_eq_true lost)

theorem headline_restockLines_iff (headline : warehouse.inventory.Headline productId)
    (tenantId : Option UUID) (replies : Nat → Reply) (lines : List StockLine) :
    (warehouse.edit (.restockLines tenantId replies lines)).inventory.Headline productId ↔
      warehouse.KeepsHeadline productId (.restockLines tenantId replies lines) := by
  rw [edit, KeepsHeadline, restockLines_raised]
  cases raised : raises replies lines with
  | true =>
      rw [if_pos rfl]
      refine iff_of_true headline fun quiet => ?_
      rw [raised] at quiet
      cases quiet
  | false =>
      rw [if_neg Bool.false_ne_true]
      exact headline_restock_iff headline tenantId raised

theorem headline_restockOrder_iff (headline : warehouse.inventory.Headline productId)
    (order : Order) (replies : Nat → Reply) (reason : Option String) (now : Time) :
    (warehouse.edit (.restockOrder order replies reason now)).inventory.Headline productId ↔
      warehouse.KeepsHeadline productId (.restockOrder order replies reason now) := by
  rw [edit, KeepsHeadline, tryRestockOrder, restockOrder]
  dsimp only
  by_cases nothing : manifest order = []
  · rw [if_pos nothing, nothing, Option.getD_some]
    refine iff_of_true headline fun _ _ line mem => ?_
    have lines : ∀ ledger : List StockLine, minusRestocked [] ledger = [] := by
      intro ledger
      rw [minusRestocked]
      induction ledger with
      | nil => rfl
      | cons done rest ih => exact ih
    rw [lines] at mem
    cases mem
  · rw [if_neg nothing]
    cases stamped : order.metadata.stockRestockedAt with
    | some at_ =>
        rw [if_pos Option.isSome_some, Option.getD_some]
        exact iff_of_true headline (by simp)
    | none =>
        rw [if_neg (by simp), restockLines_raised]
        cases raised : raises replies
            (minusRestocked (manifest order) (order.metadata.stockRestockedLines.getD [])) with
        | true =>
            rw [if_pos rfl, Option.getD_none]
            refine iff_of_true headline fun _ quiet => ?_
            rw [raised] at quiet
            cases quiet
        | false =>
            rw [if_neg Bool.false_ne_true, Option.getD_some]
            exact (headline_restock_iff headline order.tenantId raised).trans
              ⟨fun puts _ => puts, fun puts => puts rfl⟩

omit [TextCase] in
/-- Rolling a variant up keeps its product's count the sum exactly if its locations hold what it
counts. -/
theorem headline_rollup_iff {inv written : Inventory} (headline : inv.Headline productId)
    (products : written.products = inv.products) (variants : written.variants = inv.variants)
    {variantId : UUID} {change : Int}
    (total : written.levelTotal variantId = inv.levelTotal variantId + change) :
    (written.rollup variantId).Headline productId ↔ Recounts inv productId variantId change := by
  rcases Inventory.sameRows_of_tables productId products variants with ⟨same, level⟩
  have rows : Inventory.SameRows productId written (written.rollup variantId) :=
    Inventory.sameRows_modifyVariant productId written variantId fun _ => ⟨rfl, rfl⟩
  rw [Inventory.headline_of_same headline (same.trans rows), Recounts]
  cases found : inv.variants.get? variantId with
  | none =>
      have untouched : (written.rollup variantId).variants = written.variants := by
        apply Table.modify_eq_self
        intro row present
        rw [variants, found] at present
        cases present
      have products' : (written.rollup variantId).products = written.products := rfl
      have kept := (Inventory.sameRows_of_tables productId products' untouched).2
      exact iff_of_true (kept.trans level) (by simp)
  | some variant =>
      have counted : (written.rollup variantId).drift productId = written.drift productId -
          if variant.productId = productId then
            written.levelTotal variantId - variant.inventoryQuantity else 0 :=
        Inventory.drift_modifyVariant productId (variants ▸ found) rfl
      simp only [Option.some.injEq, forall_eq']
      rw [counted, level, total]
      split
      · rename_i mine
        simp only [mine, true_imp_iff]
        omega
      · rename_i foreign
        simp [foreign]

omit [TextCase] in
theorem headline_adjustLevel_iff (headline : warehouse.inventory.Headline productId)
    (variantId locationId : UUID) (delta : Int) :
    (orKeep warehouse (warehouse.adjustLevel variantId locationId delta)).inventory.Headline
        productId ↔
      ∀ row, warehouse.inventory.levelAt variantId locationId = some row →
        0 ≤ row.2.available + delta → Recounts warehouse.inventory productId variantId delta := by
  cases written : warehouse.inventory.adjust variantId locationId delta with
  | error reason =>
      have raises_ : warehouse.adjustLevel variantId locationId delta = .error reason := by
        rw [adjustLevel, written]
        rfl
      rw [raises_, orKeep]
      refine iff_of_true headline fun row found enough => ?_
      rw [Inventory.adjust, found] at written
      dsimp only at written
      rw [if_neg (not_lt.mpr enough)] at written
      cases written
  | ok after =>
      have returns : warehouse.adjustLevel variantId locationId delta =
          .ok { warehouse with inventory := after.rollup variantId } := by
        rw [adjustLevel, written]
        rfl
      rcases Inventory.adjust_ok written with ⟨row, found, enough, after_eq⟩
      have total : after.levelTotal variantId = warehouse.inventory.levelTotal variantId + delta := by
        rw [Inventory.adjust_levelTotal written, if_pos rfl]
      rw [returns, orKeep]
      dsimp only
      rw [headline_rollup_iff headline (by rw [after_eq]; rfl) (by rw [after_eq]; rfl) total]
      constructor
      · exact fun recounts _ _ _ => recounts
      · exact fun fits => fits row found enough

omit [TextCase] in
theorem upsert_ok_iff {inv : Inventory} {rowId variantId locationId : UUID} (available : Int) :
    (∃ written, inv.upsert rowId variantId locationId available = .ok written) ↔
      Upserts inv rowId variantId locationId := by
  rw [Upserts, Inventory.upsert]
  cases inv.levelAt variantId locationId with
  | some row => simp
  | none => cases inv.levels.get? rowId <;> simp

omit [TextCase] in
theorem upsert_ok {inv written : Inventory} {rowId variantId locationId : UUID} {available : Int}
    (ok : inv.upsert rowId variantId locationId available = .ok written) :
    written.products = inv.products ∧ written.levelTotal variantId =
      inv.levelTotal variantId + (available - availableAt inv variantId locationId) := by
  cases here : inv.levelAt variantId locationId with
  | some row =>
      rcases Inventory.levelAt_some here with ⟨present, mine, -⟩
      rw [Inventory.upsert, here, Except.ok.injEq] at ok
      rw [← ok, availableAt, here]
      refine ⟨rfl, ?_⟩
      rw [Inventory.setAvailable, Inventory.levelTotal_modifyLevel present rfl, if_pos mine]
      rfl
  | none =>
      have total : written.levelTotal variantId =
          inv.levelTotal variantId + if variantId = variantId then available else 0 :=
        Inventory.upsert_new_levelTotal here ok
      rw [if_pos rfl] at total
      rw [availableAt, here, total, Option.map_none, Option.getD_none, sub_zero]
      refine ⟨?_, rfl⟩
      rw [Inventory.upsert, here] at ok
      dsimp only at ok
      split at ok
      · cases ok
      · rw [← Except.ok.inj ok]

omit [TextCase] in
theorem headline_setLevel_iff (headline : warehouse.inventory.Headline productId)
    (rowId storeId variantId locationId : UUID) (available : Int) :
    (orKeep warehouse (warehouse.setLevel rowId storeId variantId locationId
        available)).inventory.Headline productId ↔
      (warehouse.variantStores.get? variantId = some storeId →
        warehouse.locationStores.get? locationId = some storeId →
          Upserts warehouse.inventory rowId variantId locationId →
            Recounts warehouse.inventory productId variantId
              (available - availableAt warehouse.inventory variantId locationId)) := by
  cases result : warehouse.setLevel rowId storeId variantId locationId available with
  | error reason =>
      refine iff_of_true headline fun variant location fits => ?_
      rcases (upsert_ok_iff available).mpr fits with ⟨written, ok⟩
      rw [setLevel, assertVariantInStore, assertLocationInStore, if_pos variant, if_pos location,
        ok] at result
      cases result
  | ok after =>
      rcases bind_eq_ok.mp result with ⟨_, variant, rest⟩
      rcases bind_eq_ok.mp rest with ⟨_, location, rest⟩
      rcases bind_eq_ok.mp rest with ⟨written, ok, returned⟩
      rcases Except.ok.inj returned with ⟨⟩
      rcases upsert_ok ok with ⟨products, total⟩
      have variants := (Inventory.upsert_other ok variantId).1
      rw [orKeep, headline_rollup_iff headline products variants total]
      constructor
      · exact fun recounts _ _ _ => recounts
      · intro fits
        apply fits
        · by_contra foreign
          rw [assertVariantInStore, if_neg foreign] at variant
          cases variant
        · by_contra foreign
          rw [assertLocationInStore, if_neg foreign] at location
          cases location
        · exact (upsert_ok_iff available).mp ⟨written, ok⟩

omit [TextCase] in
theorem headline_syncSimpleProduct {inv : Inventory} (headline : inv.Headline productId)
    (syncedId : UUID) : (inv.syncSimpleProduct syncedId).Headline productId := by
  rw [Inventory.syncSimpleProduct]
  split
  · rename_i product row present only
    split
    · have listed : row ∈ inv.variantsOf syncedId := by rw [only]; exact List.mem_singleton_self _
      rcases mem_variantsOf.mp listed with ⟨stored, mine⟩
      have counted := Inventory.drift_modifyVariant productId stored
        (f := fun variant : Variant => { variant with inventoryQuantity := product.quantity }) rfl
      refine (Inventory.headline_of_same headline ?_).mpr ?_
      · exact Inventory.sameRows_modifyVariant productId inv row.1 fun _ => ⟨rfl, rfl⟩
      · rw [counted]
        split
        · rename_i same
          rcases headline.1 with ⟨product', present', level⟩
          rw [← same, mine, present, Option.some.injEq] at present'
          rw [← same, mine, Inventory.variantTotal, only, List.map_singleton, List.sum_singleton,
            ← present'] at level
          rw [level, sub_self, sub_zero]
        · rw [sub_zero]
    · exact headline
  · exact headline

omit [TextCase] in
theorem headline_recomputeQuantity {inv : Inventory} (headline : inv.Headline productId)
    (recomputedId : UUID) : (inv.recomputeQuantity recomputedId).Headline productId := by
  rw [Inventory.recomputeQuantity]
  split
  · exact headline
  · refine (Inventory.headline_of_same headline ?_).mpr ?_
    · exact Inventory.sameRows_modifyProduct productId inv recomputedId fun _ => rfl
    · cases found : inv.products.get? recomputedId with
      | none =>
          have untouched : (inv.modifyProduct recomputedId fun product =>
              { product with quantity := inv.variantTotal recomputedId }).products =
                inv.products := by
            apply Table.modify_eq_self
            intro row present
            rw [found] at present
            cases present
          have variants : (inv.modifyProduct recomputedId fun product =>
              { product with quantity := inv.variantTotal recomputedId }).variants =
                inv.variants := rfl
          exact (Inventory.sameRows_of_tables productId untouched variants).2
      | some product =>
          rw [Inventory.drift_modifyProduct productId found]
          split
          · rename_i same
            rcases headline.1 with ⟨product', present', level⟩
            rw [← same, found, Option.some.injEq] at present'
            rw [present', level, same, sub_self, add_zero]
          · rw [add_zero]

/-- One edit keeps a product's count the sum of its variants exactly under its condition. -/
theorem headline_edit_iff (headline : warehouse.inventory.Headline productId) (edit_ : StockEdit) :
    (warehouse.edit edit_).inventory.Headline productId ↔
      warehouse.KeepsHeadline productId edit_ := by
  cases edit_ with
  | debit line allowNegative => exact headline_debit_iff headline line allowNegative
  | restockOrder order replies reason now =>
      exact headline_restockOrder_iff headline order replies reason now
  | restockLines tenantId replies lines =>
      exact headline_restockLines_iff headline tenantId replies lines
  | setLevel rowId storeId variantId locationId available =>
      exact headline_setLevel_iff headline rowId storeId variantId locationId available
  | adjustLevel variantId locationId delta =>
      exact headline_adjustLevel_iff headline variantId locationId delta
  | syncSimpleProduct syncedId =>
      exact iff_of_true (headline_syncSimpleProduct headline syncedId) trivial
  | recomputeQuantity recomputedId =>
      exact iff_of_true (headline_recomputeQuantity headline recomputedId) trivial

/-- Along a run a product's count stays the sum of its variants exactly if each order line finds a
variant and each edit of a level leaves its variant's count as it is. -/
theorem headline_is_sum_iff (productId : UUID) (headline : warehouse.inventory.Headline productId)
    (edits : List StockEdit) :
    Run.Always edit (fun after => after.inventory.Headline productId) warehouse edits ↔
      Run.Guarded edit (KeepsHeadline productId) warehouse edits :=
  Run.always_iff_guarded (I := fun after : Warehouse => after.inventory.Headline productId)
    (fun _ edit_ headline keeps => (headline_edit_iff headline edit_).mpr keeps)
    (fun _ headline => headline)
    (fun _ edit_ headline kept => (headline_edit_iff headline edit_).mp kept) headline edits

end Step
end Warehouse

namespace Warehouse

theorem tenPieces_headline : tenPieces.inventory.Headline 41 :=
  ⟨⟨_, rfl, by decide +kernel⟩, by decide +kernel⟩

theorem small_orders_keep_headline :
    letI := TextCase.ascii
    Run.Always edit (fun after => after.inventory.Headline 41) tenPieces
      [.debit (pieces 5) false,
        .restockLines (some 7) (fun _ => ⟨.stored, false⟩) [⟨41, some 1, none, 2⟩],
        .recomputeQuantity 41] := by
  apply (@headline_is_sum_iff TextCase.ascii _ 41 tenPieces_headline _).mpr
  refine ⟨fun _ _ _ => ?_, fun _ line mem _ => ?_, trivial, trivial⟩
  · decide +kernel
  · rw [List.mem_singleton] at mem
    rw [mem]
    decide +kernel

/-- Nine pieces at the second location instead of four: the variant counts fifteen, the product
ten. -/
theorem level_edit_leaves_headline :
    letI := TextCase.ascii
    tenPieces.inventory.Headline 41 ∧
      ¬ Run.Always edit (fun after => after.inventory.Headline 41) tenPieces
        [.setLevel 23 3 1 12 9] := by
  refine ⟨tenPieces_headline, fun always => ?_⟩
  rcases always.last.1 with ⟨product, found, level⟩
  cases found
  revert level
  decide +kernel

end Warehouse
end Numu.Stock
