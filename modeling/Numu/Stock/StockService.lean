import Numu.Foundation.IntegerText
import Numu.Foundation.Table
import Numu.Orders.Order

/-! The stored stock counts: products with their combinations, variants, per-location levels. -/

namespace Numu.Stock
open Numu.Orders (UUID Selections)

/-- Python's `str.lower`. -/
class TextCase where
  lower : String → String

/-- Lower case of the ASCII letters alone. -/
@[reducible] def TextCase.ascii : TextCase := ⟨fun text => text.map Char.toLower⟩

/-- A scalar read from a JSONB document. -/
inductive JsonScalar where
  | null
  | bool (b : Bool)
  | int (n : Int)
  | real (q : ℚ)
  | text (s : String)
  | other
  deriving DecidableEq

structure Combo where
  options : Option Selections
  enabled : JsonScalar
  stock : JsonScalar
  deriving DecidableEq

/-- An element of `variant_combinations`; `other` is one that is not a dict. -/
inductive ComboEntry where
  | combo (combo : Combo)
  | other
  deriving DecidableEq

structure Attributes where
  /-- `none` when the key is absent or its value is not a list. -/
  variantCombinations : Option (List ComboEntry) := none
  deriving DecidableEq

structure Product where
  tenantId : UUID
  quantity : Int
  attributes : Option Attributes
  deriving DecidableEq

structure Variant where
  productId : UUID
  optionValues : Selections
  inventoryQuantity : Int
  deriving DecidableEq

structure InventoryLevel where
  variantId : UUID
  locationId : UUID
  available : Int
  deriving DecidableEq

structure Inventory where
  products : Table UUID Product
  variants : Table UUID Variant
  levels : Table UUID InventoryLevel
  deriving DecidableEq

/-- The order in which the database hands out the rows of a query without `ORDER BY`. -/
structure Scan where
  variants : List (UUID × Variant) → List (UUID × Variant)
  levels : List (UUID × InventoryLevel) → List (UUID × InventoryLevel)
  variants_perm : ∀ rows, (variants rows).Perm rows
  levels_perm : ∀ rows, (levels rows).Perm rows

/-- Rows in the order they were stored. -/
def Scan.stored : Scan := ⟨id, id, fun _ => .refl _, fun _ => .refl _⟩

def Scan.newestFirst : Scan :=
  ⟨List.reverse, List.reverse, fun rows => rows.reverse_perm, fun rows => rows.reverse_perm⟩

namespace Inventory

def product? (inv : Inventory) (tenantId : Option UUID) (productId : UUID) : Option Product :=
  (inv.products.get? productId).filter fun product => some product.tenantId = tenantId

def variantsOf (inv : Inventory) (productId : UUID) : List (UUID × Variant) :=
  inv.variants.rows.filter fun row => row.2.productId = productId

def levelsOf (inv : Inventory) (variantId : UUID) : List (UUID × InventoryLevel) :=
  inv.levels.rows.filter fun row => row.2.variantId = variantId

def modifyProduct (inv : Inventory) (productId : UUID) (f : Product → Product) : Inventory :=
  { inv with products := inv.products.modify productId f }

def modifyVariant (inv : Inventory) (variantId : UUID) (f : Variant → Variant) : Inventory :=
  { inv with variants := inv.variants.modify variantId f }

def modifyLevel (inv : Inventory) (levelId : UUID) (f : InventoryLevel → InventoryLevel) :
    Inventory :=
  { inv with levels := inv.levels.modify levelId f }

end Inventory
end Numu.Stock

/-! `stock_service`: the one write path for order-driven stock changes. -/

namespace Numu.Stock
open Numu.Orders (UUID Time Selections StockLine Order)

def chosen (selections : Option Selections) : Bool :=
  selections.getD [] ≠ []

/-- `selections or None`. -/
def orNone (selections : Option Selections) : Option Selections :=
  if chosen selections then selections else none

theorem orNone_of_chosen {selections : Option Selections} (picked : chosen selections = true) :
    orNone selections = selections := if_pos picked

@[simp] theorem chosen_orNone (selections : Option Selections) :
    chosen (orNone selections) = chosen selections := by
  unfold orNone
  cases picked : chosen selections with
  | true => simpa using picked
  | false => rfl

@[simp] theorem orNone_orNone (selections : Option Selections) :
    orNone (orNone selections) = orNone selections := by
  rw [orNone, chosen_orNone]
  cases picked : chosen selections <;> simp [orNone, picked]

section
variable [TextCase]

/-- `_norm`: keys and values in lower case; of two keys that collide the later wins. -/
def norm (d : Option Selections) : Table String String :=
  Table.ofList ((d.getD []).map fun pair => (TextCase.lower pair.1, TextCase.lower pair.2))

@[simp] theorem norm_orNone (selections : Option Selections) :
    norm (orNone selections) = norm selections := by
  cases picked : chosen selections with
  | true => rw [orNone_of_chosen picked]
  | false =>
      have nothing : selections.getD [] = [] := by simpa [chosen] using picked
      simp [norm, orNone, picked, nothing]

/-- `_resolve_variant_row`. -/
def resolveVariantRow (inv : Inventory) (scan : Scan) (productId : UUID)
    (variantId : Option UUID) (selections : Option Selections) : Option (UUID × Variant) :=
  let explicit := variantId.bind fun id =>
    (inv.variants.get? id).bind fun row => if row.productId = productId then some (id, row) else none
  match explicit with
  | some row => some row
  | none =>
      let rows := scan.variants (inv.variantsOf productId)
      if rows = [] then none
      else if chosen selections then
        rows.find? fun row => (norm (some row.2.optionValues)).sameEntries (norm selections)
      else
        match rows.find? fun row => row.2.optionValues = [] with
        | some row => some row
        | none => if rows.length = 1 then rows.head? else none

def matchesCombo (selections : Option Selections) : ComboEntry → Bool
  | .combo combo => (norm combo.options).sameEntries (norm selections)
  | .other => false

/-- `_find_combo`. -/
def findCombo (attrs : Attributes) (selections : Option Selections) : Option Combo :=
  match attrs.variantCombinations with
  | none => none
  | some combos =>
      if chosen selections then
        (combos.find? (matchesCombo selections)).bind fun
          | .combo combo => some combo
          | .other => none
      else none

/-- `_combo_stock`: `int(raw)`, with 0 for no value and for one that is no number. -/
def comboStock (combo : Combo) : Int :=
  match combo.stock with
  | .null => 0
  | .bool b => if b then 1 else 0
  | .int n => n
  | .real q => Binary64.truncate q
  | .text s => (IntegerText.readInt s).getD 0
  | .other => 0

/-- Writes the stock of the combination `_find_combo` returned. -/
def writeComboStock (selections : Option Selections) (stock : Int) :
    List ComboEntry → List ComboEntry
  | [] => []
  | .combo combo :: rest =>
      if matchesCombo selections (.combo combo) then
        .combo { combo with stock := .text (IntegerText.writeInt stock) } :: rest
      else .combo combo :: writeComboStock selections stock rest
  | .other :: rest => .other :: writeComboStock selections stock rest

/-- Python's `max(rows, key=...)`: the first of the rows with the greatest key. -/
def firstMax {ρ : Type*} (key : ρ → Int) : ρ → List ρ → ρ
  | best, [] => best
  | best, row :: rest => if key best < key row then firstMax key row rest else firstMax key best rest

def levelTarget (rows : List (UUID × InventoryLevel)) (delta : Int) :
    Option (UUID × InventoryLevel) :=
  match rows with
  | [] => none
  | row :: rest => some (if delta < 0 then firstMax (fun r => r.2.available) row rest else row)

def floorAtZero (delta : Int) (level : InventoryLevel) : InventoryLevel :=
  { level with available := max 0 (level.available + delta) }

/-- `_mirror_into_levels`. -/
def mirrorIntoLevels (inv : Inventory) (scan : Scan) (variantId : UUID) (delta : Int) :
    Inventory :=
  match levelTarget (scan.levels (inv.levelsOf variantId)) delta with
  | none => inv
  | some target => inv.modifyLevel target.1 (floorAtZero delta)

inductive FailureReason where
  | notFound
  | noMatchingVariant
  | comboDisabled
  | insufficientStock
  deriving DecidableEq, Repr

def FailureReason.text : FailureReason → String
  | notFound => "not_found"
  | noMatchingVariant => "no_matching_variant"
  | comboDisabled => "combo_disabled"
  | insufficientStock => "insufficient_stock"

/-- The count a debit that may not go negative is checked against. -/
def availableStock (product : Product) (combo : Option Combo)
    (variantRow : Option (UUID × Variant)) (variantId : Option UUID) : Int :=
  match combo, variantRow with
  | some combo, _ => comboStock combo
  | none, some row => if some row.1 = variantId then row.2.inventoryQuantity else product.quantity
  | none, none => product.quantity

def debitRefusal (product : Product) (combo : Option Combo)
    (variantRow : Option (UUID × Variant)) (variantId : Option UUID)
    (selections : Option Selections) (delta : Int) (allowNegative : Bool) :
    Option FailureReason :=
  if delta < 0 then
    if chosen selections ∧ combo = none then some .noMatchingVariant
    else if combo.map Combo.enabled = some (.bool false) then some .comboDisabled
    else if !allowNegative ∧ availableStock product combo variantRow variantId < -delta then
      some .insufficientStock
    else none
  else none

def moveProduct (combo : Option Combo) (selections : Option Selections) (delta : Int)
    (product : Product) : Product :=
  match combo with
  | none => { product with quantity := product.quantity + delta }
  | some combo =>
      let attrs := product.attributes.getD {}
      { product with
        quantity := product.quantity + delta
        attributes := some { attrs with
          variantCombinations := attrs.variantCombinations.map
            (writeComboStock selections (comboStock combo + delta)) } }

def moveVariant (delta : Int) (variant : Variant) : Variant :=
  { variant with inventoryQuantity := variant.inventoryQuantity + delta }

def moveVariantRow (inv : Inventory) (scan : Scan) (variantRow : Option (UUID × Variant))
    (delta : Int) : Inventory :=
  match variantRow with
  | none => inv
  | some row => mirrorIntoLevels (inv.modifyVariant row.1 (moveVariant delta)) scan row.1 delta

/-- `apply_line_delta`: a negative `delta` debits, a positive one restocks. -/
def applyLineDelta (inv : Inventory) (scan : Scan) (tenantId : Option UUID) (productId : UUID)
    (variantId : Option UUID) (selections : Option Selections) (delta : Int)
    (allowNegative : Bool) : Except FailureReason (Inventory × StockLine) :=
  match inv.product? tenantId productId with
  | none => .error .notFound
  | some product =>
      let combo := findCombo (product.attributes.getD {}) selections
      let variantRow := resolveVariantRow inv scan productId variantId selections
      match debitRefusal product combo variantRow variantId selections delta allowNegative with
      | some reason => .error reason
      | none =>
          let moved := inv.modifyProduct productId (moveProduct combo selections delta)
          .ok (moveVariantRow moved scan variantRow delta,
            ⟨productId, variantRow.map Prod.fst,
              orNone selections, delta.natAbs⟩)

def debitOrderLine (inv : Inventory) (scan : Scan) (tenantId : Option UUID) (productId : UUID)
    (variantId : Option UUID) (selections : Option Selections) (quantity : Nat)
    (allowNegative : Bool := false) : Except FailureReason (Inventory × StockLine) :=
  applyLineDelta inv scan tenantId productId variantId selections (-(quantity : Int)) allowNegative

/-- How the database answers one call: the scan order, or an exception. -/
structure Reply where
  scan : Scan
  raises : Bool := false

structure RestockRun where
  inventory : Inventory
  /-- The replay entries of the lines that went through. -/
  putBack : List StockLine
  raised : Bool

/-- `restock_lines`; the count it returns is the length of `putBack`. -/
def restockLines (tenantId : Option UUID) :
    Inventory → (Nat → Reply) → List StockLine → RestockRun
  | inv, _, [] => ⟨inv, [], false⟩
  | inv, replies, line :: rest =>
      let later : Nat → Reply := fun n => replies (n + 1)
      if line.quantity = 0 then restockLines tenantId inv later rest
      else if (replies 0).raises then ⟨inv, [], true⟩
      else
        match applyLineDelta inv (replies 0).scan tenantId line.productId line.variantId
            line.selections line.quantity true with
        | .error _ => restockLines tenantId inv later rest
        | .ok (moved, entry) =>
            let tail := restockLines tenantId moved later rest
            { tail with putBack := entry :: tail.putBack }

/-- The test that lets a ledger entry take pieces off a manifest line. -/
def takesFrom (done line : StockLine) : Bool :=
  line.productId = done.productId &&
    (done.variantId.isNone || line.variantId.isNone || line.variantId = done.variantId)

def takeOff (done : StockLine) : Nat → List StockLine → List StockLine
  | _, [] => []
  | qty, line :: rest =>
      if qty = 0 then line :: rest
      else if takesFrom done line then
        let take := min qty line.quantity
        { line with quantity := line.quantity - take } :: takeOff done (qty - take) rest
      else line :: takeOff done qty rest

/-- `_minus_restocked`. -/
def minusRestocked (lines restocked : List StockLine) : List StockLine :=
  restocked.foldl (fun remaining done => takeOff done done.quantity remaining) lines

def manifest (order : Order) : List StockLine :=
  order.metadata.stockDebited.getD []

structure Restocked where
  inventory : Inventory
  order : Order
  restored : Bool
  putBack : List StockLine

def stampRestock (order : Order) (reason : Option String) (now : Time) : Order :=
  { order with
    metadata := { order.metadata with
      stockRestockedAt := some now
      stockRestockReason :=
        if Orders.given reason then reason else order.metadata.stockRestockReason } }

/-- `restock_order`. `none` is an exception; the savepoint undoes the lines before it. -/
def restockOrder (inv : Inventory) (replies : Nat → Reply) (order : Order)
    (reason : Option String) (now : Time) : Option Restocked :=
  let lines := manifest order
  if lines = [] then some ⟨inv, order, false, []⟩
  else if order.metadata.stockRestockedAt.isSome then some ⟨inv, order, false, []⟩
  else
    let remaining := minusRestocked lines (order.metadata.stockRestockedLines.getD [])
    let replay := restockLines order.tenantId inv replies remaining
    if replay.raised then none
    else some ⟨replay.inventory, stampRestock order reason now, true, replay.putBack⟩

/-- `try_restock_order`: an exception leaves the stock and the order as they were. -/
def tryRestockOrder (inv : Inventory) (replies : Nat → Reply) (order : Order)
    (reason : Option String) (now : Time) : Restocked :=
  (restockOrder inv replies order reason now).getD ⟨inv, order, false, []⟩

end
end Numu.Stock
