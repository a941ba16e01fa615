import Numu.Foundation.Outcome
import Numu.Stock.StockService

/-! The per-location levels: the hub's edits, the rollup to the variant, and one transfer line. -/

namespace Numu.Stock
open Numu.Orders (UUID Time)
open Numu.Outcome (bind_eq_ok)

inductive InventoryError where
  | variantNotFound (id : UUID)
  | locationNotFound (id : UUID)
  | noLevel (variantId locationId : UUID)
  | insufficientStock (available delta : Int)
  /-- The row id of an insert is taken. -/
  | duplicateRow (id : UUID)
  deriving DecidableEq

/-- The stock of a tenant, and the stores that its variants and locations belong to. -/
structure Warehouse where
  inventory : Inventory
  variantStores : Table UUID UUID
  locationStores : Table UUID UUID

namespace Inventory

/-- The level of a variant at a location, of which there is at most one. -/
def levelAt (inv : Inventory) (variantId locationId : UUID) : Option (UUID × InventoryLevel) :=
  inv.levels.rows.find? fun row => row.2.variantId = variantId && row.2.locationId = locationId

def setAvailable (inv : Inventory) (levelId : UUID) (available : Int) : Inventory :=
  inv.modifyLevel levelId fun level => { level with available := available }

/-- `upsert`; `rowId` is the id of the row if it is new. -/
def upsert (inv : Inventory) (rowId variantId locationId : UUID) (available : Int) :
    Except InventoryError Inventory :=
  match inv.levelAt variantId locationId with
  | some row => .ok (inv.setAvailable row.1 available)
  | none =>
      if (inv.levels.get? rowId).isSome then .error (.duplicateRow rowId)
      else
        let level : InventoryLevel :=
          { variantId := variantId, locationId := locationId, available := available }
        .ok { inv with levels := inv.levels.set rowId level }

/-- `adjust`, which no caller lets go below zero. -/
def adjust (inv : Inventory) (variantId locationId : UUID) (delta : Int) :
    Except InventoryError Inventory :=
  match inv.levelAt variantId locationId with
  | none => .error (.noLevel variantId locationId)
  | some row =>
      if row.2.available + delta < 0 then .error (.insufficientStock row.2.available delta)
      else .ok (inv.setAvailable row.1 (max 0 (row.2.available + delta)))

/-- What the locations of a variant hold. -/
def levelTotal (inv : Inventory) (variantId : UUID) : Int :=
  ((inv.levelsOf variantId).map fun row => row.2.available).sum

/-- `_rollup_variant_total`. -/
def rollup (inv : Inventory) (variantId : UUID) : Inventory :=
  inv.modifyVariant variantId fun variant =>
    { variant with inventoryQuantity := inv.levelTotal variantId }

end Inventory

namespace Warehouse

def assertVariantInStore (warehouse : Warehouse) (storeId variantId : UUID) :
    Except InventoryError Unit :=
  if warehouse.variantStores.get? variantId = some storeId then .ok ()
  else .error (.variantNotFound variantId)

def assertLocationInStore (warehouse : Warehouse) (storeId locationId : UUID) :
    Except InventoryError Unit :=
  if warehouse.locationStores.get? locationId = some storeId then .ok ()
  else .error (.locationNotFound locationId)

def setLevel (warehouse : Warehouse) (rowId storeId variantId locationId : UUID) (available : Int) :
    Except InventoryError Warehouse := do
  warehouse.assertVariantInStore storeId variantId
  warehouse.assertLocationInStore storeId locationId
  let written ← warehouse.inventory.upsert rowId variantId locationId available
  return { warehouse with inventory := written.rollup variantId }

/-- `adjust_level`, which asks for no store. -/
def adjustLevel (warehouse : Warehouse) (variantId locationId : UUID) (delta : Int) :
    Except InventoryError Warehouse := do
  let written ← warehouse.inventory.adjust variantId locationId delta
  return { warehouse with inventory := written.rollup variantId }

end Warehouse

structure TransferLine where
  variantId : UUID
  quantity : Nat
  quantity_pos : 1 ≤ quantity

/-- One line of a received transfer: off one location and onto another. -/
def moveLine (fromLocationId toLocationId : UUID) (rowIds : UUID → UUID) (inv : Inventory)
    (line : TransferLine) : Except InventoryError Inventory := do
  let taken ← inv.adjust line.variantId fromLocationId (-(line.quantity : Int))
  if (taken.levelAt line.variantId toLocationId).isNone then
    taken.upsert (rowIds line.variantId) line.variantId toLocationId line.quantity
  else taken.adjust line.variantId toLocationId line.quantity

namespace Inventory
variable {inv after : Inventory} {rowId variantId locationId levelId other : UUID} {delta : Int}

def countOf (variantId : UUID) (level : InventoryLevel) : Int :=
  if level.variantId = variantId then level.available else 0

/-- The total is a sum over all levels. -/
theorem levelTotal_eq (inv : Inventory) (variantId : UUID) :
    inv.levelTotal variantId = inv.levels.sumOf (countOf variantId) := by
  rw [levelTotal, levelsOf]
  apply (inv.levels.sum_filter (fun level => level.variantId = variantId) _).trans
  simp only [decide_eq_true_iff]
  rfl

theorem levelAt_some {row : UUID × InventoryLevel}
    (found : inv.levelAt variantId locationId = some row) :
    inv.levels.get? row.1 = some row.2 ∧ row.2.variantId = variantId ∧
      row.2.locationId = locationId := by
  have listed := List.mem_of_find?_eq_some found
  have fits := List.find?_some found
  rw [Bool.and_eq_true, decide_eq_true_iff, decide_eq_true_iff] at fits
  exact ⟨(Table.get?_eq_some_iff _ _ _).mpr listed, fits⟩

/-- Rewriting a level changes the total of its variant alone. -/
theorem levelTotal_modifyLevel {level : InventoryLevel} {f : InventoryLevel → InventoryLevel}
    (present : inv.levels.get? levelId = some level)
    (keeps : (f level).variantId = level.variantId) :
    (inv.modifyLevel levelId f).levelTotal other = inv.levelTotal other +
      if level.variantId = other then (f level).available - level.available else 0 := by
  have summed := inv.levels.sumOf_modify present f (countOf other)
  rw [levelTotal_eq, levelTotal_eq, modifyLevel]
  simp only [countOf, keeps] at summed ⊢
  split at summed
  · rename_i mine
    rw [if_pos mine]
    omega
  · rename_i foreign
    rw [if_neg foreign]
    omega

theorem adjust_ok (ok : inv.adjust variantId locationId delta = .ok after) :
    ∃ row, inv.levelAt variantId locationId = some row ∧ 0 ≤ row.2.available + delta ∧
      after = inv.setAvailable row.1 (row.2.available + delta) := by
  rw [adjust] at ok
  split at ok
  · cases ok
  · rename_i row found
    split at ok
    · cases ok
    · rename_i enough
      rw [not_lt] at enough
      rw [max_eq_right enough, Except.ok.injEq] at ok
      exact ⟨row, found, enough, ok.symm⟩

theorem adjust_levelTotal (ok : inv.adjust variantId locationId delta = .ok after) :
    after.levelTotal other = inv.levelTotal other + if variantId = other then delta else 0 := by
  rcases adjust_ok ok with ⟨row, found, -, rfl⟩
  rcases levelAt_some found with ⟨present, variant, -⟩
  rw [setAvailable, levelTotal_modifyLevel present rfl, variant, add_sub_cancel_left]

theorem upsert_new_levelTotal (missing : inv.levelAt variantId locationId = none) {available : Int}
    (ok : inv.upsert rowId variantId locationId available = .ok after) :
    after.levelTotal other =
      inv.levelTotal other + if variantId = other then available else 0 := by
  rw [upsert, missing] at ok
  dsimp only at ok
  split at ok
  · cases ok
  · rename_i fresh
    rw [Except.ok.injEq] at ok
    rw [Bool.not_eq_true, Option.isSome_eq_false_iff, Option.isNone_iff_eq_none] at fresh
    rw [levelTotal_eq, levelTotal_eq, ← ok, Table.sumOf, Table.set_rows_of_absent _ fresh,
      List.map_append, List.sum_append, Table.sumOf]
    simp [countOf]

/-- A transfer line takes from one location what it gives to the other. -/
theorem moveLine_levelTotal {fromLocationId toLocationId : UUID} {rowIds : UUID → UUID}
    {line : TransferLine}
    (ok : moveLine fromLocationId toLocationId rowIds inv line = .ok after) (other : UUID) :
    after.levelTotal other = inv.levelTotal other := by
  rcases bind_eq_ok.mp ok with ⟨taken, first, second⟩
  have off : taken.levelTotal other =
      inv.levelTotal other + if line.variantId = other then -(line.quantity : Int) else 0 :=
    adjust_levelTotal first
  have onto : after.levelTotal other =
      taken.levelTotal other + if line.variantId = other then (line.quantity : Int) else 0 := by
    split at second
    · rename_i missing
      rw [Option.isNone_iff_eq_none] at missing
      exact upsert_new_levelTotal missing second
    · exact adjust_levelTotal second
  rw [onto, off]
  split <;> omega

end Inventory
end Numu.Stock
