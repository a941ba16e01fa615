import Numu.Foundation.Run
import Numu.Stock.Inverse
import Numu.Stock.Transfers

/-! Whether a variant's own count stays the sum of its locations. -/

namespace Numu.Stock
open Numu.Orders (UUID Time Selections StockLine)
open Numu.Outcome (bind_eq_ok orKeep)

/-- One order line on its way in or out, and how the database answers it. -/
structure LineMove where
  scan : Scan
  tenantId : Option UUID
  productId : UUID
  variantId : Option UUID
  selections : Option Selections
  quantity : Nat

inductive LevelLabel where
  | debit (line : LineMove) (allowNegative : Bool)
  | restock (line : LineMove)
  | setLevel (rowId storeId variantId locationId : UUID) (available : Int)
  /-- A transfer is received. -/
  | receive (transfer : InventoryTransfer) (rowIds : UUID → UUID)

namespace Inventory
variable {inv after : Inventory} {rowId variantId locationId levelId other : UUID} {delta : Int}

/-- A variant that has level rows. -/
def Stocked (inv : Inventory) (variantId : UUID) : Prop := inv.levelsOf variantId ≠ []

instance (inv : Inventory) (variantId : UUID) : Decidable (inv.Stocked variantId) :=
  inferInstanceAs (Decidable (_ ≠ _))

/-- A variant with level rows counts what they hold together. -/
def Mirrored (variantId : UUID) (inv : Inventory) : Prop :=
  ∀ variant, inv.variants.get? variantId = some variant → inv.Stocked variantId →
    variant.inventoryQuantity = inv.levelTotal variantId

theorem stocked_iff : inv.Stocked variantId ↔
    ∃ row ∈ inv.levels.rows, row.2.variantId = variantId := by
  rw [Stocked, levelsOf, ne_eq, List.filter_eq_nil_iff]
  simp

theorem stocked_modifyLevel (f : InventoryLevel → InventoryLevel)
    (keeps : ∀ level, (f level).variantId = level.variantId) :
    (inv.modifyLevel levelId f).Stocked variantId ↔ inv.Stocked variantId := by
  have rows : (inv.modifyLevel levelId f).levelsOf variantId =
      Table.modifyRows levelId f (inv.levelsOf variantId) :=
    Table.filter_modifyRows levelId f (fun level : InventoryLevel => level.variantId = variantId)
      (fun level => by rw [keeps]) _
  rw [Stocked, Stocked, rows, Table.modifyRows, ne_eq, List.map_eq_nil_iff]

theorem stocked_of_levelAt {row : UUID × InventoryLevel}
    (found : inv.levelAt variantId locationId = some row) : inv.Stocked variantId := by
  rcases levelAt_some found with ⟨present, mine, -⟩
  exact stocked_iff.mpr ⟨row, (Table.get?_eq_some_iff _ _ _).mp present, mine⟩

theorem adjust_stocked (ok : inv.adjust variantId locationId delta = .ok after) (other : UUID) :
    inv.Stocked variantId ∧ after.variants = inv.variants ∧
      (after.Stocked other ↔ inv.Stocked other) := by
  rcases adjust_ok ok with ⟨row, found, -, rfl⟩
  exact ⟨stocked_of_levelAt found, rfl, stocked_modifyLevel _ fun _ => rfl⟩

/-- An upsert touches no variant, and the levels of its own variant alone. -/
theorem upsert_other {available : Int}
    (ok : inv.upsert rowId variantId locationId available = .ok after) (other : UUID) :
    after.variants = inv.variants ∧ (variantId ≠ other →
      after.levelTotal other = inv.levelTotal other ∧ (after.Stocked other ↔ inv.Stocked other)) := by
  rcases here : inv.levelAt variantId locationId with _ | row
  · have total : after.levelTotal other =
        inv.levelTotal other + if variantId = other then available else 0 :=
      upsert_new_levelTotal here ok
    rw [upsert, here] at ok
    dsimp only at ok
    split at ok
    · cases ok
    · rename_i fresh
      rw [Bool.not_eq_true, Option.isSome_eq_false_iff, Option.isNone_iff_eq_none] at fresh
      rw [Except.ok.injEq] at ok
      subst ok
      refine ⟨rfl, fun different => ?_⟩
      rw [total, if_neg different, add_zero, stocked_iff, stocked_iff]
      simp only [Table.set_rows_of_absent _ fresh, List.mem_append, List.mem_singleton]
      refine ⟨trivial, ?_, ?_⟩
      · rintro ⟨row, old | rfl, mine⟩
        · exact ⟨row, old, mine⟩
        · exact absurd mine different
      · rintro ⟨row, old, mine⟩
        exact ⟨row, .inl old, mine⟩
  · rw [upsert, here, Except.ok.injEq] at ok
    subst ok
    rcases levelAt_some here with ⟨present, mine, -⟩
    refine ⟨rfl, fun different => ⟨?_, stocked_modifyLevel _ fun _ => rfl⟩⟩
    rw [setAvailable, levelTotal_modifyLevel present rfl, mine, if_neg different, add_zero]

theorem moveLine_stocked {fromLocationId toLocationId : UUID} {rowIds : UUID → UUID}
    {line : TransferLine}
    (ok : moveLine fromLocationId toLocationId rowIds inv line = .ok after) (other : UUID) :
    after.variants = inv.variants ∧ (after.Stocked other → inv.Stocked other) := by
  rcases bind_eq_ok.mp ok with ⟨taken, first, second⟩
  rcases adjust_stocked first other with ⟨stocked, kept, same⟩
  split at second
  · rcases upsert_other second other with ⟨variants, others⟩
    refine ⟨variants.trans kept, fun later => ?_⟩
    by_cases mine : line.variantId = other
    · exact mine ▸ stocked
    · exact same.mp ((others mine).2.mp later)
  · rcases adjust_stocked second other with ⟨-, variants, same'⟩
    exact ⟨variants.trans kept, fun later => same.mp (same'.mp later)⟩

theorem mirrorIntoLevels_none (inv : Inventory) {scan : Scan}
    (nothing : levelTarget (scan.levels (inv.levelsOf variantId)) delta = none) :
    mirrorIntoLevels inv scan variantId delta = inv ∧ ¬ inv.Stocked variantId := by
  rw [mirrorIntoLevels, nothing]
  refine ⟨rfl, not_not.mpr ?_⟩
  have empty := (levelTarget_isSome _ _).mp nothing
  rw [← List.perm_nil, ← empty]
  exact (scan.levels_perm _).symm

/-- The location that is picked changes by the delta, or down to zero. -/
theorem mirrorIntoLevels_some (inv : Inventory) (other : UUID) {scan : Scan} {target : UUID × InventoryLevel}
    (picked : levelTarget (scan.levels (inv.levelsOf variantId)) delta = some target) :
    (mirrorIntoLevels inv scan variantId delta).levelTotal other = inv.levelTotal other +
        (if variantId = other then max 0 (target.2.available + delta) - target.2.available else 0) ∧
      ((mirrorIntoLevels inv scan variantId delta).Stocked other ↔ inv.Stocked other) := by
  have member := levelTarget_mem picked
  have present := get?_of_mem_scan member
  rw [(scan.levels_perm _).mem_iff] at member
  have mine : target.2.variantId = variantId := by simpa using (List.mem_filter.mp member).2
  rw [mirrorIntoLevels, picked]
  refine ⟨?_, stocked_modifyLevel _ fun _ => rfl⟩
  rw [levelTotal_modifyLevel present rfl, mine]
  rfl

theorem variants_mirrorIntoLevels (inv : Inventory) (scan : Scan) (variantId : UUID)
    (delta : Int) : (mirrorIntoLevels inv scan variantId delta).variants = inv.variants := by
  rw [mirrorIntoLevels]
  split <;> rfl

theorem variant_modifyVariant {variant : Variant} {f : Variant → Variant}
    (present : inv.variants.get? variantId = some variant) :
    (inv.modifyVariant variantId f).variants.get? variantId = some (f variant) := by
  rw [modifyVariant, Table.get?_modify_self, present, Option.map_some]

/-- Moving a variant with a mirror of the move in its levels keeps the equality exactly if the
level that is picked takes all of it. -/
theorem mirrored_move_iff (inv : Inventory) {row : UUID × Variant} (present : inv.variants.get? row.1 = some row.2)
    (mirrored : inv.Mirrored variantId) (scan : Scan) (delta : Int) :
    (mirrorIntoLevels (inv.modifyVariant row.1 (moveVariant delta)) scan row.1 delta).Mirrored
        variantId ↔
      (row.1 = variantId → ∀ target ∈ levelTarget (scan.levels (inv.levelsOf variantId)) delta,
        0 ≤ target.2.available + delta) := by
  rcases picked : levelTarget (scan.levels (inv.levelsOf row.1)) delta with _ | target
  · rcases mirrorIntoLevels_none (inv.modifyVariant row.1 (moveVariant delta)) picked with
      ⟨same, unstocked⟩
    rw [same]
    refine iff_of_true ?_ ?_
    · intro variant found stocked
      by_cases mine : row.1 = variantId
      · exact absurd (mine ▸ stocked) unstocked
      · rw [modifyVariant, Table.get?_modify_of_ne _ _ (Ne.symm mine)] at found
        exact mirrored variant found stocked
    · rintro rfl target member
      rw [picked] at member
      cases member
  · have levels := mirrorIntoLevels_some (inv.modifyVariant row.1 (moveVariant delta)) variantId picked
    by_cases mine : row.1 = variantId
    · subst mine
      have after := variant_modifyVariant (f := moveVariant delta) present
      have stocked : inv.Stocked row.1 := by
        by_contra nothing
        have empty : scan.levels (inv.levelsOf row.1) = [] := by
          rw [← List.perm_nil, ← not_not.mp nothing]
          exact scan.levels_perm _
        rw [empty] at picked
        cases picked
      have before := mirrored row.2 present stocked
      have total : (inv.modifyVariant row.1 (moveVariant delta)).levelTotal row.1 =
        inv.levelTotal row.1 := rfl
      rw [if_pos rfl, total] at levels
      have counts : (moveVariant delta row.2).inventoryQuantity =
        row.2.inventoryQuantity + delta := rfl
      constructor
      · intro kept _ target' member
        rw [picked, Option.mem_def, Option.some.injEq] at member
        rw [← member]
        have equal := kept (moveVariant delta row.2)
          (by rw [variants_mirrorIntoLevels]; exact after) (levels.2.mpr stocked)
        rw [levels.1, counts] at equal
        by_contra short
        rw [not_le] at short
        rw [max_eq_left (le_of_lt short)] at equal
        omega
      · intro takes variant found _
        rw [variants_mirrorIntoLevels, after, Option.some.injEq] at found
        rw [← found, counts, levels.1, max_eq_right (takes rfl target picked)]
        omega
    · refine iff_of_true ?_ fun same => absurd same mine
      intro variant found stocked
      rw [variants_mirrorIntoLevels, modifyVariant, Table.get?_modify_of_ne _ _ (Ne.symm mine)]
        at found
      rw [levels.1, if_neg mine, add_zero]
      exact mirrored variant found (levels.2.mp stocked)

end Inventory

namespace Warehouse
variable [TextCase]

def move (warehouse : Warehouse) (line : LineMove) (delta : Int) (allowNegative : Bool) :
    Except FailureReason (Inventory × StockLine) :=
  applyLineDelta warehouse.inventory line.scan line.tenantId line.productId line.variantId
    line.selections delta allowNegative

/-- What an order line makes of the stock; a refused one leaves it. -/
def moved (warehouse : Warehouse) (line : LineMove) (delta : Int) (allowNegative : Bool) :
    Warehouse :=
  match warehouse.move line delta allowNegative with
  | .ok (inventory, _) => { warehouse with inventory := inventory }
  | .error _ => warehouse

def step (warehouse : Warehouse) : LevelLabel → Warehouse
  | .debit line allowNegative => warehouse.moved line (-(line.quantity : Int)) allowNegative
  | .restock line => warehouse.moved line line.quantity true
  | .setLevel rowId storeId variantId locationId available =>
      orKeep warehouse (warehouse.setLevel rowId storeId variantId locationId available)
  | .receive transfer rowIds => orKeep warehouse (transfer.moveStock warehouse rowIds)

/-- When the line moves the variant, the location it is mirrored into can take all of it. -/
def TakesAll (warehouse : Warehouse) (variantId : UUID) (line : LineMove) (delta : Int)
    (allowNegative : Bool) : Prop :=
  ∀ after entry, warehouse.move line delta allowNegative = .ok (after, entry) →
    entry.variantId = some variantId →
      ∀ target ∈ levelTarget (line.scan.levels (warehouse.inventory.levelsOf variantId)) delta,
        0 ≤ target.2.available + delta

def Fits (variantId : UUID) (warehouse : Warehouse) : LevelLabel → Prop
  | .debit line allowNegative =>
      warehouse.TakesAll variantId line (-(line.quantity : Int)) allowNegative
  | .restock line => warehouse.TakesAll variantId line line.quantity true
  | _ => True

section Step
variable {warehouse : Warehouse} {variantId : UUID}

/-- An order line keeps the equality exactly if the level that it is mirrored into takes it. -/
theorem mirrored_moved_iff (mirrored : warehouse.inventory.Mirrored variantId) (line : LineMove)
    (delta : Int) (allowNegative : Bool) :
    (warehouse.moved line delta allowNegative).inventory.Mirrored variantId ↔
      warehouse.TakesAll variantId line delta allowNegative := by
  rcases went : warehouse.move line delta allowNegative with reason | ⟨after, entry⟩
  · rw [moved, went]
    refine iff_of_true mirrored fun after entry ok => ?_
    rw [went] at ok
    cases ok
  have takesAll : warehouse.TakesAll variantId line delta allowNegative ↔
      (entry.variantId = some variantId →
        ∀ target ∈ levelTarget (line.scan.levels (warehouse.inventory.levelsOf variantId)) delta,
          0 ≤ target.2.available + delta) := by
    rw [TakesAll]
    constructor
    · exact fun all => all after entry went
    · intro all after' entry' ok
      rw [went, Except.ok.injEq, Prod.mk.injEq] at ok
      exact ok.2 ▸ all
  rw [takesAll, moved, went]
  rcases applyLineDelta_ok went with ⟨product, -, rfl, rfl⟩
  rcases resolved : resolveVariantRow warehouse.inventory line.scan line.productId line.variantId
    line.selections with _ | row
  · exact iff_of_true mirrored fun same => by cases same
  · have moves := Inventory.mirrored_move_iff
      (warehouse.inventory.modifyProduct line.productId
        (moveProduct (findCombo (product.attributes.getD {}) line.selections) line.selections delta))
      (resolveVariantRow_mem resolved).1 mirrored line.scan delta
    rw [Option.map_some, Option.some.injEq]
    exact moves

omit [TextCase] in
theorem mirrored_setLevel (mirrored : warehouse.inventory.Mirrored variantId) {after : Warehouse}
    {rowId storeId edited locationId : UUID} {available : Int}
    (ok : warehouse.setLevel rowId storeId edited locationId available = .ok after) :
    after.inventory.Mirrored variantId := by
  rcases bind_eq_ok.mp ok with ⟨_, -, rest⟩
  rcases bind_eq_ok.mp rest with ⟨_, -, rest⟩
  rcases bind_eq_ok.mp rest with ⟨written, upserted, returned⟩
  rcases Except.ok.inj returned with ⟨⟩
  rcases Inventory.upsert_other upserted variantId with ⟨variants, others⟩
  intro variant found stocked
  by_cases mine : edited = variantId
  · subst mine
    rw [Inventory.rollup, Inventory.modifyVariant, Table.get?_modify_self] at found
    rcases Option.map_eq_some_iff.mp found with ⟨row, -, rolled⟩
    rw [← rolled]
    rfl
  · rw [Inventory.rollup, Inventory.modifyVariant, Table.get?_modify_of_ne _ _ (Ne.symm mine),
      variants] at found
    rcases others mine with ⟨total, same⟩
    exact (mirrored variant found (same.mp stocked)).trans total.symm

omit [TextCase] in
theorem mirrored_receive (mirrored : warehouse.inventory.Mirrored variantId) {after : Warehouse}
    {transfer : InventoryTransfer} {rowIds : UUID → UUID}
    (ok : transfer.moveStock warehouse rowIds = .ok after) : after.inventory.Mirrored variantId := by
  rcases bind_eq_ok.mp ok with ⟨_, -, rest⟩
  rcases bind_eq_ok.mp rest with ⟨_, -, rest⟩
  rcases bind_eq_ok.mp rest with ⟨moved, folded, returned⟩
  rcases Except.ok.inj returned with ⟨⟩
  exact Outcome.foldlM_ok (P := fun inv => inv.Mirrored variantId)
    (fun inv line after mirrored ok => by
      rcases Inventory.moveLine_stocked ok variantId with ⟨variants, stocked⟩
      intro variant found stocks
      rw [variants] at found
      rw [Inventory.moveLine_levelTotal ok]
      exact mirrored variant found (stocked stocks))
    folded mirrored

theorem mirrored_step_iff (mirrored : warehouse.inventory.Mirrored variantId) (label : LevelLabel) :
    (warehouse.step label).inventory.Mirrored variantId ↔ warehouse.Fits variantId label := by
  cases label with
  | debit line allowNegative => exact mirrored_moved_iff mirrored line _ allowNegative
  | restock line => exact mirrored_moved_iff mirrored line _ true
  | setLevel rowId storeId edited locationId available =>
      refine iff_of_true ?_ trivial
      exact Outcome.orKeep_keeps (P := fun after : Warehouse => after.inventory.Mirrored variantId) mirrored
        fun _ ok => mirrored_setLevel mirrored ok
  | receive transfer rowIds =>
      refine iff_of_true ?_ trivial
      exact Outcome.orKeep_keeps (P := fun after : Warehouse => after.inventory.Mirrored variantId) mirrored
        fun _ ok => mirrored_receive mirrored ok

/-- Along a run a variant's count stays what its locations hold exactly if every order line that
moves the variant fits into the one location it is mirrored into. -/
theorem count_mirrors_levels_iff (variantId : UUID)
    (mirrored : warehouse.inventory.Mirrored variantId) (labels : List LevelLabel) :
    Run.Always step (fun after => after.inventory.Mirrored variantId) warehouse labels ↔
      Run.Guarded step (Fits variantId) warehouse labels :=
  Run.always_iff_guarded (I := fun after : Warehouse => after.inventory.Mirrored variantId)
    (fun _ label mirrored fits => (mirrored_step_iff mirrored label).mpr fits)
    (fun _ mirrored => mirrored)
    (fun _ label mirrored kept => (mirrored_step_iff mirrored label).mp kept) mirrored labels

end Step
end Warehouse

namespace Warehouse

/-- Ten pieces of the variant 1, six at one location and four at another. -/
def tenPieces : Warehouse where
  inventory :=
    { products := Table.ofList [(41, { tenantId := 7, quantity := 10, attributes := none })]
      variants := Table.ofList [(1, { productId := 41, optionValues := [], inventoryQuantity := 10 })]
      levels := Table.ofList
        [(21, { variantId := 1, locationId := 11, available := 6 }),
          (22, { variantId := 1, locationId := 12, available := 4 })] }
  variantStores := Table.ofList [(1, 3)]
  locationStores := Table.ofList [(11, 3), (12, 3)]

def pieces (quantity : Nat) : LineMove where
  scan := .stored
  tenantId := some 7
  productId := 41
  variantId := some 1
  selections := none
  quantity := quantity

theorem tenPieces_mirrored : tenPieces.inventory.Mirrored 1 := by
  intro variant found _
  cases found
  decide +kernel

theorem small_orders_mirrored :
    letI := TextCase.ascii
    Run.Always step (fun after => after.inventory.Mirrored 1) tenPieces
      [.debit (pieces 5) false, .receive TransferRun.twoPieces (fun _ => 23), .setLevel 23 3 1 12 3,
        .restock (pieces 1)] := by
  apply (@count_mirrors_levels_iff TextCase.ascii _ 1 tenPieces_mirrored _).mpr
  refine ⟨fun _ _ _ _ => ?_, trivial, trivial, fun _ _ _ _ => ?_, trivial⟩
  · decide +kernel
  · decide +kernel

/-- Eight of the ten pieces are sold: the six of the first location go, and the other two with
none. -/
theorem order_beyond_one_location :
    letI := TextCase.ascii
    ¬ Run.Always step (fun after => after.inventory.Mirrored 1) tenPieces
      [.debit (pieces 8) false] := by
  let _ := TextCase.ascii
  intro always
  have counts := always.last { productId := 41, optionValues := [], inventoryQuantity := 2 }
    (by decide +kernel)
  revert counts
  decide +kernel

end Warehouse
end Numu.Stock
