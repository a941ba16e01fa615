import Numu.Stock.LineDelta

/-! Debiting a line and restocking the manifest entry it returned. -/

namespace Numu.Stock
open Numu.Orders (UUID Selections StockLine)

theorem firstMax_mem {ρ : Type*} (key : ρ → Int) (best : ρ) (rows : List ρ) :
    firstMax key best rows ∈ best :: rows := by
  induction rows generalizing best with
  | nil => simp [firstMax]
  | cons row rest ih =>
      rw [firstMax]
      split
      · exact List.mem_cons_of_mem _ (ih row)
      · rcases List.mem_cons.mp (ih best) with same | member
        · simp [same]
        · simp [member]

theorem levelTarget_mem {rows : List (UUID × InventoryLevel)} {delta : Int}
    {target : UUID × InventoryLevel} (picked : levelTarget rows delta = some target) :
    target ∈ rows := by
  cases rows with
  | nil => simp [levelTarget] at picked
  | cons row rest =>
      simp only [levelTarget, Option.some.injEq] at picked
      split at picked
      · rw [← picked]
        exact firstMax_mem _ row rest
      · simp [← picked]

theorem levelTarget_restock (rows : List (UUID × InventoryLevel)) {delta : Int}
    (restock : 0 ≤ delta) : levelTarget rows delta = rows.head? := by
  cases rows with
  | nil => rfl
  | cons row rest => simp [levelTarget, not_lt.mpr restock]

theorem levelTarget_isSome (rows : List (UUID × InventoryLevel)) (delta : Int) :
    levelTarget rows delta = none ↔ rows = [] := by
  cases rows <;> simp [levelTarget]

theorem get?_of_mem_scan {inv : Inventory} {scan : Scan} {variantId : UUID}
    {row : UUID × InventoryLevel} (member : row ∈ scan.levels (inv.levelsOf variantId)) :
    inv.levels.get? row.1 = some row.2 := by
  rw [(scan.levels_perm _).mem_iff] at member
  rw [Table.get?_eq_some_iff]
  exact (List.mem_filter.mp member).1

theorem levelsOf_modifyLevel (inv : Inventory) (variantId levelId : UUID) (delta : Int) :
    (inv.modifyLevel levelId (floorAtZero delta)).levelsOf variantId =
      Table.modifyRows levelId (floorAtZero delta) (inv.levelsOf variantId) :=
  Table.filter_modifyRows levelId (floorAtZero delta)
    (fun level : InventoryLevel => decide (level.variantId = variantId)) (fun _ => rfl) _

/-- The rows a restock writes are the ones the debit wrote, in full. -/
def LevelsReplay (inv debited : Inventory) (debitScan restockScan : Scan) (variantId : UUID)
    (quantity : Nat) : Prop :=
  match levelTarget (debitScan.levels (inv.levelsOf variantId)) (-(quantity : Int)) with
  | none => True
  | some target =>
      ((restockScan.levels (debited.levelsOf variantId)).head?.map Prod.fst = some target.1) ∧
        (quantity : Int) ≤ target.2.available

theorem levels_mirrorIntoLevels (inv : Inventory) (scan : Scan) (variantId : UUID)
    (delta : Int) :
    (mirrorIntoLevels inv scan variantId delta).levels =
      match levelTarget (scan.levels (inv.levelsOf variantId)) delta with
      | none => inv.levels
      | some target => inv.levels.modify target.1 (floorAtZero delta) := by
  unfold mirrorIntoLevels
  cases levelTarget (scan.levels (inv.levelsOf variantId)) delta <;> rfl

/-- One location debited and one restocked: nothing is left over exactly when
they are the same location and the floor was not reached. -/
theorem modify_floor_inverse (levels : Table UUID InventoryLevel) {taken given : UUID} {q : Nat}
    {level : InventoryLevel} (present : levels.get? taken = some level)
    {other : InventoryLevel}
    (found : (levels.modify taken (floorAtZero (-(q : Int)))).get? given = some other)
    (positive : 0 < q) :
    (levels.modify taken (floorAtZero (-q))).modify given (floorAtZero q) = levels ↔
      given = taken ∧ q ≤ level.available := by
  constructor
  · intro same
    by_cases target : given = taken
    · subst target
      refine ⟨rfl, ?_⟩
      have back := congrArg (fun table => table.get? given) same
      simp only [Table.get?_modify_self, present, Option.map_some, Option.some.injEq] at back
      have count := congrArg InventoryLevel.available back
      simp only [floorAtZero] at count
      omega
    · exfalso
      have back := congrArg (fun table => table.get? given) same
      rw [Table.get?_modify_of_ne _ _ target] at found
      simp only [Table.get?_modify_self, Table.get?_modify_of_ne _ _ target, found,
        Option.map_some, Option.some.injEq] at back
      have gained := congrArg InventoryLevel.available back
      have lost := congrArg (fun table => table.get? taken) same
      simp only [Table.get?_modify_of_ne _ _ (Ne.symm target), Table.get?_modify_self, present,
        Option.map_some, Option.some.injEq] at lost
      have short := congrArg InventoryLevel.available lost
      simp only [floorAtZero] at gained short
      omega
  · intro facts
    rcases facts with ⟨rfl, enough⟩
    rw [Table.modify_modify]
    apply Table.modify_eq_self
    intro row stored
    rw [present, Option.some.injEq] at stored
    subst stored
    cases level with
    | mk variantId locationId available =>
        simp only [Function.comp_apply, floorAtZero, InventoryLevel.mk.injEq, true_and]
        simp only at enough
        omega

theorem moveVariantRow_variants (inv : Inventory) (scan : Scan) (row : UUID × Variant)
    (delta : Int) :
    (moveVariantRow inv scan (some row) delta).variants =
      inv.variants.modify row.1 (moveVariant delta) := by
  simp only [moveVariantRow, mirrorIntoLevels]
  split <;> rfl

theorem levels_moveVariantRow (inv : Inventory) (scan : Scan) (row : UUID × Variant)
    (delta : Int) :
    (moveVariantRow inv scan (some row) delta).levels =
      match levelTarget (scan.levels (inv.levelsOf row.1)) delta with
      | none => inv.levels
      | some target => inv.levels.modify target.1 (floorAtZero delta) :=
  levels_mirrorIntoLevels _ scan row.1 delta

/-- The level rows come back exactly when the restock writes the row the debit
wrote and the debit did not reach the floor. -/
theorem levels_replay_iff (inv : Inventory) (debitScan restockScan : Scan)
    (row replayed : UUID × Variant) (sameRow : replayed.1 = row.1) (quantity : Nat)
    (ordered : 0 < quantity) (f : Product → Product) (productId : UUID) :
    let debited := moveVariantRow inv debitScan (some row) (-(quantity : Int))
    (moveVariantRow (debited.modifyProduct productId f) restockScan (some replayed)
        quantity).levels = inv.levels ↔
      LevelsReplay inv debited debitScan restockScan row.1 quantity := by
  intro debited
  rw [levels_moveVariantRow, sameRow, levelTarget_restock _ (Int.natCast_nonneg quantity)]
  have debitedLevels : debited.levels = _ :=
    levels_moveVariantRow inv debitScan row (-(quantity : Int))
  have sameLevels : (debited.modifyProduct productId f).levels = debited.levels := rfl
  have sameRows : (debited.modifyProduct productId f).levelsOf row.1 = debited.levelsOf row.1 := rfl
  rw [sameLevels, sameRows, LevelsReplay]
  cases target : levelTarget (debitScan.levels (inv.levelsOf row.1)) (-(quantity : Int)) with
  | none =>
      rw [levelTarget_isSome] at target
      have noRows : inv.levelsOf row.1 = [] := by
        have perm := debitScan.levels_perm (inv.levelsOf row.1)
        rw [target] at perm
        exact perm.symm.eq_nil
      have unchanged : debited.levels = inv.levels := by
        rw [debitedLevels, noRows]
        have perm := debitScan.levels_perm []
        simp [perm.eq_nil, levelTarget]
      have stillNone : debited.levelsOf row.1 = [] := by
        rw [Inventory.levelsOf, unchanged]
        exact noRows
      have perm := restockScan.levels_perm (debited.levelsOf row.1)
      rw [stillNone] at perm ⊢
      simp [perm.eq_nil, unchanged]
  | some taken =>
      rw [target] at debitedLevels
      simp only at debitedLevels
      have member := levelTarget_mem target
      have present := get?_of_mem_scan member
      have rowsAfter : debited.levelsOf row.1 =
          Table.modifyRows taken.1 (floorAtZero (-(quantity : Int))) (inv.levelsOf row.1) := by
        rw [Inventory.levelsOf, debitedLevels]
        exact levelsOf_modifyLevel inv row.1 taken.1 (-(quantity : Int))
      cases first : (restockScan.levels (debited.levelsOf row.1)).head? with
      | none =>
          exfalso
          rw [List.head?_eq_none_iff] at first
          have perm := restockScan.levels_perm (debited.levelsOf row.1)
          rw [first, rowsAfter] at perm
          have empty : inv.levelsOf row.1 = [] := by
            simpa [Table.modifyRows] using perm.symm.eq_nil
          rw [empty] at member
          have none_ := (debitScan.levels_perm []).eq_nil
          simp [none_] at member
      | some given =>
          have found := get?_of_mem_scan (List.mem_of_mem_head? first)
          rw [debitedLevels] at found
          simp only [debitedLevels, Option.map_some, Option.some.injEq]
          exact modify_floor_inverse inv.levels present found ordered

structure ComboCount where
  options : Option Selections
  enabled : JsonScalar
  stock : Int
  deriving DecidableEq

/-- What the readers of a combination see of it: its stock through `_combo_stock`. -/
def comboCount : ComboEntry → Option ComboCount
  | .combo combo => some ⟨combo.options, combo.enabled, comboStock combo⟩
  | .other => none

structure ProductCount where
  tenantId : UUID
  quantity : Int
  combos : Option (List (Option ComboCount))
  deriving DecidableEq

def productCount (product : Product) : ProductCount :=
  ⟨product.tenantId, product.quantity,
    (product.attributes.getD {}).variantCombinations.map (List.map comboCount)⟩

def productCounts (inv : Inventory) : List (UUID × ProductCount) :=
  inv.products.rows.map fun row => (row.1, productCount row.2)

def withStock (stock : Int) (combo : Combo) : Combo :=
  { combo with stock := .text (IntegerText.writeInt stock) }

@[simp] theorem comboStock_withStock (stock : Int) (combo : Combo) :
    comboStock (withStock stock combo) = stock := by
  simp [comboStock, withStock, IntegerText.readInt_writeInt]

section
variable [TextCase]

@[simp] theorem matchesCombo_withStock (selections : Option Selections) (stock : Int)
    (combo : Combo) :
    matchesCombo selections (.combo (withStock stock combo)) =
      matchesCombo selections (.combo combo) := rfl

theorem findCombo_none (attrs : Attributes) {selections : Option Selections}
    (absent : findCombo attrs selections = none) :
    findCombo attrs (orNone selections) = none := by
  cases picked : chosen selections with
  | true => simpa [orNone, picked] using absent
  | false => cases combos : attrs.variantCombinations <;> simp [findCombo, combos, picked]

theorem findCombo_some {attrs : Attributes} {selections : Option Selections} {combo : Combo}
    (found : findCombo attrs selections = some combo) :
    chosen selections = true ∧ ∃ combos, attrs.variantCombinations = some combos ∧
      combos.find? (matchesCombo selections) = some (.combo combo) := by
  unfold findCombo at found
  cases listed : attrs.variantCombinations with
  | none => simp [listed] at found
  | some combos =>
      simp only [listed] at found
      split at found
      · rename_i picked
        refine ⟨picked, combos, rfl, ?_⟩
        rw [Option.bind_eq_some_iff] at found
        obtain ⟨hit, first, found⟩ := found
        cases hit with
        | combo c =>
            rw [Option.some.injEq] at found
            rw [first, found]
        | other => simp at found
      · simp at found

theorem find?_writeComboStock {selections : Option Selections} {combo : Combo}
    {combos : List ComboEntry}
    (first : combos.find? (matchesCombo selections) = some (.combo combo)) (stock : Int) :
    (writeComboStock selections stock combos).find? (matchesCombo selections) =
      some (.combo (withStock stock combo)) := by
  induction combos with
  | nil => simp at first
  | cons head rest ih =>
      cases head with
      | other =>
          rw [List.find?_cons_of_neg (by simp [matchesCombo])] at first
          rw [writeComboStock, List.find?_cons_of_neg (by simp [matchesCombo])]
          exact ih first
      | combo c =>
          by_cases hit : matchesCombo selections (.combo c) = true
          · rw [List.find?_cons_of_pos hit, Option.some.injEq, ComboEntry.combo.injEq] at first
            subst first
            rw [writeComboStock, if_pos hit]
            exact List.find?_cons_of_pos hit
          · rw [List.find?_cons_of_neg hit] at first
            rw [writeComboStock, if_neg hit, List.find?_cons_of_neg hit]
            exact ih first

theorem writeComboStock_twice (selections : Option Selections) (first second : Int)
    (combos : List ComboEntry) :
    writeComboStock selections second (writeComboStock selections first combos) =
      writeComboStock selections second combos := by
  induction combos with
  | nil => rfl
  | cons head rest ih =>
      cases head with
      | other => simp [writeComboStock, ih]
      | combo c =>
          by_cases hit : matchesCombo selections (.combo c) = true
          · have again : matchesCombo selections
                (.combo { c with stock := .text (IntegerText.writeInt first) }) = true := hit
            simp [writeComboStock, hit, again]
          · simp [writeComboStock, hit, ih]

theorem comboCount_writeComboStock {selections : Option Selections} {combo : Combo}
    {combos : List ComboEntry}
    (first : combos.find? (matchesCombo selections) = some (.combo combo)) :
    (writeComboStock selections (comboStock combo) combos).map comboCount =
      combos.map comboCount := by
  induction combos with
  | nil => rfl
  | cons head rest ih =>
      cases head with
      | other =>
          rw [List.find?_cons_of_neg (by simp [matchesCombo])] at first
          simp [writeComboStock, ih first]
      | combo c =>
          by_cases hit : matchesCombo selections (.combo c) = true
          · rw [List.find?_cons_of_pos hit, Option.some.injEq, ComboEntry.combo.injEq] at first
            subst first
            rw [writeComboStock, if_pos hit, List.map_cons, List.map_cons]
            have same : comboCount (.combo (withStock (comboStock c) c)) = comboCount (.combo c) := by
              simp only [comboCount, comboStock_withStock]
              rfl
            exact congrArg (· :: rest.map comboCount) same
          · rw [List.find?_cons_of_neg hit] at first
            simp [writeComboStock, hit, ih first]

/-- Moving a product's counts down and up again, each time through the combination
found in the attributes as they then stand, leaves every count as it was. -/
theorem productCount_moveProduct_inverse (product : Product) (selections : Option Selections)
    (delta : Int) :
    let debited := moveProduct (findCombo (product.attributes.getD {}) selections) selections
      (-delta) product
    let replayed := orNone selections
    productCount (moveProduct (findCombo (debited.attributes.getD {}) replayed) replayed delta
      debited) = productCount product := by
  cases found : findCombo (product.attributes.getD {}) selections with
  | none =>
      have absent := findCombo_none _ found
      simp only [moveProduct, absent, productCount]
      simp
  | some combo =>
      obtain ⟨picked, combos, listed, first⟩ := findCombo_some found
      have again := find?_writeComboStock first (comboStock combo + -delta)
      have refound : findCombo ⟨some (writeComboStock selections (comboStock combo + -delta)
          combos)⟩ selections = some (withStock (comboStock combo + -delta) combo) := by
        simp [findCombo, picked, again]
      have back := comboCount_writeComboStock first
      simp only [moveProduct, orNone_of_chosen picked, listed, Option.map_some, Option.getD_some,
        refound, productCount, comboStock_withStock, writeComboStock_twice,
        neg_add_cancel_right, back]

/-- The variant a debit moved is the one its manifest entry resolves to. -/
theorem resolveVariantRow_replay (inv : Inventory) (scan restockScan : Scan) (productId : UUID)
    (variantId : Option UUID) (selections : Option Selections) (delta : Int)
    (f : Product → Product) :
    let row := resolveVariantRow inv scan productId variantId selections
    let debited := moveVariantRow (inv.modifyProduct productId f) scan row delta
    resolveVariantRow debited restockScan productId (row.map Prod.fst)
        (orNone selections) =
      row.map fun row => (row.1, moveVariant delta row.2) := by
  cases resolved : resolveVariantRow inv scan productId variantId selections with
  | none => exact resolveVariantRow_none rfl resolved restockScan
  | some row =>
      obtain ⟨id, variant⟩ := row
      obtain ⟨present, mine⟩ := resolveVariantRow_mem resolved
      have moved : (moveVariantRow (inv.modifyProduct productId f) scan (some (id, variant))
          delta).variants.get? id = some (moveVariant delta variant) := by
        rw [moveVariantRow_variants]
        simp only [Table.get?_modify_self, Inventory.modifyProduct]
        simp only at present
        rw [present]
        rfl
      have explicit := resolveVariantRow_explicit moved restockScan
        (orNone selections)
      have same : (moveVariant delta variant).productId = productId := mine
      rw [same] at explicit
      simpa using explicit

/-- Restocking the entry a debit returned puts every product count, every
combination's stock and every variant's count back, and the level rows exactly
when `LevelsReplay` holds of the two scans. -/
theorem restock_debitOrderLine {inv debited : Inventory} {debitScan : Scan}
    {tenantId : Option UUID} {productId : UUID} {variantId : Option UUID}
    {selections : Option Selections} {quantity : Nat} {allowNegative : Bool} {entry : StockLine}
    (debit : debitOrderLine inv debitScan tenantId productId variantId selections quantity
      allowNegative = .ok (debited, entry))
    (ordered : 0 < quantity) (replies : Nat → Reply) (answered : (replies 0).raises = false) :
    let restocked := restockLines tenantId debited replies [entry]
    restocked.raised = false ∧ restocked.putBack = [entry] ∧
      productCounts restocked.inventory = productCounts inv ∧
      restocked.inventory.variants = inv.variants ∧
      (restocked.inventory.levels = inv.levels ↔
        ∀ id, entry.variantId = some id →
          LevelsReplay inv debited debitScan (replies 0).scan id quantity) := by
  obtain ⟨product, found, moved, rfl⟩ := applyLineDelta_ok debit
  set row := resolveVariantRow inv debitScan productId variantId selections with hrow
  set f := moveProduct (findCombo (product.attributes.getD {}) selections) selections
    (-(quantity : Int)) with hf
  have stored : inv.products.get? productId = some product :=
    (Option.filter_eq_some_iff.mp found).1
  have tenant : some product.tenantId = tenantId := by
    simpa using (Option.filter_eq_some_iff.mp found).2
  have products : debited.products = inv.products.modify productId f := by
    rw [moved, moveVariantRow_products]
    rfl
  have sameTenant : (f product).tenantId = product.tenantId := by
    rw [hf]
    unfold moveProduct
    split <;> rfl
  have foundAgain : debited.product? tenantId productId = some (f product) := by
    rw [Inventory.product?, products, Table.get?_modify_self, stored, Option.map_some,
      Option.filter_eq_some_iff]
    exact ⟨rfl, by simpa [sameTenant] using tenant⟩
  have resolved := resolveVariantRow_replay inv debitScan (replies 0).scan productId variantId
    selections (-(quantity : Int)) f
  simp only [← hrow, ← moved] at resolved
  rw [restockLines_cons_found (by simpa using ordered) answered foundAgain]
  simp only [Int.natAbs_neg, Int.natAbs_natCast, resolved, restockLines]
  refine ⟨trivial, ?_, ?_, ?_, ?_⟩
  · cases row <;> simp
  · rw [productCounts, moveVariantRow_products]
    simp only [Inventory.modifyProduct, products, Table.modify_modify]
    apply Table.map_modify
    intro again present
    rw [stored, Option.some.injEq] at present
    subst present
    exact congrArg (Prod.mk productId) (productCount_moveProduct_inverse product selections quantity)
  · cases variantRow : row with
    | none => simp [moveVariantRow, moved, variantRow, Inventory.modifyProduct]
    | some variant =>
        have debitedVariants : debited.variants =
            inv.variants.modify variant.1 (moveVariant (-(quantity : Int))) := by
          rw [moved, variantRow, moveVariantRow_variants]
          rfl
        rw [Option.map_some, moveVariantRow_variants, Inventory.modifyProduct, debitedVariants,
          Table.modify_modify]
        apply Table.modify_eq_self
        intro stored _
        simp [moveVariant]
  · cases variantRow : row with
    | none => simp [moveVariantRow, moved, variantRow, Inventory.modifyProduct]
    | some variant =>
        rw [variantRow] at moved
        have replay := levels_replay_iff (inv.modifyProduct productId f) debitScan (replies 0).scan
          variant (variant.1, moveVariant (-(quantity : Int)) variant.2) rfl quantity ordered
          (moveProduct (findCombo ((f product).attributes.getD {}) (orNone selections))
            (orNone selections) quantity) productId
        simp only [← moved] at replay
        simp only [Option.map_some, Option.some.injEq, forall_eq']
        exact replay

/-- A variant kept at two locations, three pieces at the first and five at the second. -/
def twoLocations : Inventory where
  products := ⟨[(1, ⟨7, 8, none⟩)], by decide⟩
  variants := ⟨[(2, ⟨1, [], 8⟩)], by decide⟩
  levels := ⟨[(10, ⟨2, 20, 3⟩), (11, ⟨2, 21, 5⟩)], by decide⟩

def answering (scan : Scan) : Nat → Reply := fun _ => ⟨scan, false⟩

end

theorem restock_debitOrderLine_two_locations :
    letI := TextCase.ascii
    ∃ debited entry,
      debitOrderLine twoLocations .stored (some 7) 1 (some 2) none 2 = .ok (debited, entry) ∧
      let restocked := (restockLines (some 7) debited (answering .newestFirst) [entry]).inventory
      productCounts restocked = productCounts twoLocations ∧
        restocked.variants = twoLocations.variants ∧ restocked.levels = twoLocations.levels := by
  let _ := TextCase.ascii
  refine ⟨_, _, rfl, ?_⟩
  have debit : debitOrderLine twoLocations .stored (some 7) 1 (some 2) none 2 = .ok (_, _) := rfl
  have back := restock_debitOrderLine debit (by decide) (answering .newestFirst) rfl
  refine ⟨back.2.2.1, back.2.2.2.1, back.2.2.2.2.mpr ?_⟩
  intro id named
  have same : id = 2 := by
    have : some (2 : UUID) = some id := named
    simpa using this.symm
  subst same
  exact ⟨rfl, by decide⟩

/-- The debit takes from the fuller second location, the restock gives to the first. -/
theorem restock_other_location :
    letI := TextCase.ascii
    ∃ debited entry,
      debitOrderLine twoLocations .stored (some 7) 1 (some 2) none 2 = .ok (debited, entry) ∧
      (restockLines (some 7) debited (answering .stored) [entry]).inventory.levels ≠
        twoLocations.levels := by
  let _ := TextCase.ascii
  exact ⟨_, _, rfl, by decide⟩

end Numu.Stock
