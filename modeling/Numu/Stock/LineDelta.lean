import Numu.Stock.StockService

/-! What one stock write does, and which variant row a line resolves to. -/

namespace Numu.Stock
open Numu.Orders (UUID Selections StockLine)

section
variable [TextCase]

theorem applyLineDelta_ok {inv after : Inventory} {scan : Scan} {tenantId : Option UUID}
    {productId : UUID} {variantId : Option UUID} {selections : Option Selections} {delta : Int}
    {allowNegative : Bool} {entry : StockLine}
    (ok : applyLineDelta inv scan tenantId productId variantId selections delta allowNegative =
      .ok (after, entry)) :
    ∃ product, inv.product? tenantId productId = some product ∧
      after = moveVariantRow (inv.modifyProduct productId
        (moveProduct (findCombo (product.attributes.getD {}) selections) selections delta)) scan
        (resolveVariantRow inv scan productId variantId selections) delta ∧
      entry = ⟨productId, (resolveVariantRow inv scan productId variantId selections).map Prod.fst,
        orNone selections, delta.natAbs⟩ := by
  unfold applyLineDelta at ok
  cases found : inv.product? tenantId productId with
  | none => simp [found] at ok
  | some product =>
      simp only [found] at ok
      refine ⟨product, rfl, ?_⟩
      split at ok
      · simp at ok
      · simp only [Except.ok.injEq, Prod.mk.injEq] at ok
        exact ⟨ok.1.symm, ok.2.symm⟩

theorem applyLineDelta_restock {inv : Inventory} {tenantId : Option UUID} {productId : UUID}
    {product : Product} (found : inv.product? tenantId productId = some product) (scan : Scan)
    (variantId : Option UUID) (selections : Option Selections) {delta : Int} (restock : 0 ≤ delta)
    (allowNegative : Bool) :
    applyLineDelta inv scan tenantId productId variantId selections delta allowNegative =
      .ok (moveVariantRow (inv.modifyProduct productId
          (moveProduct (findCombo (product.attributes.getD {}) selections) selections delta)) scan
          (resolveVariantRow inv scan productId variantId selections) delta,
        ⟨productId, (resolveVariantRow inv scan productId variantId selections).map Prod.fst,
          orNone selections, delta.natAbs⟩) := by
  simp [applyLineDelta, found, debitRefusal, not_lt.mpr restock]

omit [TextCase] in
theorem moveVariantRow_products (inv : Inventory) (scan : Scan)
    (variantRow : Option (UUID × Variant)) (delta : Int) :
    (moveVariantRow inv scan variantRow delta).products = inv.products := by
  cases variantRow with
  | none => rfl
  | some row =>
      simp only [moveVariantRow, mirrorIntoLevels]
      split <;> rfl

theorem restockLines_cons_found {tenantId : Option UUID} {inv : Inventory} {replies : Nat → Reply}
    {line : StockLine} {product : Product} (ordered : 0 < line.quantity)
    (answered : (replies 0).raises = false)
    (found : inv.product? tenantId line.productId = some product) (rest : List StockLine) :
    restockLines tenantId inv replies (line :: rest) =
      let row := resolveVariantRow inv (replies 0).scan line.productId line.variantId
        line.selections
      let tail := restockLines tenantId
        (moveVariantRow (inv.modifyProduct line.productId (moveProduct
          (findCombo (product.attributes.getD {}) line.selections) line.selections line.quantity))
          (replies 0).scan row line.quantity) (fun n => replies (n + 1)) rest
      { tail with putBack := ⟨line.productId, row.map Prod.fst,
          orNone line.selections, line.quantity⟩ ::
          tail.putBack } := by
  simp [restockLines, ordered.ne', answered,
    applyLineDelta_restock found _ _ _ (Int.natCast_nonneg line.quantity)]

theorem resolveVariantRow_mem {inv : Inventory} {scan : Scan} {productId : UUID}
    {variantId : Option UUID} {selections : Option Selections} {row : UUID × Variant}
    (resolved : resolveVariantRow inv scan productId variantId selections = some row) :
    inv.variants.get? row.1 = some row.2 ∧ row.2.productId = productId := by
  have stored (member : row ∈ scan.variants (inv.variantsOf productId)) :
      inv.variants.get? row.1 = some row.2 ∧ row.2.productId = productId := by
    rw [(scan.variants_perm _).mem_iff] at member
    obtain ⟨member, mine⟩ := List.mem_filter.mp member
    exact ⟨(Table.get?_eq_some_iff _ _ _).mpr member, of_decide_eq_true mine⟩
  unfold resolveVariantRow at resolved
  simp only at resolved
  split at resolved
  · rename_i explicit heq
    rw [Option.some.injEq] at resolved
    subst resolved
    simp only [Option.bind_eq_some_iff] at heq
    obtain ⟨id, -, found, present, heq⟩ := heq
    split at heq
    · rename_i mine
      rw [Option.some.injEq] at heq
      subst heq
      exact ⟨present, mine⟩
    · simp at heq
  · split at resolved
    · simp at resolved
    · split at resolved
      · exact stored (List.mem_of_find?_eq_some resolved)
      · split at resolved
        · rename_i heq
          rw [Option.some.injEq] at resolved
          subst resolved
          exact stored (List.mem_of_find?_eq_some heq)
        · split at resolved
          · exact stored (List.mem_of_mem_head? resolved)
          · simp at resolved

theorem resolveVariantRow_explicit {inv : Inventory} {id : UUID} {variant : Variant}
    (present : inv.variants.get? id = some variant) (scan : Scan)
    (selections : Option Selections) :
    resolveVariantRow inv scan variant.productId (some id) selections = some (id, variant) := by
  simp [resolveVariantRow, present]

/-- A product no row of which answers to the line has none under any scan order. -/
theorem resolveVariantRow_none {inv after : Inventory} (same : after.variants = inv.variants)
    {scan : Scan} {productId : UUID} {variantId : Option UUID} {selections : Option Selections}
    (unresolved : resolveVariantRow inv scan productId variantId selections = none)
    (scan' : Scan) :
    resolveVariantRow after scan' productId none
      (orNone selections) = none := by
  have rowsOf : after.variantsOf productId = inv.variantsOf productId := by
    simp [Inventory.variantsOf, same]
  have perm : (scan'.variants (inv.variantsOf productId)).Perm
      (scan.variants (inv.variantsOf productId)) :=
    (scan'.variants_perm _).trans (scan.variants_perm _).symm
  have missed (p : UUID × Variant → Bool)
      (none_found : (scan.variants (inv.variantsOf productId)).find? p = none) :
      (scan'.variants (inv.variantsOf productId)).find? p = none := by
    rw [List.find?_eq_none] at none_found ⊢
    intro row member
    exact none_found row (perm.mem_iff.mp member)
  unfold resolveVariantRow at unresolved ⊢
  simp only [Option.bind_none, rowsOf, chosen_orNone, norm_orNone] at unresolved ⊢
  split at unresolved
  · simp at unresolved
  · split at unresolved
    · rename_i noRows
      rw [noRows] at perm
      simp [perm.eq_nil]
    · by_cases picked : chosen selections = true
      · simp only [picked, if_true] at unresolved ⊢
        simp [missed _ unresolved]
      · simp only [picked, Bool.false_eq_true, if_false] at unresolved ⊢
        split at unresolved
        · simp at unresolved
        · rename_i noDefault
          split at unresolved
          · rename_i single
            rw [List.head?_eq_none_iff] at unresolved
            simp [unresolved] at single
          · rename_i several
            rw [← perm.length_eq] at several
            simp [missed _ noDefault, several]

end

end Numu.Stock
