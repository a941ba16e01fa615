import Numu.Foundation.Run
import Numu.Foundation.Counters
import Numu.Orders.Goods
import Numu.Stock.LineDelta

/-! The pieces an order took off the shelf and the pieces its restocks put back. -/

namespace Numu.Stock
open Numu.Orders
open Numu.Outcome (IfOk bind_eq_ok)

/-- What a line counts towards: the product and the variant it names. -/
def unit (line : StockLine) : UUID × Option UUID :=
  (line.productId, line.variantId)

def pieces (lines : List StockLine) : UUID × Option UUID → Nat :=
  tally unit StockLine.quantity lines

/-- The pieces that `takeOff` takes, under the lines it takes them from. -/
def takes (done : StockLine) : Nat → List StockLine → List StockLine
  | _, [] => []
  | qty, line :: rest =>
      if qty = 0 then []
      else if takesFrom done line then
        let take := min qty line.quantity
        { line with quantity := take } :: takes done (qty - take) rest
      else takes done qty rest

theorem pieces_cons (line : StockLine) (lines : List StockLine) (k : UUID × Option UUID) :
    pieces (line :: lines) k = (if unit line = k then line.quantity else 0) + pieces lines k :=
  Tally.tally_cons unit StockLine.quantity line lines k

theorem pieces_append (front back : List StockLine) (k : UUID × Option UUID) :
    pieces (front ++ back) k = pieces front k + pieces back k :=
  Tally.tally_append unit StockLine.quantity front back k

/-- Nothing is lost between what is taken and what remains. -/
theorem pieces_takeOff (done : StockLine) (qty : Nat) (lines : List StockLine)
    (k : UUID × Option UUID) :
    pieces (takes done qty lines) k + pieces (takeOff done qty lines) k = pieces lines k := by
  induction lines generalizing qty with
  | nil => rfl
  | cons line rest ih =>
      by_cases spent : qty = 0
      · simp [takes, takeOff, spent, pieces]
      · by_cases fits : takesFrom done line = true
        · have later := ih (qty - min qty line.quantity)
          have share : min qty line.quantity ≤ line.quantity := min_le_right _ _
          rw [takes, takeOff, if_neg spent, if_neg spent, if_pos fits, if_pos fits]
          simp only [pieces_cons]
          have same (quantity : Nat) : unit { line with quantity := quantity } = unit line := rfl
          rw [same (min qty line.quantity), same (line.quantity - min qty line.quantity)]
          split <;> omega
        · have later := ih qty
          rw [takes, takeOff, if_neg spent, if_neg spent, if_neg fits, if_neg fits]
          simp only [pieces_cons]
          omega

theorem sum_takes_le (done : StockLine) (qty : Nat) (lines : List StockLine) :
    ((takes done qty lines).map StockLine.quantity).sum ≤ qty := by
  induction lines generalizing qty with
  | nil => exact Nat.zero_le qty
  | cons line rest ih =>
      rw [takes]
      split
      · exact Nat.zero_le qty
      · split
        · have later := ih (qty - min qty line.quantity)
          have share : min qty line.quantity ≤ qty := min_le_left _ _
          simp only [List.map_cons, List.sum_cons]
          omega
        · exact ih qty

/-- Whether some line of a restock raises. -/
def raises : (Nat → Reply) → List StockLine → Bool
  | _, [] => false
  | replies, line :: rest =>
      line.quantity ≠ 0 && (replies 0).raises || raises (fun n => replies (n + 1)) rest

section Replay
variable [TextCase]

/-- The stock after one line of a restock. -/
def restockLine (tenantId : Option UUID) (inv : Inventory) (scan : Scan) (line : StockLine) :
    Inventory :=
  if line.quantity = 0 then inv
  else
    match applyLineDelta inv scan tenantId line.productId line.variantId line.selections
        line.quantity true with
    | .error _ => inv
    | .ok (moved, _) => moved

/-- The variant row a line is put back to. -/
def landing (inv : Inventory) (scan : Scan) (line : StockLine) : Option UUID :=
  (resolveVariantRow inv scan line.productId line.variantId line.selections).map Prod.fst

theorem restockLines_empty {tenantId : Option UUID} {inv : Inventory} {replies : Nat → Reply}
    {line : StockLine} (nothing : line.quantity = 0) (rest : List StockLine) :
    restockLines tenantId inv replies (line :: rest) =
      restockLines tenantId (restockLine tenantId inv (replies 0).scan line)
        (fun n => replies (n + 1)) rest := by
  simp [restockLines, restockLine, nothing]

theorem restockLines_missing {tenantId : Option UUID} {inv : Inventory} {replies : Nat → Reply}
    {line : StockLine} (ordered : 0 < line.quantity) (answered : (replies 0).raises = false)
    (missing : inv.product? tenantId line.productId = none) (rest : List StockLine) :
    restockLines tenantId inv replies (line :: rest) =
      restockLines tenantId (restockLine tenantId inv (replies 0).scan line)
        (fun n => replies (n + 1)) rest := by
  simp [restockLines, restockLine, applyLineDelta, ordered.ne', answered, missing]

theorem restockLines_found {tenantId : Option UUID} {inv : Inventory} {replies : Nat → Reply}
    {line : StockLine} {product : Product} (ordered : 0 < line.quantity)
    (answered : (replies 0).raises = false)
    (found : inv.product? tenantId line.productId = some product) (rest : List StockLine) :
    restockLines tenantId inv replies (line :: rest) =
      let tail := restockLines tenantId (restockLine tenantId inv (replies 0).scan line)
        (fun n => replies (n + 1)) rest
      { tail with putBack := ⟨line.productId, landing inv (replies 0).scan line,
          orNone line.selections, line.quantity⟩ :: tail.putBack } := by
  rw [restockLines_cons_found ordered answered found rest]
  simp [restockLine, ordered.ne', landing,
    applyLineDelta_restock found _ _ _ (Int.natCast_nonneg line.quantity)]

theorem restockLines_raised (tenantId : Option UUID) (inv : Inventory) (replies : Nat → Reply)
    (lines : List StockLine) :
    (restockLines tenantId inv replies lines).raised = raises replies lines := by
  induction lines generalizing inv replies with
  | nil => rfl
  | cons line rest ih =>
      rcases Nat.eq_zero_or_pos line.quantity with nothing | ordered
      · rw [restockLines_empty nothing, ih]
        simp [raises, nothing]
      · cases answered : (replies 0).raises with
        | true => simp [restockLines, raises, ordered.ne', answered]
        | false =>
            have later : raises replies (line :: rest) = raises (fun n => replies (n + 1)) rest := by
              simp [raises, answered]
            rw [later]
            cases found : inv.product? tenantId line.productId with
            | none => rw [restockLines_missing ordered answered found, ih]
            | some product =>
                rw [restockLines_found ordered answered found]
                exact ih _ _

/-- The pieces of all products together. -/
def shelved (inv : Inventory) : Int := inv.products.sumOf Product.quantity

theorem shelved_restockLine_found {tenantId : Option UUID} {inv : Inventory} {line : StockLine}
    {product : Product} (found : inv.product? tenantId line.productId = some product)
    (ordered : 0 < line.quantity) (scan : Scan) :
    shelved (restockLine tenantId inv scan line) = shelved inv + line.quantity := by
  have present : inv.products.get? line.productId = some product :=
    (Option.filter_eq_some_iff.mp found).1
  have moved := inv.products.sumOf_modify present (moveProduct
    (findCombo (product.attributes.getD {}) line.selections) line.selections line.quantity)
    Product.quantity
  have quantity : (moveProduct (findCombo (product.attributes.getD {}) line.selections)
      line.selections line.quantity product).quantity = product.quantity + line.quantity := by
    unfold moveProduct
    split <;> rfl
  simp only [restockLine, ordered.ne', if_false,
    applyLineDelta_restock found _ _ _ (Int.natCast_nonneg line.quantity), shelved,
    moveVariantRow_products, Inventory.modifyProduct]
  rw [quantity] at moved
  omega

theorem restockLine_idle {tenantId : Option UUID} {inv : Inventory} {line : StockLine}
    (idle : line.quantity = 0 ∨ inv.product? tenantId line.productId = none) (scan : Scan) :
    restockLine tenantId inv scan line = inv := by
  rcases idle with nothing | missing
  · simp [restockLine, nothing]
  · simp [restockLine, applyLineDelta, missing]

theorem restockLines_inventory {tenantId : Option UUID} {inv : Inventory} {replies : Nat → Reply}
    {line : StockLine} {rest : List StockLine} (answered : raises replies (line :: rest) = false) :
    (restockLines tenantId inv replies (line :: rest)).inventory =
      (restockLines tenantId (restockLine tenantId inv (replies 0).scan line)
        (fun n => replies (n + 1)) rest).inventory := by
  rcases Nat.eq_zero_or_pos line.quantity with nothing | ordered
  · rw [restockLines_empty nothing]
  · have here : (replies 0).raises = false := by
      simpa [ordered.ne'] using (Bool.or_eq_false_iff.mp answered).1
    cases found : inv.product? tenantId line.productId with
    | none => rw [restockLines_missing ordered here found]
    | some product => rw [restockLines_found ordered here found]

theorem shelved_le_restockLines (tenantId : Option UUID) (inv : Inventory) {replies : Nat → Reply}
    {lines : List StockLine} (answered : raises replies lines = false) :
    shelved inv ≤ shelved (restockLines tenantId inv replies lines).inventory := by
  induction lines generalizing inv replies with
  | nil => exact le_refl _
  | cons line rest ih =>
      rw [restockLines_inventory answered]
      apply le_trans _ (ih _ (Bool.or_eq_false_iff.mp answered).2)
      by_cases idle : line.quantity = 0 ∨ inv.product? tenantId line.productId = none
      · rw [restockLine_idle idle]
      · obtain ⟨ordered, known⟩ := not_or.mp idle
        obtain ⟨product, found⟩ := Option.ne_none_iff_exists'.mp known
        rw [shelved_restockLine_found found (Nat.pos_of_ne_zero ordered)]
        omega

/-- A replay leaves the shelves as they are exactly if no line has a piece of a known product. -/
theorem restockLines_idle_iff (tenantId : Option UUID) {inv : Inventory} {replies : Nat → Reply}
    {lines : List StockLine} (answered : raises replies lines = false) :
    (restockLines tenantId inv replies lines).inventory = inv ↔
      ∀ line ∈ lines, line.quantity = 0 ∨ inv.product? tenantId line.productId = none := by
  induction lines generalizing inv replies with
  | nil => simp [restockLines]
  | cons line rest ih =>
      have later := (Bool.or_eq_false_iff.mp answered).2
      rw [restockLines_inventory answered, List.forall_mem_cons]
      by_cases idle : line.quantity = 0 ∨ inv.product? tenantId line.productId = none
      · rw [restockLine_idle idle, ih later]
        simp [idle]
      · obtain ⟨ordered, known⟩ := not_or.mp idle
        obtain ⟨product, found⟩ := Option.ne_none_iff_exists'.mp known
        have first := shelved_restockLine_found found (Nat.pos_of_ne_zero ordered) (replies 0).scan
        have last := shelved_le_restockLines tenantId
          (restockLine tenantId inv (replies 0).scan line) later
        constructor
        · intro same
          rw [same] at last
          omega
        · exact fun all => absurd all.1 idle

/-- Every line that goes through is put back to the variant it names. -/
def Lands (tenantId : Option UUID) : Inventory → (Nat → Reply) → List StockLine → Prop
  | _, _, [] => True
  | inv, replies, line :: rest =>
      (line.quantity = 0 ∨ inv.product? tenantId line.productId = none ∨
        landing inv (replies 0).scan line = line.variantId) ∧
      Lands tenantId (restockLine tenantId inv (replies 0).scan line) (fun n => replies (n + 1)) rest

instance decidableLands (tenantId : Option UUID) :
    ∀ inv replies lines, Decidable (Lands tenantId inv replies lines)
  | _, _, [] => isTrue trivial
  | inv, replies, line :: rest =>
      have := decidableLands tenantId (restockLine tenantId inv (replies 0).scan line)
        (fun n => replies (n + 1)) rest
      inferInstanceAs (Decidable (_ ∧ _))

/-- Every line goes through, and the pieces its ledger entry takes off the remaining lines are
its own number of pieces of the variant it is put back to. -/
def Settles (tenantId : Option UUID) :
    Inventory → (Nat → Reply) → List StockLine → List StockLine → Prop
  | _, _, _, [] => True
  | inv, replies, remaining, line :: rest =>
      inv.product? tenantId line.productId ≠ none ∧
      pieces (takes line line.quantity remaining)
        (line.productId, landing inv (replies 0).scan line) = line.quantity ∧
      Settles tenantId (restockLine tenantId inv (replies 0).scan line) (fun n => replies (n + 1))
        (takeOff line line.quantity remaining) rest

instance decidableSettles (tenantId : Option UUID) :
    ∀ inv replies remaining lines, Decidable (Settles tenantId inv replies remaining lines)
  | _, _, _, [] => isTrue trivial
  | inv, replies, remaining, line :: rest =>
      have := decidableSettles tenantId (restockLine tenantId inv (replies 0).scan line)
        (fun n => replies (n + 1)) (takeOff line line.quantity remaining) rest
      inferInstanceAs (Decidable (_ ∧ _ ∧ _))

/-- The lines of a restock that are to be put back at all. -/
def ordered (lines : List StockLine) : List StockLine :=
  lines.filter fun line => 0 < line.quantity

/-- A restock whose lines land puts back no more than they say, and all of it when none of
them fails. -/
theorem pieces_restockLines {tenantId : Option UUID} {inv : Inventory} {replies : Nat → Reply}
    {lines : List StockLine} (answered : raises replies lines = false)
    (lands : Lands tenantId inv replies lines) (k : UUID × Option UUID) :
    let putBack := (restockLines tenantId inv replies lines).putBack
    putBack.length ≤ (ordered lines).length ∧ pieces putBack k ≤ pieces lines k ∧
      (putBack.length = (ordered lines).length → pieces putBack k = pieces lines k) := by
  induction lines generalizing inv replies with
  | nil => exact ⟨Nat.le_refl _, Nat.le_refl _, fun _ => rfl⟩
  | cons line rest ih =>
      rcases lands with ⟨own, later⟩
      rw [raises, Bool.or_eq_false_iff] at answered
      rcases ih answered.2 later with ⟨fewer, bounded, complete⟩
      rcases Nat.eq_zero_or_pos line.quantity with nothing | positive
      · have skipped : ordered (line :: rest) = ordered rest := by simp [ordered, nothing]
        have same : pieces (line :: rest) k = pieces rest k := by simp [pieces_cons, nothing]
        rw [restockLines_empty nothing, skipped, same]
        exact ⟨fewer, bounded, complete⟩
      · have counted : (ordered (line :: rest)).length = (ordered rest).length + 1 := by
          simp [ordered, positive]
        have quiet : (replies 0).raises = false := by simpa [positive.ne'] using answered.1
        rw [counted, pieces_cons]
        cases found : inv.product? tenantId line.productId with
        | none =>
            rw [restockLines_missing positive quiet found]
            refine ⟨?_, ?_, ?_⟩
            · omega
            · omega
            · intro all
              omega
        | some product =>
            have lands : landing inv (replies 0).scan line = line.variantId := by
              rcases own with nothing | missing | lands
              · omega
              · simp [missing] at found
              · exact lands
            have entry : unit ⟨line.productId, line.variantId, orNone line.selections,
              line.quantity⟩ = unit line := rfl
            rw [restockLines_found positive quiet found, lands]
            simp only [List.length_cons, pieces_cons, entry]
            refine ⟨?_, ?_, ?_⟩
            · omega
            · omega
            · intro all
              have same := complete (by omega)
              omega

/-- A restock whose lines settle puts back what its ledger entries take off. -/
theorem pieces_settled {tenantId : Option UUID} {inv : Inventory} {replies : Nat → Reply}
    {remaining lines : List StockLine} (answered : raises replies lines = false)
    (positive : ∀ line ∈ lines, 0 < line.quantity)
    (settles : Settles tenantId inv replies remaining lines) (k : UUID × Option UUID) :
    pieces (restockLines tenantId inv replies lines).putBack k +
      pieces (minusRestocked remaining lines) k = pieces remaining k := by
  induction lines generalizing inv replies remaining with
  | nil => simp [restockLines, minusRestocked, pieces]
  | cons line rest ih =>
      rcases settles with ⟨through, own, later⟩
      rw [raises, Bool.or_eq_false_iff] at answered
      have here := positive line List.mem_cons_self
      have quiet : (replies 0).raises = false := by simpa [here.ne'] using answered.1
      have tail := ih answered.2 (fun other member => positive other (List.mem_cons_of_mem _ member))
        later
      have split_ := pieces_takeOff line line.quantity remaining k
      have taken := Tally.tally_of_full unit StockLine.quantity
        (sum_takes_le line line.quantity remaining) own k
      have folded : minusRestocked remaining (line :: rest) =
          minusRestocked (takeOff line line.quantity remaining) rest := rfl
      rcases Option.ne_none_iff_exists'.mp through with ⟨product, found⟩
      rw [restockLines_found here quiet found, folded]
      change pieces (takes line line.quantity remaining) k = _ at taken
      rw [pieces_cons]
      by_cases hit : (line.productId, landing inv (replies 0).scan line) = k
      · rw [if_pos hit] at taken
        simp only [unit, hit, if_true]
        omega
      · rw [if_neg hit] at taken
        simp only [unit, hit, if_false]
        omega

/-- A restock that raises at its first line has moved nothing. -/
theorem restockLines_first_raises {tenantId : Option UUID} {inv : Inventory}
    {replies : Nat → Reply} {lines : List StockLine} (raised : (replies 0).raises = true)
    (positive : ∀ line ∈ lines, 0 < line.quantity) :
    (restockLines tenantId inv replies lines).putBack = [] := by
  cases lines with
  | nil => rfl
  | cons line rest =>
      have here := positive line List.mem_cons_self
      simp [restockLines, here.ne', raised]

end Replay

/-- What the restocks read of an order is unchanged. -/
structure SameGoods (before after : Order) : Prop where
  tenantId : after.tenantId = before.tenantId
  lineItems : after.lineItems = before.lineItems
  debited : after.metadata.stockDebited = before.metadata.stockDebited
  ledger : after.metadata.stockRestockedLines = before.metadata.stockRestockedLines
  stamp : after.metadata.stockRestockedAt = before.metadata.stockRestockedAt

namespace SameGoods
variable {before mid after order moved : Order} {now : Time}

theorem refl (order : Order) : SameGoods order order := ⟨rfl, rfl, rfl, rfl, rfl⟩

theorem trans (first : SameGoods before mid) (second : SameGoods mid after) :
    SameGoods before after where
  tenantId := second.tenantId.trans first.tenantId
  lineItems := second.lineItems.trans first.lineItems
  debited := second.debited.trans first.debited
  ledger := second.ledger.trans first.ledger
  stamp := second.stamp.trans first.stamp

/-- The row `update` writes holds the entity's goods under the stored tenant. -/
theorem update (same : SameGoods before after) (now : Time) :
    SameGoods before (OrderRepository.update before after now) :=
  ⟨rfl, same.lineItems, same.debited, same.ledger, same.stamp⟩

theorem stampStatus (order : Order) (now : Time) : SameGoods order (order.stampStatus now) := by
  unfold Order.stampStatus
  split
  · exact ⟨rfl, rfl, rfl, rfl, rfl⟩
  · exact ⟨rfl, rfl, rfl, rfl, rfl⟩
  · exact ⟨rfl, rfl, rfl, rfl, rfl⟩
  · split <;> exact ⟨rfl, rfl, rfl, rfl, rfl⟩
  · exact refl order

theorem transitionTo {newStatus : OrderStatus} {reason source : Option String}
    (ok : order.transitionTo newStatus reason source now = .ok moved) : SameGoods order moved := by
  unfold Order.transitionTo at ok
  split at ok
  · cases ok
    have recorded : SameGoods order (order.recordTransition newStatus reason source now) :=
      ⟨rfl, rfl, rfl, rfl, rfl⟩
    have stamped := recorded.trans (stampStatus _ now)
    exact stamped.trans ⟨rfl, rfl, rfl, rfl, rfl⟩
  · cases ok

theorem cancel {reason : Option String} (ok : order.cancel reason now = .ok moved) :
    SameGoods order moved := by
  unfold Order.cancel at ok
  split at ok
  · rcases bind_eq_ok.mp ok with ⟨cancelled, step, same⟩
    cases same
    exact (transitionTo step).trans ⟨rfl, rfl, rfl, rfl, rfl⟩
  · cases ok

theorem returnToOrigin {reason : Option String}
    (ok : order.returnToOrigin reason now = .ok moved) : SameGoods order moved := by
  rcases bind_eq_ok.mp ok with ⟨returned, step, same⟩
  cases same
  exact (transitionTo step).trans ⟨rfl, rfl, rfl, rfl, rfl⟩

theorem applyStatus {newStatus : OrderStatus} {dto : UpdateOrderStatusDTO}
    (ok : applyStatus order newStatus dto now = .ok moved) : SameGoods order moved := by
  have ofGuarded {P : Prop} [Decidable P] {step : Except String Order} {message : String}
      (guarded : (if P then step else .error message) = .ok moved)
      (keeps : step = .ok moved → SameGoods order moved) : SameGoods order moved := by
    split at guarded
    · exact keeps guarded
    · cases guarded
  have ofSet {target : OrderStatus} (set : setStatus order target now = .ok moved) :
      SameGoods order moved := by
    unfold setStatus at set
    split at set
    · cases set
    · cases set
      exact ⟨rfl, rfl, rfl, rfl, rfl⟩
  cases newStatus with
  | confirmed => exact ofGuarded ok transitionTo
  | processing => exact ofGuarded ok transitionTo
  | delivered => exact ofGuarded ok transitionTo
  | shipped =>
      apply ofGuarded ok
      intro ok
      rcases bind_eq_ok.mp ok with ⟨shipped, step, same⟩
      cases same
      exact (transitionTo step).trans ⟨rfl, rfl, rfl, rfl, rfl⟩
  | cancelled => exact cancel ok
  | returned => exact returnToOrigin ok
  | refunded =>
      apply ofGuarded ok
      intro ok
      rcases bind_eq_ok.mp ok with ⟨refunded, step, same⟩
      cases same
      exact (transitionTo step).trans ⟨rfl, rfl, rfl, rfl, rfl⟩
  | paymentFailed =>
      cases ok
      exact ⟨rfl, rfl, rfl, rfl, rfl⟩
  | draft => exact ofSet ok
  | pendingDeposit => exact ofSet ok
  | awaitingPayment => exact ofSet ok
  | pending => exact ofSet ok

theorem recordPartialAcceptance {returned : List (Int × Int)} {reason : Option String}
    {summary : PartialAcceptance}
    (ok : order.recordPartialAcceptance returned reason now = .ok (moved, summary)) :
    SameGoods order moved ∧ order.returnedLines returned = .ok summary.lines := by
  unfold Order.recordPartialAcceptance at ok
  split at ok
  · cases ok
  · rcases bind_eq_ok.mp ok with ⟨lines, found, same⟩
    cases same
    exact ⟨⟨rfl, rfl, rfl, rfl, rfl⟩, found⟩

end SameGoods

/-- The manifest without the pieces that the ledger says are back. -/
def outstanding (order : Order) : List StockLine :=
  minusRestocked (manifest order) (order.metadata.stockRestockedLines.getD [])

theorem SameGoods.manifest {before after : Order} (same : SameGoods before after) :
    manifest after = manifest before := by
  rw [Stock.manifest, same.debited, Stock.manifest]

theorem SameGoods.outstanding {before after : Order} (same : SameGoods before after) :
    outstanding after = outstanding before := by
  rw [Stock.outstanding, same.manifest, same.ledger, Stock.outstanding]

structure StockRun where
  store : Store
  order : Order
  inventory : Inventory
  /-- The replay entries of everything put back so far. -/
  putBack : List StockLine := []
  /-- How many lines the final restock could not put back. -/
  failed : Nat := 0

inductive StockLabel where
  | partialAcceptance (request : PartialAcceptanceRequest) (aborts : Bool)
      (replies : Nat → Reply) (now : Time)
  | updateStatus (userId : UUID) (dto : UpdateOrderStatusDTO) (replies : Nat → Reply) (now : Time)
  | jtReturned (replies : Nat → Reply) (now : Time)
  | refundRestock (replies : Nat → Reply) (now : Time)
  /-- Other orders and the merchant move the stock. -/
  | others (inventory : Inventory)

namespace StockRun

/-- The run after a restock of the order as a whole. -/
def restocking (state : StockRun) (restocked : Restocked) : StockRun :=
  { state with
    order := restocked.order
    inventory := restocked.inventory
    putBack := state.putBack ++ restocked.putBack
    failed :=
      if restocked.restored then (ordered (outstanding state.order)).length - restocked.putBack.length
      else state.failed }

section
variable [TextCase]

def step (state : StockRun) : StockLabel → StockRun
  | .partialAcceptance request aborts replies now =>
      match recordPartialAcceptance state.inventory replies aborts state.store (some state.order)
          state.order.id request now with
      | .error _ => state
      | .ok accepted =>
          { state with
            order := accepted.order
            inventory := accepted.inventory
            putBack := state.putBack ++ accepted.putBack }
  | .updateStatus userId dto replies now =>
      match execute state.inventory replies (some state.store) (some state.order) state.order.id
          dto state.store.id userId now with
      | .error _ => state
      | .ok update =>
          state.restocking
            { update.toRestocked with
              order := OrderRepository.update state.order update.order now }
  | .jtReturned replies now =>
      match jtReturned state.inventory replies state.order now with
      | .error _ => state
      | .ok restocked => state.restocking restocked
  | .refundRestock replies now =>
      state.restocking (refundRestock state.inventory replies state.order now)
  | .others inventory => { state with inventory := inventory }

end

/-- Of no variant more is put back than was debited, and exactly as much once the order is
finally restocked without a failed line. -/
def Conserved (state : StockRun) : Prop :=
  ∀ k, pieces state.putBack k ≤ pieces (manifest state.order) k ∧
    (state.order.metadata.stockRestockedAt.isSome → state.failed = 0 →
      pieces state.putBack k = pieces (manifest state.order) k)

section
variable [TextCase]

/-- A restock of returned lines raises nowhere, comes before the final one and settles. One
that raises at its first line, or is rolled back, does nothing. -/
def Covers (state : StockRun) (replies : Nat → Reply) (aborts : Bool) (lines : List StockLine) :
    Prop :=
  if raises replies lines then aborts = true ∨ (replies 0).raises = true
  else state.order.metadata.stockRestockedAt = none ∧
    Settles (some state.store.tenantId) state.inventory replies (outstanding state.order) lines

/-- The lines of a final restock land. One that raises is rolled back. -/
def Refills (state : StockRun) (replies : Nat → Reply) : Prop :=
  state.order.metadata.stockRestockedAt = none →
    raises replies (outstanding state.order) = false →
      Lands state.order.tenantId state.inventory replies (outstanding state.order)

/-- The restocks that are accepted put pieces back to the variants they were debited from. -/
def Matched (state : StockRun) : StockLabel → Prop
  | .partialAcceptance request aborts replies now =>
      request.restock = true →
        IfOk (fun _ => IfOk (fun lines => state.Covers replies aborts (returnedStock lines))
            (state.order.returnedLines request.returned))
          (checkPartialAcceptance state.store (some state.order) state.order.id request now)
  | .updateStatus userId dto replies now =>
      state.store.ownerId = userId → state.order.storeId = state.store.id →
        ∀ newStatus ∈ [OrderStatus.cancelled, .returned],
          OrderStatus.ofValue dto.status = some newStatus →
            IfOk (fun _ => state.Refills replies) (applyStatus state.order newStatus dto now)
  | .jtReturned replies _ => state.Refills replies
  | .refundRestock replies _ => state.Refills replies
  | .others _ => True

instance (state : StockRun) (replies : Nat → Reply) (aborts : Bool) (lines : List StockLine) :
    Decidable (state.Covers replies aborts lines) := by
  unfold Covers
  infer_instance

instance (state : StockRun) (replies : Nat → Reply) : Decidable (state.Refills replies) := by
  unfold Refills
  infer_instance

instance (state : StockRun) (label : StockLabel) : Decidable (state.Matched label) := by
  cases label <;> unfold Matched <;> infer_instance

end

/-- What is put back and what is outstanding make up the manifest until the final restock. -/
structure Accounted (state : StockRun) : Prop where
  open_ : state.order.metadata.stockRestockedAt = none → ∀ k,
    pieces state.putBack k + pieces (outstanding state.order) k = pieces (manifest state.order) k
  conserved : state.Conserved

theorem Accounted.of_same {before after : StockRun} (accounted : before.Accounted)
    (same : SameGoods before.order after.order) (putBack : after.putBack = before.putBack)
    (failed : after.failed = before.failed) : after.Accounted where
  open_ := by
    rw [same.stamp, same.outstanding, same.manifest, putBack]
    exact accounted.open_
  conserved := by
    rw [Conserved, same.stamp, same.manifest, putBack, failed]
    exact accounted.conserved

/-- What a restock of the whole order makes of the run it meets. -/
inductive Final [TextCase] (state : StockRun) (replies : Nat → Reply) (restocked : Restocked) :
    Prop where
  | skipped (restored : restocked.restored = false) (putBack : restocked.putBack = [])
      (same : SameGoods state.order restocked.order)
  | replayed (restored : restocked.restored = true)
      (first : state.order.metadata.stockRestockedAt = none)
      (answered : raises replies (outstanding state.order) = false)
      (putBack : restocked.putBack = (restockLines state.order.tenantId state.inventory replies
        (outstanding state.order)).putBack)
      (same : manifest restocked.order = manifest state.order)
      (stamped : restocked.order.metadata.stockRestockedAt.isSome)

section
variable [TextCase] {state : StockRun} {replies : Nat → Reply}

theorem tryRestockOrder_final {changed : Order} (same : SameGoods state.order changed)
    (replies : Nat → Reply) (reason : Option String) (now : Time) :
    state.Final replies (tryRestockOrder state.inventory replies changed reason now) := by
  unfold tryRestockOrder restockOrder
  by_cases empty : manifest changed = []
  · simp only [empty, if_true, Option.getD_some]
    exact .skipped rfl rfl same
  · cases stamp : changed.metadata.stockRestockedAt with
    | some time =>
        simp only [empty, if_false, Option.isSome_some, if_true, Option.getD_some]
        exact .skipped rfl rfl same
    | none =>
        have remaining : minusRestocked (manifest changed)
            (changed.metadata.stockRestockedLines.getD []) = outstanding state.order :=
          same.outstanding
        simp only [empty, if_false, Option.isSome_none, Bool.false_eq_true, remaining,
          same.tenantId, restockLines_raised]
        cases answered : raises replies (outstanding state.order) with
        | true =>
            simp only [if_true, Option.getD_none]
            exact .skipped rfl rfl same
        | false =>
            simp only [Bool.false_eq_true, if_false, Option.getD_some]
            exact .replayed rfl (same.stamp ▸ stamp) answered rfl same.manifest rfl

theorem restockOrderStock_eq (inv : Inventory) (replies : Nat → Reply) (order : Order)
    (reason : Option String) (now : Time) :
    restockOrderStock inv replies order reason now =
      tryRestockOrder inv replies order reason now := by
  unfold restockOrderStock tryRestockOrder
  cases restockOrder inv replies order reason now <;> rfl

theorem Final.update {restocked : Restocked} (final : state.Final replies restocked) (now : Time) :
    state.Final replies
      { restocked with order := OrderRepository.update state.order restocked.order now } := by
  cases final with
  | skipped restored putBack same => exact .skipped restored putBack (same.update now)
  | replayed restored first answered putBack same stamped =>
      exact .replayed restored first answered putBack same stamped

theorem accounted_restocking {restocked : Restocked} (accounted : state.Accounted)
    (final : state.Final replies restocked)
    (refills : restocked.restored = true → state.Refills replies) :
    (state.restocking restocked).Accounted := by
  cases final with
  | skipped restored putBack same =>
      apply accounted.of_same same
      · simp [restocking, putBack]
      · simp [restocking, restored]
  | replayed restored first answered putBack same stamped =>
      have lands := refills restored first answered
      have count (k : UUID × Option UUID) :
          pieces (state.restocking restocked).putBack k =
            pieces state.putBack k + pieces restocked.putBack k :=
        pieces_append state.putBack restocked.putBack k
      constructor
      · intro unstamped
        have : restocked.order.metadata.stockRestockedAt = none := unstamped
        simp [this] at stamped
      · intro k
        have replay := pieces_restockLines answered lands k
        rw [← putBack] at replay
        rcases replay with ⟨fewer, bounded, complete⟩
        have balance := accounted.open_ first k
        have same_ : manifest (state.restocking restocked).order = manifest state.order := same
        rw [count, same_]
        constructor
        · omega
        · intro _ none_failed
          have all : (ordered (outstanding state.order)).length - restocked.putBack.length = 0 := by
            simpa [restocking, restored] using none_failed
          have back := complete (by omega)
          omega

theorem execute_final {userId : UUID} {dto : UpdateOrderStatusDTO} {now : Time}
    {update : StatusUpdate}
    (ok : execute state.inventory replies (some state.store) (some state.order) state.order.id dto
      state.store.id userId now = .ok update)
    (matched : state.Matched (.updateStatus userId dto replies now)) :
    state.Final replies update.toRestocked ∧
      (update.restored = true → state.Refills replies) := by
  rcases execute_ok ok with ⟨order, newStatus, changed, owner, found, mine, parsed, applied, rest⟩
  cases found
  have same := SameGoods.applyStatus applied
  rw [rest, restockClosed]
  split
  · rename_i closed
    rw [restockOrderStock_eq]
    refine ⟨tryRestockOrder_final same replies dto.reason now, fun _ => ?_⟩
    have owned : state.store.ownerId = userId := by simpa using owner
    have target : newStatus ∈ [OrderStatus.cancelled, .returned] := by simpa using closed
    have refills := matched owned mine newStatus target parsed
    rw [applied] at refills
    exact refills
  · refine ⟨.skipped rfl rfl same, fun restored => ?_⟩
    cases restored

theorem jtReturned_final {now : Time} {restocked : Restocked}
    (ok : jtReturned state.inventory replies state.order now = .ok restocked) :
    state.Final replies restocked := by
  rcases bind_eq_ok.mp ok with ⟨moved, step, same⟩
  cases same
  have goods : SameGoods state.order moved := by
    unfold returnByCarrier at step
    simp only at step
    split at step
    · exact SameGoods.returnToOrigin step
    · split at step
      · exact SameGoods.cancel step
      · cases step
        exact SameGoods.refl _
  exact (tryRestockOrder_final goods replies (some "jt_returned") now).update now

theorem refundRestock_final (state : StockRun) (replies : Nat → Reply) (now : Time) :
    state.Final replies (refundRestock state.inventory replies state.order now) := by
  have final := tryRestockOrder_final (SameGoods.refl state.order) replies
    (some "refund_restock_items") now
  unfold refundRestock
  simp only
  split
  · exact final.update now
  · rename_i idle
    cases final with
    | skipped restored putBack same => exact .skipped restored putBack (SameGoods.refl _)
    | replayed restored => exact absurd restored idle

omit [TextCase] in
theorem returnedLine_positive {order : Order} {index qty : Int} {line : ReturnedLine}
    (ok : order.returnedLine index qty = .ok line) : 0 < line.returnedQuantity := by
  unfold Order.returnedLine at ok
  split at ok
  · cases ok
  · split at ok
    · cases ok
    · simp only at ok
      split at ok
      · cases ok
      · rename_i inRange
        cases ok
        have positive : 0 < qty := by omega
        exact Int.pos_iff_toNat_pos.mp positive

omit [TextCase] in
theorem returnedStock_positive {order : Order} {returned : List (Int × Int)}
    {lines : List ReturnedLine} (ok : order.returnedLines returned = .ok lines) :
    ∀ line ∈ returnedStock lines, 0 < line.quantity := by
  have positive : ∀ line ∈ lines, 0 < line.returnedQuantity := by
    unfold Order.returnedLines at ok
    induction returned generalizing lines with
    | nil =>
        cases ok
        simp
    | cons pair rest ih =>
        rw [List.mapM_cons] at ok
        rcases bind_eq_ok.mp ok with ⟨first, here, ok⟩
        rcases bind_eq_ok.mp ok with ⟨later, there, same⟩
        cases same
        intro line member
        rcases List.mem_cons.mp member with rfl | member
        · exact returnedLine_positive here
        · exact ih there line member
  intro line member
  rcases List.mem_map.mp member with ⟨source, listed, rfl⟩
  exact positive source listed

/-- What a partial acceptance leaves of the run it meets. -/
inductive Partial (state : StockRun) (replies : Nat → Reply) (aborts : Bool)
    (request : PartialAcceptanceRequest) (accepted : Restocked) : Prop where
  | unstocked (off : request.restock = false) (putBack : accepted.putBack = [])
      (same : SameGoods state.order accepted.order)
  | raised (lines : List ReturnedLine) (restock : request.restock = true)
      (found : state.order.returnedLines request.returned = .ok lines)
      (raised : raises replies (returnedStock lines) = true) (kept : aborts = false)
      (putBack : accepted.putBack = (restockLines (some state.store.tenantId) state.inventory
        replies (returnedStock lines)).putBack)
      (same : SameGoods state.order accepted.order)
  | restocked (lines : List ReturnedLine) (restock : request.restock = true)
      (found : state.order.returnedLines request.returned = .ok lines)
      (answered : raises replies (returnedStock lines) = false)
      (putBack : accepted.putBack = (restockLines (some state.store.tenantId) state.inventory
        replies (returnedStock lines)).putBack)
      (same : manifest accepted.order = manifest state.order)
      (stamp : accepted.order.metadata.stockRestockedAt =
        state.order.metadata.stockRestockedAt)
      (ledger : accepted.order.metadata.stockRestockedLines =
        some (state.order.metadata.stockRestockedLines.getD [] ++ returnedStock lines))

omit [TextCase] in
theorem checkPartialAcceptance_ok {store : Store} {order : Option Order} {orderId : UUID}
    {request : PartialAcceptanceRequest} {now : Time} {checked : Order}
    (ok : checkPartialAcceptance store order orderId request now = .ok checked) :
    order = some checked := by
  unfold checkPartialAcceptance at ok
  cases order with
  | none => cases ok
  | some order =>
      simp only at ok
      split_ifs at ok
      split at ok
      · cases ok
      · cases ok
        rfl

theorem deliverShipped_same {store : Store} {order delivered : Order} {inv : Inventory}
    {reason : Option String} {now : Time}
    (ok : deliverShipped inv replies store order reason now = .ok delivered) :
    SameGoods order delivered := by
  unfold deliverShipped at ok
  split at ok
  · simp only at ok
    split at ok
    · cases ok
    · rename_i update executed
      cases ok
      rcases execute_ok executed with ⟨found, newStatus, changed, -, same, -, parsed, applied, rest⟩
      cases same
      have target : newStatus = .delivered := by
        rw [OrderStatus.ofValue_value] at parsed
        simpa using parsed.symm
      subst target
      rw [rest]
      exact (SameGoods.applyStatus applied).update now
  · cases ok
    exact SameGoods.refl order

theorem saveAcceptance_ok {aborts : Bool} {checked : Order} {restocked : Restocked}
    {summary : PartialAcceptance} {now : Time} {accepted : PartiallyAccepted}
    (ok : saveAcceptance aborts checked restocked summary now = .ok accepted) :
    accepted.toRestocked =
        { restocked with order := OrderRepository.update checked restocked.order now } ∧
      (restocked.restored = false → aborts = false) := by
  unfold saveAcceptance at ok
  split at ok
  · cases ok
  · rename_i committed
    cases ok
    refine ⟨rfl, fun unrestored => ?_⟩
    simpa [unrestored] using committed

theorem recordPartialAcceptance_partial {aborts : Bool} {request : PartialAcceptanceRequest}
    {now : Time} {accepted : PartiallyAccepted}
    (ok : recordPartialAcceptance state.inventory replies aborts state.store (some state.order)
      state.order.id request now = .ok accepted) :
    state.Partial replies aborts request accepted.toRestocked ∧
      checkPartialAcceptance state.store (some state.order) state.order.id request now =
        .ok state.order := by
  rcases bind_eq_ok.mp ok with ⟨checked, check, ok⟩
  cases checkPartialAcceptance_ok check
  rcases bind_eq_ok.mp ok with ⟨delivered, deliver, ok⟩
  refine ⟨?_, check⟩
  have delivery := deliverShipped_same deliver
  split at ok
  · cases ok
  · rename_i recorded summary record
    rcases SameGoods.recordPartialAcceptance record with ⟨same, found⟩
    have goods := delivery.trans same
    have lines : state.order.returnedLines request.returned = .ok summary.lines := by
      rw [← found, Order.returnedLines, Order.returnedLines]
      simp only [Order.returnedLine, delivery.lineItems]
    rcases saveAcceptance_ok ok with ⟨saved, committed⟩
    rw [saved]
    cases restock : request.restock with
    | false => exact .unstocked restock rfl (goods.update now)
    | true =>
        simp only [restock, if_true, restockReturned, restockLines_raised] at committed ⊢
        cases raised : raises replies (returnedStock summary.lines) with
        | true =>
            simp only [raised, if_true] at committed ⊢
            exact .raised summary.lines restock lines raised (committed trivial) rfl (goods.update now)
        | false =>
            simp only [Bool.false_eq_true, if_false]
            refine .restocked summary.lines restock lines raised rfl goods.manifest goods.stamp ?_
            rw [← goods.ledger]
            rfl

theorem Matched.covers {aborts : Bool} {request : PartialAcceptanceRequest} {now : Time}
    {lines : List ReturnedLine}
    (matched : state.Matched (.partialAcceptance request aborts replies now))
    (restock : request.restock = true)
    (check : checkPartialAcceptance state.store (some state.order) state.order.id request now =
      .ok state.order)
    (found : state.order.returnedLines request.returned = .ok lines) :
    state.Covers replies aborts (returnedStock lines) := by
  have covers := matched restock
  rw [check] at covers
  simp only [IfOk, found] at covers
  exact covers

/-- Nothing is put back by a restock that raises at its first line. -/
theorem accounted_raised {accepted : Restocked} {aborts : Bool} {lines : List ReturnedLine}
    {returned : List (Int × Int)} (accounted : state.Accounted)
    (covers : state.Covers replies aborts (returnedStock lines))
    (found : state.order.returnedLines returned = .ok lines)
    (raised : raises replies (returnedStock lines) = true) (kept : aborts = false)
    (putBack : accepted.putBack = (restockLines (some state.store.tenantId) state.inventory
      replies (returnedStock lines)).putBack)
    (same : SameGoods state.order accepted.order) :
    Accounted { state with
      order := accepted.order
      inventory := accepted.inventory
      putBack := state.putBack ++ accepted.putBack } := by
  rw [Covers, if_pos raised] at covers
  have first : (replies 0).raises = true := by simpa [kept] using covers
  have nothing : accepted.putBack = [] := by
    rw [putBack]
    exact restockLines_first_raises first (returnedStock_positive found)
  apply accounted.of_same same
  · simp [nothing]
  · rfl

/-- What a settled restock puts back moves from what is outstanding to what is back. -/
theorem accounted_settled {accepted : Restocked} {aborts : Bool} {lines : List ReturnedLine}
    {returned : List (Int × Int)} (accounted : state.Accounted)
    (covers : state.Covers replies aborts (returnedStock lines))
    (found : state.order.returnedLines returned = .ok lines)
    (answered : raises replies (returnedStock lines) = false)
    (putBack : accepted.putBack = (restockLines (some state.store.tenantId) state.inventory
      replies (returnedStock lines)).putBack)
    (same : manifest accepted.order = manifest state.order)
    (stamp : accepted.order.metadata.stockRestockedAt = state.order.metadata.stockRestockedAt)
    (ledger : accepted.order.metadata.stockRestockedLines =
      some (state.order.metadata.stockRestockedLines.getD [] ++ returnedStock lines)) :
    Accounted { state with
      order := accepted.order
      inventory := accepted.inventory
      putBack := state.putBack ++ accepted.putBack } := by
  rw [Covers, if_neg (by simp [answered])] at covers
  rcases covers with ⟨unstamped, settles⟩
  have remaining : outstanding accepted.order =
      minusRestocked (outstanding state.order) (returnedStock lines) := by
    rw [outstanding, same, ledger, outstanding, Option.getD_some]
    exact List.foldl_append
  have balance (k : UUID × Option UUID) :
      pieces (state.putBack ++ accepted.putBack) k + pieces (outstanding accepted.order) k =
        pieces (manifest accepted.order) k := by
    have settled := pieces_settled answered (returnedStock_positive found) settles k
    rw [← putBack, ← remaining] at settled
    calc
      _ = pieces state.putBack k + (pieces accepted.putBack k +
            pieces (outstanding accepted.order) k) := by
        rw [pieces_append, Nat.add_assoc]
      _ = pieces state.putBack k + pieces (outstanding state.order) k := by rw [settled]
      _ = pieces (manifest accepted.order) k := by rw [accounted.open_ unstamped k, same]
  constructor
  · intro _ k
    exact balance k
  · intro k
    constructor
    · have whole := balance k
      change pieces (state.putBack ++ accepted.putBack) k ≤ pieces (manifest accepted.order) k
      omega
    · intro stamped
      change accepted.order.metadata.stockRestockedAt.isSome = true at stamped
      simp [stamp, unstamped] at stamped

theorem accounted_partial {aborts : Bool} {request : PartialAcceptanceRequest} {now : Time}
    {accepted : PartiallyAccepted} (accounted : state.Accounted)
    (ok : recordPartialAcceptance state.inventory replies aborts state.store (some state.order)
      state.order.id request now = .ok accepted)
    (matched : state.Matched (.partialAcceptance request aborts replies now)) :
    (state.step (.partialAcceptance request aborts replies now)).Accounted := by
  rcases recordPartialAcceptance_partial ok with ⟨outcome, check⟩
  simp only [step, ok]
  cases outcome with
  | unstocked off putBack same =>
      apply accounted.of_same same
      · simp [putBack]
      · rfl
  | raised lines restock found raised kept putBack same =>
      exact accounted_raised accounted (matched.covers restock check found) found raised kept putBack
        same
  | restocked lines restock found answered putBack same stamp ledger =>
      exact accounted_settled accounted (matched.covers restock check found) found answered putBack
        same stamp ledger

theorem accounted_step {label : StockLabel} (accounted : state.Accounted)
    (matched : state.Matched label) : (state.step label).Accounted := by
  cases label with
  | partialAcceptance request aborts replies now =>
      cases outcome : recordPartialAcceptance state.inventory replies aborts state.store
          (some state.order) state.order.id request now with
      | error error =>
          simp only [step, outcome]
          exact accounted
      | ok accepted => exact accounted_partial accounted outcome matched
  | updateStatus userId dto replies now =>
      cases outcome : execute state.inventory replies (some state.store) (some state.order)
          state.order.id dto state.store.id userId now with
      | error error =>
          simp only [step, outcome]
          exact accounted
      | ok update =>
          simp only [step, outcome]
          rcases execute_final outcome matched with ⟨final, refills⟩
          exact accounted_restocking accounted (final.update now) refills
  | jtReturned replies now =>
      cases outcome : jtReturned state.inventory replies state.order now with
      | error message =>
          simp only [step, outcome]
          exact accounted
      | ok restocked =>
          simp only [step, outcome]
          exact accounted_restocking accounted (jtReturned_final outcome) fun _ => matched
  | refundRestock replies now =>
      exact accounted_restocking accounted (refundRestock_final state replies now) fun _ => matched
  | others inventory => exact accounted.of_same (SameGoods.refl _) rfl rfl

end

/-- The order and the stock as checkout leaves them. -/
def checkedOut [TextCase] (store : Store) (order : Order) (inventory : Inventory)
    (scans : Nat → Scan) (cart : List CheckoutLine) : Except RouteError StockRun :=
  (debitLines store.tenantId inventory scans cart).map fun debit => {
    store := store
    order := stampDebit order debit.2
    inventory := debit.1 }

theorem accounted_checkedOut [TextCase] {store : Store} {order : Order} {inventory : Inventory}
    {scans : Nat → Scan} {cart : List CheckoutLine} {state : StockRun}
    (placed : checkedOut store order inventory scans cart = .ok state) : state.Accounted := by
  unfold checkedOut at placed
  cases debit : debitLines store.tenantId inventory scans cart with
  | error error => simp [debit, Except.map] at placed
  | ok result =>
      simp only [debit, Except.map, Except.ok.injEq] at placed
      subst placed
      constructor
      · intro _ k
        exact Nat.zero_add _
      · intro k
        constructor
        · exact Nat.zero_le _
        · intro stamped
          cases stamped

end StockRun

/-- Over every run that starts at a checkout, whatever happens to the stock in between, the
restocks conserve the pieces of the manifest as long as each of them is matched. -/
theorem conserved_of_matched [TextCase] {store : Store} {order : Order} {inventory : Inventory}
    {scans : Nat → Scan} {cart : List CheckoutLine} {state : StockRun} {labels : List StockLabel}
    (placed : StockRun.checkedOut store order inventory scans cart = .ok state)
    (matched : Run.Guarded StockRun.step StockRun.Matched state labels) :
    Run.Always StockRun.step StockRun.Conserved state labels := by
  have accounted := Run.always_of_guarded (I := StockRun.Accounted)
    (fun _ _ accounted matched => StockRun.accounted_step accounted matched)
    (StockRun.accounted_checkedOut placed) matched
  exact accounted.mono fun _ accounted => accounted.conserved

def stocked : Inventory where
  products := ⟨[(1, ⟨7, 10, none⟩), (2, ⟨7, 4, none⟩)], by decide⟩
  variants := ⟨[(20, ⟨2, [], 4⟩)], by decide⟩
  levels := .empty

/-- Two pieces of a tracked product and one of a variant whose stock is not tracked. -/
def mixedOrder : Order where
  id := 5
  storeId := 3
  tenantId := some 7
  lineItems := [
    { productId := 1, quantity := 2, unitPrice := 500, totalPrice := 1000, quantity_pos := Numu.Orders.two_pieces },
    { productId := 2, variantId := some 20, unitPrice := 300, totalPrice := 300 }]
  total := 1300
  paymentMethod := some "cod"

def mixedCart : List CheckoutLine :=
  [{ productName := "Shirt", productId := 1, quantity := 2 },
    { productName := "Gift wrap", productId := 2, variantId := some 20, trackInventory := false }]

def quiet : Nat → Reply := fun _ => ⟨.stored, false⟩

def shipping : List StockLabel :=
  [.updateStatus 9 { status := "processing" } quiet 1, .updateStatus 9 { status := "shipped" } quiet 2]

/-- One shirt of two comes back at the door, the other with the refund. -/
theorem conserved_of_matched_shirts :
    letI := TextCase.ascii
    ∃ state, StockRun.checkedOut ⟨3, 9, 7⟩ mixedOrder stocked (fun _ => .stored) mixedCart =
        .ok state ∧
      Run.Always StockRun.step StockRun.Conserved state
        (shipping ++ [.partialAcceptance { lines := [⟨0, 1, by decide⟩] } false quiet 3,
          .refundRestock quiet 4]) := by
  let _ := TextCase.ascii
  refine ⟨_, rfl, ?_⟩
  have placed : StockRun.checkedOut ⟨3, 9, 7⟩ mixedOrder stocked (fun _ => .stored) mixedCart =
      .ok _ := rfl
  apply conserved_of_matched placed
  decide

/-- The gift wrap was never debited, but a partial acceptance puts it on the shelf. -/
theorem untracked_line_put_back :
    letI := TextCase.ascii
    ∃ state, StockRun.checkedOut ⟨3, 9, 7⟩ mixedOrder stocked (fun _ => .stored) mixedCart =
        .ok state ∧
      ¬ Run.Always StockRun.step StockRun.Conserved state
        (shipping ++ [.partialAcceptance { lines := [⟨1, 1, by decide⟩] } false quiet 3]) := by
  let _ := TextCase.ascii
  refine ⟨_, rfl, ?_⟩
  intro always
  have last := always.last (2, some 20)
  exact absurd last.1 (by decide)

end Numu.Stock
