import Mathlib.Logic.Function.Basic
import Numu.Foundation.Json
import Numu.Foundation.Keyed
import Numu.Foundation.Run
import Numu.Foundation.UuidText
import Numu.Orders.Order

/-! The items of a shopping cart and the operations on the cart that holds them. -/

namespace Numu.Carts
open Numu.Orders (UUID Time)
open Numu.UuidText (writeUuid)

structure CartItem where
  productId : UUID
  productName : String
  variantId : Option UUID := none
  variantName : Option String := none
  sku : Option String := none
  quantity : Nat := 1
  unitPrice : Nat := 0
  imageUrl : Option String := none
  weight : Option Rat := none
  categoryId : Option UUID := none
  properties : Json.Fields := []
  quantity_pos : 1 ≤ quantity := by first | exact Numu.Orders.one_piece | decide

/-- The text that a product and a variant of it are found by. -/
def keyText (productId : UUID) : Option UUID → String
  | some variantId => writeUuid productId ++ ":" ++ writeUuid variantId
  | none => writeUuid productId

namespace CartItem

def itemKey (item : CartItem) : String := keyText item.productId item.variantId

/-- The item built anew from the fields that the source passes on. -/
def withQuantity (item : CartItem) (newQuantity : Nat) (counted : 1 ≤ newQuantity) : CartItem where
  productId := item.productId
  productName := item.productName
  variantId := item.variantId
  variantName := item.variantName
  sku := item.sku
  quantity := newQuantity
  unitPrice := item.unitPrice
  imageUrl := item.imageUrl
  weight := item.weight
  properties := item.properties
  quantity_pos := counted

theorem more_pos (item other : CartItem) : 1 ≤ item.quantity + other.quantity :=
  Nat.le_add_right_of_le item.quantity_pos

end CartItem

structure Cart where
  items : List CartItem := []
  discountCode : Option String := none
  updatedAt : Time := 0

namespace Cart

def findItemIndex (cart : Cart) (productId : UUID) (variantId : Option UUID) : Option Nat :=
  Keyed.position? CartItem.itemKey (keyText productId variantId) cart.items

def getItem (cart : Cart) (productId : UUID) (variantId : Option UUID) : Option CartItem :=
  (cart.findItemIndex productId variantId).bind fun index => cart.items[index]?

def addItem (now : Time) (cart : Cart) (item : CartItem) : Cart :=
  match cart.findItemIndex item.productId item.variantId with
  | some index =>
      { cart with
        items := cart.items.modify index fun existing =>
          existing.withQuantity (existing.quantity + item.quantity) (existing.more_pos item)
        updatedAt := now }
  | none => { cart with items := cart.items ++ [item], updatedAt := now }

def removeItem (now : Time) (cart : Cart) (productId : UUID) (variantId : Option UUID) : Cart :=
  match cart.findItemIndex productId variantId with
  | some index => { cart with items := cart.items.eraseIdx index, updatedAt := now }
  | none => cart

def updateItemQuantity (now : Time) (cart : Cart) (productId : UUID) (quantity : Int)
    (variantId : Option UUID) : Except String Cart :=
  match cart.findItemIndex productId variantId with
  | none => .error ("Item with product_id " ++ writeUuid productId ++ " not found in cart")
  | some index =>
      if positive : 1 ≤ quantity.toNat then
        .ok { cart with
          items := cart.items.modify index fun existing =>
            existing.withQuantity quantity.toNat positive
          updatedAt := now }
      else .ok (cart.removeItem now productId variantId)

def clear (now : Time) (cart : Cart) : Cart := { cart with items := [], updatedAt := now }

/-- A code that is there and not empty. -/
def coded (code : Option String) : Bool := (code.getD "") ≠ ""

/-- `now` is when the last of the items is added. -/
def mergeCart (now : Time) (cart other : Cart) : Cart :=
  let merged := other.items.foldl (addItem now) cart
  if coded other.discountCode ∧ ¬coded merged.discountCode then
    { merged with discountCode := other.discountCode }
  else merged

end Cart

inductive CartCall where
  | addItem (item : CartItem)
  | updateItemQuantity (productId : UUID) (quantity : Int) (variantId : Option UUID)
  | removeItem (productId : UUID) (variantId : Option UUID)
  | mergeCart (other : Cart)
  | clear

/-- One call at an instant; what raises leaves the cart as it is. -/
def Cart.call (cart : Cart) : Time × CartCall → Cart
  | (now, .addItem item) => cart.addItem now item
  | (now, .updateItemQuantity productId quantity variantId) =>
      match cart.updateItemQuantity now productId quantity variantId with
      | .ok updated => updated
      | .error _ => cart
  | (now, .removeItem productId variantId) => cart.removeItem now productId variantId
  | (now, .mergeCart other) => cart.mergeCart now other
  | (now, .clear) => cart.clear now

end Numu.Carts

/-!
# What a cart holds

A basket is what a cart is for: at most one item under each product and variant, of which the
operations change nothing but the quantity. A cart follows its basket until the quantity of an item
with a category is written.
-/

namespace Numu.Carts
open Numu.Orders (UUID Time)
open Numu.UuidText (writeUuid)

abbrev ItemKey := UUID × Option UUID

namespace CartItem

def key (item : CartItem) : ItemKey := (item.productId, item.variantId)

/-- The item with another quantity and nothing else changed. -/
def recount (item : CartItem) (quantity : Nat) (counted : 1 ≤ quantity) : CartItem :=
  { item with quantity := quantity, quantity_pos := counted }

theorem key_withQuantity (item : CartItem) (quantity : Nat) (counted : 1 ≤ quantity) :
    (item.withQuantity quantity counted).key = item.key := rfl

/-- Writing a quantity is a recount exactly where there is no category to lose. -/
theorem withQuantity_eq_recount_iff (item : CartItem) (quantity : Nat) (counted : 1 ≤ quantity) :
    item.withQuantity quantity counted = item.recount quantity counted ↔ item.categoryId = none := by
  constructor
  · intro same
    have category := congrArg CartItem.categoryId same
    exact category.symm
  · intro plain
    cases item
    subst plain
    rfl

end CartItem

theorem keyText_injective {first second : ItemKey}
    (same : keyText first.1 first.2 = keyText second.1 second.2) : first = second := by
  have chars := congrArg String.toList same
  obtain ⟨product, variant⟩ := first
  obtain ⟨product', variant'⟩ := second
  have length := UuidText.length_writeUuid
  cases variant with
  | none =>
      cases variant' with
      | none =>
          have products : product = product' := UuidText.writeUuid_injective same
          rw [products]
      | some id =>
          have lengths := congrArg List.length chars
          simp only [keyText, String.toList_append, List.length_append, length] at lengths
          omega
  | some id =>
      cases variant' with
      | none =>
          have lengths := congrArg List.length chars
          simp only [keyText, String.toList_append, List.length_append, length] at lengths
          omega
      | some id' =>
          simp only [keyText, String.toList_append, List.append_assoc] at chars
          obtain ⟨products, rest⟩ := UuidText.writeUuid_split chars
          have variants := String.toList_injective (List.append_cancel_left rest)
          rw [products, UuidText.writeUuid_injective variants]

/-- At most one item under each key. -/
abbrev Basket := ItemKey → Option CartItem

namespace Basket

def addItem (basket : Basket) (item : CartItem) : Basket :=
  Function.update basket item.key <| some <|
    match basket item.key with
    | some kept => kept.recount (kept.quantity + item.quantity) (kept.more_pos item)
    | none => item

def updateItemQuantity (basket : Basket) (key : ItemKey) (quantity : Int) : Basket :=
  match basket key with
  | none => basket
  | some kept =>
      Function.update basket key <|
        if positive : 1 ≤ quantity.toNat then some (kept.recount quantity.toNat positive) else none

def removeItem (basket : Basket) (key : ItemKey) : Basket := Function.update basket key none

def call (basket : Basket) : CartCall → Basket
  | .addItem item => basket.addItem item
  | .updateItemQuantity productId quantity variantId =>
      basket.updateItemQuantity (productId, variantId) quantity
  | .removeItem productId variantId => basket.removeItem (productId, variantId)
  | .mergeCart other => other.items.foldl addItem basket
  | .clear => fun _ => none

/-- How many pieces are under a key. -/
def quantity (basket : Basket) (key : ItemKey) : Nat :=
  ((basket key).map CartItem.quantity).getD 0

/-- Adding accumulates. -/
theorem quantity_addItem (basket : Basket) (item : CartItem) (key : ItemKey) :
    (basket.addItem item).quantity key =
      basket.quantity key + if item.key = key then item.quantity else 0 := by
  rw [quantity, quantity, addItem, Function.update_apply]
  by_cases same : key = item.key
  · rw [if_pos same, if_pos same.symm, same]
    cases basket item.key with
    | none => simp
    | some kept => rfl
  · rw [if_neg same, if_neg (Ne.symm same), Nat.add_zero]

/-- A merge adds, under each key, what the other cart has there. -/
theorem quantity_merge (basket : Basket) (items : List CartItem) (key : ItemKey) :
    (items.foldl addItem basket).quantity key = basket.quantity key +
      ((items.filter fun item => item.key = key).map CartItem.quantity).sum := by
  induction items generalizing basket with
  | nil => rfl
  | cons item items ih =>
      rw [List.foldl_cons, ih, quantity_addItem]
      by_cases same : item.key = key
      · rw [if_pos same, List.filter_cons_of_pos (by simp [same]), List.map_cons, List.sum_cons,
          Nat.add_assoc]
      · rw [if_neg same, List.filter_cons_of_neg (by simp [same]), Nat.add_zero]

/-- Setting a quantity sets it, on what is there. -/
theorem quantity_updateItemQuantity (basket : Basket) (key other : ItemKey) (quantity : Int) :
    (basket.updateItemQuantity key quantity).quantity other =
      if other = key ∧ basket key ≠ none then quantity.toNat else basket.quantity other := by
  rw [Basket.quantity, Basket.quantity, updateItemQuantity]
  cases here : basket key with
  | none => rw [if_neg (by simp)]
  | some kept =>
      dsimp only
      rw [Function.update_apply]
      by_cases same : other = key
      · rw [if_pos same, if_pos ⟨same, by simp⟩]
        split
        · rfl
        · simp
          omega
      · rw [if_neg same, if_neg fun both => same both.1]

end Basket

namespace Cart

/-- No two items have the product and the variant in common. -/
def Distinct (cart : Cart) : Prop := Keyed.Distinct CartItem.key cart.items

/-- What the cart has under each key. -/
def held (cart : Cart) : Basket := fun key => cart.getItem key.1 key.2

theorem findItemIndex_eq (cart : Cart) (key : ItemKey) :
    cart.findItemIndex key.1 key.2 = Keyed.position? CartItem.key key cart.items := by
  rw [findItemIndex, Keyed.position?, Keyed.position?]
  congr 1
  funext item
  have same : item.itemKey = keyText key.1 key.2 ↔ item.key = key :=
    ⟨fun text => keyText_injective text, fun keys => by rw [← keys]; rfl⟩
  exact decide_eq_decide.mpr same

theorem findItemIndex_item (cart : Cart) (item : CartItem) :
    cart.findItemIndex item.productId item.variantId =
      Keyed.position? CartItem.key item.key cart.items :=
  findItemIndex_eq cart item.key

theorem held_eq (cart : Cart) (key : ItemKey) :
    cart.held key = Keyed.held? CartItem.key key cart.items := by
  rw [held, getItem, findItemIndex_eq]
  cases found : Keyed.position? CartItem.key key cart.items with
  | none => rw [Keyed.position?_eq_none.mp found, Option.bind_none]
  | some index => rw [Option.bind_some, Keyed.getElem?_position? found]

theorem held_addItem (cart : Cart) (now : Time) (item : CartItem) :
    (cart.addItem now item).held = Function.update cart.held item.key (some <|
      match cart.held item.key with
      | some existing =>
          existing.withQuantity (existing.quantity + item.quantity) (existing.more_pos item)
      | none => item) := by
  funext key
  rw [Function.update_apply, held_eq, held_eq, held_eq, addItem, findItemIndex_item]
  cases found : Keyed.position? CartItem.key item.key cart.items with
  | none =>
      have fresh := Keyed.position?_eq_none.mp found
      dsimp only
      rw [Keyed.held?_append_new fresh, fresh]
  | some index =>
      dsimp only
      rw [Keyed.held?_modify found fun _ => CartItem.key_withQuantity _ _ _]
      cases there : Keyed.held? CartItem.key item.key cart.items with
      | none => exact absurd (Keyed.position?_eq_none.mpr there) (by rw [found]; exact Option.some_ne_none _)
      | some existing => rfl

theorem held_removeItem {cart : Cart} (distinct : cart.Distinct) (now : Time) (key : ItemKey) :
    (cart.removeItem now key.1 key.2).held = Function.update cart.held key none := by
  funext other
  rw [Function.update_apply, held_eq, held_eq, removeItem, findItemIndex_eq]
  cases found : Keyed.position? CartItem.key key cart.items with
  | none =>
      have absent := Keyed.position?_eq_none.mp found
      dsimp only
      split
      · rename_i same
        rw [same]
        exact absent
      · rfl
  | some index => exact Keyed.held?_eraseIdx found distinct

/-- A quantity is set on the item that is there, or takes it out. -/
theorem held_updateItemQuantity {cart : Cart} (distinct : cart.Distinct) (now : Time) (key : ItemKey)
    (quantity : Int) : (cart.call (now, .updateItemQuantity key.1 quantity key.2)).held =
      match cart.held key with
      | none => cart.held
      | some existing => Function.update cart.held key <|
          if positive : 1 ≤ quantity.toNat then some (existing.withQuantity quantity.toNat positive)
          else none := by
  rw [call, updateItemQuantity, findItemIndex_eq, held_eq]
  cases found : Keyed.position? CartItem.key key cart.items with
  | none => rw [Keyed.position?_eq_none.mp found]
  | some index =>
      cases there : Keyed.held? CartItem.key key cart.items with
      | none => cases found.symm.trans (Keyed.position?_eq_none.mpr there)
      | some existing =>
          dsimp only
          by_cases positive : 1 ≤ quantity.toNat
          · rw [dif_pos positive, dif_pos positive]
            funext other
            rw [Function.update_apply, held_eq, held_eq,
              Keyed.held?_modify found fun _ => CartItem.key_withQuantity _ _ _, there, Option.map_some]
          · rw [dif_neg positive, dif_neg positive]
            exact held_removeItem distinct now key

theorem held_clear (cart : Cart) (now : Time) : (cart.clear now).held = fun _ => none := by
  funext key
  rw [held_eq]
  rfl

/-- The code of a discount is none of the items. -/
theorem held_mergeCart (cart other : Cart) (now : Time) :
    (cart.mergeCart now other).held = (other.items.foldl (addItem now) cart).held := by
  rw [mergeCart]
  split
  · rfl
  · rfl

theorem Distinct.addItem {cart : Cart} (distinct : cart.Distinct) (now : Time) (item : CartItem) :
    (cart.addItem now item).Distinct := by
  rw [Cart.addItem, findItemIndex_item]
  cases found : Keyed.position? CartItem.key item.key cart.items with
  | none => exact Keyed.Distinct.append_new distinct (Keyed.position?_eq_none.mp found)
  | some index => exact Keyed.Distinct.modify distinct index fun _ => CartItem.key_withQuantity _ _ _

theorem Distinct.removeItem {cart : Cart} (distinct : cart.Distinct) (now : Time) (key : ItemKey) :
    (cart.removeItem now key.1 key.2).Distinct := by
  rw [Cart.removeItem, findItemIndex_eq]
  cases Keyed.position? CartItem.key key cart.items with
  | none => exact distinct
  | some index => exact Keyed.Distinct.eraseIdx distinct index

theorem Distinct.updateItemQuantity {cart : Cart} (distinct : cart.Distinct) (now : Time)
    (key : ItemKey) (quantity : Int) :
    (cart.call (now, .updateItemQuantity key.1 quantity key.2)).Distinct := by
  rw [call, Cart.updateItemQuantity, findItemIndex_eq]
  cases Keyed.position? CartItem.key key cart.items with
  | none => exact distinct
  | some index =>
      by_cases positive : 1 ≤ quantity.toNat
      · dsimp only
        rw [dif_pos positive]
        exact Keyed.Distinct.modify distinct index fun _ => CartItem.key_withQuantity _ _ _
      · dsimp only
        rw [dif_neg positive]
        exact distinct.removeItem now key

theorem Distinct.addItems {cart : Cart} (distinct : cart.Distinct) (now : Time)
    (items : List CartItem) : (items.foldl (Cart.addItem now) cart).Distinct := by
  induction items generalizing cart with
  | nil => exact distinct
  | cons item items ih => exact ih (distinct.addItem now item)

/-- No call puts a key into the cart twice. -/
theorem Distinct.call {cart : Cart} (distinct : cart.Distinct) (call : Time × CartCall) :
    (cart.call call).Distinct := by
  obtain ⟨now, call⟩ := call
  cases call with
  | addItem item => exact distinct.addItem now item
  | updateItemQuantity productId quantity variantId =>
      exact distinct.updateItemQuantity now (productId, variantId) quantity
  | removeItem productId variantId => exact distinct.removeItem now (productId, variantId)
  | mergeCart other =>
      rw [Cart.call, Cart.mergeCart]
      split
      · exact distinct.addItems now other.items
      · exact distinct.addItems now other.items
  | clear => exact List.nodup_nil

end Cart

end Numu.Carts

/-! Sequences of calls on a cart, beside the basket that the cart is meant to be. -/

namespace Numu.Carts
open Numu.Orders (UUID Time)

/-- The item under the key, if any, has no category that writing its quantity would lose. -/
def Cart.Plain (cart : Cart) (key : ItemKey) : Prop :=
  ∀ item, cart.held key = some item → item.categoryId = none

/-- The call writes the quantity of no item with a category. -/
def Cart.Spares (cart : Cart) : Time × CartCall → Prop
  | (_, .addItem item) => cart.Plain item.key
  | (_, .updateItemQuantity productId quantity variantId) =>
      0 < quantity → cart.Plain (productId, variantId)
  | (now, .mergeCart other) =>
      Run.Guarded (Cart.addItem now) (fun cart item => cart.Plain item.key) cart other.items
  | (_, .removeItem _ _) | (_, .clear) => True

/-- A cart and the basket that its calls spell out. -/
structure Shopping where
  cart : Cart
  basket : Basket

namespace Shopping

def start (cart : Cart) : Shopping := ⟨cart, cart.held⟩

def step (shopping : Shopping) (call : Time × CartCall) : Shopping :=
  ⟨shopping.cart.call call, shopping.basket.call call.2⟩

/-- No key is there twice, and under each is the item that was added, in the quantity that the
calls come to. -/
structure Follows (shopping : Shopping) : Prop where
  distinct : shopping.cart.Distinct
  held : shopping.cart.held = shopping.basket

end Shopping

/-- An item that was counted again is the one that was added exactly if it had no category. -/
theorem held_addItem_iff (cart : Cart) (now : Time) (item : CartItem) :
    (cart.addItem now item).held = cart.held.addItem item ↔ cart.Plain item.key := by
  rw [Cart.held_addItem, Basket.addItem]
  cases there : cart.held item.key with
  | none => exact iff_of_true rfl fun _ found => by cases there.symm.trans found
  | some existing =>
      dsimp only
      constructor
      · intro same found mem
        have here := congrFun same item.key
        rw [Function.update_self, Function.update_self, Option.some.injEq] at here
        rw [Option.some.inj (mem.symm.trans there)]
        exact (CartItem.withQuantity_eq_recount_iff _ _ _).mp here
      · intro plain
        rw [(CartItem.withQuantity_eq_recount_iff _ _ _).mpr (plain existing there)]

/-- A key under which the cart has lost a category. -/
def Astray (cart : Cart) (basket : Basket) : Prop :=
  ∃ key item kept, cart.held key = some item ∧ basket key = some kept ∧
    item.categoryId = none ∧ kept.categoryId ≠ none

theorem astray_addItem {cart : Cart} {item : CartItem} (categorised : ¬cart.Plain item.key)
    (now : Time) :
    Astray (cart.addItem now item) (cart.held.addItem item) := by
  rw [Cart.Plain] at categorised
  push Not at categorised
  obtain ⟨existing, there, category⟩ := categorised
  refine ⟨item.key, existing.withQuantity _ (existing.more_pos item),
    existing.recount _ (existing.more_pos item), ?_, ?_, rfl, category⟩
  · rw [Cart.held_addItem, Function.update_self, there]
  · rw [Basket.addItem, Function.update_self, there]

/-- What is lost does not come back as items are added. -/
theorem Astray.addItem {cart : Cart} {basket : Basket} (astray : Astray cart basket) (now : Time)
    (item : CartItem) : Astray (cart.addItem now item) (basket.addItem item) := by
  obtain ⟨key, found, kept, there, there', lost, category⟩ := astray
  by_cases same : key = item.key
  · subst same
    refine ⟨item.key, found.withQuantity _ (found.more_pos item),
      kept.recount _ (kept.more_pos item), ?_, ?_, rfl, category⟩
    · rw [Cart.held_addItem, Function.update_self, there]
    · rw [Basket.addItem, Function.update_self, there']
  · refine ⟨key, found, kept, ?_, ?_, lost, category⟩
    · rw [Cart.held_addItem, Function.update_of_ne same, there]
    · rw [Basket.addItem, Function.update_of_ne same, there']

theorem Astray.addItems {cart : Cart} {basket : Basket} (astray : Astray cart basket) (now : Time)
    (items : List CartItem) :
    Astray (items.foldl (Cart.addItem now) cart) (items.foldl Basket.addItem basket) := by
  induction items generalizing cart basket with
  | nil => exact astray
  | cons item items ih => exact ih (astray.addItem now item)

theorem Astray.held_ne {cart : Cart} {basket : Basket} (astray : Astray cart basket) :
    cart.held ≠ basket := by
  intro same
  obtain ⟨key, found, kept, there, there', lost, category⟩ := astray
  rw [same, there', Option.some.injEq] at there
  rw [there] at category
  exact category lost

theorem held_addItems_iff (cart : Cart) (now : Time) (items : List CartItem) :
    (items.foldl (Cart.addItem now) cart).held = items.foldl Basket.addItem cart.held ↔
      Run.Guarded (Cart.addItem now) (fun cart item => cart.Plain item.key) cart items := by
  induction items generalizing cart with
  | nil => exact iff_of_true rfl trivial
  | cons item items ih =>
      rw [List.foldl_cons, List.foldl_cons, Run.Guarded]
      by_cases plain : cart.Plain item.key
      · rw [← (held_addItem_iff cart now item).mpr plain, ih, and_iff_right plain]
      · have astray := (astray_addItem plain now).addItems now items
        exact iff_of_false astray.held_ne fun both => plain both.1

/-- After a call the cart holds what its basket does exactly if the call spared it. -/
theorem held_call_iff {cart : Cart} (distinct : cart.Distinct) (call : Time × CartCall) :
    (cart.call call).held = cart.held.call call.2 ↔ cart.Spares call := by
  obtain ⟨now, call⟩ := call
  cases call with
  | addItem item => exact held_addItem_iff cart now item
  | updateItemQuantity productId quantity variantId =>
      rw [Cart.held_updateItemQuantity distinct now (productId, variantId) quantity]
      rw [Basket.call, Basket.updateItemQuantity, Cart.Spares]
      cases there : cart.held (productId, variantId) with
      | none => exact iff_of_true rfl fun _ _ found => by cases there.symm.trans found
      | some existing =>
          dsimp only
          by_cases positive : 1 ≤ quantity.toNat
          · rw [dif_pos positive, dif_pos positive]
            have counted : 0 < quantity := by omega
            constructor
            · intro same _ found mem
              have here := congrFun same (productId, variantId)
              rw [Function.update_self, Function.update_self, Option.some.injEq] at here
              rw [Option.some.inj (mem.symm.trans there)]
              exact (CartItem.withQuantity_eq_recount_iff _ _ _).mp here
            · intro plain
              rw [(CartItem.withQuantity_eq_recount_iff _ _ _).mpr (plain counted existing there)]
          · rw [dif_neg positive, dif_neg positive]
            exact iff_of_true rfl fun counted => by omega
  | removeItem productId variantId =>
      exact iff_of_true (Cart.held_removeItem distinct now (productId, variantId)) trivial
  | mergeCart other =>
      rw [Cart.call, Cart.held_mergeCart]
      exact held_addItems_iff cart now other.items
  | clear => exact iff_of_true (Cart.held_clear cart now) trivial

/-- Beside a basket that it follows, a cart follows it through a call that spares the categories
and through no other. -/
theorem follows_step_iff {shopping : Shopping} (follows : shopping.Follows)
    (call : Time × CartCall) : (shopping.step call).Follows ↔ shopping.cart.Spares call := by
  rw [← held_call_iff follows.distinct call, follows.held]
  exact ⟨Shopping.Follows.held, fun same => ⟨follows.distinct.call call, same⟩⟩

/-- Through any calls a cart has each key once and, under it, the item as it was added in the
quantity that the calls come to, exactly as long as no call writes the quantity of an item with a
category. -/
theorem cart_follows_iff (cart : Cart) (distinct : cart.Distinct) (calls : List (Time × CartCall)) :
    Run.Always Shopping.step Shopping.Follows (.start cart) calls ↔
      Run.Guarded Shopping.step (fun shopping call => shopping.cart.Spares call)
        (.start cart) calls := by
  apply Run.always_iff_guarded (I := Shopping.Follows)
  · intro shopping call follows spared
    exact (follows_step_iff follows call).mpr spared
  · exact fun _ follows => follows
  · intro shopping call follows later
    exact (follows_step_iff follows call).mp later
  · exact ⟨distinct, rfl⟩

/-- One item of a product that is in a category, or in none. -/
def oneMug (categoryId : Option UUID) : CartItem where
  productId := 7
  productName := "Mug"
  unitPrice := 1500
  categoryId := categoryId

theorem held_oneMug (categoryId : Option UUID) (now : Time) :
    (Cart.addItem now {} (oneMug categoryId)).held (oneMug categoryId).key =
      some (oneMug categoryId) := by
  rw [Cart.held_addItem, Function.update_self, Cart.held_eq]
  rfl

/-- A mug of no category can be put into the cart twice. -/
theorem plain_mug_follows : Run.Always Shopping.step Shopping.Follows (.start {})
    [(0, .addItem (oneMug none)), (1, .addItem (oneMug none))] := by
  apply (cart_follows_iff {} List.nodup_nil _).mpr
  refine ⟨?_, ?_, trivial⟩
  · intro item found
    rw [Shopping.start, Cart.held_eq] at found
    cases found
  · intro item found
    cases (held_oneMug none 0).symm.trans found
    rfl

/-- The same mug put into the cart twice is no longer in its category. -/
theorem mug_loses_category : ¬Run.Always Shopping.step Shopping.Follows (.start {})
    [(0, .addItem (oneMug (some 9))), (1, .addItem (oneMug (some 9)))] := by
  intro always
  have spared := (follows_step_iff always.2.1 (1, .addItem (oneMug (some 9)))).mp always.2.2
  have category := spared _ (held_oneMug (some 9) 0)
  cases category

end Numu.Carts
