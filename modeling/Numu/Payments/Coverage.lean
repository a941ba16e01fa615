import Mathlib.Data.NNRat.Lemmas
import Numu.Foundation.Run
import Numu.Orders.OrderRepository
import Numu.Payments.Webhooks

/-! Runs of payment callbacks, and the money they report for an order. -/

namespace Numu.Payments
open Numu.Orders
open Numu.Outcome (bind_eq_ok)
open Numu.Stock (Inventory Reply TextCase)

inductive Callback where
  | paymob (callback : PaymobCallback)
  | kashier (callback : KashierCallback)
  | fawry (callback : FawryCallback)

/-- The branch of the payment code a callback reaches on an order. -/
inductive Branch where
  | nothing
  | deposit
  | full
  deriving DecidableEq

namespace Callback

def resolve (orders : OrderRows) : Callback → Except String (Option (UUID × Order))
  | paymob callback => resolveOrder orders callback.merchantOrderId callback.paymobOrderId
  | kashier callback => resolveOrder orders callback.merchantOrderId none
  | fawry callback => resolveOrder orders none callback.merchantRefNumber

def process [TextCase] (inv : Inventory) (replies : Nat → Reply) (order : Order) (now : Time) :
    Callback → Processed
  | paymob callback => paymobCallback inv replies order callback now
  | kashier callback => kashierCallback inv order callback now
  | fawry callback => fawryCallback inv replies order callback now

/-- The handler behind the checks. -/
def event [TextCase] (inv : Inventory) (replies : Nat → Reply) (order : Order) (now : Time) :
    Callback → Except String (Inventory × Order)
  | paymob callback => paymobEvent inv replies order callback now
  | kashier callback => kashierEvent inv order callback now
  | fawry callback => fawryEvent inv replies order callback now

/-- The cents a success callback reports as paid. -/
def paidCents : Callback → ℚ≥0
  | paymob callback =>
      if callback.success && !callback.isRefunded && !callback.isVoided then callback.amountCents
      else 0
  | kashier callback => if callback.paymentStatus = .success then callback.amount * 100 else 0
  | fawry callback => if callback.orderStatus = .paid then callback.paymentAmount * 100 else 0

/-- The callback passes the checks that come before any write. -/
def accepted (order : Order) : Callback → Bool
  | paymob callback =>
      callback.verified &&
        strOf order.metadata.paymobOrderId = strOf callback.paymobOrderId &&
        !duplicate callback.transactionId callback.fresh
  | kashier callback => callback.verified && !duplicate callback.transactionId callback.fresh
  | fawry callback => callback.passes

def entityBranch (order : Order) : Branch :=
  if order.paysDeposit then .deposit else .full

def branch (order : Order) : Callback → Branch
  | paymob callback =>
      if callback.success && !callback.isRefunded && !callback.isVoided then entityBranch order
      else .nothing
  | kashier callback =>
      if callback.paymentStatus = .success then entityBranch order else .nothing
  | fawry callback =>
      if callback.orderStatus = .paid ∧ order.status ∈ paidValidPrior then
        if order.status = .pendingDeposit then .deposit else .full
      else .nothing

end Callback

/-- What the branch does to the payment state. -/
def Branch.Effect (before after : Order) : Branch → Prop
  | .nothing => (after.paymentStatus = .paid → before.paymentStatus = .paid) ∧
      after.depositPaidAt = before.depositPaidAt
  | .deposit => after.paymentStatus = before.paymentStatus ∧ after.depositPaidAt.isSome
  | .full => after.paymentStatus = .paid ∧ after.depositPaidAt = before.depositPaidAt

theorem sameMoney_effect {before after : Order} (money : SameMoney before after) :
    Branch.nothing.Effect before after :=
  ⟨fun paid => money.payment.symm.trans paid, money.deposit⟩

theorem settled_effect {before after : Order} {now : Time} (settled : Settled before after now) :
    (Callback.entityBranch before).Effect before after := by
  unfold Settled at settled
  unfold Callback.entityBranch
  cases deposit : before.paysDeposit with
  | true =>
      rw [deposit, if_pos rfl] at settled
      exact ⟨settled.1, by simp [settled.2]⟩
  | false =>
      rw [deposit] at settled
      exact settled

/-- A call that leaves the payment failed takes no payment branch. -/
theorem failed_effect {before after : Order} (failed : after.paymentStatus = .failed)
    (deposit : after.depositPaidAt = before.depositPaidAt) : Branch.nothing.Effect before after :=
  ⟨fun paid => (by rw [failed] at paid; cases paid), deposit⟩

theorem markPaymentFailed_effect (order : Order) (reason : Option String) (now : Time) :
    SameAmounts order (order.markPaymentFailed reason now) ∧
      Branch.nothing.Effect order (order.markPaymentFailed reason now) :=
  ⟨⟨rfl, rfl⟩, fun paid => by simp [Order.markPaymentFailed, Order.touch] at paid, rfl⟩

section
variable {inv after : Inventory} {replies : Nat → Reply} {order row : Order} {now : Time}

theorem kashierEvent_effect {callback : KashierCallback}
    (ok : kashierEvent inv order callback now = .ok (after, row)) :
    SameAmounts order row ∧ ((Callback.kashier callback).branch order).Effect order row := by
  unfold kashierEvent at ok
  simp only [Callback.branch]
  cases status : callback.paymentStatus with
  | success =>
      simp only [status] at ok
      obtain ⟨changed, step, same⟩ := bind_eq_ok.mp ok
      cases same
      obtain ⟨paid, recorded, amounts, settled⟩ :=
        markAsPaid_money order callback.paymentId (some "kashier") now
      rw [recorded] at step
      cases step
      exact ⟨⟨amounts.collectible, amounts.required⟩, settled_effect settled⟩
  | failed =>
      simp only [status] at ok
      cases ok
      obtain ⟨amounts, effect⟩ := markPaymentFailed_effect order (some callback.errorMessage) now
      exact ⟨⟨amounts.collectible, amounts.required⟩, effect⟩
  | other =>
      simp only [status] at ok
      cases ok
      exact ⟨⟨rfl, rfl⟩, fun paid => paid, rfl⟩

theorem handlePaid_effect (order : Order) (callback : FawryCallback)
    (paid : callback.orderStatus = .paid) (now : Time) :
    SameAmounts order (handlePaid order callback now) ∧
      ((Callback.fawry callback).branch order).Effect order (handlePaid order callback now) := by
  simp only [Callback.branch, paid, true_and, handlePaid]
  by_cases prior : order.status ∈ paidValidPrior
  · by_cases waiting : order.status = .pendingDeposit
    · simp only [waiting, if_true]
      exact ⟨⟨rfl, rfl⟩, rfl, rfl⟩
    · simp only [prior, waiting, not_true, if_true, if_false]
      exact ⟨⟨rfl, rfl⟩, rfl, rfl⟩
  · simp only [prior, not_false_eq_true, if_true, if_false]
    exact ⟨⟨rfl, rfl⟩, fun already => already, rfl⟩

theorem handleRefunded_effect (order : Order) (callback : FawryCallback) (now : Time) :
    SameAmounts order (handleRefunded order callback now) ∧
      Branch.nothing.Effect order (handleRefunded order callback now) := by
  unfold handleRefunded
  split
  · exact ⟨⟨rfl, rfl⟩, fun paid => paid, rfl⟩
  · exact ⟨⟨rfl, rfl⟩, fun paid => (by cases paid), rfl⟩

variable [TextCase]

theorem process_ok_iff {callback : Callback} :
    callback.process inv replies order now = .ok (some (after, row)) ↔
      callback.accepted order = true ∧ callback.event inv replies order now = .ok (after, row) := by
  cases callback with
  | paymob callback =>
      simp only [Callback.process, Callback.event, Callback.accepted, paymobCallback]
      by_cases verified : callback.verified = true <;>
        by_cases same : strOf order.metadata.paymobOrderId = strOf callback.paymobOrderId <;>
          by_cases twice : duplicate callback.transactionId callback.fresh = true <;>
            simp [verified, same, twice, map_some_ok]
  | kashier callback =>
      simp only [Callback.process, Callback.event, Callback.accepted, kashierCallback]
      by_cases verified : callback.verified = true <;>
        by_cases twice : duplicate callback.transactionId callback.fresh = true <;>
          simp [verified, twice, map_some_ok]
  | fawry callback => exact fawryCallback_ok_iff

theorem paymobEvent_effect {callback : PaymobCallback}
    (ok : paymobEvent inv replies order callback now = .ok (after, row)) :
    SameAmounts order row ∧ ((Callback.paymob callback).branch order).Effect order row := by
  unfold paymobEvent at ok
  simp only [Callback.branch]
  split at ok
  · rename_i refunded
    obtain ⟨changed, step, same⟩ := bind_eq_ok.mp ok
    cases same
    obtain ⟨amounts, payment, deposit⟩ := refund_money step
    refine ⟨⟨amounts.collectible, amounts.required⟩, ?_⟩
    simp only [refunded, Bool.not_true, Bool.and_false, Bool.false_and, Bool.false_eq_true, if_false]
    refine ⟨fun paid => ?_, deposit⟩
    have : changed.paymentStatus = .paid := paid
    rw [payment] at this
    cases this
  · rename_i notRefunded
    split at ok
    · rename_i voided
      have money : SameMoney order row := by
        split at ok
        · obtain ⟨cancelled, step, same⟩ := bind_eq_ok.mp ok
          cases same
          exact ((sameMoney_cancel step).trans (sameMoney_restock inv replies cancelled _ now)).trans
            (sameMoney_update order _ now)
        · cases ok
          exact .refl order
      simp only [voided, Bool.not_true, Bool.and_false, Bool.false_eq_true, if_false]
      exact ⟨money.toSameAmounts, sameMoney_effect money⟩
    · rename_i notVoided
      split at ok
      · rename_i success
        obtain ⟨changed, step, same⟩ := bind_eq_ok.mp ok
        cases same
        obtain ⟨paid, recorded, amounts, settled⟩ :=
          markAsPaid_money order (strOf callback.transactionId) (some "paymob") now
        rw [recorded] at step
        cases step
        simp only [success, notRefunded, notVoided, Bool.not_false, Bool.and_true, if_true]
        exact ⟨⟨amounts.collectible, amounts.required⟩, settled_effect settled⟩
      · rename_i failure
        cases ok
        simp only [failure, Bool.false_and, Bool.false_eq_true, if_false]
        obtain ⟨amounts, effect⟩ := markPaymentFailed_effect order (some callback.errorMessage) now
        exact ⟨⟨amounts.collectible, amounts.required⟩, effect⟩

theorem releaseInventory_money
    (ok : releaseInventory inv replies order now = .ok (after, row)) : SameMoney order row := by
  unfold releaseInventory at ok
  split at ok
  · split at ok
    · cases ok
      exact .refl order
    · split at ok
      · cases ok
      · cases ok
        exact ⟨⟨rfl, rfl⟩, rfl, rfl⟩
  · cases ok
    exact .refl order

theorem handleExpired_effect (ok : handleExpired inv replies order now = .ok (after, row)) :
    SameAmounts order row ∧ Branch.nothing.Effect order row := by
  unfold handleExpired at ok
  split at ok
  · cases ok
    exact ⟨⟨rfl, rfl⟩, fun paid => paid, rfl⟩
  · have money := releaseInventory_money ok
    exact ⟨⟨money.collectible, money.required⟩, failed_effect money.payment money.deposit⟩

theorem handleCanceled_effect (ok : handleCanceled inv replies order now = .ok (after, row)) :
    SameAmounts order row ∧ Branch.nothing.Effect order row := by
  unfold handleCanceled at ok
  split at ok
  · cases ok
    exact ⟨⟨rfl, rfl⟩, fun paid => paid, rfl⟩
  · obtain ⟨⟨released, stamped⟩, step, same⟩ := bind_eq_ok.mp ok
    cases same
    have money := releaseInventory_money step
    exact ⟨⟨money.collectible, money.required⟩, failed_effect money.payment money.deposit⟩

theorem fawryEvent_effect {callback : FawryCallback}
    (ok : fawryEvent inv replies order callback now = .ok (after, row)) :
    SameAmounts order row ∧ ((Callback.fawry callback).branch order).Effect order row := by
  unfold fawryEvent at ok
  cases status : callback.orderStatus with
  | paid =>
      simp only [status] at ok
      cases ok
      exact handlePaid_effect order callback status now
  | expired =>
      simp only [status] at ok
      simpa [Callback.branch, status] using handleExpired_effect ok
  | canceled =>
      simp only [status] at ok
      simpa [Callback.branch, status] using handleCanceled_effect ok
  | refunded =>
      simp only [status] at ok
      cases ok
      simpa [Callback.branch, status] using handleRefunded_effect order callback now
  | new =>
      simp only [status] at ok
      cases ok
      simpa [Callback.branch, status] using And.intro (SameMoney.refl order).toSameAmounts (sameMoney_effect (.refl order))
  | unknown =>
      simp only [status] at ok
      cases ok
      simpa [Callback.branch, status] using And.intro (SameMoney.refl order).toSameAmounts (sameMoney_effect (.refl order))

theorem event_effect {callback : Callback}
    (ok : callback.event inv replies order now = .ok (after, row)) :
    SameAmounts order row ∧ (callback.branch order).Effect order row := by
  cases callback with
  | paymob callback => exact paymobEvent_effect ok
  | kashier callback => exact kashierEvent_effect ok
  | fawry callback => exact fawryEvent_effect ok

/-- A callback that reaches a payment branch is never turned down afterwards. -/
theorem event_isOk {callback : Callback} (inv : Inventory) (replies : Nat → Reply) (order : Order)
    (now : Time) (settles : callback.branch order ≠ .nothing) :
    ∃ result, callback.event inv replies order now = .ok result := by
  cases callback with
  | paymob callback =>
      simp only [Callback.branch] at settles
      split at settles
      · rename_i flags
        simp only [Bool.and_eq_true, Bool.not_eq_true'] at flags
        obtain ⟨⟨success, refunded⟩, voided⟩ := flags
        obtain ⟨paid, recorded, -⟩ :=
          markAsPaid_money order (strOf callback.transactionId) (some "paymob") now
        simp only [Callback.event, paymobEvent, success, refunded, voided, Bool.false_eq_true,
          if_false, if_true]
        exact ⟨_, bind_eq_ok.mpr ⟨paid, recorded, rfl⟩⟩
      · exact absurd rfl settles
  | kashier callback =>
      simp only [Callback.branch] at settles
      split at settles
      · rename_i status
        obtain ⟨paid, recorded, -⟩ :=
          markAsPaid_money order callback.paymentId (some "kashier") now
        simp only [Callback.event, kashierEvent, status]
        exact ⟨_, bind_eq_ok.mpr ⟨paid, recorded, rfl⟩⟩
      · exact absurd rfl settles
  | fawry callback =>
      simp only [Callback.branch] at settles
      split at settles
      · rename_i status
        simp only [Callback.event, fawryEvent, status.1]
        exact ⟨_, rfl⟩
      · exact absurd rfl settles

end

structure Delivery where
  callback : Callback
  replies : Nat → Reply
  now : Time

structure Shop where
  inventory : Inventory
  orders : OrderRows
  /-- The cents that accepted callbacks have reported as paid, by order. -/
  reported : UUID → ℚ≥0

def record [TextCase] (shop : Shop) (delivery : Delivery) (id : UUID) (order : Order) : Shop :=
  match delivery.callback.process shop.inventory delivery.replies order delivery.now with
  | .ok (some (inventory, row)) =>
      { inventory := inventory
        orders := shop.orders.modify id fun _ => row
        reported := fun other => if other = id then
            shop.reported id + delivery.callback.paidCents else shop.reported other }
  | _ => shop

/-- One delivery: the order is looked up, the callback processed, the row stored. -/
def step [TextCase] (shop : Shop) (delivery : Delivery) : Shop :=
  match delivery.callback.resolve shop.orders with
  | .ok (some (id, order)) => record shop delivery id order
  | _ => shop

def depositRequired (order : Order) : Int :=
  order.depositRequiredCents.getD 0

/-- The order is paid, and its deposit is, only for money that was reported. -/
def Covered (reported : ℚ≥0) (order : Order) : Prop :=
  (order.paymentStatus = .paid → (order.collectibleTotal : ℚ) ≤ reported) ∧
    (order.depositPaidAt.isSome → (depositRequired order : ℚ) ≤ reported)

/-- The amount is enough for the branch the callback reaches. -/
def Suffices (reported : ℚ≥0) (order : Order) : Branch → Prop
  | .nothing => True
  | .deposit => (depositRequired order : ℚ) ≤ reported
  | .full => (order.collectibleTotal : ℚ) ≤ reported

def AmountSuffices (target : UUID) (shop : Shop) (delivery : Delivery) : Prop :=
  ∀ order, delivery.callback.resolve shop.orders = .ok (some (target, order)) →
    delivery.callback.accepted order = true →
    Suffices (shop.reported target + delivery.callback.paidCents) order
      (delivery.callback.branch order)

theorem getById_stored {orders : OrderRows} {key id : UUID} {order : Order}
    (found : OrderRepository.getById orders key = some (id, order)) :
    orders.get? id = some order := by
  obtain ⟨row, present, same⟩ := Option.map_eq_some_iff.mp found
  cases same
  exact present

theorem getByPaymentId_stored {orders : OrderRows} {paymentId : String} {id : UUID}
    {order : Order} (found : OrderRepository.getByPaymentId orders paymentId = .ok (some (id, order))) :
    orders.get? id = some order := by
  unfold OrderRepository.getByPaymentId at found
  split at found
  · cases found
  · rename_i row only
    cases found
    have member : (id, order) ∈ orders.rows.filter fun row => row.2.paymentId = some paymentId := by
      simp [only]
    exact (Table.get?_eq_some_iff _ _ _).mpr (List.mem_filter.mp member).1
  · cases found

theorem resolveOrder_stored {orders : OrderRows} {merchantOrderId gatewayOrderId : Option String}
    {id : UUID} {order : Order}
    (found : resolveOrder orders merchantOrderId gatewayOrderId = .ok (some (id, order))) :
    orders.get? id = some order := by
  unfold resolveOrder at found
  split at found
  · cases found
  · rename_i row first
    cases found
    unfold byMerchantOrderId at first
    split at first
    · simp only at first
      split at first
      · rename_i known
        cases first
        obtain ⟨key, -, hit⟩ := Option.bind_eq_some_iff.mp known
        exact getById_stored hit
      · exact getByPaymentId_stored first
    · cases first
  · unfold byGatewayOrderId at found
    split at found
    · exact getByPaymentId_stored found
    · cases found

theorem resolve_stored {callback : Callback} {orders : OrderRows} {id : UUID} {order : Order}
    (found : callback.resolve orders = .ok (some (id, order))) : orders.get? id = some order := by
  cases callback <;> simp only [Callback.resolve] at found <;> exact resolveOrder_stored found

theorem Covered.weaken {reported : ℚ≥0} {order : Order} (covered : Covered reported order)
    (amount : ℚ≥0) : Covered (reported + amount) order := by
  have grows : (reported : ℚ) ≤ ((reported + amount : ℚ≥0) : ℚ) := by
    rw [NNRat.coe_add]
    exact le_add_of_nonneg_right amount.coe_nonneg
  exact ⟨fun paid => (covered.1 paid).trans grows, fun deposit => (covered.2 deposit).trans grows⟩

theorem covered_of_effect {reported amount : ℚ≥0} {order row : Order} {branch : Branch}
    (covered : Covered reported order) (amounts : SameAmounts order row)
    (effect : branch.Effect order row) (enough : Suffices (reported + amount) order branch) :
    Covered (reported + amount) row := by
  have weak := covered.weaken amount
  have required : depositRequired row = depositRequired order := by
    rw [depositRequired, amounts.required]
    rfl
  unfold Covered
  rw [amounts.collectible, required]
  cases branch with
  | nothing =>
      obtain ⟨payment, deposit⟩ := effect
      rw [deposit]
      exact ⟨fun paid => weak.1 (payment paid), weak.2⟩
  | deposit =>
      obtain ⟨payment, -⟩ := effect
      rw [payment]
      exact ⟨weak.1, fun _ => enough⟩
  | full =>
      obtain ⟨-, deposit⟩ := effect
      rw [deposit]
      exact ⟨fun _ => enough, weak.2⟩

theorem suffices_of_covered {reported : ℚ≥0} {order row : Order} {branch : Branch}
    (covered : Covered reported row) (amounts : SameAmounts order row)
    (effect : branch.Effect order row) : Suffices reported order branch := by
  have required : depositRequired row = depositRequired order := by
    rw [depositRequired, amounts.required]
    rfl
  unfold Covered at covered
  rw [amounts.collectible, required] at covered
  cases branch with
  | nothing => trivial
  | deposit => exact covered.2 effect.2
  | full => exact covered.1 effect.1

section
variable [TextCase]

/-- What one delivery does to the target order and to the money reported for it. -/
theorem step_target (target : UUID) (shop : Shop) (delivery : Delivery) :
    (step shop delivery).orders.get? target = shop.orders.get? target ∧
        (step shop delivery).reported target = shop.reported target ∨
      ∃ order row, delivery.callback.resolve shop.orders = .ok (some (target, order)) ∧
        shop.orders.get? target = some order ∧
        delivery.callback.accepted order = true ∧
        (step shop delivery).orders.get? target = some row ∧
        (step shop delivery).reported target =
          shop.reported target + delivery.callback.paidCents ∧
        SameAmounts order row ∧ (delivery.callback.branch order).Effect order row := by
  unfold step
  split
  · rename_i id order found
    unfold record
    split
    · rename_i inventory row processed
      by_cases same : target = id
      · right
        subst same
        have stored := resolve_stored found
        obtain ⟨accepted, event⟩ := process_ok_iff.mp processed
        obtain ⟨amounts, effect⟩ := event_effect event
        exact ⟨order, row, found, stored, accepted, by simp [stored], by simp, amounts, effect⟩
      · left
        exact ⟨Table.get?_modify_of_ne _ _ same, if_neg same⟩
    · exact .inl ⟨rfl, rfl⟩
  · exact .inl ⟨rfl, rfl⟩

/-- Nothing the order owes has been marked paid yet. -/
def Unsettled (order : Order) : Prop :=
  order.paymentStatus ≠ .paid ∧ order.depositPaidAt = none

def TargetCovered (target : UUID) (shop : Shop) : Prop :=
  ∀ order, shop.orders.get? target = some order → Covered (shop.reported target) order

/-- Along a run of callbacks from an unsettled order, the order is paid and its
deposit is only for reported money exactly when every callback that reaches a
payment branch brings the reported sum up to what that branch settles. -/
theorem covered_iff_amounts_suffice (target : UUID) (shop : Shop)
    (unsettled : ∀ order, shop.orders.get? target = some order → Unsettled order)
    (deliveries : List Delivery) :
    Run.Always step (TargetCovered target) shop deliveries ↔
      Run.Guarded step (AmountSuffices target) shop deliveries := by
  apply Run.always_iff_guarded (I := TargetCovered target)
  · intro shop delivery covered enough
    rcases step_target target shop delivery with ⟨orders, reported⟩ |
      ⟨order, row, resolved, stored, accepted, orders, reported, amounts, effect⟩
    · unfold TargetCovered
      rw [orders, reported]
      exact covered
    · intro current present
      rw [orders, Option.some.injEq] at present
      subst present
      rw [reported]
      exact covered_of_effect (covered order stored) amounts effect
        (enough order resolved accepted)
  · exact fun shop covered => covered
  · intro shop delivery covered after order resolved accepted
    by_cases idle : delivery.callback.branch order = .nothing
    · rw [idle]
      trivial
    · obtain ⟨⟨inventory, row⟩, event⟩ :=
        event_isOk shop.inventory delivery.replies order delivery.now idle
      have processed := process_ok_iff.mpr ⟨accepted, event⟩
      obtain ⟨amounts, effect⟩ := event_effect event
      have next : step shop delivery = record shop delivery target order := by
        simp [step, resolved]
      have stored := resolve_stored resolved
      have final := after row (by simp [next, record, processed, stored])
      simp only [next, record, processed, if_true] at final
      exact suffices_of_covered final amounts effect
  · intro order present
    obtain ⟨unpaid, none_⟩ := unsettled order present
    exact ⟨fun paid => absurd paid unpaid, fun deposit => by simp [none_] at deposit⟩

end
/-- A shop with one card order of 100 pounds that Paymob knows as order 55. -/
def cardShop : Shop where
  inventory := ⟨.empty, .empty, .empty⟩
  orders := ⟨[(1, {
    id := 1
    total := 10000
    status := .awaitingPayment
    paymentId := some "55"
    metadata := { paymobOrderId := some "55" } })], by decide⟩
  reported := fun _ => 0

def cardSuccess (amountCents : Nat) : Delivery where
  callback := .paymob {
    merchantOrderId := none
    paymobOrderId := some "55"
    transactionId := some "900"
    success := true
    amountCents := amountCents }
  replies := fun _ => ⟨.stored, false⟩
  now := 1

theorem covered_card_order :
    letI := TextCase.ascii
    Run.Always step (TargetCovered 1) cardShop [cardSuccess 10000] := by
  let _ := TextCase.ascii
  refine (covered_iff_amounts_suffice 1 cardShop ?_ _).mpr ⟨?_, trivial⟩
  · intro order present
    cases present
    exact ⟨by decide, rfl⟩
  · intro order resolved _
    cases resolved
    show ((10000 : Nat) : ℚ) ≤ ((0 + ((10000 : Nat) : ℚ≥0) : ℚ≥0) : ℚ)
    norm_num

/-- One piastre reported by a verified callback pays the order of 100 pounds. -/
theorem underpaid_card_order :
    letI := TextCase.ascii
    ¬ Run.Always step (TargetCovered 1) cardShop [cardSuccess 1] := by
  let _ := TextCase.ascii
  intro always
  have covered := (always.last _ rfl).1 rfl
  have short : ((10000 : Nat) : ℚ) ≤ ((0 + ((1 : Nat) : ℚ≥0) : ℚ≥0) : ℚ) := covered
  norm_num at short

end Numu.Payments
