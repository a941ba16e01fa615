import Numu.Stock.StockService

/-! `UpdateOrderStatusUseCase.execute`, up to the repository update. -/

namespace Numu.Orders
open Numu.Stock (Inventory Reply Restocked TextCase restockOrder)

structure Store where
  id : UUID
  ownerId : UUID
  tenantId : UUID := 0
  deriving DecidableEq

structure UpdateOrderStatusDTO where
  status : String
  reason : Option String := none
  source : Option String := none
  deriving DecidableEq

inductive UseCaseError where
  | entityNotFound (entity : String) (id : UUID)
  | authorization (message : String)
  | validation (message : String)
  deriving DecidableEq

/-- The statuses the fallback branch refuses to leave without an edge. -/
def endedStatuses : List OrderStatus := [.cancelled, .refunded, .returned]

/-- The last branch of `execute`, which sets the status directly. -/
def setStatus (order : Order) (newStatus : OrderStatus) (now : Time) : Except String Order :=
  if order.status ∈ endedStatuses ∧ !order.canTransitionTo newStatus then
    .error s!"Cannot move a {order.status.value} order to {newStatus.value}"
  else .ok ({ order with status := newStatus }.touch now)

def applyStatus (order : Order) (newStatus : OrderStatus) (dto : UpdateOrderStatusDTO)
    (now : Time) : Except String Order :=
  match newStatus with
  | .confirmed => order.confirm now
  | .processing => order.startProcessing now
  | .shipped => order.ship none none dto.source now
  | .delivered => order.deliver dto.source now
  | .cancelled => order.cancel dto.reason now
  | .returned => order.returnToOrigin dto.reason now
  | .refunded => order.refund dto.reason now
  | .paymentFailed => .ok (order.markPaymentFailed dto.reason now)
  | .draft | .pendingDeposit | .awaitingPayment | .pending => setStatus order newStatus now

/-- `_restock_order_stock`: a restock that raises does not block the status change. -/
def restockOrderStock [TextCase] (inv : Inventory) (replies : Nat → Reply) (order : Order)
    (reason : Option String) (now : Time) : Restocked :=
  match restockOrder inv replies order reason now with
  | none => ⟨inv, order, false, []⟩
  | some restocked => restocked

/-- Cancelled and returned orders give their stock back. -/
def restockClosed [TextCase] (inv : Inventory) (replies : Nat → Reply) (order : Order)
    (newStatus : OrderStatus) (reason : Option String) (now : Time) : Restocked :=
  if newStatus = .cancelled ∨ newStatus = .returned then
    restockOrderStock inv replies order reason now
  else ⟨inv, order, false, []⟩

structure StatusUpdate extends Restocked where
  oldStatus : OrderStatus
  newStatus : OrderStatus

/-- `store` and `order` are what the repositories found under the given ids. -/
def execute [TextCase] (inv : Inventory) (replies : Nat → Reply) (store : Option Store)
    (order : Option Order) (orderId : UUID) (dto : UpdateOrderStatusDTO) (storeId userId : UUID)
    (now : Time) : Except UseCaseError StatusUpdate :=
  match store with
  | none => .error (.entityNotFound "Store" storeId)
  | some store =>
      if store.ownerId ≠ userId then
        .error (.authorization "You don't have permission to update orders in this store")
      else match order with
      | none => .error (.entityNotFound "Order" orderId)
      | some order =>
          if order.storeId ≠ storeId then .error (.entityNotFound "Order" orderId)
          else match OrderStatus.ofValue dto.status with
          | none => .error (.validation s!"Invalid order status: {dto.status}")
          | some newStatus =>
              match applyStatus order newStatus dto now with
              | .error message => .error (.validation message)
              | .ok changed =>
                  .ok ⟨restockClosed inv replies changed newStatus dto.reason now, order.status,
                    newStatus⟩

section
variable [TextCase] {inv : Inventory} {replies : Nat → Reply}

/-- A restock stamps its own two keys of the order's metadata and no other field. -/
theorem restockClosed_frame (inv : Inventory) (replies : Nat → Reply) (order : Order)
    (newStatus : OrderStatus) (reason : Option String) (now : Time) :
    let restocked := (restockClosed inv replies order newStatus reason now).order
    restocked.status = order.status ∧ restocked.statusHistory = order.statusHistory := by
  unfold restockClosed restockOrderStock restockOrder
  simp only
  split_ifs <;> exact ⟨rfl, rfl⟩

theorem execute_ok {store : Option Store} {found : Option Order} {orderId : UUID}
    {dto : UpdateOrderStatusDTO} {storeId userId : UUID} {now : Time} {update : StatusUpdate}
    (ok : execute inv replies store found orderId dto storeId userId now = .ok update) :
    ∃ order newStatus changed, store.map Store.ownerId = some userId ∧ found = some order ∧
      order.storeId = storeId ∧ OrderStatus.ofValue dto.status = some newStatus ∧
      applyStatus order newStatus dto now = .ok changed ∧
      update.toRestocked = restockClosed inv replies changed newStatus dto.reason now := by
  unfold execute at ok
  cases store with
  | none => cases ok
  | some store =>
      simp only at ok
      split at ok
      · cases ok
      · rename_i owner
        cases found with
        | none => cases ok
        | some order =>
            simp only at ok
            split at ok
            · cases ok
            · rename_i mine
              cases parsed : OrderStatus.ofValue dto.status with
              | none => simp [parsed] at ok
              | some newStatus =>
                  simp only [parsed] at ok
                  cases applied : applyStatus order newStatus dto now with
                  | error message => simp [applied] at ok
                  | ok changed =>
                      simp only [applied] at ok
                      rw [not_not] at owner mine
                      cases ok
                      exact ⟨order, newStatus, changed, by simp [owner], rfl, mine, rfl, applied,
                        rfl⟩

theorem execute_accepted {store : Store} {order : Order} (orderId : UUID)
    {dto : UpdateOrderStatusDTO} {storeId userId : UUID} {now : Time} {newStatus : OrderStatus}
    {changed : Order} (owner : store.ownerId = userId) (mine : order.storeId = storeId)
    (parsed : OrderStatus.ofValue dto.status = some newStatus)
    (applied : applyStatus order newStatus dto now = .ok changed) (inv : Inventory)
    (replies : Nat → Reply) :
    ∃ update, execute inv replies (some store) (some order) orderId dto storeId userId now =
        .ok update ∧
      update.order.status = changed.status ∧
      update.order.statusHistory = changed.statusHistory := by
  simp only [execute, owner, mine, parsed, applied, ne_eq, not_true, if_false]
  exact ⟨_, rfl, restockClosed_frame inv replies changed newStatus dto.reason now⟩

end

end Numu.Orders
