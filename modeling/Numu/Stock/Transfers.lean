import Mathlib.Logic.Function.Basic
import Numu.Foundation.Run
import Numu.Stock.InventoryService

/-! Inventory transfers: any number of transitions of one transfer, read and written apart. -/

namespace Numu.Stock
open Numu.Orders (UUID Time)
open Numu.Outcome (bind_eq_ok)

inductive TransferStatus where
  | draft
  | requested
  | inTransit
  | received
  | canceled
  deriving DecidableEq, Repr

/-- `VALID_TRANSFER_TRANSITIONS`. -/
def validTransferTransitions : TransferStatus → List TransferStatus
  | .draft => [.requested, .canceled]
  | .requested => [.inTransit, .canceled]
  | .inTransit => [.received, .canceled]
  | .received => []
  | .canceled => []

structure InventoryTransfer where
  id : UUID
  storeId : UUID
  fromLocationId : UUID
  toLocationId : UUID
  status : TransferStatus := .draft
  lines : List TransferLine
  requestedAt : Option Time := none
  shippedAt : Option Time := none
  receivedAt : Option Time := none
  canceledAt : Option Time := none

inductive TransferError where
  | notFound (id : UUID)
  | cannotTransition (id : UUID) (current target : TransferStatus)
  | stock (error : InventoryError)

namespace InventoryTransfer

def canTransitionTo (transfer : InventoryTransfer) (target : TransferStatus) : Bool :=
  target ∈ validTransferTransitions transfer.status

/-- `InventoryTransferRepository.transition`, which checks nothing. -/
def transition (transfer : InventoryTransfer) (target : TransferStatus) (now : Time) :
    InventoryTransfer :=
  let moved := { transfer with status := target }
  match target with
  | .draft => moved
  | .requested => { moved with requestedAt := some now }
  | .inTransit => { moved with shippedAt := some now }
  | .received => { moved with receivedAt := some now }
  | .canceled => { moved with canceledAt := some now }

/-- The stock a received transfer moves: every line, or none. -/
def moveStock (current : InventoryTransfer) (warehouse : Warehouse) (rowIds : UUID → UUID) :
    Except InventoryError Warehouse := do
  [current.fromLocationId, current.toLocationId].forM
    (warehouse.assertLocationInStore current.storeId)
  current.lines.forM fun line => warehouse.assertVariantInStore current.storeId line.variantId
  let moved ← current.lines.foldlM (moveLine current.fromLocationId current.toLocationId rowIds)
    warehouse.inventory
  return { warehouse with inventory := moved }

/-- Stock moves at the `received` transition only. -/
def stockAfter (current : InventoryTransfer) (warehouse : Warehouse) (target : TransferStatus)
    (rowIds : UUID → UUID) : Except TransferError Warehouse :=
  if target = .received then (current.moveStock warehouse rowIds).mapError .stock
  else .ok warehouse

end InventoryTransfer

/-- `transition_transfer` from the copy it read on: the decision and the stock by that copy, the
status on the stored row. The locks on the first line's level last until the commit. -/
def transitionTransfer (warehouse : Warehouse) (current stored : InventoryTransfer)
    (target : TransferStatus) (rowIds : UUID → UUID) (now : Time) :
    Except TransferError (Warehouse × InventoryTransfer) := do
  if current.canTransitionTo target then
    let moved ← current.stockAfter warehouse target rowIds
    return (moved, stored.transition target now)
  else throw (.cannotTransition current.id current.status target)

/-- The committed rows, the copies that calls have read, and how often stock was moved. -/
structure TransferRun where
  warehouse : Warehouse
  transfer : InventoryTransfer
  reads : Nat → Option InventoryTransfer := fun _ => none
  moves : Nat := 0

inductive TransferLabel where
  | read (call : Nat)
  | write (call : Nat) (target : TransferStatus) (rowIds : UUID → UUID) (now : Time)
  /-- Orders, edits and other transfers change the stock. -/
  | others (warehouse : Warehouse)

namespace TransferRun

/-- The outcome of a call that goes on from the copy it read. -/
def outcome (run : TransferRun) (call : Nat) (target : TransferStatus) (rowIds : UUID → UUID)
    (now : Time) : Option (InventoryTransfer × Warehouse × InventoryTransfer) :=
  (run.reads call).bind fun current =>
    match transitionTransfer run.warehouse current run.transfer target rowIds now with
    | .ok (warehouse, transfer) => some (current, warehouse, transfer)
    | .error _ => none

def movesStock (current : InventoryTransfer) (target : TransferStatus) : Bool :=
  target = .received && !current.lines.isEmpty

def step (run : TransferRun) : TransferLabel → TransferRun
  | .read call => { run with reads := Function.update run.reads call (some run.transfer) }
  | .write call target rowIds now =>
      match run.outcome call target rowIds now with
      | none => { run with reads := Function.update run.reads call none }
      | some (current, warehouse, transfer) =>
          { run with
            warehouse := warehouse
            transfer := transfer
            reads := Function.update run.reads call none
            moves := run.moves + if movesStock current target then 1 else 0 }
  | .others warehouse => { run with warehouse := warehouse }

/-- A step moves the stock for the first time if it moves it, leaves each variant's total as it is
(unless it is somebody else's), cancels only what has not moved, and follows the state machine. -/
structure Fine (run : TransferRun) (label : TransferLabel) : Prop where
  once : (run.step label).moves ≤ 1
  conserved : (∀ warehouse, label ≠ .others warehouse) → ∀ variantId,
    (run.step label).warehouse.inventory.levelTotal variantId =
      run.warehouse.inventory.levelTotal variantId
  canceled : (run.step label).transfer.status = .canceled → (run.step label).moves = 0
  follows : (run.step label).transfer.status = run.transfer.status ∨
    (run.step label).transfer.status ∈ validTransferTransitions run.transfer.status

/-- A call that writes finds a status which still permits its target, or is its target already
and moves no stock. -/
def Permitted (run : TransferRun) : TransferLabel → Prop
  | .write call target rowIds now =>
      ∀ current warehouse transfer,
        run.outcome call target rowIds now = some (current, warehouse, transfer) →
          target ∈ validTransferTransitions run.transfer.status ∨
            target = run.transfer.status ∧ movesStock current target = false
  | _ => True

/-- What permitted steps keep; the copies have the lines of the row. -/
structure Kept (run : TransferRun) : Prop where
  once : run.moves ≤ 1
  received : run.moves = 1 → run.transfer.status = .received
  moved : run.transfer.status = .received → run.transfer.lines ≠ [] → run.moves = 1
  copies : ∀ call current, run.reads call = some current → current.lines = run.transfer.lines

section Steps
variable {run : TransferRun} {call : Nat} {target : TransferStatus} {rowIds : UUID → UUID}
  {now : Time} {current transfer : InventoryTransfer} {warehouse : Warehouse}

theorem transition_status (transfer : InventoryTransfer) (target : TransferStatus) (now : Time) :
    (transfer.transition target now).status = target ∧
      (transfer.transition target now).lines = transfer.lines := by
  cases target <;> exact ⟨rfl, rfl⟩

theorem moveStock_levelTotal {after : Warehouse}
    (ok : current.moveStock warehouse rowIds = .ok after) (variantId : UUID) :
    after.inventory.levelTotal variantId = warehouse.inventory.levelTotal variantId := by
  rcases bind_eq_ok.mp ok with ⟨_, -, rest⟩
  rcases bind_eq_ok.mp rest with ⟨_, -, rest⟩
  rcases bind_eq_ok.mp rest with ⟨moved, folded, returned⟩
  rw [← Except.ok.inj returned]
  exact Outcome.foldlM_ok
    (P := fun inv => inv.levelTotal variantId = warehouse.inventory.levelTotal variantId)
    (fun _ _ _ before step => (Inventory.moveLine_levelTotal step variantId).trans before)
    folded rfl

/-- What a call that goes through has read and writes. -/
theorem outcome_some (went : run.outcome call target rowIds now =
    some (current, warehouse, transfer)) :
    run.reads call = some current ∧ transfer = run.transfer.transition target now ∧
      ∀ variantId, warehouse.inventory.levelTotal variantId =
        run.warehouse.inventory.levelTotal variantId := by
  rcases Option.bind_eq_some_iff.mp went with ⟨copy, read, decided⟩
  split at decided
  · rename_i stock row ok
    rcases Option.some.inj decided with ⟨⟩
    refine ⟨read, ?_⟩
    rw [transitionTransfer] at ok
    split at ok
    · rcases bind_eq_ok.mp ok with ⟨moved, first, returned⟩
      rcases Except.ok.inj returned with ⟨⟩
      refine ⟨rfl, fun variantId => ?_⟩
      rw [InventoryTransfer.stockAfter] at first
      split at first
      · rcases stock : current.moveStock run.warehouse rowIds with error | after
        · rw [stock] at first
          cases first
        · rw [stock] at first
          rcases Except.ok.inj first with ⟨⟩
          exact moveStock_levelTotal stock variantId
      · rcases Except.ok.inj first with ⟨⟩
        rfl
    · cases ok
  · cases decided

theorem step_write (went : run.outcome call target rowIds now =
    some (current, warehouse, transfer)) :
    run.step (.write call target rowIds now) =
      { run with
        warehouse := warehouse
        transfer := transfer
        reads := Function.update run.reads call none
        moves := run.moves + if movesStock current target then 1 else 0 } := by
  simp only [step, went]

theorem movesStock_iff : movesStock current target = true ↔
    target = .received ∧ current.lines ≠ [] := by
  rw [movesStock, Bool.and_eq_true, decide_eq_true_iff, Bool.not_eq_true', List.isEmpty_eq_false_iff]

/-- Copies keep standing for the row while its lines do. -/
theorem Kept.copies_update (kept : run.Kept) {copy : Option InventoryTransfer}
    (fresh : ∀ current, copy = some current → current.lines = run.transfer.lines) (other : Nat)
    {current : InventoryTransfer} (read : Function.update run.reads call copy other = some current) :
    current.lines = run.transfer.lines := by
  rw [Function.update_apply] at read
  split at read
  · exact fresh current read
  · exact kept.copies other current read

theorem Kept.step (kept : run.Kept) {label : TransferLabel} (permitted : run.Permitted label) :
    (run.step label).Kept := by
  cases label with
  | read call =>
      refine ⟨kept.once, kept.received, kept.moved, fun other current read => ?_⟩
      exact kept.copies_update (fun copy same => by rw [← Option.some.inj same]) other read
  | others warehouse => exact ⟨kept.once, kept.received, kept.moved, kept.copies⟩
  | write call target rowIds now =>
      rcases went : run.outcome call target rowIds now with _ | ⟨current, warehouse, transfer⟩
      · rw [TransferRun.step, went]
        refine ⟨kept.once, kept.received, kept.moved, fun other current read => ?_⟩
        exact kept.copies_update (fun copy same => by cases same) other read
      · rcases outcome_some went with ⟨read, written, -⟩
        have lines := kept.copies call current read
        have stamped := transition_status run.transfer target now
        rw [step_write went, written]
        have copies : ∀ other copy, Function.update run.reads call none other = some copy →
            copy.lines = (run.transfer.transition target now).lines := by
          intro other copy found
          rw [stamped.2]
          exact kept.copies_update (fun _ same => by cases same) other found
        by_cases moving : movesStock current target = true
        · rcases movesStock_iff.mp moving with ⟨rfl, some_lines⟩
          have zero : run.moves = 0 := by
            rcases permitted current warehouse transfer went with edge | ⟨-, unmoved⟩
            · by_contra moved
              have one : run.moves = 1 := by
                have once := kept.once
                omega
              rw [kept.received one] at edge
              cases edge
            · rw [unmoved] at moving
              cases moving
          refine ⟨?_, fun _ => stamped.1, fun _ _ => ?_, copies⟩ <;>
            simp only [if_pos moving, zero, Nat.zero_add, le_refl]
        · simp only [if_neg moving, Nat.add_zero]
          refine ⟨kept.once, fun one => ?_, fun arrived some_lines => ?_, copies⟩
          · rcases permitted current warehouse transfer went with edge | ⟨same, -⟩
            · rw [kept.received one] at edge
              cases edge
            · rw [stamped.1, same]
              exact kept.received one
          · rw [stamped.1] at arrived
            rw [stamped.2, ← lines] at some_lines
            exact absurd (movesStock_iff.mpr ⟨arrived, some_lines⟩) moving

theorem Kept.canceled (kept : run.Kept) (canceled : run.transfer.status = .canceled) :
    run.moves = 0 := by
  by_contra moved
  have once := kept.once
  have arrived := kept.received (by omega)
  rw [canceled] at arrived
  cases arrived

/-- A step of a kept run is fine exactly if it is permitted. -/
theorem Kept.fine_iff (kept : run.Kept) (label : TransferLabel) :
    run.Fine label ↔ run.Permitted label := by
  constructor
  · intro fine
    cases label with
    | read call => trivial
    | others warehouse => trivial
    | write call target rowIds now =>
        intro current warehouse transfer went
        rcases outcome_some went with ⟨read, written, -⟩
        have follows := fine.follows
        have once := fine.once
        rw [step_write went] at follows once
        simp only [written, (transition_status run.transfer target now).1] at follows once
        rcases follows with same | edge
        · refine .inr ⟨same, ?_⟩
          by_contra moving
          rw [Bool.not_eq_false] at moving
          rcases movesStock_iff.mp moving with ⟨arrived, some_lines⟩
          rw [kept.copies call current read] at some_lines
          have already := kept.moved (same.symm.trans arrived) some_lines
          rw [if_pos moving, already] at once
          omega
        · exact .inl edge
  · intro permitted
    have after := kept.step permitted
    refine ⟨after.once, ?_, after.canceled, ?_⟩
    · intro ours variantId
      cases label with
      | read call => rfl
      | others warehouse => exact absurd rfl (ours warehouse)
      | write call target rowIds now =>
          rcases went : run.outcome call target rowIds now with _ | ⟨current, warehouse, transfer⟩
          · rw [TransferRun.step, went]
          · rw [step_write went]
            exact (outcome_some went).2.2 variantId
    · cases label with
      | read call => exact .inl rfl
      | others warehouse => exact .inl rfl
      | write call target rowIds now =>
          rcases went : run.outcome call target rowIds now with _ | ⟨current, warehouse, transfer⟩
          · rw [TransferRun.step, went]
            exact .inl rfl
          · rw [step_write went]
            simp only [(outcome_some went).2.1, (transition_status run.transfer target now).1]
            rcases permitted current warehouse transfer went with edge | ⟨same, -⟩
            · exact .inr edge
            · exact .inl same

end Steps

/-- A new transfer, of which nothing has been read. -/
def start (warehouse : Warehouse) (transfer : InventoryTransfer) : TransferRun where
  warehouse := warehouse
  transfer := { transfer with status := .draft }

/-- The transitions of a transfer, interleaved in any way, move its stock at most once, keep every
total and follow the state machine, exactly if no call writes over a status that does not permit
its target. -/
theorem transfers_fine_iff (warehouse : Warehouse) (transfer : InventoryTransfer)
    (labels : List TransferLabel) :
    Run.Guarded step Fine (start warehouse transfer) labels ↔
      Run.Guarded step Permitted (start warehouse transfer) labels := by
  have initial : (start warehouse transfer).Kept :=
    { once := Nat.zero_le 1
      received := fun moved => by cases moved
      moved := fun arrived => by cases arrived
      copies := fun _ _ read => by cases read }
  exact Run.guarded_iff_guarded (fun _ _ kept permitted => kept.step permitted)
    (fun _ label kept => kept.fine_iff label) initial labels

/-- Five pieces of one variant at one of two locations. -/
def twoLocations : Warehouse where
  inventory :=
    { products := Table.empty
      variants := Table.empty
      levels := Table.ofList [(21, { variantId := 1, locationId := 11, available := 5 })] }
  variantStores := Table.ofList [(1, 3)]
  locationStores := Table.ofList [(11, 3), (12, 3)]

def twoPieces : InventoryTransfer where
  id := 31
  storeId := 3
  fromLocationId := 11
  toLocationId := 12
  lines := [{ variantId := 1, quantity := 2, quantity_pos := Numu.Orders.two_pieces }]

/-- A cancellation decided before the transfer was received, and written after it. -/
def cancelRacingReceive : List TransferLabel :=
  [.read 0, .write 0 .requested (fun _ => 22) 10, .read 1, .write 1 .inTransit (fun _ => 22) 20,
    .read 2, .read 3, .write 2 .received (fun _ => 22) 30, .write 3 .canceled (fun _ => 22) 31]

theorem canceled_transfer_moved :
    ¬ Run.Guarded step Fine (start twoLocations twoPieces) cancelRacingReceive := by
  intro fine
  have canceled := fine.2.2.2.2.2.2.2.1.canceled
  revert canceled
  decide +kernel

end TransferRun
end Numu.Stock
