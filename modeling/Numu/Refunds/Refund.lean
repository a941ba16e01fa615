import Mathlib.Data.Nat.Notation
import Numu.Foundation.Table
import Numu.Orders.OrderRepository
import Numu.Orders.UpdateStatus

/-! The refund entity, and the use cases and the route that create and move refunds. -/

namespace Numu.Refunds
open Numu.Orders

inductive RefundStatus where
  | requested
  | approved
  | processing
  | processed
  | completed
  | rejected
  | failed
  deriving DecidableEq, Repr

def RefundStatus.value : RefundStatus → String
  | requested => "requested"
  | approved => "approved"
  | processing => "processing"
  | processed => "processed"
  | completed => "completed"
  | rejected => "rejected"
  | failed => "failed"

/-- `VALID_REFUND_TRANSITIONS`. -/
def validRefundTransitions : RefundStatus → List RefundStatus
  | .requested => [.approved, .rejected]
  | .approved => [.processing]
  | .processing => [.processed, .failed]
  | .processed => [.completed]
  | .failed => [.processing]
  | .rejected => []
  | .completed => []

inductive RefundReason where
  | defective
  | wrongItem
  | notAsDescribed
  | customerRequest
  | duplicateOrder
  | other
  deriving DecidableEq, Repr

def RefundReason.ofValue : String → Option RefundReason
  | "defective" => some defective
  | "wrong_item" => some wrongItem
  | "not_as_described" => some notAsDescribed
  | "customer_request" => some customerRequest
  | "duplicate_order" => some duplicateOrder
  | "other" => some other
  | _ => none

inductive RefundType where
  | full
  | partial_
  deriving DecidableEq, Repr

def RefundType.ofValue : String → Option RefundType
  | "full" => some full
  | "partial" => some partial_
  | _ => none

structure RefundChange where
  fromStatus : RefundStatus
  toStatus : RefundStatus
  timestamp : Time
  reason : Option String
  deriving DecidableEq, Repr

structure RefundMetadata where
  statusHistory : List RefundChange := []
  rejectionReason : Option String := none
  returnId : Option UUID := none
  returnNumber : Option String := none
  deriving DecidableEq, Repr

structure Refund where
  orderId : UUID
  storeId : UUID
  tenantId : Option UUID := none
  refundType : RefundType := .full
  status : RefundStatus := .requested
  reason : RefundReason := .customerRequest
  reasonNote : Option String := none
  /-- In cents. -/
  amount : Nat := 0
  paymentProvider : Option String := none
  paymentId : Option String := none
  providerRefundId : Option String := none
  requestedBy : Option UUID := none
  approvedBy : Option UUID := none
  rejectedBy : Option UUID := none
  processedAt : Option Time := none
  completedAt : Option Time := none
  rejectedAt : Option Time := none
  failureReason : Option String := none
  metadata : RefundMetadata := {}
  updatedAt : Time := 0
  deriving DecidableEq

namespace Refund

/-- `_validate_transition`, the write of the status, `_record_transition` and `touch`. -/
def moveTo (refund : Refund) (newStatus : RefundStatus) (reason : Option String) (now : Time) :
    Except String Refund :=
  if newStatus ∈ validRefundTransitions refund.status then
    .ok { refund with
      status := newStatus
      metadata := { refund.metadata with
        statusHistory :=
          refund.metadata.statusHistory ++ [⟨refund.status, newStatus, now, reason⟩] }
      updatedAt := now }
  else
    .error s!"Cannot transition refund from {refund.status.value} to {newStatus.value}"

def approve (refund : Refund) (userId : UUID) (now : Time) : Except String Refund := do
  let moved ← refund.moveTo .approved none now
  return { moved with approvedBy := some userId }

def reject (refund : Refund) (userId : UUID) (reason : Option String) (now : Time) :
    Except String Refund := do
  let moved ← refund.moveTo .rejected reason now
  return { moved with
    rejectedBy := some userId
    rejectedAt := some now
    metadata := { moved.metadata with
      rejectionReason := if given reason then reason else moved.metadata.rejectionReason } }

def startProcessing (refund : Refund) (now : Time) : Except String Refund := do
  if refund.status = .failed then
    let moved ← refund.moveTo .processing (some "retry") now
    return { moved with failureReason := none }
  else refund.moveTo .processing none now

def markProcessed (refund : Refund) (providerRefundId : Option String) (now : Time) :
    Except String Refund := do
  let moved ← refund.moveTo .processed none now
  return { moved with providerRefundId := providerRefundId, processedAt := some now }

def complete (refund : Refund) (now : Time) : Except String Refund := do
  let moved ← refund.moveTo .completed none now
  return { moved with completedAt := some now }

def markFailed (refund : Refund) (reason : Option String) (now : Time) : Except String Refund := do
  let moved ← refund.moveTo .failed reason now
  return { moved with failureReason := reason }

end Refund

/-- Rows of the refunds table of one order. -/
abbrev RefundRows := Table UUID Refund

namespace RefundRepository

def update (stored entity : Refund) : Refund :=
  { stored with
    status := entity.status
    reason := entity.reason
    reasonNote := entity.reasonNote
    amount := entity.amount
    providerRefundId := entity.providerRefundId
    approvedBy := entity.approvedBy
    rejectedBy := entity.rejectedBy
    processedAt := entity.processedAt
    completedAt := entity.completedAt
    rejectedAt := entity.rejectedAt
    failureReason := entity.failureReason
    metadata := entity.metadata
    updatedAt := entity.updatedAt }

/-- The rows `get_total_refunded_for_order` sums. -/
def counted (includeOpen : Bool) (refund : Refund) : Bool :=
  if includeOpen then refund.status ≠ .rejected else refund.status = .completed

def getTotalRefundedForOrder (refunds : RefundRows) (includeOpen : Bool) : Nat :=
  refunds.total fun refund => if counted includeOpen refund then refund.amount else 0

end RefundRepository

structure CreateRefundDTO where
  orderId : UUID
  refundType : String
  reason : String
  reasonNote : Option String := none
  amount : Option Int := none
  deriving DecidableEq

/-- `CreateRefundUseCase.execute` up to the query for the refunded total. -/
def checkOrder (store : Option Store) (order : Option Order) (dto : CreateRefundDTO)
    (storeId userId : UUID) : Except UseCaseError Order :=
  match store with
  | none => .error (.entityNotFound "Store" storeId)
  | some store =>
      if store.ownerId ≠ userId then
        .error (.authorization "You don't have permission to create refunds for this store")
      else match order with
      | none => .error (.entityNotFound "Order" dto.orderId)
      | some order =>
          if order.storeId ≠ storeId then .error (.entityNotFound "Order" dto.orderId)
          else if !order.isRefundable then
            .error (.validation "Cannot refund an unpaid order")
          else .ok order

def partialAmount (refundable : Int) (amount : Option Int) : Except UseCaseError Nat :=
  match amount with
  | none => .error (.validation "Partial refund requires a positive amount")
  | some amount =>
      if amount ≤ 0 then .error (.validation "Partial refund requires a positive amount")
      else if refundable < amount then
        .error (.validation
          s!"Refund amount ({amount}) exceeds refundable amount ({refundable})")
      else .ok amount.toNat

def refundAmount (refundable : Int) (refundType : RefundType) (amount : Option Int) :
    Except UseCaseError Nat :=
  match refundType with
  | .full => .ok refundable.toNat
  | .partial_ => partialAmount refundable amount

/-- The refund a create makes of the order it read and the total it then summed. -/
def newRefund (order : Order) (alreadyRefunded : Nat) (dto : CreateRefundDTO)
    (storeId userId : UUID) : Except UseCaseError Refund :=
  let refundable : Int := order.collectibleTotal - alreadyRefunded
  if refundable ≤ 0 then .error (.validation "Order has already been fully refunded")
  else match RefundType.ofValue dto.refundType with
  | none => .error (.validation s!"Invalid refund type: {dto.refundType}")
  | some refundType =>
      match RefundReason.ofValue dto.reason with
      | none => .error (.validation s!"Invalid refund reason: {dto.reason}")
      | some reason => do
          let amount ← refundAmount refundable refundType dto.amount
          return {
            orderId := dto.orderId
            storeId := storeId
            tenantId := order.tenantId
            refundType := refundType
            reason := reason
            reasonNote := dto.reasonNote
            amount := amount
            paymentProvider := order.paymentMethod
            paymentId := order.paymentId
            requestedBy := some userId }

/-- The checks that approving, rejecting and processing a refund share. -/
def checkRefund (store : Option Store) (refund : Option Refund) (refundId storeId userId : UUID)
    (action : String) : Except UseCaseError Refund :=
  match store with
  | none => .error (.entityNotFound "Store" storeId)
  | some store =>
      if store.ownerId ≠ userId then
        .error (.authorization s!"You don't have permission to {action} refunds")
      else match refund with
      | none => .error (.entityNotFound "Refund" refundId)
      | some refund =>
          if refund.storeId ≠ storeId then .error (.entityNotFound "Refund" refundId)
          else .ok refund

/-- `except ValueError as e: raise ValidationError(str(e))`. -/
def validated (result : Except String Refund) : Except UseCaseError Refund :=
  result.mapError .validation

def approveRefund (store : Option Store) (refund : Option Refund)
    (refundId storeId userId : UUID) (now : Time) : Except UseCaseError Refund := do
  let refund ← checkRefund store refund refundId storeId userId "approve"
  validated (refund.approve userId now)

def rejectRefund (store : Option Store) (refund : Option Refund)
    (refundId storeId userId : UUID) (reason : Option String) (now : Time) :
    Except UseCaseError Refund := do
  let refund ← checkRefund store refund refundId storeId userId "reject"
  validated (refund.reject userId reason now)

/-- How the payment provider answers a call. -/
inductive ProviderAnswer where
  | success (refundId : Option String)
  | refused (errorMessage : Option String)
  | raised (text : String)

/-- The part of a processing call after the intermediate save. -/
def settleRefund (started : Refund) (answer : Option ProviderAnswer) (now : Time) :
    Except String Refund :=
  match answer with
  | some (.success refundId) => do
      let processed ← started.markProcessed refundId now
      processed.complete now
  | some (.refused errorMessage) => started.markFailed errorMessage now
  | some (.raised text) => started.markFailed (some text) now
  | none => do
      let processed ← started.markProcessed none now
      processed.complete now

/-- `service` is the provider's answer where a payment service was passed in. -/
def processRefund (store : Option Store) (refund : Option Refund)
    (refundId storeId userId : UUID) (service : Option ProviderAnswer) (now : Time) :
    Except UseCaseError Refund := do
  let refund ← checkRefund store refund refundId storeId userId "process"
  let started ← validated (refund.startProcessing now)
  validated (settleRefund started (if given refund.paymentId then service else none) now)

/-- `_update_order_payment_status`. -/
def updateOrderPaymentStatus (order : Order) (refunds : RefundRows) (now : Time) : Order :=
  let totalRefunded := RefundRepository.getTotalRefundedForOrder refunds false
  let marked :=
    if order.total ≤ totalRefunded then { order with paymentStatus := .refunded }
    else if 0 < totalRefunded then { order with paymentStatus := .partiallyRefunded }
    else order
  OrderRepository.update order (marked.touch now) now

inductive ReturnStatus where
  | requested
  | approved
  | rejected
  | received
  | completed
  | canceled
  deriving DecidableEq, Repr

structure OrderReturn where
  id : UUID
  orderId : UUID
  storeId : UUID
  tenantId : Option UUID := none
  returnNumber : String := ""
  status : ReturnStatus := .requested
  customerNote : Option String := none
  refundId : Option UUID := none
  requestedAmount : Nat := 0
  deriving DecidableEq

/-- `IssueRefundRequest`; its schema asks for an amount of at least zero. -/
structure IssueRefundRequest where
  amount : Option Nat := none
  reasonNote : Option String := none
  deriving DecidableEq

inductive RouteError where
  | entityNotFound (entity : String) (id : UUID)
  | http (status : Nat) (detail : String)
  deriving DecidableEq

def orElseNote (first second : Option String) : Option String :=
  if given first then first else second

/-- `issue_return_refund` up to the insert. -/
def issueReturnRefund (store : Option Store) (ret : Option OrderReturn) (returnId : UUID)
    (body : IssueRefundRequest) (storeId userId : UUID) : Except RouteError Refund :=
  match ret with
  | none => .error (.entityNotFound "Return" returnId)
  | some ret =>
      if ret.storeId ≠ storeId then .error (.entityNotFound "Return" returnId)
      else if ret.status ≠ .received then
        .error (.http 409 "Refunds can only be issued after the return is marked received.")
      else if ret.refundId.isSome then
        .error (.http 409 "A refund has already been minted for this return.")
      else if store.isNone then .error (.entityNotFound "Store" storeId)
      else
        let amount := body.amount.getD ret.requestedAmount
        if ret.requestedAmount < amount then
          .error (.http 400 (s!"Refund amount {amount} exceeds the return's " ++
            s!"requested_amount {ret.requestedAmount}."))
        else .ok {
          orderId := ret.orderId
          storeId := ret.storeId
          tenantId := ret.tenantId
          refundType := if amount = ret.requestedAmount then .full else .partial_
          status := .requested
          reason := .customerRequest
          reasonNote := orElseNote body.reasonNote ret.customerNote
          amount := amount
          requestedBy := some userId
          metadata := { returnId := some ret.id, returnNumber := some ret.returnNumber } }

end Numu.Refunds
