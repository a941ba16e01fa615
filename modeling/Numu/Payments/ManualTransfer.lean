import Numu.Foundation.Table
import Numu.Orders.OrderRepository
import Numu.Wallet.Topup

/-! Manual transfers: the intent an order is paid by, the proofs that answer it, their rows. -/

namespace Numu.Payments
open Numu.Orders
open Numu.Wallet (HttpError)

inductive ManualPaymentMethod where
  | instapay
  | vodafoneCash
  | wePay
  | orangeCash
  deriving DecidableEq, Repr

def ManualPaymentMethod.value : ManualPaymentMethod → String
  | instapay => "instapay"
  | vodafoneCash => "vodafone_cash"
  | wePay => "we_pay"
  | orangeCash => "orange_cash"

/-- `MANUAL_TRANSFER_METHODS`. -/
def manualTransferMethods : List String :=
  [ManualPaymentMethod.instapay, .vodafoneCash, .wePay, .orangeCash].map ManualPaymentMethod.value

inductive ManualPaymentIntentStatus where
  | awaitingPayment
  | proofReceived
  | paid
  | expired
  | cancelled
  deriving DecidableEq, Repr

structure ManualPaymentIntent where
  referenceCode : String
  amountCents : Int
  expiresAt : Time
  status : ManualPaymentIntentStatus := .awaitingPayment
  method : ManualPaymentMethod := .instapay
  deriving DecidableEq

namespace ManualPaymentIntent

def isExpired (intent : ManualPaymentIntent) (now : Time) : Bool :=
  intent.expiresAt ≤ now

def markProofReceived (intent : ManualPaymentIntent) : ManualPaymentIntent :=
  { intent with status := .proofReceived }

def markPaid (intent : ManualPaymentIntent) : ManualPaymentIntent :=
  { intent with status := .paid }

end ManualPaymentIntent

inductive PaymentProofStatus where
  | awaitingReview
  | autoApproved
  | approved
  | rejected
  | expired
  deriving DecidableEq, Repr

def PaymentProofStatus.value : PaymentProofStatus → String
  | awaitingReview => "awaiting_review"
  | autoApproved => "auto_approved"
  | approved => "approved"
  | rejected => "rejected"
  | expired => "expired"

structure PaymentProof where
  storeId : UUID
  orderId : UUID
  /-- A SHA-256 digest. -/
  proofImageHash : BitVec 256
  transactionRef : String
  status : PaymentProofStatus := .awaitingReview
  declaredAmountCents : Option Int := none
  reviewDecisionBy : Option UUID := none
  reviewDecisionAt : Option Time := none
  rejectionReason : Option String := none
  idempotencyKey : Option String := none
  /-- Set on the payments a merchant records by hand. -/
  recordedMethod : Option String := none
  ocrStatus : Option String := none
  ocrExtractedAmountCents : Option Int := none
  ocrExtractedIpa : Option String := none
  ocrExtractedNote : Option String := none
  ocrExtractedTransactionRef : Option String := none
  ocrExtractedRecipientName : Option String := none
  autoApprovalBlockReasons : Option (List String) := none
  createdAt : Time
  updatedAt : Time
  deriving DecidableEq

namespace PaymentProof

def markAutoApproved (proof : PaymentProof) (now : Time) : PaymentProof :=
  { proof with status := .autoApproved, reviewDecisionAt := some now, updatedAt := now }

def markApproved (proof : PaymentProof) (reviewer : UUID) (now : Time) : PaymentProof :=
  { proof with
    status := .approved
    reviewDecisionBy := some reviewer
    reviewDecisionAt := some now
    updatedAt := now }

def markRejected (proof : PaymentProof) (reviewer : Option UUID) (reason : String) (now : Time) :
    PaymentProof :=
  { proof with
    status := .rejected
    reviewDecisionBy := reviewer
    reviewDecisionAt := some now
    rejectionReason := some reason
    updatedAt := now }

/-- The intent's amount stands in for one the customer did not declare. -/
def declareAmount (proof : PaymentProof) (intent : ManualPaymentIntent) : PaymentProof :=
  { proof with declaredAmountCents := some (proof.declaredAmountCents.getD intent.amountCents) }

def settled (proof : PaymentProof) : Bool :=
  proof.status = .approved || proof.status = .autoApproved

/-- What a proof adds to the money collected for an order. -/
def collected (orderId : UUID) (proof : PaymentProof) : Int :=
  if proof.orderId = orderId && proof.settled then proof.declaredAmountCents.getD 0 else 0

/-- The partial unique indexes leave out voided payments that the merchant recorded. -/
def indexed (proof : PaymentProof) : Bool :=
  !(proof.recordedMethod.isSome && proof.status = .rejected)

end PaymentProof

abbrev PaymentProofRows := Table UUID PaymentProof

inductive ProofConstraint where
  | primaryKey
  | imageHash
  | transactionRef
  | idempotencyKey
  deriving DecidableEq, Repr

namespace PaymentProofRepository

def getByIdempotencyKey (proofs : PaymentProofRows) (storeId : UUID) (key : String) :
    Option PaymentProof :=
  (proofs.rows.map Prod.snd).find? fun proof =>
    proof.storeId = storeId && proof.idempotencyKey = some key

def imageHashExists (proofs : PaymentProofRows) (storeId : UUID) (imageHash : BitVec 256) :
    Option UUID :=
  ((proofs.rows.map Prod.snd).find? fun proof =>
    proof.storeId = storeId && proof.proofImageHash = imageHash && proof.indexed).map
      PaymentProof.orderId

def transactionRefExists (proofs : PaymentProofRows) (storeId : UUID) (transactionRef : String) :
    Option UUID :=
  ((proofs.rows.map Prod.snd).find? fun proof =>
    proof.storeId = storeId && proof.transactionRef = transactionRef && proof.indexed).map
      PaymentProof.orderId

/-- The number of automatic approvals since an instant, and the sum of what they declared. -/
def dailyAutoApproveStats (proofs : PaymentProofRows) (storeId : UUID) (since : Time) : Nat × Int :=
  let approvals := (proofs.rows.map Prod.snd).filter fun proof =>
    proof.storeId = storeId && proof.status = .autoApproved && since ≤ proof.createdAt
  (approvals.length, (approvals.map fun proof => proof.declaredAmountCents.getD 0).sum)

def amountPaidCents (proofs : PaymentProofRows) (orderId : UUID) : Int :=
  proofs.sumOf (PaymentProof.collected orderId)

/-- The constraint an insertion violates. -/
def violated (proofs : PaymentProofRows) (id : UUID) (proof : PaymentProof) :
    Option ProofConstraint :=
  if (proofs.get? id).isSome then some .primaryKey
  else if proof.indexed && (imageHashExists proofs proof.storeId proof.proofImageHash).isSome then
    some .imageHash
  else if proof.indexed &&
      (transactionRefExists proofs proof.storeId proof.transactionRef).isSome then
    some .transactionRef
  else if proof.idempotencyKey.any fun key =>
      (getByIdempotencyKey proofs proof.storeId key).isSome then
    some .idempotencyKey
  else none

/-- The row as inserted: the database stamps it with the start of the transaction. -/
def inserted (proof : PaymentProof) (startedAt : Time) : PaymentProof :=
  { proof with createdAt := startedAt, updatedAt := startedAt }

def create (proofs : PaymentProofRows) (id : UUID) (proof : PaymentProof) (startedAt : Time) :
    Except ProofConstraint PaymentProofRows :=
  match violated proofs id proof with
  | some constraint => .error constraint
  | none => .ok (proofs.set id (inserted proof startedAt))

/-- The columns `update` writes. -/
def merge (stored proof : PaymentProof) (now : Time) : PaymentProof :=
  { stored with
    status := proof.status
    reviewDecisionBy := proof.reviewDecisionBy
    reviewDecisionAt := proof.reviewDecisionAt
    rejectionReason := proof.rejectionReason
    declaredAmountCents := proof.declaredAmountCents
    ocrStatus := proof.ocrStatus
    ocrExtractedAmountCents := proof.ocrExtractedAmountCents
    ocrExtractedIpa := proof.ocrExtractedIpa
    updatedAt := now }

/-- `none` is a `ValueError`. -/
def update (proofs : PaymentProofRows) (id : UUID) (proof : PaymentProof) (now : Time) :
    Option PaymentProofRows :=
  (proofs.get? id).map fun stored => proofs.set id (merge stored proof now)

end PaymentProofRepository

/-- The rows that manual transfers touch. Each order has at most one intent, kept under the
order's id. -/
structure TransferRows where
  orders : OrderRows := .empty
  intents : Table UUID ManualPaymentIntent := .empty
  proofs : PaymentProofRows := .empty

/-- What a use case raises. -/
inductive Raised where
  | http (error : HttpError)
  | valueError (text : String)
  deriving DecidableEq

namespace TransferRows

/-- `ManualPaymentIntentRepository.update` writes the status alone. -/
def updateIntent (rows : TransferRows) (orderId : UUID) (status : ManualPaymentIntentStatus) :
    TransferRows :=
  { rows with
    intents := rows.intents.modify orderId fun stored => { stored with status := status } }

def updateOrder (rows : TransferRows) (orderId : UUID) (entity : Order) (now : Time) :
    Except Raised TransferRows :=
  match rows.orders.get? orderId with
  | none => .error (.valueError s!"Order with id {UuidText.writeUuid orderId} not found")
  | some stored =>
      .ok { rows with
        orders := rows.orders.set orderId (OrderRepository.update stored entity now) }

end TransferRows

/-- What an approved proof makes of the copy of its order. -/
def payByProof (order : Order) (intent : ManualPaymentIntent) (declared : Option Int)
    (now : Time) : Except String Order := do
  let paid ← order.markAsPaid intent.referenceCode (some intent.method.value) now
  return { paid with
    depositAmountCents :=
      if paid.paymentStatus = .paid then paid.depositAmountCents else declared }

/-- The writes that follow an approval, the merchant's or an automatic one, up to the order. -/
def TransferRows.settleByProof (rows : TransferRows) (orderId : UUID) (order : Order)
    (intent : ManualPaymentIntent) (declared : Option Int) (now : Time) :
    Except Raised TransferRows :=
  match payByProof order intent declared now with
  | .error text => .error (.valueError text)
  | .ok paid => (rows.updateIntent orderId intent.markPaid.status).updateOrder orderId paid now

end Numu.Payments
