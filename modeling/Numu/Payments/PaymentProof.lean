import Numu.Foundation.Outcome
import Numu.Payments.AutoApproval

/-! The use cases that submit and review the proofs of manual transfers, step by step. -/

namespace Numu.Payments
open Numu.Orders
open Numu.Outcome (orKeep)
open Numu.Wallet (HttpError)

/-- What `SubmitPaymentProofUseCase.execute` is called with, in a transaction that started
before. -/
structure ProofUpload where
  storeId : UUID
  orderId : UUID
  customerId : UUID
  proofImageHash : BitVec 256
  transactionRef : String
  config : AutoApprovalConfig
  startedAt : Time
  declaredAmountCents : Option Int := none
  idempotencyKey : Option String := none
  merchantIpa : Option String := none
  merchantRecipientNameToken : Option String := none

/-- What the vision service reads off a screenshot. -/
structure ProofVision where
  status : String := "skipped"
  extractedAmountCents : Option Int := none
  extractedIpa : Option String := none
  extractedNote : Option String := none
  extractedTransactionRef : Option String := none
  extractedRecipientName : Option String := none

abbrev UnpaidOrder := { order : Order // order.paymentStatus ≠ .paid }

def stripped (text : String) : String :=
  String.ofList (IntegerText.strip text.toList)

def isFullManual (order : Order) : Bool :=
  order.paymentMethod.any (· ∈ manualTransferMethods)

def isManualDeposit (order : Order) : Bool :=
  order.paymentMethod = some "cod" && order.depositGateway.any (· ∈ manualTransferMethods)

def ProofConstraint.detail : ProofConstraint → String
  | imageHash => "This screenshot has already been submitted for this store."
  | transactionRef => "This transaction reference has already been used."
  | idempotencyKey => "Duplicate request — please wait for the first upload to finish."
  | primaryKey => "Could not save this proof. Please retry."

namespace SubmitPaymentProof

def checkOrder (customerId : UUID) : Option Order → Except HttpError UnpaidOrder
  | none => .error ⟨404, "Order not found."⟩
  | some order =>
      if order.customerId ≠ customerId then
        .error ⟨403, "Order does not belong to this customer."⟩
      else if paid : order.paymentStatus = .paid then .error ⟨409, "Order is already paid."⟩
      else if order.status = .cancelled then
        .error ⟨409, "Order is cancelled. Please contact the merchant."⟩
      else if given order.paymentMethod && !(isFullManual order || isManualDeposit order) then
        .error ⟨409, "This order was not placed with a transfer-based payment method."⟩
      else .ok ⟨order, paid⟩

/-- The proof an idempotency key was used for before. -/
def replayed (rows : TransferRows) (upload : ProofUpload) : Option PaymentProof :=
  if given upload.idempotencyKey then
    upload.idempotencyKey.bind
      (PaymentProofRepository.getByIdempotencyKey rows.proofs upload.storeId)
  else none

inductive Loaded where
  | replay (proof : PaymentProof)
  | order (order : UnpaidOrder)

def load (rows : TransferRows) (upload : ProofUpload) : Except HttpError Loaded :=
  if stripped upload.transactionRef = "" then .error ⟨422, "Transaction reference is required."⟩
  else match replayed rows upload with
  | some proof =>
      if (rows.orders.get? proof.orderId).isNone || (rows.intents.get? proof.orderId).isNone then
        .error ⟨409, "Idempotent proof references missing order/intent."⟩
      else .ok (.replay proof)
  | none => (checkOrder upload.customerId (rows.orders.get? upload.orderId)).map .order

/-- The checks between the order's and the upload of the screenshot. -/
def check (rows : TransferRows) (upload : ProofUpload) (order : Order) (now : Time) :
    Except HttpError ManualPaymentIntent :=
  match rows.intents.get? upload.orderId with
  | none => .error ⟨404, "No manual payment intent exists for this order."⟩
  | some intent =>
      if intent.isExpired now then
        .error ⟨410, "The payment window for this order has expired."⟩
      else if (PaymentProofRepository.imageHashExists rows.proofs order.storeId
          upload.proofImageHash).isSome then
        .error ⟨409, ProofConstraint.imageHash.detail⟩
      else if (PaymentProofRepository.transactionRefExists rows.proofs order.storeId
          (stripped upload.transactionRef)).isSome then
        .error ⟨409, ProofConstraint.transactionRef.detail⟩
      else .ok intent

def facts (rows : TransferRows) (upload : ProofUpload) (order : Order)
    (intent : ManualPaymentIntent) (now : Time) : AutoApprovalFacts :=
  let dayStart := now - 24 * 60 * 60 * 1000000
  let stats := PaymentProofRepository.dailyAutoApproveStats rows.proofs order.storeId dayStart
  { orderTotalCents := intent.amountCents
    dailyAutoApprovedCount := stats.1
    dailyAutoApprovedCents := stats.2
    merchantIpa := upload.merchantIpa
    intentReferenceCode := some intent.referenceCode
    submittedTransactionRef := some (stripped upload.transactionRef)
    merchantRecipientNameToken := upload.merchantRecipientNameToken
    now := now }

/-- The order was looked up by the upload's id, so that is its own. -/
def newProof (upload : ProofUpload) (order : Order) (vision : ProofVision) (now : Time) :
    PaymentProof where
  storeId := order.storeId
  orderId := upload.orderId
  proofImageHash := upload.proofImageHash
  transactionRef := stripped upload.transactionRef
  declaredAmountCents := upload.declaredAmountCents
  idempotencyKey := upload.idempotencyKey
  ocrStatus := if vision.status ≠ "skipped" then some vision.status else none
  ocrExtractedAmountCents := vision.extractedAmountCents
  ocrExtractedIpa := vision.extractedIpa
  ocrExtractedNote := vision.extractedNote
  ocrExtractedTransactionRef := vision.extractedTransactionRef
  ocrExtractedRecipientName := vision.extractedRecipientName
  createdAt := now
  updatedAt := now

section
variable [CaseFold]

def decision (rows : TransferRows) (upload : ProofUpload) (order : Order)
    (intent : ManualPaymentIntent) (vision : ProofVision) (now : Time) : AutoApprovalDecision :=
  AutoApproval.evaluate intent (newProof upload order vision now) upload.config
    (facts rows upload order intent now)

/-- The proof as it is stored. -/
def judged (upload : ProofUpload) (order : Order) (intent : ManualPaymentIntent)
    (vision : ProofVision) (now : Time) (verdict : AutoApprovalDecision) : PaymentProof :=
  let proof := newProof upload order vision now
  if verdict.approved then (proof.declareAmount intent).markAutoApproved now
  else { proof with autoApprovalBlockReasons := some verdict.reasons }

/-- From the store's lock to the commit. -/
def persist (rows : TransferRows) (upload : ProofUpload) (order : Order)
    (intent : ManualPaymentIntent) (vision : ProofVision) (proofId : UUID) (now : Time) :
    Except Raised TransferRows :=
  let verdict := decision rows upload order intent vision now
  let proof := judged upload order intent vision now verdict
  match PaymentProofRepository.create rows.proofs proofId proof upload.startedAt with
  | .error constraint => .error (.http ⟨409, constraint.detail⟩)
  | .ok proofs =>
      let stored := { rows with proofs := proofs }
      if verdict.approved then
        stored.settleByProof upload.orderId order intent proof.declaredAmountCents now
      else .ok (stored.updateIntent upload.orderId intent.markProofReceived.status)

end
end SubmitPaymentProof

inductive ReviewDecision where
  | approve
  | reject (reason : Option String)
  deriving DecidableEq

namespace ReviewPaymentProof

def openProof (rows : TransferRows) (proofId : UUID) : Except HttpError PaymentProof :=
  match rows.proofs.get? proofId with
  | none => .error ⟨404, "Payment proof not found."⟩
  | some proof =>
      if proof.status ≠ .awaitingReview then
        .error ⟨409, s!"Proof is already {proof.status.value}; cannot review again."⟩
      else .ok proof

def loadOrder (rows : TransferRows) (proof : PaymentProof) : Except HttpError Order :=
  match rows.orders.get? proof.orderId with
  | none => .error ⟨404, "Order not found for this proof."⟩
  | some order => .ok order

/-- `proof_repo.update` before the other writes. -/
def updateProof (rows : TransferRows) (proofId : UUID) (proof : PaymentProof) (now : Time) :
    Except Raised TransferRows :=
  match PaymentProofRepository.update rows.proofs proofId proof now with
  | none => .error (.valueError s!"PaymentProof {UuidText.writeUuid proofId} not found")
  | some proofs => .ok { rows with proofs := proofs }

def approve (rows : TransferRows) (proofId : UUID) (proof : PaymentProof) (order : Order)
    (intent : ManualPaymentIntent) (reviewer : UUID) (now : Time) : Except Raised TransferRows :=
  if order.paymentStatus = .paid then .error (.http ⟨409, "Order is already paid."⟩)
  else
    let approved := (proof.declareAmount intent).markApproved reviewer now
    match updateProof rows proofId approved now with
    | .error raised => .error raised
    | .ok stored =>
        stored.settleByProof proof.orderId order intent approved.declaredAmountCents now

def reject (rows : TransferRows) (proofId : UUID) (proof : PaymentProof) (reviewer : UUID)
    (reason : Option String) (now : Time) : Except Raised TransferRows :=
  let stated := stripped (reason.getD "")
  if stated = "" then .error (.http ⟨422, "A reason is required when rejecting a proof."⟩)
  else updateProof rows proofId (proof.markRejected (some reviewer) stated now) now

/-- From the read of the intent to the commit. -/
def decide (rows : TransferRows) (proofId : UUID) (proof : PaymentProof) (order : Order)
    (reviewer : UUID) (decision : ReviewDecision) (now : Time) : Except Raised TransferRows :=
  match rows.intents.get? proof.orderId with
  | none => .error (.http ⟨404, "InstaPay intent not found for this proof."⟩)
  | some intent =>
      match decision with
      | .approve => approve rows proofId proof order intent reviewer now
      | .reject reason => reject rows proofId proof reviewer reason now

end ReviewPaymentProof

/-- How far a submission under way has come, with what it has read. -/
inductive Submitting where
  | idle
  | loaded (upload : ProofUpload) (order : UnpaidOrder)
  | accepted (upload : ProofUpload) (order : UnpaidOrder) (intent : ManualPaymentIntent)

inductive Reviewing where
  | idle
  | opened (proofId : UUID) (proof : PaymentProof)
  | loaded (proofId : UUID) (proof : PaymentProof) (order : Order)

/-- The committed rows and the requests under way. -/
structure TransferState where
  rows : TransferRows
  submissions : Nat → Submitting := fun _ => .idle
  reviews : Nat → Reviewing := fun _ => .idle

/-- The reads of a request are steps of their own. Its writes and its commit are one, since
the row of the order's intent is locked in between. -/
inductive TransferLabel where
  | submit (session : Nat) (upload : ProofUpload)
  | check (session : Nat) (now : Time)
  | persist (session : Nat) (vision : ProofVision) (proofId : UUID) (now : Time)
  | review (session : Nat) (proofId : UUID)
  | loadOrder (session : Nat)
  | decide (session : Nat) (reviewer : UUID) (decision : ReviewDecision) (now : Time)

namespace TransferState

def setSubmission (state : TransferState) (session : Nat) (submitting : Submitting) :
    TransferState :=
  { state with submissions := Function.update state.submissions session submitting }

def setReview (state : TransferState) (session : Nat) (reviewing : Reviewing) : TransferState :=
  { state with reviews := Function.update state.reviews session reviewing }

def submit (rows : TransferRows) (upload : ProofUpload) : Submitting :=
  match SubmitPaymentProof.load rows upload with
  | .ok (.order order) => .loaded upload order
  | _ => .idle

def check (rows : TransferRows) (now : Time) : Submitting → Submitting
  | .loaded upload order =>
      match SubmitPaymentProof.check rows upload order now with
      | .ok intent => .accepted upload order intent
      | .error _ => .idle
  | _ => .idle

def persist [CaseFold] (rows : TransferRows) (vision : ProofVision) (proofId : UUID)
    (now : Time) : Submitting → Except Raised TransferRows
  | .accepted upload order intent =>
      SubmitPaymentProof.persist rows upload order intent vision proofId now
  | _ => .ok rows

def review (rows : TransferRows) (proofId : UUID) : Reviewing :=
  match ReviewPaymentProof.openProof rows proofId with
  | .ok proof => .opened proofId proof
  | .error _ => .idle

def loadOrder (rows : TransferRows) : Reviewing → Reviewing
  | .opened proofId proof =>
      match ReviewPaymentProof.loadOrder rows proof with
      | .ok order => .loaded proofId proof order
      | .error _ => .idle
  | _ => .idle

def decide (rows : TransferRows) (reviewer : UUID) (decision : ReviewDecision) (now : Time) :
    Reviewing → Except Raised TransferRows
  | .loaded proofId proof order =>
      ReviewPaymentProof.decide rows proofId proof order reviewer decision now
  | _ => .ok rows

def step [CaseFold] (state : TransferState) : TransferLabel → TransferState
  | .submit session upload => state.setSubmission session (submit state.rows upload)
  | .check session now =>
      state.setSubmission session (check state.rows now (state.submissions session))
  | .persist session vision proofId now =>
      { state with
        rows := orKeep state.rows
          (persist state.rows vision proofId now (state.submissions session)) }.setSubmission
            session .idle
  | .review session proofId => state.setReview session (review state.rows proofId)
  | .loadOrder session =>
      state.setReview session (loadOrder state.rows (state.reviews session))
  | .decide session reviewer decision now =>
      { state with
        rows := orKeep state.rows
          (decide state.rows reviewer decision now (state.reviews session)) }.setReview
            session .idle

end TransferState
end Numu.Payments
