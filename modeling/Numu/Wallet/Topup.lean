import Numu.Foundation.Table
import Numu.Foundation.UuidText
import Numu.Wallet.WalletService

/-! Top-up intents, their proofs and the use cases that move them. -/

namespace Numu.Wallet
open Numu.Orders (UUID Time given)

inductive TopupMethod where
  | card
  | vodafoneCash
  | instapay
  deriving DecidableEq, Repr

def TopupMethod.value : TopupMethod → String
  | card => "card"
  | vodafoneCash => "vodafone_cash"
  | instapay => "instapay"

/-- `MANUAL_TOPUP_METHODS`. -/
def manualTopupMethods : List TopupMethod := [.vodafoneCash, .instapay]

inductive TopupIntentStatus where
  | pending
  | awaitingProof
  | underReview
  | succeeded
  | failed
  | expired
  deriving DecidableEq, Repr

structure TopupIntent where
  method : TopupMethod
  amountCents : Nat
  currency : String := "EGP"
  status : TopupIntentStatus
  specialReference : String
  expiresAt : Option Time
  gatewayTransactionId : Option String := none
  creditedTransactionId : Option UUID := none
  failureReason : Option String := none
  /-- The request schema asks for an amount above zero. -/
  amount_pos : 0 < amountCents

inductive TopupProofStatus where
  | autoApproved
  | awaitingReview
  | approved
  | rejected
  deriving DecidableEq, Repr

def TopupProofStatus.value : TopupProofStatus → String
  | autoApproved => "auto_approved"
  | awaitingReview => "awaiting_review"
  | approved => "approved"
  | rejected => "rejected"

structure TopupProof where
  topupIntentId : UUID
  status : TopupProofStatus
  reviewDecisionBy : Option UUID := none
  reviewDecisionAt : Option Time := none
  rejectionReason : Option String := none
  deriving DecidableEq

/-- An `HTTPException`. -/
structure HttpError where
  status : Nat
  detail : String
  deriving DecidableEq

/-- The checks `SubmitTopupProofUseCase.execute` makes on the intent it read. -/
def checkSubmission (intent : Option TopupIntent) (transactionRef : String) (now : Time) :
    Except HttpError TopupIntent :=
  if transactionRef = "" then .error ⟨422, "Transaction reference is required."⟩
  else match intent with
  | none => .error ⟨404, "Top-up not found."⟩
  | some intent =>
      if intent.method ∉ manualTopupMethods then
        .error ⟨409, "This top-up method does not use receipt upload."⟩
      else if intent.status = .succeeded then
        .error ⟨409, "This top-up is already credited."⟩
      else if intent.status ≠ .awaitingProof ∧ intent.status ≠ .underReview then
        .error ⟨409, "This top-up can no longer accept a receipt."⟩
      else if intent.expiresAt.any (· ≤ now) then
        .error ⟨410, "The payment window for this top-up has expired."⟩
      else .ok intent

/-- The checks of `_load` on the proof it read. -/
def checkReview (proof : Option TopupProof) : Except HttpError TopupProof :=
  match proof with
  | none => .error ⟨404, "Proof not found."⟩
  | some proof =>
      if proof.status ≠ .awaitingReview then
        .error ⟨409, s!"Proof is already {proof.status.value}."⟩
      else .ok proof

def proofKey (proofId : UUID) : String :=
  "proof:" ++ UuidText.writeUuid proofId

/-- A settled gateway call for a top-up, as its handler reads it. -/
structure GatewayCall where
  success : Bool
  refunded : Bool := false
  amountCents : Int
  transactionId : String
  message : String := "declined"
  /-- `"paymob"` or `"kashier"`. -/
  gateway : String

def topupPrefix : String := "WTOP-"

/-- One wallet with its ledger, its top-up intents and their proofs, as committed. -/
structure TopupState where
  wallet : MerchantWallet := {}
  ledger : List WalletTransaction := []
  /-- Ledger rows of the other wallets. -/
  others : List WalletTransaction := []
  intents : Table UUID TopupIntent := .empty
  proofs : Table UUID TopupProof := .empty
  /-- The intents that uploads under way found open, and the proofs that reviews under way
  found waiting. -/
  submitting : Nat → Option UUID := fun _ => none
  reviewing : Nat → Option (UUID × TopupProof) := fun _ => none

namespace TopupState

def setIntent (state : TopupState) (intentId : UUID) (f : TopupIntent → TopupIntent) : TopupState :=
  { state with intents := state.intents.modify intentId f }

def setProof (state : TopupState) (proofId : UUID) (f : TopupProof → TopupProof) : TopupState :=
  { state with proofs := state.proofs.modify proofId f }

/-- The entry of `credit_topup_intent`. -/
def topupEntry (intentId : UUID) (intent : TopupIntent) (idempotencyKey : String)
    (actorUserId : Option UUID) : Entry where
  kind := .topup
  amountCents := intent.amountCents
  currency := intent.currency
  topupIntentId := some intentId
  idempotencyKey := some idempotencyKey
  actorUserId := actorUserId
  note := some s!"Top-up via {intent.method.value} ({intent.specialReference})"

def releaseReviewHold (wallet : MerchantWallet) (intent : TopupIntent) : MerchantWallet :=
  if intent.status = .underReview then WalletService.releasePendingHold wallet intent.amountCents
  else wallet

/-- `credit_topup_intent` on the intent it locked; `none` is a `WalletSuspendedError`, which
rolls the request back. `txId` is the id of the row it may append. -/
def creditTopupIntent (state : TopupState) (intentId : UUID) (intent : TopupIntent)
    (idempotencyKey : String) (actorUserId : Option UUID) (txId : UUID) : Option TopupState :=
  if intent.status = .succeeded ∨ intent.creditedTransactionId.isSome then some state
  else
    let wallet := releaseReviewHold state.wallet intent
    let entry := topupEntry intentId intent idempotencyKey actorUserId
    match WalletService.applyEntry (state.ledger ++ state.others) wallet entry with
    | .suspended => none
    | .alreadyApplied =>
        some ({ state with wallet := wallet }.setIntent intentId fun stored =>
          { stored with status := .succeeded })
    | .applied tx =>
        some ({ state with
          wallet := { wallet with balanceCents := tx.balanceAfterCents }
          ledger := state.ledger ++ [tx] }.setIntent intentId fun stored =>
            { stored with status := .succeeded, creditedTransactionId := some txId })

/-- The queued branch of an upload, on the intent it locked. -/
def queueForReview (state : TopupState) (intentId : UUID) (intent : TopupIntent) : TopupState :=
  let held :=
    if intent.status = .awaitingProof then
      { state with wallet := WalletService.addPendingHold state.wallet intent.amountCents }
    else state
  if intent.status ≠ .succeeded then
    held.setIntent intentId fun stored => { stored with status := .underReview }
  else held

/-- `ReviewTopupProofUseCase.reject`, on the intent it locked. -/
def rejectProof (state : TopupState) (proofId intentId : UUID) (intent : TopupIntent)
    (adminUserId : UUID) (reason : String) (now : Time) : TopupState :=
  let rejectionReason := if reason = "" then "Rejected by admin" else reason
  let marked := state.setProof proofId fun stored =>
    { stored with
      status := .rejected
      reviewDecisionBy := some adminUserId
      reviewDecisionAt := some now
      rejectionReason := some rejectionReason }
  let released := { marked with wallet := releaseReviewHold marked.wallet intent }
  if intent.status ≠ .succeeded then
    released.setIntent intentId fun stored =>
      { stored with status := .awaitingProof, failureReason := some rejectionReason }
  else released

def approveProof (state : TopupState) (proofId intentId : UUID) (intent : TopupIntent)
    (adminUserId txId : UUID) (now : Time) : Option TopupState :=
  let marked := state.setProof proofId fun stored =>
    { stored with
      status := .approved
      reviewDecisionBy := some adminUserId
      reviewDecisionAt := some now }
  marked.creditTopupIntent intentId intent (proofKey proofId) (some adminUserId) txId

/-- The platform webhooks, on the intent they locked. -/
def gatewayWebhook (state : TopupState) (intentId : UUID) (intent : TopupIntent)
    (call : GatewayCall) (txId : UUID) : Option TopupState :=
  if !topupPrefix.isPrefixOf intent.specialReference || call.refunded then some state
  else if !call.success then
    if intent.status = .pending then
      some (state.setIntent intentId fun stored =>
        { stored with
          status := .failed
          gatewayTransactionId := some call.transactionId
          failureReason := some call.message })
    else some state
  else if intent.status ≠ .pending ∧ intent.status ≠ .expired ∧ intent.status ≠ .failed then
    some state
  else if call.amountCents ≠ intent.amountCents then some state
  else
    let named := state.setIntent intentId fun stored =>
      { stored with gatewayTransactionId := some call.transactionId }
    named.creditTopupIntent intentId intent (call.gateway ++ ":" ++ call.transactionId) none txId

/-- The statement of `expire_wallet_topups_task`, on one row. -/
def expireIntent (now : Time) (intent : TopupIntent) : TopupIntent :=
  if (intent.status = .pending ∨ intent.status = .awaitingProof) ∧ intent.expiresAt.any (· < now)
  then { intent with status := .expired, failureReason := some "expired" }
  else intent

end TopupState
end Numu.Wallet
