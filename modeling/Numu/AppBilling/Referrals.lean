import Numu.AppBilling.Payable

/-!
# Referral credits and payouts

The writers of the partner ledger beside the sales: the credit for a plan invoice, its reversal,
an admin's adjustments and payouts.
-/

namespace Numu.AppBilling
open Numu.Orders (UUID Time)
open Numu.Invoices (UpperCase)
open Numu.Outcome (orKeep)

/-- What a referral reads of the partner's account. -/
structure ReferralTerms where
  referralBps : Fin 10001 := 2000
  referralMonths : Nat := 12
  deriving DecidableEq

structure BillingInvoice where
  tenantId : UUID
  amountCents : Int
  currency : String := "EGP"
  paidAt : Option Time := none
  deriving DecidableEq

/-- The referrer of a tenant. -/
structure PartnerReferral where
  partnerId : UUID
  firstPaidAt : Option Time := none
  deriving DecidableEq

def commission (grossCents : Int) (bps : Nat) : Int := (grossCents * bps + 5000) / 10000

def windowEnd (firstPaidAt : Time) (months : Nat) : Time :=
  firstPaidAt + months * 365 / 12 * Calendar.dayLength

def referralKey (invoiceId : UUID) : String := s!"referral:{UuidText.writeUuid invoiceId}"

def reversalKey (invoiceId : UUID) : String := s!"referral-refund:{UuidText.writeUuid invoiceId}"

def adjustmentKey (partnerId : UUID) (reference : String) : String :=
  s!"adjustment:{UuidText.writeUuid partnerId}:{reference}"

def payoutKey (partnerId : UUID) (reference : String) : String :=
  s!"payout:{UuidText.writeUuid partnerId}:{reference}"

/-- Referrals are kept by tenant, as their unique constraint has it. -/
structure PartnerState where
  billing : BillingState := {}
  referrals : Table UUID PartnerReferral := .empty

namespace PartnerState

def ledger (state : PartnerState) : Table String PartnerLedgerEntry := state.billing.books.ledger

def setEntry (state : PartnerState) (key : String) (entry : PartnerLedgerEntry) : PartnerState :=
  { state with billing := { state.billing with
    books := { state.billing.books with ledger := state.ledger.set key entry } } }

/-- An entry under a new key; a key that is taken violates the unique constraint. -/
def addEntry (state : PartnerState) (key : String) (entry : PartnerLedgerEntry) :
    Except BillingError PartnerState :=
  if (state.ledger.get? key).isSome then .error .integrity else .ok (state.setEntry key entry)

/-- `attribute_tenant`, with the id and the user of the approved partner who has the code. -/
def attributeTenant (state : PartnerState) (partner : Option (UUID × UUID))
    (tenantId userId : UUID) : PartnerState :=
  match partner with
  | none => state
  | some (partnerId, partnerUser) =>
      if partnerUser = userId || (state.referrals.get? tenantId).isSome then state
      else { state with referrals := state.referrals.set tenantId { partnerId := partnerId } }

/-- `assign`, with the first payment among the tenant's invoices. -/
def assign (state : PartnerState) (tenantId : UUID) (partnerId : Option UUID)
    (firstPaid : Option Time) : PartnerState :=
  match partnerId with
  | none => { state with referrals := state.referrals.erase tenantId }
  | some partnerId =>
      let referral := (state.referrals.get? tenantId).getD
        { partnerId := partnerId, firstPaidAt := firstPaid }
      { state with
        referrals := state.referrals.set tenantId { referral with partnerId := partnerId } }

/-- `_credit`. -/
def credit (state : PartnerState) (accounts : UUID → Option ReferralTerms) (invoiceId : UUID)
    (invoice : BillingInvoice) (now : Time) : Except BillingError PartnerState :=
  match state.referrals.get? invoice.tenantId with
  | none => .ok state
  | some referral =>
      let paidAt := invoice.paidAt.getD now
      let firstPaidAt := referral.firstPaidAt.getD paidAt
      let noted : PartnerState := { state with
        referrals := state.referrals.set invoice.tenantId
          { referral with firstPaidAt := some firstPaidAt } }
      match accounts referral.partnerId with
      | none => .ok noted
      | some terms =>
          if windowEnd firstPaidAt terms.referralMonths ≤ paidAt then .ok noted
          else
            let amount := commission invoice.amountCents terms.referralBps
            if amount ≤ 0 then .ok noted
            else noted.addEntry (referralKey invoiceId) {
              partnerId := referral.partnerId
              kind := .referral
              amountCents := amount
              grossCents := some invoice.amountCents
              currency := if invoice.currency = "" then "EGP" else invoice.currency
              createdAt := paidAt }

/-- `credit_invoice`: what fails is rolled back to its savepoint. -/
def creditInvoice (state : PartnerState) (accounts : UUID → Option ReferralTerms)
    (invoiceId : UUID) (invoice : BillingInvoice) (now : Time) : PartnerState :=
  if invoice.amountCents ≤ 0 then state
  else orKeep state (state.credit accounts invoiceId invoice now)

/-- The entry that takes a referral credit back. -/
def reversal (credit : PartnerLedgerEntry) (actorUserId : UUID) (note : String) (now : Time) :
    PartnerLedgerEntry where
  partnerId := credit.partnerId
  kind := .referral
  amountCents := -credit.amountCents
  grossCents := some (-(credit.grossCents.getD 0))
  currency := credit.currency
  actorUserId := some actorUserId
  note := some note
  createdAt := now

/-- `reverse_invoice`. -/
def reverseInvoice (state : PartnerState) (invoiceId actorUserId : UUID) (note : String)
    (now : Time) : Except BillingError PartnerState :=
  match state.ledger.get? (referralKey invoiceId) with
  | none => .ok state
  | some credit =>
      if (state.ledger.get? (reversalKey invoiceId)).isSome then .ok state
      else state.addEntry (reversalKey invoiceId) (reversal credit actorUserId note now)

def stripped (text : String) : String := String.ofList (IntegerText.strip text.toList)

/-- `record_adjustment`. -/
def recordAdjustment (state : PartnerState) (partnerId : UUID) (amountCents : Int)
    (reference note : String) (actorUserId : UUID) (currency : String) (now : Time) :
    Except BillingError PartnerState :=
  let reference := stripped reference
  let note := stripped note
  if amountCents = 0 ∨ reference = "" ∨ note = "" then
    .error (.value "An adjustment needs a non-zero amount, a reference and a note.")
  else if (state.ledger.get? (adjustmentKey partnerId reference)).isSome then
    .error (.value s!"Adjustment {reference} is already recorded.")
  else state.addEntry (adjustmentKey partnerId reference) {
    partnerId := partnerId
    kind := .adjustment
    amountCents := amountCents
    currency := currency
    reference := some reference
    actorUserId := some actorUserId
    note := some note
    createdAt := now }

/-- Python's `,` format. -/
def thousands (count : Nat) : String :=
  if count < 1000 then Nat.repr count
  else thousands (count / 1000) ++ "," ++ String.ofList (Calendar.padded 3 (count % 1000))

def pounds (cents : Nat) : String :=
  thousands (cents / 100) ++ "." ++ String.ofList (Calendar.padded 2 (cents % 100))

/-- `record_payout`, with the instant that the hold is counted to. -/
def recordPayout (state : PartnerState) (partnerId : UUID) (amountCents : Int) (reference : String)
    (actorUserId : UUID) (note : Option String) (currency : String) (asOf now : Time) :
    Except BillingError PartnerState :=
  let reference := stripped reference
  if amountCents ≤ 0 ∨ reference = "" then
    .error (.value "A payout needs a positive amount and the transfer reference.")
  else if partnerPayable state.ledger partnerId asOf < amountCents then
    let payable := pounds (partnerPayable state.ledger partnerId asOf).toNat
    .error (.value (s!"EGP {payable} is payable now (sales stay on hold for " ++
      "30 days); a payout can't exceed it."))
  else if (state.ledger.get? (payoutKey partnerId reference)).isSome then
    .error (.value s!"Transfer {reference} is already recorded.")
  else state.addEntry (payoutKey partnerId reference) {
    partnerId := partnerId
    kind := .payout
    amountCents := -amountCents
    currency := currency
    reference := some reference
    actorUserId := some actorUserId
    note := note
    createdAt := now }

end PartnerState

inductive PartnerLabel where
  | billing (label : BillingLabel)
  | attributeTenant (partner : Option (UUID × UUID)) (tenantId userId : UUID)
  | assign (tenantId : UUID) (partnerId : Option UUID) (firstPaid : Option Time)
  | creditInvoice (accounts : UUID → Option ReferralTerms) (invoiceId : UUID)
      (invoice : BillingInvoice) (now : Time)
  | reverseInvoice (invoiceId actorUserId : UUID) (note : String) (now : Time)
  | recordAdjustment (partnerId : UUID) (amountCents : Int) (reference note : String)
      (actorUserId : UUID) (currency : String) (now : Time)
  | recordPayout (partnerId : UUID) (amountCents : Int) (reference : String) (actorUserId : UUID)
      (note : Option String) (currency : String) (asOf now : Time)

/-- A call that raises is rolled back. -/
def PartnerState.step [UpperCase] (state : PartnerState) : PartnerLabel → PartnerState
  | .billing label => { state with billing := state.billing.step label }
  | .attributeTenant partner tenantId userId => state.attributeTenant partner tenantId userId
  | .assign tenantId partnerId firstPaid => state.assign tenantId partnerId firstPaid
  | .creditInvoice accounts invoiceId invoice now =>
      state.creditInvoice accounts invoiceId invoice now
  | .reverseInvoice invoiceId actorUserId note now =>
      orKeep state (state.reverseInvoice invoiceId actorUserId note now)
  | .recordAdjustment partnerId amountCents reference note actorUserId currency now =>
      orKeep state
        (state.recordAdjustment partnerId amountCents reference note actorUserId currency now)
  | .recordPayout partnerId amountCents reference actorUserId note currency asOf now =>
      orKeep state
        (state.recordPayout partnerId amountCents reference actorUserId note currency asOf now)

end Numu.AppBilling
