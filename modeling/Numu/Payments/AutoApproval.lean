import Mathlib.Data.List.Infix
import Numu.Foundation.IntegerText
import Numu.Payments.ManualTransfer

/-! The rules that approve a proof of a manual transfer unseen. -/

namespace Numu.Payments
open Numu.Orders

/-- `str.casefold` and `str.isdigit`, whose tables are those of the Unicode database. -/
class CaseFold where
  casefold : String → String
  isDigit : Char → Bool

/-- The ASCII characters alone. -/
@[reducible] def CaseFold.ascii : CaseFold := ⟨fun text => text.map Char.toLower, Char.isDigit⟩

structure AutoApprovalConfig where
  thresholdCents : Int
  dailyCapCents : Int
  dailyCountCap : Int
  enabled : Bool := true
  amountMismatchToleranceBps : Option Int := some 100
  requireOcrAmountMatch : Bool := false
  requireOcrIpaMatch : Bool := false
  ocrAmountToleranceBps : Int := 100
  requireNoteContainsReference : Bool := false
  requireTransactionRefMatch : Bool := false
  requireRecipientNameMatch : Bool := false

structure AutoApprovalFacts where
  orderTotalCents : Int
  dailyAutoApprovedCount : Nat
  dailyAutoApprovedCents : Int
  merchantIpa : Option String := none
  intentReferenceCode : Option String := none
  submittedTransactionRef : Option String := none
  merchantRecipientNameToken : Option String := none
  now : Time

structure AutoApprovalDecision where
  approved : Bool
  reasons : List String := []
  softBlock : Bool := true
  deriving DecidableEq

namespace AutoApproval

def reasonIf (failed : Bool) (reason : String) : List String :=
  if failed then [reason] else []

theorem reasonIf_eq_nil {failed : Bool} {reason : String} (none_ : reasonIf failed reason = []) :
    failed = false := by
  cases failed with
  | false => rfl
  | true => cases none_

/-- The amount is off the order's by more than the tolerance, in basis points. -/
def mismatch (amount total bps : Int) : Bool :=
  total * bps / 10000 < |amount - total|

/-- Python's `needle in text`. -/
def contains (text needle : String) : Bool :=
  decide (needle.toList <:+: text.toList)

section
variable [CaseFold]

def digits (text : String) : List Char :=
  text.toList.filter CaseFold.isDigit

def caseContains (text needle : String) : Bool :=
  contains (CaseFold.casefold text) (CaseFold.casefold needle)

/-- The cross-checks against what was read off the screenshot, each opted into. -/
def ocrReasons (proof : PaymentProof) (config : AutoApprovalConfig) (facts : AutoApprovalFacts) :
    List String :=
  let ready := proof.ocrStatus = some "ok"
  reasonIf
      (config.requireOcrAmountMatch && ready && 0 < facts.orderTotalCents &&
        proof.ocrExtractedAmountCents.any fun amount =>
          mismatch amount facts.orderTotalCents config.ocrAmountToleranceBps)
      "ocr_amount_mismatch" ++
    reasonIf
      (config.requireOcrIpaMatch && ready && given proof.ocrExtractedIpa &&
        given facts.merchantIpa &&
        CaseFold.casefold (proof.ocrExtractedIpa.getD "") ≠
          CaseFold.casefold (facts.merchantIpa.getD ""))
      "ocr_ipa_mismatch" ++
    reasonIf
      (config.requireNoteContainsReference && ready && given proof.ocrExtractedNote &&
        given facts.intentReferenceCode &&
        !caseContains (proof.ocrExtractedNote.getD "") (facts.intentReferenceCode.getD ""))
      "ocr_note_missing_reference" ++
    reasonIf
      (config.requireTransactionRefMatch && ready && given proof.ocrExtractedTransactionRef &&
        given facts.submittedTransactionRef &&
        let ocrDigits := digits (proof.ocrExtractedTransactionRef.getD "")
        let submittedDigits := digits (facts.submittedTransactionRef.getD "")
        ocrDigits ≠ [] && submittedDigits ≠ [] && ocrDigits ≠ submittedDigits)
      "ocr_transaction_ref_mismatch" ++
    reasonIf
      (config.requireRecipientNameMatch && ready && given proof.ocrExtractedRecipientName &&
        given facts.merchantRecipientNameToken &&
        let token := String.ofList
          (IntegerText.strip (facts.merchantRecipientNameToken.getD "").toList)
        token ≠ "" && !caseContains (proof.ocrExtractedRecipientName.getD "") token)
      "ocr_recipient_name_mismatch"

def evaluate (intent : ManualPaymentIntent) (proof : PaymentProof) (config : AutoApprovalConfig)
    (facts : AutoApprovalFacts) : AutoApprovalDecision :=
  let hardBlock := intent.isExpired facts.now
  let expired := reasonIf hardBlock "intent_expired"
  if !config.enabled then
    { approved := false
      reasons := expired ++ ["auto_approval_disabled"]
      softBlock := !hardBlock }
  else
    let reasons := expired ++
      reasonIf (config.thresholdCents < facts.orderTotalCents)
        "amount_above_auto_approve_threshold" ++
      reasonIf
        (config.amountMismatchToleranceBps.any fun bps =>
          proof.declaredAmountCents.any fun amount =>
            0 < facts.orderTotalCents && mismatch amount facts.orderTotalCents bps)
        "declared_amount_mismatch" ++
      reasonIf (config.dailyCountCap ≤ facts.dailyAutoApprovedCount)
        "daily_auto_approve_count_exceeded" ++
      reasonIf (config.dailyCapCents < facts.dailyAutoApprovedCents + facts.orderTotalCents)
        "daily_auto_approve_amount_exceeded" ++
      ocrReasons proof config facts
    if reasons = [] then { approved := true, reasons := [], softBlock := false }
    else { approved := false, reasons := reasons, softBlock := !hardBlock }

/-- What a store's settings promise of every proof that is approved unseen. -/
structure WithinLimits (intent : ManualPaymentIntent) (config : AutoApprovalConfig)
    (facts : AutoApprovalFacts) : Prop where
  enabled : config.enabled = true
  open_ : intent.isExpired facts.now = false
  threshold : facts.orderTotalCents ≤ config.thresholdCents
  count : (facts.dailyAutoApprovedCount : Int) < config.dailyCountCap
  cents : facts.dailyAutoApprovedCents + facts.orderTotalCents ≤ config.dailyCapCents

theorem evaluate_approved {intent : ManualPaymentIntent} {proof : PaymentProof}
    {config : AutoApprovalConfig} {facts : AutoApprovalFacts}
    (approved : (evaluate intent proof config facts).approved = true) :
    WithinLimits intent config facts := by
  unfold evaluate at approved
  simp only at approved
  split at approved
  · cases approved
  · rename_i enabled
    split at approved
    · rename_i clean
      simp only [List.append_eq_nil_iff] at clean
      rcases clean with ⟨⟨⟨⟨⟨open_, threshold⟩, -⟩, count⟩, cents⟩, -⟩
      refine ⟨?_, reasonIf_eq_nil open_, ?_, ?_, ?_⟩
      · simpa using enabled
      · simpa using reasonIf_eq_nil threshold
      · simpa using reasonIf_eq_nil count
      · simpa using reasonIf_eq_nil cents
    · cases approved

end
end AutoApproval
end Numu.Payments
