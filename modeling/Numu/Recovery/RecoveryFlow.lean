import Mathlib.Algebra.BigOperators.Group.List.Basic
import Numu.Foundation.Outcome
import Numu.Foundation.Table
import Numu.Orders.Order

/-! The recovery flow of an order: its state machine, its cadence and the handlers that move it. -/

namespace Numu.Recovery
open Numu.Orders (UUID Time given)

inductive RecoveryFlowState where
  | pendingStep1
  | pendingStep2
  | pendingStep3
  | succeeded
  | succeededDeposit
  | abandoned
  | abandonedPartial
  | abandonedByMerchant
  | terminatedUninstall
  | blockedNoGateway
  | blockedNoTemplate
  deriving DecidableEq, Repr

namespace RecoveryFlowState

def value : RecoveryFlowState → String
  | pendingStep1 => "pending_step_1"
  | pendingStep2 => "pending_step_2"
  | pendingStep3 => "pending_step_3"
  | succeeded => "succeeded"
  | succeededDeposit => "succeeded_deposit"
  | abandoned => "abandoned"
  | abandonedPartial => "abandoned_partial"
  | abandonedByMerchant => "abandoned_by_merchant"
  | terminatedUninstall => "terminated_uninstall"
  | blockedNoGateway => "blocked_no_gateway"
  | blockedNoTemplate => "blocked_no_template"

/-- `RECOVERY_FLOW_TERMINAL_STATES`. -/
def terminal : RecoveryFlowState → Bool
  | pendingStep1 | pendingStep2 | pendingStep3 => false
  | _ => true

/-- The states that `mark_succeeded` moves to. -/
def success : RecoveryFlowState → Bool
  | succeeded | succeededDeposit => true
  | _ => false

theorem idle_of_pending {state : RecoveryFlowState} (pending : state.terminal = false) :
    state.success = false := by
  cases state <;> first | rfl | cases pending

end RecoveryFlowState

/-- `_PAYMENT_SUCCESS_TARGETS`. -/
def paymentSuccessTargets : List RecoveryFlowState :=
  [.succeeded, .succeededDeposit, .abandonedPartial]

/-- `_GLOBAL_TERMINATION_TARGETS`. -/
def globalTerminationTargets : List RecoveryFlowState :=
  [.abandoned, .abandonedByMerchant, .terminatedUninstall, .blockedNoTemplate]

/-- `VALID_RECOVERY_TRANSITIONS`. -/
def validRecoveryTransitions : RecoveryFlowState → List RecoveryFlowState
  | .pendingStep1 => .pendingStep2 :: (paymentSuccessTargets ++ globalTerminationTargets)
  | .pendingStep2 => .pendingStep3 :: (paymentSuccessTargets ++ globalTerminationTargets)
  | .pendingStep3 => paymentSuccessTargets ++ globalTerminationTargets
  | _ => []

theorem validRecoveryTransitions_terminal {state : RecoveryFlowState}
    (terminal : state.terminal = true) : validRecoveryTransitions state = [] := by
  cases state <;> first | rfl | cases terminal

structure CadenceStep where
  delaySeconds : Int := 0
  templateKey : Option String := none
  fallbackAction : Option String := none
  deriving DecidableEq, Repr

/-- `DEFAULT_RECOVERY_CADENCE`. -/
def defaultRecoveryCadence : List CadenceStep :=
  [{ delaySeconds := 0, templateKey := some "recovery_step_1_offer" },
    { delaySeconds := 7200, templateKey := some "recovery_step_2_reminder" },
    { delaySeconds := 86400, templateKey := some "recovery_step_3_deposit",
      fallbackAction := some "deposit_only" },
    { delaySeconds := 172800, fallbackAction := some "auto_cancel_or_hold" }]

def cadenceMaxSendSteps : Nat := 5
def cadenceMaxTotalSeconds : Int := 7 * 24 * 3600
def cadenceMinInterStepSeconds : Int := 3600

def validateCadence (cadence : List CadenceStep) : Except String Unit :=
  if cadence = [] then .error "recovery.cadence.empty"
  else if cadenceMaxSendSteps < (cadence.filter fun step => given step.templateKey).length then
    .error "recovery.cadence.too_many_steps"
  else if cadenceMaxTotalSeconds < (cadence.map CadenceStep.delaySeconds).sum then
    .error "recovery.cadence.exceeds_total_window"
  else if cadence.any fun step =>
      0 < step.delaySeconds && step.delaySeconds < cadenceMinInterStepSeconds then
    .error "recovery.cadence.inter_step_too_short"
  else .ok ()

structure RecoveryFlow where
  id : UUID
  tenantId : UUID
  storeId : UUID
  shopifyOrderId : String
  state : RecoveryFlowState
  cadence : List CadenceStep := defaultRecoveryCadence
  currentStepIndex : Nat := 0
  paymentLinkSessionId : Option UUID := none
  /-- In cents, as captured. -/
  recoveredAmountCents : Option Nat := none
  recoveredViaRail : Option String := none
  refundedAt : Option Time := none
  updatedAt : Time := 0
  deriving DecidableEq

namespace RecoveryFlow

def isTerminal (flow : RecoveryFlow) : Bool :=
  flow.state.terminal

def transitionTo (flow : RecoveryFlow) (target : RecoveryFlowState) (now : Time) :
    Except String RecoveryFlow :=
  if target ∈ validRecoveryTransitions flow.state then
    .ok { flow with state := target, updatedAt := now }
  else
    .error (s!"Invalid recovery flow state transition: {flow.state.value} → " ++
      s!"{target.value}")

def successTarget (deposit : Bool) : RecoveryFlowState :=
  if deposit then .succeededDeposit else .succeeded

def markSucceeded (flow : RecoveryFlow) (rail : String) (amountCents : Nat) (deposit : Bool)
    (now : Time) : Except String RecoveryFlow := do
  let moved ← flow.transitionTo (successTarget deposit) now
  return { moved with recoveredAmountCents := some amountCents, recoveredViaRail := some rail }

theorem transitionTo_ok {flow after : RecoveryFlow} {target : RecoveryFlowState} {now : Time}
    (ok : flow.transitionTo target now = .ok after) :
    flow.isTerminal = false ∧ after = { flow with state := target, updatedAt := now } := by
  rw [transitionTo] at ok
  split at ok
  · rename_i valid
    refine ⟨?_, (Except.ok.inj ok).symm⟩
    rcases ended : flow.isTerminal
    · rfl
    · rw [validRecoveryTransitions_terminal ended] at valid
      cases valid
  · cases ok

/-- A payment moves every flow that is still pending. -/
theorem markSucceeded_eq {flow : RecoveryFlow} (pending : flow.isTerminal = false) (rail : String)
    (amountCents : Nat) (deposit : Bool) (now : Time) :
    flow.markSucceeded rail amountCents deposit now = .ok { flow with
      state := successTarget deposit
      recoveredAmountCents := some amountCents
      recoveredViaRail := some rail
      updatedAt := now } := by
  have valid : successTarget deposit ∈ validRecoveryTransitions flow.state := by
    rw [isTerminal] at pending
    rcases deposit <;> rcases state : flow.state <;> rw [state] at pending <;>
      first | decide | cases pending
  rw [markSucceeded, transitionTo, if_pos valid]
  rfl

end RecoveryFlow

/-- What `maybe_start_flow_from_risk_event` reads of its event. -/
structure RiskAssessmentFinalisedEvent where
  storeId : UUID
  shopifyOrderId : Option String
  riskScore : Int
  scoreType : String
  recoveryEnabled : Bool
  hasPaymentGateway : Bool
  subscriptionActive : Bool

/-- `DEFAULT_RECOVERY_TRIGGER_THRESHOLD`. -/
def defaultRecoveryTriggerThreshold : Int := 60

def cadenceToUse (cadence : Option (List CadenceStep)) : List CadenceStep :=
  let chosen := if cadence.getD [] = [] then defaultRecoveryCadence else cadence.getD []
  match validateCadence chosen with
  | .ok _ => chosen
  | .error _ => defaultRecoveryCadence

/-- The flow that a risk event asks for, when it passes the gates. -/
def flowFromRiskEvent (event : RiskAssessmentFinalisedEvent) (tenantId : UUID) (threshold : Int)
    (cadence : Option (List CadenceStep)) (flowId : UUID) (now : Time) : Option RecoveryFlow :=
  if event.scoreType ≠ "final" then none
  else if event.riskScore < threshold then none
  else if !given event.shopifyOrderId then none
  else if !event.subscriptionActive then none
  else if !event.recoveryEnabled then none
  else some {
    id := flowId
    tenantId := tenantId
    storeId := event.storeId
    shopifyOrderId := event.shopifyOrderId.getD ""
    state := if event.hasPaymentGateway then .pendingStep1 else .blockedNoGateway
    cadence := cadenceToUse cadence
    updatedAt := now }

/-- The columns that `update_state` writes. -/
def updateState (stored entity : RecoveryFlow) (now : Time) : RecoveryFlow :=
  { stored with
    state := entity.state
    currentStepIndex := entity.currentStepIndex
    paymentLinkSessionId := entity.paymentLinkSessionId
    recoveredAmountCents := entity.recoveredAmountCents
    recoveredViaRail := entity.recoveredViaRail
    refundedAt := entity.refundedAt
    updatedAt := now }

/-- `_STATE_AFTER_SEND_STEP`. -/
def stateAfterSendStep : Nat → Option RecoveryFlowState
  | 0 => some .pendingStep2
  | 1 => some .pendingStep3
  | _ => none

/-- The target and the reason of `_apply_terminal_action`. -/
def terminalAction (fallbackAction : Option String) : RecoveryFlowState × String :=
  if fallbackAction = some "auto_cancel_or_hold" then (.abandoned, "customer_no_response")
  else if fallbackAction = some "deposit_only" then (.abandoned, "deposit_offer_expired")
  else (.blockedNoTemplate, "unknown_terminal_action")

/-- What `recovery_send_step` does with the row it loaded. -/
inductive SendDecision where
  | bail (status : String)
  | terminate (target : RecoveryFlowState) (reason : String)
  | send (templateKey : String)
  deriving DecidableEq, Repr

def sendDecision (loaded : RecoveryFlow) (stepIndex : Nat) : SendDecision :=
  if loaded.isTerminal then .bail "skipped_terminal"
  else if loaded.currentStepIndex ≠ stepIndex then .bail "step_mismatch"
  else match loaded.cadence[stepIndex]? with
  | none => .bail "out_of_bounds"
  | some step =>
      if given step.templateKey then .send (step.templateKey.getD "")
      else .terminate (terminalAction step.fallbackAction).1 (terminalAction step.fallbackAction).2

/-- The write that follows a send, also one that failed. -/
def advance (stored : RecoveryFlow) (stepIndex : Nat) (now : Time) : RecoveryFlow :=
  match stateAfterSendStep stepIndex with
  | none => stored
  | some next =>
      { stored with state := next, currentStepIndex := stepIndex + 1, updatedAt := now }

/-- The write of `_apply_terminal_action`. -/
def terminate (stored : RecoveryFlow) (target : RecoveryFlowState) (now : Time) : RecoveryFlow :=
  { stored with state := target, updatedAt := now }

theorem stateAfterSendStep_pending {stepIndex : Nat} {next : RecoveryFlowState}
    (after : stateAfterSendStep stepIndex = some next) : next.terminal = false := by
  rw [stateAfterSendStep.eq_def] at after
  split at after
  · cases after
    rfl
  · cases after
    rfl
  · cases after

theorem terminalAction_ends (fallbackAction : Option String) :
    (terminalAction fallbackAction).1.terminal = true ∧
      (terminalAction fallbackAction).1.success = false := by
  rw [terminalAction]
  split
  · exact ⟨rfl, rfl⟩
  · split <;> exact ⟨rfl, rfl⟩

/-- A handler only acts on a row that it saw pending. -/
theorem sendDecision_pending {loaded : RecoveryFlow} {stepIndex : Nat}
    (acts : ∀ status, sendDecision loaded stepIndex ≠ .bail status) :
    loaded.isTerminal = false := by
  rcases ended : loaded.isTerminal
  · rfl
  · exact absurd (if_pos ended) (acts "skipped_terminal")

end Numu.Recovery
