import Mathlib.Logic.Function.Basic
import Numu.Foundation.Run
import Numu.Recovery.RecoveryFlow

/-! Interleavings of the handlers that move one flow: each reads it, decides and writes. -/

namespace Numu.Recovery
open Numu.Orders (Time)

/-- What a handler holds between its transactions. -/
inductive FlowSession where
  | idle
  | loaded (copy : RecoveryFlow)
  /-- A send that inserted its step row and has yet to advance the flow. -/
  | sending (stepIndex : Nat)

structure FlowRun where
  flow : RecoveryFlow
  /-- The step rows of the flow. -/
  steps : List Nat := []
  sessions : Nat → FlowSession := fun _ => .idle

inductive FlowLabel where
  | read (call : Nat)
  | applyPayment (call : Nat) (rail : String) (amountCents : Nat) (deposit : Bool) (now : Time)
  | abandon (call : Nat) (target : RecoveryFlowState) (now : Time)
  | insertStep (call stepIndex : Nat)
  | advance (call : Nat) (now : Time)
  | terminate (call stepIndex : Nat) (now : Time)

namespace FlowRun

/-- What a handler decided to write, from the copy that it holds. -/
def decided (run : FlowRun) : FlowLabel → Option (RecoveryFlowState × (RecoveryFlow → RecoveryFlow))
  | .read _ => none
  | .applyPayment call rail amountCents deposit now =>
      match run.sessions call with
      | .loaded copy =>
          if copy.isTerminal then none
          else (copy.markSucceeded rail amountCents deposit now).toOption.map fun moved =>
            (moved.state, fun stored => updateState stored moved now)
      | _ => none
  | .abandon call target now =>
      match run.sessions call with
      | .loaded copy => (copy.transitionTo target now).toOption.map fun moved =>
          (moved.state, fun stored => updateState stored moved now)
      | _ => none
  | .insertStep _ _ => none
  | .advance call now =>
      match run.sessions call with
      | .sending stepIndex => (stateAfterSendStep stepIndex).map fun next =>
          (next, fun stored => Recovery.advance stored stepIndex now)
      | _ => none
  | .terminate call stepIndex now =>
      match run.sessions call with
      | .loaded copy =>
          match sendDecision copy stepIndex with
          | .terminate target _ => some (target, fun stored => Recovery.terminate stored target now)
          | _ => none
      | _ => none

def caller : FlowLabel → Nat
  | .read call | .applyPayment call _ _ _ _ | .abandon call _ _ | .insertStep call _
  | .advance call _ | .terminate call _ _ => call

/-- The session after a call; a write ends it. -/
def sessionAfter (run : FlowRun) : FlowLabel → FlowSession
  | .read _ => .loaded run.flow
  | .insertStep call stepIndex =>
      match run.sessions call with
      | .loaded copy =>
          match sendDecision copy stepIndex with
          | .send _ => if stepIndex ∈ run.steps then .idle else .sending stepIndex
          | _ => .idle
      | session => session
  | _ => .idle

/-- The unique constraint keeps one row of a step. -/
def stepsAfter (run : FlowRun) : FlowLabel → List Nat
  | .insertStep call stepIndex =>
      match run.sessions call with
      | .loaded copy =>
          match sendDecision copy stepIndex with
          | .send _ => if stepIndex ∈ run.steps then run.steps else run.steps ++ [stepIndex]
          | _ => run.steps
      | _ => run.steps
  | _ => run.steps

def step (run : FlowRun) (label : FlowLabel) : FlowRun where
  flow := ((run.decided label).map fun write => write.2 run.flow).getD run.flow
  steps := run.stepsAfter label
  sessions := Function.update run.sessions (caller label) (run.sessionAfter label)

/-- A terminal state is left as it is. -/
def Final (before after : FlowRun) : Prop :=
  before.flow.isTerminal = true → after.flow.state = before.flow.state

/-- Whoever writes finds the flow still pending, or already in the state that it writes. -/
def Current (run : FlowRun) (label : FlowLabel) : Prop :=
  ∀ write ∈ run.decided label, run.flow.isTerminal = false ∨ run.flow.state = write.1

section Steps
variable {run : FlowRun} {label : FlowLabel}
  {write : RecoveryFlowState × (RecoveryFlow → RecoveryFlow)}

/-- A write stores the state that was decided on. -/
theorem decided_state (decision : run.decided label = some write) (stored : RecoveryFlow) :
    (write.2 stored).state = write.1 := by
  cases label with
  | read call => cases decision
  | insertStep call stepIndex => cases decision
  | applyPayment call rail amountCents deposit now =>
      simp only [decided] at decision
      split at decision
      · split at decision
        · cases decision
        · rcases Option.map_eq_some_iff.mp decision with ⟨moved, -, rfl⟩
          rfl
      · cases decision
  | abandon call target now =>
      simp only [decided] at decision
      split at decision
      · rcases Option.map_eq_some_iff.mp decision with ⟨moved, -, rfl⟩
        rfl
      · cases decision
  | advance call now =>
      simp only [decided] at decision
      split at decision
      · rcases Option.map_eq_some_iff.mp decision with ⟨next, after, rfl⟩
        simp only [Recovery.advance, after]
      · cases decision
  | terminate call stepIndex now =>
      simp only [decided] at decision
      split at decision
      · split at decision
        · cases decision
          rfl
        · cases decision
      · cases decision

theorem final_step_iff (run : FlowRun) (label : FlowLabel) :
    Final run (run.step label) ↔ run.Current label := by
  rw [Final, Current, step]
  rcases decision : run.decided label with _ | write
  · simp
  · have stores := decided_state decision run.flow
    simp only [Option.map_some, Option.getD_some, Option.mem_def, Option.some.injEq, forall_eq',
      stores]
    rcases run.flow.isTerminal
    · simp
    · simp [eq_comm]

end Steps

/-- Over every interleaving of the handlers of a flow, a terminal state that is stored stays
stored exactly if each handler writes while the flow is still pending, or the state it finds. -/
theorem outcome_final_iff (flow : RecoveryFlow) (labels : List FlowLabel) :
    Run.Settles step (fun state => state.terminal = true) (fun run => run.flow.state)
        { flow := flow } labels ↔
      Run.Guarded step Current { flow := flow } labels :=
  Run.settles_iff_transitions.trans
    (Run.transitions_iff_guarded (I := fun _ => True) (fun _ _ _ => trivial)
      (fun run label _ => final_step_iff run label) trivial labels)

def newFlow : RecoveryFlow where
  id := 51
  tenantId := 7
  storeId := 3
  shopifyOrderId := "1001"
  state := .pendingStep1

/-- The customer pays while the first offer is being sent. -/
theorem recovered_flow_pending_again :
    ¬ Run.Settles step (fun state => state.terminal = true) (fun run => run.flow.state)
      { flow := newFlow }
      [.read 0, .insertStep 0 0, .read 1, .applyPayment 1 "paymob" 15000 false 20,
        .advance 0 21] := by
  intro settles
  have succeeded := settles
    [.read 0, .insertStep 0 0, .read 1, .applyPayment 1 "paymob" 15000 false 20] [.advance 0 21] []
    rfl (by decide +kernel)
  revert succeeded
  decide +kernel

end FlowRun
end Numu.Recovery
