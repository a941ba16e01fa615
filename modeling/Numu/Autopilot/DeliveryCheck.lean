import Numu.Foundation.Calendar
import Numu.Orders.Order

/-! The delivery check of a cash order: its row, the sweeps and the replies that move it. -/

namespace Numu.Autopilot
open Numu.Orders (OrderStatus Time given)

def days (count : Nat) : Time := count * Calendar.dayLength

inductive Outcome where
  | pending
  | deliveredConfirmed
  | responseExhausted
  | assumedDelivered
  | exception
  | superseded
  deriving DecidableEq, Repr

/-- `TERMINAL_OUTCOMES`. -/
def terminalOutcomes : List Outcome := [.deliveredConfirmed, .assumedDelivered, .superseded]

def Outcome.terminal (outcome : Outcome) : Bool := outcome ∈ terminalOutcomes

inductive Response where
  | none
  | received
  | notYet
  | refused
  deriving DecidableEq, Repr

inductive ExceptionReason where
  | refused
  | responseExhausted
  | lateContradiction
  deriving DecidableEq, Repr

/-- The `cod_autopilot` block; a number is absent where `int` raises or the key is missing. -/
structure RawSettings where
  enabled : Bool := false
  deliveryCheckDelayDays : Option Int := none
  deliveryCheckRetryDays : Option Int := none
  deliveryCheckMaxAttempts : Option Int := none
  assumedDeliveredDays : Option Int := none

structure CodAutopilotConfig where
  enabled : Bool
  deliveryCheckDelayDays : Nat
  deliveryCheckRetryDays : Nat
  deliveryCheckMaxAttempts : Nat
  assumedDeliveredDays : Nat
  maxAttempts_pos : 1 ≤ deliveryCheckMaxAttempts

/-- A setting within its bounds. -/
def clamped (lo hi default : Nat) (value : Option Int) : Nat :=
  (max (lo : Int) (min (hi : Int) (value.getD default))).toNat

theorem le_clamped (lo hi default : Nat) (value : Option Int) : lo ≤ clamped lo hi default value := by
  have low : (lo : Int) ≤ max (lo : Int) (min (hi : Int) (value.getD default)) := le_max_left _ _
  rw [clamped]
  omega

def getCodAutopilotSettings (raw : RawSettings) : CodAutopilotConfig where
  enabled := raw.enabled
  deliveryCheckDelayDays := clamped 1 7 3 raw.deliveryCheckDelayDays
  deliveryCheckRetryDays := clamped 1 7 2 raw.deliveryCheckRetryDays
  deliveryCheckMaxAttempts := clamped 1 3 3 raw.deliveryCheckMaxAttempts
  assumedDeliveredDays := clamped 5 30 10 raw.assumedDeliveredDays
  maxAttempts_pos := le_clamped 1 3 3 _

structure DeliveryCheck where
  customerPhone : String
  attempts : Nat := 0
  maxAttempts : Nat
  nextAttemptAt : Option Time
  firstSentAt : Option Time := none
  lastSentAt : Option Time := none
  response : Response := .none
  respondedAt : Option Time := none
  outcome : Outcome
  exceptionReason : Option ExceptionReason := none
  exceptionResolvedAt : Option Time := none
  assumedDeliveredDueAt : Time
  deriving DecidableEq

/-- What the creating sweep reads of an order. -/
structure Candidate where
  status : OrderStatus
  paymentMethod : Option String
  fulfilledAt : Option Time
  phone : Option String
  hasCourierShipment : Bool

/-- `_CREATE_LOOKBACK_DAYS`. -/
def createLookbackDays : Nat := 30

/-- One round of `create_due_checks`, for an order without a check. -/
def createCheck (config : CodAutopilotConfig) (order : Candidate) (now : Time) :
    Option DeliveryCheck :=
  match order.fulfilledAt with
  | none => none
  | some fulfilledAt =>
      if order.status ≠ .shipped ∨ order.paymentMethod ≠ some "cod" then none
      else if fulfilledAt + days createLookbackDays < now then none
      else if !config.enabled then none
      else if now < fulfilledAt + days config.deliveryCheckDelayDays then none
      else if order.hasCourierShipment then none
      else some {
        customerPhone := order.phone.getD ""
        maxAttempts := config.deliveryCheckMaxAttempts
        nextAttemptAt := if given order.phone then some now else none
        outcome := if given order.phone then .pending else .responseExhausted
        assumedDeliveredDueAt := fulfilledAt + days config.assumedDeliveredDays }

/-- How the guard and the messaging service answer to one send. -/
inductive SendAnswer where
  | unresolved
  | blocked (reason : String)
  | sent
  | failed
  deriving DecidableEq, Repr

namespace DeliveryCheck

def recordAttempt (check : DeliveryCheck) (now : Time) (config : CodAutopilotConfig) :
    DeliveryCheck :=
  { check with
    attempts := check.attempts + 1
    firstSentAt := check.firstSentAt.or (some now)
    lastSentAt := some now
    nextAttemptAt :=
      if check.maxAttempts ≤ check.attempts + 1 then none
      else some (now + days config.deliveryCheckRetryDays) }

def exhaust (check : DeliveryCheck) : DeliveryCheck :=
  { check with outcome := .responseExhausted, nextAttemptAt := none }

/-- A row of `list_due_sends`. -/
def due (check : DeliveryCheck) (now : Time) : Bool :=
  check.outcome = .pending && check.nextAttemptAt.any fun next => next ≤ now

/-- One round of `send_due_checks`. -/
def sendDue (check : DeliveryCheck) (order : Option OrderStatus) (store : Option CodAutopilotConfig)
    (answer : SendAnswer) (now : Time) : DeliveryCheck :=
  if !check.due now then check
  else match order, store with
  | some _, some config =>
      if !config.enabled then { check with nextAttemptAt := none }
      else match answer with
      | .unresolved => check.exhaust
      | .blocked reason =>
          if reason = "already_sent" then check.recordAttempt now config else check.exhaust
      | .sent => check.recordAttempt now config
      | .failed =>
          { check with nextAttemptAt := some (now + days config.deliveryCheckRetryDays) }
  | _, _ => { check with nextAttemptAt := none }

/-- One row of `mark_exhausted`. -/
def markExhausted (check : DeliveryCheck) (now : Time) : DeliveryCheck :=
  if check.outcome = .pending ∧ check.nextAttemptAt = none ∧ check.maxAttempts ≤ check.attempts ∧
      check.lastSentAt.any (fun sent => sent + days 2 ≤ now) then check.exhaust
  else check

/-- `dlvyes`: a transition of the order that raises restores the row. -/
def tapReceived (check : DeliveryCheck) (order : OrderStatus) (transitioned : Bool) (now : Time) :
    DeliveryCheck :=
  if check.outcome.terminal ∨ order ≠ .shipped ∨ !transitioned then check
  else { check with
    response := .received
    respondedAt := some now
    outcome := .deliveredConfirmed
    nextAttemptAt := none }

/-- `dlvnot`. -/
def tapNotYet (check : DeliveryCheck) (config : CodAutopilotConfig) (now : Time) : DeliveryCheck :=
  if check.outcome.terminal ∨ check.outcome = .exception then check
  else if check.attempts < check.maxAttempts then
    { check with
      response := .notYet
      respondedAt := some now
      outcome := .pending
      nextAttemptAt := some (now + days config.deliveryCheckRetryDays) }
  else { check.exhaust with response := .notYet, respondedAt := some now }

/-- `dlvref`. -/
def tapRefused (check : DeliveryCheck) (now : Time) : DeliveryCheck :=
  if check.response = .refused then check
  else if check.outcome.terminal then
    { check with
      response := .refused
      respondedAt := some now
      exceptionReason := some .lateContradiction
      exceptionResolvedAt := none }
  else
    { check with
      response := .refused
      respondedAt := some now
      outcome := .exception
      exceptionReason := some .refused
      nextAttemptAt := none }

/-- One round of `close_assumed_delivered`; a transition that raises leaves the row for the next
sweep. -/
def closeAssumed (check : DeliveryCheck) (order : Option OrderStatus)
    (store : Option CodAutopilotConfig) (transitioned : Bool) (now : Time) : DeliveryCheck :=
  if check.outcome ≠ .responseExhausted ∨ now < check.assumedDeliveredDueAt then check
  else match store with
  | none => check
  | some config =>
      if !config.enabled then check
      else if order ≠ some .shipped then { check with outcome := .superseded }
      else if transitioned then
        { check with outcome := .assumedDelivered, nextAttemptAt := none }
      else { check with nextAttemptAt := none }

/-- `supersede_for_order`. -/
def supersede (check : DeliveryCheck) (now : Time) : DeliveryCheck :=
  if check.outcome.terminal then check
  else { check with
    outcome := .superseded
    nextAttemptAt := none
    exceptionResolvedAt :=
      if check.outcome = .exception then check.exceptionResolvedAt.or (some now)
      else check.exceptionResolvedAt }

/-- A row of `anonymize_for_customer`. -/
def anonymize (check : DeliveryCheck) : DeliveryCheck :=
  { check with
    customerPhone := ""
    outcome := if check.outcome = .pending then .superseded else check.outcome
    nextAttemptAt := none }

/-- `resolve_autopilot_exception`. -/
def resolveException (check : DeliveryCheck) (now : Time) : DeliveryCheck :=
  if check.exceptionResolvedAt.isSome ∨
      (check.outcome ≠ .exception ∧ check.exceptionReason ≠ some .lateContradiction) then check
  else { check with exceptionResolvedAt := some now, nextAttemptAt := none }

end DeliveryCheck
end Numu.Autopilot
