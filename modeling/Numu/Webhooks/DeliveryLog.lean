import Mathlib.Data.List.Basic
import Numu.Foundation.Calendar
import Numu.Orders.Order

/-!
# One delivery log of a merchant webhook

The log of one event for one subscription, the tasks that are to attempt its delivery,
and the attempts that have read the log and not yet written it. Dispatch starts the
first attempt; the poller claims the log for each later one.
-/

namespace Numu.Webhooks
open Numu.Orders (Time)

def seconds (count : Nat) : Nat := count * Calendar.secondLength

/-- `RETRY_DELAYS`. -/
def retryDelays : List Nat :=
  [seconds 10, seconds 30, seconds 120, seconds 600, seconds 1800]

def maxAttempts : Nat := retryDelays.length + 1

/-- `CLAIM_LEASE`, 2 minutes. -/
def claimLease : Nat := seconds 120

inductive DeliveryStatus where
  | pending
  | success
  | failed
  | exhausted
  deriving DecidableEq, Repr

/-- What the attempts write of `webhook_delivery_logs`. -/
structure DeliveryLog where
  status : DeliveryStatus := .pending
  attemptCount : Nat := 0
  nextAttemptAt : Option Time := none
  lastAttemptAt : Option Time := none
  lastStatusCode : Option Int := none
  lastResponseBody : Option String := none
  lastError : Option String := none
  exhaustedAt : Option Time := none
  deriving DecidableEq, Repr

/-- What comes of one HTTP POST. -/
inductive Outcome where
  | response (status : Int) (body : String)
  /-- The target is not a public address. -/
  | unsafeTarget (error : String)
  | failure (error : String)
  deriving DecidableEq, Repr

def clip (text : String) (length : Nat) : String := String.ofList (text.toList.take length)

namespace DeliveryLog

def exhaust (log : DeliveryLog) (now : Time) : DeliveryLog :=
  { log with status := .exhausted, exhaustedAt := some now, nextAttemptAt := none }

/-- `_schedule_retry`; the attempt is counted already. -/
def scheduleRetry (log : DeliveryLog) (now : Time) : DeliveryLog :=
  match retryDelays[log.attemptCount - 1]? with
  | some delay => { log with nextAttemptAt := some (now + delay), status := .pending }
  | none => log.exhaust now

def settle (log : DeliveryLog) (outcome : Outcome) (now : Time) : DeliveryLog :=
  match outcome with
  | .response status body =>
      let answered : DeliveryLog :=
        { log with lastStatusCode := some status, lastResponseBody := some (clip body 1000) }
      -- 410: the receiver is gone
      if status = 410 then answered.exhaust now
      else if 200 ≤ status ∧ status < 300 then
        { answered with status := .success, nextAttemptAt := none }
      else answered.scheduleRetry now
  | .unsafeTarget error =>
      let refused : DeliveryLog :=
        { log with lastError := some (clip error 500), lastStatusCode := none }
      refused.exhaust now
  | .failure error =>
      let failed : DeliveryLog :=
        { log with lastError := some (clip error 500), lastStatusCode := none }
      failed.scheduleRetry now

/-- A column that a session has not changed since it read it is not written. -/
def column {α : Type} [DecidableEq α] (read written stored : α) : α :=
  if written = read then stored else written

/-- `update` in the session that read the log. -/
def update (stored read written : DeliveryLog) : DeliveryLog where
  status := column read.status written.status stored.status
  attemptCount := column read.attemptCount written.attemptCount stored.attemptCount
  nextAttemptAt := column read.nextAttemptAt written.nextAttemptAt stored.nextAttemptAt
  lastAttemptAt := column read.lastAttemptAt written.lastAttemptAt stored.lastAttemptAt
  lastStatusCode := column read.lastStatusCode written.lastStatusCode stored.lastStatusCode
  lastResponseBody := column read.lastResponseBody written.lastResponseBody stored.lastResponseBody
  lastError := column read.lastError written.lastError stored.lastError
  exhaustedAt := column read.exhaustedAt written.exhaustedAt stored.exhaustedAt

end DeliveryLog

/-- A task for `_attempt_delivery`: dispatch's, or that of a claim, with the end of its lease. -/
structure DeliveryTask where
  lease : Option Time := none
  deriving DecidableEq, Repr

/-- An attempt between its read of the log and its write. -/
structure Attempt where
  lease : Option Time
  read : DeliveryLog
  startedAt : Time
  deriving DecidableEq, Repr

/-- The log as an attempt has it while it posts. -/
def Attempt.working (attempt : Attempt) : DeliveryLog :=
  { attempt.read with
    attemptCount := attempt.read.attemptCount + 1
    lastAttemptAt := some attempt.startedAt }

structure Delivery where
  log : Option DeliveryLog := none
  /-- The log in dispatch's transaction. -/
  draft : Option DeliveryLog := none
  queue : List DeliveryTask := []
  inFlight : List Attempt := []
  /-- How many attempts have begun. -/
  made : Nat := 0
  clock : Time := 0
  deriving DecidableEq, Repr

/-- What `dispatch` leaves for one subscription before its transaction ends. -/
def dispatch (signed : Bool) (now : Time) : Delivery where
  draft := some { nextAttemptAt := some now }
  queue := if signed then [{}] else []
  clock := now

inductive DeliveryEvent where
  | commit
  | rollback
  /-- A task reads the log. -/
  | begin_ (index : Nat)
  /-- An attempt writes what came of it, at an instant it read before. -/
  | finish (index : Nat) (outcome : Outcome) (answeredAt : Time)
  /-- A poller claims what is due at the instant it has read. -/
  | tick (asOf : Time) (sendable : Bool)
  /-- A task is lost before it reads the log. -/
  | lose (index : Nat)
  deriving DecidableEq, Repr

namespace Delivery

def commit (state : Delivery) : Delivery :=
  match state.draft with
  | some draft => { state with log := some draft, draft := none }
  | none => state

/-- The first half of `_attempt_delivery`. -/
def beginAttempt (state : Delivery) (index : Nat) (now : Time) : Delivery :=
  match state.queue[index]? with
  | none => state
  | some task =>
      let taken : Delivery := { state with queue := state.queue.eraseIdx index }
      match state.log with
      | none => taken
      | some log =>
          if log.status = .success then taken
          else
            { taken with
              inFlight := state.inFlight ++ [{ lease := task.lease, read := log, startedAt := now }]
              made := state.made + 1 }

/-- The second half of `_attempt_delivery`. -/
def finish (state : Delivery) (index : Nat) (outcome : Outcome) (answeredAt : Time) : Delivery :=
  match state.inFlight[index]? with
  | none => state
  | some attempt =>
      { state with
        log := state.log.map
          (·.update attempt.read (attempt.working.settle outcome answeredAt))
        inFlight := state.inFlight.eraseIdx index }

/-- What `claim_pending_retries` takes. -/
def Due (log : DeliveryLog) (asOf : Time) : Prop :=
  log.status = .pending ∧ ∃ due ∈ log.nextAttemptAt, due ≤ asOf

instance (log : DeliveryLog) (asOf : Time) : Decidable (Due log asOf) :=
  inferInstanceAs (Decidable (_ ∧ ∃ due, due ∈ log.nextAttemptAt ∧ due ≤ asOf))

/-- `retry_pending_deliveries`. -/
def tick (state : Delivery) (asOf : Time) (sendable : Bool) : Delivery :=
  match state.log with
  | none => state
  | some log =>
      if Due log asOf then
        { state with
          log := some { log with nextAttemptAt := some (asOf + claimLease) }
          queue :=
            if sendable then state.queue ++ [{ lease := some (asOf + claimLease) }]
            else state.queue }
      else state

def act (state : Delivery) (now : Time) : DeliveryEvent → Delivery
  | .commit => state.commit
  | .rollback => { state with draft := none }
  | .begin_ index => state.beginAttempt index now
  | .finish index outcome answeredAt => state.finish index outcome answeredAt
  | .tick asOf sendable => state.tick asOf sendable
  | .lose index => { state with queue := state.queue.eraseIdx index }

def step (state : Delivery) (label : Time × DeliveryEvent) : Delivery :=
  { state.act label.1 label.2 with clock := label.1 }

end Delivery
end Numu.Webhooks
