import Mathlib.Data.List.Basic
import Numu.Foundation.Binary64
import Numu.Foundation.Calendar
import Numu.Orders.Order

/-!
# Delivery policy for conversion events

Whether a failure is worth another attempt, when that attempt happens, and until
when an event may be sent at all.
-/

namespace Numu.Meta
open Numu.Orders (Time)

def seconds (count : Nat) : Nat := count * Calendar.secondLength

/-- `DEDUP_WINDOW`, 48 hours. -/
def dedupWindow : Nat := seconds (48 * 3600)

/-- `MAX_EVENT_AGE`, 7 days. -/
def maxEventAge : Nat := 7 * Calendar.dayLength

/-- `CLAIM_LEASE`, 10 minutes. -/
def claimLease : Nat := seconds 600

inductive DeliveryStatus where
  | pending
  | sent
  | retrying
  | failed
  | deadLetter
  | expired
  | skipped
  | legacy
  deriving DecidableEq, Repr

/-- `TERMINAL_STATUSES`. -/
def DeliveryStatus.isTerminal : DeliveryStatus → Bool
  | .pending | .retrying => false
  | .sent | .failed | .deadLetter | .expired | .skipped | .legacy => true

inductive FailureKind where
  | transport
  | rateLimited
  | serverError
  | invalidPayload
  | invalidCredentials
  | permanent
  deriving DecidableEq, Repr

def FailureKind.retryable : FailureKind → Bool
  | .transport | .rateLimited | .serverError => true
  | .invalidPayload | .invalidCredentials | .permanent => false

/-- What `_error_fields` reads of the body of a response. -/
structure ErrorFields where
  code : Option Int := none
  subcode : Option Int := none
  type : Option String := none
  deriving DecidableEq, Repr

def rateLimitCodes : List Int := [4, 17, 32, 341, 613, 80004]

def transientCodes : List Int := [1, 2]

def credentialCodes : List Int := [102, 190, 463, 467]

/-- `classify_status`; `none` is success. -/
def classifyStatus (status : Int) (error : ErrorFields) : Option FailureKind :=
  if 200 ≤ status ∧ status < 300 then none
  else if status = 429 then some .rateLimited
  else if 500 ≤ status then some .serverError
  else if error.code.any (· ∈ rateLimitCodes) then some .rateLimited
  else if error.code.any (· ∈ transientCodes) then some .serverError
  else if error.code.any (· ∈ credentialCodes) ∨ error.type = some "OAuthException" then
    some .invalidCredentials
  else if status = 401 ∨ status = 403 then some .invalidCredentials
  else if error.code = some 100 ∨
      error.subcode.any (fun subcode => 2804000 ≤ subcode ∧ subcode < 2805000) then
    some .invalidPayload
  else if status = 400 then some .invalidPayload
  else some .permanent

/-- `RETRY_LADDER`, in seconds. -/
def retryLadder : List Nat := [300, 1200, 3600, 14400, 43200]

/-- `int(base * (1 + 0.2 * offset))` of a seed's offset, on floats. -/
def jittered (base jitterSeed : Nat) : Int :=
  let offset := Binary64.nearest ((((jitterSeed % 2001 : Nat) : Int) - 1000 : ℚ) / 1000)
  let share := Binary64.nearest (Binary64.nearest (1 / 5) * offset)
  Binary64.truncate (Binary64.nearest (base * Binary64.nearest (1 + share)))

/-- `next_attempt_delay`; `none` once the ladder is spent. -/
def nextAttemptDelay (sweepAttempt jitterSeed : Nat) : Option Nat :=
  if sweepAttempt < 1 then none
  else (retryLadder[sweepAttempt - 1]?).map fun base => (max 1 (jittered base jitterSeed)).toNat

def backoffFromRetryAfter (header : Option Int) (fallback : Nat) : Nat :=
  match header with
  | some retryAfter => if 0 < retryAfter then min retryAfter.toNat 3600 else fallback
  | none => fallback

def expiresAtFor (eventTime : Time) : Time := eventTime + dedupWindow

def isExpired (eventTime now : Time) : Bool :=
  expiresAtFor eventTime ≤ now || maxEventAge ≤ now - eventTime

/-- `_CELERY_MAX_RETRIES`. -/
def celeryMaxRetries : Nat := 6

def celeryAttemptBudget : Nat := celeryMaxRetries + 1

def maxTotalAttempts : Nat := celeryAttemptBudget + retryLadder.length

/-- `_sweep_attempt_for`: the rung of the ladder. -/
def sweepAttemptFor (attemptCount : Nat) : Nat := max 1 (attemptCount + 1 - celeryAttemptBudget)

/-- `_celery_will_retry`. -/
def celeryWillRetry (retries : Nat) : Bool := retries < celeryMaxRetries

/-- The ladder is spent exactly from the total number of attempts on. -/
theorem nextAttemptDelay_eq_none_iff {attemptCount jitterSeed : Nat} :
    nextAttemptDelay (sweepAttemptFor attemptCount) jitterSeed = none ↔
      maxTotalAttempts ≤ attemptCount := by
  have rung : ¬ sweepAttemptFor attemptCount < 1 := by
    rw [sweepAttemptFor]
    omega
  rw [nextAttemptDelay, if_neg rung, Option.map_eq_none_iff, List.getElem?_eq_none_iff]
  simp only [sweepAttemptFor, maxTotalAttempts, celeryAttemptBudget, celeryMaxRetries, retryLadder,
    List.length_cons, List.length_nil]
  omega

theorem isExpired_iff {eventTime now : Nat} :
    isExpired eventTime now = true ↔ eventTime + dedupWindow ≤ now := by
  rw [isExpired, expiresAtFor, Bool.or_eq_true, decide_eq_true_eq, decide_eq_true_eq]
  have positive : 0 < dedupWindow := by decide
  have shorter : dedupWindow ≤ maxEventAge := by decide
  constructor
  · rintro (closed | old) <;> omega
  · intro closed
    exact Or.inl closed

end Numu.Meta

/-!
# One row of the event log and its tasks

The row of one event on one pixel, the tasks in the broker, the attempts that workers
have begun, and the sends made. A task may be lost, be delivered again while its
attempt goes on, or lose its worker at any point.
-/

namespace Numu.Meta
open Numu.Orders (Time)

/-- `meta_event_log`; of the payload, which fields of `user_data` are not empty. -/
structure EventRow where
  eventTime : Time
  userData : List String
  responseStatus : Option Int := none
  attemptCount : Nat := 1
  status : DeliveryStatus := .pending
  nextRetryAt : Option Time
  expiresAt : Option Time
  failureKind : Option FailureKind := none
  deriving DecidableEq, Repr

/-- The arguments of `meta_capi_send_event`, and how often Celery has retried it. -/
structure SendEvent where
  eventTime : Nat
  userData : List String
  /-- The task is given the row's id. -/
  handed : Bool
  retries : Nat := 0
  deriving DecidableEq, Repr

inductive Work where
  | sendEvent (event : SendEvent)
  | sendBatch
  deriving DecidableEq, Repr

structure Task where
  id : Nat
  work : Work
  deriving DecidableEq, Repr

/-- What came of a POST. -/
inductive Answer where
  | transportError
  | response (status : Int) (error : ErrorFields) (retryAfter : Option Int)
  deriving DecidableEq, Repr

/-- An attempt between its database phase and its settlement. `rowAttempts` is what a single send
counts from, `alone` says that a batch holds no other event. -/
structure Attempt where
  task : Task
  rowAttempts : Nat
  alone : Bool
  startedAt : Time
  answer : Option Answer := none
  deriving DecidableEq, Repr

structure Outbox where
  rowId : Nat
  row : Option EventRow := none
  queue : List Task := []
  attempts : List Attempt := []
  sends : List Time := []
  nextTask : Nat := 0
  clock : Time := 0
  deriving DecidableEq, Repr

/-- What a worker finds of the store and its credential. -/
inductive StoreState where
  | storeMissing
  | capiDisabled
  | credentialMissing
  | connected
  deriving DecidableEq, Repr

/-- What becomes of `_persist_outbox_row` in its caller's transaction. -/
inductive Persistence where
  | committed
  | rolledBack
  | failed
  deriving DecidableEq, Repr

inductive OutboxEvent where
  /-- `enqueue_capi_event`; a conversion with a session is persisted first. -/
  | enqueue (eventTime : Nat) (userData : List String) (persist : Option Persistence)
  /-- A worker takes a task from the queue. -/
  | start (index : Nat) (store : StoreState) (alone : Bool)
  | post (index : Nat) (answer : Answer)
  | settle (index : Nat)
  /-- A worker dies, or the catch-all buries its attempt; the broker may deliver the task again. -/
  | crash (index : Nat) (redelivered : Bool)
  /-- The broker delivers a task again while its attempt goes on. -/
  | redeliver (index : Nat)
  | lose (index : Nat)
  /-- The sweep acts on the instant it read at its start. -/
  | expireOverdue (asOf : Time)
  | claimDue (asOf : Time)
  deriving DecidableEq, Repr

/-- `_MATCH_KEY_FIELDS`. -/
def matchKeyFields : List String :=
  ["em", "ph", "fn", "ln", "ct", "st", "zp", "country", "external_id"]

/-- `_adds_match_keys`. -/
def addsMatchKeys (newUserData storedUserData : List String) : Bool :=
  matchKeyFields.any fun field => field ∈ newUserData && field ∉ storedUserData

def maxEnrichmentResends : Nat := 3

/-- `x or 1`. -/
def orOne (count : Nat) : Nat := if count = 0 then 1 else count

namespace EventRow

/-- A row as `_persist_outbox_row` and `_send_event` create it. -/
def create (eventTime : Nat) (userData : List String) (now : Time) : EventRow where
  eventTime := seconds eventTime
  userData := userData
  nextRetryAt := some (now + claimLease)
  expiresAt := some (expiresAtFor (seconds eventTime))

def completed (row : EventRow) : Bool := row.responseStatus.isSome

def priorFailed (row : EventRow) : Bool := row.responseStatus.any (400 ≤ ·)

/-- The age in whole seconds, against the window in seconds. -/
def withinWindow (row : EventRow) (now : Time) : Bool :=
  (now - row.eventTime) / Calendar.secondLength ≤ 48 * 60 * 60

/-- An answered event may be sent again for what it adds to the match keys. -/
def enriches (row : EventRow) (event : SendEvent) (now : Time) : Bool :=
  row.completed && !row.priorFailed && addsMatchKeys event.userData row.userData &&
    row.withinWindow now && row.attemptCount < maxEnrichmentResends

/-- The row taken up by a task that met its unique key. -/
def takeUp (row : EventRow) (event : SendEvent) (now : Time) : EventRow :=
  { row with
    userData := event.userData
    attemptCount := row.attemptCount + 1
    status := .pending
    failureKind := none
    nextRetryAt := some (now + claimLease) }

/-- The row adopted by a task that was handed it. -/
def release (row : EventRow) (event : SendEvent) (now : Time) : EventRow :=
  { row with
    userData := event.userData
    status := .pending
    nextRetryAt := some (now + claimLease)
    expiresAt := some (row.expiresAt.getD (expiresAtFor row.eventTime)) }

/-- `_settle_row`: an update that gives no time leaves the time there is. -/
def settleRow (row : EventRow) (status : DeliveryStatus) (failureKind : Option FailureKind)
    (attemptCount : Nat) : EventRow :=
  { row with
    attemptCount := attemptCount
    status := status
    failureKind := failureKind.orElse fun _ => row.failureKind }

/-- `_settle_many`. -/
def settleMany (row : EventRow) (status : DeliveryStatus) (failureKind : Option FailureKind)
    (responseStatus : Option Int := none) : EventRow :=
  { row with
    status := status
    failureKind := failureKind
    nextRetryAt := none
    responseStatus := responseStatus.orElse fun _ => row.responseStatus }

/-- The next rung of the ladder, or the end of it. -/
def ladder (rowId attempts : Nat) (retryAfter : Option Int) (now : Time) :
    DeliveryStatus × Option Time :=
  match nextAttemptDelay (sweepAttemptFor attempts) rowId with
  | none => (.deadLetter, none)
  | some delay => (.retrying, some (now + seconds (backoffFromRetryAfter retryAfter delay)))

/-- `_record_retryable`. -/
def recordRetryable (row : EventRow) (rowId attempts retries : Nat) (now : Time) : EventRow :=
  let scheduled :=
    if celeryWillRetry retries then (DeliveryStatus.pending, some (now + claimLease))
    else ladder rowId attempts none now
  { row with
    attemptCount := attempts
    status := scheduled.1
    failureKind := some .transport
    nextRetryAt := scheduled.2.orElse fun _ => row.nextRetryAt }

/-- The response of a single send, persisted with its consequence. -/
def updateResponse (row : EventRow) (rowId attempts retries : Nat) (status : Int)
    (kind : Option FailureKind) (retryAfter : Option Int) (now : Time) : EventRow :=
  let scheduled : DeliveryStatus × Option Time :=
    match kind with
    | none => (.sent, none)
    | some kind =>
        if kind.retryable then
          if celeryWillRetry retries then (.pending, some (now + claimLease))
          else ladder rowId attempts retryAfter now
        else (.failed, none)
  { row with
    responseStatus := some status
    attemptCount := attempts
    status := scheduled.1
    failureKind := kind
    nextRetryAt := scheduled.2 }

/-- `_reschedule_many`, not due at once. -/
def reschedule (row : EventRow) (rowId : Nat) (kind : FailureKind) (retryAfter : Option Int)
    (responseStatus : Option Int) (now : Time) : EventRow :=
  let scheduled := ladder rowId (orOne row.attemptCount) retryAfter now
  { row with
    status := scheduled.1
    nextRetryAt := scheduled.2
    failureKind := some kind
    responseStatus := responseStatus.orElse fun _ => row.responseStatus }

/-- `_reschedule_many` with `due_now`, after a batch was rejected. -/
def dueNow (row : EventRow) (now : Time) : EventRow :=
  { row with status := .retrying, nextRetryAt := some now, failureKind := some .serverError }

end EventRow

/-- What the database phase of a single send comes to: the row as it is left, and what to count
from if the send goes on. -/
structure Adoption where
  row : Option EventRow
  proceeds : Option Nat

/-- `_adopt_owned_row`. -/
def adoptOwnedRow (found : Option EventRow) (event : SendEvent) (now : Time) : Adoption :=
  match found with
  | none => { row := none, proceeds := none }
  | some row =>
      if row.status.isTerminal then { row := some row, proceeds := none }
      else if isExpired row.eventTime now then
        { row := some (row.settleRow .expired none (orOne row.attemptCount)), proceeds := none }
      else { row := some (row.release event now), proceeds := some (orOne row.attemptCount) }

/-- A task that was handed no row inserts one, or meets the one there is. -/
def insertOrTakeUp (found : Option EventRow) (event : SendEvent) (now : Time) : Adoption :=
  match found with
  | none => { row := some (EventRow.create event.eventTime event.userData now), proceeds := some 1 }
  | some row =>
      if row.priorFailed || row.enriches event now then
        { row := some (row.takeUp event now), proceeds := some (row.attemptCount + 1) }
      else { row := some row, proceeds := none }

def adopt (found : Option EventRow) (event : SendEvent) (now : Time) : Adoption :=
  if event.handed then adoptOwnedRow found event now else insertOrTakeUp found event now

/-- What can become of a row that a single send finds, or of the lack of one. -/
inductive Adopted (found : Option EventRow) (event : SendEvent) (now : Time) : Adoption → Prop where
  | unchanged : Adopted found event now { row := found, proceeds := none }
  | expires (row : EventRow) (present : found = some row) (handed : event.handed = true)
      (expired : isExpired row.eventTime now = true) :
      Adopted found event now
        { row := some (row.settleRow .expired none (orOne row.attemptCount)), proceeds := none }
  | creates (absent : found = none) (unhanded : event.handed = false) :
      Adopted found event now
        { row := some (EventRow.create event.eventTime event.userData now), proceeds := some 1 }
  | releases (row : EventRow) (present : found = some row) (handed : event.handed = true)
      (owed : row.status.isTerminal = false) (timely : isExpired row.eventTime now = false) :
      Adopted found event now
        { row := some (row.release event now), proceeds := some (orOne row.attemptCount) }
  | takesUp (row : EventRow) (present : found = some row) (unhanded : event.handed = false)
      (again : row.priorFailed = true ∨ row.enriches event now = true) :
      Adopted found event now
        { row := some (row.takeUp event now), proceeds := some (row.attemptCount + 1) }

theorem adopt_adopted (found : Option EventRow) (event : SendEvent) (now : Time) :
    Adopted found event now (adopt found event now) := by
  rw [adopt]
  split
  · rename_i handed
    rw [adoptOwnedRow.eq_def]
    split
    · exact .unchanged
    · rename_i row
      split
      · exact .unchanged
      · rename_i owed
        split
        · rename_i expired
          exact .expires row rfl handed expired
        · rename_i timely
          exact .releases row rfl handed (Bool.eq_false_iff.mpr owed) (Bool.eq_false_iff.mpr timely)
  · rename_i unhanded
    rw [insertOrTakeUp.eq_def]
    split
    · exact .creates rfl (Bool.eq_false_iff.mpr unhanded)
    · rename_i row
      split
      · rename_i again
        exact .takesUp row rfl (Bool.eq_false_iff.mpr unhanded) (Bool.or_eq_true _ _ ▸ again)
      · exact .unchanged

theorem EventRow.answered_of_again {row : EventRow} {event : SendEvent} {now : Time}
    (again : row.priorFailed = true ∨ row.enriches event now = true) :
    row.responseStatus ≠ none := by
  intro unanswered
  rcases again with failed | enriches
  · rw [EventRow.priorFailed, unanswered] at failed
    cases failed
  · rw [EventRow.enriches, EventRow.completed, unanswered] at enriches
    cases enriches

/-- The ladder ends in a dead letter only once all attempts are counted. -/
theorem EventRow.ladder_deadLetter {rowId attempts : Nat} {retryAfter : Option Int} {now : Time}
    (dead : (EventRow.ladder rowId attempts retryAfter now).1 = .deadLetter) :
    maxTotalAttempts ≤ attempts := by
  rw [EventRow.ladder.eq_def] at dead
  split at dead
  · rename_i spent
    exact nextAttemptDelay_eq_none_iff.mp spent
  · cases dead

namespace Outbox

def publish (state : Outbox) (work : Work) : Outbox :=
  { state with
    queue := state.queue ++ [{ id := state.nextTask, work := work }]
    nextTask := state.nextTask + 1 }

/-- `enqueue_capi_event`. -/
def enqueue (state : Outbox) (eventTime : Nat) (userData : List String)
    (persist : Option Persistence) (now : Time) : Outbox :=
  let task handed := Work.sendEvent { eventTime := eventTime, userData := userData, handed := handed }
  match persist, state.row with
  | none, _ | some .failed, _ => state.publish (task false)
  | some _, some row =>
      if row.responseStatus.any fun status => 200 ≤ status ∧ status < 300 then state
      else state.publish (task true)
  | some .rolledBack, none => state.publish (task true)
  | some .committed, none =>
      let persisted : Outbox := { state with row := some (EventRow.create eventTime userData now) }
      persisted.publish (task true)

/-- The database phase of `_send_event`. -/
def startEvent (state : Outbox) (task : Task) (event : SendEvent) (store : StoreState) (now : Time) :
    Outbox :=
  match store with
  | .storeMissing | .capiDisabled => state
  | .credentialMissing =>
      let adoption := adopt state.row event now
      match adoption.proceeds with
      | none => { state with row := adoption.row }
      | some attempts =>
          { state with
            row := adoption.row.map (·.settleRow .failed (some .invalidCredentials) attempts) }
  | .connected =>
      let adoption := adopt state.row event now
      match adoption.proceeds with
      | none => { state with row := adoption.row }
      | some attempts =>
          { state with
            row := adoption.row
            attempts := state.attempts ++
              [{ task := task, rowAttempts := attempts, alone := true, startedAt := now }] }

/-- The database phase of `_send_batch`. -/
def startBatch (state : Outbox) (task : Task) (store : StoreState) (alone : Bool) (now : Time) :
    Outbox :=
  match store, state.row with
  | .storeMissing, _ | _, none => state
  | .capiDisabled, some row => { state with row := some (row.settleMany .skipped none) }
  | .credentialMissing, some row =>
      if row.status.isTerminal then state
      else if isExpired row.eventTime now then
        { state with row := some (row.settleMany .expired none) }
      else { state with row := some (row.settleMany .failed (some .invalidCredentials)) }
  | .connected, some row =>
      if row.status.isTerminal then state
      else if isExpired row.eventTime now then
        { state with row := some (row.settleMany .expired none) }
      else
        { state with
          attempts := state.attempts ++
            [{ task := task, rowAttempts := row.attemptCount, alone := alone, startedAt := now }] }

def start (state : Outbox) (index : Nat) (store : StoreState) (alone : Bool) (now : Time) : Outbox :=
  match state.queue[index]? with
  | none => state
  | some task =>
      let taken : Outbox := { state with queue := state.queue.eraseIdx index }
      match task.work with
      | .sendEvent event => taken.startEvent task event store now
      | .sendBatch => taken.startBatch task store alone now

/-- The POST of an attempt that has made none. -/
def post (state : Outbox) (index : Nat) (answer : Answer) (now : Time) : Outbox :=
  match state.attempts[index]? with
  | some attempt =>
      if attempt.answer = none then
        { state with
          attempts := state.attempts.set index { attempt with answer := some answer }
          sends := state.sends ++ [now] }
      else state
  | none => state

/-- Celery's retry of a task, under the same id. -/
def retry (state : Outbox) (task : Task) (event : SendEvent) : Outbox :=
  { state with
    queue := state.queue ++
      [{ task with work := .sendEvent { event with retries := event.retries + 1 } }] }

def settleEvent (state : Outbox) (attempt : Attempt) (event : SendEvent) (answer : Answer)
    (now : Time) : Outbox :=
  let attempts := attempt.rowAttempts + event.retries
  match answer with
  | .transportError =>
      let recorded : Outbox := { state with
        row := state.row.map (·.recordRetryable state.rowId attempts event.retries now) }
      if celeryWillRetry event.retries then recorded.retry attempt.task event else recorded
  | .response status error retryAfter =>
      let kind := classifyStatus status error
      let updated : Outbox := { state with
        row := state.row.map
          (·.updateResponse state.rowId attempts event.retries status kind retryAfter now) }
      if kind.any (·.retryable) ∧ celeryWillRetry event.retries then
        updated.retry attempt.task event
      else updated

def settleBatch (state : Outbox) (attempt : Attempt) (answer : Answer) (now : Time) : Outbox :=
  match answer with
  | .transportError =>
      { state with
        row := state.row.map (·.reschedule state.rowId .transport none none now) }
  | .response status error retryAfter =>
      match classifyStatus status error with
      | none => { state with row := state.row.map (·.settleMany .sent none (some status)) }
      | some kind =>
          if kind.retryable then
            { state with
              row := state.row.map (·.reschedule state.rowId kind retryAfter (some status) now) }
          else if attempt.alone then
            { state with row := state.row.map (·.settleMany .failed (some kind) (some status)) }
          else
            let rescheduled : Outbox := { state with row := state.row.map (·.dueNow now) }
            rescheduled.publish .sendBatch

/-- What a worker writes once its POST has been answered. -/
def settle (state : Outbox) (index : Nat) (now : Time) : Outbox :=
  match state.attempts[index]? with
  | none => state
  | some attempt =>
      match attempt.answer with
      | none => state
      | some answer =>
          let left_ : Outbox := { state with attempts := state.attempts.eraseIdx index }
          match attempt.task.work with
          | .sendEvent event => left_.settleEvent attempt event answer now
          | .sendBatch => left_.settleBatch attempt answer now

def crash (state : Outbox) (index : Nat) (redelivered : Bool) : Outbox :=
  match state.attempts[index]? with
  | none => state
  | some attempt =>
      { state with
        attempts := state.attempts.eraseIdx index
        queue := if redelivered then state.queue ++ [attempt.task] else state.queue }

def redeliver (state : Outbox) (index : Nat) : Outbox :=
  match state.attempts[index]? with
  | none => state
  | some attempt => { state with queue := state.queue ++ [attempt.task] }

/-- `expire_overdue`. -/
def expireOverdue (state : Outbox) (asOf : Time) : Outbox :=
  { state with
    row := state.row.map fun row =>
      if !row.status.isTerminal && row.expiresAt.any (· ≤ asOf) then
        { row with status := .expired, nextRetryAt := none }
      else row }

/-- The row's next attempt is due. -/
def Due (row : EventRow) (asOf : Time) : Prop :=
  row.status.isTerminal = false ∧ ∃ due ∈ row.nextRetryAt, due ≤ asOf

instance (row : EventRow) (asOf : Time) : Decidable (Due row asOf) :=
  inferInstanceAs (Decidable (_ ∧ ∃ due, due ∈ row.nextRetryAt ∧ due ≤ asOf))

/-- `claim_due`, and the batch that is published for the row. -/
def claimDue (state : Outbox) (asOf : Time) : Outbox :=
  match state.row with
  | none => state
  | some row =>
      if Due row asOf then
        let claimed : Outbox := { state with row := some { row with
            status := .pending
            nextRetryAt := some (asOf + claimLease)
            attemptCount := row.attemptCount + 1 } }
        claimed.publish .sendBatch
      else state

def act (state : Outbox) (now : Time) : OutboxEvent → Outbox
  | .enqueue eventTime userData persist => state.enqueue eventTime userData persist now
  | .start index store alone => state.start index store alone now
  | .post index answer => state.post index answer now
  | .settle index => state.settle index now
  | .crash index redelivered => state.crash index redelivered
  | .redeliver index => state.redeliver index
  | .lose index => { state with queue := state.queue.eraseIdx index }
  | .expireOverdue asOf => state.expireOverdue asOf
  | .claimDue asOf => state.claimDue asOf

def step (state : Outbox) (label : Time × OutboxEvent) : Outbox :=
  { state.act label.1 label.2 with clock := label.1 }

end Outbox
end Numu.Meta
