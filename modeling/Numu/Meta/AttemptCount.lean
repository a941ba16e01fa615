import Numu.Foundation.Run
import Numu.Meta.Outbox

/-!
# The count of attempts

Creating a row, claiming it and taking it up count an attempt before it is made; a
single send writes its own count over the row's when it settles. The two agree as long
as one attempt is under way at a time and Celery has not retried it more than once.
-/

namespace Numu.Meta
open Numu.Orders (Time)

namespace Outbox

/-- How many batches wait for a worker. -/
def batches (state : Outbox) : Nat := state.queue.countP (·.work = .sendBatch)

/-- No attempt is in flight and no batch waits. -/
def Idle (state : Outbox) : Prop := state.attempts = [] ∧ state.batches = 0

instance (state : Outbox) : Decidable state.Idle := inferInstanceAs (Decidable (_ ∧ _))

/-- The row's count includes an attempt that is yet to be settled. -/
def UnderWay (state : Outbox) (row : EventRow) : Prop :=
  row.status = .pending ∧ (state.sends = [] ∨ ¬ state.Idle)

/-- The stored count is the number of sends, and the row is dead-lettered only after the total
number of attempts. -/
def CountsSends (state : Outbox) : Prop :=
  ∀ row, state.row = some row →
    (¬ state.UnderWay row → row.attemptCount = state.sends.length) ∧
      (row.status = .deadLetter → maxTotalAttempts ≤ state.sends.length)

end Outbox

/-- A single send that begins an attempt is no Celery retry, or the first one of a task that was
handed a row that has been sent; one that settles the row without a send leaves a row whose count
is its sends. -/
def SendEvent.CountedOnce (state : Outbox) (event : SendEvent) (store : StoreState) (now : Time) :
    Prop :=
  match store, (adopt state.row event now).proceeds with
  | .storeMissing, _ | .capiDisabled, _ => True
  | .connected, some _ =>
      state.Idle ∧ event.retries = if event.handed ∧ state.sends ≠ [] then 1 else 0
  | .credentialMissing, some _ => state.Idle ∧ state.sends ≠ [] ∧ event.handed = true
  | _, none => (adopt state.row event now).row = state.row ∨ (state.Idle ∧ state.sends ≠ [])

/-- Meta refused the request for good. -/
def Attempt.rejected (attempt : Attempt) : Bool :=
  match attempt.answer with
  | some (.response status error _) => (classifyStatus status error).any (!·.retryable)
  | _ => false

instance (state : Outbox) (event : SendEvent) (store : StoreState) (now : Time) :
    Decidable (event.CountedOnce state store now) :=
  match store, proceeds : (adopt state.row event now).proceeds with
  | .storeMissing, _ | .capiDisabled, _ =>
      isTrue (by rw [SendEvent.CountedOnce.eq_def]; split <;> simp_all)
  | .connected, some _ =>
      decidable_of_iff
        (state.Idle ∧ event.retries = if event.handed ∧ state.sends ≠ [] then 1 else 0)
        (by rw [SendEvent.CountedOnce.eq_def, proceeds])
  | .credentialMissing, some _ =>
      decidable_of_iff (state.Idle ∧ state.sends ≠ [] ∧ event.handed = true)
        (by rw [SendEvent.CountedOnce.eq_def, proceeds])
  | .connected, none | .credentialMissing, none =>
      decidable_of_iff
        ((adopt state.row event now).row = state.row ∨ (state.Idle ∧ state.sends ≠ []))
        (by rw [SendEvent.CountedOnce.eq_def, proceeds])

/-- The condition on the task that a worker takes. -/
def Task.CountedOnce (state : Outbox) (store : StoreState) (now : Time) (task : Task) : Prop :=
  match task.work with
  | .sendEvent event => event.CountedOnce state store now
  | .sendBatch => store = .connected ∧ ∀ row ∈ state.row, isExpired row.eventTime now = false

instance (state : Outbox) (store : StoreState) (now : Time) :
    ∀ task : Task, Decidable (task.CountedOnce state store now)
  | { id := _, work := .sendEvent event } =>
      inferInstanceAs (Decidable (event.CountedOnce state store now))
  | { id := _, work := .sendBatch } => inferInstanceAs (Decidable (_ ∧ ∀ row ∈ state.row, _))

/-- Each attempt is counted once and made once. -/
def CountedOnce (state : Outbox) (label : Time × OutboxEvent) : Prop :=
  match label.2 with
  | .enqueue _ _ _ | .post _ _ => True
  | .start index store _ => ∀ task ∈ state.queue[index]?, task.CountedOnce state store label.1
  | .settle index =>
      ∀ attempt ∈ state.attempts[index]?,
        attempt.task.work = .sendBatch → attempt.alone = true ∨ attempt.rejected = false
  | .crash index _ => state.attempts[index]? = none
  | .redeliver index => ∀ attempt ∈ state.attempts[index]?, attempt.task.work ≠ .sendBatch
  | .lose index => ∀ task ∈ state.queue[index]?, task.work ≠ .sendBatch
  | .expireOverdue asOf =>
      ∀ row ∈ state.row, row.status.isTerminal = false → row.expiresAt.any (· ≤ asOf) = true →
        state.Idle ∧ state.sends ≠ []
  | .claimDue asOf => ∀ row ∈ state.row, Outbox.Due row asOf → state.Idle ∧ state.sends ≠ []

instance decidableCountedOnce (state : Outbox) : ∀ label, Decidable (CountedOnce state label)
  | (_, .enqueue _ _ _) | (_, .post _ _) => isTrue trivial
  | (now, .start index store _) =>
      inferInstanceAs (Decidable (∀ task ∈ state.queue[index]?, task.CountedOnce state store now))
  | (_, .settle index) => inferInstanceAs (Decidable (∀ attempt ∈ state.attempts[index]?, _ → _))
  | (_, .crash index _) => inferInstanceAs (Decidable (state.attempts[index]? = none))
  | (_, .redeliver index) => inferInstanceAs (Decidable (∀ attempt ∈ state.attempts[index]?, _))
  | (_, .lose index) => inferInstanceAs (Decidable (∀ task ∈ state.queue[index]?, _))
  | (_, .expireOverdue _) => inferInstanceAs (Decidable (∀ row ∈ state.row, _ → _ → _))
  | (_, .claimDue asOf) =>
      inferInstanceAs (Decidable (∀ row ∈ state.row, Outbox.Due row asOf → _))

/-- What an attempt in flight will leave as the count. -/
def Attempt.Tallies (attempt : Attempt) (count sends : Nat) : Prop :=
  (match attempt.task.work with
    | .sendEvent event => attempt.rowAttempts + event.retries
    | .sendBatch => count) =
    if attempt.answer = none then sends + 1 else sends

/-- Where the one attempt at a time stands: its row with the attempts in flight, the batches that
wait and the sends. -/
inductive Phase (row : EventRow) : List Attempt → Nat → Nat → Prop where
  | fresh (unanswered : row.responseStatus = none) (counted : row.attemptCount = 1)
      (pending : row.status = .pending) : Phase row [] 0 0
  | rest {sends : Nat} (counted : row.attemptCount = sends)
      (spent : row.status = .deadLetter → maxTotalAttempts ≤ sends) : Phase row [] 0 sends
  | waiting {sends : Nat} (counted : row.attemptCount = sends + 1)
      (pending : row.status = .pending) : Phase row [] 1 sends
  | flying {sends : Nat} (attempt : Attempt) (tallies : attempt.Tallies row.attemptCount sends)
      (pending : row.status = .pending) : Phase row [attempt] 0 sends

/-- The invariant of the count. -/
def Counted (state : Outbox) : Prop :=
  match state.row with
  | none => state.attempts = [] ∧ state.batches = 0 ∧ state.sends = []
  | some row => Phase row state.attempts state.batches state.sends.length

section Queue
variable {queue : List Task} {task : Task} {index : Nat} {p : Task → Bool}

theorem countP_eraseIdx (found : queue[index]? = some task) :
    queue.countP p = (queue.eraseIdx index).countP p + if p task then 1 else 0 := by
  rcases List.getElem?_eq_some_iff.mp found with ⟨within, rfl⟩
  rw [← (List.getElem_cons_eraseIdx_perm within).countP_eq p, List.countP_cons]

end Queue

namespace Counted
variable {state : Outbox} {now : Nat}

theorem of_phase {after : Outbox} {row : EventRow} {attempts : List Attempt} {batches sends : Nat}
    (present : after.row = some row) (inFlight : after.attempts = attempts)
    (waiting : after.batches = batches) (made : after.sends.length = sends)
    (phase : Phase row attempts batches sends) : Counted after := by
  rw [Counted, present, inFlight, waiting, made]
  exact phase

theorem phase {row : EventRow} (counted : Counted state) (present : state.row = some row) :
    Phase row state.attempts state.batches state.sends.length := by
  rw [Counted, present] at counted
  exact counted

theorem countsSends (counted : Counted state) : state.CountsSends := by
  intro row present
  have counted := counted.phase present
  generalize attempts_ : state.attempts = attempts at counted
  generalize batches_ : state.batches = batches at counted
  generalize sends_ : state.sends.length = sends at counted
  cases counted with
  | fresh unanswered counted pending =>
      refine ⟨?_, ?_⟩
      · intro settled
        exact absurd ⟨pending, Or.inl (List.length_eq_zero_iff.mp sends_)⟩ settled
      · intro dead
        rw [pending] at dead
        cases dead
  | rest counted spent => exact ⟨fun _ => counted, spent⟩
  | waiting counted pending =>
      refine ⟨?_, ?_⟩
      · intro settled
        refine absurd ⟨pending, Or.inr ?_⟩ settled
        rintro ⟨-, none_⟩
        omega
      · intro dead
        rw [pending] at dead
        cases dead
  | flying attempt tallies pending =>
      refine ⟨?_, ?_⟩
      · intro settled
        refine absurd ⟨pending, Or.inr ?_⟩ settled
        rintro ⟨none_, -⟩
        rw [attempts_] at none_
        cases none_
      · intro dead
        rw [pending] at dead
        cases dead

/-- An idle row that has been sent is at rest. -/
theorem atRest {row : EventRow} (counted : Counted state) (present : state.row = some row)
    (idle : state.Idle) (sent : state.sends ≠ []) :
    row.attemptCount = state.sends.length ∧
      (row.status = .deadLetter → maxTotalAttempts ≤ state.sends.length) := by
  rcases counted.countsSends row present with ⟨count, spent⟩
  refine ⟨count ?_, spent⟩
  rintro ⟨-, none_ | busy⟩
  · exact sent none_
  · exact busy idle

theorem congr {after : Outbox} (counted : Counted state) (row : after.row = state.row)
    (attempts : after.attempts = state.attempts) (batches : after.batches = state.batches)
    (sends : after.sends = state.sends) : Counted after := by
  rw [Counted, row, attempts, batches, sends]
  exact counted

theorem publish_event (counted : Counted state) (event : SendEvent) :
    Counted (state.publish (.sendEvent event)) := by
  refine counted.congr rfl rfl ?_ rfl
  rw [Outbox.batches, Outbox.publish, List.countP_append]
  rfl

theorem retry (counted : Counted state) (task : Task) (event : SendEvent) :
    Counted (state.retry task event) := by
  refine counted.congr rfl rfl ?_ rfl
  rw [Outbox.batches, Outbox.retry, List.countP_append]
  rfl

theorem enqueue (counted : Counted state) (eventTime : Nat) (userData : List String)
    (persist : Option Persistence) : Counted (state.enqueue eventTime userData persist now) := by
  rw [Outbox.enqueue.eq_def]
  dsimp only
  split
  · exact counted.publish_event _
  · exact counted.publish_event _
  · split
    · exact counted
    · exact counted.publish_event _
  · exact counted.publish_event _
  · rename_i absent
    rw [Counted, absent] at counted
    rcases counted with ⟨attempts, batches, sends⟩
    refine publish_event ?_ _
    exact of_phase rfl attempts batches (List.length_eq_zero_iff.mpr sends) (.fresh rfl rfl rfl)

/-- A row at rest after a write that keeps its count. -/
theorem settled {row after : EventRow} (counted : Counted state) (present : state.row = some row)
    (idle : state.Idle) (sent : state.sends ≠ [])
    (count : after.attemptCount = row.attemptCount)
    (spent : after.status = .deadLetter → row.status = .deadLetter) :
    Counted { state with row := some after } := by
  rcases counted.atRest present idle sent with ⟨same, dead⟩
  exact of_phase rfl idle.1 idle.2 rfl (.rest (count.trans same) fun after => dead (spent after))

theorem orOne_of_sent {row : EventRow} (counted : Counted state) (present : state.row = some row)
    (idle : state.Idle) (sent : state.sends ≠ []) : orOne row.attemptCount = row.attemptCount := by
  have positive := List.length_pos_iff.mpr sent
  have same := (counted.atRest present idle sent).1
  rw [orOne, if_neg (by omega)]

/-- What an attempt that begins will leave as the count is one more than the sends. -/
theorem tallies_of_adopted {event : SendEvent} {adoption : Adoption} {attempts : Nat}
    (counted : Counted state) (idle : state.Idle)
    (retries : event.retries = if event.handed ∧ state.sends ≠ [] then 1 else 0)
    (adopted : Adopted state.row event now adoption) (proceeds : adoption.proceeds = some attempts) :
    attempts + event.retries = state.sends.length + 1 ∧
      ∃ row, adoption.row = some row ∧ row.status = .pending := by
  cases adopted with
  | unchanged => cases proceeds
  | expires row present handed expired => cases proceeds
  | creates absent unhanded =>
      cases proceeds
      rw [Counted, absent] at counted
      rw [counted.2.2] at retries ⊢
      rw [if_neg (fun facts => facts.2 rfl)] at retries
      exact ⟨by rw [retries]; rfl, _, rfl, rfl⟩
  | releases row present handed owed timely =>
      cases proceeds
      refine ⟨?_, _, rfl, rfl⟩
      by_cases sent : state.sends = []
      · rw [if_neg (fun facts => facts.2 sent)] at retries
        have phase := counted.phase present
        rw [idle.1, idle.2, sent] at phase
        rw [retries, sent]
        cases phase with
        | fresh unanswered counted pending => rw [counted]; rfl
        | rest counted spent => rw [counted]; rfl
      · rw [if_pos ⟨handed, sent⟩] at retries
        rw [counted.orOne_of_sent present idle sent, (counted.atRest present idle sent).1, retries]
  | takesUp row present unhanded again =>
      cases proceeds
      refine ⟨?_, _, rfl, rfl⟩
      rw [if_neg (fun facts => by rw [unhanded] at facts; cases facts.1)] at retries
      have answered := EventRow.answered_of_again again
      have phase := counted.phase present
      rw [idle.1, idle.2] at phase
      rw [retries]
      generalize state.sends.length = sends at phase
      cases phase with
      | fresh unanswered counted pending => exact absurd unanswered answered
      | rest counted spent => rw [counted]

theorem startEvent (counted : Counted state) {task : Task} {event : SendEvent} {store : StoreState}
    (works : task.work = .sendEvent event) (once : event.CountedOnce state store now) :
    Counted (state.startEvent task event store now) := by
  have adopted := adopt_adopted state.row event now
  have skipped (none_ : (adopt state.row event now).proceeds = none)
      (quiet : (adopt state.row event now).row = state.row ∨ (state.Idle ∧ state.sends ≠ [])) :
      Counted { state with row := (adopt state.row event now).row } := by
    generalize adopt state.row event now = adoption at adopted none_ quiet
    cases adopted with
    | unchanged => exact counted
    | expires row present handed expired =>
        rcases quiet with same | ⟨idle, sent⟩
        · dsimp only at same
          rw [same]
          exact counted
        · refine counted.settled present idle sent (counted.orOne_of_sent present idle sent) ?_
          intro dead
          cases dead
    | creates absent unhanded => cases none_
    | releases row present handed owed timely => cases none_
    | takesUp row present unhanded again => cases none_
  rw [SendEvent.CountedOnce.eq_def] at once
  cases store with
  | storeMissing => exact counted
  | capiDisabled => exact counted
  | credentialMissing =>
      simp only [Outbox.startEvent]
      cases proceeds : (adopt state.row event now).proceeds with
      | none =>
          rw [proceeds] at once
          exact skipped proceeds once
      | some attempts =>
          rw [proceeds] at once
          rcases once with ⟨idle, sent, handed⟩
          generalize adopt state.row event now = adoption at adopted proceeds
          cases adopted with
          | unchanged => cases proceeds
          | expires row present _ expired => cases proceeds
          | creates absent unhanded => rw [unhanded] at handed; cases handed
          | takesUp row present unhanded again => rw [unhanded] at handed; cases handed
          | releases row present _ owed timely =>
              cases proceeds
              refine counted.settled present idle sent (counted.orOne_of_sent present idle sent) ?_
              intro dead
              cases dead
  | connected =>
      simp only [Outbox.startEvent]
      cases proceeds : (adopt state.row event now).proceeds with
      | none =>
          rw [proceeds] at once
          exact skipped proceeds once
      | some attempts =>
          rw [proceeds] at once
          rcases once with ⟨idle, retries⟩
          rcases counted.tallies_of_adopted idle retries adopted proceeds with
            ⟨tallies, row, present, pending⟩
          refine of_phase present (by rw [idle.1]; rfl) idle.2 rfl (.flying _ ?_ pending)
          rw [Attempt.Tallies, works, if_pos rfl]
          exact tallies

theorem startBatch {task : Task} {store : StoreState} {alone : Bool} (works : task.work = .sendBatch)
    (connected : store = .connected)
    (timely : ∀ row ∈ state.row, isExpired row.eventTime now = false)
    {row : EventRow} (present : state.row = some row) (none_ : state.attempts = [])
    (waiting : state.batches = 0) (counted : row.attemptCount = state.sends.length + 1)
    (pending : row.status = .pending) : Counted (state.startBatch task store alone now) := by
  subst connected
  have owed : row.status.isTerminal = false := by rw [pending]; rfl
  simp only [Outbox.startBatch, present, owed, timely row present, Bool.false_eq_true, if_false]
  refine of_phase rfl (by rw [none_]; rfl) waiting rfl (.flying _ ?_ pending)
  rw [Attempt.Tallies, works, if_pos rfl]
  exact counted

/-- The one batch that waits. -/
theorem waiting_of_batches {rest : Nat} (counted : Counted state)
    (waiting : state.batches = rest + 1) :
    ∃ row, state.row = some row ∧ row.status = .pending ∧ state.attempts = [] ∧ rest = 0 ∧
      row.attemptCount = state.sends.length + 1 := by
  cases present : state.row with
  | none =>
      rw [Counted, present] at counted
      omega
  | some row =>
      have phase := counted.phase present
      rw [waiting] at phase
      generalize attempts_ : state.attempts = attempts at phase
      generalize state.sends.length = sends at phase
      cases phase with
      | waiting counted pending => exact ⟨row, rfl, pending, rfl, rfl, counted⟩

theorem start (counted : Counted state) {index : Nat} {store : StoreState} {alone : Bool}
    (once : ∀ task ∈ state.queue[index]?, task.CountedOnce state store now) :
    Counted (state.start index store alone now) := by
  rw [Outbox.start.eq_def]
  split
  · exact counted
  · rename_i task found
    have once := once task found
    rw [Task.CountedOnce.eq_def] at once
    have taken := countP_eraseIdx (p := fun task => task.work = .sendBatch) found
    dsimp only
    split
    · rename_i event works
      rw [works] at once
      have same : (state.queue.eraseIdx index).countP (fun task => task.work = .sendBatch) =
          state.batches := by
        rw [Outbox.batches, taken, works]
        rfl
      have left_ : Counted { state with queue := state.queue.eraseIdx index } :=
        counted.congr rfl rfl same rfl
      refine left_.startEvent works ?_
      dsimp only at once
      rw [SendEvent.CountedOnce.eq_def] at once ⊢
      simp only [Outbox.Idle, Outbox.batches] at once ⊢
      rw [same]
      exact once
    · rename_i works
      rw [works] at once
      rw [works] at taken
      have waiting : state.batches =
          (state.queue.eraseIdx index).countP (fun task => task.work = .sendBatch) + 1 := taken
      rcases counted.waiting_of_batches waiting with
        ⟨row, present, pending, none_, zero, count⟩
      exact startBatch works once.1 once.2 present none_ zero count pending

/-- The one attempt in flight. -/
theorem flying_of_found {index : Nat} {attempt : Attempt} (counted : Counted state)
    (found : state.attempts[index]? = some attempt) :
    ∃ row, state.row = some row ∧ row.status = .pending ∧ state.attempts = [attempt] ∧ index = 0 ∧
      state.batches = 0 ∧ attempt.Tallies row.attemptCount state.sends.length := by
  cases present : state.row with
  | none =>
      rw [Counted, present] at counted
      rw [counted.1] at found
      cases found
  | some row =>
      have phase := counted.phase present
      generalize attempts_ : state.attempts = attempts at phase found
      generalize batches_ : state.batches = batches at phase
      generalize state.sends.length = sends at phase
      cases phase with
      | fresh unanswered counted pending => cases found
      | rest counted spent => cases found
      | waiting counted pending => cases found
      | flying only tallies pending =>
          have first := List.mem_singleton.mp (List.mem_of_getElem? found)
          subst first
          have zero : index = 0 := by
            rcases List.getElem?_eq_some_iff.mp found with ⟨within, -⟩
            exact Nat.lt_one_iff.mp within
          exact ⟨row, rfl, pending, rfl, zero, rfl, tallies⟩

theorem post (counted : Counted state) {index : Nat} {answer : Answer} :
    Counted (state.post index answer now) := by
  rw [Outbox.post.eq_def]
  split
  · rename_i attempt found
    split
    · rename_i unanswered
      rcases counted.flying_of_found found with
        ⟨row, present, pending, only, rfl, waiting, tallies⟩
      have inFlight : state.attempts.set 0 { attempt with answer := some answer } =
          [{ attempt with answer := some answer }] := by rw [only]; rfl
      refine of_phase present inFlight waiting List.length_append (.flying _ ?_ pending)
      rw [Attempt.Tallies, unanswered, if_pos rfl] at tallies
      rw [Attempt.Tallies, if_neg (Option.some_ne_none answer)]
      exact tallies
    · exact counted
  · exact counted

/-- What a settlement leaves is at rest, if it writes the number of sends. -/
theorem left (row_ : ∃ row, state.row = some row ∧ row.attemptCount = state.sends.length ∧
      (row.status = .deadLetter → maxTotalAttempts ≤ row.attemptCount))
    (none_ : state.attempts = []) (waiting : state.batches = 0) : Counted state := by
  rcases row_ with ⟨row, present, count, spent⟩
  exact of_phase present none_ waiting rfl (.rest count fun dead => count ▸ spent dead)

theorem recordRetryable_deadLetter {row : EventRow} {rowId attempts retries : Nat}
    (dead : (row.recordRetryable rowId attempts retries now).status = .deadLetter) :
    maxTotalAttempts ≤ attempts := by
  rw [EventRow.recordRetryable] at dead
  dsimp only at dead
  split at dead
  · cases dead
  · exact EventRow.ladder_deadLetter dead

theorem updateResponse_deadLetter {row : EventRow} {rowId attempts retries : Nat} {status : Int}
    {kind : Option FailureKind} {retryAfter : Option Int}
    (dead : (row.updateResponse rowId attempts retries status kind retryAfter now).status =
      .deadLetter) : maxTotalAttempts ≤ attempts := by
  rw [EventRow.updateResponse.eq_def] at dead
  dsimp only at dead
  split at dead
  · cases dead
  · split at dead
    · split at dead
      · cases dead
      · exact EventRow.ladder_deadLetter dead
    · cases dead

theorem settleEvent {attempt : Attempt} {event : SendEvent} {answer : Answer} {row : EventRow}
    (present : state.row = some row) (none_ : state.attempts = []) (waiting : state.batches = 0)
    (tallies : attempt.rowAttempts + event.retries = state.sends.length) :
    Counted (state.settleEvent attempt event answer now) := by
  rw [Outbox.settleEvent.eq_def]
  dsimp only
  split
  · have recorded : Counted { state with
        row := state.row.map (·.recordRetryable state.rowId (attempt.rowAttempts + event.retries)
          event.retries now) } := by
      refine left ⟨_, congrArg (Option.map _) present, tallies, ?_⟩ none_ waiting
      exact recordRetryable_deadLetter
    split
    · exact recorded.retry _ _
    · exact recorded
  · rename_i status error retryAfter
    have updated : Counted { state with
        row := state.row.map (·.updateResponse state.rowId (attempt.rowAttempts + event.retries)
          event.retries status (classifyStatus status error) retryAfter now) } := by
      refine left ⟨_, congrArg (Option.map _) present, tallies, ?_⟩ none_ waiting
      exact updateResponse_deadLetter
    split
    · exact updated.retry _ _
    · exact updated

theorem settleBatch {attempt : Attempt} {answer : Answer} {row : EventRow}
    (present : state.row = some row) (answered : attempt.answer = some answer)
    (none_ : state.attempts = []) (waiting : state.batches = 0)
    (tallies : row.attemptCount = state.sends.length)
    (lone : attempt.alone = true ∨ attempt.rejected = false) :
    Counted (state.settleBatch attempt answer now) := by
  have rescheduled (kind : FailureKind) (retryAfter : Option Int) (status : Option Int) :
      Counted { state with
        row := state.row.map (·.reschedule state.rowId kind retryAfter status now) } := by
    refine left ⟨_, congrArg (Option.map _) present, tallies, ?_⟩ none_ waiting
    intro dead
    have spent : maxTotalAttempts ≤ orOne row.attemptCount := EventRow.ladder_deadLetter dead
    rw [orOne] at spent
    split at spent
    · exact absurd spent (by decide)
    · exact spent
  rw [Outbox.settleBatch.eq_def]
  split
  · exact rescheduled _ _ _
  · rename_i status error retryAfter
    split
    · refine left ⟨_, congrArg (Option.map _) present, tallies, ?_⟩ none_ waiting
      intro dead
      cases dead
    · rename_i kind classified
      split
      · exact rescheduled _ _ _
      · rename_i refused
        split
        · refine left ⟨_, congrArg (Option.map _) present, tallies, ?_⟩ none_ waiting
          intro dead
          cases dead
        · rename_i several
          rcases lone with alone | accepted
          · exact absurd alone several
          · rw [Attempt.rejected, answered] at accepted
            dsimp only at accepted
            rw [classified] at accepted
            exact absurd accepted (by simpa using refused)

theorem settle (counted : Counted state) {index : Nat}
    (lone : ∀ attempt ∈ state.attempts[index]?,
      attempt.task.work = .sendBatch → attempt.alone = true ∨ attempt.rejected = false) :
    Counted (state.settle index now) := by
  rw [Outbox.settle.eq_def]
  split
  · exact counted
  · rename_i attempt found
    split
    · exact counted
    · rename_i answer answered
      have single := lone attempt found
      rcases counted.flying_of_found found with
        ⟨row, present, pending, only, rfl, waiting, tallies⟩
      have none_ : state.attempts.eraseIdx 0 = [] := by rw [only]; rfl
      rw [Attempt.Tallies, answered, if_neg (Option.some_ne_none answer)] at tallies
      dsimp only
      split
      · rename_i event works
        rw [works] at tallies
        exact settleEvent present none_ waiting tallies
      · rename_i works
        rw [works] at tallies
        exact settleBatch present answered none_ waiting tallies (single works)

theorem expireOverdue (counted : Counted state) {asOf : Nat}
    (quiet : ∀ row ∈ state.row, row.status.isTerminal = false →
      row.expiresAt.any (· ≤ asOf) = true → state.Idle ∧ state.sends ≠ []) :
    Counted (state.expireOverdue asOf) := by
  rw [Outbox.expireOverdue]
  cases present : state.row with
  | none => exact counted.congr present.symm rfl rfl rfl
  | some row =>
      rw [Option.map_some]
      split
      · rename_i overdue
        rcases Bool.and_eq_true_iff.mp overdue with ⟨owed, past⟩
        rcases quiet row present (Bool.not_eq_true' _ ▸ owed) past with ⟨idle, sent⟩
        refine counted.settled present idle sent rfl ?_
        intro dead
        cases dead
      · exact counted.congr present.symm rfl rfl rfl

theorem claimDue (counted : Counted state) {asOf : Nat}
    (quiet : ∀ row ∈ state.row, Outbox.Due row asOf → state.Idle ∧ state.sends ≠ []) :
    Counted (state.claimDue asOf) := by
  rw [Outbox.claimDue.eq_def]
  split
  · exact counted
  · rename_i row present
    split
    · rename_i due
      rcases quiet row present due with ⟨idle, sent⟩
      have one : List.countP (fun task : Task => task.work = .sendBatch)
          (state.queue ++ [{ id := state.nextTask, work := .sendBatch }]) = 1 := by
        rw [List.countP_append, show state.queue.countP _ = 0 from idle.2]
        rfl
      refine of_phase rfl idle.1 one rfl (.waiting ?_ rfl)
      exact congrArg (· + 1) (counted.atRest present idle sent).1
    · exact counted

theorem step (counted : Counted state) {label : Time × OutboxEvent}
    (once : CountedOnce state label) : Counted (state.step label) := by
  rcases label with ⟨now, event⟩
  have acted : Counted (state.act now event) := by
    cases event with
    | enqueue eventTime userData persist => exact counted.enqueue eventTime userData persist
    | start index store alone => exact counted.start once
    | post index answer => exact counted.post
    | settle index => exact counted.settle once
    | crash index redelivered =>
        have absent : state.attempts[index]? = none := once
        rw [Outbox.act, Outbox.crash, absent]
        exact counted
    | redeliver index =>
        rw [Outbox.act, Outbox.redeliver.eq_def]
        split
        · exact counted
        · rename_i attempt found
          refine counted.congr rfl rfl ?_ rfl
          rw [Outbox.batches, List.countP_append, List.countP_singleton,
            if_neg (by simpa using once attempt found)]
          rfl
    | lose index =>
        rw [Outbox.act]
        cases found : state.queue[index]? with
        | none =>
            refine counted.congr rfl rfl ?_ rfl
            rw [List.eraseIdx_of_length_le (List.getElem?_eq_none_iff.mp found)]
        | some task =>
            refine counted.congr rfl rfl ?_ rfl
            rw [Outbox.batches, Outbox.batches, countP_eraseIdx found,
              if_neg (by simpa using once task found)]
            rfl
    | expireOverdue asOf => exact counted.expireOverdue once
    | claimDue asOf => exact counted.claimDue once
  exact acted.congr rfl rfl rfl rfl

end Counted

/-- From an empty outbox on, in every run whose every attempt is counted once, the stored count is
the number of sends, and the row is dead-lettered only after the total number of attempts. -/
theorem counts_sends {start : Outbox} {labels : List (Time × OutboxEvent)}
    (unsent : start.row = none ∧ start.queue = [] ∧ start.attempts = [] ∧ start.sends = [])
    (once : Run.Guarded Outbox.step CountedOnce start labels) :
    Run.Always Outbox.step Outbox.CountsSends start labels := by
  rcases unsent with ⟨absent, none_, idle, sends⟩
  have initial : Counted start := by
    rw [Counted, absent]
    exact ⟨idle, by rw [Outbox.batches, none_]; rfl, sends⟩
  have kept : Run.Always Outbox.step Counted start labels :=
    Run.always_of_guarded (fun _ _ counted once => counted.step once) initial once
  exact kept.mono fun _ counted => counted.countsSends

/-- What a worker does with the first task, at one instant. -/
def attempt (now : Time) (answer : Answer) : List (Time × OutboxEvent) :=
  [(now, .start 0 .connected true), (now, .post 0 answer), (now, .settle 0)]

def unavailable : Answer := .response 503 {} none

/-- A conversion that fails twice, loses its second retry, and is delivered by the sweep. -/
theorem swept_conversion_counts_sends :
    Run.Always Outbox.step Outbox.CountsSends { rowId := 0 }
      ((0, .enqueue 0 [] (some .committed)) :: attempt 1 unavailable ++ attempt 2 unavailable ++
        [(3, .lose 0), (2 + claimLease, .claimDue (2 + claimLease))] ++
        attempt (3 + claimLease) (.response 200 {} none)) :=
  counts_sends ⟨rfl, rfl, rfl, rfl⟩ (by decide +kernel)

/-- A conversion that Meta answers with 503 each time is dead-lettered after seven sends. -/
theorem retried_conversion_dead_letters_early :
    ¬ Run.Always Outbox.step Outbox.CountsSends { rowId := 0 }
      ((0, .enqueue 0 [] (some .committed)) ::
        (List.range 7).flatMap fun tries => attempt (tries + 1) unavailable) := by
  intro always
  have last := always.last
  have dead : (Run.run Outbox.step { rowId := 0 } ((0, .enqueue 0 [] (some .committed)) ::
      (List.range 7).flatMap fun tries => attempt (tries + 1) unavailable)).row = some {
        eventTime := 0, userData := [], responseStatus := some 503, attemptCount := 22
        status := .deadLetter, nextRetryAt := none, expiresAt := some dedupWindow
        failureKind := some .serverError } := by decide +kernel
  have early := (last _ dead).2 rfl
  exact absurd early (by decide +kernel)

end Numu.Meta
