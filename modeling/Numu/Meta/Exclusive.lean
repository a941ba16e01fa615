import Numu.Foundation.Run
import Numu.Meta.Moves

/-!
# One sender for a claimed row

A claim, and the start of a single send, lease the row to a task. The lease is a time
in the row and names nobody: a task that is taken from the queue does not see that the
row has been leased to another one since.
-/

namespace Numu.Meta
open Numu.Orders (Time)

/-- Whom a row is leased to, or the ladder alone, and until when. -/
structure Hold where
  task : Option Nat
  until_ : Time
  deriving DecidableEq, Repr

/-- An outbox with the record of its leases: whose the row's lease is, under which lease the last
attempt began, and the leases given since the row was last settled. -/
structure Watched where
  outbox : Outbox
  owner : Option Nat := none
  begunUntil : Time := 0
  holds : List Hold := []
  deriving DecidableEq, Repr

namespace Outbox

def leaseEnd (state : Outbox) : Option Time := state.row.bind (·.nextRetryAt)

/-- Delivery of the row is still owed. -/
def Owed (state : Outbox) : Prop := ∃ row ∈ state.row, row.status.isTerminal = false

instance (state : Outbox) : Decidable state.Owed :=
  inferInstanceAs (Decidable (∃ row, row ∈ state.row ∧ row.status.isTerminal = false))

def Begins (before after : Outbox) : Prop := before.attempts.length < after.attempts.length

instance (before after : Outbox) : Decidable (before.Begins after) :=
  inferInstanceAs (Decidable (_ < _))

/-- To whom a step leases the row. -/
def leasedTo (before after : Outbox) : OutboxEvent → Option (Option Nat)
  | .enqueue _ _ _ => if before.row = none ∧ after.row ≠ none then some before.nextTask else none
  | .start index _ _ =>
      (before.queue[index]?).bind fun task =>
        if before.Begins after ∧ task.work ≠ .sendBatch then some task.id else none
  | .settle index =>
      (before.attempts[index]?).bind fun attempt =>
        if after.Begins before then
          if after.row.map (·.status) = some .pending then some attempt.task.id else some none
        else none
  | .claimDue _ => if before.nextTask < after.nextTask then some before.nextTask else none
  | .post _ _ | .crash _ _ | .redeliver _ | .lose _ | .expireOverdue _ => none

end Outbox

namespace Watched

/-- The leases after a step: a new one replaces its task's own, a settlement ends all before it. -/
def nextHolds (state : Watched) (after : Outbox) (event : OutboxEvent) : List Hold :=
  if after.Owed then
    match state.outbox.leasedTo after event, event with
    | none, _ => state.holds
    | some task, .settle _ => [{ task := task, until_ := after.leaseEnd.getD 0 }]
    | some task, _ =>
        state.holds.filter (·.task ≠ task) ++ [{ task := task, until_ := after.leaseEnd.getD 0 }]
  else []

def step (state : Watched) (label : Time × OutboxEvent) : Watched :=
  let after := state.outbox.step label
  { outbox := after
    owner := (state.outbox.leasedTo after label.2).getD state.owner
    begunUntil :=
      if state.outbox.Begins after then after.leaseEnd.getD 0 else state.begunUntil
    holds := state.nextHolds after label.2 }

/-- A task posts only while no other holds the row. -/
def PostsAlone (state : Watched) (label : Time × OutboxEvent) : Prop :=
  ∀ index answer, label.2 = .post index answer →
    ∀ attempt ∈ state.outbox.attempts[index]?, attempt.answer = none →
      ∀ hold ∈ state.holds, label.1 < hold.until_ → hold.task = some attempt.task.id

/-- Every attempt in flight has made its POST. -/
def AllPosted (state : Watched) : Prop := ∀ attempt ∈ state.outbox.attempts, attempt.answer ≠ none

instance (state : Watched) : Decidable state.AllPosted :=
  inferInstanceAs (Decidable (∀ attempt ∈ state.outbox.attempts, _))

/-- The row's lease is over, or never was. -/
def Unleased (state : Watched) (now : Time) : Prop :=
  ¬ state.outbox.Owed ∨ ∀ end_ ∈ state.outbox.leaseEnd, end_ ≤ now

instance (state : Watched) (now : Time) : Decidable (state.Unleased now) :=
  inferInstanceAs (Decidable (_ ∨ ∀ end_ ∈ state.outbox.leaseEnd, end_ ≤ now))

/-- The row's lease is the task's. -/
def Owns (state : Watched) (task : Task) : Prop := state.owner = some task.id

instance (state : Watched) (task : Task) : Decidable (state.Owns task) :=
  inferInstanceAs (Decidable (_ = _))

/-- A worker begins an attempt for a task whose lease the row's is, a single send also where there
is no lease, and no attempt begins or settles before all begun have made their POST; a POST is
made before the lease it began under is over. -/
def Leased (state : Watched) (label : Time × OutboxEvent) : Prop :=
  match label.2 with
  | .start index _ _ =>
      state.outbox.Begins (state.outbox.step label) →
        state.AllPosted ∧ ∀ task ∈ state.outbox.queue[index]?,
          state.Owns task ∨ (task.work ≠ .sendBatch ∧ state.Unleased label.1)
  | .post index _ =>
      ∀ attempt ∈ state.outbox.attempts[index]?, attempt.answer = none →
        label.1 < state.begunUntil
  | .settle index =>
      ∀ attempt ∈ state.outbox.attempts[index]?, attempt.answer ≠ none → state.AllPosted
  | _ => True

/-- The clock does not go back, and the sweep acts on an instant it has read. -/
def Ordered (state : Watched) (label : Time × OutboxEvent) : Prop :=
  state.outbox.clock ≤ label.1 ∧
    match label.2 with
    | .claimDue asOf => asOf ≤ label.1
    | _ => True

instance (state : Watched) : ∀ label, Decidable (state.Leased label)
  | (_, .start _ _ _) => inferInstanceAs (Decidable (_ → _))
  | (_, .post _ _) => inferInstanceAs (Decidable (∀ attempt, attempt ∈ _ → _))
  | (_, .settle _) => inferInstanceAs (Decidable (∀ attempt, attempt ∈ _ → _))
  | (_, .enqueue _ _ _) | (_, .crash _ _) | (_, .redeliver _) | (_, .lose _)
  | (_, .expireOverdue _) | (_, .claimDue _) => isTrue trivial

instance (state : Watched) : ∀ label, Decidable (state.Ordered label)
  | (_, .claimDue _) => inferInstanceAs (Decidable (_ ∧ _))
  | (_, .start _ _ _) | (_, .post _ _) | (_, .settle _) | (_, .enqueue _ _ _) | (_, .crash _ _)
  | (_, .redeliver _) | (_, .lose _) | (_, .expireOverdue _) =>
      inferInstanceAs (Decidable (_ ∧ True))

instance (state : Watched) : ∀ label, Decidable (state.PostsAlone label)
  | (_, .post index answer) =>
      decidable_of_iff (∀ attempt ∈ state.outbox.attempts[index]?, attempt.answer = none →
          ∀ hold ∈ state.holds, _ < hold.until_ → hold.task = some attempt.task.id)
        ⟨fun alone other _ posting => by cases posting; exact alone,
          fun alone => alone index answer rfl⟩
  | (_, .start _ _ _) | (_, .settle _) | (_, .enqueue _ _ _) | (_, .crash _ _)
  | (_, .redeliver _) | (_, .lose _) | (_, .expireOverdue _) | (_, .claimDue _) =>
      isTrue fun _ _ posting => by cases posting

end Watched

section Starts
variable {state : Outbox} {now : Time}

/-- What a worker makes of the task it takes. -/
inductive Started (state : Outbox) (now : Time) (index : Nat) (after : Outbox) : Prop where
  | idle (row : after.row = state.row ∨ ¬ after.Owed) (attempts : after.attempts = state.attempts)
  | single (task : Task) (attempt : Attempt) (found : state.queue[index]? = some task)
      (single : task.work ≠ .sendBatch) (named : attempt.task = task) (owed : after.Owed)
      (leased : after.leaseEnd = some (now + claimLease))
      (attempts : after.attempts = state.attempts ++ [attempt])
  | batch (task : Task) (attempt : Attempt) (found : state.queue[index]? = some task)
      (batch : task.work = .sendBatch) (named : attempt.task = task)
      (row : after.row = state.row) (attempts : after.attempts = state.attempts ++ [attempt])

theorem not_owed {row : EventRow} (present : state.row = some row)
    (terminal : row.status.isTerminal = true) : ¬ state.Owed := by
  rintro ⟨found, same, owed⟩
  rw [present] at same
  cases same
  rw [terminal] at owed
  cases owed

/-- An adopted row that is sent is leased anew; one that is not stays or is settled. -/
theorem adopted_lease {found : Option EventRow} {event : SendEvent} {adoption : Adoption}
    (adopted : Adopted found event now adoption) :
    (adoption.proceeds = none ∧ (adoption.row = found ∨
      ∃ row, adoption.row = some row ∧ row.status.isTerminal = true)) ∨
    (adoption.proceeds ≠ none ∧ ∃ row, adoption.row = some row ∧ row.status.isTerminal = false ∧
      row.nextRetryAt = some (now + claimLease)) := by
  cases adopted with
  | unchanged => exact Or.inl ⟨rfl, Or.inl rfl⟩
  | expires row present handed expired => exact Or.inl ⟨rfl, Or.inr ⟨_, rfl, rfl⟩⟩
  | creates absent unhanded => exact Or.inr ⟨Option.some_ne_none _, _, rfl, rfl, rfl⟩
  | releases row present handed owed timely =>
      exact Or.inr ⟨Option.some_ne_none _, _, rfl, rfl, rfl⟩
  | takesUp row present unhanded again => exact Or.inr ⟨Option.some_ne_none _, _, rfl, rfl, rfl⟩

theorem startEvent_started {index : Nat} {task : Task} {event : SendEvent} {store : StoreState}
    {taken : Outbox} (row : taken.row = state.row) (attempts : taken.attempts = state.attempts)
    (found : state.queue[index]? = some task) (works : task.work = .sendEvent event) :
    Started state now index (taken.startEvent task event store now) := by
  have adopted := adopted_lease (adopt_adopted taken.row event now)
  rw [Outbox.startEvent.eq_def]
  split
  · exact .idle (Or.inl row) attempts
  · exact .idle (Or.inl row) attempts
  · dsimp only
    split
    · rename_i skipped
      rcases adopted with ⟨-, same | ⟨closed, made, terminal⟩⟩ | ⟨proceeds, -⟩
      · exact .idle (Or.inl (same.trans row)) attempts
      · exact .idle (Or.inr (not_owed made terminal)) attempts
      · exact absurd skipped proceeds
    · rename_i rowAttempts proceeds
      refine .idle (Or.inr ?_) attempts
      rcases adopted with ⟨skipped, -⟩ | ⟨-, left_, made, -⟩
      · rw [skipped] at proceeds
        cases proceeds
      · exact not_owed (congrArg (Option.map _) made) rfl
  · dsimp only
    split
    · rename_i skipped
      rcases adopted with ⟨-, same | ⟨closed, made, terminal⟩⟩ | ⟨proceeds, -⟩
      · exact .idle (Or.inl (same.trans row)) attempts
      · exact .idle (Or.inr (not_owed made terminal)) attempts
      · exact absurd skipped proceeds
    · rename_i rowAttempts proceeds
      rcases adopted with ⟨skipped, -⟩ | ⟨-, left_, made, owed, leased⟩
      · rw [skipped] at proceeds
        cases proceeds
      · refine .single task _ found ?_ rfl ⟨left_, made, owed⟩ ?_ (congrArg (· ++ _) attempts)
        · rw [works]
          exact Work.noConfusion
        · rw [Outbox.leaseEnd]
          dsimp only
          rw [made]
          exact leased

theorem startBatch_started {index : Nat} {alone : Bool} {task : Task} {store : StoreState}
    {taken : Outbox} (row : taken.row = state.row) (attempts : taken.attempts = state.attempts)
    (found : state.queue[index]? = some task) (works : task.work = .sendBatch) :
    Started state now index (taken.startBatch task store alone now) := by
  rw [Outbox.startBatch.eq_def]
  split
  · exact .idle (Or.inl row) attempts
  · exact .idle (Or.inl row) attempts
  · exact .idle (Or.inr (not_owed rfl rfl)) attempts
  · split
    · exact .idle (Or.inl row) attempts
    · split
      · exact .idle (Or.inr (not_owed rfl rfl)) attempts
      · exact .idle (Or.inr (not_owed rfl rfl)) attempts
  · split
    · exact .idle (Or.inl row) attempts
    · split
      · exact .idle (Or.inr (not_owed rfl rfl)) attempts
      · exact .batch task _ found works rfl row (congrArg (· ++ _) attempts)

theorem start_started {index : Nat} {store : StoreState} {alone : Bool} :
    Started state now index (state.start index store alone now) := by
  rw [Outbox.start.eq_def]
  split
  · exact .idle (Or.inl rfl) rfl
  · rename_i task found
    dsimp only
    split
    · rename_i event works
      exact startEvent_started rfl rfl found works
    · rename_i works
      exact startBatch_started rfl rfl found works

/-- A settled row has its outcome or the time of its next attempt. -/
def Scheduled (state : Outbox) : Prop := state.Owed → ∃ end_, state.leaseEnd = some end_

theorem scheduled_of_map {before : Option EventRow} {write : EventRow → EventRow}
    (schedules : ∀ row, (write row).status.isTerminal = true ∨ (write row).nextRetryAt ≠ none)
    (written : state.row = before.map write) : Scheduled state := by
  rintro ⟨row, present, owed⟩
  rw [written] at present
  rcases Option.map_eq_some_iff.mp present with ⟨old, -, rfl⟩
  rcases schedules old with terminal | due
  · rw [owed] at terminal
    cases terminal
  · rcases Option.ne_none_iff_exists'.mp due with ⟨end_, due⟩
    refine ⟨end_, ?_⟩
    rw [Outbox.leaseEnd, written, present]
    exact due

theorem ladder_schedules (rowId attempts : Nat) (retryAfter : Option Int) :
    (EventRow.ladder rowId attempts retryAfter now).1.isTerminal = true ∨
      (EventRow.ladder rowId attempts retryAfter now).2 ≠ none := by
  rw [EventRow.ladder.eq_def]
  split
  · exact Or.inl rfl
  · exact Or.inr (Option.some_ne_none _)

theorem recordRetryable_schedules (rowId attempts retries : Nat) (row : EventRow) :
    (row.recordRetryable rowId attempts retries now).status.isTerminal = true ∨
      (row.recordRetryable rowId attempts retries now).nextRetryAt ≠ none := by
  rw [EventRow.recordRetryable]
  dsimp only
  split
  · exact Or.inr (Option.some_ne_none _)
  · have scheduled : (EventRow.ladder rowId attempts none now).1.isTerminal = true ∨
        (EventRow.ladder rowId attempts none now).2 ≠ none := ladder_schedules rowId attempts none
    rcases scheduled with terminal | due
    · exact Or.inl terminal
    · rcases Option.ne_none_iff_exists'.mp due with ⟨end_, due⟩
      rw [due]
      exact Or.inr (Option.some_ne_none _)

theorem updateResponse_schedules (rowId attempts retries : Nat) (status : Int)
    (kind : Option FailureKind) (retryAfter : Option Int) (row : EventRow) :
    (row.updateResponse rowId attempts retries status kind retryAfter now).status.isTerminal = true ∨
      (row.updateResponse rowId attempts retries status kind retryAfter now).nextRetryAt ≠ none := by
  rw [EventRow.updateResponse.eq_def]
  dsimp only
  split
  · exact Or.inl rfl
  · split
    · split
      · exact Or.inr (Option.some_ne_none _)
      · exact ladder_schedules rowId attempts retryAfter
    · exact Or.inl rfl

theorem settleEvent_scheduled {attempt : Attempt} {event : SendEvent} {answer : Answer} :
    Scheduled (state.settleEvent attempt event answer now) := by
  rw [Outbox.settleEvent.eq_def]
  dsimp only
  split
  · split <;> exact scheduled_of_map (recordRetryable_schedules _ _ _) rfl
  · split <;> exact scheduled_of_map (updateResponse_schedules _ _ _ _ _ _) rfl

theorem settleBatch_scheduled {attempt : Attempt} {answer : Answer} :
    Scheduled (state.settleBatch attempt answer now) := by
  rw [Outbox.settleBatch.eq_def]
  split
  · exact scheduled_of_map (fun row => ladder_schedules _ _ _) rfl
  · split
    · exact scheduled_of_map (fun row => Or.inl rfl) rfl
    · split
      · exact scheduled_of_map (fun row => ladder_schedules _ _ _) rfl
      · split
        · exact scheduled_of_map (fun row => Or.inl rfl) rfl
        · exact scheduled_of_map (fun row => Or.inr (Option.some_ne_none _)) rfl

/-- A settlement drops its attempt and schedules the row, or does nothing. -/
theorem settle_scheduled {index : Nat} :
    state.settle index now = state ∨
      (∃ attempt, state.attempts[index]? = some attempt ∧ attempt.answer ≠ none ∧
        (state.settle index now).attempts = state.attempts.eraseIdx index ∧
        Scheduled (state.settle index now)) := by
  rw [Outbox.settle.eq_def]
  split
  · exact Or.inl rfl
  · rename_i attempt found
    split
    · exact Or.inl rfl
    · rename_i answer answered
      refine Or.inr ⟨attempt, found, by rw [answered]; exact Option.some_ne_none _, ?_⟩
      dsimp only
      split
      · exact ⟨settleEvent_stays.1, settleEvent_scheduled⟩
      · exact ⟨settleBatch_stays.1, settleBatch_scheduled⟩

end Starts

/-- Every lease is over, or is the row's and its owner's; an attempt that has not posted began
under a lease that is over, or under the row's, which is its own. -/
structure Exclusive (state : Watched) : Prop where
  holds : ∀ hold ∈ state.holds, hold.until_ ≤ state.outbox.clock ∨
    (state.outbox.Owed ∧ state.outbox.leaseEnd = some hold.until_ ∧ hold.task = state.owner)
  posts : ∀ attempt ∈ state.outbox.attempts, attempt.answer = none → state.outbox.Owed →
    state.begunUntil ≤ state.outbox.clock ∨
      (state.owner = some attempt.task.id ∧ state.outbox.leaseEnd = some state.begunUntil)
  rows : state.outbox.row = none → state.outbox.attempts = []

namespace Exclusive
variable {state : Watched} {label : Time × OutboxEvent}

theorem postsAlone (exclusive : Exclusive state) (ordered : state.Ordered label)
    (leased : state.Leased label) : state.PostsAlone label := by
  rcases label with ⟨now, event⟩
  intro index answer posting attempt found unanswered hold held live
  dsimp only at posting live
  subst posting
  have within : now < state.begunUntil := leased attempt found unanswered
  have later : state.outbox.clock ≤ now := ordered.1
  rcases exclusive.holds hold held with past | ⟨owed, end_, owner⟩
  · exact absurd live (Nat.not_lt.mpr (past.trans later))
  · rcases exclusive.posts attempt (List.mem_of_getElem? found) unanswered owed with past | ⟨own, -⟩
    · exact absurd within (Nat.not_lt.mpr (past.trans later))
    · exact owner.trans own

theorem rows_step (exclusive : Exclusive state) :
    (state.step label).outbox.row = none → (state.step label).outbox.attempts = [] := by
  rcases label with ⟨now, event⟩
  intro absent
  have moves : Moves state.outbox now event (state.outbox.act now event) := act_moves event
  have before : state.outbox.row = none := by
    by_contra present
    exact act_present event present absent
  have none_ := exclusive.rows before
  cases moves with
  | begins attempt why attempts sends stands =>
      have gone : (state.outbox.act now event).row = none := absent
      rw [gone] at stands
      cases stands
  | posts index answer attempt posting found unanswered attempts sends =>
      rw [none_] at found
      cases found
  | drops index attempts sends => exact attempts.trans (by rw [none_]; rfl)
  | stays attempts sends => exact attempts.trans none_

theorem closed (exclusive : Exclusive state)
    (past : ¬ (state.step label).outbox.Owed) : Exclusive (state.step label) where
  holds := by
    intro hold held
    have none_ : (state.step label).holds = [] := if_neg past
    rw [none_] at held
    cases held
  posts := fun _ _ _ owed => absurd owed past
  rows := exclusive.rows_step

theorem owner_step (unleased : state.outbox.leasedTo (state.outbox.step label) label.2 = none) :
    (state.step label).owner = state.owner := by
  rw [Watched.step]
  dsimp only
  rw [unleased]
  rfl

theorem owed_congr {before after : Outbox} (row : after.row = before.row) :
    after.Owed ↔ before.Owed := by
  rw [Outbox.Owed, Outbox.Owed, row]

theorem leaseEnd_congr {before after : Outbox} (row : after.row = before.row) :
    after.leaseEnd = before.leaseEnd := by
  rw [Outbox.leaseEnd, Outbox.leaseEnd, row]

/-- A step that leases nothing and leaves the row keeps the leases there are. -/
theorem holds_step (exclusive : Exclusive state) (later : state.outbox.clock ≤ label.1)
    (unleased : state.outbox.leasedTo (state.outbox.step label) label.2 = none)
    (row : (state.outbox.step label).row = state.outbox.row) :
    ∀ hold ∈ (state.step label).holds, hold.until_ ≤ (state.step label).outbox.clock ∨
      ((state.step label).outbox.Owed ∧
        (state.step label).outbox.leaseEnd = some hold.until_ ∧
        hold.task = (state.step label).owner) := by
  have same : (state.step label).outbox.row = state.outbox.row := row
  intro hold held
  have before : hold ∈ state.holds := by
    rw [Watched.step, Watched.nextHolds.eq_def] at held
    dsimp only at held
    rw [unleased] at held
    split at held
    · exact held
    · cases held
  rw [owner_step unleased, owed_congr same, leaseEnd_congr same]
  exact (exclusive.holds hold before).imp_left fun past => past.trans later

/-- A step that leases nothing, leaves the row and begins no attempt. -/
theorem quiet (exclusive : Exclusive state) (later : state.outbox.clock ≤ label.1)
    (unleased : state.outbox.leasedTo (state.outbox.step label) label.2 = none)
    (row : (state.outbox.step label).row = state.outbox.row)
    (begun : ¬ state.outbox.Begins (state.outbox.step label))
    (attempts : ∀ attempt ∈ (state.outbox.step label).attempts, attempt.answer = none →
      attempt ∈ state.outbox.attempts) : Exclusive (state.step label) := by
  have same : (state.step label).outbox.row = state.outbox.row := row
  have until_ : (state.step label).begunUntil = state.begunUntil := if_neg begun
  refine ⟨exclusive.holds_step later unleased row, ?_, exclusive.rows_step⟩
  intro attempt mem unanswered stillOwed
  rw [owner_step unleased, until_, leaseEnd_congr same]
  exact (exclusive.posts attempt (attempts attempt mem unanswered) unanswered
    ((owed_congr same).mp stillOwed)).imp_left fun past => past.trans later

/-- A step that leases the row to a task, or leaves it to the ladder, when no other lease is left
and no attempt has its POST to make but one that begins with the lease. -/
theorem given (exclusive : Exclusive state) {task : Option Nat} {end_ : Time}
    (leased : state.outbox.leasedTo (state.outbox.step label) label.2 = some task)
    (lease : (state.outbox.step label).leaseEnd = some end_)
    (free : ∀ hold ∈ state.holds, hold.until_ ≤ label.1 ∨ hold.task = task ∨
      ∃ index, label.2 = .settle index)
    (attempts : ∀ attempt ∈ (state.outbox.step label).attempts, attempt.answer = none →
      (state.outbox.Begins (state.outbox.step label) ∧ task = some attempt.task.id) ∨
      (¬ state.outbox.Begins (state.outbox.step label) ∧ state.begunUntil ≤ label.1)) :
    Exclusive (state.step label) := by
  by_cases owed : (state.outbox.step label).Owed
  swap
  · exact exclusive.closed owed
  have owner : (state.step label).owner = task := by
    rw [Watched.step]
    dsimp only
    rw [leased]
    rfl
  refine ⟨?_, ?_, exclusive.rows_step⟩
  · intro hold held
    rw [Watched.step, Watched.nextHolds.eq_def] at held
    dsimp only at held
    rw [if_pos owed, leased, lease] at held
    rw [owner]
    split at held
    · rename_i none_
      cases none_
    · rename_i same _
      cases same
      rw [List.mem_singleton.mp held]
      exact Or.inr ⟨owed, lease, rfl⟩
    · rename_i same unsettled
      cases same
      rcases List.mem_append.mp held with before | new
      · rcases List.mem_filter.mp before with ⟨before, other⟩
        rcases free hold before with past | own | ⟨index, settles⟩
        · exact Or.inl past
        · exact absurd own (of_decide_eq_true other)
        · exact absurd settles (unsettled index)
      · rw [List.mem_singleton.mp new]
        exact Or.inr ⟨owed, lease, rfl⟩
  · intro attempt mem unanswered _
    rw [owner]
    rcases attempts attempt mem unanswered with ⟨begun, own⟩ | ⟨unbegun, past⟩
    · have until_ : (state.step label).begunUntil = end_ := by
        rw [Watched.step]
        dsimp only
        rw [if_pos begun, lease]
        rfl
      rw [until_]
      exact Or.inr ⟨own, lease⟩
    · have until_ : (state.step label).begunUntil = state.begunUntil := if_neg unbegun
      rw [until_]
      exact Or.inl past

/-- A row whose lease is over, or that is not owed, has no lease left. -/
theorem free (exclusive : Exclusive state) {now : Time} (later : state.outbox.clock ≤ now)
    (unleased : state.Unleased now) : ∀ hold ∈ state.holds, hold.until_ ≤ now := by
  intro hold held
  rcases exclusive.holds hold held with past | ⟨owed, end_, -⟩
  · exact past.trans later
  · rcases unleased with settled | past
    · exact absurd owed settled
    · exact past _ end_

theorem begins_of_append {before after : Outbox} {attempt : Attempt}
    (attempts : after.attempts = before.attempts ++ [attempt]) : before.Begins after := by
  rw [Outbox.Begins, attempts, List.length_append, List.length_singleton]
  exact Nat.lt_succ_self _

theorem not_begins_of_eq {before after : Outbox} (attempts : after.attempts = before.attempts) :
    ¬ before.Begins after := by
  rw [Outbox.Begins, attempts]
  exact Nat.lt_irrefl _

/-- A step that does nothing but to the clock and the queue. -/
theorem still (exclusive : Exclusive state) (later : state.outbox.clock ≤ label.1)
    (unleased : state.outbox.leasedTo (state.outbox.step label) label.2 = none)
    (row : (state.outbox.step label).row = state.outbox.row)
    (attempts : (state.outbox.step label).attempts = state.outbox.attempts) :
    Exclusive (state.step label) :=
  exclusive.quiet later unleased row (not_begins_of_eq attempts) fun _ mem _ => attempts ▸ mem

/-- An attempt begins under the lease that the row has. -/
theorem resumes (exclusive : Exclusive state) (later : state.outbox.clock ≤ label.1)
    {begun : Attempt} (unleased : state.outbox.leasedTo (state.outbox.step label) label.2 = none)
    (row : (state.outbox.step label).row = state.outbox.row)
    (attempts : (state.outbox.step label).attempts = state.outbox.attempts ++ [begun])
    (owns : state.owner = some begun.task.id) (posted : state.AllPosted) :
    Exclusive (state.step label) := by
  have until_ : (state.step label).begunUntil = (state.outbox.step label).leaseEnd.getD 0 :=
    if_pos (begins_of_append attempts)
  refine ⟨exclusive.holds_step later unleased row, ?_, exclusive.rows_step⟩
  intro attempt mem unanswered stillOwed
  have mem : attempt ∈ state.outbox.attempts ++ [begun] := attempts ▸ mem
  rcases List.mem_append.mp mem with before | new
  · exact absurd unanswered (posted attempt before)
  · have same : (state.outbox.step label).leaseEnd = (state.step label).outbox.leaseEnd := rfl
    rw [owner_step unleased, List.mem_singleton.mp new, until_, same]
    cases lease : (state.step label).outbox.leaseEnd with
    | none => exact Or.inl (Nat.zero_le _)
    | some instant => exact Or.inr ⟨owns, rfl⟩

theorem enqueue (exclusive : Exclusive state) {now : Time} {eventTime : Nat}
    {userData : List String} {persist : Option Persistence} (later : state.outbox.clock ≤ now) :
    Exclusive (state.step (now, .enqueue eventTime userData persist)) := by
  have attempts : (state.outbox.step (now, .enqueue eventTime userData persist)).attempts =
      state.outbox.attempts := enqueue_stays.1
  by_cases created : state.outbox.row = none ∧
      (state.outbox.step (now, .enqueue eventTime userData persist)).row ≠ none
  · have none_ := exclusive.rows created.1
    have unowed : ¬ state.outbox.Owed := by
      rintro ⟨row, present, -⟩
      rw [created.1] at present
      cases present
    have lease : (state.outbox.step (now, .enqueue eventTime userData persist)).leaseEnd =
        some (now + claimLease) := by
      rcases created with ⟨absent, made⟩
      revert made
      rw [Outbox.leaseEnd, Outbox.step, Outbox.act, Outbox.enqueue.eq_def]
      dsimp only
      split
      · exact fun made => absurd absent made
      · exact fun made => absurd absent made
      · rename_i present
        rw [absent] at present
        cases present
      · exact fun made => absurd absent made
      · exact fun _ => rfl
    refine exclusive.given (if_pos created) lease ?_ ?_
    · intro hold held
      exact Or.inl (exclusive.free later (Or.inl unowed) hold held)
    · intro attempt mem
      rw [attempts, none_] at mem
      cases mem
  · refine exclusive.still later (if_neg created) ?_ attempts
    revert created
    rw [Outbox.step, Outbox.act, Outbox.enqueue.eq_def]
    dsimp only
    split
    · exact fun _ => rfl
    · exact fun _ => rfl
    · split <;> exact fun _ => rfl
    · exact fun _ => rfl
    · rename_i absent
      exact fun unmade => absurd ⟨absent, Option.some_ne_none _⟩ unmade

theorem start (exclusive : Exclusive state) {now : Time} {index : Nat} {store : StoreState}
    {alone : Bool} (later : state.outbox.clock ≤ now)
    (leased : state.Leased (now, .start index store alone)) :
    Exclusive (state.step (now, .start index store alone)) := by
  have started : Started state.outbox now index
      (state.outbox.step (now, .start index store alone)) := by
    have started : Started state.outbox now index (state.outbox.start index store alone now) :=
      start_started
    cases started with
    | idle row attempts => exact .idle row attempts
    | single task attempt found single named owed leased attempts =>
        exact .single task attempt found single named owed leased attempts
    | batch task attempt found batch named row attempts =>
        exact .batch task attempt found batch named row attempts
  cases started with
  | idle row attempts =>
      rcases row with same | past
      · refine exclusive.still later ?_ same attempts
        rw [Outbox.leasedTo]
        cases state.outbox.queue[index]? with
        | none => rfl
        | some task => exact if_neg fun begun => not_begins_of_eq attempts begun.1
      · exact exclusive.closed past
  | single task attempt found single named owed end_ attempts =>
      have begun := begins_of_append attempts
      rcases leased begun with ⟨posted, own⟩
      have given : state.outbox.leasedTo (state.outbox.step (now, .start index store alone))
          (.start index store alone) = some (some task.id) := by
        rw [Outbox.leasedTo, found]
        exact if_pos ⟨begun, single⟩
      refine exclusive.given given end_ ?_ ?_
      · intro hold held
        rcases own task found with owns | ⟨-, unleased⟩
        · rcases exclusive.holds hold held with past | ⟨-, -, owner⟩
          · exact Or.inl (past.trans later)
          · exact Or.inr (Or.inl (owner.trans owns))
        · exact Or.inl (exclusive.free later unleased hold held)
      · intro other mem unanswered
        rw [attempts] at mem
        rcases List.mem_append.mp mem with before | new
        · exact absurd unanswered (posted other before)
        · rw [List.mem_singleton.mp new, named]
          exact Or.inl ⟨begun, rfl⟩
  | batch task attempt found batch named row attempts =>
      have begun := begins_of_append attempts
      rcases leased begun with ⟨posted, own⟩
      have owns : state.owner = some task.id := by
        rcases own task found with owns | ⟨single, -⟩
        · exact owns
        · exact absurd batch single
      have given : state.outbox.leasedTo (state.outbox.step (now, .start index store alone))
          (.start index store alone) = none := by
        rw [Outbox.leasedTo, found]
        exact if_neg fun facts => facts.2 batch
      exact exclusive.resumes later given row attempts (named ▸ owns) posted

theorem post (exclusive : Exclusive state) {now : Time} {index : Nat} {answer : Answer}
    (later : state.outbox.clock ≤ now) : Exclusive (state.step (now, .post index answer)) := by
  have posted : (state.outbox.post index answer now).row = state.outbox.row ∧
      ((state.outbox.post index answer now).attempts = state.outbox.attempts ∨
        ∃ attempt : Attempt, (state.outbox.post index answer now).attempts =
          state.outbox.attempts.set index { attempt with answer := some answer }) := by
    rw [Outbox.post.eq_def]
    split
    · rename_i attempt found
      split
      · exact ⟨rfl, Or.inr ⟨attempt, rfl⟩⟩
      · exact ⟨rfl, Or.inl rfl⟩
    · exact ⟨rfl, Or.inl rfl⟩
  rcases posted with ⟨row, attempts | ⟨posting, attempts⟩⟩
  · exact exclusive.still later rfl row attempts
  · refine exclusive.quiet later rfl row ?_ ?_
    · have same : (state.outbox.step (now, .post index answer)).attempts.length =
          state.outbox.attempts.length :=
        (congrArg List.length attempts).trans (List.length_set ..)
      rw [Outbox.Begins, same]
      exact Nat.lt_irrefl _
    · intro attempt mem unanswered
      have mem : attempt ∈
          state.outbox.attempts.set index { posting with answer := some answer } := attempts ▸ mem
      rcases List.mem_or_eq_of_mem_set mem with before | new
      · exact before
      · rw [new] at unanswered
        cases unanswered

theorem not_begins_of_eraseIdx {before after : Outbox} {index : Nat}
    (attempts : after.attempts = before.attempts.eraseIdx index) : ¬ before.Begins after := by
  rw [Outbox.Begins, attempts]
  exact Nat.not_lt.mpr (List.length_eraseIdx_le ..)

theorem crash (exclusive : Exclusive state) {now : Time} {index : Nat} {redelivered : Bool}
    (later : state.outbox.clock ≤ now) :
    Exclusive (state.step (now, .crash index redelivered)) := by
  have crashed : (state.outbox.crash index redelivered).row = state.outbox.row ∧
      ((state.outbox.crash index redelivered).attempts = state.outbox.attempts ∨
        (state.outbox.crash index redelivered).attempts =
          state.outbox.attempts.eraseIdx index) := by
    rw [Outbox.crash.eq_def]
    split
    · exact ⟨rfl, Or.inl rfl⟩
    · exact ⟨rfl, Or.inr rfl⟩
  rcases crashed with ⟨row, attempts | attempts⟩
  · exact exclusive.still later rfl row attempts
  · refine exclusive.quiet later rfl row (not_begins_of_eraseIdx attempts) ?_
    intro attempt mem _
    have mem : attempt ∈ state.outbox.attempts.eraseIdx index := attempts ▸ mem
    exact List.mem_of_mem_eraseIdx mem

theorem redeliver (exclusive : Exclusive state) {now : Time} {index : Nat}
    (later : state.outbox.clock ≤ now) : Exclusive (state.step (now, .redeliver index)) := by
  have redelivered : (state.outbox.redeliver index).row = state.outbox.row ∧
      (state.outbox.redeliver index).attempts = state.outbox.attempts := by
    rw [Outbox.redeliver.eq_def]
    split <;> exact ⟨rfl, rfl⟩
  exact exclusive.still later rfl redelivered.1 redelivered.2

theorem expireOverdue (exclusive : Exclusive state) {now asOf : Time}
    (later : state.outbox.clock ≤ now) : Exclusive (state.step (now, .expireOverdue asOf)) := by
  by_cases owed : (state.step (now, .expireOverdue asOf)).outbox.Owed
  swap
  · exact exclusive.closed owed
  refine exclusive.still later rfl ?_ rfl
  rcases owed with ⟨row, present, owed⟩
  have written : (state.outbox.expireOverdue asOf).row = some row := present
  have same : (state.outbox.expireOverdue asOf).row = state.outbox.row := by
    rw [Outbox.expireOverdue] at written ⊢
    dsimp only at written ⊢
    rcases Option.map_eq_some_iff.mp written with ⟨old, there, become⟩
    rw [there, Option.map_some]
    split
    · rename_i overdue
      rw [if_pos overdue] at become
      rw [← become] at owed
      cases owed
    · rfl
  exact same

/-- The sweep leases the row when the lease it has is over. -/
theorem claimDue (exclusive : Exclusive state) {now asOf : Time}
    (later : state.outbox.clock ≤ now) (read : asOf ≤ now) :
    Exclusive (state.step (now, .claimDue asOf)) := by
  have claimed : state.outbox.claimDue asOf = state.outbox ∨
      (∃ row, state.outbox.row = some row ∧ Outbox.Due row asOf ∧
        (state.outbox.claimDue asOf).leaseEnd = some (asOf + claimLease) ∧
        (state.outbox.claimDue asOf).attempts = state.outbox.attempts ∧
        state.outbox.nextTask < (state.outbox.claimDue asOf).nextTask) := by
    rw [Outbox.claimDue.eq_def]
    split
    · exact Or.inl rfl
    · rename_i row present
      split
      · rename_i due
        exact Or.inr ⟨row, present, due, rfl, rfl, Nat.lt_succ_self _⟩
      · exact Or.inl rfl
  rcases claimed with same | ⟨row, present, due, lease, attempts, publishes⟩
  · have row : (state.outbox.claimDue asOf).row = state.outbox.row := by rw [same]
    have attempts : (state.outbox.claimDue asOf).attempts = state.outbox.attempts := by rw [same]
    have unclaimed : ¬ state.outbox.nextTask < (state.outbox.claimDue asOf).nextTask := by
      rw [same]
      exact Nat.lt_irrefl _
    exact exclusive.still later (if_neg unclaimed) row attempts
  · rcases due with ⟨owed, end_, ends, due⟩
    have past : state.outbox.leaseEnd = some end_ := by
      rw [Outbox.leaseEnd, present]
      exact ends
    have unleased : state.Unleased now := by
      refine Or.inr fun other same => ?_
      rw [past] at same
      cases same
      exact due.trans read
    refine exclusive.given (if_pos publishes) lease ?_ ?_
    · intro hold held
      exact Or.inl (exclusive.free later unleased hold held)
    · intro attempt mem unanswered
      have mem : attempt ∈ state.outbox.attempts := attempts ▸ mem
      refine Or.inr ⟨not_begins_of_eq attempts, ?_⟩
      rcases exclusive.posts attempt mem unanswered ⟨row, present, owed⟩ with past | ⟨-, until_⟩
      · exact past.trans later
      · rw [past] at until_
        cases until_
        exact due.trans read

/-- A settlement ends every lease before its own. -/
theorem settle (exclusive : Exclusive state) {now : Time} {index : Nat}
    (later : state.outbox.clock ≤ now) (leased : state.Leased (now, .settle index)) :
    Exclusive (state.step (now, .settle index)) := by
  have settled : state.outbox.settle index now = state.outbox ∨
      (∃ attempt, state.outbox.attempts[index]? = some attempt ∧ attempt.answer ≠ none ∧
        (state.outbox.settle index now).attempts = state.outbox.attempts.eraseIdx index ∧
        Scheduled (state.outbox.settle index now)) := settle_scheduled
  rcases settled with same | ⟨attempt, found, answered, attempts, scheduled⟩
  · have row : (state.outbox.settle index now).row = state.outbox.row := by rw [same]
    have attempts : (state.outbox.settle index now).attempts = state.outbox.attempts := by
      rw [same]
    have begun : ¬ (state.outbox.step (now, .settle index)).Begins state.outbox :=
      not_begins_of_eq (Eq.symm attempts)
    refine exclusive.still later ?_ row attempts
    rw [Outbox.leasedTo]
    cases state.outbox.attempts[index]? with
    | none => rfl
    | some attempt => exact if_neg begun
  · by_cases owed : (state.step (now, .settle index)).outbox.Owed
    swap
    · exact exclusive.closed owed
    have posted : state.AllPosted := leased attempt found answered
    rcases scheduled owed with ⟨end_, lease⟩
    have shrinks : (state.outbox.step (now, .settle index)).Begins state.outbox := by
      have attempts : (state.outbox.step (now, .settle index)).attempts =
          state.outbox.attempts.eraseIdx index := attempts
      have within := (List.getElem?_eq_some_iff.mp found).1
      rw [Outbox.Begins, attempts, List.length_eraseIdx_of_lt within]
      omega
    have given : ∃ task, state.outbox.leasedTo (state.outbox.step (now, .settle index))
        (.settle index) = some task := by
      rw [Outbox.leasedTo, found, Option.bind_some, if_pos shrinks]
      split
      · exact ⟨_, rfl⟩
      · exact ⟨_, rfl⟩
    rcases given with ⟨task, given⟩
    refine exclusive.given given lease ?_ ?_
    · exact fun _ _ => Or.inr (Or.inr ⟨index, rfl⟩)
    · intro other mem unanswered
      have mem : other ∈ state.outbox.attempts.eraseIdx index := attempts ▸ mem
      exact absurd unanswered (posted other (List.mem_of_mem_eraseIdx mem))

/-- A step of the clock's order that the leases admit keeps the row exclusive. -/
theorem step (exclusive : Exclusive state) (ordered : state.Ordered label)
    (leased : state.Leased label) : Exclusive (state.step label) := by
  rcases label with ⟨now, event⟩
  rcases ordered with ⟨later, read⟩
  cases event with
  | enqueue eventTime userData persist => exact exclusive.enqueue later
  | start index store alone => exact exclusive.start later leased
  | post index answer => exact exclusive.post later
  | settle index => exact exclusive.settle later leased
  | crash index redelivered => exact exclusive.crash later
  | redeliver index => exact exclusive.redeliver later
  | lose index => exact exclusive.still later rfl rfl rfl
  | expireOverdue asOf => exact exclusive.expireOverdue later
  | claimDue asOf => exact exclusive.claimDue later read

end Exclusive

/-- From a row that does not yet exist on, in every run whose attempts each begin under their own
task's lease and post within it, no task posts while another holds the row. -/
theorem one_sender {start : Watched} {labels : List (Time × OutboxEvent)}
    (unsent : start.outbox.row = none ∧ start.outbox.attempts = [] ∧ start.holds = [])
    (ordered : Run.Guarded Watched.step Watched.Ordered start labels)
    (leased : Run.Guarded Watched.step Watched.Leased start labels) :
    Run.Guarded Watched.step Watched.PostsAlone start labels := by
  rcases unsent with ⟨absent, idle, unheld⟩
  have initial : Exclusive start := by
    refine ⟨?_, ?_, fun _ => idle⟩
    · rw [unheld]
      exact fun _ held => absurd held List.not_mem_nil
    · rw [idle]
      exact fun _ mem => absurd mem List.not_mem_nil
  apply Run.Guarded.imp (I := Exclusive) _ _ initial (ordered.and leased)
  · exact fun _ _ exclusive guard => exclusive.step guard.1 guard.2
  · exact fun _ _ exclusive guard => exclusive.postsAlone guard.1 guard.2

/-- A conversion whose task is lost, claimed by the sweep and posted by the batch. -/
def claimedRun : List (Time × OutboxEvent) :=
  [(0, .enqueue 0 [] (some .committed)), (1, .lose 0), (claimLease, .claimDue claimLease),
    (claimLease + 1, .start 0 .connected false)]

/-- The batch fails for a while; the sweep claims the row again once the ladder says so. -/
theorem claimed_conversion_posts_alone :
    Run.Guarded Watched.step Watched.PostsAlone { outbox := { rowId := 0 } }
      (claimedRun ++ [(claimLease + 2, .post 0 (.response 503 {} none)),
        (claimLease + 3, .settle 0), (2 * claimLease, .claimDue (2 * claimLease)),
        (2 * claimLease + 1, .start 0 .connected true),
        (2 * claimLease + 2, .post 0 (.response 200 {} none)), (2 * claimLease + 3, .settle 0)]) :=
  one_sender ⟨rfl, rfl, rfl⟩ (by decide +kernel) (by decide +kernel)

/-- Meta refuses the batch: the row is handed to a task of its own and is due at once, so that the
sweep claims it as well. -/
theorem split_row_posts_under_other_lease :
    ¬ Run.Guarded Watched.step Watched.PostsAlone { outbox := { rowId := 0 } }
      (claimedRun ++ [(claimLease + 2, .post 0 (.response 400 {} none)),
        (claimLease + 3, .settle 0), (claimLease + 4, .claimDue (claimLease + 4)),
        (claimLease + 5, .start 0 .connected true),
        (claimLease + 6, .post 0 (.response 200 {} none))]) := by
  decide +kernel

end Numu.Meta
