import Numu.Meta.Outbox

/-!
# What a step can do to the attempts

A step begins one attempt, makes one POST, drops one attempt or leaves them all. No step
changes when the row's event happened.
-/

namespace Numu.Meta
open Numu.Orders (Time)

/-- The instant at which the row's event happened. -/
def Outbox.happened (state : Outbox) : Option Time := state.row.map (·.eventTime)

/-- How an attempt can begin. -/
inductive Begins (state : Outbox) (now : Time) : OutboxEvent → Attempt → Prop where
  | creates {index : Nat} {alone : Bool} {task : Task} {event : SendEvent}
      (found : state.queue[index]? = some task) (works : task.work = .sendEvent event)
      (unhanded : event.handed = false) (absent : state.row = none) :
      Begins state now (.start index .connected alone)
        { task := task, rowAttempts := 1, alone := true, startedAt := now }
  | releases {index : Nat} {alone : Bool} {task : Task} {event : SendEvent} {row : EventRow}
      (found : state.queue[index]? = some task) (works : task.work = .sendEvent event)
      (handed : event.handed = true) (present : state.row = some row)
      (owed : row.status.isTerminal = false) (timely : isExpired row.eventTime now = false) :
      Begins state now (.start index .connected alone)
        { task := task, rowAttempts := orOne row.attemptCount, alone := true, startedAt := now }
  | takesUp {index : Nat} {alone : Bool} {task : Task} {event : SendEvent} {row : EventRow}
      (found : state.queue[index]? = some task) (works : task.work = .sendEvent event)
      (unhanded : event.handed = false) (present : state.row = some row)
      (again : row.priorFailed = true ∨ row.enriches event now = true) :
      Begins state now (.start index .connected alone)
        { task := task, rowAttempts := row.attemptCount + 1, alone := true, startedAt := now }
  | batches {index : Nat} {alone : Bool} {task : Task} {row : EventRow}
      (found : state.queue[index]? = some task) (works : task.work = .sendBatch)
      (present : state.row = some row) (owed : row.status.isTerminal = false)
      (timely : isExpired row.eventTime now = false) :
      Begins state now (.start index .connected alone)
        { task := task, rowAttempts := row.attemptCount, alone := alone, startedAt := now }

inductive Moves (state : Outbox) (now : Time) (event : OutboxEvent) (after : Outbox) : Prop where
  | begins (attempt : Attempt) (why : Begins state now event attempt)
      (attempts : after.attempts = state.attempts ++ [attempt]) (sends : after.sends = state.sends)
      (stands : after.row.isSome = true)
  | posts (index : Nat) (answer : Answer) (attempt : Attempt) (posting : event = .post index answer)
      (found : state.attempts[index]? = some attempt) (unanswered : attempt.answer = none)
      (attempts : after.attempts =
        state.attempts.set index { attempt with answer := some answer })
      (sends : after.sends = state.sends ++ [now])
  | drops (index : Nat) (attempts : after.attempts = state.attempts.eraseIdx index)
      (sends : after.sends = state.sends)
  | stays (attempts : after.attempts = state.attempts) (sends : after.sends = state.sends)

section
variable {state : Outbox} {now : Time}

theorem Begins.unanswered {event : OutboxEvent} {attempt : Attempt}
    (begins : Begins state now event attempt) : attempt.answer = none ∧ attempt.startedAt = now := by
  cases begins <;> exact ⟨rfl, rfl⟩

theorem enqueue_stays {eventTime : Nat} {userData : List String} {persist : Option Persistence} :
    (state.enqueue eventTime userData persist now).attempts = state.attempts ∧
      (state.enqueue eventTime userData persist now).sends = state.sends := by
  rw [Outbox.enqueue.eq_def]
  dsimp only
  split
  · exact ⟨rfl, rfl⟩
  · exact ⟨rfl, rfl⟩
  · split <;> exact ⟨rfl, rfl⟩
  · exact ⟨rfl, rfl⟩
  · exact ⟨rfl, rfl⟩

theorem startEvent_moves {index : Nat} {alone : Bool} {task : Task} {event : SendEvent}
    {store : StoreState} {taken : Outbox} (row : taken.row = state.row)
    (attempts : taken.attempts = state.attempts) (sends : taken.sends = state.sends)
    (found : state.queue[index]? = some task) (works : task.work = .sendEvent event) :
    Moves state now (.start index store alone) (taken.startEvent task event store now) := by
  rw [Outbox.startEvent.eq_def]
  split
  · exact .stays attempts sends
  · exact .stays attempts sends
  · dsimp only
    split <;> exact .stays attempts sends
  · dsimp only
    split
    · exact .stays attempts sends
    · rename_i rowAttempts proceeds
      have begins : Begins state now (.start index .connected alone)
          { task := task, rowAttempts := rowAttempts, alone := true, startedAt := now } ∧
          (adopt taken.row event now).row.isSome = true := by
        have adopted := adopt_adopted state.row event now
        rw [row] at proceeds ⊢
        generalize adopt state.row event now = adoption at adopted proceeds
        cases adopted with
        | unchanged => cases proceeds
        | expires found_ present handed expired => cases proceeds
        | creates absent unhanded =>
            cases proceeds
            exact ⟨.creates found works unhanded absent, rfl⟩
        | releases found_ present handed owed timely =>
            cases proceeds
            exact ⟨.releases found works handed present owed timely, rfl⟩
        | takesUp found_ present unhanded again =>
            cases proceeds
            exact ⟨.takesUp found works unhanded present again, rfl⟩
      exact .begins _ begins.1 (congrArg (· ++ _) attempts) sends begins.2

theorem startBatch_moves {index : Nat} {alone : Bool} {task : Task} {store : StoreState}
    {taken : Outbox} (row : taken.row = state.row) (attempts : taken.attempts = state.attempts)
    (sends : taken.sends = state.sends) (found : state.queue[index]? = some task)
    (works : task.work = .sendBatch) :
    Moves state now (.start index store alone) (taken.startBatch task store alone now) := by
  rw [Outbox.startBatch.eq_def]
  split
  · exact .stays attempts sends
  · exact .stays attempts sends
  · exact .stays attempts sends
  · split
    · exact .stays attempts sends
    · split <;> exact .stays attempts sends
  · rename_i present
    split
    · exact .stays attempts sends
    · rename_i owed
      split
      · exact .stays attempts sends
      · rename_i timely
        refine .begins _ (.batches found works (row.symm.trans present) ?_ ?_)
          (congrArg (· ++ _) attempts) sends (congrArg Option.isSome present)
        · exact Bool.eq_false_iff.mpr owed
        · exact Bool.eq_false_iff.mpr timely

theorem settleEvent_stays {attempt : Attempt} {event : SendEvent} {answer : Answer} :
    (state.settleEvent attempt event answer now).attempts = state.attempts ∧
      (state.settleEvent attempt event answer now).sends = state.sends := by
  rw [Outbox.settleEvent.eq_def]
  dsimp only
  split
  · split <;> exact ⟨rfl, rfl⟩
  · split <;> exact ⟨rfl, rfl⟩

theorem settleBatch_stays {attempt : Attempt} {answer : Answer} :
    (state.settleBatch attempt answer now).attempts = state.attempts ∧
      (state.settleBatch attempt answer now).sends = state.sends := by
  rw [Outbox.settleBatch.eq_def]
  split
  · exact ⟨rfl, rfl⟩
  · split
    · exact ⟨rfl, rfl⟩
    · split
      · exact ⟨rfl, rfl⟩
      · split <;> exact ⟨rfl, rfl⟩

/-- What a step does to the attempts. -/
theorem act_moves (event : OutboxEvent) : Moves state now event (state.act now event) := by
  cases event with
  | enqueue eventTime userData persist => exact .stays enqueue_stays.1 enqueue_stays.2
  | start index store alone =>
      rw [Outbox.act, Outbox.start.eq_def]
      split
      · exact .stays rfl rfl
      · rename_i task found
        dsimp only
        split
        · rename_i event works
          exact startEvent_moves rfl rfl rfl found works
        · rename_i works
          exact startBatch_moves rfl rfl rfl found works
  | post index answer =>
      rw [Outbox.act, Outbox.post.eq_def]
      split
      · rename_i attempt found
        split
        · rename_i unanswered
          exact .posts index answer attempt rfl found unanswered rfl rfl
        · exact .stays rfl rfl
      · exact .stays rfl rfl
  | settle index =>
      rw [Outbox.act, Outbox.settle.eq_def]
      split
      · exact .stays rfl rfl
      · split
        · exact .stays rfl rfl
        · dsimp only
          split
          · exact .drops index settleEvent_stays.1 settleEvent_stays.2
          · exact .drops index settleBatch_stays.1 settleBatch_stays.2
  | crash index redelivered =>
      rw [Outbox.act, Outbox.crash.eq_def]
      split
      · exact .stays rfl rfl
      · exact .drops index rfl rfl
  | redeliver index =>
      rw [Outbox.act, Outbox.redeliver.eq_def]
      split <;> exact .stays rfl rfl
  | lose index => exact .stays rfl rfl
  | expireOverdue asOf => exact .stays rfl rfl
  | claimDue asOf =>
      rw [Outbox.act, Outbox.claimDue.eq_def]
      split
      · exact .stays rfl rfl
      · split <;> exact .stays rfl rfl

end

section EventTime
variable {state : Outbox} {now : Time} {row : EventRow}

theorem adopt_eventTime {event : SendEvent} (present : state.row = some row) :
    (adopt state.row event now).row.map (·.eventTime) = some row.eventTime := by
  have adopted := adopt_adopted state.row event now
  generalize adopt state.row event now = adoption at adopted
  cases adopted with
  | unchanged => rw [present]; rfl
  | expires found same handed expired => rw [present] at same; cases same; rfl
  | creates absent unhanded => rw [present] at absent; cases absent
  | releases found same handed owed timely => rw [present] at same; cases same; rfl
  | takesUp found same unhanded again => rw [present] at same; cases same; rfl

theorem startEvent_eventTime {task : Task} {event : SendEvent} {store : StoreState}
    (present : state.row = some row) :
    (state.startEvent task event store now).happened = some row.eventTime := by
  have adopted : (adopt state.row event now).row.map (·.eventTime) = some row.eventTime :=
    adopt_eventTime present
  rw [Outbox.startEvent.eq_def]
  split
  · exact congrArg (Option.map _) present
  · exact congrArg (Option.map _) present
  · dsimp only
    split
    · exact adopted
    · rw [Outbox.happened, Option.map_map]
      exact adopted
  · dsimp only
    split <;> exact adopted

theorem startBatch_eventTime {task : Task} {store : StoreState} {alone : Bool}
    (present : state.row = some row) :
    (state.startBatch task store alone now).happened = some row.eventTime := by
  have same : state.happened = some row.eventTime := congrArg (Option.map _) present
  rw [Outbox.startBatch.eq_def]
  split
  · exact same
  · exact same
  · rename_i found
    rw [present] at found
    cases found
    rfl
  · rename_i found
    rw [present] at found
    cases found
    split
    · exact same
    · split <;> rfl
  · split
    · exact same
    · split
      · rename_i found _ _
        rw [present] at found
        cases found
        rfl
      · exact same

theorem settleEvent_eventTime {attempt : Attempt} {event : SendEvent} {answer : Answer}
    (present : state.row = some row) :
    (state.settleEvent attempt event answer now).happened = some row.eventTime := by
  rw [Outbox.settleEvent.eq_def]
  dsimp only
  rw [present]
  split
  · split <;> rfl
  · split <;> rfl

theorem settleBatch_eventTime {attempt : Attempt} {answer : Answer}
    (present : state.row = some row) :
    (state.settleBatch attempt answer now).happened = some row.eventTime := by
  rw [Outbox.settleBatch.eq_def]
  dsimp only
  rw [present]
  split
  · rfl
  · split
    · rfl
    · split
      · rfl
      · split <;> rfl

/-- No step changes when the row's event happened. -/
theorem act_eventTime (event : OutboxEvent) (present : state.row = some row) :
    (state.act now event).happened = some row.eventTime := by
  have same : state.happened = some row.eventTime := congrArg (Option.map _) present
  cases event with
  | enqueue eventTime userData persist =>
      rw [Outbox.act, Outbox.enqueue.eq_def]
      dsimp only
      split
      · exact same
      · exact same
      · split <;> exact same
      · exact same
      · rename_i absent
        rw [present] at absent
        cases absent
  | start index store alone =>
      rw [Outbox.act, Outbox.start.eq_def]
      split
      · exact same
      · dsimp only
        split
        · exact startEvent_eventTime present
        · exact startBatch_eventTime present
  | post index answer =>
      rw [Outbox.act, Outbox.post.eq_def]
      split
      · split <;> exact same
      · exact same
  | settle index =>
      rw [Outbox.act, Outbox.settle.eq_def]
      split
      · exact same
      · split
        · exact same
        · dsimp only
          split
          · exact settleEvent_eventTime present
          · exact settleBatch_eventTime present
  | crash index redelivered =>
      rw [Outbox.act, Outbox.crash.eq_def]
      split <;> exact same
  | redeliver index =>
      rw [Outbox.act, Outbox.redeliver.eq_def]
      split <;> exact same
  | lose index => exact same
  | expireOverdue asOf =>
      rw [Outbox.act, Outbox.expireOverdue, present, Option.map_some]
      split <;> rfl
  | claimDue asOf =>
      rw [Outbox.act, Outbox.claimDue.eq_def]
      split
      · exact same
      · rename_i found there
        rw [present] at there
        cases there
        split
        · rfl
        · exact same

end EventTime

theorem act_present {state : Outbox} {now : Time} (event : OutboxEvent)
    (present : state.row ≠ none) : (state.act now event).row ≠ none := by
  rcases Option.ne_none_iff_exists'.mp present with ⟨row, present⟩
  have same : (state.act now event).happened = some row.eventTime := act_eventTime event present
  intro absent
  rw [Outbox.happened, absent] at same
  cases same

end Numu.Meta
