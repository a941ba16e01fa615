import Numu.Foundation.Run
import Numu.Meta.Moves

/-!
# No late resend

A row that was handed to a task or claimed is not sent past its window. One that a task
meets by its key is taken up at any time, and an attempt once begun looks at no clock
before its POST.
-/

namespace Numu.Meta
open Numu.Orders (Time)

namespace Outbox

/-- No POST but the first is made at or after the end of the window. -/
def PostsInTime (state : Outbox) (label : Time × OutboxEvent) : Prop :=
  ∀ index answer, label.2 = .post index answer →
    ∀ attempt ∈ state.attempts[index]?, attempt.answer = none → state.sends ≠ [] →
      ∀ row ∈ state.row, label.1 < row.eventTime + dedupWindow

end Outbox

/-- A failed row, or one to enrich, is not taken up after the window, and an attempt begun within
the window of a row that has been sent posts within it. -/
def InWindow (state : Outbox) (label : Time × OutboxEvent) : Prop :=
  match label.2 with
  | .start index store _ =>
      ∀ task ∈ state.queue[index]?,
        match task.work with
        | .sendEvent event =>
            store = .connected → event.handed = false → ∀ row ∈ state.row,
              row.priorFailed = true ∨ row.enriches event label.1 = true →
                label.1 < row.eventTime + dedupWindow
        | .sendBatch => True
  | .post index _ =>
      ∀ attempt ∈ state.attempts[index]?, attempt.answer = none → state.sends ≠ [] →
        ∀ row ∈ state.row, attempt.startedAt < row.eventTime + dedupWindow →
          label.1 < row.eventTime + dedupWindow
  | _ => True

instance decidableInWindow (state : Outbox) : ∀ label, Decidable (InWindow state label)
  | (now, .start index store _) =>
      have (task : Task) : Decidable (match task.work with
        | .sendEvent event =>
            store = .connected → event.handed = false → ∀ row ∈ state.row,
              row.priorFailed = true ∨ row.enriches event now = true →
                now < row.eventTime + dedupWindow
        | .sendBatch => True) :=
        match task.work with
        | .sendEvent _ => inferInstanceAs (Decidable (_ → _ → ∀ row ∈ state.row, _))
        | .sendBatch => isTrue trivial
      inferInstanceAs (Decidable (∀ task ∈ state.queue[index]?, _))
  | (_, .post index _) =>
      inferInstanceAs (Decidable (∀ attempt ∈ state.attempts[index]?, _ → _ → ∀ row ∈ state.row, _))
  | (_, .enqueue _ _ _) | (_, .settle _) | (_, .crash _ _) | (_, .redeliver _) | (_, .lose _)
  | (_, .expireOverdue _) | (_, .claimDue _) => isTrue trivial

/-- What is left to be posted was begun within the window; or else nothing has been sent, and one
attempt at most is left, in a row made after its window. -/
inductive Within (state : Outbox) (end_ : Time) : Prop where
  | early (began : ∀ attempt ∈ state.attempts, attempt.answer = none → attempt.startedAt < end_)
  | late (unsent : state.sends = []) (closed : end_ ≤ state.clock)
      (one : state.attempts.countP (·.answer = none) ≤ 1)

/-- The invariant of the window. -/
def Timely (state : Outbox) : Prop :=
  match state.happened with
  | none => state.attempts = [] ∧ state.sends = []
  | some eventTime => Within state (eventTime + dedupWindow)

namespace Timely
variable {state : Outbox} {label : Time × OutboxEvent}

theorem postsInTime (timely : Timely state) (within : InWindow state label) :
    state.PostsInTime label := by
  rcases label with ⟨now, event⟩
  intro index answer posting attempt found unanswered sent row present
  dsimp only at posting
  subst posting
  have happened : state.happened = some row.eventTime := congrArg (Option.map _) present
  rw [Timely, happened] at timely
  cases timely with
  | early began =>
      have here : attempt ∈ state.attempts := List.mem_of_getElem? found
      exact within attempt found unanswered sent row present (began attempt here unanswered)
  | late unsent closed one => exact absurd unsent sent

/-- An attempt at a row there is begins within the window. -/
theorem begins_within {now : Nat} {event : OutboxEvent} {attempt : Attempt} {row : EventRow}
    (present : state.row = some row) (within : InWindow state (now, event))
    (begins : Begins state now event attempt) : now < row.eventTime + dedupWindow := by
  cases begins with
  | creates found works unhanded absent =>
      rw [present] at absent
      cases absent
  | releases found works handed same owed timely =>
      rw [present] at same
      cases same
      exact Nat.lt_of_not_le fun closed => Bool.eq_false_iff.mp timely (isExpired_iff.mpr closed)
  | takesUp found works unhanded same again =>
      rw [present] at same
      cases same
      have here := within _ found
      rw [works] at here
      exact here rfl unhanded row present again
  | batches found works same owed timely =>
      rw [present] at same
      cases same
      exact Nat.lt_of_not_le fun closed => Bool.eq_false_iff.mp timely (isExpired_iff.mpr closed)

theorem step_present {row : EventRow} (present : state.row = some row)
    (within : Within state (row.eventTime + dedupWindow)) (later : state.clock ≤ label.1)
    (inWindow : InWindow state label) :
    Within (state.step label) (row.eventTime + dedupWindow) := by
  rcases label with ⟨now, event⟩
  have moves : Moves state now event (state.act now event) := act_moves event
  cases moves with
  | begins attempt why attempts sends stands =>
      have open_ := begins_within present inWindow why
      refine .early ?_
      intro other mem unanswered
      rw [Outbox.step, attempts] at mem
      rcases List.mem_append.mp mem with before | new
      · cases within with
        | early began => exact began other before unanswered
        | late unsent closed one => exact absurd open_ (Nat.not_lt.mpr (closed.trans later))
      · rw [List.mem_singleton.mp new, why.unanswered.2]
        exact open_
  | posts index answer attempt posting found unanswered attempts sends =>
      refine .early ?_
      intro other mem open_
      rw [Outbox.step, attempts] at mem
      cases within with
      | early began =>
          rcases List.mem_or_eq_of_mem_set mem with before | rfl
          · exact began other before open_
          · cases open_
      | late unsent closed one =>
          rcases List.getElem?_eq_some_iff.mp found with ⟨bound, rfl⟩
          have none_ : (state.attempts.set index { state.attempts[index] with
              answer := some answer }).countP (·.answer = none) = 0 := by
            rw [List.countP_set bound, if_pos (decide_eq_true unanswered), if_neg (by simp)]
            omega
          exact absurd (decide_eq_true open_) (List.countP_eq_zero.mp none_ other mem)
  | drops index attempts sends =>
      cases within with
      | early began =>
          refine .early ?_
          intro other mem open_
          rw [Outbox.step, attempts] at mem
          exact began other (List.mem_of_mem_eraseIdx mem) open_
      | late unsent closed one =>
          refine .late (sends.trans unsent) (closed.trans later) ?_
          rw [Outbox.step, attempts]
          exact ((List.eraseIdx_sublist _ _).countP_le).trans one
  | stays attempts sends =>
      cases within with
      | early began =>
          refine .early ?_
          intro other mem open_
          rw [Outbox.step, attempts] at mem
          exact began other mem open_
      | late unsent closed one =>
          refine .late (sends.trans unsent) (closed.trans later) ?_
          rw [Outbox.step, attempts]
          exact one

theorem step (timely : Timely state) (later : state.clock ≤ label.1)
    (inWindow : InWindow state label) : Timely (state.step label) := by
  cases present : state.row with
  | some row =>
      have happened : state.happened = some row.eventTime := congrArg (Option.map _) present
      have same : (state.step label).happened = some row.eventTime := act_eventTime label.2 present
      rw [Timely, happened] at timely
      rw [Timely, same]
      exact step_present present timely later inWindow
  | none =>
      have happened : state.happened = none := congrArg (Option.map _) present
      rw [Timely, happened] at timely
      rcases timely with ⟨none_, unsent⟩
      rcases label with ⟨now, event⟩
      have moves : Moves state now event (state.act now event) := act_moves event
      have quiet (attempts : (state.act now event).attempts = [])
          (sends : (state.act now event).sends = state.sends) :
          Timely (state.step (now, event)) := by
        rw [Timely]
        split
        · exact ⟨attempts, sends.trans unsent⟩
        · refine .early ?_
          intro other mem
          rw [Outbox.step, attempts] at mem
          cases mem
      cases moves with
      | begins attempt why attempts sends stands =>
          rcases Option.isSome_iff_exists.mp stands with ⟨row, made⟩
          have happened : (state.step (now, event)).happened = some row.eventTime :=
            congrArg (Option.map _) made
          rw [none_, List.nil_append] at attempts
          rw [Timely, happened]
          by_cases open_ : now < row.eventTime + dedupWindow
          · refine .early ?_
            intro other mem _
            rw [Outbox.step, attempts] at mem
            rw [List.mem_singleton.mp mem, why.unanswered.2]
            exact open_
          · refine .late (sends.trans unsent) (Nat.le_of_not_lt open_) ?_
            rw [Outbox.step, attempts]
            exact List.countP_le_length
      | posts index answer attempt posting found unanswered attempts sends =>
          rw [none_] at found
          cases found
      | drops index attempts sends => exact quiet (by rw [attempts, none_]; rfl) sends
      | stays attempts sends => exact quiet (attempts.trans none_) sends

end Timely

/-- From an empty outbox on, in every run whose clock does not go back, that takes up no row after
its window and in which no attempt outlasts the window it began in, no POST but the first is made
at or after the end of the window. -/
theorem no_late_resend {start : Outbox} {labels : List (Time × OutboxEvent)}
    (unsent : start.row = none ∧ start.attempts = [] ∧ start.sends = [])
    (ordered : Run.Guarded Outbox.step (fun state label => state.clock ≤ label.1) start labels)
    (inWindow : Run.Guarded Outbox.step InWindow start labels) :
    Run.Guarded Outbox.step Outbox.PostsInTime start labels := by
  have initial : Timely start := by
    have happened : start.happened = none := congrArg (Option.map _) unsent.1
    rw [Timely, happened]
    exact unsent.2
  refine Run.Guarded.imp (I := Timely) ?_ ?_ initial (ordered.and inWindow)
  · intro state label timely admitted
    exact timely.step admitted.1 admitted.2
  · intro state label timely admitted
    exact timely.postsInTime admitted.2

def refusal : Answer := .response 400 {} none

/-- An event that is refused, sent again with what the shopper typed, and expires. -/
theorem refused_event_in_time :
    Run.Guarded Outbox.step Outbox.PostsInTime { rowId := 0 }
      [(0, .enqueue 0 [] none), (1, .start 0 .connected true), (1, .post 0 refusal),
        (1, .settle 0), (2, .enqueue 2 ["em"] none), (3, .start 0 .connected true),
        (3, .post 0 .transportError), (3, .settle 0),
        (seconds 600 + 3, .claimDue (seconds 600 + 3)), (dedupWindow, .start 1 .connected true)] :=
  no_late_resend ⟨rfl, rfl, rfl⟩ (by decide +kernel) (by decide +kernel)

/-- An event that is refused and sent again when the same key comes in after two days. -/
theorem refused_event_resent_late :
    ¬ Run.Guarded Outbox.step Outbox.PostsInTime { rowId := 0 }
      [(0, .enqueue 0 [] none), (1, .start 0 .connected true), (1, .post 0 refusal),
        (1, .settle 0), (dedupWindow, .enqueue 172800 [] none),
        (dedupWindow, .start 0 .connected true), (dedupWindow, .post 0 refusal)] := by
  rintro ⟨-, -, -, -, -, -, inTime, -⟩
  have sent := inTime 0 refusal rfl
  revert sent
  decide +kernel

end Numu.Meta
