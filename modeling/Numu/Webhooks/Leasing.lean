import Numu.Foundation.Run
import Numu.Webhooks.DeliveryLog

/-!
# One attempt at a time

A claim leases the log to its attempt. Dispatch's own attempt has no lease: a poller that
sees the log while that attempt goes on claims it for a second one.
-/

namespace Numu.Webhooks
open Numu.Orders (Time)

/-- Success and exhaustion end a delivery. -/
def DeliveryLog.Final (log : DeliveryLog) : Prop := log.status = .success ∨ log.status = .exhausted

namespace Delivery

/-- At most one attempt goes on, the log counts all that are over, and there is an end to them. -/
def Counted (state : Delivery) : Prop :=
  state.inFlight.length ≤ 1 ∧ state.made ≤ maxAttempts ∧
    ∀ log ∈ state.log, log.attemptCount + state.inFlight.length = state.made

instance (state : Delivery) : Decidable state.Counted :=
  inferInstanceAs (Decidable (_ ∧ _ ∧ ∀ log, log ∈ state.log → _))

/-- A log that is final stays as it is. -/
def Stays (before after : Delivery) : Prop := ∀ log ∈ before.log, log.Final → after.log = some log

/-- The task that reads the log goes on to an attempt. -/
def Attempts (state : Delivery) : Prop := ∃ log ∈ state.log, log.status ≠ .success

instance (state : Delivery) : Decidable state.Attempts :=
  inferInstanceAs (Decidable (∃ log, log ∈ state.log ∧ _))

/-- The poller finds the log due. -/
def FindsDue (state : Delivery) (asOf : Time) : Prop := ∃ log ∈ state.log, Due log asOf

instance (state : Delivery) (asOf : Time) : Decidable (state.FindsDue asOf) :=
  inferInstanceAs (Decidable (∃ log, log ∈ state.log ∧ _))

/-- Dispatch's attempt is over: it has written, or its task is lost or found no log. -/
def FirstOver (state : Delivery) : Prop :=
  (∀ task ∈ state.queue, task.lease ≠ none) ∧ ∀ attempt ∈ state.inFlight, attempt.lease ≠ none

instance (state : Delivery) : Decidable state.FirstOver :=
  inferInstanceAs (Decidable ((∀ task ∈ state.queue, _) ∧ ∀ attempt ∈ state.inFlight, _))

/-- A poller claims the log only once dispatch's attempt is over, and an attempt that a claim
started begins and ends within the lease. -/
def Leased (state : Delivery) (label : Time × DeliveryEvent) : Prop :=
  (∀ attempt ∈ state.inFlight, ∀ end_ ∈ attempt.lease, label.1 < end_) ∧
    match label.2 with
    | .begin_ index =>
        state.Attempts → ∀ task ∈ state.queue[index]?, ∀ end_ ∈ task.lease, label.1 < end_
    | .tick asOf _ => state.FindsDue asOf → state.FirstOver
    | _ => True

instance (state : Delivery) : ∀ label, Decidable (state.Leased label)
  | (now, .begin_ index) =>
      inferInstanceAs (Decidable ((∀ attempt ∈ state.inFlight, ∀ end_, end_ ∈ attempt.lease → _) ∧
        (_ → ∀ task, task ∈ state.queue[index]? → ∀ end_, end_ ∈ task.lease → now < end_)))
  | (_, .tick _ _) =>
      inferInstanceAs (Decidable ((∀ attempt ∈ state.inFlight, ∀ end_, end_ ∈ attempt.lease → _) ∧
        (_ → _)))
  | (_, .commit) | (_, .rollback) | (_, .finish _ _ _) | (_, .lose _) =>
      inferInstanceAs (Decidable ((∀ attempt ∈ state.inFlight, ∀ end_, end_ ∈ attempt.lease → _) ∧
        True))

/-- The clock does not go back, and the poller acts on an instant it has read. -/
def Ordered (state : Delivery) (label : Time × DeliveryEvent) : Prop :=
  state.clock ≤ label.1 ∧
    match label.2 with
    | .tick asOf _ => asOf ≤ label.1
    | _ => True

instance (state : Delivery) : ∀ label, Decidable (state.Ordered label)
  | (_, .tick _ _) => inferInstanceAs (Decidable (_ ∧ _))
  | (_, .commit) | (_, .rollback) | (_, .begin_ _) | (_, .finish _ _ _) | (_, .lose _) =>
      inferInstanceAs (Decidable (_ ∧ True))

end Delivery

section Rest
variable {α : Type} {P : α → Prop} {items : List α} {item : α} {index : Nat}

/-- Where all items but the last have a property, one without it is the last. -/
theorem rest_of_pairwise (ordered : items.Pairwise fun earlier _ => P earlier)
    (found : items[index]? = some item) (last : ¬ P item) :
    ∀ other ∈ items.eraseIdx index, P other := by
  rcases List.getElem?_eq_some_iff.mp found with ⟨within, rfl⟩
  rw [List.eraseIdx_eq_take_drop_succ]
  rw [← List.take_append_drop index items, List.drop_eq_getElem_cons within,
    List.pairwise_append] at ordered
  rcases ordered with ⟨-, behind, before⟩
  rw [List.pairwise_cons] at behind
  intro other mem
  rcases List.mem_append.mp mem with earlier | later
  · exact before other earlier _ List.mem_cons_self
  · exact absurd (behind.1 other later) last

end Rest

section Settlement
variable {log stored read : DeliveryLog} {now : Time} {outcome : Outcome}

/-- An attempt leaves a log that is pending and still owed one, or ends the delivery. -/
theorem settle_counts :
    (log.settle outcome now).attemptCount = log.attemptCount ∧
      ((log.settle outcome now).status = .pending → log.attemptCount - 1 < retryDelays.length) := by
  have scheduled : ∀ failed : DeliveryLog,
      (failed.scheduleRetry now).attemptCount = failed.attemptCount ∧ ((failed.scheduleRetry now).status = .pending →
        failed.attemptCount - 1 < retryDelays.length) := by
    intro failed
    rw [DeliveryLog.scheduleRetry.eq_def]
    split
    · rename_i found
      exact ⟨rfl, fun _ => (List.getElem?_eq_some_iff.mp found).1⟩
    · exact ⟨rfl, fun pending => by cases pending⟩
  rw [DeliveryLog.settle.eq_def]
  split
  · dsimp only
    split
    · exact ⟨rfl, fun pending => by cases pending⟩
    · split
      · exact ⟨rfl, fun pending => by cases pending⟩
      · exact scheduled _
  · exact ⟨rfl, fun pending => by cases pending⟩
  · exact scheduled _

end Settlement

/-- The lease is over. -/
def Lapsed (lease : Option Time) (now : Time) : Prop := ∃ end_ ∈ lease, end_ ≤ now

theorem Lapsed.mono {lease : Option Time} {now later : Time} (lapsed : Lapsed lease now)
    (after : now ≤ later) : Lapsed lease later := by
  rcases lapsed with ⟨end_, ends, past⟩
  exact ⟨end_, ends, past.trans after⟩

namespace Delivery

/-- The log is pending, and the lease, where there is one, is the log's. -/
def Holds (state : Delivery) (lease : Option Time) : Prop :=
  ∀ log ∈ state.log, log.status = .pending ∧ ∀ end_ ∈ lease, log.nextAttemptAt = some end_

/-- The attempt that goes on read the log as it is; every task but one comes too late, and all do
while an attempt goes on. -/
structure Sound (state : Delivery) : Prop where
  draft : ∀ draft ∈ state.draft,
    state.log = none ∧ draft.status = .pending ∧ draft.attemptCount = 0
  absent : state.log = none →
    state.inFlight = [] ∧ state.made = 0 ∧ ∀ task ∈ state.queue, task.lease = none
  one : state.inFlight.length ≤ 1
  reads : ∀ attempt ∈ state.inFlight, state.Holds attempt.lease ∧ attempt.read.status = .pending ∧
    ∀ log ∈ state.log, attempt.read.attemptCount = log.attemptCount
  waits : ∀ task ∈ state.queue, Lapsed task.lease state.clock ∨ state.Holds task.lease
  alone : ∀ attempt ∈ state.inFlight, ∀ task ∈ state.queue, Lapsed task.lease state.clock
  ordered : state.queue.Pairwise fun earlier _ => Lapsed earlier.lease state.clock
  counted : ∀ log ∈ state.log, log.attemptCount + state.inFlight.length = state.made ∧
    state.made ≤ maxAttempts ∧ (log.status = .pending → log.attemptCount ≤ retryDelays.length)

namespace Sound
variable {state : Delivery} {now : Time}

theorem dispatch {signed : Bool} : Sound (dispatch signed now) where
  draft := by
    rintro draft ⟨⟩
    exact ⟨rfl, rfl, rfl⟩
  absent := by
    intro _
    refine ⟨rfl, rfl, ?_⟩
    cases signed with
    | false => exact fun task mem => absurd mem List.not_mem_nil
    | true =>
        intro task mem
        rw [List.mem_singleton.mp mem]
  one := Nat.zero_le _
  reads := fun attempt mem => absurd mem List.not_mem_nil
  waits := fun task _ => Or.inr fun log present => by cases present
  alone := fun attempt mem => absurd mem List.not_mem_nil
  ordered := by
    cases signed with
    | false => exact List.Pairwise.nil
    | true => exact List.pairwise_singleton ..
  counted := fun log present => by cases present

theorem counts (sound : Sound state) : state.Counted := by
  refine ⟨sound.one, ?_, fun log present => (sound.counted log present).1⟩
  cases present : state.log with
  | none =>
      rw [(sound.absent present).2.1]
      exact Nat.zero_le _
  | some log => exact (sound.counted log present).2.1

/-- A step that drops tasks and nothing else. -/
theorem thin (sound : Sound state) {after : Delivery} (later : state.clock ≤ after.clock)
    (log : after.log = state.log) (draft : ∀ draft ∈ after.draft, draft ∈ state.draft)
    (queue : after.queue.Sublist state.queue) (inFlight : after.inFlight = state.inFlight)
    (made : after.made = state.made) : Sound after := by
  have holds : ∀ lease, state.Holds lease → after.Holds lease := by
    intro lease holds
    rw [Holds, log]
    exact holds
  constructor
  · intro found drafted
    rw [log]
    exact sound.draft found (draft found drafted)
  · rw [log, inFlight, made]
    intro absent
    rcases sound.absent absent with ⟨idle, none_, first⟩
    exact ⟨idle, none_, fun task mem => first task (queue.subset mem)⟩
  · rw [inFlight]
    exact sound.one
  · rw [inFlight, log]
    intro attempt mem
    rcases sound.reads attempt mem with ⟨held, rest⟩
    exact ⟨holds _ held, rest⟩
  · intro task mem
    exact (sound.waits task (queue.subset mem)).imp (·.mono later) (holds _)
  · rw [inFlight]
    intro attempt mem task waiting
    exact (sound.alone attempt mem task (queue.subset waiting)).mono later
  · exact (sound.ordered.sublist queue).imp fun lapsed => lapsed.mono later
  · rw [log, inFlight, made]
    exact sound.counted

theorem commit (sound : Sound state) (later : state.clock ≤ now) :
    Sound (state.step (now, .commit)) := by
  have committed : state.step (now, .commit) = { state.commit with clock := now } := rfl
  rw [committed, Delivery.commit.eq_def]
  split
  · rename_i draft drafted
    rcases sound.draft draft drafted with ⟨absent, pending, uncounted⟩
    rcases sound.absent absent with ⟨idle, none_, first⟩
    constructor
    · exact fun _ drafted => by cases drafted
    · exact fun absent => by cases absent
    · exact sound.one
    · intro attempt mem
      rw [idle] at mem
      cases mem
    · intro task mem
      refine Or.inr ?_
      rintro log ⟨⟩
      refine ⟨pending, ?_⟩
      rw [first task mem]
      exact fun _ leased => by cases leased
    · intro attempt mem
      rw [idle] at mem
      cases mem
    · exact sound.ordered.imp fun lapsed => lapsed.mono later
    · rintro log ⟨⟩
      rw [idle, none_, uncounted]
      exact ⟨rfl, Nat.zero_le _, fun _ => Nat.zero_le _⟩
  · exact sound.thin later rfl (fun _ drafted => drafted) (List.Sublist.refl _) rfl rfl

/-- A task that is in time begins its attempt when no other goes on. -/
theorem begin_ (sound : Sound state) {index : Nat} (later : state.clock ≤ now)
    (leased : state.Leased (now, .begin_ index)) : Sound (state.step (now, .begin_ index)) := by
  have begun : state.step (now, .begin_ index) = { state.beginAttempt index now with clock := now } :=
    rfl
  have erased : (state.queue.eraseIdx index).Sublist state.queue := List.eraseIdx_sublist ..
  rw [begun, Delivery.beginAttempt.eq_def]
  split
  · exact sound.thin later rfl (fun _ drafted => drafted) (List.Sublist.refl _) rfl rfl
  · rename_i task found
    dsimp only
    split
    · exact sound.thin later rfl (fun _ drafted => drafted) erased rfl rfl
    · rename_i log present
      split
      · exact sound.thin later rfl (fun _ drafted => drafted) erased rfl rfl
      · rename_i unsent
        have attempts : state.Attempts := ⟨log, present, unsent⟩
        have timely : ¬ Lapsed task.lease now := by
          rintro ⟨end_, ends, past⟩
          exact absurd (leased.2 attempts task found end_ ends) (Nat.not_lt.mpr past)
        have waiting : task ∈ state.queue := List.mem_of_getElem? found
        have early : ¬ Lapsed task.lease state.clock := fun lapsed => timely (lapsed.mono later)
        have holds : state.Holds task.lease := (sound.waits task waiting).resolve_left early
        have idle : state.inFlight = [] := by
          apply List.eq_nil_iff_forall_not_mem.mpr
          intro attempt mem
          exact early (sound.alone attempt mem task waiting)
        have rest : ∀ other ∈ state.queue.eraseIdx index, Lapsed other.lease now := by
          intro other mem
          exact (rest_of_pairwise (P := fun task => Lapsed task.lease state.clock) sound.ordered
            found early other mem).mono later
        have pending := (holds log present).1
        rcases sound.counted log present with ⟨counted, -, owed⟩
        constructor
        · intro draft drafted
          rw [(sound.draft draft drafted).1] at present
          cases present
        · intro absent
          rw [present] at absent
          cases absent
        · rw [idle]
          exact Nat.le_refl _
        · intro attempt mem
          dsimp only at mem
          rw [idle] at mem
          rw [List.mem_singleton.mp mem]
          refine ⟨holds, pending, ?_⟩
          intro other there
          dsimp only at there
          rw [present] at there
          cases there
          rfl
        · exact fun other mem => Or.inl (rest other mem)
        · exact fun _ _ other mem => rest other mem
        · exact (sound.ordered.sublist erased).imp fun lapsed => lapsed.mono later
        · intro other there
          dsimp only at there
          rw [present] at there
          cases there
          rw [idle] at counted ⊢
          have owed := owed pending
          have total : maxAttempts = retryDelays.length + 1 := rfl
          refine ⟨congrArg (· + 1) counted, ?_, fun _ => owed⟩
          dsimp only [List.length_nil] at counted ⊢
          omega

/-- The attempt writes its outcome into the log that it read. -/
theorem finish (sound : Sound state) {index : Nat} {outcome : Outcome} {answeredAt : Time}
    (later : state.clock ≤ now) : Sound (state.step (now, .finish index outcome answeredAt)) := by
  have finished : state.step (now, .finish index outcome answeredAt) =
      { state.finish index outcome answeredAt with clock := now } := rfl
  rw [finished, Delivery.finish.eq_def]
  split
  · exact sound.thin later rfl (fun _ drafted => drafted) (List.Sublist.refl _) rfl rfl
  · rename_i attempt found
    have mem : attempt ∈ state.inFlight := List.mem_of_getElem? found
    have lapsed : ∀ task ∈ state.queue, Lapsed task.lease now := fun task waiting =>
      (sound.alone attempt mem task waiting).mono later
    have within : index < state.inFlight.length := (List.getElem?_eq_some_iff.mp found).1
    have single : state.inFlight.length = 1 := by
      have one := sound.one
      omega
    have idle : state.inFlight.eraseIdx index = [] := by
      apply List.length_eq_zero_iff.mp
      rw [List.length_eraseIdx_of_lt within, single]
    rcases sound.reads attempt mem with ⟨holds, pending, same⟩
    cases present : state.log with
    | none =>
        rw [(sound.absent present).1] at mem
        cases mem
    | some log =>
        have stored := (holds log present).1
        have count : attempt.read.attemptCount = log.attemptCount := same log present
        have settled : (attempt.working.settle outcome answeredAt).attemptCount =
              attempt.working.attemptCount ∧
            ((attempt.working.settle outcome answeredAt).status = .pending →
              attempt.working.attemptCount - 1 < retryDelays.length) := settle_counts
        rcases settled with ⟨counts, owed⟩
        have working : attempt.working.attemptCount = attempt.read.attemptCount + 1 := rfl
        rcases sound.counted log present with ⟨made, limit, -⟩
        rw [single] at made
        constructor
        · intro draft drafted
          rw [(sound.draft draft drafted).1] at present
          cases present
        · exact fun absent => by cases absent
        · rw [idle]
          exact Nat.zero_le _
        · intro other mem
          dsimp only at mem
          rw [idle] at mem
          cases mem
        · exact fun task waiting => Or.inl (lapsed task waiting)
        · intro other mem
          dsimp only at mem
          rw [idle] at mem
          cases mem
        · exact sound.ordered.imp fun lapsed => lapsed.mono later
        · rintro _ ⟨⟩
          rw [idle]
          have written : (log.update attempt.read
              (attempt.working.settle outcome answeredAt)).attemptCount = log.attemptCount + 1 := by
            rw [DeliveryLog.update]
            dsimp only
            rw [counts, working, DeliveryLog.column, if_neg (Nat.succ_ne_self _), count]
          have status : (log.update attempt.read
              (attempt.working.settle outcome answeredAt)).status =
                (attempt.working.settle outcome answeredAt).status := by
            rw [DeliveryLog.update]
            dsimp only
            rw [DeliveryLog.column, pending, stored]
            split
            · rename_i unchanged
              exact unchanged.symm
            · rfl
          rw [written, status]
          refine ⟨made, limit, ?_⟩
          intro again
          have left_ := owed again
          omega

/-- A poller that claims the log finds no attempt of it going on. -/
theorem tick (sound : Sound state) {asOf : Time} {sendable : Bool} (later : state.clock ≤ now)
    (read : asOf ≤ now) (leased : state.Leased (now, .tick asOf sendable)) :
    Sound (state.step (now, .tick asOf sendable)) := by
  have ticked : state.step (now, .tick asOf sendable) =
      { state.tick asOf sendable with clock := now } := rfl
  rw [ticked, Delivery.tick.eq_def]
  split
  · exact sound.thin later rfl (fun _ drafted => drafted) (List.Sublist.refl _) rfl rfl
  · rename_i log present
    split
    · rename_i due
      rcases leased with ⟨within, past⟩
      rcases past ⟨log, present, due⟩ with ⟨firstTask, firstAttempt⟩
      rcases due with ⟨pending, instant, dueAt, due⟩
      have ends : ∀ lease : Option Time, lease ≠ none → state.Holds lease → Lapsed lease now := by
        intro lease leased holds
        rcases Option.ne_none_iff_exists'.mp leased with ⟨end_, rfl⟩
        have same := (holds log present).2 end_ rfl
        rw [dueAt] at same
        cases same
        exact ⟨instant, rfl, due.trans read⟩
      have idle : state.inFlight = [] := by
        apply List.eq_nil_iff_forall_not_mem.mpr
        intro attempt mem
        rcases ends _ (firstAttempt attempt mem) (sound.reads attempt mem).1 with
          ⟨end_, leased, past⟩
        exact absurd (within attempt mem end_ leased) (Nat.not_lt.mpr past)
      have late : ∀ task ∈ state.queue, Lapsed task.lease now := by
        intro task mem
        rcases sound.waits task mem with lapsed | holds
        · exact lapsed.mono later
        · exact ends _ (firstTask task mem) holds
      constructor
      · intro draft drafted
        rw [(sound.draft draft drafted).1] at present
        cases present
      · exact fun absent => by cases absent
      · exact sound.one
      · intro attempt mem
        rw [idle] at mem
        cases mem
      · intro task mem
        dsimp only at mem
        split at mem
        · rcases List.mem_append.mp mem with before | new
          · exact Or.inl (late task before)
          · rw [List.mem_singleton.mp new]
            refine Or.inr ?_
            rintro _ ⟨⟩
            exact ⟨pending, fun end_ ends => ends⟩
        · exact Or.inl (late task mem)
      · intro attempt mem
        rw [idle] at mem
        cases mem
      · have behind : state.queue.Pairwise fun earlier _ => Lapsed earlier.lease now :=
          sound.ordered.imp fun lapsed => lapsed.mono later
        dsimp only
        split
        · rw [List.pairwise_append]
          exact ⟨behind, List.pairwise_singleton .., fun task mem _ _ => late task mem⟩
        · exact behind
      · rintro _ ⟨⟩
        exact sound.counted log present
    · exact sound.thin later rfl (fun _ drafted => drafted) (List.Sublist.refl _) rfl rfl

theorem step (sound : Sound state) {label : Time × DeliveryEvent} (ordered : state.Ordered label)
    (leased : state.Leased label) : Sound (state.step label) := by
  rcases label with ⟨now, event⟩
  rcases ordered with ⟨later, read⟩
  cases event with
  | commit => exact sound.commit later
  | rollback =>
      exact sound.thin later rfl (fun _ drafted => by cases drafted) (List.Sublist.refl _) rfl rfl
  | begin_ index => exact sound.begin_ later leased
  | finish index outcome answeredAt => exact sound.finish later
  | tick asOf sendable => exact sound.tick later read leased
  | lose index =>
      exact sound.thin later rfl (fun _ drafted => drafted) (List.eraseIdx_sublist ..) rfl rfl

theorem pending_of_holds (sound : Sound state) {attempt : Attempt} (mem : attempt ∈ state.inFlight)
    {log : DeliveryLog} (present : state.log = some log) : ¬ log.Final := by
  have pending := ((sound.reads attempt mem).1 log present).1
  rintro (success | exhausted)
  · rw [pending] at success
    cases success
  · rw [pending] at exhausted
    cases exhausted

/-- Only an attempt and a claim write a log, and both find it pending. -/
theorem stays (sound : Sound state) (label : Time × DeliveryEvent) :
    state.Stays (state.step label) := by
  rcases label with ⟨now, event⟩
  intro log present final
  have there : state.log = some log := present
  cases event with
  | commit =>
      have committed : (state.step (now, .commit)).log = state.commit.log := rfl
      rw [committed, Delivery.commit.eq_def]
      split
      · rename_i draft drafted
        rw [(sound.draft draft drafted).1] at there
        cases there
      · exact there
  | rollback => exact there
  | begin_ index =>
      have begun : (state.step (now, .begin_ index)).log = (state.beginAttempt index now).log := rfl
      rw [begun, Delivery.beginAttempt.eq_def]
      split
      · exact there
      · dsimp only
        split
        · exact there
        · split <;> exact there
  | finish index outcome answeredAt =>
      have finished : (state.step (now, .finish index outcome answeredAt)).log =
          (state.finish index outcome answeredAt).log := rfl
      rw [finished, Delivery.finish.eq_def]
      split
      · exact there
      · rename_i found
        exact absurd final (sound.pending_of_holds (List.mem_of_getElem? found) there)
  | tick asOf sendable =>
      have ticked : (state.step (now, .tick asOf sendable)).log = (state.tick asOf sendable).log :=
        rfl
      rw [ticked, Delivery.tick.eq_def]
      split
      · exact there
      · rename_i found same
        rw [there] at same
        cases same
        split
        · rename_i due
          rcases final with success | exhausted
          · rw [due.1] at success
            cases success
          · rw [due.1] at exhausted
            cases exhausted
        · exact there
  | lose index => exact there

end Sound

/-- In every run in which the poller lets dispatch's attempt end first, and every later one is over
within its lease, one attempt at a time is made and counted, and a delivered or exhausted log
stays as it is. -/
theorem one_attempt_at_a_time {signed : Bool} {now : Time} {labels : List (Time × DeliveryEvent)}
    (ordered : Run.Guarded Delivery.step Ordered (dispatch signed now) labels)
    (leased : Run.Guarded Delivery.step Leased (dispatch signed now) labels) :
    Run.Always Delivery.step Counted (dispatch signed now) labels ∧
      Run.Transitions Delivery.step Stays (dispatch signed now) labels := by
  have kept : ∀ state label, Sound state → (state.Ordered label ∧ state.Leased label) →
      Sound (state.step label) := fun _ _ sound guard => sound.step guard.1 guard.2
  constructor
  · have always := Run.always_of_guarded kept Sound.dispatch (ordered.and leased)
    exact always.mono fun _ sound => sound.counts
  · apply Run.Guarded.imp kept _ Sound.dispatch (ordered.and leased)
    exact fun _ label sound _ => sound.stays label

/-- The first attempt fails, and the poller's delivers. -/
theorem second_attempt_delivers :
    Run.Always Delivery.step Counted (dispatch true 0)
        [(1, .commit), (2, .begin_ 0), (seconds 10, .finish 0 (.failure "timeout") (seconds 10)),
          (seconds 60, .tick (seconds 60) true), (seconds 61, .begin_ 0),
          (seconds 62, .finish 0 (.response 200 "ok") (seconds 62)),
          (seconds 120, .tick (seconds 120) true)] ∧
      Run.Transitions Delivery.step Stays (dispatch true 0)
        [(1, .commit), (2, .begin_ 0), (seconds 10, .finish 0 (.failure "timeout") (seconds 10)),
          (seconds 60, .tick (seconds 60) true), (seconds 61, .begin_ 0),
          (seconds 62, .finish 0 (.response 200 "ok") (seconds 62)),
          (seconds 120, .tick (seconds 120) true)] :=
  one_attempt_at_a_time (by decide +kernel) (by decide +kernel)

/-- A poller that comes while dispatch's attempt waits for its answer starts a second one. -/
theorem poller_doubles_first_attempt :
    ¬ (Run.Always Delivery.step Counted (dispatch true 0)
        [(1, .commit), (2, .begin_ 0), (3, .tick 3 true), (4, .begin_ 0)] ∧
      Run.Transitions Delivery.step Stays (dispatch true 0)
        [(1, .commit), (2, .begin_ 0), (3, .tick 3 true), (4, .begin_ 0)]) := by
  rintro ⟨counted, -⟩
  exact absurd counted (by decide +kernel)

end Delivery
end Numu.Webhooks
