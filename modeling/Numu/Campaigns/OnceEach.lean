import Numu.Campaigns.Runner
import Numu.Foundation.Run

/-!
# One message for each recipient

A dispatch looks at the status once, before its loop. What keeps a second one from sending
to the same audience is that no second one is taken up.
-/

namespace Numu.Campaigns
open Numu.Orders (Time)

namespace Dispatch

/-- Whom the dispatch has still to send to. -/
def unsent (dispatch : Dispatch) : List Nat :=
  match dispatch.phase with
  | .polled recipient => recipient :: dispatch.remaining
  | .resolved | .looping | .sent _ | .looped => dispatch.remaining

/-- The campaign's counters and the dispatch's own come to its audience. -/
def Counted (dispatch : Dispatch) (row : Campaign) : Prop :=
  match dispatch.phase with
  | .resolved => row.tally.1 = 0 ∧ dispatch.sent + dispatch.failed = 0
  | .looping =>
      row.tally.1 = 0 ∧
        dispatch.sent + dispatch.failed + dispatch.remaining.length = row.tally.2
  | .polled _ | .sent _ =>
      row.tally.1 = 0 ∧
        dispatch.sent + dispatch.failed + 1 + dispatch.remaining.length = row.tally.2
  | .looped => row.tally.1 = row.tally.2

end Dispatch

namespace Runner

/-- No recipient is sent two messages, and a completed campaign has counted all of them. -/
def OnceEach (state : Runner) : Prop :=
  state.messages.Nodup ∧
    (state.row.status = .completed →
      state.row.sentCount + state.row.failedCount = state.row.totalRecipients)

instance (state : Runner) : Decidable state.OnceEach := inferInstanceAs (Decidable (_ ∧ (_ → _)))

/-- No dispatch finds the campaign SENDING after another has. -/
def DispatchedOnce (state : Runner) (label : Time × CampaignEvent) : Prop :=
  match label.2 with
  | .start _ => state.queue ≠ 0 → state.row.status = .sending → state.nextDispatch = 0
  | _ => True

instance (state : Runner) : ∀ label, Decidable (state.DispatchedOnce label)
  | (_, .start _) => inferInstanceAs (Decidable (_ → _ → _))
  | (_, .request _) | (_, .listDue _) | (_, .write _) | (_, .rescue _) | (_, .redeliver _)
  | (_, .advance _ _) | (_, .fail _ _) => isTrue trivial

/-- An audience is rows of the customers' table, each once. -/
def Resolved (_ : Runner) (label : Time × CampaignEvent) : Prop :=
  match label.2 with
  | .start recipients => recipients.Nodup
  | _ => True

instance (state : Runner) : ∀ label, Decidable (state.Resolved label)
  | (_, .start recipients) => inferInstanceAs (Decidable recipients.Nodup)
  | (_, .request _) | (_, .listDue _) | (_, .write _) | (_, .rescue _) | (_, .redeliver _)
  | (_, .advance _ _) | (_, .fail _ _) => isTrue trivial

/-- The one dispatch has counted whom it has sent to, and has the others before it. -/
structure Once (state : Runner) : Prop where
  fresh : state.nextDispatch = 0 →
    state.dispatches = [] ∧ state.messages = [] ∧ state.row.tally.1 = 0
  one : state.dispatches.length ≤ 1
  runs : ∀ dispatch ∈ state.dispatches, state.row.status ≠ .completed ∧
    dispatch.Counted state.row ∧ (state.messages ++ dispatch.unsent).Nodup
  sent : state.messages.Nodup
  completed : state.row.status = .completed → state.row.tally.1 = state.row.tally.2

namespace Once
variable {state after : Runner} {now : Time} {index : Nat} {dispatch : Dispatch}

theorem onceEach (once : Once state) : state.OnceEach := ⟨once.sent, once.completed⟩

theorem single (once : Once state) (found : state.dispatches[index]? = some dispatch) :
    state.dispatches = [dispatch] ∧ index = 0 := by
  have one := once.one
  cases dispatches : state.dispatches with
  | nil =>
      rw [dispatches] at found
      cases found
  | cons first rest =>
      rw [dispatches, List.length_cons] at one
      have none_ : rest = [] := List.length_eq_zero_iff.mp (by omega)
      rw [dispatches, none_] at found
      cases index with
      | zero =>
          cases found
          rw [none_]
          exact ⟨rfl, rfl⟩
      | succ => cases found

/-- A step that does not touch the dispatch, nor what it has counted. -/
theorem congr (once : Once state) (status : after.row.status ≠ .completed ∨ after.row = state.row)
    (tally : after.row.tally = state.row.tally) (dispatches : after.dispatches = state.dispatches)
    (messages : after.messages = state.messages)
    (next : after.nextDispatch = state.nextDispatch) : Once after := by
  constructor
  · rw [next, dispatches, messages, tally]
    exact once.fresh
  · rw [dispatches]
    exact once.one
  · rw [dispatches, messages]
    intro dispatch mem
    rcases once.runs dispatch mem with ⟨uncompleted, counted, distinct⟩
    refine ⟨?_, ?_, distinct⟩
    · rcases status with other | same
      · exact other
      · rw [same]
        exact uncompleted
    · rw [Dispatch.Counted.eq_def] at counted ⊢
      rw [tally]
      exact counted
  · rw [messages]
    exact once.sent
  · intro completed
    rw [tally]
    rcases status with other | same
    · exact absurd completed other
    · exact once.completed (same ▸ completed)

/-- The dispatch takes a step. -/
theorem becomes (once : Once state) {next : Dispatch}
    (found : state.dispatches[index]? = some dispatch)
    (dispatches : after.dispatches = state.dispatches.set index next)
    (same : after.nextDispatch = state.nextDispatch)
    (status : after.row.status = state.row.status) (counted : next.Counted after.row)
    (distinct : (after.messages ++ next.unsent).Nodup) : Once after := by
  rcases once.single found with ⟨single, rfl⟩
  have uncompleted : after.row.status ≠ .completed := by
    rw [status]
    exact (once.runs dispatch (List.mem_of_getElem? found)).1
  have only : after.dispatches = [next] := by
    rw [dispatches, single]
    rfl
  constructor
  · intro none_
    rw [same] at none_
    rw [(once.fresh none_).1] at single
    cases single
  · rw [only]
    exact Nat.le_refl _
  · rw [only]
    intro other mem
    rw [List.mem_singleton.mp mem]
    exact ⟨uncompleted, counted, distinct⟩
  · exact (List.nodup_append.mp distinct).1
  · exact fun completed => absurd completed uncompleted

/-- The dispatch ends, or another one that there is not. -/
theorem ends (once : Once state) (begun : state.nextDispatch ≠ 0)
    (dispatches : after.dispatches = state.dispatches.eraseIdx index)
    (messages : after.messages = state.messages)
    (next : after.nextDispatch = state.nextDispatch)
    (completed : after.row.status = .completed → after.row.tally.1 = after.row.tally.2)
    (kept : after.row = state.row ∨ index < state.dispatches.length) : Once after := by
  have fewer : after.dispatches.Sublist state.dispatches := by
    rw [dispatches]
    exact List.eraseIdx_sublist ..
  constructor
  · exact fun none_ => absurd (next.symm.trans none_) begun
  · exact (fewer.length_le).trans once.one
  · intro dispatch mem
    rcases kept with same | within
    · rw [same, messages]
      exact once.runs dispatch (fewer.subset mem)
    · have one := once.one
      have none_ : after.dispatches.length = 0 := by
        rw [dispatches, List.length_eraseIdx_of_lt within]
        omega
      rw [List.length_eq_zero_iff.mp none_] at mem
      cases mem
  · rw [messages]
    exact once.sent
  · exact completed

theorem begun (once : Once state) (found : state.dispatches[index]? = some dispatch) :
    state.nextDispatch ≠ 0 := by
  intro none_
  rw [(once.fresh none_).1] at found
  cases found

theorem step (once : Once state) {event : CampaignEvent}
    (dispatchedOnce : state.DispatchedOnce (now, event)) (resolved : state.Resolved (now, event)) :
    Once (state.step (now, event)) := by
  have moves : Moves state now event (state.step (now, event)) := act_moves event
  generalize state.step (now, event) = after at moves
  cases moves with
  | stays queue => exact once.congr (Or.inr rfl) rfl rfl rfl rfl
  | reads request read allowed due => exact once.congr (Or.inr rfl) rfl rfl rfl rfl
  | writes request queue found =>
      refine once.congr (Or.inl ?_) (Campaign.transition_tally ..) rfl rfl rfl
      rw [Campaign.transition_status]
      rcases request with ⟨(_ | _ | _ | _) | _, read⟩ <;> exact CampaignStatus.noConfusion
  | admits queue sending waiting =>
      rcases once.fresh (dispatchedOnce waiting sending) with ⟨idle, unsent, uncounted⟩
      constructor
      · exact fun none_ => by cases none_
      · dsimp only
        rw [idle]
        exact Nat.le_refl _
      · intro dispatch mem
        dsimp only at mem
        rw [idle] at mem
        rw [List.mem_singleton.mp mem]
        refine ⟨?_, ⟨uncounted, rfl⟩, ?_⟩
        · dsimp only
          rw [sending]
          exact CampaignStatus.noConfusion
        · dsimp only
          rw [unsent]
          exact resolved
      · exact once.sent
      · exact fun completed => by rw [sending] at completed; cases completed
  | totals dispatch found phase =>
      rcases once.runs dispatch (List.mem_of_getElem? found) with ⟨-, counted, distinct⟩
      rw [Dispatch.Counted.eq_def, phase] at counted
      rw [Dispatch.unsent, phase] at distinct
      refine once.becomes found rfl rfl rfl ⟨counted.1, ?_⟩ distinct
      dsimp only
      rw [counted.2, Nat.zero_add]
      rfl
  | commits dispatch lock found phase ended =>
      rcases once.runs dispatch (List.mem_of_getElem? found) with ⟨-, counted, distinct⟩
      rw [Dispatch.Counted.eq_def, phase, ended] at counted
      rw [Dispatch.unsent, phase] at distinct
      refine once.becomes found rfl rfl rfl ?_ distinct
      rcases counted with ⟨none_, all⟩
      rw [Campaign.tally] at none_ all
      rw [Dispatch.Counted, Campaign.tally, Campaign.count]
      dsimp only [List.length_nil] at none_ all ⊢
      omega
  | leaves lock =>
      by_cases begun : state.nextDispatch = 0
      · have idle := (once.fresh begun).1
        refine once.congr (Or.inr rfl) rfl ?_ rfl rfl
        dsimp only
        rw [idle]
        rfl
      · exact once.ends begun rfl rfl rfl once.completed (Or.inl rfl)
  | polls dispatch recipient rest found phase next =>
      rcases once.runs dispatch (List.mem_of_getElem? found) with ⟨-, counted, distinct⟩
      rw [Dispatch.Counted.eq_def, phase, next] at counted
      rw [Dispatch.unsent, phase, next] at distinct
      refine once.becomes found rfl rfl rfl ⟨counted.1, ?_⟩ distinct
      rw [← counted.2, List.length_cons]
      exact Nat.add_right_comm ..
  | sends dispatch recipient found phase =>
      rcases once.runs dispatch (List.mem_of_getElem? found) with ⟨-, counted, distinct⟩
      rw [Dispatch.Counted.eq_def, phase] at counted
      rw [Dispatch.unsent, phase] at distinct
      refine once.becomes found rfl rfl rfl counted ?_
      rw [Dispatch.unsent]
      dsimp only
      rw [List.append_assoc, List.singleton_append]
      exact distinct
  | counts dispatch counts lock ok found phase looping remaining one =>
      rcases once.runs dispatch (List.mem_of_getElem? found) with ⟨-, counted, distinct⟩
      rw [Dispatch.Counted.eq_def, phase] at counted
      rw [Dispatch.unsent, phase] at distinct
      refine once.becomes found rfl rfl rfl ?_ ?_
      · rw [Dispatch.Counted.eq_def, looping]
        dsimp only
        rw [one, remaining]
        exact counted
      · rw [Dispatch.unsent, looping]
        dsimp only
        rw [remaining]
        exact distinct
  | completes dispatch lock found phase =>
      rcases once.runs dispatch (List.mem_of_getElem? found) with ⟨-, counted, -⟩
      rw [Dispatch.Counted.eq_def, phase] at counted
      have within := (List.getElem?_eq_some_iff.mp found).1
      refine once.ends (once.begun found) rfl rfl rfl ?_ (Or.inr within)
      intro _
      rw [Campaign.transition_tally]
      exact counted
  | fails dispatch lock found =>
      have within := (List.getElem?_eq_some_iff.mp found).1
      refine once.ends (once.begun found) rfl rfl rfl ?_ (Or.inr within)
      intro completed
      rw [Campaign.transition_status] at completed
      cases completed

end Once

/-- In every run in which one dispatch finds the campaign SENDING, each recipient is sent one
message at most, and a completed campaign has counted all of them. -/
theorem once_each {channel : CampaignChannel} {scheduledAt : Option Time}
    {labels : List (Time × CampaignEvent)}
    (resolved : Run.Guarded Runner.step Resolved (create channel scheduledAt) labels)
    (dispatched : Run.Guarded Runner.step DispatchedOnce (create channel scheduledAt) labels) :
    Run.Always Runner.step OnceEach (create channel scheduledAt) labels := by
  have initial : Once (create channel scheduledAt) := by
    refine ⟨fun _ => ⟨rfl, rfl, rfl⟩, Nat.zero_le _, ?_, List.nodup_nil, fun _ => rfl⟩
    exact fun _ mem => absurd mem List.not_mem_nil
  have kept : ∀ state label, Once state → (state.Resolved label ∧ state.DispatchedOnce label) →
      Once (state.step label) := fun _ _ once guard => once.step guard.2 guard.1
  have always := Run.always_of_guarded kept initial (resolved.and dispatched)
  exact always.mono fun _ once => once.onceEach

/-- A dispatch's steps at one instant; it counts its sends as successful. -/
def advances (now : Time) (steps : Nat) : List (Time × CampaignEvent) :=
  List.replicate steps (now, .advance 0 true)

/-- The sweep promotes a campaign; its task is delivered again while it runs, and finds the
campaign completed. -/
theorem promoted_campaign_once_each :
    Run.Always Runner.step OnceEach (create .email (some 10))
      ([(20, .listDue 20), (21, .write 0), (22, .start [7, 8])] ++ advances 23 5 ++
        [(24, .redeliver 0)] ++ advances 25 4 ++ [(26, .start [7, 8])]) :=
  once_each (by decide +kernel) (by decide +kernel)

/-- A campaign that has been SENDING for five minutes is rescued while its dispatch goes on, and the
rescue sends to its audience again. -/
theorem rescued_campaign_sends_twice :
    ¬ Run.Always Runner.step OnceEach (create .email none)
      ([(0, .request .sendNow), (0, .write 0), (1, .start [7])] ++ advances 2 4 ++
        [(orphanSendingAge + 1, .rescue (orphanSendingAge + 1)),
          (orphanSendingAge + 2, .start [7])] ++ advances (orphanSendingAge + 3) 5) := by
  decide +kernel

end Runner
end Numu.Campaigns
