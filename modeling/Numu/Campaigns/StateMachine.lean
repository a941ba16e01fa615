import Numu.Campaigns.Runner
import Numu.Foundation.Run

/-!
# The edges of a campaign's status

Each writer looks up the edge from the status that it has read. The write itself takes any
target, so what matters is that the status is still the one that was read.
-/

namespace Numu.Campaigns
open Numu.Orders (Time)

def CampaignStatus.Final (status : CampaignStatus) : Prop :=
  status = .completed ∨ status = .failed ∨ status = .canceled

instance (status : CampaignStatus) : Decidable status.Final :=
  inferInstanceAs (Decidable (_ ∨ _ ∨ _))

namespace Runner

/-- A change of the status is an edge, a final one does not change, and an un-scheduled campaign is
not sent. -/
def Obeys (before after : Runner) : Prop :=
  (after.row.status = before.row.status ∨
    before.row.canTransitionTo after.row.status = true) ∧
  (before.row.status.Final → after.row.status = before.row.status) ∧
  (before.unscheduled = true → after.messages = before.messages)

instance (before after : Runner) : Decidable (before.Obeys after) :=
  inferInstanceAs (Decidable ((_ ∨ _) ∧ (_ → _) ∧ (_ → _)))

/-- Who writes a status finds the one that it has read, or the one that it writes. -/
def Unchanged (state : Runner) (label : Time × CampaignEvent) : Prop :=
  match label.2 with
  | .write index =>
      ∀ request ∈ state.requests[index]?,
        state.row.status = request.read ∨ state.row.status = request.action.target
  | .advance index _ =>
      ∀ dispatch ∈ state.dispatches[index]?, dispatch.phase = .looped →
        state.row.status = .sending ∨ state.row.status = .completed
  | .fail index recorded =>
      ∀ dispatch ∈ state.dispatches[index]?, recorded = true →
        state.row.status = .sending ∨ state.row.status = .failed
  | _ => True

instance (state : Runner) : ∀ label, Decidable (state.Unchanged label)
  | (_, .write _) => inferInstanceAs (Decidable (∀ request, request ∈ _ → _))
  | (_, .advance _ _) => inferInstanceAs (Decidable (∀ dispatch, dispatch ∈ _ → _ → _))
  | (_, .fail _ _) => inferInstanceAs (Decidable (∀ dispatch, dispatch ∈ _ → _ → _))
  | (_, .request _) | (_, .listDue _) | (_, .rescue _) | (_, .redeliver _) | (_, .start _) =>
      isTrue trivial

/-- Who is to write has read a status that allows it; no dispatch runs for a campaign that waits or
stands un-scheduled. -/
structure Lawful (state : Runner) : Prop where
  allowed : ∀ request ∈ state.requests,
    request.action.target ∈ request.read.validTransitions ∧
      (request.action = .promote → request.read = .scheduled)
  idle : state.row.status = .draft ∨ state.row.status = .scheduled → state.dispatches = []
  unscheduled : state.unscheduled = true →
    state.dispatches = [] ∧ (state.row.status = .draft ∨ state.row.status = .canceled)

namespace Lawful
variable {state after : Runner} {now : Time} {index : Nat}

/-- The status does not change. -/
theorem obeys_of_status (status : after.row.status = state.row.status)
    (messages : state.unscheduled = true → after.messages = state.messages) : state.Obeys after :=
  ⟨Or.inl status, fun _ => status, messages⟩

/-- The status changes along an edge. -/
theorem obeys_of_edge (edge : after.row.status ∈ state.row.status.validTransitions)
    (messages : after.messages = state.messages) : state.Obeys after := by
  refine ⟨Or.inr (decide_eq_true edge), ?_, fun _ => messages⟩
  rintro (completed | failed | canceled)
  · rw [completed] at edge
    cases edge
  · rw [failed] at edge
    cases edge
  · rw [canceled] at edge
    cases edge

/-- A step that leaves the status, and begins no dispatch of a campaign that waits. -/
theorem congr (lawful : Lawful state) (status : after.row.status = state.row.status)
    (requests : after.requests = state.requests)
    (unscheduled : after.unscheduled = state.unscheduled)
    (dispatches : state.dispatches = [] → after.dispatches = []) : Lawful after := by
  constructor
  · rw [requests]
    exact lawful.allowed
  · rw [status]
    exact fun waits => dispatches (lawful.idle waits)
  · rw [status, unscheduled]
    exact fun stands => (lawful.unscheduled stands).imp_left dispatches

theorem not_empty {dispatch : Dispatch} (found : state.dispatches[index]? = some dispatch)
    {P : Prop} (empty : state.dispatches = []) : P := by
  rw [empty] at found
  cases found

/-- A step of a dispatch that does not write the status. -/
theorem advances (lawful : Lawful state) {dispatch : Dispatch}
    (found : state.dispatches[index]? = some dispatch)
    (status : after.row.status = state.row.status) (requests : after.requests = state.requests)
    (unscheduled : after.unscheduled = state.unscheduled) : Lawful after ∧ state.Obeys after := by
  refine ⟨lawful.congr status requests unscheduled (not_empty found), ?_⟩
  exact obeys_of_status status fun stands => not_empty found (lawful.unscheduled stands).1

/-- The end of a dispatch that finds its campaign SENDING, or ended as it ends. -/
theorem ends (lawful : Lawful state) {dispatch : Dispatch} {final : CampaignStatus}
    (found : state.dispatches[index]? = some dispatch)
    (edge : final ∈ CampaignStatus.sending.validTransitions)
    (finds : state.row.status = .sending ∨ state.row.status = final)
    (status : after.row.status = final) (requests : after.requests = state.requests)
    (unscheduled : after.unscheduled = state.unscheduled)
    (messages : after.messages = state.messages) : Lawful after ∧ state.Obeys after := by
  have ended : final ≠ .draft ∧ final ≠ .scheduled := by
    constructor
    · rintro rfl
      revert edge
      decide
    · rintro rfl
      revert edge
      decide
  constructor
  · constructor
    · rw [requests]
      exact lawful.allowed
    · rw [status]
      rintro (draft | scheduled)
      · exact absurd draft ended.1
      · exact absurd scheduled ended.2
    · rw [unscheduled]
      exact fun stands => not_empty found (lawful.unscheduled stands).1
  · rcases finds with sending | same
    · refine obeys_of_edge ?_ messages
      rw [status, sending]
      exact edge
    · exact obeys_of_status (status.trans same.symm) fun _ => messages

/-- The write of a request, or of the sweep, that finds what it has read. -/
theorem writes (lawful : Lawful state) {request : Request}
    (found : state.requests[index]? = some request)
    (finds : state.row.status = request.read ∨ state.row.status = request.action.target)
    (row : after.row =
      state.row.transition request.action.target request.action.scheduledAt now)
    (requests : after.requests = state.requests.eraseIdx index)
    (dispatches : after.dispatches = state.dispatches)
    (unscheduled : after.unscheduled = request.action.leavesUnscheduled state.unscheduled)
    (messages : after.messages = state.messages) : Lawful after ∧ state.Obeys after := by
  have status : after.row.status = request.action.target := by
    rw [row, Campaign.transition_status]
  rcases lawful.allowed request (List.mem_of_getElem? found) with ⟨edge, promotes⟩
  have idle : request.action.target = .draft ∨ request.action.target = .scheduled →
      state.dispatches = [] := by
    intro waits
    rcases finds with read | same
    · apply lawful.idle
      rw [read]
      revert waits edge
      cases request.read <;> cases request.action.target <;> decide
    · exact lawful.idle (same ▸ waits)
  constructor
  · constructor
    · rw [requests]
      exact fun other mem => lawful.allowed other (List.mem_of_mem_eraseIdx mem)
    · rw [status, dispatches]
      exact idle
    · rw [status, dispatches, unscheduled]
      intro stands
      cases action : request.action with
      | promote =>
          rw [action] at stands finds
          rcases lawful.unscheduled stands with ⟨-, rests⟩
          rw [promotes action] at finds
          rcases finds with read | same <;> rcases rests with draft | canceled
          · rw [read] at draft
            cases draft
          · rw [read] at canceled
            cases canceled
          · rw [same] at draft
            cases draft
          · rw [same] at canceled
            cases canceled
      | merchant asked =>
          cases asked with
          | schedule at_ =>
              rw [action] at stands
              cases stands
          | unschedule => exact ⟨idle (Or.inl (congrArg Action.target action)), Or.inl rfl⟩
          | sendNow =>
              rw [action] at stands
              cases stands
          | cancel =>
              rw [action] at stands
              exact ⟨(lawful.unscheduled stands).1, Or.inr rfl⟩
  · rcases finds with read | same
    · refine obeys_of_edge ?_ messages
      rw [status, read]
      exact edge
    · exact obeys_of_status (status.trans same.symm) fun _ => messages

theorem step (lawful : Lawful state) {event : CampaignEvent}
    (unchanged : state.Unchanged (now, event)) :
    Lawful (state.step (now, event)) ∧ state.Obeys (state.step (now, event)) := by
  have moves : Moves state now event (state.step (now, event)) := act_moves event
  generalize state.step (now, event) = after at moves
  cases moves with
  | stays queue =>
      exact ⟨lawful.congr rfl rfl rfl fun empty => empty, obeys_of_status rfl fun _ => rfl⟩
  | reads request read allowed due =>
      refine ⟨⟨?_, lawful.idle, lawful.unscheduled⟩, obeys_of_status rfl fun _ => rfl⟩
      intro other mem
      rcases List.mem_append.mp mem with before | new
      · exact lawful.allowed other before
      · rw [List.mem_singleton.mp new]
        exact ⟨allowed, due⟩
  | writes request queue found =>
      exact lawful.writes found (unchanged request found) rfl rfl rfl rfl rfl
  | admits queue sending waiting =>
      refine ⟨⟨lawful.allowed, ?_, ?_⟩, obeys_of_status rfl fun _ => rfl⟩
      · dsimp only
        rw [sending]
        rintro (draft | scheduled)
        · cases draft
        · cases scheduled
      · intro stands
        rcases (lawful.unscheduled stands).2 with draft | canceled
        · rw [sending] at draft
          cases draft
        · rw [sending] at canceled
          cases canceled
  | totals dispatch found phase => exact lawful.advances found rfl rfl rfl
  | commits dispatch lock found phase ended => exact lawful.advances found rfl rfl rfl
  | leaves lock =>
      refine ⟨lawful.congr rfl rfl rfl ?_, obeys_of_status rfl fun _ => rfl⟩
      intro empty
      dsimp only
      rw [empty]
      rfl
  | polls dispatch recipient rest found phase next => exact lawful.advances found rfl rfl rfl
  | sends dispatch recipient found phase => exact lawful.advances found rfl rfl rfl
  | counts dispatch counted lock ok found phase => exact lawful.advances found rfl rfl rfl
  | completes dispatch lock found phase =>
      exact lawful.ends found (by decide) (unchanged dispatch found phase)
        (Campaign.transition_status ..) rfl rfl rfl
  | fails dispatch lock found =>
      exact lawful.ends found (by decide) (unchanged dispatch found rfl)
        (Campaign.transition_status ..) rfl rfl rfl

end Lawful

/-- In every run in which each writer finds the status that it has read, or the one it writes, the
status moves along its edges only, and an un-scheduled campaign is not sent. -/
theorem status_obeys {channel : CampaignChannel} {scheduledAt : Option Time}
    {labels : List (Time × CampaignEvent)}
    (unchanged : Run.Guarded Runner.step Unchanged (create channel scheduledAt) labels) :
    Run.Transitions Runner.step Obeys (create channel scheduledAt) labels := by
  have initial : Lawful (create channel scheduledAt) := by
    refine ⟨?_, fun _ => rfl, fun stands => by cases stands⟩
    exact fun _ mem => absurd mem List.not_mem_nil
  apply Run.Guarded.imp (I := Lawful) _ _ initial unchanged
  · exact fun _ _ lawful guard => (lawful.step guard).1
  · exact fun _ _ lawful guard => (lawful.step guard).2

/-- A campaign is scheduled, un-scheduled and sent at once. -/
theorem resent_campaign_obeys :
    Run.Transitions Runner.step Obeys (create .sms (some 10))
      [(1, .request .unschedule), (2, .write 0), (20, .listDue 20), (21, .request .sendNow),
        (22, .write 0), (23, .start []), (24, .advance 0 true), (24, .advance 0 true),
        (24, .advance 0 true)] :=
  status_obeys (by decide +kernel)

/-- A merchant cancels after the loop; the dispatch makes the canceled campaign COMPLETED. -/
theorem canceled_campaign_completes :
    ¬ Run.Transitions Runner.step Obeys (create .email none)
      [(0, .request .sendNow), (0, .write 0), (1, .start []), (2, .advance 0 true),
        (2, .advance 0 true), (3, .request .cancel), (4, .write 0), (5, .advance 0 true)] := by
  rw [Run.Transitions]
  decide +kernel

end Runner
end Numu.Campaigns
