import Mathlib.Data.List.Basic
import Numu.Foundation.Calendar
import Numu.Orders.Order

/-!
# One marketing campaign and what runs on it

The campaign's row, the requests and sweeps that have read it and not yet written it, the
dispatch tasks that wait in the broker, and those that run. A transaction that has
written the row keeps it locked until it ends.
-/

namespace Numu.Campaigns
open Numu.Orders (Time)

inductive CampaignStatus where
  | draft
  | scheduled
  | sending
  | completed
  | failed
  | canceled
  deriving DecidableEq, Repr

/-- `VALID_CAMPAIGN_TRANSITIONS`. -/
def CampaignStatus.validTransitions : CampaignStatus → List CampaignStatus
  | .draft => [.scheduled, .sending, .canceled]
  | .scheduled => [.sending, .canceled, .draft]
  | .sending => [.completed, .failed, .canceled]
  | .completed | .failed | .canceled => []

inductive CampaignChannel where
  | email
  | sms
  deriving DecidableEq, Repr

structure Campaign where
  channel : CampaignChannel
  status : CampaignStatus := .draft
  scheduledAt : Option Time := none
  startedAt : Option Time := none
  completedAt : Option Time := none
  canceledAt : Option Time := none
  totalRecipients : Nat := 0
  sentCount : Nat := 0
  deliveredCount : Nat := 0
  failedCount : Nat := 0
  deriving DecidableEq, Repr

namespace Campaign

def canTransitionTo (campaign : Campaign) (target : CampaignStatus) : Bool :=
  target ∈ campaign.status.validTransitions

/-- `transition` of the repository, which writes any target. -/
def transition (campaign : Campaign) (target : CampaignStatus) (scheduledAt : Option Time)
    (now : Time) : Campaign :=
  match target with
  | .scheduled =>
      { campaign with
        status := .scheduled, scheduledAt := scheduledAt.orElse fun _ => campaign.scheduledAt }
  | .sending => { campaign with status := .sending, startedAt := some now }
  | .completed => { campaign with status := .completed, completedAt := some now }
  | .canceled => { campaign with status := .canceled, canceledAt := some now }
  | .draft => { campaign with status := .draft, scheduledAt := none }
  | .failed => { campaign with status := .failed }

/-- `update_counters` for the sends of a transaction; only an SMS counts as delivered. -/
def count (campaign : Campaign) (sent failed : Nat) : Campaign :=
  { campaign with
    sentCount := campaign.sentCount + sent
    deliveredCount :=
      campaign.deliveredCount + if campaign.channel = .sms then sent else 0
    failedCount := campaign.failedCount + failed }

@[simp] theorem transition_status (campaign : Campaign) (target : CampaignStatus)
    (scheduledAt : Option Time) (now : Time) :
    (campaign.transition target scheduledAt now).status = target := by
  cases target <;> rfl

/-- The counters of a campaign: sent and failed, and the total. -/
def tally (campaign : Campaign) : Nat × Nat :=
  (campaign.sentCount + campaign.failedCount, campaign.totalRecipients)

@[simp] theorem transition_tally (campaign : Campaign) (target : CampaignStatus)
    (scheduledAt : Option Time) (now : Time) :
    (campaign.transition target scheduledAt now).tally = campaign.tally := by
  cases target <;> rfl

end Campaign

/-- What a merchant asks for. -/
inductive MerchantAction where
  | schedule (at_ : Time)
  | unschedule
  | sendNow
  | cancel
  deriving DecidableEq, Repr

/-- Who writes a status: a merchant's request, or the sweep for a due campaign. -/
inductive Action where
  | merchant (asked : MerchantAction)
  | promote
  deriving DecidableEq, Repr

namespace Action

def target : Action → CampaignStatus
  | .merchant (.schedule _) => .scheduled
  | .merchant .unschedule => .draft
  | .merchant .sendNow | .promote => .sending
  | .merchant .cancel => .canceled

def scheduledAt : Action → Option Time
  | .merchant (.schedule at_) => some at_
  | .merchant .unschedule | .merchant .sendNow | .merchant .cancel | .promote => none

/-- Whether the campaign stands un-scheduled after the action. -/
def leavesUnscheduled (action : Action) (before : Bool) : Bool :=
  match action with
  | .merchant .unschedule => true
  | .merchant (.schedule _) | .merchant .sendNow => false
  | .merchant .cancel | .promote => before

end Action

/-- A request or a sweep between its read of the campaign and its write. -/
structure Request where
  action : Action
  read : CampaignStatus
  deriving DecidableEq, Repr

/-- Where a dispatch is in `_dispatch_campaign_async`. -/
inductive Phase where
  /-- It has found the campaign SENDING and resolved its audience. -/
  | resolved
  | looping
  /-- The next recipient is not canceled. -/
  | polled (recipient : Nat)
  | sent (success : Bool)
  /-- The loop's transaction is committed. -/
  | looped
  deriving DecidableEq, Repr

/-- `sent` and `failed` are what its transaction has counted. -/
structure Dispatch where
  id : Nat
  remaining : List Nat
  phase : Phase := .resolved
  index : Nat := 0
  sent : Nat := 0
  failed : Nat := 0
  deriving DecidableEq, Repr

/-- `messages` are the recipients that a message was sent to; `unscheduled` says that the merchant
has un-scheduled the campaign and not asked for it again. -/
structure Runner where
  row : Campaign
  requests : List Request := []
  queue : Nat := 0
  dispatches : List Dispatch := []
  lock : Option Nat := none
  messages : List Nat := []
  nextDispatch : Nat := 0
  unscheduled : Bool := false
  deriving DecidableEq, Repr

/-- A campaign as it is created, with a schedule or as a draft. -/
def create (channel : CampaignChannel) (scheduledAt : Option Time) : Runner where
  row := {
    channel := channel
    status := if scheduledAt.isSome then .scheduled else .draft
    scheduledAt := scheduledAt }

inductive CampaignEvent where
  /-- A merchant's request reads the campaign. -/
  | request (asked : MerchantAction)
  /-- The sweep lists the campaign as due. -/
  | listDue (asOf : Time)
  /-- A request or the sweep writes. -/
  | write (index : Nat)
  | rescue (asOf : Time)
  /-- The broker delivers the task of a running dispatch again. -/
  | redeliver (index : Nat)
  /-- A dispatch task is taken from the queue; its audience is resolved at once. -/
  | start (recipients : List Nat)
  /-- A dispatch takes its next step. -/
  | advance (index : Nat) (success : Bool)
  /-- A dispatch fails, and can write that or not. -/
  | fail (index : Nat) (recorded : Bool)
  deriving DecidableEq, Repr

/-- `_ORPHAN_SENDING_AGE`, 5 minutes. -/
def orphanSendingAge : Nat := 300 * Calendar.secondLength

def cancelPollInterval : Nat := 25

namespace Runner

/-- The dispatch's transaction has the row's lock, or may take it. -/
def Free (state : Runner) (id : Nat) : Prop := state.lock = none ∨ state.lock = some id

instance (state : Runner) (id : Nat) : Decidable (state.Free id) :=
  inferInstanceAs (Decidable (_ ∨ _))

/-- The end of a dispatch's transaction. -/
def release (state : Runner) (id : Nat) : Option Nat :=
  if state.lock = some id then none else state.lock

/-- A request goes on if the campaign it read allows its target. -/
def request (state : Runner) (asked : MerchantAction) : Runner :=
  if state.row.canTransitionTo (Action.merchant asked).target then
    { state with
      requests := state.requests ++ [{ action := .merchant asked, read := state.row.status }] }
  else state

/-- `list_due`. -/
def listDue (state : Runner) (asOf : Time) : Runner :=
  if state.row.status = .scheduled ∧ ∃ due ∈ state.row.scheduledAt, due ≤ asOf then
    { state with requests := state.requests ++ [{ action := .promote, read := .scheduled }] }
  else state

/-- `transition`, and the task for a campaign that is to be sent. -/
def write (state : Runner) (index : Nat) (now : Time) : Runner :=
  match state.requests[index]? with
  | none => state
  | some request =>
      if state.lock = none then
        { state with
          row := state.row.transition request.action.target request.action.scheduledAt now
          requests := state.requests.eraseIdx index
          queue := if request.action.target = .sending then state.queue + 1 else state.queue
          unscheduled := request.action.leavesUnscheduled state.unscheduled }
      else state

/-- The sweep's rescue of orphans. -/
def rescue (state : Runner) (asOf : Time) : Runner :=
  if state.row.status = .sending ∧
      ∃ started ∈ state.row.startedAt, started + orphanSendingAge < asOf then
    { state with queue := state.queue + 1 }
  else state

def redeliver (state : Runner) (index : Nat) : Runner :=
  if index < state.dispatches.length then { state with queue := state.queue + 1 } else state

def start (state : Runner) (recipients : List Nat) : Runner :=
  if state.queue = 0 then state
  else
    let taken : Runner := { state with queue := state.queue - 1 }
    if state.row.status = .sending then
      { taken with
        dispatches := state.dispatches ++ [{ id := state.nextDispatch, remaining := recipients }]
        nextDispatch := state.nextDispatch + 1 }
    else taken

/-- A dispatch whose place in the list is given becomes another. -/
def become (state : Runner) (index : Nat) (dispatch : Dispatch) : Runner :=
  { state with dispatches := state.dispatches.set index dispatch }

/-- A dispatch returns; what its transaction has not committed is gone. -/
def leave (state : Runner) (index id : Nat) : Runner :=
  { state with dispatches := state.dispatches.eraseIdx index, lock := state.release id }

def advance (state : Runner) (index : Nat) (success : Bool) (now : Time) : Runner :=
  match state.dispatches[index]? with
  | none => state
  | some dispatch =>
      match dispatch.phase, dispatch.remaining with
      | .resolved, recipients =>
          if state.lock = none then
            let counted : Runner :=
              { state with row := { state.row with totalRecipients := recipients.length } }
            counted.become index { dispatch with phase := .looping }
          else state
      | .looping, [] =>
          let committed : Runner :=
            { state with
              row := state.row.count dispatch.sent dispatch.failed
              lock := state.release dispatch.id }
          committed.become index { dispatch with phase := .looped, sent := 0, failed := 0 }
      | .looping, recipient :: rest =>
          if dispatch.index % cancelPollInterval = 0 ∧ state.row.status = .canceled then
            state.leave index dispatch.id
          else state.become index { dispatch with phase := .polled recipient, remaining := rest }
      | .polled recipient, _ =>
          let posted : Runner := { state with messages := state.messages ++ [recipient] }
          posted.become index { dispatch with phase := .sent success }
      | .sent success, _ =>
          if state.Free dispatch.id then
            let locked : Runner := { state with lock := some dispatch.id }
            locked.become index
              { dispatch with
                phase := .looping
                index := dispatch.index + 1
                sent := dispatch.sent + if success then 1 else 0
                failed := dispatch.failed + if success then 0 else 1 }
          else state
      | .looped, _ =>
          if state.lock = none then
            let completed : Runner :=
              { state with row := state.row.transition .completed none now }
            completed.leave index dispatch.id
          else state

/-- The dispatch's `except`: what its transaction has counted is committed with the status. -/
def fail (state : Runner) (index : Nat) (recorded : Bool) (now : Time) : Runner :=
  match state.dispatches[index]? with
  | none => state
  | some dispatch =>
      if recorded then
        if state.Free dispatch.id then
          let failed : Runner :=
            { state with
              row := (state.row.count dispatch.sent dispatch.failed).transition .failed none now }
          failed.leave index dispatch.id
        else state
      else state.leave index dispatch.id

def act (state : Runner) (now : Time) : CampaignEvent → Runner
  | .request asked => state.request asked
  | .listDue asOf => state.listDue asOf
  | .write index => state.write index now
  | .rescue asOf => state.rescue asOf
  | .redeliver index => state.redeliver index
  | .start recipients => state.start recipients
  | .advance index success => state.advance index success now
  | .fail index recorded => state.fail index recorded now

def step (state : Runner) (label : Time × CampaignEvent) : Runner := state.act label.1 label.2

end Runner
end Numu.Campaigns

/-!
# What a step can do

A step reads the campaign, writes its status, takes up a dispatch, or takes one of a
dispatch's own steps; or it leaves all but the broker's queue as it is.
-/

namespace Numu.Campaigns
open Numu.Orders (Time)

inductive Moves (state : Runner) (now : Time) : CampaignEvent → Runner → Prop where
  | stays {event : CampaignEvent} (queue : Nat) : Moves state now event { state with queue := queue }
  | reads {event : CampaignEvent} (request : Request) (read : request.read = state.row.status)
      (allowed : request.action.target ∈ request.read.validTransitions)
      (due : request.action = .promote → request.read = .scheduled) :
      Moves state now event { state with requests := state.requests ++ [request] }
  | writes {index : Nat} (request : Request) (queue : Nat)
      (found : state.requests[index]? = some request) :
      Moves state now (.write index)
        { state with
          row := state.row.transition request.action.target request.action.scheduledAt now
          requests := state.requests.eraseIdx index
          queue := queue
          unscheduled := request.action.leavesUnscheduled state.unscheduled }
  | admits {recipients : List Nat} (queue : Nat) (sending : state.row.status = .sending)
      (waiting : state.queue ≠ 0) :
      Moves state now (.start recipients)
        { state with
          queue := queue
          dispatches := state.dispatches ++ [{ id := state.nextDispatch, remaining := recipients }]
          nextDispatch := state.nextDispatch + 1 }
  | totals {index : Nat} {success : Bool} (dispatch : Dispatch)
      (found : state.dispatches[index]? = some dispatch) (phase : dispatch.phase = .resolved) :
      Moves state now (.advance index success)
        { state with
          row := { state.row with totalRecipients := dispatch.remaining.length }
          dispatches := state.dispatches.set index { dispatch with phase := .looping } }
  | commits {index : Nat} {success : Bool} (dispatch : Dispatch) (lock : Option Nat)
      (found : state.dispatches[index]? = some dispatch) (phase : dispatch.phase = .looping)
      (ended : dispatch.remaining = []) :
      Moves state now (.advance index success)
        { state with
          row := state.row.count dispatch.sent dispatch.failed
          lock := lock
          dispatches :=
            state.dispatches.set index { dispatch with phase := .looped, sent := 0, failed := 0 } }
  | leaves {event : CampaignEvent} {index : Nat} (lock : Option Nat) :
      Moves state now event
        { state with dispatches := state.dispatches.eraseIdx index, lock := lock }
  | polls {index : Nat} {success : Bool} (dispatch : Dispatch) (recipient : Nat) (rest : List Nat)
      (found : state.dispatches[index]? = some dispatch) (phase : dispatch.phase = .looping)
      (next : dispatch.remaining = recipient :: rest) :
      Moves state now (.advance index success)
        { state with
          dispatches :=
            state.dispatches.set index
              { dispatch with phase := .polled recipient, remaining := rest } }
  | sends {index : Nat} {success : Bool} (dispatch : Dispatch) (recipient : Nat)
      (found : state.dispatches[index]? = some dispatch)
      (phase : dispatch.phase = .polled recipient) :
      Moves state now (.advance index success)
        { state with
          messages := state.messages ++ [recipient]
          dispatches := state.dispatches.set index { dispatch with phase := .sent success } }
  | counts {index : Nat} {success : Bool} (dispatch counted : Dispatch) (lock : Option Nat)
      (ok : Bool) (found : state.dispatches[index]? = some dispatch)
      (phase : dispatch.phase = .sent ok) (looping : counted.phase = .looping)
      (remaining : counted.remaining = dispatch.remaining)
      (one : counted.sent + counted.failed = dispatch.sent + dispatch.failed + 1) :
      Moves state now (.advance index success)
        { state with lock := lock, dispatches := state.dispatches.set index counted }
  | completes {index : Nat} {success : Bool} (dispatch : Dispatch) (lock : Option Nat)
      (found : state.dispatches[index]? = some dispatch) (phase : dispatch.phase = .looped) :
      Moves state now (.advance index success)
        { state with
          row := state.row.transition .completed none now
          lock := lock
          dispatches := state.dispatches.eraseIdx index }
  | fails {index : Nat} (dispatch : Dispatch) (lock : Option Nat)
      (found : state.dispatches[index]? = some dispatch) :
      Moves state now (.fail index true)
        { state with
          row := (state.row.count dispatch.sent dispatch.failed).transition .failed none now
          lock := lock
          dispatches := state.dispatches.eraseIdx index }

section
variable {state : Runner} {now : Time}

theorem advance_moves {index : Nat} {success : Bool} :
    Moves state now (.advance index success) (state.advance index success now) := by
  rw [Runner.advance.eq_def]
  split
  · exact .stays _
  · rename_i dispatch found
    split
    · rename_i phase
      split
      · exact .totals dispatch found phase
      · exact .stays _
    · rename_i phase ended
      exact .commits dispatch _ found phase ended
    · rename_i recipient rest phase next
      split
      · exact .leaves _
      · exact .polls dispatch recipient rest found phase next
    · rename_i recipient phase
      exact .sends dispatch recipient found phase
    · rename_i ok phase
      split
      · refine .counts dispatch _ _ ok found phase rfl rfl ?_
        cases ok
        · exact (Nat.add_assoc ..).symm
        · exact Nat.add_right_comm ..
      · exact .stays _
    · rename_i phase
      split
      · exact .completes dispatch _ found phase
      · exact .stays _

theorem act_moves (event : CampaignEvent) : Moves state now event (state.act now event) := by
  cases event with
  | request asked =>
      rw [Runner.act, Runner.request]
      split
      · rename_i allowed
        exact .reads _ rfl (of_decide_eq_true allowed) fun promotes => by cases promotes
      · exact .stays _
  | listDue asOf =>
      rw [Runner.act, Runner.listDue]
      split
      · rename_i due
        exact .reads _ due.1.symm (by decide) fun _ => rfl
      · exact .stays _
  | write index =>
      rw [Runner.act, Runner.write.eq_def]
      split
      · exact .stays _
      · rename_i request found
        split
        · exact .writes request _ found
        · exact .stays _
  | rescue asOf =>
      rw [Runner.act, Runner.rescue]
      split <;> exact .stays _
  | redeliver index =>
      rw [Runner.act, Runner.redeliver]
      split <;> exact .stays _
  | start recipients =>
      rw [Runner.act, Runner.start]
      split
      · exact .stays _
      · rename_i waiting
        dsimp only
        split
        · rename_i sending
          exact .admits _ sending waiting
        · exact .stays _
  | advance index success => exact advance_moves
  | fail index recorded =>
      rw [Runner.act, Runner.fail.eq_def]
      split
      · exact .stays _
      · rename_i dispatch found
        split
        · rename_i recorded
          cases recorded
          split
          · exact .fails dispatch _ found
          · exact .stays _
        · exact .leaves _

end
end Numu.Campaigns
