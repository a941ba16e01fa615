import Mathlib.Data.Option.Basic
import Numu.Autopilot.DeliveryCheck
import Numu.Foundation.Run

/-!
# The life of a delivery check

Sweeps, replies and closures move one row, while the order and the settings of
the store change on their own. `Attended` is what keeps a pending row in reach of
a sweep.
-/

namespace Numu.Autopilot
open Numu.Orders (OrderStatus Time given)

namespace DeliveryCheck

/-- What every row keeps: attempts are left as long as one is scheduled. -/
structure Sound (check : DeliveryCheck) : Prop where
  bounded : check.attempts ≤ check.maxAttempts
  scheduled : check.nextAttemptAt.isSome = true → check.attempts < check.maxAttempts
  late : check.exceptionReason = some .lateContradiction → check.outcome.terminal = true

/-- A pending row waits for an attempt, or has used them all. -/
def Awaited (check : DeliveryCheck) : Prop :=
  check.outcome = .pending →
    check.nextAttemptAt.isSome = true ∨ check.maxAttempts ≤ check.attempts

/-- A change of the row that leaves a terminal outcome alone. -/
structure Carries (before after : DeliveryCheck) : Prop where
  sound : before.Sound → after.Sound
  final : before.outcome.terminal = true → after.outcome = before.outcome

theorem Carries.refl (check : DeliveryCheck) : Carries check check := ⟨id, fun _ => rfl⟩

section Rows
variable {check : DeliveryCheck} {config : CodAutopilotConfig} {now : Time}

theorem due_pending (due : check.due now = true) :
    check.outcome = .pending ∧ check.nextAttemptAt.isSome = true := by
  rw [DeliveryCheck.due, Bool.and_eq_true, decide_eq_true_eq] at due
  rcases due with ⟨pending, next⟩
  refine ⟨pending, ?_⟩
  cases scheduled : check.nextAttemptAt with
  | none => rw [scheduled] at next; cases next
  | some _ => rfl

theorem pending_not_terminal (pending : check.outcome = .pending) :
    check.outcome.terminal = false := by
  rw [pending]; rfl

/-- A row with an open outcome may take any outcome, as long as its reason is not a late one. -/
theorem Carries.of_open {after : DeliveryCheck} (opened : check.outcome.terminal = false)
    (bounded : check.Sound → after.attempts ≤ after.maxAttempts)
    (scheduled : check.Sound → after.nextAttemptAt.isSome = true →
      after.attempts < after.maxAttempts)
    (reason : after.exceptionReason = some .lateContradiction →
      check.exceptionReason = some .lateContradiction) : Carries check after := by
  constructor
  · intro sound
    refine ⟨bounded sound, scheduled sound, fun late => ?_⟩
    have closed := sound.late (reason late)
    rw [opened] at closed
    cases closed
  · intro closed
    rw [opened] at closed
    cases closed

theorem exhaust_carries (opened : check.outcome.terminal = false) :
    Carries check check.exhaust :=
  .of_open opened (fun sound => sound.bounded) (fun _ some_ => by cases some_) id

theorem exhaust_awaited : check.exhaust.Awaited := fun pending => by cases pending

theorem recordAttempt_carries (due : check.due now = true) :
    Carries check (check.recordAttempt now config) := by
  rcases due_pending due with ⟨pending, scheduled⟩
  refine .of_open (pending_not_terminal pending) ?_ ?_ id
  · intro sound
    exact sound.scheduled scheduled
  · intro _ next
    simp only [recordAttempt] at next ⊢
    split at next
    · cases next
    · omega

theorem recordAttempt_awaited : (check.recordAttempt now config).Awaited := by
  intro _
  simp only [recordAttempt]
  by_cases last : check.maxAttempts ≤ check.attempts + 1
  · exact Or.inr last
  · rw [if_neg last]
    exact Or.inl rfl

variable {order : Option OrderStatus} {store : Option CodAutopilotConfig} {answer : SendAnswer}

theorem sendDue_carries : Carries check (check.sendDue order store answer now) := by
  by_cases due : check.due now = true
  · have opened := pending_not_terminal (due_pending due).1
    have unscheduled : Carries check { check with nextAttemptAt := none } :=
      .of_open opened (fun sound => sound.bounded) (fun _ some_ => by cases some_) id
    simp only [sendDue, due, Bool.not_true, Bool.false_eq_true, if_false]
    split
    · split
      · exact unscheduled
      · split
        · exact exhaust_carries opened
        · split
          · exact recordAttempt_carries due
          · exact exhaust_carries opened
        · exact recordAttempt_carries due
        · exact .of_open opened (fun sound => sound.bounded)
            (fun sound _ => sound.scheduled (due_pending due).2) id
    · exact unscheduled
  · simp only [sendDue, Bool.eq_false_iff.mpr due, Bool.not_false, if_true]
    exact .refl check

/-- A due row stays in reach of a sweep exactly if the sweep finds the order, and the autopilot
of the store switched on. -/
theorem sendDue_awaited_iff (sound : check.Sound) (awaited : check.Awaited) :
    (check.sendDue order store answer now).Awaited ↔
      (check.due now = true →
        order.isSome = true ∧ store.any (fun config => config.enabled) = true) := by
  by_cases due : check.due now = true
  · rcases due_pending due with ⟨pending, scheduled⟩
    have left_ := sound.scheduled scheduled
    have stranded : ¬ Awaited { check with nextAttemptAt := none } := by
      intro found
      rcases found pending with next | used
      · cases next
      · exact absurd left_ (Nat.not_lt.mpr used)
    simp only [sendDue, due, Bool.not_true, Bool.false_eq_true, if_false, forall_const]
    rcases order with _ | status
    · simp [stranded]
    · rcases store with _ | config
      · simp [stranded]
      · rcases switch : config.enabled with _ | _
        · simp [stranded, switch]
        · simp only [switch, Bool.not_true, Bool.false_eq_true, if_false, Option.isSome_some,
            Option.any_some, and_self, iff_true]
          cases answer with
          | unresolved => exact exhaust_awaited
          | blocked reason =>
              dsimp only
              by_cases replay : reason = "already_sent"
              · rw [if_pos replay]
                exact recordAttempt_awaited
              · rw [if_neg replay]
                exact exhaust_awaited
          | sent => exact recordAttempt_awaited
          | failed => exact fun _ => Or.inl rfl
  · simp only [sendDue, Bool.eq_false_iff.mpr due, Bool.not_false, if_true, Bool.false_eq_true,
      false_implies, iff_true]
    exact awaited

theorem markExhausted_carries : Carries check (check.markExhausted now) := by
  rw [markExhausted]
  split
  · rename_i spent
    exact exhaust_carries (pending_not_terminal spent.1)
  · exact .refl check

theorem markExhausted_awaited (awaited : check.Awaited) : (check.markExhausted now).Awaited := by
  rw [markExhausted]
  split
  · exact exhaust_awaited
  · exact awaited

theorem closeAssumed_carries {transitioned : Bool} :
    Carries check (check.closeAssumed order store transitioned now) := by
  rw [closeAssumed.eq_def]
  split
  · exact .refl check
  · rename_i exhausted
    rw [not_or, not_not] at exhausted
    have opened : check.outcome.terminal = false := by rw [exhausted.1]; rfl
    split
    · exact .refl check
    · split
      · exact .refl check
      · split
        · exact .of_open opened (fun sound => sound.bounded) (fun sound => sound.scheduled) id
        · split <;>
            exact .of_open opened (fun sound => sound.bounded) (fun _ some_ => by cases some_) id

theorem closeAssumed_awaited {transitioned : Bool} (awaited : check.Awaited) :
    (check.closeAssumed order store transitioned now).Awaited := by
  rw [closeAssumed.eq_def]
  split
  · exact awaited
  · rename_i exhausted
    rw [not_or, not_not] at exhausted
    have answered : check.outcome ≠ .pending := by rw [exhausted.1]; decide
    split
    · exact awaited
    · split
      · exact awaited
      · split
        · exact fun pending => by cases pending
        · split
          · exact fun pending => by cases pending
          · exact fun pending => absurd pending answered

theorem supersede_carries : Carries check (check.supersede now) := by
  rw [supersede]
  split
  · exact .refl check
  · rename_i opened
    exact .of_open (Bool.eq_false_iff.mpr opened) (fun sound => sound.bounded)
      (fun _ some_ => by cases some_) id

theorem supersede_awaited (awaited : check.Awaited) : (check.supersede now).Awaited := by
  rw [supersede]
  split
  · exact awaited
  · exact fun pending => by cases pending

theorem anonymize_carries : Carries check check.anonymize := by
  constructor
  · intro sound
    refine ⟨sound.bounded, fun some_ => (by cases some_), fun late => ?_⟩
    have closed := sound.late late
    by_cases pending : check.outcome = .pending
    · rw [pending_not_terminal pending] at closed
      cases closed
    · simpa only [anonymize, pending, if_false] using closed
  · intro closed
    have answered : check.outcome ≠ .pending := by
      intro pending
      rw [pending_not_terminal pending] at closed
      cases closed
    simp only [anonymize, answered, if_false]

theorem anonymize_awaited : check.anonymize.Awaited := by
  intro pending
  by_cases before : check.outcome = .pending
  · simp [anonymize, before] at pending
  · simp [anonymize, before] at pending

theorem resolveException_carries : Carries check (check.resolveException now) := by
  rw [resolveException]
  split
  · exact .refl check
  · exact ⟨fun sound => ⟨sound.bounded, fun some_ => (by cases some_), sound.late⟩, fun _ => rfl⟩

theorem resolveException_awaited (sound : check.Sound) (awaited : check.Awaited) :
    (check.resolveException now).Awaited := by
  rw [resolveException]
  split
  · exact awaited
  · rename_i listed
    intro pending
    have late : check.exceptionReason = some .lateContradiction := by
      by_contra other
      exact listed (Or.inr ⟨by rw [show check.outcome = .pending from pending]; decide, other⟩)
    have closed := sound.late late
    rw [pending_not_terminal pending] at closed
    cases closed

theorem tapReceived_carries {status : OrderStatus} {transitioned : Bool} :
    Carries check (check.tapReceived status transitioned now) := by
  rw [tapReceived]
  split
  · exact .refl check
  · rename_i opened
    rw [not_or] at opened
    exact .of_open (Bool.eq_false_iff.mpr opened.1) (fun sound => sound.bounded)
      (fun _ some_ => by cases some_) id

theorem tapReceived_awaited {status : OrderStatus} {transitioned : Bool}
    (awaited : check.Awaited) : (check.tapReceived status transitioned now).Awaited := by
  rw [tapReceived]
  split
  · exact awaited
  · exact fun pending => by cases pending

theorem tapNotYet_carries : Carries check (check.tapNotYet config now) := by
  rw [tapNotYet]
  split
  · exact .refl check
  · rename_i opened
    rw [not_or] at opened
    have open_ := Bool.eq_false_iff.mpr opened.1
    split
    · rename_i left_
      exact .of_open open_ (fun sound => sound.bounded) (fun _ _ => left_) id
    · exact .of_open open_ (fun sound => sound.bounded) (fun _ some_ => by cases some_) id

theorem tapNotYet_awaited (awaited : check.Awaited) : (check.tapNotYet config now).Awaited := by
  rw [tapNotYet]
  split
  · exact awaited
  · split
    · exact fun _ => Or.inl rfl
    · exact fun pending => by cases pending

theorem tapRefused_carries : Carries check (check.tapRefused now) := by
  rw [tapRefused]
  split
  · exact .refl check
  · split
    · rename_i closed
      exact ⟨fun sound => ⟨sound.bounded, sound.scheduled, fun _ => closed⟩, fun _ => rfl⟩
    · rename_i opened
      have open_ := Bool.eq_false_iff.mpr opened
      refine ⟨fun sound => ⟨sound.bounded, fun some_ => (by cases some_), fun late => (by cases late)⟩,
        fun closed => ?_⟩
      rw [open_] at closed
      cases closed

theorem tapRefused_awaited (awaited : check.Awaited) : (check.tapRefused now).Awaited := by
  rw [tapRefused]
  split
  · exact awaited
  · split
    · exact awaited
    · exact fun pending => by cases pending

end Rows
end DeliveryCheck

/-- The buttons of the message. -/
inductive Reply where
  | dlvyes
  | dlvnot
  | dlvref
  deriving DecidableEq, Repr

/-- `handle_delivery_response` on the row of the order. -/
def handleDeliveryResponse (check : DeliveryCheck) (order : Option OrderStatus)
    (store : Option CodAutopilotConfig) (action : Reply) (phonesMatch transitioned : Bool)
    (now : Time) : DeliveryCheck :=
  if check.customerPhone ≠ "" ∧ !phonesMatch then check
  else match order, store with
  | some status, some config =>
      match action with
      | .dlvyes => check.tapReceived status transitioned now
      | .dlvnot => check.tapNotYet config now
      | .dlvref => check.tapRefused now
  | _, _ => check

/-- One order, its store and its check. -/
structure AutopilotRun where
  order : Option OrderStatus
  store : Option CodAutopilotConfig
  check : Option DeliveryCheck := none

inductive LifecycleLabel where
  | createDue (candidate : Candidate) (now : Time)
  /-- A sweep; what it did to the row is rolled back unless `committed`. -/
  | sendDue (answer : SendAnswer) (committed : Bool) (now : Time)
  | markExhausted (now : Time)
  | reply (action : Reply) (phonesMatch transitioned : Bool) (now : Time)
  | closeAssumed (transitioned : Bool) (now : Time)
  | supersede (now : Time)
  | anonymize
  | resolveException (now : Time)
  | orderMoved (order : Option OrderStatus)
  | settingsChanged (settings : Option RawSettings)

namespace AutopilotRun

/-- What a label does to the row. -/
def moved (run : AutopilotRun) (check : DeliveryCheck) : LifecycleLabel → DeliveryCheck
  | .createDue _ _ => check
  | .sendDue answer committed now =>
      if committed then check.sendDue run.order run.store answer now else check
  | .markExhausted now => check.markExhausted now
  | .reply action phonesMatch transitioned now =>
      handleDeliveryResponse check run.order run.store action phonesMatch transitioned now
  | .closeAssumed transitioned now => check.closeAssumed run.order run.store transitioned now
  | .supersede now => check.supersede now
  | .anonymize => check.anonymize
  | .resolveException now => check.resolveException now
  | .orderMoved _ | .settingsChanged _ => check

/-- The row of a candidate that has none. -/
def created (run : AutopilotRun) : LifecycleLabel → Option DeliveryCheck
  | .createDue candidate now =>
      if run.order = some candidate.status then
        run.store.bind fun config => createCheck config candidate now
      else none
  | _ => none

/-- A closure delivers the order. -/
def closes (before after : DeliveryCheck) : Bool :=
  before.outcome ≠ after.outcome &&
    (after.outcome = .deliveredConfirmed || after.outcome = .assumedDelivered)

def orderAfter (run : AutopilotRun) : LifecycleLabel → Option OrderStatus
  | .orderMoved order => order
  | label =>
      if run.check.any (fun check => closes check (run.moved check label)) then some .delivered
      else run.order

def step (run : AutopilotRun) (label : LifecycleLabel) : AutopilotRun where
  order := run.orderAfter label
  store := match label with
    | .settingsChanged settings => settings.map getCodAutopilotSettings
    | _ => run.store
  check := match run.check with
    | some check => some (run.moved check label)
    | none => run.created label

def opened (order : Option OrderStatus) (settings : Option RawSettings) : AutopilotRun where
  order := order
  store := settings.map getCodAutopilotSettings

def AttemptsBounded (run : AutopilotRun) : Prop :=
  ∀ check ∈ run.check, check.attempts ≤ check.maxAttempts

def NoneStranded (run : AutopilotRun) : Prop := ∀ check ∈ run.check, check.Awaited

/-- A sweep that keeps its writes finds the order of a due row, and the autopilot switched on. -/
def Attended (run : AutopilotRun) : LifecycleLabel → Prop
  | .sendDue _ true now =>
      ∀ check ∈ run.check, check.due now = true →
        run.order.isSome = true ∧ run.store.any (fun config => config.enabled) = true
  | _ => True

section Steps
variable {run : AutopilotRun} {label : LifecycleLabel} {check : DeliveryCheck}

theorem reply_carries {order : Option OrderStatus} {store : Option CodAutopilotConfig}
    {action : Reply} {phonesMatch transitioned : Bool} {now : Time} :
    check.Carries
      (handleDeliveryResponse check order store action phonesMatch transitioned now) := by
  rw [handleDeliveryResponse.eq_def]
  split
  · exact .refl check
  · split
    · cases action with
      | dlvyes => exact DeliveryCheck.tapReceived_carries
      | dlvnot => exact DeliveryCheck.tapNotYet_carries
      | dlvref => exact DeliveryCheck.tapRefused_carries
    · exact .refl check

theorem reply_awaited {order : Option OrderStatus} {store : Option CodAutopilotConfig}
    {action : Reply} {phonesMatch transitioned : Bool} {now : Time} (awaited : check.Awaited) :
    (handleDeliveryResponse check order store action phonesMatch transitioned now).Awaited := by
  rw [handleDeliveryResponse.eq_def]
  split
  · exact awaited
  · split
    · cases action with
      | dlvyes => exact DeliveryCheck.tapReceived_awaited awaited
      | dlvnot => exact DeliveryCheck.tapNotYet_awaited awaited
      | dlvref => exact DeliveryCheck.tapRefused_awaited awaited
    · exact awaited

theorem moved_carries : check.Carries (run.moved check label) := by
  cases label with
  | createDue candidate now => exact .refl check
  | sendDue answer committed now =>
      cases committed with
      | false => exact .refl check
      | true => exact DeliveryCheck.sendDue_carries
  | markExhausted now => exact DeliveryCheck.markExhausted_carries
  | reply action phonesMatch transitioned now => exact reply_carries
  | closeAssumed transitioned now => exact DeliveryCheck.closeAssumed_carries
  | supersede now => exact DeliveryCheck.supersede_carries
  | anonymize => exact DeliveryCheck.anonymize_carries
  | resolveException now => exact DeliveryCheck.resolveException_carries
  | orderMoved order => exact .refl check
  | settingsChanged settings => exact .refl check

/-- Only a sweep that finds no order, no store or a switched-off autopilot strands a row. -/
theorem moved_awaited_iff (here : run.check = some check) (sound : check.Sound)
    (awaited : check.Awaited) : (run.moved check label).Awaited ↔ run.Attended label := by
  cases label with
  | createDue candidate now => exact iff_of_true awaited trivial
  | sendDue answer committed now =>
      cases committed with
      | false => exact iff_of_true awaited trivial
      | true =>
          simp only [moved, Attended, here, Option.mem_some_iff, forall_eq']
          exact DeliveryCheck.sendDue_awaited_iff sound awaited
  | markExhausted now => exact iff_of_true (DeliveryCheck.markExhausted_awaited awaited) trivial
  | reply action phonesMatch transitioned now => exact iff_of_true (reply_awaited awaited) trivial
  | closeAssumed transitioned now =>
      exact iff_of_true (DeliveryCheck.closeAssumed_awaited awaited) trivial
  | supersede now => exact iff_of_true (DeliveryCheck.supersede_awaited awaited) trivial
  | anonymize => exact iff_of_true DeliveryCheck.anonymize_awaited trivial
  | resolveException now =>
      exact iff_of_true (DeliveryCheck.resolveException_awaited sound awaited) trivial
  | orderMoved order => exact iff_of_true awaited trivial
  | settingsChanged settings => exact iff_of_true awaited trivial

/-- A new row waits for its first message, or cannot be sent at all. -/
theorem createCheck_sound {config : CodAutopilotConfig} {candidate : Candidate} {now : Time}
    (made : createCheck config candidate now = some check) : check.Sound ∧ check.Awaited := by
  have positive := config.maxAttempts_pos
  rw [createCheck.eq_def] at made
  split at made
  · cases made
  · simp only [Option.ite_none_left_eq_some, Option.some.injEq] at made
    rcases made with ⟨-, -, -, -, -, rfl⟩
    refine ⟨⟨Nat.zero_le _, fun _ => positive, fun late => (by cases late)⟩, fun pending => ?_⟩
    by_cases phone : given candidate.phone = true
    · exact Or.inl (by simp only [phone, if_true, Option.isSome_some])
    · simp only [phone] at pending
      cases pending

theorem created_sound (fresh : run.created label = some check) : check.Sound ∧ check.Awaited := by
  cases label with
  | createDue candidate now =>
      simp only [created, Option.ite_none_right_eq_some] at fresh
      rcases Option.bind_eq_some_iff.mp fresh.2 with ⟨config, -, made⟩
      exact createCheck_sound made
  | _ => cases fresh

/-- The row of the order, after a label. -/
theorem step_check (run : AutopilotRun) (label : LifecycleLabel) :
    (run.check = none ∧ (run.step label).check = run.created label) ∨
      ∃ check, run.check = some check ∧ (run.step label).check = some (run.moved check label) := by
  cases here : run.check with
  | none => exact Or.inl ⟨rfl, by simp only [step, here]⟩
  | some check => exact Or.inr ⟨check, rfl, by simp only [step, here]⟩

def Sound (run : AutopilotRun) : Prop := ∀ check ∈ run.check, check.Sound

theorem sound_step (sound : run.Sound) : (run.step label).Sound := by
  intro check after
  rcases step_check run label with ⟨-, fresh⟩ | ⟨before, here, moves⟩
  · rw [fresh] at after
    exact (created_sound after).1
  · rw [moves, Option.mem_some_iff] at after
    rw [← after]
    exact moved_carries.sound (sound before here)

theorem final_step (closed : run.check.any (fun check => check.outcome.terminal) = true) :
    (run.step label).check.map (fun check => check.outcome) =
      run.check.map fun check => check.outcome := by
  rcases step_check run label with ⟨none_, -⟩ | ⟨check, here, moves⟩
  · rw [none_] at closed
    cases closed
  · rw [here, Option.any_some] at closed
    rw [here, moves, Option.map_some, Option.map_some, moved_carries.final closed]

theorem stranded_step_iff (sound : run.Sound) (awaited : run.NoneStranded) :
    (run.step label).NoneStranded ↔ run.Attended label := by
  rcases step_check run label with ⟨none_, fresh⟩ | ⟨check, here, moves⟩
  · have attended : run.Attended label := by
      cases label with
      | sendDue answer committed now =>
          cases committed with
          | false => trivial
          | true =>
              intro check found
              rw [none_] at found
              cases found
      | _ => trivial
    refine iff_of_true (fun check after => ?_) attended
    rw [fresh] at after
    exact (created_sound after).2
  · rw [NoneStranded, moves]
    simp only [Option.mem_some_iff, forall_eq']
    exact moved_awaited_iff here (sound check here) (awaited check here)

end Steps

/-- Over every run of an order's check: attempts stay within the maximum and a terminal outcome
is never replaced; no pending row is stranded exactly if each sweep that keeps its writes finds
the order of a due row, and the autopilot of its store switched on. -/
theorem lifecycle_iff (order : Option OrderStatus) (settings : Option RawSettings)
    (labels : List LifecycleLabel) :
    (Run.Always step AttemptsBounded (opened order settings) labels ∧
      Run.Settles step (fun outcome : Option Outcome => outcome.any Outcome.terminal = true)
        (fun run => run.check.map fun check => check.outcome) (opened order settings) labels ∧
      Run.Always step NoneStranded (opened order settings) labels) ↔
      Run.Guarded step Attended (opened order settings) labels := by
  have start : (opened order settings).Sound := fun check here => (by cases here)
  have bounded : Run.Always step AttemptsBounded (opened order settings) labels :=
    (Run.always_of_invariant (fun _ _ => sound_step) start labels).mono
      fun run sound check here => (sound check here).bounded
  have final : ∀ run label, (run.check.map fun check => check.outcome).any Outcome.terminal = true →
      ((step run label).check.map fun check => check.outcome) =
        run.check.map fun check => check.outcome := by
    intro run label closed
    rw [Option.any_map] at closed
    exact final_step closed
  have attended : Run.Always step NoneStranded (opened order settings) labels ↔
      Run.Guarded step Attended (opened order settings) labels := by
    apply Run.always_iff_guarded (I := fun run => run.Sound ∧ run.NoneStranded)
    · intro run label kept admitted
      exact ⟨sound_step kept.1, (stranded_step_iff kept.1 kept.2).mpr admitted⟩
    · exact fun run kept => kept.2
    · intro run label kept awaited
      exact (stranded_step_iff kept.1 kept.2).mp awaited
    · exact ⟨start, fun check here => (by cases here)⟩
  constructor
  · intro facts
    exact attended.mp facts.2.2
  · intro guarded
    exact ⟨bounded, Run.settles_of_step final _ labels, attended.mpr guarded⟩

/-- A cash order that was shipped at the start, three days ago. -/
def shippedOrder : Candidate where
  status := .shipped
  paymentMethod := some "cod"
  fulfilledAt := some 0
  phone := some "+201001234567"
  hasCourierShipment := false

/-- The autopilot is off while the first message is due, and on again afterwards. -/
def pausedAutopilot : List LifecycleLabel :=
  [.createDue shippedOrder (days 3), .settingsChanged (some { enabled := false }),
    .sendDue .sent true (days 3), .settingsChanged (some { enabled := true })]

theorem paused_check_stranded :
    ¬ (Run.Always step AttemptsBounded (opened (some .shipped) (some { enabled := true }))
        pausedAutopilot ∧
      Run.Settles step (fun outcome : Option Outcome => outcome.any Outcome.terminal = true)
        (fun run => run.check.map fun check => check.outcome)
        (opened (some .shipped) (some { enabled := true })) pausedAutopilot ∧
      Run.Always step NoneStranded (opened (some .shipped) (some { enabled := true }))
        pausedAutopilot) := by
  intro facts
  have found : ∃ check ∈ (Run.run step (opened (some .shipped) (some { enabled := true }))
      pausedAutopilot).check, check.outcome = .pending ∧ check.nextAttemptAt = none ∧
        check.attempts < check.maxAttempts := by
    decide +kernel
  rcases found with ⟨check, here, pending, unscheduled, unused⟩
  rcases facts.2.2.last check here pending with next | used
  · rw [unscheduled] at next
    cases next
  · omega

end AutopilotRun
end Numu.Autopilot
