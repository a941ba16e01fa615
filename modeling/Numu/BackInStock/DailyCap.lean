import Mathlib.Data.List.Nodup
import Numu.BackInStock.Waiters
import Numu.Foundation.Pointwise
import Numu.Foundation.Run

/-!
# The daily caps

A check counts the alerts of the day by the time at which each was due or recorded. An alert
that goes out on a later day than it was due on is missing from that count.
-/

namespace Numu.BackInStock
open Numu.Orders (Time)

section Days

theorem startOfDay_eq (now : Nat) :
    startOfDay now = Calendar.dayLength * (now / Calendar.dayLength) := by
  rw [startOfDay]
  exact Nat.sub_eq_of_eq_add (Nat.div_add_mod now Calendar.dayLength).symm

theorem startOfDay_le (now : Nat) : startOfDay now ≤ now := Nat.sub_le ..

theorem startOfDay_mono {first second : Nat} (le : first ≤ second) :
    startOfDay first ≤ startOfDay second := by
  rw [startOfDay_eq, startOfDay_eq]
  exact Nat.mul_le_mul_left _ (Nat.div_le_div_right le)

/-- What is not before a day's start is not before it on its own day. -/
theorem startOfDay_le_startOfDay {now time : Nat} (le : startOfDay now ≤ time) :
    startOfDay now ≤ startOfDay time := by
  have positive : 0 < Calendar.dayLength := by decide
  rw [startOfDay_eq] at le ⊢
  rw [startOfDay_eq]
  apply Nat.mul_le_mul_left
  rw [Nat.le_div_iff_mul_le positive, Nat.mul_comm]
  exact le

theorem startOfDay_le_of_day {now time : Nat}
    (same : time / Calendar.dayLength = now / Calendar.dayLength) : startOfDay now ≤ time := by
  rw [startOfDay_eq, ← same]
  exact Nat.mul_div_le ..

end Days

/-- The alert is of the channel and went out on the day. -/
def Alert.on (channel : Channel) (day : Nat) (alert : Alert) : Bool :=
  alert.channel = channel && alert.at_ / Calendar.dayLength = day

namespace Waiter

def alertedOn (channel : Channel) (day : Nat) (waiter : Waiter) : Bool :=
  waiter.channel = channel && waiter.alertedAt.any (· / Calendar.dayLength = day)

/-- The waiter's alert went out since an instant, or is queued to and due since then. -/
def loads (channel : Channel) (since : Time) (waiter : Waiter) : Bool :=
  waiter.channel = channel &&
    match waiter.alertedAt with
    | some at_ => since ≤ at_
    | none => waiter.status = .queued && waiter.queuedAt.any (since ≤ ·)

theorem loads_of_alertedOn {waiter : Waiter} {channel : Channel} {now : Time}
    (alerted : waiter.alertedOn channel (now / Calendar.dayLength) = true) :
    waiter.loads channel (startOfDay now) = true := by
  rw [Waiter.alertedOn, Bool.and_eq_true, Option.any_eq_true] at alerted
  rcases alerted with ⟨same, at_, alertedAt, onDay⟩
  rw [Waiter.loads, same, alertedAt]
  exact decide_eq_true (startOfDay_le_of_day (of_decide_eq_true onDay))

/-- The times of a row go with its status, and with the alert that went out for it. -/
structure Timed (waiter : Waiter) : Prop where
  unalerted : waiter.alertedAt = none → waiter.notifiedAt = none
  queued : waiter.status = .queued → waiter.notifiedAt = none ∧ ∃ due,
    waiter.queuedAt = some due ∧ ∀ at_ ∈ waiter.alertedAt, startOfDay at_ ≤ due
  notified : waiter.status = .notified → ∀ at_ ∈ waiter.alertedAt, ∃ recorded,
    waiter.notifiedAt = some recorded ∧ at_ ≤ recorded

theorem loads_mono {waiter : Waiter} {channel : Channel} {earlier later : Time}
    (le : earlier ≤ later) (loads : waiter.loads channel later = true) :
    waiter.loads channel earlier = true := by
  rw [Waiter.loads, Bool.and_eq_true] at loads ⊢
  refine ⟨loads.1, ?_⟩
  have since := loads.2
  cases alerted : waiter.alertedAt with
  | none =>
      rw [alerted] at since
      dsimp only at since ⊢
      rw [Bool.and_eq_true, Option.any_eq_true] at since ⊢
      rcases since with ⟨queued, due, dueAt, after⟩
      exact ⟨queued, due, dueAt, decide_eq_true (le.trans (of_decide_eq_true after))⟩
  | some at_ =>
      rw [alerted] at since
      exact decide_eq_true (le.trans (of_decide_eq_true since))

/-- A write that leaves an alerted row its status. -/
structure Still (waiter after : Waiter) : Prop where
  channel : after.channel = waiter.channel
  alertedAt : after.alertedAt = waiter.alertedAt
  status : waiter.alertedAt ≠ none → after.status = waiter.status
  timed : waiter.Timed → after.Timed

/-- It queues nothing besides. -/
structure Calm (waiter after : Waiter) : Prop extends Still waiter after where
  loads : ∀ channel since, after.loads channel since = true → waiter.loads channel since = true

theorem Calm.refl (waiter : Waiter) : Calm waiter waiter :=
  ⟨⟨rfl, rfl, fun _ => rfl, fun timed => timed⟩, fun _ _ loads => loads⟩

theorem Calm.trans {first second third : Waiter} (before : Calm first second)
    (after : Calm second third) : Calm first third where
  channel := after.channel.trans before.channel
  alertedAt := after.alertedAt.trans before.alertedAt
  status := by
    intro alerted
    have alerted' : second.alertedAt ≠ none := before.alertedAt ▸ alerted
    exact (after.status alerted').trans (before.status alerted)
  timed := fun timed => after.timed (before.timed timed)
  loads := fun channel since loads => before.loads channel since (after.loads channel since loads)

/-- A row that no alert went out for is put into a status other than queued or notified. -/
theorem Calm.of_status {waiter after : Waiter} (unalerted : waiter.alertedAt = none)
    (channel : after.channel = waiter.channel) (alertedAt : after.alertedAt = waiter.alertedAt)
    (notifiedAt : after.notifiedAt = waiter.notifiedAt)
    (status : after.status ≠ .queued ∧ after.status ≠ .notified) : Calm waiter after where
  channel := channel
  alertedAt := alertedAt
  status := fun alerted => absurd unalerted alerted
  loads := by
    intro channel since loads
    rw [Waiter.loads, alertedAt, unalerted] at loads
    dsimp only at loads
    rw [decide_eq_false status.1, Bool.false_and, Bool.and_false] at loads
    cases loads
  timed := fun timed =>
    ⟨fun _ => notifiedAt.trans (timed.unalerted unalerted), fun queued => absurd queued status.1,
      fun notified => absurd notified status.2⟩

/-- A row whose alert is on the books loads a day only if the check's count has it. -/
theorem Timed.counts_of_loads {waiter : Waiter} (timed : waiter.Timed)
    (standing : waiter.alertedAt ≠ none → waiter.status = .queued ∨ waiter.status = .notified)
    {channel : Channel} {now : Time} (loads : waiter.loads channel (startOfDay now) = true) :
    waiter.counts channel (startOfDay now) = true := by
  rw [Waiter.loads, Bool.and_eq_true] at loads
  rcases loads with ⟨same, since⟩
  rw [Waiter.counts, same, Bool.true_and, Waiter.alertedSince, Bool.and_eq_true, Bool.or_eq_true,
    decide_eq_true_eq, decide_eq_true_eq]
  cases alerted : waiter.alertedAt with
  | none =>
      rw [alerted] at since
      dsimp only at since
      rw [Bool.and_eq_true, decide_eq_true_eq] at since
      refine ⟨Or.inl since.1, ?_⟩
      rw [timed.unalerted alerted]
      exact since.2
  | some at_ =>
      rw [alerted] at since standing
      dsimp only at since
      have since : startOfDay now ≤ at_ := of_decide_eq_true since
      have standing := standing (Option.some_ne_none _)
      refine ⟨standing, ?_⟩
      rcases standing with queued | notified
      · rcases timed.queued queued with ⟨unrecorded, due, dueAt, within⟩
        rw [unrecorded, dueAt]
        exact decide_eq_true ((startOfDay_le_startOfDay since).trans (within at_ alerted))
      · rcases timed.notified notified at_ alerted with ⟨recorded, recordedAt, after⟩
        rw [recordedAt]
        exact decide_eq_true (since.trans after)

end Waiter

/-- The send's message has gone out. -/
def Sending.isSent (send : Sending) : Bool :=
  match send.outcome with
  | some (.sent _) => true
  | some (.refused _) | none => false

namespace Shop

/-- On no day does a channel send more alerts than its cap. -/
def WithinCaps (shop : Shop) : Prop :=
  ∀ channel day, shop.alerts.countP (Alert.on channel day) ≤ shop.caps.of channel

/-- The clock does not go back, and a check acts on an instant it has read. -/
def Ordered (shop : Shop) (label : Time × ShopEvent) : Prop :=
  shop.clock ≤ label.1 ∧
    match label.2 with
    | .checkBegin _ _ _ asOf => asOf ≤ label.1
    | _ => True

instance : ∀ (shop : Shop) (label : Time × ShopEvent), Decidable (shop.Ordered label)
  | _, (_, .checkBegin ..) => inferInstanceAs (Decidable (_ ∧ _))
  | _, (_, .signUp ..) | _, (_, .checkCommit _) | _, (_, .checkAbort) | _, (_, .begin_ _)
  | _, (_, .putBack ..) | _, (_, .message ..) | _, (_, .finish _) | _, (_, .redeliver _)
  | _, (_, .lose _) | _, (_, .sweep _) | _, (_, .unsubscribe _) | _, (_, .closeProduct _)
  | _, (_, .retentionRead _) | _, (_, .retentionWrite _) => inferInstanceAs (Decidable (_ ∧ True))

/-- A message goes out for a row that is still queued, and not on a later day than it is due on;
between the message and its record nothing else takes the row from its status. -/
def Paced (shop : Shop) (label : Time × ShopEvent) : Prop :=
  match label.2 with
  | .message index (.sent _) =>
      ∀ send ∈ shop.sends[index]?, send.outcome = none →
        ∀ waiter ∈ shop.waiters[send.waiter]?,
          waiter.status = .queued ∧ ∃ due ∈ waiter.queuedAt, startOfDay label.1 ≤ due
  | .sweep asOf => ∀ waiter ∈ shop.waiters, stuck asOf waiter = true → waiter.alertedAt = none
  | .unsubscribe contact =>
      ∀ waiter ∈ shop.waiters, waiter.contact = some contact → waiter.isOpen = true →
        waiter.alertedAt = none
  | .closeProduct productId =>
      ∀ waiter ∈ shop.waiters, waiter.productId = productId → waiter.isOpen = true →
        waiter.alertedAt = none
  | .retentionWrite index =>
      ∀ retention ∈ shop.retentions[index]?, ∀ row ∈ retention.closing,
        ∀ waiter ∈ shop.waiters[row]?, waiter.alertedAt = none
  | _ => True

instance : ∀ (shop : Shop) (label : Time × ShopEvent), Decidable (shop.Paced label)
  | shop, (now, .message index (.sent _)) =>
      inferInstanceAs (Decidable (∀ send ∈ shop.sends[index]?, send.outcome = none →
        ∀ waiter ∈ shop.waiters[send.waiter]?,
          waiter.status = .queued ∧ ∃ due ∈ waiter.queuedAt, startOfDay now ≤ due))
  | shop, (_, .sweep _) => inferInstanceAs (Decidable (∀ waiter ∈ shop.waiters, _ → _))
  | shop, (_, .unsubscribe _) | shop, (_, .closeProduct _) =>
      inferInstanceAs (Decidable (∀ waiter ∈ shop.waiters, _ → _ → _))
  | shop, (_, .retentionWrite index) =>
      inferInstanceAs (Decidable (∀ retention ∈ shop.retentions[index]?,
        ∀ row ∈ retention.closing, ∀ waiter ∈ shop.waiters[row]?, _))
  | _, (_, .message _ (.refused _)) | _, (_, .signUp ..) | _, (_, .checkBegin ..)
  | _, (_, .checkCommit _) | _, (_, .checkAbort) | _, (_, .begin_ _) | _, (_, .putBack ..)
  | _, (_, .finish _) | _, (_, .redeliver _) | _, (_, .lose _) | _, (_, .retentionRead _) =>
      inferInstanceAs (Decidable True)

/-- The load since a check's day, with the room that it has left, is within the cap. -/
def Roomy (shop : Shop) (check : Check) (clock : Time) : Prop :=
  check.asOf ≤ clock ∧ ∀ channel, 0 < check.room.of channel →
    check.room.of channel +
      (shop.waiters.countP (Waiter.loads channel (startOfDay check.asOf)) : Nat) ≤
        shop.caps.of channel

theorem Roomy.later {shop : Shop} {check : Check} {clock later : Time}
    (roomy : shop.Roomy check clock) (after : clock ≤ later) : shop.Roomy check later :=
  ⟨roomy.1.trans after, roomy.2⟩

/-- The rows load each channel's day up to its cap, with the room of a check that goes on; an
alert on the books is a row's, and a row's alert is recorded or about to be. -/
structure Capped (shop : Shop) : Prop where
  within : shop.WithinCaps
  books : ∀ channel day, shop.alerts.countP (Alert.on channel day) =
    shop.waiters.countP (Waiter.alertedOn channel day)
  load : ∀ channel, shop.waiters.countP (Waiter.loads channel (startOfDay shop.clock)) ≤
    shop.caps.of channel
  room : ∀ check ∈ shop.check, shop.Roomy check shop.clock
  single : (shop.sends.map (·.waiter)).Nodup
  flying : ∀ send ∈ shop.sends, ∃ waiter, shop.waiters[send.waiter]? = some waiter ∧
    if send.isSent then waiter.status = .queued ∧ waiter.alertedAt ≠ none
    else waiter.alertedAt = none
  standing : ∀ index waiter, shop.waiters[index]? = some waiter → waiter.alertedAt ≠ none →
    waiter.status = .notified ∨ ∃ send ∈ shop.sends, send.waiter = index ∧ send.isSent = true
  timed : ∀ waiter ∈ shop.waiters, waiter.Timed ∧ ∀ at_ ∈ waiter.alertedAt, at_ ≤ shop.clock

namespace Capped
variable {shop after : Shop} {now : Time}

theorem flies (capped : Capped shop) {send : Sending} (mem : send ∈ shop.sends) {waiter : Waiter}
    (found : shop.waiters[send.waiter]? = some waiter) :
    if send.isSent then waiter.status = .queued ∧ waiter.alertedAt ≠ none
    else waiter.alertedAt = none := by
  rcases capped.flying send mem with ⟨other, there, flying⟩
  rw [found] at there
  cases there
  exact flying

theorem openStanding (capped : Capped shop) {index : Nat} {waiter : Waiter}
    (found : shop.waiters[index]? = some waiter) (alerted : waiter.alertedAt ≠ none) :
    waiter.status = .queued ∨ waiter.status = .notified := by
  rcases capped.standing index waiter found alerted with notified | ⟨send, mem, rfl, sent⟩
  · exact Or.inr notified
  · have flying := capped.flies mem found
    rw [if_pos sent] at flying
    exact Or.inl flying.1

/-- A row that waits, or has failed or been stopped, has no alert out. -/
theorem unalerted (capped : Capped shop) {waiter : Waiter} (mem : waiter ∈ shop.waiters)
    (status : waiter.status ≠ .queued ∧ waiter.status ≠ .notified) : waiter.alertedAt = none := by
  rcases List.mem_iff_getElem?.mp mem with ⟨index, found⟩
  by_contra alerted
  rcases capped.openStanding found alerted with queued | notified
  · exact status.1 queued
  · exact status.2 notified

/-- A later day starts with at most the load of the one before. -/
theorem load_later (capped : Capped shop) {clock : Time} (later : shop.clock ≤ clock)
    (channel : Channel) :
    shop.waiters.countP (Waiter.loads channel (startOfDay clock)) ≤ shop.caps.of channel := by
  refine Nat.le_trans (List.countP_mono_left fun waiter _ => ?_) (capped.load channel)
  exact Waiter.loads_mono (startOfDay_mono later)

/-- A step that leaves alerted rows their status, ends no send whose message has gone out, and
begins one only for a row that no alert went out for. -/
theorem still (capped : Capped shop) (later : shop.clock ≤ after.clock)
    (rows : List.Forall₂ Waiter.Still shop.waiters after.waiters)
    (load : ∀ channel, after.waiters.countP (Waiter.loads channel (startOfDay after.clock)) ≤
      shop.caps.of channel)
    (room : ∀ check ∈ after.check, after.Roomy check after.clock)
    (single : (after.sends.map (·.waiter)).Nodup)
    (origin : ∀ send ∈ after.sends,
      (∃ old ∈ shop.sends, old.waiter = send.waiter ∧ old.isSent = send.isSent) ∨
        (send.isSent = false ∧ ∃ waiter, shop.waiters[send.waiter]? = some waiter ∧
          waiter.alertedAt = none))
    (kept : ∀ send ∈ shop.sends, send.isSent = true → ∃ new ∈ after.sends,
      new.waiter = send.waiter ∧ new.isSent = true)
    (alerts : after.alerts = shop.alerts) (caps : after.caps = shop.caps) : Capped after := by
  constructor
  · rw [WithinCaps, alerts, caps]
    exact capped.within
  · intro channel day
    rw [alerts, capped.books]
    refine (Pointwise.countP_eq rows fun old new still => ?_).symm
    rw [Waiter.alertedOn, Waiter.alertedOn, still.channel, still.alertedAt]
  · rw [caps]
    exact load
  · exact room
  · exact single
  · intro send mem
    rcases origin send mem with ⟨old, there, same, sent⟩ | ⟨unsent, before, was, unalerted⟩
    · rcases capped.flying old there with ⟨before, was, flying⟩
      rcases Pointwise.exists_right rows was with ⟨waiter, found, still⟩
      refine ⟨waiter, same ▸ found, ?_⟩
      rw [← sent]
      split
      · rename_i sent
        rw [if_pos sent] at flying
        rw [still.alertedAt, still.status flying.2]
        exact flying
      · rename_i unsent
        rw [if_neg unsent] at flying
        rw [still.alertedAt]
        exact flying
    · rcases Pointwise.exists_right rows was with ⟨waiter, found, still⟩
      refine ⟨waiter, found, ?_⟩
      rw [unsent, still.alertedAt]
      exact unalerted
  · intro index waiter found alerted
    rcases Pointwise.exists_left rows found with ⟨before, was, still⟩
    rw [still.alertedAt] at alerted
    rw [still.status alerted]
    rcases capped.standing index before was alerted with notified | ⟨send, mem, same, sent⟩
    · exact Or.inl notified
    · rcases kept send mem sent with ⟨new, there, goes, sent⟩
      exact Or.inr ⟨new, there, goes.trans same, sent⟩
  · intro waiter mem
    rcases List.mem_iff_getElem?.mp mem with ⟨index, found⟩
    rcases Pointwise.exists_left rows found with ⟨before, was, still⟩
    rcases capped.timed before (List.mem_of_getElem? was) with ⟨timed, past⟩
    refine ⟨still.timed timed, ?_⟩
    rw [still.alertedAt]
    exact fun at_ alerted => (past at_ alerted).trans later

/-- A step that queues no row. -/
theorem calm (capped : Capped shop) (later : shop.clock ≤ after.clock)
    (rows : List.Forall₂ Waiter.Calm shop.waiters after.waiters)
    (single : (after.sends.map (·.waiter)).Nodup)
    (origin : ∀ send ∈ after.sends,
      (∃ old ∈ shop.sends, old.waiter = send.waiter ∧ old.isSent = send.isSent) ∨
        (send.isSent = false ∧ ∃ waiter, shop.waiters[send.waiter]? = some waiter ∧
          waiter.alertedAt = none))
    (kept : ∀ send ∈ shop.sends, send.isSent = true → ∃ new ∈ after.sends,
      new.waiter = send.waiter ∧ new.isSent = true)
    (check : ∀ check ∈ after.check, check ∈ shop.check ∨ shop.Roomy check after.clock)
    (alerts : after.alerts = shop.alerts) (caps : after.caps = shop.caps) : Capped after := by
  have fewer : ∀ channel since, after.waiters.countP (Waiter.loads channel since) ≤
      shop.waiters.countP (Waiter.loads channel since) := fun channel since =>
    Pointwise.countP_le rows fun _ _ calm => calm.loads channel since
  apply capped.still later (rows.imp fun _ _ calm => calm.toStill) _ _ single origin kept alerts caps
  · exact fun channel => (fewer _ _).trans (capped.load_later later channel)
  · intro found there
    have roomy : shop.Roomy found after.clock :=
      (check found there).elim (fun old => (capped.room found old).later later) fun roomy => roomy
    refine ⟨roomy.1, fun channel left_ => ?_⟩
    have room := roomy.2 channel left_
    have fewer := fewer channel (startOfDay found.asOf)
    rw [caps]
    omega

/-- A step that writes rows calmly and touches no send. -/
theorem calmRows (capped : Capped shop) (later : shop.clock ≤ after.clock)
    (rows : List.Forall₂ Waiter.Calm shop.waiters after.waiters) (sends : after.sends = shop.sends)
    (check : ∀ check ∈ after.check, check ∈ shop.check ∨ shop.Roomy check after.clock)
    (alerts : after.alerts = shop.alerts) (caps : after.caps = shop.caps) : Capped after := by
  apply capped.calm later rows _ _ _ check alerts caps
  · rw [sends]
    exact capped.single
  · rw [sends]
    exact fun send mem => Or.inl ⟨send, mem, rfl, rfl⟩
  · rw [sends]
    exact fun send mem sent => ⟨send, mem, rfl, sent⟩

theorem sameRows (waiters : List Waiter) : List.Forall₂ Waiter.Calm waiters waiters :=
  List.forall₂_same.mpr fun waiter _ => .refl waiter

theorem mem_eraseIdx_of_ne {sends : List Sending} {index : Nat} {send other : Sending}
    (found : sends[index]? = some send) (mem : other ∈ sends) (different : other ≠ send) :
    other ∈ sends.eraseIdx index := by
  rcases List.getElem?_eq_some_iff.mp found with ⟨within, rfl⟩
  have parts := List.mem_cons.mp ((List.getElem_cons_eraseIdx_perm within).mem_iff.mpr mem)
  exact parts.elim (fun same => absurd same different) fun left_ => left_

/-- The others of a list from which one send is taken, where each has a waiter of its own. -/
theorem other_of_eraseIdx {sends : List Sending} {index : Nat} {send other : Sending}
    (single : (sends.map (·.waiter)).Nodup) (found : sends[index]? = some send)
    (mem : other ∈ sends.eraseIdx index) : other ∈ sends ∧ other.waiter ≠ send.waiter := by
  refine ⟨List.mem_of_mem_eraseIdx mem, ?_⟩
  rcases List.getElem?_eq_some_iff.mp found with ⟨within, rfl⟩
  have order := (List.getElem_cons_eraseIdx_perm within).map (·.waiter)
  have single := order.nodup_iff.mpr single
  rw [List.map_cons, List.nodup_cons] at single
  intro same
  exact single.1 (List.mem_map.mpr ⟨other, mem, same⟩)

/-- A send whose message has not gone out ends, and with it perhaps its wait. -/
theorem endsUnsent (capped : Capped shop) (later : shop.clock ≤ after.clock) {index : Nat}
    {send : Sending} (found : shop.sends[index]? = some send) (unsent : send.isSent = false)
    (rows : List.Forall₂ Waiter.Calm shop.waiters after.waiters)
    (sends : after.sends = shop.sends.eraseIdx index) (check : after.check = shop.check)
    (alerts : after.alerts = shop.alerts) (caps : after.caps = shop.caps) : Capped after := by
  apply capped.calm later rows _ _ _ (check ▸ fun _ there => Or.inl there) alerts caps
  · rw [sends]
    exact capped.single.sublist ((List.eraseIdx_sublist ..).map _)
  · rw [sends]
    exact fun other mem => Or.inl ⟨other, List.mem_of_mem_eraseIdx mem, rfl, rfl⟩
  · rw [sends]
    intro other mem sent
    refine ⟨other, mem_eraseIdx_of_ne found mem ?_, rfl, sent⟩
    rintro rfl
    rw [unsent] at sent
    cases sent

theorem putBack_calm {waiter : Waiter} (unalerted : waiter.alertedAt = none)
    {queuedAt : Option Time} : Waiter.Calm waiter (waiter.putBack queuedAt now) :=
  .of_status unalerted rfl rfl rfl ⟨WaiterStatus.noConfusion, WaiterStatus.noConfusion⟩

theorem stop_calm {waiter : Waiter} {status : WaiterStatus}
    (stops : status = .unsubscribed ∨ status = .closed)
    (unalerted : waiter.isOpen = true → waiter.alertedAt = none) :
    Waiter.Calm waiter (waiter.stop status now) := by
  rw [Waiter.stop]
  split
  · rename_i opened
    refine .of_status (unalerted opened) rfl rfl rfl ?_
    rcases stops with rfl | rfl <;> exact ⟨WaiterStatus.noConfusion, WaiterStatus.noConfusion⟩
  · exact .refl waiter

theorem contact_calm (waiter : Waiter) (erases : Prop) [Decidable erases] :
    Waiter.Calm waiter (if erases then { waiter with contact := none } else waiter) := by
  split
  · exact ⟨⟨rfl, rfl, fun _ => rfl, fun timed => ⟨timed.unalerted, timed.queued, timed.notified⟩⟩,
      fun _ _ loads => loads⟩
  · exact .refl waiter

theorem unsent_unalerted (capped : Capped shop) {index : Nat} {send : Sending}
    (found : shop.sends[index]? = some send) (unsent : send.isSent = false) :
    ∀ waiter, shop.waiters[send.waiter]? = some waiter → waiter.alertedAt = none := by
  intro waiter there
  have flying := capped.flies (List.mem_of_getElem? found) there
  rw [unsent] at flying
  exact flying

theorem modify_calm {index : Nat} {f : Waiter → Waiter}
    (calm : ∀ waiter, shop.waiters[index]? = some waiter → Waiter.Calm waiter (f waiter)) :
    List.Forall₂ Waiter.Calm shop.waiters (shop.updateWaiter index f) :=
  Pointwise.forall₂_modify Waiter.Calm.refl calm

theorem signUp (capped : Capped shop) (later : shop.clock ≤ now) {productId : Nat}
    {variantId : Option Nat} {channel : Channel} {contact : String} :
    Capped (shop.step (now, .signUp productId variantId channel contact)) := by
  have rests : ∀ p : Waiter → Bool,
      p (.create productId variantId channel contact now) = false →
        (shop.signUp productId variantId channel contact now).waiters.countP p =
          shop.waiters.countP p := by
    intro p rests
    rw [Shop.signUp, List.countP_append, List.countP_singleton, rests]
    rfl
  have stands : ∀ (index : Nat) (waiter : Waiter),
      (shop.signUp productId variantId channel contact now).waiters[index]? = some waiter →
        shop.waiters[index]? = some waiter ∨
          (waiter.alertedAt = none ∧ waiter.notifiedAt = none ∧ waiter.status = .waiting) := by
    intro index waiter found
    rw [Shop.signUp, List.getElem?_append] at found
    split at found
    · exact Or.inl found
    · rw [List.getElem?_singleton] at found
      split at found
      · cases found
        exact Or.inr ⟨rfl, rfl, rfl⟩
      · cases found
  constructor
  · exact capped.within
  · intro other day
    refine (capped.books other day).trans (rests _ ?_).symm
    rw [Waiter.alertedOn]
    exact Bool.and_false _
  · intro other
    refine Nat.le_trans (Nat.le_of_eq (rests _ ?_)) (capped.load_later later other)
    rw [Waiter.loads]
    exact Bool.and_false _
  · intro check there
    rcases capped.room check there with ⟨read, room⟩
    refine ⟨read.trans later, fun other left_ => ?_⟩
    have same := rests (Waiter.loads other (startOfDay check.asOf)) (Bool.and_false _)
    have counted : (shop.step (now, .signUp productId variantId channel contact)).waiters.countP
        (Waiter.loads other (startOfDay check.asOf)) =
          shop.waiters.countP (Waiter.loads other (startOfDay check.asOf)) := same
    rw [counted]
    exact room other left_
  · exact capped.single
  · intro send mem
    rcases capped.flying send mem with ⟨waiter, found, flying⟩
    exact ⟨waiter, List.getElem?_append_left (List.getElem?_eq_some_iff.mp found).1 ▸ found, flying⟩
  · intro index waiter found alerted
    rcases stands index waiter found with before | ⟨unalerted, -, -⟩
    · exact capped.standing index waiter before alerted
    · exact absurd unalerted alerted
  · intro waiter mem
    rcases List.mem_iff_getElem?.mp mem with ⟨index, found⟩
    rcases stands index waiter found with before | ⟨unalerted, unrecorded, waits⟩
    · rcases capped.timed waiter (List.mem_of_getElem? before) with ⟨timed, past⟩
      exact ⟨timed, fun at_ alerted => (past at_ alerted).trans later⟩
    · refine ⟨⟨fun _ => unrecorded, ?_, ?_⟩, ?_⟩
      · intro queued
        rw [waits] at queued
        cases queued
      · intro notified
        rw [waits] at notified
        cases notified
      · intro at_ alerted
        rw [unalerted] at alerted
        cases alerted

theorem checkBegin (capped : Capped shop) {productId : Nat} {offer : Offer} {usable : Bool}
    {asOf : Time} (later : shop.clock ≤ now) (read : asOf ≤ now) :
    Capped (shop.step (now, .checkBegin productId offer usable asOf)) := by
  have counted : ∀ channel,
      shop.waiters.countP (Waiter.loads channel (startOfDay asOf)) ≤
        sentToday shop.waiters channel asOf := by
    intro channel
    rw [sentToday]
    apply List.countP_mono_left
    intro waiter mem loads
    rcases List.mem_iff_getElem?.mp mem with ⟨index, found⟩
    exact (capped.timed waiter mem).1.counts_of_loads (capped.openStanding found) loads
  have begun : (shop.step (now, .checkBegin productId offer usable asOf)).waiters = shop.waiters ∧
      (shop.step (now, .checkBegin productId offer usable asOf)).sends = shop.sends ∧
      (shop.step (now, .checkBegin productId offer usable asOf)).alerts = shop.alerts ∧
      (shop.step (now, .checkBegin productId offer usable asOf)).caps = shop.caps ∧
      ∀ check ∈ (shop.step (now, .checkBegin productId offer usable asOf)).check,
        check ∈ shop.check ∨ shop.Roomy check now := by
    rw [Shop.step, Shop.act, Shop.checkBegin]
    split
    · refine ⟨rfl, rfl, rfl, rfl, ?_⟩
      rintro check ⟨⟩
      refine Or.inr ⟨read, fun channel => ?_⟩
      have counted := counted channel
      cases channel with
      | whatsapp =>
          rw [Room.of, Caps.of]
          dsimp only
          split
          · omega
          · exact fun none_ => absurd none_ (Int.lt_irrefl 0)
      | email =>
          rw [Room.of, Caps.of]
          dsimp only
          omega
    · exact ⟨rfl, rfl, rfl, rfl, fun _ there => Or.inl there⟩
  rcases begun with ⟨waiters, sends, alerts, caps, check⟩
  exact capped.calmRows later (waiters ▸ sameRows _) sends check alerts caps

theorem begin_ (capped : Capped shop) {index : Nat} (later : shop.clock ≤ now) :
    Capped (shop.step (now, .begin_ index)) := by
  have same : Capped { shop with clock := now } :=
    capped.calmRows later (sameRows _) rfl (fun _ there => Or.inl there) rfl rfl
  have begun : shop.step (now, .begin_ index) = { shop.beginSend index now with clock := now } := rfl
  rw [begun, beginSend.eq_def]
  split
  · exact same
  · rename_i task found
    dsimp only
    split
    · exact capped.calmRows later (sameRows _) rfl (fun _ there => Or.inl there) rfl rfl
    · rename_i alone
      split
      · rename_i queued
        rw [Option.any_eq_true] at queued
        rcases queued with ⟨waiter, there, queued⟩
        have queued : waiter.status = .queued := of_decide_eq_true queued
        have alone : task.waiter ∉ shop.sends.map (·.waiter) := by
          intro taken
          rcases List.mem_map.mp taken with ⟨send, mem, sends⟩
          exact alone (List.any_eq_true.mpr ⟨send, mem, decide_eq_true sends⟩)
        have unalerted : waiter.alertedAt = none := by
          by_contra alerted
          rcases capped.standing task.waiter waiter there alerted with notified | ⟨send, mem, sends, -⟩
          · rw [queued] at notified
            cases notified
          · exact alone (List.mem_map.mpr ⟨send, mem, sends⟩)
        refine capped.calm later (sameRows _) ?_ ?_ ?_ (fun _ there => Or.inl there) rfl rfl
        · dsimp only
          rw [List.map_append, List.nodup_append]
          refine ⟨capped.single, List.nodup_singleton _, ?_⟩
          intro first mem second new
          rw [List.mem_singleton.mp new]
          rintro rfl
          exact alone mem
        · intro send mem
          rcases List.mem_append.mp mem with before | new
          · exact Or.inl ⟨send, before, rfl, rfl⟩
          · rw [List.mem_singleton.mp new]
            exact Or.inr ⟨rfl, waiter, there, unalerted⟩
        · exact fun send mem sent => ⟨send, List.mem_append_left _ mem, rfl, sent⟩
      · exact capped.calmRows later (sameRows _) rfl (fun _ there => Or.inl there) rfl rfl

/-- A send that stays as it is when another place of the list is written. -/
theorem mem_set_of_ne {sends : List Sending} {index : Nat} {send new other : Sending}
    (found : sends[index]? = some send) (mem : other ∈ sends) (different : other ≠ send) :
    other ∈ sends.set index new := by
  rcases List.mem_iff_getElem?.mp mem with ⟨place, there⟩
  apply List.mem_of_getElem? (i := place)
  rw [List.getElem?_set_ne, there]
  rintro rfl
  rw [found] at there
  cases there
  exact different rfl

/-- The others of a list one place of which is written, where each has a waiter of its own. -/
theorem other_of_set {sends : List Sending} {index : Nat} {send new other : Sending}
    (single : (sends.map (·.waiter)).Nodup) (found : sends[index]? = some send)
    (mem : other ∈ sends.set index new) :
    other = new ∨ (other ∈ sends ∧ other.waiter ≠ send.waiter) := by
  rcases List.mem_iff_getElem?.mp mem with ⟨place, there⟩
  by_cases same : index = place
  · rw [← same, List.getElem?_set_self (List.getElem?_eq_some_iff.mp found).1] at there
    cases there
    exact Or.inl rfl
  · rw [List.getElem?_set_ne same] at there
    refine Or.inr ⟨List.mem_of_getElem? there, ?_⟩
    intro waiters
    have first : (sends.map (·.waiter))[index]? = some send.waiter := by
      rw [List.getElem?_map, found]
      rfl
    have second : (sends.map (·.waiter))[place]? = some send.waiter := by
      rw [List.getElem?_map, there]
      exact congrArg some waiters
    rw [← second] at first
    have within : index < (sends.map (·.waiter)).length := by
      rw [List.length_map]
      exact (List.getElem?_eq_some_iff.mp found).1
    exact same ((List.getElem?_inj within single).mp first)

theorem waiters_set {sends : List Sending} {index : Nat} {send new : Sending}
    (found : sends[index]? = some send) (same : new.waiter = send.waiter) :
    (sends.set index new).map (·.waiter) = sends.map (·.waiter) := by
  apply List.ext_getElem?
  intro place
  rw [List.getElem?_map, List.getElem?_map]
  by_cases here : index = place
  · rw [← here, List.getElem?_set_self (List.getElem?_eq_some_iff.mp found).1, found]
    exact congrArg some same
  · rw [List.getElem?_set_ne here]

/-- A message that is refused. -/
theorem refused (capped : Capped shop) (later : shop.clock ≤ after.clock) {index : Nat}
    {send new : Sending} (found : shop.sends[index]? = some send) (unsent : send.isSent = false)
    (waiter : new.waiter = send.waiter) (still : new.isSent = false)
    (waiters : after.waiters = shop.waiters) (sends : after.sends = shop.sends.set index new)
    (check : after.check = shop.check) (alerts : after.alerts = shop.alerts)
    (caps : after.caps = shop.caps) : Capped after := by
  have mem : send ∈ shop.sends := List.mem_of_getElem? found
  apply capped.calm later (waiters ▸ sameRows _) _ _ _ (check ▸ fun _ there => Or.inl there)
    alerts caps
  · rw [sends, waiters_set found waiter]
    exact capped.single
  · rw [sends]
    intro other there
    rcases other_of_set capped.single found there with rfl | ⟨before, -⟩
    · exact Or.inl ⟨send, mem, waiter.symm, unsent.trans still.symm⟩
    · exact Or.inl ⟨other, before, rfl, rfl⟩
  · rw [sends]
    intro other there sent
    refine ⟨other, mem_set_of_ne found there ?_, rfl, sent⟩
    rintro rfl
    rw [unsent] at sent
    cases sent

/-- What counts of the rows stays when the row that is written counts as before. -/
theorem countP_updateWaiter {index : Nat} {f : Waiter → Waiter} {waiter : Waiter} {p : Waiter → Bool}
    (found : shop.waiters[index]? = some waiter) (same : p (f waiter) = p waiter) :
    (shop.updateWaiter index f).countP p = shop.waiters.countP p := by
  have counted := Pointwise.countP_modify (f := f) (p := p) found
  rw [same] at counted
  exact Nat.add_right_cancel counted

theorem updateWaiter_ne {index other : Nat} {f : Waiter → Waiter} (different : other ≠ index) :
    (shop.updateWaiter index f)[other]? = shop.waiters[other]? :=
  List.getElem?_modify_ne f shop.waiters different.symm

theorem updateWaiter_self {index : Nat} {f : Waiter → Waiter} {waiter : Waiter}
    (found : shop.waiters[index]? = some waiter) :
    (shop.updateWaiter index f)[index]? = some (f waiter) := by
  rw [updateWaiter, List.getElem?_modify_eq, found]
  rfl

/-- The rows keep their times when the row that is written has its own. -/
theorem timed_updateWaiter (capped : Capped shop) (later : shop.clock ≤ now) {index : Nat}
    {f : Waiter → Waiter} {waiter : Waiter} (found : shop.waiters[index]? = some waiter)
    (timed : (f waiter).Timed) (past : ∀ at_ ∈ (f waiter).alertedAt, at_ ≤ now) :
    ∀ row ∈ shop.updateWaiter index f, row.Timed ∧ ∀ at_ ∈ row.alertedAt, at_ ≤ now := by
  intro row mem
  rcases Pointwise.mem_modify mem with before | ⟨old, was, rfl⟩
  · rcases capped.timed row before with ⟨timed, past⟩
    exact ⟨timed, fun at_ alerted => (past at_ alerted).trans later⟩
  · rw [found] at was
    cases was
    exact ⟨timed, past⟩

/-- A queued row that is alerted has loaded the day already. -/
theorem loads_alerted {index : Nat} {waiter : Waiter} {due : Time}
    (there : shop.waiters[index]? = some waiter) (unalerted : waiter.alertedAt = none)
    (queued : waiter.status = .queued) (dueAt : waiter.queuedAt = some due) {since : Time}
    (went : since ≤ now) (waits : since ≤ due) (channel : Channel) :
    (shop.updateWaiter index fun waiter => { waiter with alertedAt := some now }).countP
      (Waiter.loads channel since) = shop.waiters.countP (Waiter.loads channel since) := by
  apply countP_updateWaiter there
  rw [Waiter.loads, Waiter.loads, unalerted, queued, dueAt]
  dsimp only
  rw [decide_eq_true went, Option.any_some, decide_eq_true waits]
  rfl

/-- The alert of a row is booked once. -/
theorem books_alerted (capped : Capped shop) (now : Time) {index : Nat} {waiter : Waiter}
    (there : shop.waiters[index]? = some waiter) (unalerted : waiter.alertedAt = none)
    (channel : Channel) (day : Nat) :
    (shop.alerts ++ [Alert.mk waiter.channel now]).countP (Alert.on channel day) =
      (shop.updateWaiter index fun waiter => { waiter with alertedAt := some now }).countP
        (Waiter.alertedOn channel day) := by
  have before : waiter.alertedOn channel day = false := by
    rw [Waiter.alertedOn, unalerted]
    exact Bool.and_false _
  have counted := Pointwise.countP_modify (p := Waiter.alertedOn channel day)
    (f := fun waiter => { waiter with alertedAt := some now }) there
  rw [before] at counted
  rw [List.countP_append, List.countP_singleton, capped.books, updateWaiter]
  exact counted.symm

/-- A message that goes out in time for a queued row: the row has loaded the day already. -/
theorem sent (capped : Capped shop) (later : shop.clock ≤ now) {index : Nat} {send : Sending}
    {waiter : Waiter} {messageId : String} {due : Time} (found : shop.sends[index]? = some send)
    (unsent : send.isSent = false) (there : shop.waiters[send.waiter]? = some waiter)
    (queued : waiter.status = .queued) (dueAt : waiter.queuedAt = some due)
    (today : startOfDay now ≤ due) :
    Capped {
      shop with
      sends := shop.sends.set index { send with outcome := some (.sent messageId) }
      waiters := shop.updateWaiter send.waiter fun waiter => { waiter with alertedAt := some now }
      alerts := shop.alerts ++ [{ channel := waiter.channel, at_ := now }]
      clock := now } := by
  have unalerted : waiter.alertedAt = none := capped.unsent_unalerted found unsent waiter there
  have within := capped.timed waiter (List.mem_of_getElem? there)
  have loads (channel : Channel) (since : Time) (before : since ≤ startOfDay now) :=
    loads_alerted there unalerted queued dueAt (before.trans (startOfDay_le now))
      (before.trans today) channel
  have books := capped.books_alerted now there unalerted
  have elsewhere : ∀ other ∈ shop.sends, other.waiter ≠ send.waiter →
      other ∈ shop.sends.set index { send with outcome := some (.sent messageId) } := by
    intro other mem different
    apply mem_set_of_ne found mem
    rintro rfl
    exact different rfl
  constructor
  · intro channel day
    dsimp only
    by_cases on : Alert.on channel day { channel := waiter.channel, at_ := now } = true
    · rw [books]
      rw [Alert.on, Bool.and_eq_true, decide_eq_true_eq, decide_eq_true_eq] at on
      rw [← on.2]
      refine Nat.le_trans (List.countP_mono_left fun row _ => Waiter.loads_of_alertedOn) ?_
      rw [loads channel _ (Nat.le_refl _)]
      exact capped.load_later later channel
    · rw [List.countP_append, List.countP_singleton, if_neg on]
      exact capped.within channel day
  · exact books
  · intro channel
    dsimp only
    rw [loads channel _ (Nat.le_refl _)]
    exact capped.load_later later channel
  · intro check held
    rcases capped.room check held with ⟨read, room⟩
    refine ⟨read.trans later, fun channel left_ => ?_⟩
    have same := loads channel (startOfDay check.asOf) (startOfDay_mono (read.trans later))
    dsimp only
    rw [same]
    exact room channel left_
  · have kept : (shop.sends.set index { send with outcome := some (.sent messageId) }).map
        (·.waiter) = shop.sends.map (·.waiter) := waiters_set found rfl
    exact kept ▸ capped.single
  · intro other mem
    rcases other_of_set capped.single found mem with rfl | ⟨before, different⟩
    · refine ⟨_, updateWaiter_self there, ?_⟩
      exact ⟨queued, Option.some_ne_none _⟩
    · rcases capped.flying other before with ⟨row, was, flying⟩
      exact ⟨row, (updateWaiter_ne different).trans was, flying⟩
  · intro place row was alerted
    by_cases same : place = send.waiter
    · have place := (List.getElem?_eq_some_iff.mp found).1
      exact Or.inr ⟨_, List.mem_set place _, same.symm, rfl⟩
    · rw [updateWaiter_ne same] at was
      rcases capped.standing place row was alerted with notified | ⟨other, mem, goes, sent⟩
      · exact Or.inl notified
      · exact Or.inr ⟨other, elsewhere other mem (goes ▸ same), goes, sent⟩
  · apply capped.timed_updateWaiter later there
    · refine ⟨nofun, ?_, ?_⟩
      · intro _
        refine ⟨within.1.unalerted unalerted, due, dueAt, ?_⟩
        rintro at_ ⟨⟩
        exact today
      · intro notified
        have notified : waiter.status = .notified := notified
        rw [queued] at notified
        cases notified
    · rintro at_ ⟨⟩
      exact Nat.le_refl _

/-- The record of a message that has gone out. -/
theorem recorded (capped : Capped shop) (later : shop.clock ≤ now) {index : Nat} {send : Sending}
    {messageId : String} (found : shop.sends[index]? = some send)
    (answered : send.outcome = some (.sent messageId)) :
    Capped {
      shop with
      sends := shop.sends.eraseIdx index
      waiters := shop.updateWaiter send.waiter fun waiter =>
        { waiter with
          status := .notified
          messageId := some messageId
          notifiedAt := some now
          updatedAt := now }
      clock := now } := by
  have sent : send.isSent = true := by rw [Sending.isSent, answered]
  rcases capped.flying send (List.mem_of_getElem? found) with ⟨waiter, there, flying⟩
  rw [if_pos sent] at flying
  rcases flying with ⟨queued, alerted⟩
  have within := capped.timed waiter (List.mem_of_getElem? there)
  have loads : ∀ channel since,
      (shop.updateWaiter send.waiter fun waiter =>
        { waiter with
          status := .notified
          messageId := some messageId
          notifiedAt := some now
          updatedAt := now }).countP (Waiter.loads channel since) =
        shop.waiters.countP (Waiter.loads channel since) := by
    intro channel since
    apply countP_updateWaiter there
    rw [Waiter.loads, Waiter.loads]
    dsimp only
    cases went : waiter.alertedAt with
    | none => exact absurd went alerted
    | some at_ => rfl
  constructor
  · exact capped.within
  · intro channel day
    exact (capped.books channel day).trans (countP_updateWaiter there rfl).symm
  · intro channel
    dsimp only
    rw [loads]
    exact capped.load_later later channel
  · intro check held
    rcases capped.room check held with ⟨read, room⟩
    refine ⟨read.trans later, fun channel left_ => ?_⟩
    dsimp only
    rw [loads]
    exact room channel left_
  · exact capped.single.sublist ((List.eraseIdx_sublist ..).map _)
  · intro other mem
    rcases other_of_eraseIdx capped.single found mem with ⟨before, different⟩
    rcases capped.flying other before with ⟨row, was, flying⟩
    exact ⟨row, (updateWaiter_ne different).trans was, flying⟩
  · intro place row was went
    by_cases same : place = send.waiter
    · subst same
      rw [updateWaiter_self there] at was
      cases was
      exact Or.inl rfl
    · rw [updateWaiter_ne same] at was
      rcases capped.standing place row was went with notified | ⟨other, mem, goes, sent⟩
      · exact Or.inl notified
      · refine Or.inr ⟨other, mem_eraseIdx_of_ne found mem ?_, goes, sent⟩
        rintro rfl
        exact same goes.symm
  · have past : ∀ at_ ∈ waiter.alertedAt, at_ ≤ now := fun at_ went =>
      (within.2 at_ went).trans later
    apply capped.timed_updateWaiter later there
    · refine ⟨fun missing => absurd missing alerted, nofun, ?_⟩
      exact fun _ at_ went => ⟨now, rfl, past at_ went⟩
    · exact past

theorem map_calm {f : Waiter → Waiter}
    (calm : ∀ waiter ∈ shop.waiters, Waiter.Calm waiter (f waiter)) :
    List.Forall₂ Waiter.Calm shop.waiters (shop.waiters.map f) :=
  List.forall₂_map_right_iff.mpr (List.forall₂_same.mpr calm)

/-- A step that maps the rows calmly, and does nothing else. -/
theorem mapped (capped : Capped shop) (later : shop.clock ≤ now) {f : Waiter → Waiter}
    (calm : ∀ waiter ∈ shop.waiters, Waiter.Calm waiter (f waiter)) :
    Capped { shop with waiters := shop.waiters.map f, clock := now } :=
  capped.calmRows later (map_calm calm) rfl (fun _ there => Or.inl there) rfl rfl

theorem idle (capped : Capped shop) (later : shop.clock ≤ now) :
    Capped { shop with clock := now } :=
  capped.calmRows later (sameRows _) rfl (fun _ there => Or.inl there) rfl rfl

theorem putBack (capped : Capped shop) (later : shop.clock ≤ now) {index : Nat} {soldOut : Bool} :
    Capped (shop.step (now, .putBack index soldOut)) := by
  have done : shop.step (now, .putBack index soldOut) =
      { shop.putBack index soldOut with clock := now } := rfl
  rw [done, Shop.putBack.eq_def]
  split
  · exact capped.idle later
  · rename_i send found
    split
    · rename_i unanswered
      have unsent : send.isSent = false := by rw [Sending.isSent, unanswered]
      have unalerted := capped.unsent_unalerted found unsent
      exact capped.endsUnsent later found unsent
        (modify_calm fun waiter there => putBack_calm (unalerted waiter there)) rfl rfl rfl rfl
    · exact capped.idle later

theorem message (capped : Capped shop) (later : shop.clock ≤ now) {index : Nat} {outcome : Outcome}
    (paced : shop.Paced (now, .message index outcome)) :
    Capped (shop.step (now, .message index outcome)) := by
  have done : shop.step (now, .message index outcome) =
      { shop.message index outcome now with clock := now } := rfl
  rw [done, Shop.message.eq_def]
  split
  · exact capped.idle later
  · rename_i send found
    split
    · rename_i unanswered
      have unsent : send.isSent = false := by rw [Sending.isSent, unanswered]
      rcases capped.flying send (List.mem_of_getElem? found) with ⟨waiter, there, -⟩
      dsimp only
      rw [there]
      cases outcome with
      | sent messageId =>
          rcases paced send found unanswered waiter there with ⟨queued, due, dueAt, today⟩
          exact capped.sent later found unsent there queued dueAt today
      | refused reason => refine capped.refused later found unsent ?_ ?_ rfl rfl rfl rfl rfl <;> rfl
    · exact capped.idle later

theorem finish (capped : Capped shop) (later : shop.clock ≤ now) {index : Nat} :
    Capped (shop.step (now, .finish index)) := by
  have done : shop.step (now, .finish index) = { shop.finish index now with clock := now } := rfl
  rw [done, Shop.finish.eq_def]
  split
  · exact capped.idle later
  · rename_i send found
    dsimp only
    split
    · exact capped.idle later
    · rename_i messageId answered
      exact capped.recorded later found answered
    · rename_i reason answered
      have unsent : send.isSent = false := by rw [Sending.isSent, answered]
      have unalerted := capped.unsent_unalerted found unsent
      split
      · exact capped.endsUnsent later found unsent (sameRows _) rfl rfl rfl rfl
      · split
        · exact capped.endsUnsent later found unsent
            (modify_calm fun waiter there => putBack_calm (unalerted waiter there)) rfl rfl rfl rfl
        · refine capped.endsUnsent later found unsent (modify_calm fun waiter there => ?_)
            rfl rfl rfl rfl
          exact .of_status (unalerted waiter there) rfl rfl rfl
            ⟨WaiterStatus.noConfusion, WaiterStatus.noConfusion⟩

theorem retentionWrite (capped : Capped shop) (later : shop.clock ≤ now) {index : Nat}
    (paced : shop.Paced (now, .retentionWrite index)) :
    Capped (shop.step (now, .retentionWrite index)) := by
  have done : shop.step (now, .retentionWrite index) =
      { shop.retentionWrite index with clock := now } := rfl
  rw [done, Shop.retentionWrite.eq_def]
  split
  · exact capped.idle later
  · rename_i retention found
    refine capped.calmRows later ?_ rfl (fun _ there => Or.inl there) rfl rfl
    dsimp only
    rw [List.mapIdx_mapIdx]
    apply Pointwise.forall₂_mapIdx
    intro row waiter there
    have closed : Waiter.Calm waiter (if row ∈ retention.closing then
        { waiter with status := .closed, updatedAt := retention.asOf, stopped := true }
        else waiter) := by
      split
      · rename_i closes
        exact .of_status (paced retention found row closes waiter there) rfl rfl rfl
          ⟨WaiterStatus.noConfusion, WaiterStatus.noConfusion⟩
      · exact .refl waiter
    exact closed.trans (contact_calm _ _)

section Fill
variable {check : Check} {alerted : Option Nat → Nat} {locked : List Nat}

theorem take_of (room : Room) (taken channel : Channel) :
    (room.take taken).of channel = room.of channel - if taken = channel then 1 else 0 := by
  cases taken <;> cases channel <;> simp [Room.take, Room.of]

/-- A check queues rows that wait, and leaves the others. -/
theorem fill_still {waiters : List Waiter} (index : Nat) (queued : List (Option Nat)) (room : Room)
    (unalerted : ∀ waiter ∈ waiters, waiter.status = .waiting → waiter.alertedAt = none) :
    List.Forall₂ Waiter.Still waiters (check.fill alerted locked index queued room waiters) := by
  induction waiters generalizing index queued room with
  | nil => exact .nil
  | cons waiter rest ih =>
      have later : ∀ waiter ∈ rest, waiter.status = .waiting → waiter.alertedAt = none :=
        fun other mem => unalerted other (List.mem_cons_of_mem _ mem)
      rw [Check.fill]
      split
      · rename_i queues
        have queues := queues.2
        simp only [Check.queues, Bool.and_eq_true, decide_eq_true_eq] at queues
        have unalerted := unalerted waiter List.mem_cons_self queues.1.1.1.2
        refine .cons ⟨rfl, rfl, fun alerted => absurd unalerted alerted, fun timed => ?_⟩
          (ih _ _ _ later)
        refine ⟨timed.unalerted, fun _ => ⟨timed.unalerted unalerted, _, rfl, ?_⟩, nofun⟩
        intro at_ went
        have went : waiter.alertedAt = some at_ := went
        rw [unalerted] at went
        cases went
      · exact .cons (Waiter.Calm.refl waiter).toStill (ih _ _ _ later)

/-- A check adds to the load of a channel at most the room that it found there. -/
theorem fill_load {waiters : List Waiter} (index : Nat) (queued : List (Option Nat)) (room : Room)
    (channel : Channel) (since : Time) :
    (check.fill alerted locked index queued room waiters).countP (Waiter.loads channel since) ≤
      waiters.countP (Waiter.loads channel since) + (room.of channel).toNat := by
  induction waiters generalizing index queued room with
  | nil => exact Nat.zero_le _
  | cons waiter rest ih =>
      rw [Check.fill]
      split
      · rename_i queues
        have queues := queues.2
        simp only [Check.queues, Bool.and_eq_true, decide_eq_true_eq] at queues
        have ih := ih (index + 1) (queued ++ [waiter.variantId]) (room.take waiter.channel)
        rw [take_of] at ih
        rw [List.countP_cons, List.countP_cons]
        by_cases same : waiter.channel = channel
        · have room : 0 < room.of channel := same ▸ queues.2
          rw [if_pos same] at ih
          split <;> split <;> omega
        · rw [if_neg same] at ih
          have other : ∀ row : Waiter, row.channel = waiter.channel →
              row.loads channel since = false := by
            intro row still
            rw [Waiter.loads, still, decide_eq_false same]
            rfl
          rw [other waiter rfl, other]
          · omega
          · rfl
      · have ih := ih (index + 1) queued room
        rw [List.countP_cons, List.countP_cons]
        omega

end Fill

theorem checkCommit (capped : Capped shop) (later : shop.clock ≤ now) {locked : List Nat} :
    Capped (shop.step (now, .checkCommit locked)) := by
  have done : shop.step (now, .checkCommit locked) =
      { shop.checkCommit locked with clock := now } := rfl
  rw [done, Shop.checkCommit.eq_def]
  split
  · exact capped.idle later
  · rename_i check held
    rcases capped.room check held with ⟨read, roomy⟩
    refine capped.still later ?_ ?_ nofun capped.single ?_ ?_ rfl rfl
    · apply fill_still
      intro waiter mem waits
      exact capped.unalerted mem (by rw [waits]; exact ⟨nofun, nofun⟩)
    · intro channel
      dsimp only
      by_cases left_ : 0 < check.room.of channel
      · have before : startOfDay check.asOf ≤ startOfDay now := startOfDay_mono (read.trans later)
        have roomy := roomy channel left_
        refine Nat.le_trans (List.countP_mono_left fun row _ => Waiter.loads_mono before) ?_
        refine Nat.le_trans (fill_load 0 [] check.room channel (startOfDay check.asOf)) ?_
        omega
      · have spent : (check.room.of channel).toNat = 0 :=
          Int.toNat_eq_zero.mpr (Int.not_lt.mp left_)
        have load := capped.load_later later channel
        refine Nat.le_trans (fill_load 0 [] check.room channel (startOfDay now)) ?_
        rw [spent]
        exact load
    · exact fun send mem => Or.inl ⟨send, mem, rfl, rfl⟩
    · exact fun send mem sent => ⟨send, mem, rfl, sent⟩

/-- What every step in order and on time keeps. -/
theorem step (capped : Capped shop) {event : ShopEvent} (ordered : shop.Ordered (now, event))
    (paced : shop.Paced (now, event)) : Capped (shop.step (now, event)) := by
  rcases ordered with ⟨later, read⟩
  cases event with
  | signUp productId variantId channel contact => exact capped.signUp later
  | checkBegin productId offer usable asOf => exact capped.checkBegin later read
  | checkCommit locked => exact capped.checkCommit later
  | checkAbort => exact capped.calmRows later (sameRows _) rfl nofun rfl rfl
  | begin_ index => exact capped.begin_ later
  | putBack index soldOut => exact capped.putBack later
  | message index outcome => exact capped.message later paced
  | finish index => exact capped.finish later
  | redeliver index =>
      have done : shop.step (now, .redeliver index) = { shop.redeliver index with clock := now } :=
        rfl
      rw [done, redeliver.eq_def]
      split
      · exact capped.idle later
      · exact capped.calmRows later (sameRows _) rfl (fun _ there => Or.inl there) rfl rfl
  | lose index =>
      exact capped.calmRows later (sameRows _) rfl (fun _ there => Or.inl there) rfl rfl
  | sweep asOf =>
      apply capped.mapped later
      intro waiter mem
      split
      · rename_i due
        exact putBack_calm (paced waiter mem due)
      · exact .refl waiter
  | unsubscribe contact =>
      apply capped.mapped later
      intro waiter mem
      split
      · rename_i theirs
        exact stop_calm (Or.inl rfl) (paced waiter mem theirs)
      · exact .refl waiter
  | closeProduct productId =>
      apply capped.mapped later
      intro waiter mem
      split
      · rename_i closes
        exact stop_calm (Or.inr rfl) (paced waiter mem closes)
      · exact .refl waiter
  | retentionRead asOf =>
      exact capped.calmRows later (sameRows _) rfl (fun _ there => Or.inl there) rfl rfl
  | retentionWrite index => exact capped.retentionWrite later paced

end Capped

theorem capped_init (caps : Caps) : Capped { caps := caps } where
  within := by
    intro channel day
    rw [List.countP_nil]
    exact Nat.zero_le _
  books := fun _ _ => rfl
  load := by
    intro channel
    rw [List.countP_nil]
    exact Nat.zero_le _
  room := fun _ held => absurd held (Option.not_mem_none _)
  single := List.nodup_nil
  flying := fun _ mem => absurd mem List.not_mem_nil
  standing := fun _ _ found => by cases found
  timed := fun _ mem => absurd mem List.not_mem_nil

/-- No channel sends more alerts in a day than its cap, in a run in which each message goes out no
later than on the day that its row was due on. -/
theorem daily_cap {caps : Caps} {labels : List (Time × ShopEvent)}
    (ordered : Run.Guarded step Ordered { caps := caps } labels)
    (paced : Run.Guarded step Paced { caps := caps } labels) :
    Run.Always step WithinCaps { caps := caps } labels := by
  have keeps : ∀ shop label, Capped shop → Ordered shop label ∧ Paced shop label →
      Capped (shop.step label) := fun _ _ capped guard => capped.step guard.1 guard.2
  have always := Run.always_of_guarded keeps (capped_init caps) (ordered.and paced)
  exact always.mono fun _ capped => capped.within

def offer : Offer := { sellable := true, variants := [⟨1, true, 5⟩] }

/-- Two shoppers wait for a product, one alert may go out each day, and a check has queued the
first one's. -/
def oneADay (asOf : Time) : List (Time × ShopEvent) :=
  [(0, .signUp 1 none .email "a@b.eg"), (0, .signUp 1 none .email "c@d.eg"),
    (asOf, .checkBegin 1 offer true asOf), (asOf, .checkCommit [])]

/-- The next day's check, and the send of the alert that it queues. -/
def nextDay : List (Time × ShopEvent) :=
  [(Calendar.dayLength + seconds 5, .checkBegin 1 offer true (Calendar.dayLength + seconds 5)),
    (Calendar.dayLength + seconds 5, .checkCommit [])]

def send (second : Nat) (messageId : String) : List (Time × ShopEvent) :=
  [(seconds second, .begin_ 0), (seconds second, .message 0 (.sent messageId)),
    (seconds second, .finish 0)]

/-- An alert a day: the second one waits for the next day's check. -/
theorem alerts_of_two_days :
    Run.Always step WithinCaps { caps := { whatsapp := 200, email := 1 } }
      (oneADay 1 ++ send 31 "m1" ++ nextDay ++ send 86440 "m2") :=
  daily_cap (by decide +kernel) (by decide +kernel)

/-- An alert that is due half a minute before midnight goes out after it: the new day's check does
not count it, and queues another. -/
theorem delayed_alert_exceeds_cap :
    ¬ Run.Always step WithinCaps { caps := { whatsapp := 200, email := 1 } }
      (oneADay (seconds 86340) ++ nextDay ++ send 86410 "m1" ++ send 86441 "m2") := by
  intro always
  have within := always.last .email 1
  exact absurd within (by decide +kernel)

end Shop
end Numu.BackInStock
