import Mathlib.Data.List.Induction
import Numu.Foundation.Run
import Numu.Overage.Sweep

/-!
# What a period is billed

The relay keeps the amount that came first under a key. A period is billed in full if that
amount was the last one too, and once if no other period's record reaches its messages.
-/

namespace Numu.Overage
open Numu.Orders (Time)

namespace Store

/-- What the records under a key come to. -/
def billedFor (store : Store) (key : Int) : Nat :=
  ((store.records.filter (·.idempotencyKey = key)).map (·.amountCents)).sum

def charged (store : Store) (key : Int) : Bool := store.records.any (·.idempotencyKey = key)

/-- The periods that no later sweep bills: those that are charged, and those behind. -/
def settled (store : Store) : List Period :=
  store.records.map (·.period) ++ store.behind.filter fun period => !store.charged period.periodStart

/-- Each settled period is billed the rate for each message above the cap, and no message is
billed in two records. -/
structure BilledExactly (store : Store) : Prop where
  totals : ∀ period ∈ store.settled,
    store.billedFor period.periodStart =
      overageRateCents * (period.sentCount store.messages - period.cap)
  once : ∀ index, store.records.countP (·.period.bills store.messages index) ≤ 1

/-- A message is logged in a settled period only below the cap of one that is not charged; a period
that is left behind is charged or within its cap; and a record's messages are in no other. -/
def InFull (store : Store) : StoreEvent → Prop
  | .install _ => True
  | .log message =>
      ∀ period ∈ store.settled, period.counts message = true →
        store.charged period.periodStart = false ∧
          period.sentCount store.messages < period.cap
  | .sync subscription =>
      ∀ old ∈ store.subscriptions.find?
          (·.shopifySubscriptionId = subscription.shopifySubscriptionId),
        ∀ period ∈ leaves old subscription, store.charged period.periodStart = false →
          period.sentCount store.messages ≤ period.cap
  | .sweep shopifySubscriptionId now answer =>
      ∀ subscription ∈ store.subscriptions.find? (·.shopifySubscriptionId = shopifySubscriptionId),
        ∀ cap ∈ subscription.sweptCap, store.shopifyDomain ≠ none →
          let period := Period.endingAt (subscription.currentPeriodEnd.getD now) cap
          cap < period.sentCount store.messages → store.charged period.periodStart = false →
            if answer = .recorded then
              ∀ index, period.bills store.messages index = true →
                ∀ record ∈ store.records, record.period.bills store.messages index = false
            else subscription.currentPeriodEnd ≠ none

/-- What a run has kept: each record was made for an overage. -/
structure Booked (store : Store) : Prop where
  exactly : store.BilledExactly
  exceeded : ∀ record ∈ store.records,
    record.period.cap < record.period.sentCount store.messages

section Totals
variable {store : Store} {key : Int}

theorem charged_of_mem {record : UsageRecord} (mem : record ∈ store.records) :
    store.charged record.period.periodStart = true :=
  List.any_eq_true.mpr ⟨record, mem, decide_eq_true rfl⟩

theorem billedFor_of_uncharged (uncharged : store.charged key = false) : store.billedFor key = 0 := by
  have none_ : store.records.filter (·.idempotencyKey = key) = [] := by
    rw [List.filter_eq_nil_iff]
    exact List.any_eq_false.mp uncharged
  rw [billedFor, none_]
  rfl

theorem mem_settled {period : Period} :
    period ∈ store.settled ↔
      (∃ record ∈ store.records, record.period = period) ∨
        (period ∈ store.behind ∧ store.charged period.periodStart = false) := by
  rw [settled, List.mem_append, List.mem_map, List.mem_filter, Bool.not_eq_true']

end Totals

/-- A message that is logged later changes nothing above a period's cap before it. -/
theorem bills_append (period : Period) (messages : List Message) (message : Message)
    {index : Nat} (before : index < messages.length) :
    period.bills (messages ++ [message]) index = period.bills messages index := by
  rw [Period.bills, Period.bills, List.getElem?_append_left before,
    List.take_append_of_le_length (Nat.le_of_lt before)]

theorem sentCount_append (period : Period) (messages : List Message) (message : Message) :
    period.sentCount (messages ++ [message]) =
      period.sentCount messages + if period.counts message then 1 else 0 := by
  rw [Period.sentCount, List.countP_append, List.countP_singleton, Period.sentCount]

/-- A period's record bills as many messages as are above its cap. -/
theorem billed_count (period : Period) (messages : List Message) :
    (List.range messages.length).countP (period.bills messages) = period.overage messages := by
  induction messages using List.reverseRecOn with
  | nil =>
      rw [Period.overage, Period.sentCount, List.countP_nil, Nat.zero_sub]
      rfl
  | append_singleton messages message ih =>
      have before : (List.range messages.length).countP (period.bills (messages ++ [message])) =
          (List.range messages.length).countP (period.bills messages) := by
        apply List.countP_congr
        intro index mem
        rw [bills_append period messages message (List.mem_range.mp mem)]
      have last : period.bills (messages ++ [message]) messages.length =
          (period.counts message && period.cap ≤ period.sentCount messages) := by
        rw [Period.bills, List.getElem?_concat_length, List.take_left, Option.any_some]
      rw [List.length_append, List.length_singleton, List.range_succ, List.countP_append,
        List.countP_singleton, before, ih, last, Period.overage, Period.overage, sentCount_append]
      cases period.counts message with
      | false => rfl
      | true =>
          simp only [Bool.true_and, decide_eq_true_eq, if_true]
          split <;> omega

namespace Booked
variable {store after : Store}

theorem log (booked : Booked store) {message : Message} (inFull : store.InFull (.log message)) :
    Booked (store.step (.log message)) where
  exactly := {
    totals := by
      intro period settled
      have before := booked.exactly.totals period settled
      have counted := sentCount_append period store.messages message
      have billed : (store.step (.log message)).billedFor period.periodStart =
          store.billedFor period.periodStart := rfl
      have logged : (store.step (.log message)).messages = store.messages ++ [message] := rfl
      rw [billed, before, logged, counted]
      split
      · rename_i counts
        have within := (inFull period settled counts).2
        rw [Nat.sub_eq_zero_of_le (Nat.le_of_lt within), Nat.sub_eq_zero_of_le within]
      · rfl
    once := by
      intro index
      have records : (store.step (.log message)).records = store.records := rfl
      have logged : (store.step (.log message)).messages = store.messages ++ [message] := rfl
      rw [records, logged]
      rcases Nat.lt_or_ge index store.messages.length with before | new
      · have same : ∀ record ∈ store.records,
            (record.period.bills (store.messages ++ [message]) index = true ↔
              record.period.bills store.messages index = true) := by
          intro record mem
          rw [bills_append record.period store.messages message before]
        rw [List.countP_congr same]
        exact booked.exactly.once index
      · have none_ : store.records.countP
            (·.period.bills (store.messages ++ [message]) index) = 0 := by
          rw [List.countP_eq_zero]
          intro record mem bills
          rw [Period.bills, Bool.and_eq_true, Option.any_eq_true,
            List.getElem?_append_right new] at bills
          rcases bills with ⟨⟨last, found, counts⟩, -⟩
          have last_ : last = message := by
            rw [List.getElem?_singleton] at found
            split at found
            · exact (Option.some.inj found).symm
            · cases found
          have settled := mem_settled.mpr (Or.inl ⟨record, mem, rfl⟩)
          have uncharged := (inFull record.period settled (last_ ▸ counts)).1
          rw [charged_of_mem mem] at uncharged
          cases uncharged
        rw [none_]
        exact Nat.zero_le 1 }
  exceeded := by
    intro record mem
    have logged : (store.step (.log message)).messages = store.messages ++ [message] := rfl
    rw [logged, sentCount_append]
    exact Nat.lt_add_right _ (booked.exceeded record mem)

/-- A step that makes no record, and may leave periods behind that are charged or within their
cap. -/
theorem leave (booked : Booked store) (records : after.records = store.records)
    (messages : after.messages = store.messages)
    (behind : ∀ period ∈ after.behind, period ∈ store.behind ∨
      (store.charged period.periodStart = false →
        period.sentCount store.messages ≤ period.cap)) : Booked after where
  exactly := {
    totals := by
      have billed : ∀ key, after.billedFor key = store.billedFor key := fun key => by
        rw [billedFor, billedFor, records]
      have charged : ∀ key, after.charged key = store.charged key := fun key => by
        rw [Store.charged, Store.charged, records]
      intro period settled
      rw [billed, messages]
      rcases mem_settled.mp settled with ⟨record, mem, rfl⟩ | ⟨mem, uncharged⟩
      · rw [records] at mem
        exact booked.exactly.totals _ (mem_settled.mpr (Or.inl ⟨record, mem, rfl⟩))
      · rw [charged] at uncharged
        rcases behind period mem with before | within
        · exact booked.exactly.totals period (mem_settled.mpr (Or.inr ⟨before, uncharged⟩))
        · rw [billedFor_of_uncharged uncharged, Nat.sub_eq_zero_of_le (within uncharged),
            Nat.mul_zero]
    once := by
      rw [records, messages]
      exact booked.exactly.once }
  exceeded := by
    rw [records, messages]
    exact booked.exceeded

/-- A record of an overage, under a key that has none, of messages that no other record bills. -/
theorem record (booked : Booked store) {record : UsageRecord}
    (fresh : store.charged record.period.periodStart = false)
    (exceeded : record.period.cap < record.period.sentCount store.messages)
    (amount : record.amountCents = record.period.amountCents store.messages)
    (apart : ∀ index, record.period.bills store.messages index = true →
      ∀ other ∈ store.records, other.period.bills store.messages index = false)
    (records : after.records = store.records ++ [record])
    (messages : after.messages = store.messages)
    (behind : ∀ period ∈ after.behind, period ∈ store.behind ∨ period = record.period) :
    Booked after := by
  have charged : ∀ key, after.charged key =
      (store.charged key || decide (record.idempotencyKey = key)) := fun key => by
    rw [Store.charged, Store.charged, records, List.any_append, List.any_cons, List.any_nil,
      Bool.or_false]
  have billed : ∀ key, after.billedFor key =
      store.billedFor key + if record.idempotencyKey = key then record.amountCents else 0 := by
    intro key
    rw [billedFor, billedFor, records, List.filter_append, List.map_append, List.sum_append,
      List.filter_singleton]
    by_cases same : record.idempotencyKey = key
    · rw [decide_eq_true same, if_pos same]
      rfl
    · rw [decide_eq_false same, if_neg same]
      rfl
  have kept : ∀ period ∈ store.settled, record.idempotencyKey ≠ period.periodStart →
      after.billedFor period.periodStart =
        overageRateCents * (period.sentCount after.messages - period.cap) := by
    intro period settled other
    rw [billed, if_neg other, messages]
    exact booked.exactly.totals period settled
  have distinct : ∀ other ∈ store.records, record.idempotencyKey ≠ other.idempotencyKey := by
    intro other mem same
    have there := charged_of_mem mem
    have same : record.period.periodStart = other.period.periodStart := same
    rw [← same, fresh] at there
    cases there
  constructor
  · constructor
    · intro period settled
      rcases mem_settled.mp settled with ⟨other, mem, rfl⟩ | ⟨mem, uncharged⟩
      · rw [records] at mem
        rcases List.mem_append.mp mem with before | new
        · exact kept _ (mem_settled.mpr (Or.inl ⟨other, before, rfl⟩)) (distinct other before)
        · have same : record.idempotencyKey = record.period.periodStart := rfl
          rw [List.mem_singleton.mp new, billed, billedFor_of_uncharged fresh, messages,
            if_pos same, amount, Nat.zero_add]
          exact Nat.mul_comm ..
      · rw [charged, Bool.or_eq_false_iff] at uncharged
        have other := of_decide_eq_false uncharged.2
        rcases behind period mem with before | rfl
        · exact kept period (mem_settled.mpr (Or.inr ⟨before, uncharged.1⟩)) other
        · exact absurd rfl other
    · intro index
      rw [records, messages, List.countP_append, List.countP_singleton]
      split
      · rename_i bills
        have none_ : store.records.countP (·.period.bills store.messages index) = 0 := by
          rw [List.countP_eq_zero]
          intro other mem also
          rw [apart index bills other mem] at also
          cases also
        rw [none_]
      · exact booked.exactly.once index
  · intro other mem
    rw [records] at mem
    rw [messages]
    rcases List.mem_append.mp mem with before | new
    · exact booked.exceeded other before
    · rw [List.mem_singleton.mp new]
      exact exceeded

end Booked

section Sweeps
variable {store : Store} {subscription : Subscription} {now : Time} {answer : RelayAnswer}
  {cap : Nat} {domain : String}

/-- What the sweep does for a subscription that it bills. -/
theorem bill_eq (swept : subscription.sweptCap = some cap)
    (installed : store.shopifyDomain = some domain) {period : Period}
    (there : period = Period.endingAt (subscription.currentPeriodEnd.getD now) cap) :
    store.bill subscription now answer = {
      store with
      behind :=
        if subscription.currentPeriodEnd = none then store.behind ++ [period] else store.behind
      records :=
        if cap < period.sentCount store.messages ∧ answer = .recorded ∧
            store.charged period.periodStart = false then
          store.records ++ [⟨domain, period, period.amountCents store.messages⟩]
        else store.records } := by
  rw [bill, swept, installed]
  dsimp only
  rw [← there]
  have skip : ¬ (cap < period.sentCount store.messages ∧ answer = .recorded ∧
      store.charged period.periodStart = false) →
        store.records = if cap < period.sentCount store.messages ∧ answer = .recorded ∧
            store.charged period.periodStart = false then
          store.records ++ [⟨domain, period, period.amountCents store.messages⟩]
        else store.records := fun no => (if_neg no).symm
  by_cases within : period.sentCount store.messages ≤ cap
  · rw [if_pos within, ← skip fun facts => absurd facts.1 (Nat.not_lt.mpr within)]
  · rw [if_neg within]
    cases answer with
    | recorded =>
        dsimp only
        have keyed : store.postUsage ⟨domain, period, period.amountCents store.messages⟩ =
            if store.charged period.periodStart then store.records
            else store.records ++ [⟨domain, period, period.amountCents store.messages⟩] := rfl
        rw [keyed]
        cases charged : store.charged period.periodStart with
        | true =>
            rw [charged] at skip
            rw [← skip fun facts => Bool.noConfusion facts.2.2]
            rfl
        | false =>
            have exceeded : cap < period.sentCount store.messages ∧
                RelayAnswer.recorded = .recorded ∧ false = false :=
              ⟨Nat.lt_of_not_le within, rfl, rfl⟩
            rw [if_pos exceeded]
            rfl
    | configError | invalidPayload | unavailable =>
        rw [← skip fun facts => RelayAnswer.noConfusion facts.2.1]

end Sweeps

section Steps
variable {store : Store}

theorem booked_sync (booked : Booked store) {subscription : Subscription}
    (inFull : store.InFull (.sync subscription)) : Booked (store.step (.sync subscription)) := by
  rw [step, sync.eq_def]
  split
  · rename_i old found
    refine booked.leave rfl rfl fun period mem => ?_
    rcases List.mem_append.mp mem with before | left_
    · exact Or.inl before
    · exact Or.inr (inFull old found period (Option.mem_toList.mp left_))
  · exact booked.leave rfl rfl fun _ mem => Or.inl mem

theorem booked_bill (booked : Booked store) {subscription : Subscription} {now : Time}
    {answer : RelayAnswer}
    (inFull : ∀ cap ∈ subscription.sweptCap, store.shopifyDomain ≠ none →
      let period := Period.endingAt (subscription.currentPeriodEnd.getD now) cap
      cap < period.sentCount store.messages → store.charged period.periodStart = false →
        if answer = .recorded then
          ∀ index, period.bills store.messages index = true →
            ∀ record ∈ store.records, record.period.bills store.messages index = false
        else subscription.currentPeriodEnd ≠ none) : Booked (store.bill subscription now answer) := by
  cases swept : subscription.sweptCap with
  | none =>
      rw [bill, swept]
      exact booked
  | some cap =>
      cases installed : store.shopifyDomain with
      | none =>
          rw [bill, swept, installed]
          exact booked
      | some domain =>
          have inFull := inFull cap swept (by rw [installed]; exact Option.some_ne_none domain)
          rw [bill_eq swept installed rfl]
          split
          · rename_i facts
            rcases facts with ⟨exceeded, recorded, fresh⟩
            have apart := inFull exceeded fresh
            rw [if_pos recorded] at apart
            let record : UsageRecord :=
              ⟨domain, Period.endingAt (subscription.currentPeriodEnd.getD now) cap,
                (Period.endingAt (subscription.currentPeriodEnd.getD now) cap).amountCents
                  store.messages⟩
            have fresh : store.charged record.period.periodStart = false := fresh
            refine booked.record fresh exceeded rfl apart rfl rfl fun period mem => ?_
            dsimp only at mem
            split at mem
            · exact (List.mem_append.mp mem).imp_right List.mem_singleton.mp
            · exact Or.inl mem
          · rename_i unrecorded
            refine booked.leave rfl rfl fun period mem => ?_
            dsimp only at mem
            split at mem
            · rename_i missing
              refine (List.mem_append.mp mem).imp_right fun window uncharged => ?_
              rw [List.mem_singleton.mp window] at uncharged ⊢
              by_contra exceeded
              have exceeded := Nat.lt_of_not_le exceeded
              have answered : answer ≠ .recorded := fun recorded =>
                unrecorded ⟨exceeded, recorded, uncharged⟩
              have stored := inFull exceeded uncharged
              rw [if_neg answered] at stored
              exact stored missing
            · exact Or.inl mem

theorem booked_step (booked : Booked store) {event : StoreEvent} (inFull : store.InFull event) :
    Booked (store.step event) := by
  cases event with
  | install domain => exact booked.leave rfl rfl fun _ mem => Or.inl mem
  | sync subscription => exact booked_sync booked inFull
  | log message => exact booked.log inFull
  | sweep id now answer =>
      rw [step, sweep.eq_def]
      split
      · rename_i subscription found
        exact booked_bill booked (inFull subscription found)
      · exact booked

/-- What is settled and unpaid is within its cap. -/
theorem within_of_exactly (exactly : store.BilledExactly) {period : Period}
    (mem : period ∈ store.behind) (uncharged : store.charged period.periodStart = false) :
    period.sentCount store.messages ≤ period.cap := by
  have total := exactly.totals period (mem_settled.mpr (Or.inr ⟨mem, uncharged⟩))
  rw [billedFor_of_uncharged uncharged, overageRateCents] at total
  omega

theorem inFull_log (booked : Booked store) {message : Message}
    (exactly : (store.step (.log message)).BilledExactly) : store.InFull (.log message) := by
  intro period settled counts
  have before := booked.exactly.totals period settled
  have after := exactly.totals period settled
  have billed : (store.step (.log message)).billedFor period.periodStart =
      store.billedFor period.periodStart := rfl
  have logged : (store.step (.log message)).messages = store.messages ++ [message] := rfl
  rw [billed, before, logged, sentCount_append, if_pos counts, overageRateCents] at after
  have within : period.sentCount store.messages < period.cap := by omega
  refine ⟨?_, within⟩
  rcases mem_settled.mp settled with ⟨record, mem, rfl⟩ | ⟨-, uncharged⟩
  · exact absurd (booked.exceeded record mem) (Nat.lt_asymm within)
  · exact uncharged

theorem inFull_sync {subscription : Subscription}
    (exactly : (store.step (.sync subscription)).BilledExactly) :
    store.InFull (.sync subscription) := by
  intro old found period leaves uncharged
  have found : store.subscriptions.find?
      (·.shopifySubscriptionId = subscription.shopifySubscriptionId) = some old := found
  rw [step, sync.eq_def, found] at exactly
  exact within_of_exactly exactly
    (List.mem_append_right _ (Option.mem_toList.mpr leaves)) uncharged

theorem inFull_sweep {id : String} {now : Time} {answer : RelayAnswer}
    (exactly : (store.step (.sweep id now answer)).BilledExactly) :
    store.InFull (.sweep id now answer) := by
  intro subscription found cap swept installed
  have found : store.subscriptions.find? (·.shopifySubscriptionId = id) = some subscription := found
  rcases Option.ne_none_iff_exists'.mp installed with ⟨domain, installed⟩
  rw [step, sweep.eq_def, found] at exactly
  dsimp only at exactly
  rw [bill_eq swept installed rfl] at exactly
  intro period exceeded fresh
  split
  · rename_i recorded
    intro index bills other mem
    rw [if_pos ⟨exceeded, recorded, fresh⟩] at exactly
    have once := exactly.once index
    dsimp only at once
    rw [List.countP_append, List.countP_singleton, if_pos bills] at once
    have none_ : store.records.countP (·.period.bills store.messages index) = 0 := by omega
    exact Bool.eq_false_of_not_eq_true (List.countP_eq_zero.mp none_ other mem)
  · rename_i answered
    intro missing
    rw [if_neg fun facts => answered facts.2.1, if_pos missing] at exactly
    have within := within_of_exactly exactly (List.mem_append_right _ (List.mem_singleton_self _)) fresh
    exact absurd exceeded (Nat.not_lt.mpr within)

/-- Each settled period is billed its overage, and each message once, in exactly the runs in which
nothing is logged in a charged period, each period that is left behind is charged or within its
cap, and no two records share a message. -/
theorem billed_exactly_iff {domain : Option String} {subscriptions : List Subscription}
    {messages : List Message} {events : List StoreEvent} :
    Run.Always step BilledExactly
        { shopifyDomain := domain, subscriptions := subscriptions, messages := messages } events ↔
      Run.Guarded step InFull
        { shopifyDomain := domain, subscriptions := subscriptions, messages := messages } events := by
  apply Run.always_iff_guarded
  · exact fun _ _ booked inFull => booked_step booked inFull
  · exact fun _ booked => booked.exactly
  · intro store event booked exactly
    cases event with
    | install domain => trivial
    | sync subscription => exact inFull_sync exactly
    | log message => exact inFull_log booked exactly
    | sweep id now answer => exact inFull_sweep exactly
  · constructor
    · exact ⟨fun _ settled => absurd settled List.not_mem_nil, fun _ => Nat.zero_le 1⟩
    · exact fun _ mem => absurd mem List.not_mem_nil

end Steps

def day (count : Nat) : Time := count * Calendar.dayLength

def starter (currentPeriodEnd : Option Time) : Subscription where
  shopifySubscriptionId := "gid://shopify/AppSubscription/1"
  status := "ACTIVE"
  planId := "starter"
  currentPeriodEnd := currentPeriodEnd

/-- The first message above the cap is billed the next morning, and the second one, a week later in
the same period, is not. -/
theorem later_overage_is_not_billed :
    ¬ Run.Always step BilledExactly
      { shopifyDomain := some "a.myshopify.com", subscriptions := [starter (some (day 60))],
        messages := List.replicate 451 ⟨day 31, .outbound⟩ }
      [.sweep "gid://shopify/AppSubscription/1" (day 32) .recorded, .log ⟨day 39, .outbound⟩] := by
  intro always
  have total := always.last.totals (Period.endingAt (day 60) 450) (by decide +kernel)
  exact absurd total (by decide +kernel)

end Store
end Numu.Overage
