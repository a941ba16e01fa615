import Numu.Foundation.Run
import Numu.Recovery.RecoveryFlow

/-! What the monthly roll-up of one store counts as recovered, over its whole history. -/

namespace Numu.Recovery
open Numu.Orders (UUID Time)
open Numu.Outcome (orKeep)

inductive RollupEvent where
  | succeeded
  | succeededDeposit
  | balanceCaptured
  | refunded
  | refundReversed
  deriving DecidableEq, Repr

/-- Whether an event adds an order to the recovered count. -/
def RollupEvent.counts : RollupEvent → Bool
  | succeeded | succeededDeposit => true
  | _ => false

structure LedgerRow where
  appliedAt : Time
  appliedAmountCents : Nat
  deriving DecidableEq

structure MonthlyRollup where
  recoveredCents : Int
  recoveredCount : Nat
  updatedAt : Time
  deriving DecidableEq

/-- A month of the store's calendar. -/
abbrev Month := Nat

/-- The rows of one store. -/
structure RecoveryStore where
  /-- By Shopify order; there is one flow of an order. -/
  flows : Table String RecoveryFlow := .empty
  ledger : Table (String × RollupEvent) LedgerRow := .empty
  rollups : Table Month MonthlyRollup := .empty
  /-- Flows whose rows were erased on a customer's request. -/
  erased : List (String × RecoveryFlow) := []

namespace RecoveryStore

def createIfNotExists (store : RecoveryStore) (flow : RecoveryFlow) : RecoveryStore :=
  match store.flows.get? flow.shopifyOrderId with
  | some _ => store
  | none => { store with flows := store.flows.set flow.shopifyOrderId flow }

def putFlow (store : RecoveryStore) (orderId : String) (flow : RecoveryFlow) : RecoveryStore :=
  { store with flows := store.flows.set orderId flow }

def deltaCents (event : RollupEvent) (amountCents : Nat) : Int :=
  if event = .refunded then -(amountCents : Int) else amountCents

def deltaCount (event : RollupEvent) : Nat :=
  if event.counts then 1 else 0

def addToMonth (rollups : Table Month MonthlyRollup) (month : Month) (cents : Int) (count : Nat)
    (now : Time) : Table Month MonthlyRollup :=
  match rollups.get? month with
  | none => rollups.set month ⟨cents, count, now⟩
  | some row => rollups.set month ⟨row.recoveredCents + cents, row.recoveredCount + count, now⟩

/-- `apply_to_rollup`: the store afterwards, and whether this call applied the event. -/
def applyToRollup (store : RecoveryStore) (orderId : String) (event : RollupEvent)
    (amountCents : Nat) (month : Month) (now : Time) : RecoveryStore × Bool :=
  match store.ledger.get? (orderId, event) with
  | some _ => (store, false)
  | none =>
      ({ store with
        ledger := store.ledger.set (orderId, event) ⟨now, amountCents⟩
        rollups := addToMonth store.rollups month (deltaCents event amountCents) (deltaCount event)
          now }, true)

def successEvent (deposit : Bool) : RollupEvent :=
  if deposit then .succeededDeposit else .succeeded

/-- The transition of `apply_payment_success`; a flow that refuses it stays as it is. -/
def settleFlow (store : RecoveryStore) (orderId : String) (flow : RecoveryFlow) (rail : String)
    (amountCents : Nat) (deposit : Bool) (now : Time) : RecoveryStore :=
  if flow.isTerminal then store
  else orKeep store ((flow.markSucceeded rail amountCents deposit now).map fun moved =>
    store.putFlow orderId (updateState flow moved now))

def applyPaymentSuccess (store : RecoveryStore) (orderId rail : String) (amountCents : Nat)
    (deposit : Bool) (month : Month) (now : Time) : RecoveryStore :=
  match store.flows.get? orderId with
  | none => store
  | some flow =>
      ((store.settleFlow orderId flow rail amountCents deposit now).applyToRollup orderId
        (successEvent deposit) amountCents month now).1

/-- `recovery_send_step` for the flow `flowId` of an order. -/
def sendStep (store : RecoveryStore) (orderId : String) (flowId : UUID) (stepIndex : Nat)
    (now : Time) : RecoveryStore :=
  match store.flows.get? orderId with
  | none => store
  | some flow =>
      if flow.id ≠ flowId then store
      else match sendDecision flow stepIndex with
      | .bail _ => store
      | .terminate target _ => store.putFlow orderId (terminate flow target now)
      | .send _ => store.putFlow orderId (advance flow stepIndex now)

def abandonFlow (store : RecoveryStore) (orderId : String) (target : RecoveryFlowState)
    (now : Time) : RecoveryStore :=
  match store.flows.get? orderId with
  | none => store
  | some flow => orKeep store ((flow.transitionTo target now).map fun moved =>
      store.putFlow orderId (updateState flow moved now))

/-- The erasure of an order's flow, which leaves the roll-up alone. -/
def redact (store : RecoveryStore) (orderId : String) : RecoveryStore :=
  { store with
    flows := store.flows.erase orderId
    erased := store.erased ++ (store.flows.get? orderId).toList.map fun flow => (orderId, flow) }

end RecoveryStore

inductive RecoveryLabel where
  | riskFinalised (event : RiskAssessmentFinalisedEvent) (tenantId : UUID) (threshold : Int)
      (cadence : Option (List CadenceStep)) (flowId : UUID) (now : Time)
  | sendStep (orderId : String) (flowId : UUID) (stepIndex : Nat) (now : Time)
  /-- Abandonment is to a state other than success. -/
  | abandon (orderId : String) (target : RecoveryFlowState) (other : target.success = false)
      (now : Time)
  | payment (orderId rail : String) (amountCents : Nat) (deposit : Bool) (month : Month)
      (now : Time)
  | redact (orderId : String)

namespace RecoveryStore

def step (store : RecoveryStore) : RecoveryLabel → RecoveryStore
  | .riskFinalised event tenantId threshold cadence flowId now =>
      match flowFromRiskEvent event tenantId threshold cadence flowId now with
      | none => store
      | some flow => store.createIfNotExists flow
  | .sendStep orderId flowId stepIndex now => store.sendStep orderId flowId stepIndex now
  | .abandon orderId target _ now => store.abandonFlow orderId target now
  | .payment orderId rail amountCents deposit month now =>
      store.applyPaymentSuccess orderId rail amountCents deposit month now
  | .redact orderId => store.redact orderId

/-- The stored flow of the order is in success. -/
def StoredSuccess (store : RecoveryStore) (orderId : String) : Prop :=
  ∃ flow, store.flows.get? orderId = some flow ∧ flow.state.success = true

/-- An erased flow of the order was in success. -/
def ErasedSuccess (store : RecoveryStore) (orderId : String) : Prop :=
  ∃ entry ∈ store.erased, entry.1 = orderId ∧ entry.2.state.success = true

/-- A flow of the order ended in success. -/
def Recovered (store : RecoveryStore) (orderId : String) : Prop :=
  store.StoredSuccess orderId ∨ store.ErasedSuccess orderId

/-- What a flow recovered. -/
def earned (flow : RecoveryFlow) : Int :=
  if flow.state.success then (flow.recoveredAmountCents.getD 0 : Int) else 0

def revenue (store : RecoveryStore) : Int :=
  store.flows.sumOf earned + (store.erased.map fun entry => earned entry.2).sum

/-- The order is in the count, by this event. -/
def Counted (store : RecoveryStore) (orderId : String) (event : RollupEvent) : Prop :=
  event.counts = true ∧ (store.ledger.get? (orderId, event)).isSome

/-- The figures count what the ledger applied, every order at most once and only when a flow of
it ended in success, and no more revenue than those flows recovered. -/
structure Lawful (store : RecoveryStore) : Prop where
  figures : store.rollups.sumOf MonthlyRollup.recoveredCount =
    store.ledger.rows.countP fun row => row.1.2.counts
  once : ∀ orderId first second, store.Counted orderId first → store.Counted orderId second →
    first = second
  ended : ∀ orderId event, store.Counted orderId event → store.Recovered orderId
  revenue : store.rollups.sumOf MonthlyRollup.recoveredCents ≤ store.revenue

/-- A payment that the ledger has not seen finds a pending flow, of an order that is not counted. -/
def Fits (store : RecoveryStore) : RecoveryLabel → Prop
  | .payment orderId _ _ deposit _ _ => ∀ flow, store.flows.get? orderId = some flow →
      store.ledger.get? (orderId, successEvent deposit) = none →
        flow.isTerminal = false ∧ store.ledger.get? (orderId, successEvent (!deposit)) = none
  | _ => True

/-- A lawful store in which every order with a successful flow is counted. -/
structure Kept (store : RecoveryStore) : Prop extends Lawful store where
  counted : ∀ orderId, store.Recovered orderId → ∃ event, store.Counted orderId event

section Tables
variable {store : RecoveryStore} {orderId : String}

theorem earned_idle {flow : RecoveryFlow} (idle : flow.state.success = false) : earned flow = 0 := by
  rw [earned, idle]
  rfl

/-- Writing a flow changes the revenue by what the flow earned. -/
theorem revenue_putFlow (store : RecoveryStore) (orderId : String) (flow : RecoveryFlow) :
    (store.putFlow orderId flow).revenue +
        (store.flows.get? orderId).elim 0 earned = store.revenue + earned flow := by
  rw [revenue, revenue, putFlow]
  rcases stored : store.flows.get? orderId with _ | old
  · have added := store.flows.sumOf_set_of_absent stored flow earned
    simp only [Option.elim_none]
    omega
  · have changed := store.flows.sumOf_set_of_present stored flow earned
    simp only [Option.elim_some]
    omega

theorem storedSuccess_putFlow (flow : RecoveryFlow) (other : String) :
    (store.putFlow orderId flow).StoredSuccess other ↔
      if other = orderId then flow.state.success = true else store.StoredSuccess other := by
  rw [StoredSuccess, putFlow, Table.get?_set]
  split
  · simp
  · rfl

/-- A write to an order without success is no success of it. -/
theorem Kept.quiet (kept : store.Kept) {flow : RecoveryFlow}
    (before : ∀ old, store.flows.get? orderId = some old → old.state.success = false)
    (idle : flow.state.success = false) : (store.putFlow orderId flow).Kept := by
  have revenue := revenue_putFlow store orderId flow
  have nothing : (store.flows.get? orderId).elim 0 earned = 0 := by
    rcases stored : store.flows.get? orderId with _ | old
    · rfl
    · exact earned_idle (before old stored)
  have waiting : ¬ store.StoredSuccess orderId := by
    rintro ⟨old, stored, ended⟩
    rw [before old stored] at ended
    cases ended
  have same : ∀ other, (store.putFlow orderId flow).Recovered other ↔ store.Recovered other := by
    intro other
    apply or_congr_left
    rw [storedSuccess_putFlow, idle]
    by_cases here : other = orderId
    · subst here
      simp [waiting]
    · rw [if_neg here]
  rw [nothing, earned_idle idle, add_zero, add_zero] at revenue
  constructor
  · constructor
    · exact kept.figures
    · exact kept.once
    · exact fun other event counted => (same other).mpr (kept.ended other event counted)
    · rw [revenue]
      exact kept.toLawful.revenue
  · exact fun other recovered => kept.counted other ((same other).mp recovered)

theorem Kept.redact (kept : store.Kept) (orderId : String) : (store.redact orderId).Kept := by
  have revenue : (store.redact orderId).revenue = store.revenue := by
    rw [RecoveryStore.revenue, RecoveryStore.revenue, RecoveryStore.redact]
    rcases stored : store.flows.get? orderId with _ | flow
    · have absent : store.flows.erase orderId = store.flows := by
        apply Table.ext
        apply Table.filter_absent
        rw [← Table.isSome_get?_iff, stored]
        exact Bool.false_ne_true
      simp [absent]
    · have moved := store.flows.sumOf_erase stored earned
      simp only [Option.toList_some, List.map_append, List.sum_append, List.map_cons,
        List.map_nil, List.sum_cons, List.sum_nil]
      omega
  have same : ∀ other, (store.redact orderId).Recovered other ↔ store.Recovered other := by
    intro other
    rw [Recovered, Recovered, StoredSuccess, StoredSuccess, ErasedSuccess, ErasedSuccess,
      RecoveryStore.redact]
    simp only [List.mem_append, List.mem_map, Option.mem_toList]
    by_cases here : other = orderId
    · subst here
      have gone : (store.flows.erase other).get? other = none := by
        rw [Option.eq_none_iff_forall_ne_some]
        intro flow present
        have member := (Table.get?_eq_some_iff _ _ _).mp present
        simp [Table.erase] at member
      rw [gone]
      constructor
      · rintro (⟨flow, absent, -⟩ | ⟨entry, old | ⟨flow, stored, rfl⟩, named, ended⟩)
        · cases absent
        · exact .inr ⟨entry, old, named, ended⟩
        · exact .inl ⟨flow, stored, ended⟩
      · rintro (⟨flow, stored, ended⟩ | ⟨entry, old, named, ended⟩)
        · exact .inr ⟨(other, flow), .inr ⟨flow, stored, rfl⟩, rfl, ended⟩
        · exact .inr ⟨entry, .inl old, named, ended⟩
    · rw [Table.get?_erase_of_ne _ here]
      constructor
      · rintro (stored | ⟨entry, old | ⟨flow, -, rfl⟩, named, ended⟩)
        · exact .inl stored
        · exact .inr ⟨entry, old, named, ended⟩
        · exact absurd named.symm here
      · rintro (stored | ⟨entry, old, named, ended⟩)
        · exact .inl stored
        · exact .inr ⟨entry, .inl old, named, ended⟩
  constructor
  · constructor
    · exact kept.figures
    · exact kept.once
    · exact fun other event counted => (same other).mpr (kept.ended other event counted)
    · rw [revenue]
      exact kept.toLawful.revenue
  · exact fun other recovered => kept.counted other ((same other).mp recovered)

end Tables

theorem successEvent_counts (deposit : Bool) : (successEvent deposit).counts = true := by
  cases deposit <;> rfl

/-- Only the two success events count. -/
theorem counts_cases {event : RollupEvent} (counts : event.counts = true) (deposit : Bool) :
    event = successEvent deposit ∨ event = successEvent (!deposit) := by
  cases deposit <;> cases event <;> first | exact .inl rfl | exact .inr rfl | cases counts

/-- An upsert adds to the figures of all months what it adds to its own. -/
theorem addToMonth_sums (rollups : Table Month MonthlyRollup) (month : Month) (cents : Int)
    (count : Nat) (now : Time) :
    (addToMonth rollups month cents count now).sumOf MonthlyRollup.recoveredCents =
        rollups.sumOf MonthlyRollup.recoveredCents + cents ∧
      (addToMonth rollups month cents count now).sumOf MonthlyRollup.recoveredCount =
        rollups.sumOf MonthlyRollup.recoveredCount + count := by
  rw [addToMonth]
  rcases stored : rollups.get? month with _ | row
  · exact ⟨rollups.sumOf_set_of_absent stored _ _, rollups.sumOf_set_of_absent stored _ _⟩
  · have centsAdded := rollups.sumOf_set_of_present stored
      ⟨row.recoveredCents + cents, row.recoveredCount + count, now⟩ MonthlyRollup.recoveredCents
    have countAdded := rollups.sumOf_set_of_present stored
      ⟨row.recoveredCents + cents, row.recoveredCount + count, now⟩ MonthlyRollup.recoveredCount
    dsimp only at centsAdded countAdded ⊢
    constructor <;> omega

section Payments
variable {store : RecoveryStore} {orderId : String} {flow : RecoveryFlow} {rail : String}
  {amountCents : Nat} {deposit : Bool} {month : Month} {now : Time}

/-- The flow of an order after a payment that found it pending. -/
def paidFlow (flow : RecoveryFlow) (rail : String) (amountCents : Nat) (deposit : Bool)
    (now : Time) : RecoveryFlow :=
  { flow with
    state := RecoveryFlow.successTarget deposit
    recoveredAmountCents := some amountCents
    recoveredViaRail := some rail
    updatedAt := now }

theorem paidFlow_success : (paidFlow flow rail amountCents deposit now).state.success = true := by
  cases deposit <;> rfl

theorem earned_paidFlow : earned (paidFlow flow rail amountCents deposit now) = amountCents := by
  rw [earned, if_pos paidFlow_success]
  rfl

theorem settleFlow_eq : store.settleFlow orderId flow rail amountCents deposit now =
    if flow.isTerminal then store
    else store.putFlow orderId (paidFlow flow rail amountCents deposit now) := by
  rw [settleFlow]
  rcases pending : flow.isTerminal
  · rw [RecoveryFlow.markSucceeded_eq pending]
    rfl
  · rfl

/-- What a pending flow earns with a payment is added to the revenue. -/
theorem revenue_paid (stored : store.flows.get? orderId = some flow)
    (pending : flow.isTerminal = false) :
    (store.putFlow orderId (paidFlow flow rail amountCents deposit now)).revenue =
      store.revenue + amountCents := by
  have changed := revenue_putFlow store orderId (paidFlow flow rail amountCents deposit now)
  rw [stored, Option.elim_some, earned_idle (RecoveryFlowState.idle_of_pending pending), earned_paidFlow] at changed
  omega

theorem recovered_paid (other : String) :
    (store.putFlow orderId (paidFlow flow rail amountCents deposit now)).Recovered other ↔
      other = orderId ∨ store.Recovered other := by
  rw [Recovered, storedSuccess_putFlow]
  by_cases here : other = orderId
  · simp [here, paidFlow_success]
  · rw [if_neg here, Recovered]
    simp [here, ErasedSuccess, putFlow]

/-- A payment that the ledger has seen, for a later flow of the same order. -/
theorem Kept.paidAgain (kept : store.Kept) (stored : store.flows.get? orderId = some flow)
    (pending : flow.isTerminal = false)
    (seen : (store.ledger.get? (orderId, successEvent deposit)).isSome) :
    (store.putFlow orderId (paidFlow flow rail amountCents deposit now)).Kept := by
  constructor
  · constructor
    · exact kept.figures
    · exact kept.once
    · exact fun other event counted =>
        (recovered_paid other).mpr (.inr (kept.ended other event counted))
    · rw [revenue_paid stored pending]
      have bound := kept.toLawful.revenue
      simp only [putFlow]
      omega
  · intro other recovered
    rcases (recovered_paid other).mp recovered with rfl | before
    · exact ⟨successEvent deposit, successEvent_counts deposit, seen⟩
    · exact kept.counted other before

/-- The store after an event that the ledger had not seen. -/
theorem applyToRollup_new {event : RollupEvent} (new : store.ledger.get? (orderId, event) = none) :
    (store.applyToRollup orderId event amountCents month now).1 =
      { store with
        ledger := store.ledger.set (orderId, event) ⟨now, amountCents⟩
        rollups := addToMonth store.rollups month (deltaCents event amountCents) (deltaCount event)
          now } := by
  rw [applyToRollup, new]

theorem applyToRollup_seen {event : RollupEvent}
    (seen : (store.ledger.get? (orderId, event)).isSome) :
    (store.applyToRollup orderId event amountCents month now).1 = store := by
  rcases Option.isSome_iff_exists.mp seen with ⟨row, stored⟩
  rw [applyToRollup, stored]

/-- Exactly the new event is counted besides those before. -/
theorem counted_new {event : RollupEvent} (counts : event.counts = true)
    (new : store.ledger.get? (orderId, event) = none) (other : String) (event' : RollupEvent) :
    (store.applyToRollup orderId event amountCents month now).1.Counted other event' ↔
      (other = orderId ∧ event' = event) ∨ store.Counted other event' := by
  rw [applyToRollup_new new, Counted, Counted, Table.get?_set]
  by_cases here : (other, event') = (orderId, event)
  · rw [Prod.mk.injEq] at here
    simp [here, counts]
  · rw [if_neg here]
    rw [Prod.mk.injEq] at here
    simp [here]

/-- A payment that fits, and that the ledger has not seen. -/
theorem Kept.paid (kept : store.Kept) (stored : store.flows.get? orderId = some flow)
    (pending : flow.isTerminal = false)
    (new : store.ledger.get? (orderId, successEvent deposit) = none)
    (alone : store.ledger.get? (orderId, successEvent (!deposit)) = none) :
    ((store.putFlow orderId (paidFlow flow rail amountCents deposit now)).applyToRollup orderId
      (successEvent deposit) amountCents month now).1.Kept := by
  have written : ((store.putFlow orderId (paidFlow flow rail amountCents deposit now)).applyToRollup
      orderId (successEvent deposit) amountCents month now).1 = _ := applyToRollup_new new
  have counted : ∀ other event, ((store.putFlow orderId
      (paidFlow flow rail amountCents deposit now)).applyToRollup orderId
        (successEvent deposit) amountCents month now).1.Counted other event ↔
      (other = orderId ∧ event = successEvent deposit) ∨ store.Counted other event :=
    counted_new (successEvent_counts deposit) new
  have uncounted : ∀ event, ¬ store.Counted orderId event := by
    rintro event ⟨counts, seen⟩
    rcases counts_cases counts deposit with rfl | rfl
    · rw [new] at seen
      cases seen
    · rw [alone] at seen
      cases seen
  rcases addToMonth_sums store.rollups month (deltaCents (successEvent deposit) amountCents)
    (deltaCount (successEvent deposit)) now with ⟨cents, count⟩
  have oneMore : deltaCount (successEvent deposit) = 1 := by cases deposit <;> rfl
  have wholeAmount : deltaCents (successEvent deposit) amountCents = amountCents := by
    cases deposit <;> rfl
  have flows : ∀ other, ((store.putFlow orderId
      (paidFlow flow rail amountCents deposit now)).applyToRollup orderId
        (successEvent deposit) amountCents month now).1.Recovered other ↔
      other = orderId ∨ store.Recovered other := by
    rw [written]
    exact recovered_paid
  constructor
  · constructor
    · rw [written]
      simp only [putFlow, Table.set_rows_of_absent store.ledger new, List.countP_append,
        List.countP_singleton, successEvent_counts]
      rw [count, kept.figures, oneMore]
      rfl
    · intro other first second here there
      rcases (counted other first).mp here with ⟨rfl, rfl⟩ | before
      · rcases (counted other second).mp there with ⟨-, rfl⟩ | before'
        · rfl
        · exact absurd before' (uncounted second)
      · rcases (counted other second).mp there with ⟨rfl, rfl⟩ | before'
        · exact absurd before (uncounted first)
        · exact kept.once other first second before before'
    · intro other event here
      apply (flows other).mpr
      rcases (counted other event).mp here with ⟨rfl, -⟩ | before
      · exact .inl rfl
      · exact .inr (kept.ended other event before)
    · rw [written]
      have earnings : (store.putFlow orderId
          (paidFlow flow rail amountCents deposit now)).revenue = _ := revenue_paid stored pending
      have bound := kept.toLawful.revenue
      rw [revenue] at earnings ⊢
      simp only [putFlow] at earnings ⊢
      omega
  · intro other recovered
    rcases (flows other).mp recovered with rfl | before
    · exact ⟨successEvent deposit, (counted _ _).mpr (.inl ⟨rfl, rfl⟩)⟩
    · rcases kept.counted other before with ⟨event, counts⟩
      exact ⟨event, (counted _ _).mpr (.inr counts)⟩

end Payments

section Steps
variable {store : RecoveryStore}

theorem Kept.riskFinalised (kept : store.Kept) {event : RiskAssessmentFinalisedEvent}
    {tenantId flowId : UUID} {threshold : Int} {cadence : Option (List CadenceStep)} {now : Time} :
    (store.step (.riskFinalised event tenantId threshold cadence flowId now)).Kept := by
  simp only [step]
  rcases gated : flowFromRiskEvent event tenantId threshold cadence flowId now with _ | flow
  · exact kept
  have idle : flow.state.success = false := by
    rw [flowFromRiskEvent] at gated
    repeat' split at gated
    all_goals cases gated
    all_goals rfl
  simp only [createIfNotExists]
  rcases stored : store.flows.get? flow.shopifyOrderId with _ | old
  · refine kept.quiet (fun old present => ?_) idle
    rw [stored] at present
    cases present
  · exact kept

theorem Kept.sendStep (kept : store.Kept) (orderId : String) (flowId : UUID) (stepIndex : Nat)
    (now : Time) : (store.sendStep orderId flowId stepIndex now).Kept := by
  rw [RecoveryStore.sendStep]
  rcases stored : store.flows.get? orderId with _ | flow
  · exact kept
  dsimp only
  split
  · exact kept
  have seen (acts : ∀ status, sendDecision flow stepIndex ≠ .bail status) :
      ∀ old, store.flows.get? orderId = some old → old.state.success = false := by
    intro old present
    rw [stored, Option.some.injEq] at present
    rw [← present]
    exact RecoveryFlowState.idle_of_pending (sendDecision_pending acts)
  rcases decision : sendDecision flow stepIndex with status | ⟨target, reason⟩ | templateKey
  · exact kept
  · apply kept.quiet (seen fun status => by rw [decision]; exact SendDecision.noConfusion)
    rw [sendDecision] at decision
    repeat' split at decision
    all_goals cases decision
    exact (terminalAction_ends _).2
  · have idle := seen fun status => by rw [decision]; exact SendDecision.noConfusion
    apply kept.quiet idle
    rw [advance]
    rcases after : stateAfterSendStep stepIndex with _ | next
    · exact idle flow stored
    · exact RecoveryFlowState.idle_of_pending (stateAfterSendStep_pending after)

theorem Kept.abandonFlow (kept : store.Kept) (orderId : String) {target : RecoveryFlowState}
    (other : target.success = false) (now : Time) :
    (store.abandonFlow orderId target now).Kept := by
  rw [RecoveryStore.abandonFlow]
  rcases stored : store.flows.get? orderId with _ | flow
  · exact kept
  dsimp only
  rcases moves : flow.transitionTo target now with _ | moved
  · exact kept
  rcases RecoveryFlow.transitionTo_ok moves with ⟨pending, rfl⟩
  refine kept.quiet (fun old present => ?_) other
  rw [stored, Option.some.injEq] at present
  rw [← present]
  exact RecoveryFlowState.idle_of_pending pending

theorem Kept.step (kept : store.Kept) {label : RecoveryLabel} (fits : store.Fits label) :
    (store.step label).Kept := by
  cases label with
  | riskFinalised event tenantId threshold cadence flowId now => exact kept.riskFinalised
  | sendStep orderId flowId stepIndex now => exact kept.sendStep orderId flowId stepIndex now
  | abandon orderId target other now => exact kept.abandonFlow orderId other now
  | redact orderId => exact kept.redact orderId
  | payment orderId rail amountCents deposit month now =>
      simp only [RecoveryStore.step, applyPaymentSuccess]
      rcases stored : store.flows.get? orderId with _ | flow
      · exact kept
      dsimp only
      rw [settleFlow_eq]
      rcases seen : store.ledger.get? (orderId, successEvent deposit) with _ | row
      · rcases fits flow stored seen with ⟨pending, alone⟩
        rw [pending]
        exact kept.paid stored pending seen alone
      · have present : (store.ledger.get? (orderId, successEvent deposit)).isSome := by
          rw [seen]
          rfl
        rcases pending : flow.isTerminal
        · rw [applyToRollup_seen]
          · exact kept.paidAgain stored pending present
          · exact present
        · rw [applyToRollup_seen]
          · exact kept
          · exact present

/-- A payment that does not fit breaks the law at once. -/
theorem Kept.fits (kept : store.Kept) {label : RecoveryLabel} (lawful : (store.step label).Lawful) :
    store.Fits label := by
  cases label with
  | payment orderId rail amountCents deposit month now =>
      intro flow stored new
      simp only [RecoveryStore.step, applyPaymentSuccess, stored, settleFlow_eq] at lawful
      have counts := successEvent_counts deposit
      have uncounted (settled : RecoveryStore) (same : settled.ledger = store.ledger)
          (lawful : (settled.applyToRollup orderId (successEvent deposit) amountCents month
            now).1.Lawful) :
          store.ledger.get? (orderId, successEvent (!deposit)) = none := by
        rcases other : store.ledger.get? (orderId, successEvent (!deposit)) with _ | row
        · rfl
        have added := fun event => (counted_new counts (same ▸ new) orderId event :
          (settled.applyToRollup orderId (successEvent deposit) amountCents month now).1.Counted
            orderId event ↔ _)
        have both := lawful.once orderId _ _ ((added _).mpr (.inl ⟨rfl, rfl⟩))
          ((added (successEvent (!deposit))).mpr (.inr ⟨successEvent_counts _, by
            rw [same, other]
            rfl⟩))
        cases deposit <;> cases both
      rcases pending : flow.isTerminal
      · rw [pending, if_neg Bool.false_ne_true] at lawful
        exact ⟨rfl, uncounted (store.putFlow orderId _) rfl lawful⟩
      · rw [pending, if_pos rfl] at lawful
        have alone := uncounted store rfl lawful
        have recovered := lawful.ended orderId (successEvent deposit)
          ((counted_new counts new _ _).mpr (.inl ⟨rfl, rfl⟩))
        rw [applyToRollup_new new] at recovered
        rcases kept.counted orderId recovered with ⟨event, counts', seen⟩
        rcases counts_cases counts' deposit with rfl | rfl
        · rw [new] at seen
          cases seen
        · rw [alone] at seen
          cases seen
  | _ => trivial

end Steps

/-- Over every history of a store, its roll-up is lawful exactly if every payment that the ledger
has not seen finds a pending flow, of an order that is not counted. -/
theorem rollup_lawful_iff (labels : List RecoveryLabel) :
    Run.Always step Lawful {} labels ↔ Run.Guarded step Fits {} labels := by
  apply Run.always_iff_guarded (I := Kept)
  · exact fun store label kept fits => kept.step fits
  · exact fun store kept => kept.toLawful
  · exact fun store label kept lawful => kept.fits lawful
  · constructor
    · constructor
      · rfl
      · rintro orderId first second ⟨-, seen⟩
        cases seen
      · rintro orderId event ⟨-, seen⟩
        cases seen
      · exact le_refl _
    · rintro orderId (⟨flow, stored, -⟩ | ⟨entry, erased, -⟩)
      · cases stored
      · cases erased

def riskyOrder : RecoveryLabel :=
  .riskFinalised
    { storeId := 3, shopifyOrderId := some "1001", riskScore := 75, scoreType := "final",
      recoveryEnabled := true, hasPaymentGateway := true, subscriptionActive := true }
    7 defaultRecoveryTriggerThreshold none 51 10

/-- The customer does not answer, and pays after the flow was abandoned. -/
def paidAfterAbandonment : List RecoveryLabel :=
  [riskyOrder, .abandon "1001" .abandoned rfl 20, .payment "1001" "paymob" 15000 false 5 30]

theorem abandoned_order_counted : ¬ Run.Always step Lawful {} paidAfterAbandonment := by
  intro always
  have counted : (Run.run step {} paidAfterAbandonment).Counted "1001" .succeeded :=
    ⟨rfl, by decide +kernel⟩
  rcases always.last.ended "1001" .succeeded counted with ⟨flow, stored, success⟩ | ⟨entry, erased, -⟩
  · have state : ((Run.run step {} paidAfterAbandonment).flows.get? "1001").map
        RecoveryFlow.state = some .abandoned := by decide +kernel
    rw [stored, Option.map_some, Option.some.injEq] at state
    rw [state] at success
    cases success
  · cases erased

end RecoveryStore
end Numu.Recovery
