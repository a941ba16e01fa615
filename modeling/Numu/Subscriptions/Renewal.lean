import Mathlib.Data.List.Chain
import Numu.Foundation.Calendar
import Numu.Foundation.Run
import Numu.Foundation.UuidText
import Numu.Orders.Order

/-! The renewal of a tenant's plan: one sweep after another, whatever the gateway answers. -/

namespace Numu.Subscriptions
open Numu.Orders (UUID Time)

inductive TenantLifecycleState where
  | demo
  | trial
  | active
  /-- Persisted as a raw string. -/
  | pastDue
  | readOnly
  | cancelled
  deriving DecidableEq, Repr

/-- The tenant's stored card, by the gateway that charges it. -/
inductive Card where
  | kashier
  | paymob
  deriving DecidableEq, Repr

structure Tenant where
  id : UUID
  lifecycleState : TenantLifecycleState := .active
  nextRenewalAt : Option Time := none
  renewalRetryCount : Nat := 0
  subscriptionStartedAt : Option Time := none
  /-- `billing_cycle` is `annual`; else monthly. -/
  annual : Bool := false
  /-- What the plan costs a cycle, in piasters. -/
  amount : Nat
  card : Option Card := none
  /-- An InstaPay payment for the plan succeeded once. -/
  paidByInstapay : Bool := false
  billingPaused : Bool := false
  deriving DecidableEq

/-- `billing_lifecycle_settings`: every override is clamped. -/
structure Dunning where
  maxRetries : Nat := 3
  retryBackoffHours : Nat := 24
  windowHours : Nat := 72
  backoff_pos : 1 ≤ retryBackoffHours := by decide

structure BillingInvoice where
  periodStart : Time
  periodEnd : Time
  amountCents : Nat
  paymobTransactionId : String
  paidAt : Time
  deriving DecidableEq, Repr

/-- Money that the gateway took, with the period it was asked for and whether it said so. -/
structure GatewayCharge where
  reference : String
  periodStart : Time
  periodEnd : Time
  reported : Bool
  deriving DecidableEq, Repr

def GatewayCharge.Apart (first second : GatewayCharge) : Prop :=
  first.periodEnd ≤ second.periodStart ∨ second.periodEnd ≤ first.periodStart

instance : DecidableRel GatewayCharge.Apart := fun _ _ => inferInstanceAs (Decidable (_ ∨ _))

/-- What becomes of a charge request. -/
inductive Outcome where
  | success (transactionId : String)
  | decline
  /-- The money is taken, and the answer is a failure or never arrives. -/
  | lost
  deriving DecidableEq, Repr

/-- The transaction id of `RecurringChargeSuccess`, or `RecurringChargeFailure`. -/
def Outcome.answer : Outcome → Option String
  | .success transactionId => some transactionId
  | .decline | .lost => none

structure Account where
  tenant : Tenant
  invoices : List BillingInvoice := []
  charges : List GatewayCharge := []

def hour : Time := 3600 * Calendar.secondLength

/-- `_period_delta`. -/
def periodDelta (annual : Bool) : Time :=
  if annual then 365 * Calendar.dayLength else 30 * Calendar.dayLength

/-- The period start as `%Y%m%d`. -/
def compactDate (time : Time) : List Char :=
  let date := Calendar.monthAndDay time
  Calendar.padded 4 (Calendar.yearOf date.1) ++ Calendar.padded 2 (Calendar.monthOfYear date.1) ++
    Calendar.padded 2 (date.2 + 1)

/-- `idempotency_ref`; Kashier's must be unique per attempt. -/
def idempotencyRef (tenant : Tenant) (card : Card) (periodStart : Time) : String :=
  match card with
  | .kashier =>
      String.ofList ("REN-".toList ++ (UuidText.hexDigits tenant.id).take 12 ++ '-' ::
        compactDate periodStart ++ '-' :: Nat.toDigits 10 tenant.renewalRetryCount)
  | .paymob =>
      s!"renewal-{UuidText.writeUuid tenant.id}-{Calendar.isoformat periodStart}"

namespace Account

/-- The query of the sweep. -/
def due (account : Account) (now : Time) : Option Time :=
  let tenant := account.tenant
  if (tenant.lifecycleState = .active || tenant.lifecycleState = .pastDue) &&
      !tenant.billingPaused then
    tenant.nextRenewalAt.filter (· ≤ now)
  else none

/-- The gateway charges a reference at most once. -/
def takes (account : Account) (reference : String) (outcome : Outcome) : Bool :=
  outcome ≠ .decline && account.charges.all fun charge => charge.reference ≠ reference

/-- The answer `charge_subscription` returns, after the gateway took the money or did not. -/
def chargeSubscription (account : Account) (card : Card) (periodStart : Time) (outcome : Outcome) :
    Account × Option String :=
  let reference := idempotencyRef account.tenant card periodStart
  if account.takes reference outcome then
    ({ account with charges := account.charges ++
        [{ reference := reference
           periodStart := periodStart
           periodEnd := periodStart + periodDelta account.tenant.annual
           reported := outcome.answer.isSome }] }, outcome.answer)
  else (account, outcome.answer)

/-- The paid invoice and the next renewal. -/
def renewed (account : Account) (periodStart : Time) (transactionId : String) (now : Time) :
    Account :=
  let periodEnd := periodStart + periodDelta account.tenant.annual
  { account with
    invoices := account.invoices ++
      [{ periodStart := periodStart
         periodEnd := periodEnd
         amountCents := account.tenant.amount
         paymobTransactionId := transactionId
         paidAt := now }]
    tenant := { account.tenant with
      nextRenewalAt := some periodEnd
      renewalRetryCount := 0
      lifecycleState := .active } }

/-- The retry after a failure, or `transition_to_read_only` once dunning is exhausted. -/
def failed (account : Account) (dunning : Dunning) (periodStart now : Time) : Account :=
  let retries := account.tenant.renewalRetryCount + 1
  let elapsed := (now : Int) - account.tenant.subscriptionStartedAt.getD periodStart
  let exhausted := dunning.maxRetries ≤ retries && dunning.windowHours * (hour : Int) ≤ elapsed
  { account with
    tenant := { account.tenant with
      renewalRetryCount := retries
      nextRenewalAt := some (now + dunning.retryBackoffHours * hour)
      lifecycleState := if exhausted then .readOnly else .pastDue } }

/-- One renewal sweep over the tenant. -/
def sweep (account : Account) (dunning : Dunning) (outcome : Outcome) (now : Time) : Account :=
  match account.due now with
  | none => account
  | some periodStart =>
      if account.tenant.amount = 0 then
        { account with
          tenant := { account.tenant with
            nextRenewalAt := some (now + periodDelta account.tenant.annual)
            renewalRetryCount := 0 } }
      else match account.tenant.card with
        | none =>
            if account.tenant.paidByInstapay then account.failed dunning periodStart now
            else account
        | some card =>
            let (charged, transactionId) := account.chargeSubscription card periodStart outcome
            match transactionId with
            | some transactionId => charged.renewed periodStart transactionId now
            | none => charged.failed dunning periodStart now

end Account

inductive RenewalLabel where
  | sweep (dunning : Dunning) (outcome : Outcome) (now : Time)
  /-- Staff pause or resume the billing. -/
  | pause (paused : Bool)

namespace Account

def step (account : Account) : RenewalLabel → Account
  | .sweep dunning outcome now => account.sweep dunning outcome now
  | .pause paused => { account with tenant := { account.tenant with billingPaused := paused } }

/-- No instant is charged twice, and the paid periods follow each other without a gap. -/
structure Lawful (account : Account) : Prop where
  charged : account.charges.Pairwise GatewayCharge.Apart
  contiguous : account.invoices.IsChain fun first second => first.periodEnd = second.periodStart
  disjoint : account.invoices.Pairwise fun first second => first.periodEnd ≤ second.periodStart

/-- The tenant is paid up to its next renewal, or has no paid invoice yet. -/
structure PaidUp (account : Account) : Prop where
  lawful : account.Lawful
  charges : ∀ charge ∈ account.charges, charge.periodStart < charge.periodEnd ∧
    ∀ next, account.tenant.nextRenewalAt = some next → charge.periodEnd ≤ next
  invoices : ∀ invoice ∈ account.invoices, account.tenant.renewalRetryCount = 0 ∧
    ∀ next, account.tenant.nextRenewalAt = some next → invoice.periodEnd ≤ next
  last : ∀ invoice next, account.invoices.getLast? = some invoice →
    account.tenant.nextRenewalAt = some next → invoice.periodEnd = next

/-- Money is taken only for a period after every one whose charge was lost, and a charge succeeds
only while none has failed since the last invoice. -/
def InStep (account : Account) (card : Card) (periodStart : Time) (outcome : Outcome) : Prop :=
  (account.takes (idempotencyRef account.tenant card periodStart) outcome = true →
    ∀ charge ∈ account.charges, charge.reported = false → charge.periodEnd ≤ periodStart) ∧
  (outcome.answer.isSome = true →
    account.invoices = [] ∨ account.tenant.renewalRetryCount = 0)

def Sound (account : Account) : RenewalLabel → Prop
  | .pause _ => True
  | .sweep _ outcome now =>
      ∀ periodStart ∈ account.due now, ∀ card ∈ account.tenant.card,
        account.tenant.amount ≠ 0 → account.InStep card periodStart outcome

instance (account : Account) (card : Card) (periodStart : Time) (outcome : Outcome) :
    Decidable (account.InStep card periodStart outcome) :=
  inferInstanceAs (Decidable (_ ∧ _))

instance : ∀ (account : Account) (label : RenewalLabel), Decidable (account.Sound label)
  | _, .pause _ => inferInstanceAs (Decidable True)
  | account, .sweep _ outcome now =>
      inferInstanceAs (Decidable (∀ periodStart ∈ account.due now,
        ∀ card ∈ account.tenant.card,
          account.tenant.amount ≠ 0 → account.InStep card periodStart outcome))

/-- What every sweep keeps: the next renewal lies after all that was charged and paid, save
that a charge which was lost may reach beyond it. -/
structure InOrder (account : Account) : Prop where
  lawful : account.Lawful
  started : ∀ charge ∈ account.charges, charge.periodStart < charge.periodEnd ∧
    ∀ next, account.tenant.nextRenewalAt = some next → charge.periodStart ≤ next
  reported : ∀ charge ∈ account.charges, charge.reported = true →
    ∀ next, account.tenant.nextRenewalAt = some next → charge.periodEnd ≤ next
  invoiced : ∀ invoice ∈ account.invoices, ∀ next, account.tenant.nextRenewalAt = some next →
    invoice.periodEnd ≤ next
  last : account.tenant.amount ≠ 0 → ∀ invoice next, account.invoices.getLast? = some invoice →
    account.tenant.nextRenewalAt = some next →
      (invoice.periodEnd = next ↔ account.tenant.renewalRetryCount = 0)

theorem PaidUp.inOrder {account : Account} (paidUp : account.PaidUp) : account.InOrder where
  lawful := paidUp.lawful
  started charge member :=
    have fact := paidUp.charges charge member
    ⟨fact.1, fun next at_ => le_trans (le_of_lt fact.1) (fact.2 next at_)⟩
  reported charge member _ := (paidUp.charges charge member).2
  invoiced invoice member := (paidUp.invoices invoice member).2
  last _ invoice next last at_ :=
    ⟨fun _ => (paidUp.invoices invoice (List.mem_of_getLast? last)).1,
      fun _ => paidUp.last invoice next last at_⟩

section Charge
variable {account : Account} {card : Card} {periodStart : Time} {outcome : Outcome}

theorem periodDelta_pos (annual : Bool) : 0 < periodDelta annual := by
  cases annual <;> decide

/-- The charge that a request may add. -/
def requested (account : Account) (card : Card) (periodStart : Time) (outcome : Outcome) :
    List GatewayCharge :=
  if account.takes (idempotencyRef account.tenant card periodStart) outcome then
    [{ reference := idempotencyRef account.tenant card periodStart
       periodStart := periodStart
       periodEnd := periodStart + periodDelta account.tenant.annual
       reported := outcome.answer.isSome }]
  else []

theorem chargeSubscription_fst :
    (account.chargeSubscription card periodStart outcome).1 =
      { account with charges := account.charges ++
          account.requested card periodStart outcome } := by
  simp only [chargeSubscription, requested]
  split
  · rfl
  · rw [List.append_nil]

theorem mem_requested {charge : GatewayCharge}
    (member : charge ∈ account.requested card periodStart outcome) :
    charge.periodStart = periodStart ∧
      charge.periodEnd = periodStart + periodDelta account.tenant.annual ∧
      charge.reported = outcome.answer.isSome := by
  simp only [requested] at member
  split at member
  · cases List.mem_singleton.mp member
    exact ⟨rfl, rfl, rfl⟩
  · cases member

/-- The new charge overlaps none of the earlier ones exactly if each lost one has ended. -/
theorem InOrder.charged_iff (inOrder : account.InOrder)
    (next : account.tenant.nextRenewalAt = some periodStart) :
    (account.charges ++ account.requested card periodStart outcome).Pairwise
        GatewayCharge.Apart ↔
      (account.takes (idempotencyRef account.tenant card periodStart) outcome = true →
        ∀ charge ∈ account.charges, charge.reported = false →
          charge.periodEnd ≤ periodStart) := by
  have length := periodDelta_pos account.tenant.annual
  rw [List.pairwise_append]
  constructor
  · rintro ⟨-, -, apart⟩ taken charge member lost
    have fact := apart charge member _ (by rw [requested, if_pos taken]; exact .head _)
    have start := (inOrder.started charge member).2 _ next
    have ends := (inOrder.started charge member).1
    rcases fact with past | past
    · exact past
    · exact absurd (lt_of_lt_of_le (Nat.lt_add_of_pos_right length) past) (not_lt.mpr start)
  · intro ended
    refine ⟨inOrder.lawful.charged, ?_, fun charge member new asked => ?_⟩
    · rw [requested]
      split
      · exact List.pairwise_singleton _ _
      · exact .nil
    · refine .inl ?_
      rw [(mem_requested asked).1]
      have taken : account.takes (idempotencyRef account.tenant card periodStart) outcome = true := by
        by_contra untaken
        rw [requested, if_neg untaken] at asked
        cases asked
      cases told : charge.reported
      · exact ended taken charge member told
      · exact inOrder.reported charge member told _ next

end Charge

section Invoice
variable {account : Account} {periodStart : Time} {transactionId : String} {now : Time}

/-- The new invoice continues the last one exactly if no attempt has failed in between. -/
theorem InOrder.contiguous_iff (inOrder : account.InOrder) (priced : account.tenant.amount ≠ 0)
    (next : account.tenant.nextRenewalAt = some periodStart) :
    ((account.renewed periodStart transactionId now).invoices.IsChain
        fun first second => first.periodEnd = second.periodStart) ↔
      account.invoices = [] ∨ account.tenant.renewalRetryCount = 0 := by
  rw [renewed, List.isChain_append]
  constructor
  · rintro ⟨-, -, joined⟩
    rcases eq_nil : account.invoices.getLast? with _ | invoice
    · exact .inl (List.getLast?_eq_none_iff.mp eq_nil)
    · exact .inr ((inOrder.last priced invoice _ eq_nil next).mp (joined invoice eq_nil _ rfl))
  · intro fresh
    refine ⟨inOrder.lawful.contiguous, .singleton _, fun invoice last new head => ?_⟩
    cases head
    rcases fresh with empty | unfailed
    · rw [empty] at last
      cases last
    · exact (inOrder.last priced invoice _ last next).mpr unfailed

theorem InOrder.disjoint_renewed (inOrder : account.InOrder)
    (next : account.tenant.nextRenewalAt = some periodStart) :
    (account.renewed periodStart transactionId now).invoices.Pairwise
      fun first second => first.periodEnd ≤ second.periodStart := by
  rw [renewed, List.pairwise_append]
  refine ⟨inOrder.lawful.disjoint, List.pairwise_singleton _ _, fun invoice member new added => ?_⟩
  cases List.mem_singleton.mp added
  exact inOrder.invoiced invoice member _ next

end Invoice

section Sweep
variable {account after : Account} {card : Card} {periodStart now : Time} {outcome : Outcome}
  {dunning : Dunning}

theorem due_eq_some (due : account.due now = some periodStart) :
    account.tenant.nextRenewalAt = some periodStart ∧ periodStart ≤ now := by
  simp only [Account.due] at due
  split at due
  · rw [Option.filter_eq_some_iff, decide_eq_true_iff] at due
    exact due
  · cases due

theorem chargeSubscription_snd :
    (account.chargeSubscription card periodStart outcome).2 = outcome.answer := by
  simp only [chargeSubscription]
  split <;> rfl

theorem sweep_card (due : account.due now = some periodStart)
    (priced : account.tenant.amount ≠ 0) (stored : account.tenant.card = some card) :
    account.sweep dunning outcome now =
      match outcome.answer with
      | some transactionId =>
          (account.chargeSubscription card periodStart outcome).1.renewed periodStart
            transactionId now
      | none =>
          (account.chargeSubscription card periodStart outcome).1.failed dunning periodStart now := by
  simp only [sweep, due, stored, if_neg priced, chargeSubscription_snd]

/-- The next renewal moves on without an invoice. -/
theorem InOrder.moved (inOrder : account.InOrder)
    (next : account.tenant.nextRenewalAt = some periodStart) {new : List GatewayCharge}
    {later : Time} (apart : (account.charges ++ new).Pairwise GatewayCharge.Apart)
    (spans : ∀ charge ∈ new, charge.periodStart = periodStart ∧
      periodStart < charge.periodEnd ∧ charge.reported = false)
    (further : periodStart < later) (charges : after.charges = account.charges ++ new)
    (invoices : after.invoices = account.invoices)
    (postponed : after.tenant.nextRenewalAt = some later)
    (counted : after.tenant.amount ≠ 0 → after.tenant.renewalRetryCount ≠ 0) : after.InOrder where
  lawful :=
    { charged := by rw [charges]; exact apart
      contiguous := by rw [invoices]; exact inOrder.lawful.contiguous
      disjoint := by rw [invoices]; exact inOrder.lawful.disjoint }
  started := by
    intro charge member
    rw [charges, List.mem_append] at member
    rw [postponed]
    rcases member with old | added
    · refine ⟨(inOrder.started charge old).1, fun _ same => ?_⟩
      cases same
      exact le_trans ((inOrder.started charge old).2 _ next) (le_of_lt further)
    · have span := spans charge added
      refine ⟨by rw [span.1]; exact span.2.1, fun _ same => ?_⟩
      cases same
      rw [span.1]
      exact le_of_lt further
  reported := by
    intro charge member told _ same
    rw [charges, List.mem_append] at member
    rw [postponed, Option.some.injEq] at same
    rw [← same]
    rcases member with old | added
    · exact le_trans (inOrder.reported charge old told _ next) (le_of_lt further)
    · rw [(spans charge added).2.2] at told
      cases told
  invoiced := by
    intro invoice member _ same
    rw [invoices] at member
    rw [postponed, Option.some.injEq] at same
    rw [← same]
    exact le_trans (inOrder.invoiced invoice member _ next) (le_of_lt further)
  last := by
    intro priced invoice _ last same
    rw [invoices] at last
    rw [postponed, Option.some.injEq] at same
    rw [← same]
    have before := inOrder.invoiced invoice (List.mem_of_getLast? last) _ next
    exact iff_of_false (ne_of_lt (lt_of_le_of_lt before further)) (counted priced)

theorem InOrder.paid (inOrder : account.InOrder)
    (next : account.tenant.nextRenewalAt = some periodStart) (transactionId : String)
    (apart : (account.charges ++ account.requested card periodStart outcome).Pairwise
      GatewayCharge.Apart)
    (fresh : (account.renewed periodStart transactionId now).invoices.IsChain
      fun first second => first.periodEnd = second.periodStart) :
    ((account.chargeSubscription card periodStart outcome).1.renewed periodStart
      transactionId now).InOrder := by
  have length : periodStart < periodStart + periodDelta account.tenant.annual :=
    Nat.lt_add_of_pos_right (periodDelta_pos _)
  rw [chargeSubscription_fst]
  refine ⟨⟨apart, fresh, inOrder.disjoint_renewed next⟩, ?_, ?_, ?_, ?_⟩
  · intro charge member
    rcases List.mem_append.mp member with old | added
    · refine ⟨(inOrder.started charge old).1, fun _ same => ?_⟩
      cases same
      exact le_trans ((inOrder.started charge old).2 _ next) (le_of_lt length)
    · have span := mem_requested added
      refine ⟨by rw [span.1, span.2.1]; exact length, fun _ same => ?_⟩
      cases same
      rw [span.1]
      exact le_of_lt length
  · intro charge member told _ same
    cases same
    rcases List.mem_append.mp member with old | added
    · exact le_trans (inOrder.reported charge old told _ next) (le_of_lt length)
    · exact le_of_eq (mem_requested added).2.1
  · intro invoice member _ same
    cases same
    rcases List.mem_append.mp member with old | added
    · exact le_trans (inOrder.invoiced invoice old _ next) (le_of_lt length)
    · cases List.mem_singleton.mp added
      exact le_rfl
  · intro _ invoice _ last same
    rw [renewed, List.getLast?_concat, Option.some.injEq] at last
    cases same
    rw [← last]
    exact iff_of_true rfl rfl

theorem InOrder.retried (inOrder : account.InOrder) (dunning : Dunning)
    (next : account.tenant.nextRenewalAt = some periodStart) (due : periodStart ≤ now)
    {new : List GatewayCharge} (apart : (account.charges ++ new).Pairwise GatewayCharge.Apart)
    (spans : ∀ charge ∈ new, charge.periodStart = periodStart ∧
      periodStart < charge.periodEnd ∧ charge.reported = false) :
    ({ account with charges := account.charges ++ new }.failed dunning periodStart
      now).InOrder := by
  have backoff : 0 < dunning.retryBackoffHours * hour :=
    Nat.mul_pos dunning.backoff_pos (by decide)
  exact inOrder.moved next apart spans (lt_of_le_of_lt due (Nat.lt_add_of_pos_right backoff))
    rfl rfl rfl fun _ => Nat.succ_ne_zero _

theorem requested_spans (unanswered : outcome.answer = none) :
    ∀ charge ∈ account.requested card periodStart outcome, charge.periodStart = periodStart ∧
      periodStart < charge.periodEnd ∧ charge.reported = false := by
  intro charge member
  have facts := mem_requested member
  rw [unanswered] at facts
  refine ⟨facts.1, ?_, facts.2.2⟩
  rw [facts.2.1]
  exact Nat.lt_add_of_pos_right (periodDelta_pos _)

end Sweep

theorem InOrder.step {account : Account} (inOrder : account.InOrder) {label : RenewalLabel}
    (sound : account.Sound label) : (account.step label).InOrder := by
  cases label with
  | pause paused =>
      exact ⟨⟨inOrder.lawful.charged, inOrder.lawful.contiguous, inOrder.lawful.disjoint⟩,
        inOrder.started, inOrder.reported, inOrder.invoiced, inOrder.last⟩
  | sweep dunning outcome now =>
      change (account.sweep dunning outcome now).InOrder
      rcases due : account.due now with _ | periodStart
      · rw [sweep, due]
        exact inOrder
      have next := due_eq_some due
      have unchanged : (account.charges ++ []).Pairwise GatewayCharge.Apart := by
        rw [List.append_nil]
        exact inOrder.lawful.charged
      by_cases free : account.tenant.amount = 0
      · rw [sweep, due]
        have further : periodStart < now + periodDelta account.tenant.annual :=
          lt_of_le_of_lt next.2 (Nat.lt_add_of_pos_right (periodDelta_pos _))
        simp only [if_pos free]
        exact inOrder.moved next.1 unchanged (fun _ member => by cases member) further
          (List.append_nil _).symm rfl rfl fun priced => absurd free priced
      rcases stored : account.tenant.card with _ | card
      · simp only [sweep, due, stored, if_neg free]
        split
        · have tried := inOrder.retried dunning next.1 next.2 unchanged fun _ member => by
            cases member
          rw [List.append_nil] at tried
          exact tried
        · exact inOrder
      · have inStep := sound periodStart due card stored free
        have apart := (inOrder.charged_iff next.1).mpr inStep.1
        rw [sweep_card due free stored]
        rcases answered : outcome.answer with _ | transactionId
        · have tried := inOrder.retried dunning next.1 next.2 apart (requested_spans answered)
          rw [← chargeSubscription_fst] at tried
          exact tried
        · have fresh := inStep.2 (by rw [answered]; rfl)
          exact inOrder.paid next.1 transactionId apart
            ((inOrder.contiguous_iff free next.1).mpr fresh)

theorem InOrder.sound {account : Account} (inOrder : account.InOrder) {label : RenewalLabel}
    (lawful : (account.step label).Lawful) : account.Sound label := by
  cases label with
  | pause paused => trivial
  | sweep dunning outcome now =>
      intro periodStart due card stored priced
      have next := due_eq_some due
      change (account.sweep dunning outcome now).Lawful at lawful
      rw [sweep_card due priced stored, chargeSubscription_fst] at lawful
      constructor
      · apply (inOrder.charged_iff next.1).mp
        have charged := lawful.charged
        split at charged <;> exact charged
      · intro succeeded
        have contiguous := lawful.contiguous
        rcases Option.isSome_iff_exists.mp succeeded with ⟨transactionId, answered⟩
        rw [answered] at contiguous
        exact (inOrder.contiguous_iff priced next.1).mp contiguous

/-- No instant is charged twice and the paid periods leave no gap, along a run of sweeps,
exactly if no charge follows a lost one before its period is over and none succeeds after a
failure. -/
theorem renewals_lawful_iff {account : Account} (paidUp : account.PaidUp)
    (labels : List RenewalLabel) :
    Run.Always Account.step Lawful account labels ↔
      Run.Guarded Account.step Sound account labels :=
  Run.always_iff_guarded (fun _ _ inOrder sound => inOrder.step sound) (fun _ inOrder => inOrder.lawful)
    (fun _ _ inOrder lawful => inOrder.sound lawful) paidUp.inOrder labels

def paymobTenant : Account where
  tenant :=
    { id := 7
      nextRenewalAt := some 1767225600000000
      amount := 29900
      card := some .paymob }

theorem renewed_on_time_lawful :
    Run.Always Account.step Lawful paymobTenant
      [.sweep {} (.success "81") 1767229200000000, .pause true,
        .sweep {} .decline 1769821200000000, .pause false,
        .sweep {} (.success "82") 1769824800000000] :=
  (renewals_lawful_iff
    { lawful := ⟨.nil, .nil, .nil⟩
      charges := fun _ member => by cases member
      invoices := fun _ member => by cases member
      last := fun _ _ last => by cases last } _).mpr (by decide +kernel)

/-- The money of the first sweep was taken and its answer lost; the retry a day later asks for a
period of its own, so twenty-nine days are charged twice. -/
theorem lost_charge_taken_again :
    ¬ Run.Always Account.step Lawful paymobTenant
      [.sweep {} .lost 1767229200000000, .sweep {} (.success "83") 1767315600000000] := by
  intro always
  have charged := always.last.charged
  revert charged
  decide +kernel

end Account
end Numu.Subscriptions
