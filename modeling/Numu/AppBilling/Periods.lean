import Numu.AppBilling.Conservation

/-!
The periods of one subscription over whole runs.

A period is known by its start: the key of its charge names the start, and every start lies at or
after the end of the period before.
-/

namespace Numu.AppBilling
open Numu.Orders (UUID Time)
open Numu.Invoices (UpperCase)
open Numu.Outcome (bind_eq_ok)

structure Period where
  start : Time
  until_ : Time
  trial : Bool
  priceCents : Nat
  deriving DecidableEq, Repr

def AppSubscription.period (sub : AppSubscription) : Period where
  start := sub.currentPeriodStart
  until_ := sub.currentPeriodEnd
  trial := sub.isTrial
  priceCents := sub.priceCents

/-- A wallet row has the key. -/
def Books.Taken (books : Books) (key : String) : Prop :=
  ∃ id row, books.transactions.get? id = some row ∧ row.idempotencyKey = some key

/-- The keys under which a period of a subscription can be charged. -/
def periodKeys (installationId subscriptionId : UUID) (start : Time) : List String :=
  [startKey installationId start, renewKey subscriptionId start]

section Keys

theorem startKey_injective {first second : UUID} {start start' : Time}
    (same : startKey first start = startKey second start') : first = second ∧ start = start' := by
  have chars := congrArg String.toList same
  simp only [startKey, toString, String.toList_append, List.append_assoc,
    List.append_cancel_left_eq] at chars
  obtain ⟨id, time⟩ := UuidText.writeUuid_split chars
  rw [List.append_cancel_left_eq] at time
  exact ⟨id, Calendar.isoformat_injective (String.toList_injective time)⟩

theorem renewKey_injective {first second : UUID} {start start' : Time}
    (same : renewKey first start = renewKey second start') : first = second ∧ start = start' := by
  have chars := congrArg String.toList same
  simp only [renewKey, toString, String.toList_append, List.append_assoc,
    List.append_cancel_left_eq] at chars
  obtain ⟨id, time⟩ := UuidText.writeUuid_split chars
  rw [List.append_cancel_left_eq] at time
  exact ⟨id, Calendar.isoformat_injective (String.toList_injective time)⟩

theorem startKey_ne_renewKey (first second : UUID) (start start' : Time) :
    startKey first start ≠ renewKey second start' := by
  intro same
  have chars := congrArg String.toList same
  simp only [startKey, renewKey, toString, String.toList_append, List.append_assoc,
    List.append_cancel_left_eq] at chars
  obtain ⟨-, rest⟩ := UuidText.writeUuid_split chars
  simp at rest

/-- The keys of the other wallet rows of app billing. -/
inductive OtherKey : String → Prop where
  | usage (installationId : UUID) (key : String) : OtherKey (usageKey installationId key)
  | theme (storeId themeId : UUID) (earlier : Nat) : OtherKey (themeKey storeId themeId earlier)
  | refund (chargeId : UUID) : OtherKey (Books.refundKey chargeId)

theorem OtherKey.not_mem {key : String} (other : OtherKey key) (installationId subscriptionId : UUID)
    (start : Time) : key ∉ periodKeys installationId subscriptionId start := by
  simp only [periodKeys, List.mem_cons, List.not_mem_nil, or_false]
  rintro (same | same)
  all_goals
    have chars := congrArg String.toList same
    cases other
  · simp [startKey, usageKey, toString] at chars
  · simp [startKey, themeKey_toList, toString] at chars
  · simp [startKey, Books.refundKey, toString] at chars
  · simp [renewKey, usageKey, toString] at chars
  · simp [renewKey, themeKey_toList, toString] at chars
  · simp [renewKey, Books.refundKey, toString] at chars

end Keys

namespace Books
variable {books after : Books} {id tenantId : UUID} {key currency note : String} {amount : Int}

theorem taken_set {row : WalletRow} (absent : books.transactions.get? id = none)
    (keyed : row.idempotencyKey = some key) (entered : after.transactions = books.transactions.set id row)
    (other : String) : after.Taken other ↔ books.Taken other ∨ other = key := by
  constructor
  · rintro ⟨id', row', found, same⟩
    rw [entered, Table.get?_set] at found
    split at found
    · cases found
      rw [keyed, Option.some.injEq] at same
      exact .inr same.symm
    · exact .inl ⟨id', row', found, same⟩
  · rintro (⟨id', row', found, same⟩ | rfl)
    · have different : id' ≠ id := by
        intro equal
        rw [equal, absent] at found
        cases found
      exact ⟨id', row', by rw [entered, Table.get?_set, if_neg different, found], same⟩
    · exact ⟨id, row, by rw [entered, Table.get?_set, if_pos rfl], keyed⟩

/-- A charge that goes through takes its key. -/
theorem charge_taken {tx : Charged}
    (ok : books.charge id tenantId amount currency key note = .ok (after, some tx))
    (other : String) : after.Taken other ↔ books.Taken other ∨ other = key := by
  rcases applyEntry_ok (charge_ok ok) with ⟨none_, -⟩ | ⟨wallets, row, -, absent, rfl, facts, -⟩
  · cases none_
  · exact taken_set absent facts.2.2 rfl other

/-- A charge that takes nothing found its key taken. -/
theorem charge_none (ok : books.charge id tenantId amount currency key note = .ok (after, none)) :
    books.Taken key := by
  have entered := charge_ok ok
  simp only [applyEntry] at entered
  split at entered
  · cases entered
  · rename_i already
    simp only [Wallet.WalletService.applyEntry] at already
    split at already
    · cases already
    split at already
    · rename_i taken
      simp only [Bool.not_true, Bool.false_or, List.any_eq_true, List.mem_map] at taken
      obtain ⟨row, ⟨⟨id', row'⟩, member, rfl⟩, clash⟩ := taken
      refine ⟨id', row', (Table.get?_eq_some_iff _ _ _).mpr member, ?_⟩
      rw [Wallet.violates, Bool.or_eq_true] at clash
      rcases clash with pair | same
      · rw [Bool.and_eq_true] at pair
        have unindexed : Wallet.WalletTransactionKind.appCharge ∉ Wallet.indexedKinds := by decide
        exact absurd (of_decide_eq_true pair.2) unindexed
      · rw [Wallet.sameKey, Wallet.sameValue, Bool.and_eq_true] at same
        exact of_decide_eq_true same.2
    · cases already
  · split at entered
    · cases entered
    · cases entered

theorem book_transactions {q : Quote} {tx : Charged} {subscriptionId : Option UUID}
    {subject : Subject} {now : Time}
    (ok : books.book q tx key subscriptionId subject now = .ok after) :
    after.transactions = books.transactions := by
  rw [(issueFeeInvoice_keeps ok).1]
  cases q.partnerId with
  | none => rfl
  | some partnerId =>
      simp only [ledgerSale]
      split <;> rfl

/-- A refund takes no key but its own. -/
theorem refundCharge_taken {chargeId actorUserId : UUID} {now : Time} {tx : Option Charged}
    (ok : books.refundCharge id chargeId actorUserId note now = .ok (after, tx)) :
    (∀ other, books.Taken other → after.Taken other) ∧
      ∀ other, after.Taken other → books.Taken other ∨ other = refundKey chargeId := by
  simp only [refundCharge] at ok
  split at ok
  · cases ok
  split at ok
  · cases ok
  obtain ⟨⟨mid, reversal⟩, entered, rest⟩ := bind_eq_ok.mp ok
  rcases applyEntry_ok entered with ⟨rfl, rfl⟩ | ⟨wallets, row, rfl, absent, shape, facts, -⟩
  · cases rest
    exact ⟨fun _ taken => taken, fun _ taken => .inl taken⟩
  obtain ⟨credited, credit, rest⟩ := bind_eq_ok.mp rest
  obtain ⟨debited, debit, rest⟩ := bind_eq_ok.mp rest
  cases rest
  have written : after.transactions = books.transactions.set id row := by
    rw [debitPartner_transactions debit, (creditInvoice_keeps credit).1, shape]
  have taken := taken_set absent facts.2.2 written
  exact ⟨fun other before => (taken other).mpr (.inl before), fun other => (taken other).mp⟩

end Books
/-- A period costs nothing, or one of its keys is charged. -/
def Paid (books : Books) (installationId subscriptionId : UUID) (period : Period) : Prop :=
  period.trial = true ∨ period.priceCents = 0 ∨
    ∃ key ∈ periodKeys installationId subscriptionId period.start, books.Taken key

/-- What holds between two calls, at the clock of the first. -/
structure Timely (state : BillingState) (clock : Time) : Prop where
  ids : ∀ first second sub sub', state.subscriptions.get? first = some sub →
    state.subscriptions.get? second = some sub' → sub.id = sub'.id → first = second
  proper : ∀ id sub, state.subscriptions.get? id = some sub →
    sub.currentPeriodStart < sub.currentPeriodEnd
  begun : ∀ id sub, state.subscriptions.get? id = some sub → sub.currentPeriodStart ≤ clock
  lapsed : ∀ id sub, state.subscriptions.get? id = some sub → sub.status ≠ .active →
    sub.currentPeriodEnd ≤ clock
  starts : ∀ id start, state.books.Taken (startKey id start) →
    ∃ sub, state.subscriptions.get? id = some sub ∧ start ≤ sub.currentPeriodStart
  renewals : ∀ subId start, state.books.Taken (renewKey subId start) →
    ∃ id sub, state.subscriptions.get? id = some sub ∧ sub.id = subId ∧
      start ≤ sub.currentPeriodStart
  exclusive : ∀ id sub start, state.subscriptions.get? id = some sub →
    state.books.Taken (startKey id start) → ¬ state.books.Taken (renewKey sub.id start)
  paid : ∀ id sub, state.subscriptions.get? id = some sub →
    Paid state.books id sub.id sub.period

/-- Subscriptions keep their ids, periods only follow each other, and no row is dropped. -/
structure Advances (state after : BillingState) : Prop where
  periods : ∀ id sub, state.subscriptions.get? id = some sub →
    ∃ sub', after.subscriptions.get? id = some sub' ∧ sub'.id = sub.id ∧
      (sub'.period = sub.period ∨ sub.currentPeriodEnd ≤ sub'.currentPeriodStart)
  taken : ∀ key, state.books.Taken key → after.books.Taken key

theorem Advances.refl (state : BillingState) : Advances state state :=
  ⟨fun _ sub found => ⟨sub, found, rfl, .inl rfl⟩, fun _ taken => taken⟩

theorem Advances.trans {state mid after : BillingState} {clock : Time} (first : Advances state mid)
    (timely : Timely mid clock) (second : Advances mid after) : Advances state after := by
  refine ⟨fun id sub found => ?_, fun key taken => second.taken key (first.taken key taken)⟩
  obtain ⟨sub', found', id', moved⟩ := first.periods id sub found
  obtain ⟨sub'', found'', id'', moved'⟩ := second.periods id sub' found'
  have proper := timely.proper id sub' found'
  refine ⟨sub'', found'', id''.trans id', ?_⟩
  rcases moved with same | later
  · have until_ : sub'.currentPeriodEnd = sub.currentPeriodEnd := congrArg Period.until_ same
    rcases moved' with same' | later'
    · exact .inl (same'.trans same)
    · exact .inr (until_ ▸ later')
  · rcases moved' with same' | later'
    · have start : sub''.currentPeriodStart = sub'.currentPeriodStart :=
        congrArg Period.start same'
      exact .inr (start ▸ later)
    · exact .inr (later.trans (proper.le.trans later'))

theorem Timely.later {state : BillingState} {clock now : Time} (timely : Timely state clock)
    (le : clock ≤ now) : Timely state now :=
  { timely with
    begun := fun id sub found => (timely.begun id sub found).trans le
    lapsed := fun id sub found lapsed => (timely.lapsed id sub found lapsed).trans le }

section Moves
variable {state after : BillingState} {now : Time} {id : UUID} {sub sub' : AppSubscription}

/-- Rows under other keys are no one's period. -/
theorem Timely.other_rows (timely : Timely state now)
    (subscriptions : after.subscriptions = state.subscriptions)
    (taken : ∀ key, state.books.Taken key → after.books.Taken key)
    (other : ∀ key, after.books.Taken key → state.books.Taken key ∨ OtherKey key) :
    Timely after now ∧ Advances state after := by
  have back {installationId subId : UUID} {start : Time} {key : String}
      (member : key ∈ periodKeys installationId subId start) (found : after.books.Taken key) :
      state.books.Taken key := by
    rcases other key found with before | otherKey
    · exact before
    · exact absurd member (otherKey.not_mem installationId subId start)
  constructor
  · constructor
    · rw [subscriptions]
      exact timely.ids
    · rw [subscriptions]
      exact timely.proper
    · rw [subscriptions]
      exact timely.begun
    · rw [subscriptions]
      exact timely.lapsed
    · rw [subscriptions]
      intro id start found
      exact timely.starts id start (back (List.mem_cons_self (l := [renewKey 0 start])) found)
    · rw [subscriptions]
      intro subId start found
      have member : renewKey subId start ∈ periodKeys 0 subId start := by simp [periodKeys]
      exact timely.renewals subId start (back member found)
    · rw [subscriptions]
      intro id sub start found first second
      have member : startKey id start ∈ periodKeys id sub.id start := by simp [periodKeys]
      have member' : renewKey sub.id start ∈ periodKeys id sub.id start := by simp [periodKeys]
      exact timely.exclusive id sub start found (back member first) (back member' second)
    · rw [subscriptions]
      intro id sub found
      rcases timely.paid id sub found with trial | free | ⟨key, member, charged⟩
      · exact .inl trial
      · exact .inr (.inl free)
      · exact .inr (.inr ⟨key, member, taken key charged⟩)
  · refine ⟨fun id sub found => ⟨sub, ?_, rfl, .inl rfl⟩, taken⟩
    rw [subscriptions]
    exact found

/-- A write that changes neither the period nor the id of a subscription. -/
theorem Timely.kept (timely : Timely state now)
    (found : state.subscriptions.get? id = some sub)
    (subscriptions : after.subscriptions = state.subscriptions.set id sub')
    (books : after.books = state.books) (sameId : sub'.id = sub.id)
    (samePeriod : sub'.period = sub.period)
    (lapsed : sub'.status ≠ .active → sub.currentPeriodEnd ≤ now) :
    Timely after now ∧ Advances state after := by
  have start : sub'.currentPeriodStart = sub.currentPeriodStart := congrArg Period.start samePeriod
  have until_ : sub'.currentPeriodEnd = sub.currentPeriodEnd := congrArg Period.until_ samePeriod
  -- Every subscription is the old one in all that matters.
  have old (other : UUID) (row : AppSubscription)
      (there : after.subscriptions.get? other = some row) :
      ∃ row', state.subscriptions.get? other = some row' ∧ row.id = row'.id ∧
        row.period = row'.period ∧ (row = row' ∨ other = id ∧ row = sub') := by
    rw [subscriptions, Table.get?_set] at there
    split at there
    · rename_i same
      cases there
      exact ⟨sub, same ▸ found, sameId, samePeriod, .inr ⟨same, rfl⟩⟩
    · exact ⟨row, there, rfl, rfl, .inl rfl⟩
  have new (other : UUID) (row : AppSubscription)
      (there : state.subscriptions.get? other = some row) :
      ∃ row', after.subscriptions.get? other = some row' ∧ row'.id = row.id ∧
        row'.period = row.period := by
    rw [subscriptions, Table.get?_set]
    by_cases same : other = id
    · rw [same, found] at there
      cases there
      exact ⟨sub', if_pos same, sameId, samePeriod⟩
    · exact ⟨row, by rw [if_neg same, there], rfl, rfl⟩
  constructor
  · constructor
    · intro first second row row' there there' same
      obtain ⟨old₁, found₁, id₁, -⟩ := old first row there
      obtain ⟨old₂, found₂, id₂, -⟩ := old second row' there'
      exact timely.ids first second old₁ old₂ found₁ found₂ (by rw [← id₁, ← id₂, same])
    · intro other row there
      obtain ⟨row', found', -, period, -⟩ := old other row there
      have proper := timely.proper other row' found'
      rw [AppSubscription.period, AppSubscription.period, Period.mk.injEq] at period
      rw [period.1, period.2.1]
      exact proper
    · intro other row there
      obtain ⟨row', found', -, period, -⟩ := old other row there
      exact (congrArg Period.start period).trans_le (timely.begun other row' found')
    · intro other row there inactive
      obtain ⟨row', found', -, -, same | ⟨-, same⟩⟩ := old other row there
      · rw [same] at inactive ⊢
        exact timely.lapsed other row' found' inactive
      · rw [same] at inactive ⊢
        rw [until_]
        exact lapsed inactive
    · intro other start' taken
      rw [books] at taken
      obtain ⟨row, there, le⟩ := timely.starts other start' taken
      obtain ⟨row', found', -, period⟩ := new other row there
      exact ⟨row', found', le.trans (congrArg Period.start period).ge⟩
    · intro subId start' taken
      rw [books] at taken
      obtain ⟨other, row, there, sameSub, le⟩ := timely.renewals subId start' taken
      obtain ⟨row', found', id', period⟩ := new other row there
      exact ⟨other, row', found', id'.trans sameSub, le.trans (congrArg Period.start period).ge⟩
    · intro other row start' there first second
      rw [books] at first second
      obtain ⟨row', found', id', -, -⟩ := old other row there
      exact timely.exclusive other row' start' found' first (id' ▸ second)
    · intro other row there
      obtain ⟨row', found', id', period, -⟩ := old other row there
      rw [books, id', period]
      exact timely.paid other row' found'
  · refine ⟨fun other row there => ?_, fun key taken => by rw [books]; exact taken⟩
    obtain ⟨row', found', id', period⟩ := new other row there
    exact ⟨row', found', id', .inl period⟩

/-- The subscription of an installation moves to a new period, which costs nothing or is charged
under one of its keys. -/
structure Opens (state after : BillingState) (now : Time) (id : UUID) (sub' : AppSubscription)
    (newKey : Option String) : Prop where
  subscriptions : after.subscriptions = state.subscriptions.set id sub'
  taken : ∀ key, after.books.Taken key ↔ state.books.Taken key ∨ newKey = some key
  proper : sub'.currentPeriodStart < sub'.currentPeriodEnd
  begun : sub'.currentPeriodStart ≤ now
  active : sub'.status = .active
  follows : ∀ sub, state.subscriptions.get? id = some sub →
    sub'.id = sub.id ∧ sub.currentPeriodEnd ≤ sub'.currentPeriodStart
  fresh : state.subscriptions.get? id = none →
    ∀ other sub, state.subscriptions.get? other = some sub → sub.id ≠ sub'.id
  keyed : ∀ key, newKey = some key → key ∈ periodKeys id sub'.id sub'.currentPeriodStart
  paid : newKey = none → sub'.isTrial = true ∨ sub'.priceCents = 0

namespace Opens
variable {newKey : Option String}

theorem here (opens : Opens state after now id sub' newKey) :
    after.subscriptions.get? id = some sub' := by
  rw [opens.subscriptions, Table.get?_set, if_pos rfl]

theorem there (opens : Opens state after now id sub' newKey) {other : UUID} (different : other ≠ id) :
    after.subscriptions.get? other = state.subscriptions.get? other := by
  rw [opens.subscriptions, Table.get?_set, if_neg different]

/-- No key of the new period is taken by an older row. -/
theorem free (opens : Opens state after now id sub' newKey) (timely : Timely state now)
    {key : String} (member : key ∈ periodKeys id sub'.id sub'.currentPeriodStart) :
    ¬ state.books.Taken key := by
  intro taken
  simp only [periodKeys, List.mem_cons, List.not_mem_nil, or_false] at member
  rcases member with rfl | rfl
  · obtain ⟨sub, found, le⟩ := timely.starts id _ taken
    have proper := timely.proper id sub found
    have later := (opens.follows sub found).2
    exact absurd (proper.trans_le (later.trans le)) (lt_irrefl _)
  · obtain ⟨other, sub, found, same, le⟩ := timely.renewals sub'.id _ taken
    cases present : state.subscriptions.get? id with
    | none => exact opens.fresh present other sub found same
    | some old =>
        have ⟨sameId, later⟩ := opens.follows old present
        have equal := timely.ids other id sub old found present (same.trans sameId)
        rw [equal, present, Option.some.injEq] at found
        rw [← found] at le
        have proper := timely.proper id old present
        exact absurd (proper.trans_le (later.trans le)) (lt_irrefl _)

theorem advances (opens : Opens state after now id sub' newKey) : Advances state after := by
  refine ⟨fun other sub found => ?_, fun key taken => (opens.taken key).mpr (.inl taken)⟩
  by_cases same : other = id
  · rw [same] at found ⊢
    have ⟨sameId, later⟩ := opens.follows sub found
    exact ⟨sub', opens.here, sameId, .inr later⟩
  · exact ⟨sub, by rw [opens.there same, found], rfl, .inl rfl⟩

/-- Ids stay distinct. -/
theorem ids (opens : Opens state after now id sub' newKey) (timely : Timely state now)
    {other : UUID} {sub : AppSubscription} (found : state.subscriptions.get? other = some sub)
    (same : sub.id = sub'.id) : other = id := by
  cases present : state.subscriptions.get? id with
  | none => exact absurd same (opens.fresh present other sub found)
  | some old =>
      exact timely.ids other id sub old found present
        (same.trans (opens.follows old present).1)

theorem row_cases (opens : Opens state after now id sub' newKey) {other : UUID}
    {row : AppSubscription} (found : after.subscriptions.get? other = some row) :
    other = id ∧ row = sub' ∨ other ≠ id ∧ state.subscriptions.get? other = some row := by
  by_cases same : other = id
  · rw [same, opens.here] at found
    exact .inl ⟨same, (Option.some.inj found).symm⟩
  · exact .inr ⟨same, by rw [← opens.there same, found]⟩

/-- Each subscription is still there, and no earlier. -/
theorem lift (opens : Opens state after now id sub' newKey) (timely : Timely state now)
    {other : UUID} {row : AppSubscription} (found : state.subscriptions.get? other = some row) :
    ∃ row', after.subscriptions.get? other = some row' ∧ row'.id = row.id ∧
      row.currentPeriodStart ≤ row'.currentPeriodStart := by
  by_cases same : other = id
  · rw [same] at found ⊢
    have ⟨sameId, later⟩ := opens.follows row found
    exact ⟨sub', opens.here, sameId, (timely.proper id row found).le.trans later⟩
  · exact ⟨row, by rw [opens.there same, found], rfl, le_rfl⟩

theorem start_of_new (opens : Opens state after now id sub' newKey) {other : UUID} {start : Time}
    (new : newKey = some (startKey other start)) : other = id ∧ start = sub'.currentPeriodStart := by
  have member := opens.keyed _ new
  simp only [periodKeys, List.mem_cons, List.not_mem_nil, or_false] at member
  rcases member with same | same
  · exact startKey_injective same
  · exact absurd same (startKey_ne_renewKey _ _ _ _)

theorem renewal_of_new (opens : Opens state after now id sub' newKey) {subId : UUID} {start : Time}
    (new : newKey = some (renewKey subId start)) :
    subId = sub'.id ∧ start = sub'.currentPeriodStart := by
  have member := opens.keyed _ new
  simp only [periodKeys, List.mem_cons, List.not_mem_nil, or_false] at member
  rcases member with same | same
  · exact absurd same.symm (startKey_ne_renewKey _ _ _ _)
  · exact renewKey_injective same

theorem timely (opens : Opens state after now id sub' newKey) (timely : Timely state now) :
    Timely after now := by
  constructor
  · intro first second row row' found found' same
    rcases opens.row_cases found with ⟨rfl, rfl⟩ | ⟨-, found⟩ <;>
      rcases opens.row_cases found' with ⟨rfl, rfl⟩ | ⟨-, found'⟩
    · rfl
    · exact (opens.ids timely found' same.symm).symm
    · exact opens.ids timely found same
    · exact timely.ids first second row row' found found' same
  · intro other row found
    rcases opens.row_cases found with ⟨-, rfl⟩ | ⟨-, found⟩
    · exact opens.proper
    · exact timely.proper other row found
  · intro other row found
    rcases opens.row_cases found with ⟨-, rfl⟩ | ⟨-, found⟩
    · exact opens.begun
    · exact timely.begun other row found
  · intro other row found inactive
    rcases opens.row_cases found with ⟨-, rfl⟩ | ⟨-, found⟩
    · exact absurd opens.active inactive
    · exact timely.lapsed other row found inactive
  · intro other start taken
    rcases (opens.taken _).mp taken with before | new
    · obtain ⟨row, found, le⟩ := timely.starts other start before
      obtain ⟨row', found', -, later⟩ := opens.lift timely found
      exact ⟨row', found', le.trans later⟩
    · obtain ⟨rfl, rfl⟩ := opens.start_of_new new
      exact ⟨sub', opens.here, le_rfl⟩
  · intro subId start taken
    rcases (opens.taken _).mp taken with before | new
    · obtain ⟨other, row, found, sameId, le⟩ := timely.renewals subId start before
      obtain ⟨row', found', id', later⟩ := opens.lift timely found
      exact ⟨other, row', found', id'.trans sameId, le.trans later⟩
    · obtain ⟨rfl, rfl⟩ := opens.renewal_of_new new
      exact ⟨id, sub', opens.here, rfl, le_rfl⟩
  · intro other row start found first second
    -- The new key and an older one would charge the same start.
    rcases (opens.taken _).mp first with before | new <;>
      rcases (opens.taken _).mp second with before' | new'
    · rcases opens.row_cases found with ⟨rfl, rfl⟩ | ⟨-, found⟩
      · obtain ⟨sub, present, -⟩ := timely.starts other start before
        rw [(opens.follows sub present).1] at before'
        exact timely.exclusive other sub start present before before'
      · exact timely.exclusive other row start found before before'
    · obtain ⟨sameId, rfl⟩ := opens.renewal_of_new new'
      have here : other = id := by
        rcases opens.row_cases found with ⟨same, -⟩ | ⟨-, found⟩
        · exact same
        · exact opens.ids timely found sameId
      rw [here] at before
      exact opens.free timely (by simp [periodKeys]) before
    · obtain ⟨rfl, rfl⟩ := opens.start_of_new new
      rw [opens.here] at found
      cases found
      exact opens.free timely (by simp [periodKeys]) before'
    · rw [new, Option.some.injEq] at new'
      exact startKey_ne_renewKey _ _ _ _ new'
  · intro other row found
    rcases opens.row_cases found with ⟨rfl, rfl⟩ | ⟨-, found⟩
    · cases key : newKey with
      | none => exact (opens.paid key).imp_right .inl
      | some text =>
          exact .inr (.inr ⟨text, opens.keyed text key, (opens.taken text).mpr (.inr key)⟩)
    · rcases timely.paid other row found with trial | free | ⟨key, member, charged⟩
      · exact .inl trial
      · exact .inr (.inl free)
      · exact .inr (.inr ⟨key, member, (opens.taken key).mpr (.inl charged)⟩)

end Opens

end Moves

theorem Books.taken_congr {books after : Books} (same : after.transactions = books.transactions)
    (key : String) : after.Taken key ↔ books.Taken key := by
  rw [Taken, Taken, same]

/-- Coupons touch neither the period nor the status. -/
theorem consumeCoupon_kept (sub : AppSubscription) :
    (consumeCoupon sub).id = sub.id ∧ (consumeCoupon sub).period = sub.period ∧
      (consumeCoupon sub).status = sub.status := by
  simp only [consumeCoupon]
  split
  · exact ⟨rfl, rfl, rfl⟩
  · split <;> exact ⟨rfl, rfl, rfl⟩

namespace BillingState
section Calls
variable {state after : BillingState} {catalogue : Catalogue} {installation : Installation}
  {app : App} {newId chargeId : UUID} {now : Time}

theorem redeemAny_kept {coupon : Option (UUID × AppCoupon)} {sub sub' : AppSubscription}
    (ok : state.redeemAny coupon sub = .ok (after, sub')) :
    after.subscriptions = state.subscriptions ∧ after.books = state.books ∧
      sub'.id = sub.id ∧ sub'.period = sub.period ∧ sub'.status = sub.status := by
  cases coupon with
  | none =>
      cases ok
      exact ⟨rfl, rfl, rfl, rfl, rfl⟩
  | some coupon =>
      simp only [redeemAny, redeem] at ok
      split at ok
      · cases ok
      · cases ok
        exact ⟨rfl, rfl, rfl, rfl, rfl⟩

/-- The end of `subscribe` writes the subscription, and no wallet row. -/
theorem finishSubscribe_writes {sub : AppSubscription} {coupon : Option (UUID × AppCoupon)}
    {applied : Bool} {charged : Option (Quote × Charged)}
    (ok : state.finishSubscribe installation app sub coupon applied charged now = .ok after) :
    ∃ sub', after.subscriptions = state.subscriptions.set installation.id sub' ∧
      after.books.transactions = state.books.transactions ∧
      sub'.id = sub.id ∧ sub'.period = sub.period ∧ sub'.status = sub.status := by
  obtain ⟨⟨redeemed, sub'⟩, redemption, rest⟩ := bind_eq_ok.mp ok
  obtain ⟨subscriptions, books, id, period, status⟩ := redeemAny_kept redemption
  cases charged with
  | none =>
      cases rest
      exact ⟨sub', by rw [← subscriptions]; rfl, by rw [← books]; rfl, id, period, status⟩
  | some charged =>
      obtain ⟨booked, book, rest⟩ := bind_eq_ok.mp rest
      cases rest
      have transactions := (Books.book_transactions book).trans (by rw [books])
      obtain ⟨id', period', status'⟩ := consumeCoupon_kept sub'
      refine ⟨if applied then consumeCoupon sub' else sub', by rw [← subscriptions]; rfl,
        transactions, ?_⟩
      split
      · exact ⟨id'.trans id, period'.trans period, status'.trans status⟩
      · exact ⟨id, period, status⟩

/-- What `subscribe` opens when it starts a period. -/
theorem starts_opens {clock : Time} (timely : Timely state clock) (le : clock ≤ now)
    {price : AppPrice} (starts : state.Starts installation app newId now price) {trial : Bool}
    {days : Nat} (positive : 0 < days) {newKey : Option String} {sub sub' : AppSubscription}
    (made : sub = startPeriod installation app price newId
      (state.subscriptions.get? installation.id) trial now (now + days * Calendar.dayLength))
    (subscriptions : after.subscriptions = state.subscriptions.set installation.id sub')
    (taken : ∀ key, after.books.Taken key ↔ state.books.Taken key ∨ newKey = some key)
    (kept : sub'.id = sub.id ∧ sub'.period = sub.period ∧ sub'.status = sub.status)
    (keyed : ∀ key, newKey = some key → key = startKey installation.id now)
    (paid : newKey = none → trial = true ∨ price.priceCents = 0) :
    Opens state after now installation.id sub' newKey := by
  rw [made] at kept
  obtain ⟨id, period, status⟩ := kept
  rw [AppSubscription.period, AppSubscription.period, Period.mk.injEq] at period
  obtain ⟨start, until_, isTrial, priceCents⟩ := period
  have length : 0 < days * Calendar.dayLength := Nat.mul_pos positive (by decide)
  refine ⟨subscriptions, taken, ?_, ?_, status, ?_, ?_, ?_, ?_⟩
  · rw [start, until_]
    exact Nat.lt_add_of_pos_right length
  · rw [start]
    exact le_rfl
  · intro sub found
    rw [id, start, found]
    refine ⟨rfl, ?_⟩
    have lapsed := starts.lapsed sub found
    simp only [paidThrough, Bool.and_eq_false_iff, decide_eq_false_iff_not, not_lt] at lapsed
    rcases lapsed with inactive | past
    · exact (timely.lapsed _ sub found inactive).trans le
    · exact past
  · intro absent other sub found
    rw [id, absent]
    exact starts.fresh absent _ ((Table.get?_eq_some_iff _ _ _).mp found)
  · intro key new
    rw [keyed key new, start]
    exact List.mem_cons_self
  · intro none_
    rw [isTrial, priceCents]
    exact paid none_

theorem subscribe_timely [UpperCase] {clock : Time} (timely : Timely state clock) (le : clock ≤ now)
    {couponCode : Option String} {started : Bool}
    (ok : state.subscribe catalogue installation app couponCode newId chargeId now =
      .ok (after, started)) : Timely after now ∧ Advances state after := by
  have now_ := timely.later le
  rcases subscribe_ok ok with ⟨paid, found, through, shape⟩ | shape |
    ⟨price, coupon, starts, -, started⟩
  · have active : paid.status = .active := by
      simp only [paidThrough, Bool.and_eq_true, decide_eq_true_eq] at through
      exact through.1
    rw [shape]
    exact now_.kept found rfl rfl rfl rfl fun inactive => absurd active inactive
  · rw [shape]
    exact ⟨now_, Advances.refl state⟩
  have opened (mid : BillingState) {trial : Bool} {days : Nat} (positive : 0 < days)
      (newKey : Option String) (subscriptions : mid.subscriptions = state.subscriptions)
      (taken : ∀ key, mid.books.Taken key ↔ state.books.Taken key ∨ newKey = some key)
      {applied : Bool} {charged : Option (Quote × Charged)}
      (finished : mid.finishSubscribe installation app
        (startPeriod installation app price newId (state.subscriptions.get? installation.id) trial
          now (now + days * Calendar.dayLength)) coupon applied charged now = .ok after)
      (keyed : ∀ key, newKey = some key → key = startKey installation.id now)
      (paid : newKey = none → trial = true ∨ price.priceCents = 0) :
      Timely after now ∧ Advances state after := by
    obtain ⟨sub', written, transactions, kept⟩ := finishSubscribe_writes finished
    rw [subscriptions] at written
    have opens := starts_opens timely le starts positive rfl written
      (fun key => (Books.taken_congr transactions key).trans (taken key)) kept keyed paid
    exact ⟨opens.timely now_, opens.advances⟩
  rcases started with ⟨trials, positive, finished⟩ | ⟨free, finished⟩ |
    ⟨books, tx, charged, finished⟩
  · exact opened { state with trials := trials } positive none rfl (fun key => by simp) finished (by simp) fun _ => .inl rfl
  · exact opened state price.cycle.days_pos none rfl (fun key => by simp) finished
      (by simp) fun _ => .inr free
  · refine opened { state with books := books } price.cycle.days_pos
      (some (startKey installation.id now)) rfl (fun key => ?_) finished (fun key same => (Option.some.inj same).symm) fun none_ => ?_
    · rw [Books.charge_taken charged key, Option.some.injEq, eq_comm]
    · cases none_

/-- A round of the sweep over a due subscription. -/
theorem renew_timely (timely : Timely state now) {chargeId : UUID → UUID} {installationId : UUID}
    {sub : AppSubscription} (found : state.subscriptions.get? installationId = some sub)
    (active : sub.status = .active) (due : sub.currentPeriodEnd ≤ now)
    (ok : state.renew catalogue chargeId now installationId sub = .ok after) :
    Timely after now ∧ Advances state after ∧
      ∃ sub', after.subscriptions = state.subscriptions.set installationId sub' := by
  have opened (newKey : Option String) {sub' : AppSubscription}
      (subscriptions : after.subscriptions = state.subscriptions.set installationId sub')
      (taken : ∀ key, after.books.Taken key ↔ state.books.Taken key ∨ newKey = some key)
      (kept : sub'.id = (nextPeriod sub).id ∧ sub'.period = (nextPeriod sub).period ∧
        sub'.status = (nextPeriod sub).status)
      (keyed : ∀ key, newKey = some key → key = renewKey sub.id sub.currentPeriodEnd)
      (paid : newKey = none → sub.priceCents = 0) :
      Timely after now ∧ Advances state after ∧
        ∃ sub', after.subscriptions = state.subscriptions.set installationId sub' := by
    obtain ⟨id, period, status⟩ := kept
    rw [AppSubscription.period, AppSubscription.period, Period.mk.injEq] at period
    obtain ⟨start, until_, isTrial, priceCents⟩ := period
    have length : 0 < sub.cycle.days * Calendar.dayLength :=
      Nat.mul_pos sub.cycle.days_pos (by decide)
    have opens : Opens state after now installationId sub' newKey := by
      refine ⟨subscriptions, taken, ?_, ?_, status.trans active, ?_, ?_, ?_, ?_⟩
      · rw [start, until_]
        exact Nat.lt_add_of_pos_right length
      · rw [start]
        exact due
      · intro old present
        rw [found] at present
        cases present
        rw [id, start]
        exact ⟨rfl, le_rfl⟩
      · intro absent
        rw [found] at absent
        cases absent
      · intro key new
        rw [keyed key new, id, start]
        exact List.mem_cons_of_mem _ List.mem_cons_self
      · intro none_
        rw [priceCents]
        exact .inr (paid none_)
    exact ⟨opens.timely timely, opens.advances, sub', subscriptions⟩
  rcases renew_ok ok with ⟨status, -, shape⟩ | ⟨-, ⟨free, shape⟩ |
    ⟨app, books, tx, note, charged, rest⟩⟩
  · rw [shape]
    let after := state.setSubscription installationId { sub with status := status }
    have moved : Timely after now ∧ Advances state after :=
      timely.kept found rfl rfl rfl rfl fun _ => due
    exact ⟨moved.1, moved.2, _, rfl⟩
  · refine opened none (by rw [shape]; rfl) (fun key => ?_) ⟨rfl, rfl, rfl⟩
      (fun key same => by cases same) fun _ => free
    rw [shape]
    simp [setSubscription]
  cases tx with
  | none =>
      -- The key of the next period is never taken.
      obtain ⟨other, row, present, same, le⟩ :=
        timely.renewals sub.id _ (Books.charge_none charged)
      have equal := timely.ids other installationId row sub present found same
      rw [equal, found, Option.some.injEq] at present
      rw [← present] at le
      exact absurd ((timely.proper installationId sub found).trans_le le) (lt_irrefl _)
  | some tx =>
      obtain ⟨subscriptionId, subject, booked, -, book, shape⟩ := rest
      refine opened (some (renewKey sub.id sub.currentPeriodEnd)) (by rw [shape]; rfl)
        (fun key => ?_) ?_ (fun key same => (Option.some.inj same).symm) fun none_ => ?_
      · rw [shape, Books.taken_congr (Books.book_transactions book), Books.charge_taken charged key,
          Option.some.injEq, eq_comm]
      · split
        · exact consumeCoupon_kept (nextPeriod sub)
        · exact ⟨rfl, rfl, rfl⟩
      · cases none_

/-- The rows that a sweep has still to visit are as it read them. -/
def Pending (state : BillingState) (now : Time) (rows : List (UUID × AppSubscription)) : Prop :=
  (rows.map Prod.fst).Nodup ∧ ∀ row ∈ rows, state.subscriptions.get? row.1 = some row.2 ∧
    row.2.status = .active ∧ row.2.currentPeriodEnd ≤ now

theorem due_pending (state : BillingState) (locked : UUID → Bool) (now : Time) :
    state.Pending now (state.due locked now) := by
  constructor
  · have sorted := List.mergeSort_perm (state.subscriptions.rows.filter fun row =>
      row.2.status = .active && row.2.currentPeriodEnd ≤ now && !locked row.1)
      fun left right => left.2.currentPeriodEnd ≤ right.2.currentPeriodEnd
    have nodup := state.subscriptions.nodup.sublist
      ((List.filter_sublist (p := fun row => row.2.status = .active &&
        row.2.currentPeriodEnd ≤ now && !locked row.1)).map Prod.fst)
    exact ((sorted.map Prod.fst).nodup_iff.mpr nodup).sublist ((List.take_sublist _ _).map Prod.fst)
  · intro row member
    have sorted := List.mem_mergeSort.mp (List.mem_of_mem_take member)
    rw [List.mem_filter] at sorted
    simp only [Bool.and_eq_true, decide_eq_true_eq] at sorted
    exact ⟨(Table.get?_eq_some_iff _ _ _).mpr sorted.1, sorted.2.1.1, sorted.2.1.2⟩

/-- The round of one row leaves the rows after it as they are. -/
theorem Pending.tail {row : UUID × AppSubscription} {rest : List (UUID × AppSubscription)}
    {sub' : AppSubscription} (pending : state.Pending now (row :: rest))
    (written : after.subscriptions = state.subscriptions.set row.1 sub') :
    after.Pending now rest := by
  obtain ⟨nodup, pending⟩ := pending
  rw [List.map_cons, List.nodup_cons] at nodup
  refine ⟨nodup.2, fun other member => ?_⟩
  have different : other.1 ≠ row.1 := by
    intro same
    exact nodup.1 (same ▸ List.mem_map_of_mem member)
  obtain ⟨found, facts⟩ := pending other (List.mem_cons_of_mem _ member)
  exact ⟨by rw [written, Table.get?_set, if_neg different, found], facts⟩

theorem renewDue_timely {clock : Time} (timely : Timely state clock) (le : clock ≤ now)
    {locked : UUID → Bool} {chargeId : UUID → UUID}
    (ok : state.renewDue catalogue locked chargeId now = .ok after) :
    Timely after now ∧ Advances state after := by
  have swept := Outcome.foldlM_ok_rest
    (P := fun mid rows => mid.Pending now rows ∧ Timely mid now ∧ Advances state mid)
    (fun before row rest after facts ok => ?_) ok
    ⟨due_pending state locked now, timely.later le, Advances.refl state⟩
  · exact swept.2
  · obtain ⟨pending, timely, advances⟩ := facts
    obtain ⟨found, active, due⟩ := pending.2 row List.mem_cons_self
    obtain ⟨timely', advances', sub', written⟩ := renew_timely timely found active due ok
    exact ⟨pending.tail written, timely', advances.trans timely advances'⟩

theorem recordUsage_timely (timely : Timely state now) {description idempotencyKey : String}
    {amountCents units : Option Int} {new : Bool}
    (ok : state.recordUsage catalogue installation app description idempotencyKey amountCents units
      chargeId now = .ok (after, new)) : Timely after now ∧ Advances state after := by
  rcases recordUsage_ok ok with shape | ⟨sub, amount, usage, books, tx, note, subscriptions, -,
    charged, rest⟩
  · rw [shape]
    exact ⟨timely, Advances.refl state⟩
  have key := OtherKey.usage installation.id idempotencyKey
  cases tx with
  | none =>
      apply timely.other_rows subscriptions
      · rw [rest]
        exact fun _ taken => taken
      · rw [rest]
        exact fun _ taken => .inl taken
  | some tx =>
      obtain ⟨subscriptionId, subject, booked, -, book, shape⟩ := rest
      have taken (other : String) : after.books.Taken other ↔ state.books.Taken other ∨
          other = usageKey installation.id idempotencyKey := by
        rw [shape, Books.taken_congr (Books.book_transactions book), Books.charge_taken charged]
      exact timely.other_rows subscriptions (fun other before => (taken other).mpr (.inl before))
        fun other after => ((taken other).mp after).imp_right fun same => by
          rw [same]
          exact key

theorem purchaseTheme_timely (timely : Timely state now) {theme : Theme}
    {storeId tenantId userId purchaseId : UUID} {charged : Bool}
    (ok : state.purchaseTheme catalogue theme storeId tenantId userId purchaseId chargeId now =
      .ok (after, charged)) : Timely after now ∧ Advances state after := by
  rcases purchaseTheme_ok ok with shape |
    ⟨earlier, books, tx, note, subject, booked, purchases, -, -, charged, book, shape⟩
  · rw [shape]
    exact ⟨timely, Advances.refl state⟩
  have taken (other : String) : after.books.Taken other ↔ state.books.Taken other ∨
      other = themeKey storeId theme.id earlier := by
    rw [shape, Books.taken_congr (Books.book_transactions book), Books.charge_taken charged]
  exact timely.other_rows (by rw [shape]) (fun other before => (taken other).mpr (.inl before))
    fun other after => ((taken other).mp after).imp_right fun same => by
      rw [same]
      exact .theme storeId theme.id earlier

theorem refundCharge_timely (timely : Timely state now) {id actorUserId : UUID} {note : String}
    {refunded : Bool}
    (ok : state.refundCharge id chargeId actorUserId note now = .ok (after, refunded)) :
    Timely after now ∧ Advances state after := by
  obtain ⟨tx, subscriptions, shape | refund⟩ := refundCharge_ok ok
  · rw [shape]
    exact ⟨timely, Advances.refl state⟩
  · have taken := Books.refundCharge_taken refund
    exact timely.other_rows subscriptions taken.1 fun other after =>
      (taken.2 other after).imp_right fun same => by
        rw [same]
        exact .refund chargeId

theorem cancel_timely (timely : Timely state now) (installationId : UUID) :
    Timely (state.cancel installationId) now ∧ Advances state (state.cancel installationId) := by
  simp only [cancel]
  split
  · exact ⟨timely, Advances.refl state⟩
  · rename_i sub found
    rw [Option.filter_eq_some_iff, decide_eq_true_eq] at found
    exact timely.kept found.1 rfl rfl rfl rfl fun inactive => absurd found.2 inactive

end Calls
end BillingState

/-- The clock of a call. -/
def BillingLabel.now? : BillingLabel → Option Time
  | .subscribe _ _ _ _ _ _ now => some now
  | .cancel _ => none
  | .renewDue _ _ _ now => some now
  | .recordUsage _ _ _ _ _ _ _ _ now => some now
  | .purchaseTheme _ _ _ _ _ _ _ now => some now
  | .refundCharge _ _ _ _ now => some now
  | .setWallet _ _ => none

theorem BillingState.step_timely [UpperCase] {state : BillingState} {clock : Time}
    (timely : Timely state clock) (label : BillingLabel)
    (onTime : label.now?.all (clock ≤ ·) = true) :
    Timely (state.step label) (label.now?.getD clock) ∧ Advances state (state.step label) := by
  have failed (now : Time) (le : clock ≤ now) : Timely state now ∧ Advances state state :=
    ⟨timely.later le, Advances.refl state⟩
  cases label with
  | subscribe catalogue installation app couponCode newId chargeId now =>
      have le : clock ≤ now := of_decide_eq_true onTime
      refine Outcome.orKeep_keeps (P := fun after => Timely after now ∧ Advances state after)
        (failed now le) fun after ok => ?_
      obtain ⟨⟨mid, started⟩, returned, rfl⟩ := Outcome.map_eq_ok.mp ok
      exact subscribe_timely timely le returned
  | cancel installationId => exact cancel_timely timely installationId
  | renewDue catalogue locked chargeId now =>
      have le : clock ≤ now := of_decide_eq_true onTime
      exact Outcome.orKeep_keeps (P := fun after => Timely after now ∧ Advances state after)
        (failed now le) fun after ok => renewDue_timely timely le ok
  | recordUsage catalogue installation app description idempotencyKey amountCents units chargeId
      now =>
      have le : clock ≤ now := of_decide_eq_true onTime
      refine Outcome.orKeep_keeps (P := fun after => Timely after now ∧ Advances state after)
        (failed now le) fun after ok => ?_
      obtain ⟨⟨mid, new⟩, returned, rfl⟩ := Outcome.map_eq_ok.mp ok
      exact recordUsage_timely (timely.later le) returned
  | purchaseTheme catalogue theme storeId tenantId userId purchaseId chargeId now =>
      have le : clock ≤ now := of_decide_eq_true onTime
      refine Outcome.orKeep_keeps (P := fun after => Timely after now ∧ Advances state after)
        (failed now le) fun after ok => ?_
      obtain ⟨⟨mid, charged⟩, returned, rfl⟩ := Outcome.map_eq_ok.mp ok
      exact purchaseTheme_timely (timely.later le) returned
  | refundCharge id chargeId actorUserId note now =>
      have le : clock ≤ now := of_decide_eq_true onTime
      refine Outcome.orKeep_keeps (P := fun after => Timely after now ∧ Advances state after)
        (failed now le) fun after ok => ?_
      obtain ⟨⟨mid, refunded⟩, returned, rfl⟩ := Outcome.map_eq_ok.mp ok
      exact refundCharge_timely (timely.later le) returned
  | setWallet tenantId wallet =>
      exact timely.other_rows rfl (fun _ taken => taken) fun _ taken => .inl taken

/-- A run with its clock and the periods it gave one installation, in order. -/
structure Track where
  state : BillingState := {}
  clock : Time := 0
  history : List Period := []

namespace Track

def period (track : Track) (id : UUID) : Option Period :=
  (track.state.subscriptions.get? id).map AppSubscription.period

def step [UpperCase] (id : UUID) (track : Track) (label : BillingLabel) : Track :=
  let after := track.state.step label
  let period := (after.subscriptions.get? id).map AppSubscription.period
  { state := after
    clock := label.now?.getD track.clock
    history := if period = track.period id then track.history
      else track.history ++ period.toList }

/-- The clock does not run back. -/
def OnTime (track : Track) (label : BillingLabel) : Prop :=
  label.now?.all (track.clock ≤ ·) = true

instance (track : Track) (label : BillingLabel) : Decidable (track.OnTime label) :=
  inferInstanceAs (Decidable (_ = true))

/-- The wallet row charges the period. -/
def Charges (track : Track) (id : UUID) (period : Period) (rowId : UUID) : Prop :=
  ∃ row sub, track.state.books.transactions.get? rowId = some row ∧
    track.state.subscriptions.get? id = some sub ∧
    ∃ key ∈ periodKeys id sub.id period.start, row.idempotencyKey = some key

/-- The periods do not overlap, none is charged twice, and the app is covered only in the last of
them or in the grace days after it, which is a trial, free or paid for. -/
structure Lawful (id : UUID) (track : Track) : Prop where
  disjoint : track.history.Pairwise fun earlier later => earlier.until_ ≤ later.start
  once : ∀ period ∈ track.history, ∀ first second, track.Charges id period first →
    track.Charges id period second → first = second
  covered : ∀ now, track.clock ≤ now →
    covers (track.state.subscriptions.get? id) now = true →
      ∃ period, track.history.getLast? = some period ∧ period.start ≤ now ∧
        now < period.until_ + grace ∧
        (period.trial = true ∨ period.priceCents = 0 ∨ ∃ rowId, track.Charges id period rowId)

/-- What the run keeps of the history. -/
structure Sound (id : UUID) (track : Track) : Prop where
  books : WellKept track.state.books
  timely : Timely track.state track.clock
  last : track.history.getLast? = track.period id
  disjoint : track.history.Pairwise fun earlier later => earlier.until_ ≤ later.start
  bounded : ∀ period ∈ track.history, ∀ sub, track.state.subscriptions.get? id = some sub →
    period.until_ ≤ sub.currentPeriodEnd

theorem Sound.step [UpperCase] {id : UUID} {track : Track} (sound : Sound id track)
    {label : BillingLabel} (onTime : track.OnTime label) : Sound id (track.step id label) := by
  obtain ⟨timely, advances⟩ := BillingState.step_timely sound.timely label onTime
  have books := BillingState.step_wellKept sound.books label
  by_cases same : ((track.state.step label).subscriptions.get? id).map AppSubscription.period =
      track.period id
  · have kept : (track.step id label).history = track.history := if_pos same
    refine ⟨books, timely, ?_, ?_, fun period member sub found => ?_⟩
    · rw [kept, sound.last]
      exact same.symm
    · rw [kept]
      exact sound.disjoint
    · rw [kept] at member
      have present : track.period id = some sub.period := by
        rw [← same]
        exact congrArg (Option.map AppSubscription.period) found
      obtain ⟨old, found', period'⟩ := Option.map_eq_some_iff.mp present
      have until_ : old.currentPeriodEnd = sub.currentPeriodEnd := congrArg Period.until_ period'
      exact until_ ▸ sound.bounded period member old found'
  · cases found : (track.state.step label).subscriptions.get? id with
    | none =>
        -- A subscription is never dropped, so there was none.
        exfalso
        rw [found] at same
        cases old : track.state.subscriptions.get? id with
        | none => exact same (by rw [period, old])
        | some sub =>
            obtain ⟨sub', found', -⟩ := advances.periods id sub old
            rw [found] at found'
            cases found'
    | some sub =>
        have grown : (track.step id label).history = track.history ++ [sub.period] := by
          rw [Track.step]
          simp only [found, Option.map_some, Option.toList_some]
          rw [found] at same
          exact if_neg same
        have proper := timely.proper id sub found
        have after (period : Period) (member : period ∈ track.history) :
            period.until_ ≤ sub.currentPeriodStart := by
          cases old : track.state.subscriptions.get? id with
          | none =>
              have empty : track.history = [] := by
                rw [← List.getLast?_eq_none_iff, sound.last, Track.period, old]
                rfl
              rw [empty] at member
              cases member
          | some before =>
              have bound := sound.bounded period member before old
              obtain ⟨sub', found', -, unmoved | later⟩ := advances.periods id before old
              · rw [found] at found'
                cases found'
                rw [found, Track.period, old, Option.map_some, Option.map_some, unmoved] at same
                exact absurd rfl same
              · rw [found] at found'
                cases found'
                exact bound.trans later
        refine ⟨books, timely, ?_, ?_, fun period member sub' found' => ?_⟩
        · rw [grown, List.getLast?_concat]
          show _ = Option.map _ _
          rw [show (track.step id label).state = track.state.step label from rfl, found]
          rfl
        · rw [grown, List.pairwise_append]
          refine ⟨sound.disjoint, List.pairwise_singleton _ _, fun earlier member later new => ?_⟩
          rw [List.mem_singleton] at new
          rw [new]
          exact after earlier member
        · have same : sub' = sub := Option.some.inj (found'.symm.trans found)
          rw [same]
          rw [grown, List.mem_append, List.mem_singleton] at member
          rcases member with old | new
          · exact (after period old).trans proper.le
          · rw [new]
            exact le_rfl

theorem coverageEnd_le {sub : AppSubscription} {until_ : Time}
    (ends : coverageEnd sub = some until_) : until_ ≤ sub.currentPeriodEnd + grace := by
  rw [coverageEnd] at ends
  split at ends
  · cases ends
  split at ends
  · rw [← Option.some.inj ends]
    exact Nat.le_add_right _ _
  · rw [← Option.some.inj ends]

theorem covers_before {sub : AppSubscription} {now : Time} (covered : covers (some sub) now = true) :
    now < sub.currentPeriodEnd + grace := by
  rw [covers, Option.bind_some] at covered
  cases ends : coverageEnd sub with
  | none =>
      rw [ends] at covered
      cases covered
  | some until_ =>
      rw [ends, Option.map_some, Option.getD_some, decide_eq_true_eq] at covered
      exact covered.trans_le (coverageEnd_le ends)

theorem Sound.lawful {id : UUID} {track : Track} (sound : Sound id track) : Lawful id track := by
  refine ⟨sound.disjoint, ?_, ?_⟩
  · intro period _ first second charges charges'
    obtain ⟨row, sub, found, present, key, member, keyed⟩ := charges
    obtain ⟨row', sub', found', present', key', member', keyed'⟩ := charges'
    rw [present] at present'
    cases present'
    have taken : track.state.books.Taken key := ⟨first, row, found, keyed⟩
    have taken' : track.state.books.Taken key' := ⟨second, row', found', keyed'⟩
    simp only [periodKeys, List.mem_cons, List.not_mem_nil, or_false] at member member'
    have same : key = key' := by
      rcases member with rfl | rfl <;> rcases member' with rfl | rfl
      · rfl
      · exact absurd taken' (sound.timely.exclusive id sub _ present taken)
      · exact absurd taken (sound.timely.exclusive id sub _ present taken')
      · rfl
    exact sound.books.distinct first second row row' found found' (by rw [keyed, keyed', same])
  · intro now le covered
    cases present : track.state.subscriptions.get? id with
    | none =>
        rw [present] at covered
        cases covered
    | some sub =>
        have last := sound.last
        rw [Track.period, present, Option.map_some] at last
        refine ⟨sub.period, last, (sound.timely.begun id sub present).trans le, ?_, ?_⟩
        · rw [present] at covered
          have until_ : sub.period.until_ = sub.currentPeriodEnd := rfl
          rw [until_]
          exact covers_before covered
        · rcases sound.timely.paid id sub present with trial | free | ⟨key, member, taken⟩
          · exact .inl trial
          · exact .inr (.inl free)
          · obtain ⟨rowId, row, found, keyed⟩ := taken
            exact .inr (.inr ⟨rowId, row, sub, found, present, key, member, keyed⟩)

end Track

/-- In every run whose clock does not run back, the periods of an installation are lawful in every
state. -/
theorem subscription_periods_lawful [UpperCase] (id : UUID) (labels : List BillingLabel)
    (chronological : Run.Guarded (Track.step id) Track.OnTime {} labels) :
    Run.Always (Track.step id) (Track.Lawful id) {} labels := by
  have initial : Track.Sound id {} := by
    refine ⟨wellKept_empty, ?_, rfl, .nil, fun period member => nomatch member⟩
    constructor
    · intro first second sub sub' found
      cases found
    · intro other sub found
      cases found
    · intro other sub found
      cases found
    · intro other sub found
      cases found
    · rintro other start ⟨rowId, row, found, -⟩
      cases found
    · rintro subId start ⟨rowId, row, found, -⟩
      cases found
    · intro other sub start found
      cases found
    · intro other sub found
      cases found
  have always := Run.always_of_guarded (I := Track.Sound id) (G := Track.OnTime)
    (fun track label sound onTime => Track.Sound.step sound onTime) initial chronological
  exact always.mono fun track sound => sound.lawful

/-- A store subscribes, is renewed once, cancels, and subscribes again later. -/
def resubscribed : List BillingLabel :=
  let installation : Installation := { id := 4, tenantId := 1, storeId := 2 }
  let catalogue : Catalogue :=
    { apps := fun _ => some labelsApp, installations := fun _ => some installation }
  [.setWallet 1 { balanceCents := 50000 },
    .subscribe catalogue installation labelsApp none 5 6 0,
    .renewDue catalogue (fun _ => false) (fun _ => 7) (31 * Calendar.dayLength),
    .cancel 4,
    .renewDue catalogue (fun _ => false) (fun _ => 8) (61 * Calendar.dayLength),
    .subscribe catalogue installation labelsApp none 9 10 (70 * Calendar.dayLength)]

theorem resubscribed_lawful :
    let _ := UpperCase.ascii
    Run.Always (Track.step 4) (Track.Lawful 4) {} resubscribed := by
  intro _
  exact subscription_periods_lawful 4 resubscribed (by decide +kernel)

/-- The periods of that run. -/
example :
    let _ := UpperCase.ascii
    (Run.run (Track.step 4) {} resubscribed).history.map (fun period =>
      (period.start / Calendar.dayLength, period.until_ / Calendar.dayLength)) =
        [(0, 30), (30, 60), (70, 100)] := by decide +kernel

end Numu.AppBilling
