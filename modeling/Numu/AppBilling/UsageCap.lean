import Numu.AppBilling.Periods

/-! The cap on what an app may charge for usage in one period. -/

namespace Numu.AppBilling
open Numu.Orders (UUID Time)
open Numu.Invoices (UpperCase)
open Numu.Outcome (bind_eq_ok)

section Keys

theorem usageKey_injective {first second : UUID} {key key' : String}
    (same : usageKey first key = usageKey second key') : first = second ∧ key = key' := by
  have chars := congrArg String.toList same
  simp only [usageKey, toString, String.toList_append, List.append_assoc,
    List.append_cancel_left_eq] at chars
  obtain ⟨id, rest⟩ := UuidText.writeUuid_split chars
  rw [List.append_cancel_left_eq] at rest
  exact ⟨id, String.toList_injective rest⟩

theorem usageKey_ne_themeKey (installationId storeId themeId : UUID) (key : String)
    (earlier : Nat) : usageKey installationId key ≠ themeKey storeId themeId earlier := by
  intro same
  have chars := congrArg String.toList same
  simp [usageKey, themeKey_toList, toString] at chars

theorem usageKey_ne_refundKey (installationId chargeId : UUID) (key : String) :
    usageKey installationId key ≠ Books.refundKey chargeId := by
  intro same
  have chars := congrArg String.toList same
  simp [usageKey, Books.refundKey, toString] at chars

theorem usageKey_ne_startKey (installationId other : UUID) (key : String) (start : Time) :
    usageKey installationId key ≠ startKey other start := by
  intro same
  apply (OtherKey.usage installationId key).not_mem other 0 start
  rw [same]
  exact List.mem_cons_self

theorem usageKey_ne_renewKey (installationId other : UUID) (key : String) (start : Time) :
    usageKey installationId key ≠ renewKey other start := by
  intro same
  apply (OtherKey.usage installationId key).not_mem 0 other start
  rw [same]
  exact List.mem_cons_of_mem _ List.mem_cons_self

end Keys

/-- Usage within the cap, and one record and one debit for each idempotency key. -/
structure Metered (state : BillingState) : Prop where
  capped : ∀ id sub, state.subscriptions.get? id = some sub →
    state.usageUsedCents sub ≤ sub.usageCapCents.getD 0
  recorded : ∀ first ∈ state.usage.rows, ∀ second ∈ state.usage.rows,
    first.1 = second.1 → first = second
  debited : ∀ installationId key first second row row',
    state.books.transactions.get? first = some row →
    state.books.transactions.get? second = some row' →
    row.idempotencyKey = some (usageKey installationId key) →
    row'.idempotencyKey = some (usageKey installationId key) → first = second
  /-- There is a debit exactly where there is a record. -/
  paired : ∀ installationId key, state.books.Taken (usageKey installationId key) ↔
    (state.usage.get? (installationId, key)).isSome

/-- What the runs keep of the usage and of the periods it was charged in. -/
structure Metering (state : BillingState) : Prop where
  books : WellKept state.books
  ids : ∀ first second sub sub', state.subscriptions.get? first = some sub →
    state.subscriptions.get? second = some sub' → sub.id = sub'.id → first = second
  proper : ∀ id sub, state.subscriptions.get? id = some sub →
    sub.currentPeriodStart < sub.currentPeriodEnd
  begun : ∀ row ∈ state.usage.rows, ∃ id sub, state.subscriptions.get? id = some sub ∧
    sub.id = row.2.subscriptionId ∧ row.2.periodStart ≤ sub.currentPeriodStart
  capped : ∀ id sub, state.subscriptions.get? id = some sub →
    state.usageUsedCents sub ≤ sub.usageCapCents.getD 0
  paired : ∀ installationId key, state.books.Taken (usageKey installationId key) ↔
    (state.usage.get? (installationId, key)).isSome

section Sums
variable {state after : BillingState} {sub : AppSubscription}

/-- The record belongs to the subscription's current period. -/
def AppSubscription.Current (sub : AppSubscription) (record : UsageRecord) : Prop :=
  record.subscriptionId = sub.id ∧ record.periodStart = sub.currentPeriodStart

theorem usageUsedCents_eq_sum :
    state.usageUsedCents sub = ((state.usage.rows.filter fun row =>
      row.2.subscriptionId = sub.id && row.2.periodStart = sub.currentPeriodStart).map fun row =>
        row.2.amountCents).sum := by
  rw [BillingState.usageUsedCents, List.sum_eq_foldl, List.foldl_map]

theorem usageUsedCents_none (none_ : ∀ row ∈ state.usage.rows, ¬sub.Current row.2) :
    state.usageUsedCents sub = 0 := by
  rw [usageUsedCents_eq_sum, List.filter_eq_nil_iff.mpr]
  · rfl
  · intro row member
    simpa [AppSubscription.Current] using none_ row member

/-- A new record adds its amount to its own period, and to no other. -/
theorem usageUsedCents_set {key : UUID × String} {record : UsageRecord}
    (absent : state.usage.get? key = none)
    (written : after.usage = state.usage.set key record) :
    after.usageUsedCents sub = state.usageUsedCents sub +
      if record.subscriptionId = sub.id && record.periodStart = sub.currentPeriodStart then
        record.amountCents else 0 := by
  rw [usageUsedCents_eq_sum, usageUsedCents_eq_sum, written, Table.set_rows_of_absent _ absent,
    List.filter_append, List.map_append, List.sum_append]
  congr 1
  split
  · rename_i current
    rw [List.filter_cons_of_pos (by simpa using current)]
    simp
  · rename_i other
    rw [List.filter_cons_of_neg (by simpa using other)]
    rfl

theorem usageUsedCents_congr {sub' : AppSubscription} (usage : after.usage = state.usage)
    (id : sub'.id = sub.id) (start : sub'.currentPeriodStart = sub.currentPeriodStart) :
    after.usageUsedCents sub' = state.usageUsedCents sub := by
  rw [usageUsedCents_eq_sum, usageUsedCents_eq_sum, usage, id, start]

end Sums

section Moves
variable {state after : BillingState}

/-- A call that charges no usage takes no usage key. -/
def KeepsDebits (state after : BillingState) : Prop :=
  ∀ installationId key, after.books.Taken (usageKey installationId key) ↔
    state.books.Taken (usageKey installationId key)

theorem keepsDebits_of_transactions
    (same : after.books.transactions = state.books.transactions) : KeepsDebits state after :=
  fun installationId key => Books.taken_congr same (usageKey installationId key)

/-- A charge under another key. -/
theorem keepsDebits_of_charge {books : Books} {id tenantId : UUID} {amount : Int}
    {currency chargeKey note : String} {tx : Charged}
    (charged : state.books.charge id tenantId amount currency chargeKey note
      = .ok (books, some tx))
    (written : after.books.transactions = books.transactions)
    (other : ∀ installationId key, usageKey installationId key ≠ chargeKey) :
    KeepsDebits state after := by
  intro installationId key
  rw [Books.taken_congr written, Books.charge_taken charged]
  exact or_iff_left (other installationId key)

theorem Metering.of_same (metering : Metering state) (books : WellKept after.books)
    (subscriptions : after.subscriptions = state.subscriptions) (usage : after.usage = state.usage)
    (debits : KeepsDebits state after) : Metering after where
  books := books
  ids := subscriptions ▸ metering.ids
  proper := subscriptions ▸ metering.proper
  begun := by
    rw [usage, subscriptions]
    exact metering.begun
  capped := by
    intro id sub found
    rw [subscriptions] at found
    rw [usageUsedCents_congr usage rfl rfl]
    exact metering.capped id sub found
  paired := by
    intro installationId key
    rw [debits installationId key, usage]
    exact metering.paired installationId key

/-- A call that charges no usage writes one subscription: in the period it is in, or moving it to a
later one. -/
structure Writes (state after : BillingState) (id : UUID) (sub' : AppSubscription) : Prop where
  subscriptions : after.subscriptions = state.subscriptions.set id sub'
  usage : after.usage = state.usage
  debits : KeepsDebits state after
  proper : sub'.currentPeriodStart < sub'.currentPeriodEnd
  follows : ∀ sub, state.subscriptions.get? id = some sub → sub'.id = sub.id ∧
    (sub'.currentPeriodStart = sub.currentPeriodStart ∧ sub'.usageCapCents = sub.usageCapCents ∨
      sub.currentPeriodStart < sub'.currentPeriodStart)
  fresh : state.subscriptions.get? id = none →
    ∀ other sub, state.subscriptions.get? other = some sub → sub.id ≠ sub'.id

namespace Writes
variable {id : UUID} {sub' : AppSubscription}

theorem rows (writes : Writes state after id sub') {other : UUID} {sub : AppSubscription}
    (found : after.subscriptions.get? other = some sub) :
    other = id ∧ sub = sub' ∨ other ≠ id ∧ state.subscriptions.get? other = some sub := by
  rw [writes.subscriptions, Table.get?_set] at found
  split at found
  · rename_i same
    cases found
    exact Or.inl ⟨same, rfl⟩
  · rename_i different
    exact Or.inr ⟨different, found⟩

/-- No other subscription has the id. -/
theorem owner (writes : Writes state after id sub') (metering : Metering state) {other : UUID}
    {sub : AppSubscription} (found : state.subscriptions.get? other = some sub)
    (same : sub.id = sub'.id) : other = id := by
  cases present : state.subscriptions.get? id with
  | none => exact absurd same (writes.fresh present other sub found)
  | some old =>
      exact metering.ids other id sub old found present
        (same.trans (writes.follows old present).1)

/-- The usage of the written subscription's period: the same period's, or none yet. -/
theorem capped (writes : Writes state after id sub') (metering : Metering state) :
    after.usageUsedCents sub' ≤ sub'.usageCapCents.getD 0 := by
  -- A record of the new row belongs to a subscription that is there.
  have unused (later : ∀ old, state.subscriptions.get? id = some old →
      old.currentPeriodStart < sub'.currentPeriodStart) :
      after.usageUsedCents sub' ≤ sub'.usageCapCents.getD 0 := by
    have nothing : after.usageUsedCents sub' = 0 := by
      apply usageUsedCents_none
      intro row member current
      rw [writes.usage] at member
      rcases metering.begun row member with ⟨other, sub, found, same, began⟩
      have here := writes.owner metering found (same.trans current.1)
      rw [here] at found
      rw [current.2] at began
      exact absurd (began.trans_lt (later sub found)) (lt_irrefl _)
    rw [nothing]
    exact Int.natCast_nonneg _
  cases present : state.subscriptions.get? id with
  | none =>
      apply unused
      intro old found
      rw [present] at found
      cases found
  | some old =>
      rcases writes.follows old present with ⟨sameId, ⟨start, cap⟩ | later⟩
      · rw [usageUsedCents_congr writes.usage sameId start, cap]
        exact metering.capped id old present
      · apply unused
        intro other found
        rw [present] at found
        cases found
        exact later

theorem metering (writes : Writes state after id sub') (metering : Metering state)
    (books : WellKept after.books) : Metering after where
  books := books
  ids := by
    intro first second row row' found found' same
    rcases writes.rows found with ⟨rfl, rfl⟩ | ⟨-, old⟩
    · rcases writes.rows found' with ⟨here, -⟩ | ⟨-, old'⟩
      · exact here.symm
      · exact (writes.owner metering old' same.symm).symm
    · rcases writes.rows found' with ⟨rfl, rfl⟩ | ⟨-, old'⟩
      · exact writes.owner metering old same
      · exact metering.ids first second row row' old old' same
  proper := by
    intro other row found
    rcases writes.rows found with ⟨-, rfl⟩ | ⟨-, old⟩
    · exact writes.proper
    · exact metering.proper other row old
  begun := by
    intro row member
    rw [writes.usage] at member
    rcases metering.begun row member with ⟨other, sub, found, same, began⟩
    rcases eq_or_ne other id with rfl | different
    · refine ⟨other, sub', ?_, ?_, ?_⟩
      · rw [writes.subscriptions, Table.get?_set, if_pos rfl]
      · exact (writes.follows sub found).1.trans same
      · rcases (writes.follows sub found).2 with ⟨start, -⟩ | later
        · exact began.trans start.ge
        · exact began.trans later.le
    · refine ⟨other, sub, ?_, same, began⟩
      rw [writes.subscriptions, Table.get?_set, if_neg different, found]
  capped := by
    intro other row found
    rcases writes.rows found with ⟨-, rfl⟩ | ⟨-, old⟩
    · exact writes.capped metering
    · rw [usageUsedCents_congr writes.usage rfl rfl]
      exact metering.capped other row old
  paired := by
    intro installationId key
    rw [writes.debits installationId key, writes.usage]
    exact metering.paired installationId key

end Writes
end Moves

namespace BillingState
section Calls
variable {state after : BillingState} {catalogue : Catalogue} {installation : Installation}
  {app : App} {newId chargeId : UUID} {now : Time}

theorem finishSubscribe_usage {sub : AppSubscription} {coupon : Option (UUID × AppCoupon)}
    {applied : Bool} {charged : Option (Quote × Charged)}
    (ok : state.finishSubscribe installation app sub coupon applied charged now = .ok after) :
    after.usage = state.usage := by
  obtain ⟨⟨redeemed, sub'⟩, redemption, rest⟩ := bind_eq_ok.mp ok
  have usage : redeemed.usage = state.usage := by
    cases coupon with
    | none =>
        cases redemption
        rfl
    | some coupon =>
        simp only [redeemAny, redeem] at redemption
        split at redemption
        · cases redemption
        · cases redemption
          rfl
  cases charged with
  | none =>
      cases rest
      exact usage
  | some charged =>
      obtain ⟨booked, book, rest⟩ := bind_eq_ok.mp rest
      cases rest
      exact usage

/-- The clock of a `subscribe` call that replaces a period is past the period's start. -/
def InSequence (state : BillingState) : BillingLabel → Prop
  | .subscribe _ installation _ _ _ _ now =>
      (state.subscriptions.get? installation.id).all (fun sub =>
        paidThrough sub now || decide (sub.currentPeriodStart < now)) = true
  | _ => True

instance : ∀ (state : BillingState) (label : BillingLabel), Decidable (state.InSequence label)
  | _, .subscribe .. => inferInstanceAs (Decidable (_ = true))
  | _, .cancel _ => isTrue trivial
  | _, .renewDue .. => isTrue trivial
  | _, .recordUsage .. => isTrue trivial
  | _, .purchaseTheme .. => isTrue trivial
  | _, .refundCharge .. => isTrue trivial
  | _, .setWallet .. => isTrue trivial

theorem subscribe_metering [UpperCase] (metering : Metering state) {couponCode : Option String}
    {started : Bool}
    (sequenced : state.InSequence
      (.subscribe catalogue installation app couponCode newId chargeId now))
    (ok : state.subscribe catalogue installation app couponCode newId chargeId now =
      .ok (after, started)) : Metering after := by
  have books := subscribe_wellKept metering.books ok
  rcases subscribe_ok ok with ⟨paid, found, through, shape⟩ | shape |
    ⟨price, coupon, starts, -, started⟩
  · have writes : Writes state after installation.id { paid with cancelAtPeriodEnd := false } := by
      rw [shape]
      refine ⟨rfl, rfl, keepsDebits_of_transactions rfl, metering.proper _ paid found, ?_, ?_⟩
      · intro sub present
        rw [found] at present
        cases present
        exact ⟨rfl, Or.inl ⟨rfl, rfl⟩⟩
      · intro absent
        rw [found] at absent
        cases absent
    exact writes.metering metering books
  · rw [shape]
    exact metering
  have opened (mid : BillingState) {trial : Bool} {days : Nat} (positive : 0 < days)
      (subscriptions : mid.subscriptions = state.subscriptions) (usage : mid.usage = state.usage)
      {applied : Bool} {charged : Option (Quote × Charged)}
      (finished : mid.finishSubscribe installation app
        (startPeriod installation app price newId (state.subscriptions.get? installation.id) trial
          now (now + days * Calendar.dayLength)) coupon applied charged now = .ok after)
      (debits : after.books.transactions = mid.books.transactions → KeepsDebits state after) :
      Metering after := by
    obtain ⟨sub', written, transactions, id, period, status⟩ := finishSubscribe_writes finished
    rw [AppSubscription.period, AppSubscription.period, Period.mk.injEq] at period
    obtain ⟨start, until_, -, -⟩ := period
    have length : 0 < days * Calendar.dayLength := Nat.mul_pos positive (by decide)
    have writes : Writes state after installation.id sub' := by
      refine ⟨written.trans (by rw [subscriptions]), (finishSubscribe_usage finished).trans usage,
        debits transactions, ?_, ?_, ?_⟩
      · rw [start, until_]
        exact Nat.lt_add_of_pos_right length
      · intro sub found
        rw [id, start, found]
        refine ⟨rfl, Or.inr ?_⟩
        have lapsed := starts.lapsed sub found
        simp only [InSequence, found, Option.all_some, lapsed, Bool.false_or,
          decide_eq_true_eq] at sequenced
        exact sequenced
      · intro absent other sub found
        rw [id, absent]
        exact starts.fresh absent _ ((Table.get?_eq_some_iff _ _ _).mp found)
    exact writes.metering metering books
  rcases started with ⟨trials, positive, finished⟩ | ⟨free, finished⟩ |
    ⟨charged, tx, taken, finished⟩
  · exact opened { state with trials := trials } positive rfl rfl finished
      keepsDebits_of_transactions
  · exact opened state price.cycle.days_pos rfl rfl finished keepsDebits_of_transactions
  · exact opened { state with books := charged } price.cycle.days_pos rfl rfl finished
      fun written => keepsDebits_of_charge taken written
        fun other key => usageKey_ne_startKey other installation.id key now

/-- A round of the sweep over the row as it is stored. -/
theorem renew_metering (metering : Metering state) {chargeId : UUID → UUID}
    {installationId : UUID} {sub : AppSubscription}
    (found : state.subscriptions.get? installationId = some sub)
    (ok : state.renew catalogue chargeId now installationId sub = .ok after) :
    Metering after ∧ ∃ sub', after.subscriptions = state.subscriptions.set installationId sub' := by
  have books := renew_wellKept metering.books ok
  have proper := metering.proper installationId sub found
  have moved {sub' : AppSubscription}
      (subscriptions : after.subscriptions = state.subscriptions.set installationId sub')
      (usage : after.usage = state.usage) (debits : KeepsDebits state after)
      (id : sub'.id = sub.id)
      (period : sub'.period = sub.period ∧ sub'.usageCapCents = sub.usageCapCents ∨
        sub'.period = (nextPeriod sub).period) :
      Metering after ∧
        ∃ sub', after.subscriptions = state.subscriptions.set installationId sub' := by
    have writes : Writes state after installationId sub' := by
      refine ⟨subscriptions, usage, debits, ?_, ?_, ?_⟩
      · rcases period with ⟨same, -⟩ | next
        · rw [AppSubscription.period, AppSubscription.period, Period.mk.injEq] at same
          rw [same.1, same.2.1]
          exact proper
        · rw [AppSubscription.period, AppSubscription.period, Period.mk.injEq] at next
          rw [next.1, next.2.1]
          exact Nat.lt_add_of_pos_right (Nat.mul_pos sub.cycle.days_pos (by decide))
      · intro old present
        rw [found] at present
        cases present
        refine ⟨id, ?_⟩
        rcases period with ⟨same, cap⟩ | next
        · exact Or.inl ⟨congrArg Period.start same, cap⟩
        · exact Or.inr (proper.trans_eq (congrArg Period.start next).symm)
      · intro absent
        rw [found] at absent
        cases absent
    exact ⟨writes.metering metering books, sub', subscriptions⟩
  rcases renew_ok ok with ⟨status, -, shape⟩ | ⟨-, ⟨free, shape⟩ |
    ⟨app, charged, tx, note, taken, rest⟩⟩
  · subst shape
    exact moved rfl rfl (keepsDebits_of_transactions rfl) rfl (Or.inl ⟨rfl, rfl⟩)
  · subst shape
    exact moved rfl rfl (keepsDebits_of_transactions rfl) rfl (Or.inr rfl)
  cases tx with
  | none =>
      subst rest
      exact moved rfl rfl (keepsDebits_of_transactions rfl) rfl (Or.inr rfl)
  | some tx =>
      obtain ⟨subscriptionId, subject, booked, -, book, shape⟩ := rest
      subst shape
      refine moved rfl rfl (keepsDebits_of_charge taken (Books.book_transactions book)
        fun other key => usageKey_ne_renewKey other sub.id key sub.currentPeriodEnd) ?_ (Or.inr ?_)
      · split
        · exact (consumeCoupon_kept (nextPeriod sub)).1
        · rfl
      · split
        · exact (consumeCoupon_kept (nextPeriod sub)).2.1
        · rfl

theorem renewDue_metering (metering : Metering state) {locked : UUID → Bool}
    {chargeId : UUID → UUID}
    (ok : state.renewDue catalogue locked chargeId now = .ok after) : Metering after := by
  have swept := Outcome.foldlM_ok_rest
    (P := fun mid rows => mid.Pending now rows ∧ Metering mid)
    (fun before row rest after facts ok => ?_) ok ⟨due_pending state locked now, metering⟩
  · exact swept.2
  · obtain ⟨pending, metering⟩ := facts
    obtain ⟨found, -, -⟩ := pending.2 row List.mem_cons_self
    obtain ⟨metering', sub', written⟩ := renew_metering metering found ok
    exact ⟨pending.tail written, metering'⟩

/-- What a report changes that records usage. -/
structure Records (state after : BillingState) (installation : Installation)
    (idempotencyKey : String) (sub : AppSubscription) (record : UsageRecord) : Prop where
  found : state.subscriptions.get? installation.id = some sub
  absent : state.usage.get? (installation.id, idempotencyKey) = none
  current : sub.Current record
  within : state.usageUsedCents sub + record.amountCents ≤ sub.usageCapCents.getD 0
  subscriptions : after.subscriptions = state.subscriptions
  usage : after.usage = state.usage.set (installation.id, idempotencyKey) record
  debits : ∀ other, after.books.Taken other ↔
    state.books.Taken other ∨ other = usageKey installation.id idempotencyKey

/-- A report that returns is an old one, or is recorded with its debit. -/
theorem recordUsage_records (metering : Metering state) {description idempotencyKey : String}
    {amountCents units : Option Int} {new : Bool}
    (ok : state.recordUsage catalogue installation app description idempotencyKey amountCents units
      chargeId now = .ok (after, new)) :
    after = state ∨ ∃ sub record, Records state after installation idempotencyKey sub record := by
  simp only [recordUsage] at ok
  split at ok
  · cases ok
    exact Or.inl rfl
  rename_i absent
  rw [Bool.not_eq_true, Option.isSome_eq_false_iff, Option.isNone_iff_eq_none] at absent
  split at ok
  · cases ok
  rename_i sub paid
  have found := (Option.filter_eq_some_iff.mp paid).1
  split at ok
  · cases ok
  obtain ⟨amount, reported, ok⟩ := bind_eq_ok.mp ok
  split at ok
  · cases ok
  rename_i within
  obtain ⟨⟨books, tx⟩, charged, ok⟩ := bind_eq_ok.mp ok
  cases tx with
  | none =>
      -- The key of a report without a record is never taken.
      have taken := (metering.paired installation.id idempotencyKey).mp (Books.charge_none charged)
      rw [absent] at taken
      cases taken
  | some tx =>
      obtain ⟨booked, book, shape⟩ := bind_eq_ok.mp ok
      cases shape
      refine Or.inr ⟨sub, _, found, absent, ⟨rfl, rfl⟩, not_lt.mp within, rfl, rfl, ?_⟩
      intro other
      rw [Books.taken_congr (Books.book_transactions book), Books.charge_taken charged]

theorem Records.metering {idempotencyKey : String} {sub : AppSubscription} {record : UsageRecord}
    (records : Records state after installation idempotencyKey sub record)
    (metering : Metering state) (books : WellKept after.books) : Metering after where
  books := books
  ids := records.subscriptions ▸ metering.ids
  proper := records.subscriptions ▸ metering.proper
  begun := by
    rw [records.usage, Table.set_rows_of_absent _ records.absent, records.subscriptions]
    intro row member
    rcases List.mem_append.mp member with old | new
    · exact metering.begun row old
    · rw [List.mem_singleton] at new
      subst new
      exact ⟨installation.id, sub, records.found, records.current.1.symm, records.current.2.le⟩
  capped := by
    intro id other found
    rw [records.subscriptions] at found
    rw [usageUsedCents_set records.absent records.usage]
    split
    · rename_i current
      rw [Bool.and_eq_true, decide_eq_true_eq, decide_eq_true_eq] at current
      have here := metering.ids id installation.id other sub found records.found
        (current.1.symm.trans records.current.1)
      rw [here, records.found] at found
      cases found
      exact records.within
    · rw [add_zero]
      exact metering.capped id other found
  paired := by
    intro installationId key
    rw [records.debits, metering.paired installationId key, records.usage, Table.get?_set]
    split
    · rename_i same
      cases same
      simp
    · rename_i different
      apply or_iff_left
      intro same
      rcases usageKey_injective same with ⟨rfl, rfl⟩
      exact different rfl

theorem recordUsage_metering (metering : Metering state) {description idempotencyKey : String}
    {amountCents units : Option Int} {new : Bool}
    (ok : state.recordUsage catalogue installation app description idempotencyKey amountCents units
      chargeId now = .ok (after, new)) : Metering after := by
  have books := recordUsage_wellKept metering.books ok
  rcases recordUsage_records metering ok with shape | ⟨sub, record, records⟩
  · rw [shape]
    exact metering
  · exact records.metering metering books

theorem purchaseTheme_metering (metering : Metering state) {theme : Theme}
    {storeId tenantId userId purchaseId : UUID} {charged : Bool}
    (ok : state.purchaseTheme catalogue theme storeId tenantId userId purchaseId chargeId now =
      .ok (after, charged)) : Metering after := by
  have wellKept := purchaseTheme_wellKept metering.books ok
  rcases purchaseTheme_ok ok with shape |
    ⟨earlier, books, tx, note, subject, booked, purchases, -, -, taken, book, shape⟩
  · rw [shape]
    exact metering
  · subst shape
    exact metering.of_same wellKept rfl rfl (keepsDebits_of_charge taken
      (Books.book_transactions book) fun other key =>
        usageKey_ne_themeKey other storeId theme.id key earlier)

theorem refundCharge_metering (metering : Metering state) {id actorUserId : UUID} {note : String}
    {refunded : Bool}
    (ok : state.refundCharge id chargeId actorUserId note now = .ok (after, refunded)) :
    Metering after := by
  have wellKept := refundCharge_wellKept metering.books ok
  have usage : after.usage = state.usage := by
    simp only [refundCharge] at ok
    obtain ⟨⟨books, tx⟩, refund, ok⟩ := bind_eq_ok.mp ok
    cases tx with
    | none =>
        cases ok
        rfl
    | some tx =>
        cases ok
        rfl
  obtain ⟨tx, subscriptions, shape | refund⟩ := refundCharge_ok ok
  · rw [shape]
    exact metering
  · rcases Books.refundCharge_taken refund with ⟨grows, only⟩
    refine metering.of_same wellKept subscriptions usage ?_
    intro installationId key
    constructor
    · intro taken
      rcases only _ taken with before | same
      · exact before
      · exact absurd same (usageKey_ne_refundKey installationId chargeId key)
    · exact grows _

theorem cancel_metering (metering : Metering state) (installationId : UUID) :
    Metering (state.cancel installationId) := by
  rw [cancel]
  split
  · exact metering
  · rename_i sub active
    have found := (Option.filter_eq_some_iff.mp active).1
    have writes : Writes state
        (state.setSubscription installationId { sub with cancelAtPeriodEnd := true })
        installationId { sub with cancelAtPeriodEnd := true } := by
      refine ⟨rfl, rfl, keepsDebits_of_transactions rfl,
        metering.proper installationId sub found, ?_, ?_⟩
      · intro old present
        rw [found] at present
        cases present
        exact ⟨rfl, Or.inl ⟨rfl, rfl⟩⟩
      · intro absent
        rw [found] at absent
        cases absent
    exact writes.metering metering metering.books

theorem step_metering [UpperCase] (state : BillingState) (label : BillingLabel)
    (metering : Metering state) (sequenced : state.InSequence label) :
    Metering (state.step label) := by
  cases label with
  | subscribe catalogue installation app couponCode newId chargeId now =>
      refine Outcome.orKeep_keeps metering ?_
      intro after ok
      obtain ⟨⟨mid, started⟩, returned, rfl⟩ := Outcome.map_eq_ok.mp ok
      exact subscribe_metering metering sequenced returned
  | cancel installationId => exact cancel_metering metering installationId
  | renewDue catalogue locked chargeId now =>
      exact Outcome.orKeep_keeps metering fun after ok => renewDue_metering metering ok
  | recordUsage catalogue installation app description idempotencyKey amountCents units chargeId
      now =>
      refine Outcome.orKeep_keeps metering ?_
      intro after ok
      obtain ⟨⟨mid, new⟩, returned, rfl⟩ := Outcome.map_eq_ok.mp ok
      exact recordUsage_metering metering returned
  | purchaseTheme catalogue theme storeId tenantId userId purchaseId chargeId now =>
      refine Outcome.orKeep_keeps metering ?_
      intro after ok
      obtain ⟨⟨mid, charged⟩, returned, rfl⟩ := Outcome.map_eq_ok.mp ok
      exact purchaseTheme_metering metering returned
  | refundCharge id chargeId actorUserId note now =>
      refine Outcome.orKeep_keeps metering ?_
      intro after ok
      obtain ⟨⟨mid, refunded⟩, returned, rfl⟩ := Outcome.map_eq_ok.mp ok
      exact refundCharge_metering metering returned
  | setWallet tenantId wallet =>
      exact metering.of_same (step_wellKept metering.books (.setWallet tenantId wallet)) rfl rfl
        (keepsDebits_of_transactions rfl)

end Calls

/-- The label is a usage report that is refused. -/
def Refuses (state : BillingState) : BillingLabel → Prop
  | .recordUsage catalogue installation app description idempotencyKey amountCents units chargeId
      now =>
      ∃ error, state.recordUsage catalogue installation app description idempotencyKey amountCents
        units chargeId now = .error error
  | _ => False

theorem step_refused [UpperCase] {state : BillingState} {label : BillingLabel}
    (refused : state.Refuses label) : state.step label = state := by
  cases label with
  | recordUsage =>
      rcases refused with ⟨error, raised⟩
      rw [step, raised]
      rfl
  | _ => cases refused

end BillingState

theorem metering_empty : Metering {} := by
  refine ⟨wellKept_empty, ?_, ?_, ?_, ?_, ?_⟩
  · intro first second sub sub' found
    cases found
  · intro id sub found
    cases found
  · intro row member
    cases member
  · intro id sub found
    cases found
  · intro installationId key
    constructor
    · rintro ⟨id, row, found, -⟩
      cases found
    · intro recorded
      cases recorded

theorem Metering.metered {state : BillingState} (metering : Metering state) : Metered state where
  capped := metering.capped
  recorded := by
    intro first member second member' same
    exact List.inj_on_of_nodup_map state.usage.nodup member member' same
  debited := by
    intro installationId key first second row row' found found' keyed keyed'
    exact metering.books.distinct first second row row' found found' (keyed.trans keyed'.symm)
  paired := metering.paired

/-- In every run whose `subscribe` calls are in sequence, the usage of each period stays within
its cap, each key has at most one record and one debit, and a refused report changes nothing. -/
theorem usage_capped [UpperCase] (labels : List BillingLabel)
    (sequenced : Run.Guarded BillingState.step BillingState.InSequence {} labels) :
    Run.Always BillingState.step (fun state => Metered state ∧
      ∀ label, state.Refuses label → state.step label = state) {} labels := by
  have always := Run.always_of_guarded (I := Metering) BillingState.step_metering metering_empty
    sequenced
  apply always.mono
  intro state metering
  exact ⟨metering.metered, fun label => BillingState.step_refused⟩

/-- Usage is reported, replayed, refused over the cap, and reported again in the next period. -/
def meteredRuns : List BillingLabel :=
  let app : App :=
    { labelsApp with price := some { priceCents := 1000, usage := some { capCents := 500 } } }
  let installation : Installation := { id := 4, tenantId := 1, storeId := 2 }
  let catalogue : Catalogue :=
    { apps := fun _ => some app, installations := fun _ => some installation }
  let report (key : String) (amount : Int) (chargeId : UUID) (now : Time) : BillingLabel :=
    .recordUsage catalogue installation app "labels" key (some amount) none chargeId now
  [.setWallet 1 { balanceCents := 50000 },
    .subscribe catalogue installation app none 5 6 0,
    report "a" 300 7 10,
    report "a" 300 8 11,
    report "b" 201 9 12,
    report "c" 200 10 13,
    .renewDue catalogue (fun _ => false) (fun _ => 11) (31 * Calendar.dayLength),
    report "b" 201 12 (32 * Calendar.dayLength)]

theorem meteredRuns_capped :
    let _ := UpperCase.ascii
    Run.Always BillingState.step (fun state => Metered state ∧
      ∀ label, state.Refuses label → state.step label = state) {} meteredRuns := by
  intro _
  exact usage_capped meteredRuns (by decide +kernel)

/-- The amounts recorded in that run. -/
example :
    let _ := UpperCase.ascii
    (Run.run BillingState.step {} meteredRuns).usage.rows.map (fun row =>
      (row.1.2, row.2.amountCents)) = [("a", 300), ("c", 200), ("b", 201)] := by decide +kernel

end Numu.AppBilling
