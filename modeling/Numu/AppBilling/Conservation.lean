import Numu.AppBilling.Subscription

/-!
Conservation of money over the three books of app billing.

A charge is traced by its own wallet row, the rows that reverse it, the partner's entries under
its key and its reference, and the invoices that name its row.
-/

namespace Numu.AppBilling
open Numu.Orders (UUID Time)
open Numu.Invoices (UpperCase)
open Numu.Outcome (bind_eq_ok)

/-- What is charged for, with the rows that set its terms. -/
inductive Source where
  | ofApp (catalogue : Catalogue) (app : App)
  | ofTheme (catalogue : Catalogue) (theme : Theme)

namespace Source

def terms : Source → Option UUID × Nat
  | .ofApp catalogue app => partnerTerms catalogue app
  | .ofTheme catalogue theme => themeTerms catalogue theme

/-- A Partner App without a partner account: NUMU holds the partner's share. -/
def held : Source → Bool
  | .ofApp catalogue app => app.developerId.any fun id => (catalogue.accounts id).isNone
  | .ofTheme _ _ => false

/-- A quote for some list price, discount and VAT rate at the source's terms. -/
def Quotes (source : Source) (q : Quote) : Prop :=
  ∃ list discount vatBps : Nat, q = quote list source.terms.2 discount source.terms.1 vatBps

end Source

/-- What the books hold of one charge. -/
structure Trace where
  reversals : List WalletRow
  sale : Option PartnerLedgerEntry
  takenBack : Option PartnerLedgerEntry
  invoice : Option AppFeeInvoice
  creditNotes : List AppFeeInvoice

def Books.trace (books : Books) (chargeId : UUID) (charge : WalletRow) : Trace where
  reversals := (books.transactions.rows.filter fun row =>
    row.2.idempotencyKey = some (Books.refundKey chargeId)).map Prod.snd
  sale := books.saleOf charge
  takenBack := books.ledger.get? (Books.refundReference chargeId)
  invoice := books.invoices.get? (chargeId, .invoice)
  creditNotes := (books.invoices.rows.filter fun row =>
    row.2.original = some chargeId).map Prod.snd

namespace Trace

/-- The partner's credit. -/
def credit (trace : Trace) : Int := (trace.sale.map PartnerLedgerEntry.amountCents).getD 0

def ledgerRows (trace : Trace) : List PartnerLedgerEntry :=
  trace.sale.toList ++ trace.takenBack.toList

def invoices (trace : Trace) : List AppFeeInvoice :=
  trace.invoice.toList ++ trace.creditNotes

/-- The amounts of a ledger row. -/
def ledgerFigures (row : PartnerLedgerEntry) : List Int :=
  [row.amountCents, row.grossCents.getD 0, row.platformFeeCents.getD 0, row.discountCents.getD 0,
    row.vatCents.getD 0]

/-- The amounts of an invoice. -/
def invoiceFigures (invoice : AppFeeInvoice) : List Int :=
  [invoice.listPriceCents, invoice.discountCents, invoice.feeCents, invoice.vatCents,
    invoice.totalCents]

/-- The sums of the columns of equally long rows. -/
def columnSums : List (List Int) → List Int
  | [] => []
  | [row] => row
  | row :: rows => List.zipWith (· + ·) row (columnSums rows)

end Trace

/-- A charge whose three books agree with the quote it was made for. -/
structure Charge (charge : WalletRow) (trace : Trace) (source : Source) (q : Quote) : Prop where
  quoted : source.Quotes q
  debit : -charge.amountCents = q.partnerCents + q.feeCents + q.vatCents
  nonneg : 0 ≤ q.partnerCents ∧ 0 ≤ q.feeCents ∧ 0 ≤ q.vatCents
  discount : q.discountCents ≤ q.listCents - q.feeCents
  credit : trace.credit = if source.held then 0 else q.partnerCents
  invoice : trace.invoice.map Trace.invoiceFigures =
    some [q.listCents, q.discountCents, q.feeCents, q.vatCents, -charge.amountCents]

/-- Money is conserved for one charge. -/
structure Conserved (charge : WalletRow) (trace : Trace) : Prop where
  charged : ∃ source q, Charge charge trace source q
  once : trace.reversals.length ≤ 1
  wallet : trace.reversals ≠ [] →
    charge.amountCents + (trace.reversals.map fun row => row.amountCents).sum = 0
  ledger : trace.reversals ≠ [] →
    ∀ total ∈ Trace.columnSums (trace.ledgerRows.map Trace.ledgerFigures), total = 0
  invoices : trace.reversals ≠ [] →
    ∀ total ∈ Trace.columnSums (trace.invoices.map Trace.invoiceFigures), total = 0

theorem Source.Quotes.conserves {source : Source} {q : Quote} (quotes : source.Quotes q) :
    q.Conserves := by
  obtain ⟨list, discount, vatBps, rfl⟩ := quotes
  apply quote_conserves
  · exact Int.natCast_nonneg list
  · exact Int.natCast_nonneg source.terms.2
  · have bound : source.terms.2 ≤ 10000 := by
      cases source with
      | ofApp catalogue app =>
          simp only [terms, partnerTerms]
          split
          · exact Nat.zero_le 10000
          · exact effectiveShareBps_le _
      | ofTheme catalogue theme =>
          simp only [terms, themeTerms]
          split
          · exact Nat.zero_le 10000
          · exact effectiveShareBps_le (some _)
    exact_mod_cast bound
  · exact Int.natCast_nonneg vatBps

/-- NUMU's own apps and themes leave nothing to a partner. -/
theorem quote_own (list discount vatBps : Nat) (partnerId : Option UUID) :
    (quote list 0 discount partnerId vatBps).partnerCents = 0 := by
  simp only [quote, split, bpsOf, Quote.partnerCents]
  omega

theorem Source.Quotes.unpaid {source : Source} {q : Quote} (quotes : source.Quotes q)
    (unpaid : source.terms.1 = none) : 0 = if source.held then 0 else q.partnerCents := by
  obtain ⟨list, discount, vatBps, rfl⟩ := quotes
  cases source with
  | ofApp catalogue app =>
      simp only [terms, partnerTerms] at unpaid ⊢
      cases developer : app.developerId with
      | none => simp [quote_own list discount vatBps]
      | some developerId =>
          simp only [developer, Option.map_eq_none_iff] at unpaid
          simp [held, developer, unpaid]
  | ofTheme catalogue theme =>
      simp only [terms, themeTerms] at unpaid ⊢
      cases account : catalogue.accounts theme.developerId with
      | none => simp [quote_own list discount vatBps]
      | some account => simp [account] at unpaid

theorem Source.paid {source : Source} {partnerId : UUID} (paid : source.terms.1 = some partnerId) :
    source.held = false := by
  cases source with
  | ofTheme catalogue theme => rfl
  | ofApp catalogue app =>
      simp only [terms, partnerTerms] at paid
      cases developer : app.developerId with
      | none => simp [held, developer]
      | some developerId =>
          simp only [developer, Option.map_eq_some_iff] at paid
          obtain ⟨account, found, -⟩ := paid
          simp [held, developer, found]

/-- The idempotency keys of charges. -/
inductive ChargeKey : String → Prop where
  | start (installationId : UUID) (now : Time) : ChargeKey (startKey installationId now)
  | renew (subscriptionId : UUID) (start : Time) : ChargeKey (renewKey subscriptionId start)
  | usage (installationId : UUID) (key : String) : ChargeKey (usageKey installationId key)
  | theme (storeId themeId : UUID) (earlier : Nat) : ChargeKey (themeKey storeId themeId earlier)

theorem themeKey_toList (storeId themeId : UUID) (earlier : Nat) :
    (themeKey storeId themeId earlier).toList = "theme-purchase:".toList ++
      (":".intercalate [UuidText.writeUuid storeId, UuidText.writeUuid themeId,
        Nat.repr earlier]).toList := by
  delta themeKey
  rw [String.toList_append]

theorem ChargeKey.ne_refundKey {key : String} (chargeKey : ChargeKey key) (chargeId : UUID) :
    key ≠ Books.refundKey chargeId := by
  intro same
  have chars := congrArg String.toList same
  cases chargeKey with
  | start installationId now => simp [startKey, Books.refundKey, toString] at chars
  | renew subscriptionId start => simp [renewKey, Books.refundKey, toString] at chars
  | usage installationId key => simp [usageKey, Books.refundKey, toString] at chars
  | theme storeId themeId earlier => simp [themeKey_toList, Books.refundKey, toString] at chars

theorem ChargeKey.ne_refundReference {key : String} (chargeKey : ChargeKey key)
    (chargeId : UUID) : key ≠ Books.refundReference chargeId := by
  intro same
  have chars := congrArg String.toList same
  cases chargeKey with
  | start installationId now => simp [startKey, Books.refundReference, toString] at chars
  | renew subscriptionId start => simp [renewKey, Books.refundReference, toString] at chars
  | usage installationId key => simp [usageKey, Books.refundReference, toString] at chars
  | theme storeId themeId earlier => simp [themeKey_toList, Books.refundReference, toString] at chars

theorem refundKey_injective {first second : UUID}
    (same : Books.refundKey first = Books.refundKey second) : first = second := by
  have chars := congrArg String.toList same
  simp only [Books.refundKey, toString, String.toList_append, List.append_cancel_left_eq] at chars
  exact UuidText.writeUuid_injective (String.toList_injective chars)

theorem refundReference_injective {first second : UUID}
    (same : Books.refundReference first = Books.refundReference second) : first = second := by
  have chars := congrArg String.toList same
  simp only [Books.refundReference, toString, String.toList_append,
    List.append_cancel_left_eq] at chars
  exact UuidText.writeUuid_injective (String.toList_injective chars)

namespace Trace

/-- Nothing of the charge has been reversed. -/
structure Unrefunded (trace : Trace) : Prop where
  reversals : trace.reversals = []
  takenBack : trace.takenBack = none
  creditNotes : trace.creditNotes = []

def negated (figures : List Int) : List Int := figures.map fun figure => -figure

/-- One row of each book reverses what the charge put there. -/
structure Refunded (charge : WalletRow) (trace : Trace) : Prop where
  reversal : ∃ row, trace.reversals = [row] ∧ row.amountCents = -charge.amountCents
  takenBack : trace.takenBack.map ledgerFigures =
    trace.sale.map fun sale => negated (ledgerFigures sale)
  creditNote : ∃ invoice note, trace.invoice = some invoice ∧ trace.creditNotes = [note] ∧
    invoiceFigures note = negated (invoiceFigures invoice)

theorem columnSums_negated (figures : List Int) :
    ∀ total ∈ columnSums [figures, negated figures], total = 0 := by
  simp only [columnSums, negated]
  induction figures with
  | nil => simp
  | cons figure figures ih =>
      intro total member
      rw [List.map_cons, List.zipWith_cons_cons, List.mem_cons] at member
      rcases member with rfl | later
      · exact add_neg_cancel figure
      · exact ih total later

theorem Refunded.ledger {charge : WalletRow} {trace : Trace} (refunded : Refunded charge trace) :
    ∀ total ∈ columnSums (trace.ledgerRows.map ledgerFigures), total = 0 := by
  have takenBack := refunded.takenBack
  cases sale : trace.sale with
  | none =>
      rw [sale, Option.map_none, Option.map_eq_none_iff] at takenBack
      simp [ledgerRows, sale, takenBack, columnSums]
  | some entry =>
      rw [sale, Option.map_some, Option.map_eq_some_iff] at takenBack
      obtain ⟨back, found, figures⟩ := takenBack
      simp only [ledgerRows, sale, found, Option.toList_some, List.singleton_append, List.map_cons,
        List.map_nil, figures]
      exact columnSums_negated _

theorem Refunded.taxes {charge : WalletRow} {trace : Trace} (refunded : Refunded charge trace) :
    ∀ total ∈ columnSums (trace.invoices.map invoiceFigures), total = 0 := by
  obtain ⟨invoice, note, present, notes, figures⟩ := refunded.creditNote
  simp only [invoices, present, notes, Option.toList_some, List.singleton_append, List.map_cons,
    List.map_nil, figures]
  exact columnSums_negated _

end Trace

/-- A charge before or after its refund. -/
def Settled (charge : WalletRow) (trace : Trace) : Prop :=
  (∃ source q, Charge charge trace source q) ∧ (trace.Unrefunded ∨ trace.Refunded charge)

theorem Settled.conserved {charge : WalletRow} {trace : Trace} (settled : Settled charge trace) :
    Conserved charge trace := by
  obtain ⟨charged, open_ | refunded⟩ := settled
  · refine ⟨charged, ?_, fun some_ => ?_, fun some_ => ?_, fun some_ => ?_⟩
    · simp [open_.reversals]
    all_goals exact absurd open_.reversals some_
  · obtain ⟨row, one, amount⟩ := refunded.reversal
    refine ⟨charged, ?_, fun _ => ?_, fun _ => refunded.ledger, fun _ => refunded.taxes⟩
    · simp [one]
    · simp [one, amount]

/-- Every row belongs to a charge or to the refund of one, and every charge is settled. -/
structure WellKept (books : Books) : Prop where
  rows : ∀ id row, books.transactions.get? id = some row →
    row.kind = .appCharge ∧ (∃ key, ChargeKey key ∧ row.idempotencyKey = some key) ∨
      row.kind = .appChargeReversal ∧ ∃ chargeId, (books.transactions.get? chargeId).isSome ∧
        row.idempotencyKey = some (Books.refundKey chargeId)
  distinct : ∀ first second row row', books.transactions.get? first = some row →
    books.transactions.get? second = some row' → row.idempotencyKey = row'.idempotencyKey →
      first = second
  entries : ∀ key, (books.ledger.get? key).isSome →
    (∃ id row, books.transactions.get? id = some row ∧ row.idempotencyKey = some key) ∨
      ∃ chargeId, (books.transactions.get? chargeId).isSome ∧
        key = Books.refundReference chargeId
  invoices : ∀ id kind invoice, books.invoices.get? (id, kind) = some invoice →
    (books.transactions.get? id).isSome ∧
      ∀ chargeId, invoice.original = some chargeId → (books.transactions.get? chargeId).isSome
  charges : ∀ id charge, books.transactions.get? id = some charge → charge.kind = .appCharge →
    Settled charge (books.trace id charge)

theorem Source.Quotes.partnerId {source : Source} {q : Quote} (quotes : source.Quotes q) :
    q.partnerId = source.terms.1 := by
  obtain ⟨list, discount, vatBps, rfl⟩ := quotes
  rfl

/-- The trace of a row that was just charged and booked. -/
theorem Charge.of_booked {source : Source} {q : Quote} (quotes : source.Quotes q) {row : WalletRow}
    {trace : Trace} {subscriptionId : Option UUID} {subject : Subject} {now : Time}
    {number : String} {id : UUID} (debit : row.amountCents = -q.totalCents)
    (sale : trace.sale = q.partnerId.map fun partnerId => Books.saleEntry partnerId q
      row.currency now subject.appId subscriptionId subject.themeId)
    (invoice : trace.invoice = some (Books.feeInvoice number ⟨id, row⟩ .invoice q subject now)) :
    Charge row trace source q := by
  have conserves := quotes.conserves
  have total := conserves.total
  constructor
  · exact quotes
  · omega
  · exact ⟨conserves.partner, conserves.fee, conserves.vat⟩
  · exact conserves.discount
  · rw [Trace.credit, sale, quotes.partnerId]
    cases partner : source.terms.1 with
    | none => exact quotes.unpaid partner
    | some partnerId =>
        rw [Source.paid partner]
        rfl
  · rw [invoice, debit, neg_neg]
    simp [Trace.invoiceFigures, Books.feeInvoice, FeeInvoiceKind.sign]

/-- What is said of a charge depends on its sale and its invoice alone. -/
theorem Charge.of_same {charge : WalletRow} {trace trace' : Trace} {source : Source} {q : Quote}
    (booked : Charge charge trace source q) (sale : trace'.sale = trace.sale)
    (invoice : trace'.invoice = trace.invoice) : Charge charge trace' source q := by
  refine ⟨booked.quoted, booked.debit, booked.nonneg, booked.discount, ?_, ?_⟩
  · rw [Trace.credit, sale]
    exact booked.credit
  · rw [invoice]
    exact booked.invoice

/-- A credit note for the quote of an invoice negates every figure of it. -/
theorem Charge.negated_note {charge : WalletRow} {trace : Trace} {source : Source} {q : Quote}
    (booked : Charge charge trace source q) {invoice : AppFeeInvoice} {number : String}
    {tx : Charged} {subject : Subject} {now : Time}
    (figures : Trace.invoiceFigures invoice =
      [q.listCents, q.discountCents, q.feeCents, q.vatCents, -charge.amountCents]) :
    Trace.invoiceFigures (Books.feeInvoice number tx .creditNote invoice.quote subject now) =
      Trace.negated (Trace.invoiceFigures invoice) := by
  have total := booked.quoted.conserves.total
  have debit := booked.debit
  simp only [Trace.invoiceFigures, List.cons.injEq, and_true] at figures
  obtain ⟨list, discount, -, vat, invoiced⟩ := figures
  have whole : invoice.quote.totalCents = invoice.totalCents := by
    simp only [Quote.totalCents, AppFeeInvoice.quote] at total ⊢
    omega
  simp only [Trace.invoiceFigures, Trace.negated, Books.feeInvoice, FeeInvoiceKind.sign, whole]
  simp [AppFeeInvoice.quote]

theorem refundKey_ne_refundReference (first second : UUID) :
    Books.refundKey first ≠ Books.refundReference second := by
  intro same
  have chars := congrArg String.toList same
  simp [Books.refundKey, Books.refundReference, toString] at chars

namespace WellKept
variable {books : Books}

/-- Nothing names a row that is not there. -/
theorem unbilled (kept : WellKept books) {id : UUID} (absent : books.transactions.get? id = none)
    (kind : FeeInvoiceKind) : books.invoices.get? (id, kind) = none := by
  cases found : books.invoices.get? (id, kind) with
  | none => rfl
  | some invoice =>
      have present := (kept.invoices id kind invoice found).1
      rw [absent] at present
      cases present

theorem unrefunded (kept : WellKept books) {id : UUID} (absent : books.transactions.get? id = none)
    (row : WalletRow) : (books.trace id row).Unrefunded := by
  have gone (chargeId : UUID) (present : (books.transactions.get? chargeId).isSome) :
      chargeId ≠ id := by
    intro same
    rw [same, absent] at present
    cases present
  refine ⟨?_, ?_, ?_⟩
  · simp only [Books.trace, List.map_eq_nil_iff, List.filter_eq_nil_iff]
    intro entry member keyed
    have found := (Table.get?_eq_some_iff _ _ _).mpr member
    rcases kept.rows entry.1 entry.2 found with ⟨-, key, chargeKey, same⟩ |
      ⟨-, chargeId, present, same⟩
    · simp only [same, Option.some.injEq, decide_eq_true_eq] at keyed
      exact chargeKey.ne_refundKey id keyed
    · simp only [same, Option.some.injEq, decide_eq_true_eq] at keyed
      exact gone chargeId present (refundKey_injective keyed)
  · cases found : books.ledger.get? (Books.refundReference id) with
    | none => simpa only [Books.trace] using found
    | some entry =>
        exfalso
        rcases kept.entries _ (by rw [found]; rfl) with ⟨other, row', present, keyed⟩ |
          ⟨chargeId, present, same⟩
        · rcases kept.rows other row' present with ⟨-, key, chargeKey, same⟩ |
            ⟨-, chargeId, -, same⟩
          · rw [keyed, Option.some.injEq] at same
            exact chargeKey.ne_refundReference id same.symm
          · rw [keyed, Option.some.injEq] at same
            exact refundKey_ne_refundReference chargeId id same.symm
        · exact gone chargeId present (refundReference_injective same.symm)
  · simp only [Books.trace, List.map_eq_nil_iff, List.filter_eq_nil_iff]
    intro entry member named
    have found := (Table.get?_eq_some_iff _ _ _).mpr member
    simp only [decide_eq_true_eq] at named
    exact gone id ((kept.invoices entry.1.1 entry.1.2 entry.2 found).2 id named) rfl

theorem chargeKey (kept : WellKept books) {id : UUID} {charge : WalletRow}
    (found : books.transactions.get? id = some charge) (charged : charge.kind = .appCharge) :
    ∃ key, ChargeKey key ∧ charge.idempotencyKey = some key := by
  rcases kept.rows id charge found with ⟨-, chargeKey⟩ | ⟨reversal, -⟩
  · exact chargeKey
  · rw [charged] at reversal
    cases reversal

/-- A charge whose refund's key is free is not refunded yet. -/
theorem unrefunded_of_free (kept : WellKept books) {id : UUID} {charge : WalletRow}
    (found : books.transactions.get? id = some charge) (charged : charge.kind = .appCharge)
    (free : ∀ row ∈ books.transactions.rows, row.2.idempotencyKey ≠ some (Books.refundKey id)) :
    (books.trace id charge).Unrefunded := by
  have unreversed : (books.trace id charge).reversals = [] := by
    simp only [Books.trace, List.map_eq_nil_iff, List.filter_eq_nil_iff]
    intro entry member same
    exact free entry member (by simpa using same)
  rcases (kept.charges id charge found charged).2 with unrefunded | refunded
  · exact unrefunded
  · obtain ⟨row, one, -⟩ := refunded.reversal
    rw [unreversed] at one
    cases one

/-- A key that no row has is no key of a sale. -/
theorem unsold (kept : WellKept books) {key : String} (chargeKey : ChargeKey key)
    (free : ∀ row ∈ books.transactions.rows, row.2.idempotencyKey ≠ some key) :
    books.ledger.get? key = none := by
  cases found : books.ledger.get? key with
  | none => rfl
  | some entry =>
      rcases kept.entries key (by rw [found]; rfl) with ⟨other, row, present, same⟩ |
        ⟨chargeId, -, same⟩
      · exact absurd same (free _ ((Table.get?_eq_some_iff _ _ _).mp present))
      · exact absurd same (chargeKey.ne_refundReference chargeId)

end WellKept

/-- One new wallet row with its key, its invoice and at most one ledger entry, under `slot`. -/
structure Extends (books after : Books) (id : UUID) (row : WalletRow) (slot : String)
    (kind : FeeInvoiceKind) (invoice : AppFeeInvoice) : Prop where
  absent : books.transactions.get? id = none
  alone : ∀ other row', books.transactions.get? other = some row' →
    row'.idempotencyKey ≠ row.idempotencyKey
  transactions : after.transactions = books.transactions.set id row
  invoices : after.invoices = books.invoices.set (id, kind) invoice
  untouched : ∀ other ≠ slot, after.ledger.get? other = books.ledger.get? other

namespace Extends
variable {books after : Books} {id : UUID} {row : WalletRow} {slot : String}
  {kind : FeeInvoiceKind} {invoice : AppFeeInvoice}

theorem here (extends_ : Extends books after id row slot kind invoice) :
    after.transactions.get? id = some row := by
  rw [extends_.transactions, Table.get?_set, if_pos rfl]

theorem present (extends_ : Extends books after id row slot kind invoice) {other : UUID}
    (found : (books.transactions.get? other).isSome) : (after.transactions.get? other).isSome := by
  rw [extends_.transactions]
  exact Table.isSome_get?_set _ id row found

theorem kept_row (extends_ : Extends books after id row slot kind invoice) {other : UUID}
    {row' : WalletRow} (found : books.transactions.get? other = some row') :
    after.transactions.get? other = some row' := by
  have different : other ≠ id := by
    intro same
    rw [same, extends_.absent] at found
    cases found
  rw [extends_.transactions, Table.get?_set, if_neg different, found]

/-- The bookkeeping part of `WellKept` survives an extension. -/
theorem wellKept (extends_ : Extends books after id row slot kind invoice) (kept : WellKept books)
    (rowOk : row.kind = .appCharge ∧ (∃ key, ChargeKey key ∧ row.idempotencyKey = some key) ∨
      row.kind = .appChargeReversal ∧ ∃ chargeId, (books.transactions.get? chargeId).isSome ∧
        row.idempotencyKey = some (Books.refundKey chargeId))
    (slotOk : row.idempotencyKey = some slot ∨
      ∃ chargeId, (books.transactions.get? chargeId).isSome ∧
        slot = Books.refundReference chargeId)
    (originalOk : ∀ chargeId, invoice.original = some chargeId →
      (books.transactions.get? chargeId).isSome)
    (charges : ∀ other charge, after.transactions.get? other = some charge →
      charge.kind = .appCharge → Settled charge (after.trace other charge)) : WellKept after := by
  refine ⟨?_, ?_, ?_, ?_, charges⟩
  · intro other row' found
    have lift (found : row'.kind = .appCharge ∧
          (∃ key, ChargeKey key ∧ row'.idempotencyKey = some key) ∨
        row'.kind = .appChargeReversal ∧ ∃ chargeId, (books.transactions.get? chargeId).isSome ∧
          row'.idempotencyKey = some (Books.refundKey chargeId)) :
        row'.kind = .appCharge ∧ (∃ key, ChargeKey key ∧ row'.idempotencyKey = some key) ∨
        row'.kind = .appChargeReversal ∧ ∃ chargeId, (after.transactions.get? chargeId).isSome ∧
          row'.idempotencyKey = some (Books.refundKey chargeId) := by
      rcases found with charge | ⟨reversal, chargeId, there, same⟩
      · exact .inl charge
      · exact .inr ⟨reversal, chargeId, extends_.present there, same⟩
    rw [extends_.transactions, Table.get?_set] at found
    split at found
    · cases found
      exact lift rowOk
    · exact lift (kept.rows other row' found)
  · rw [extends_.transactions]
    exact Table.set_injective kept.distinct extends_.alone
  · intro key found
    by_cases same : key = slot
    · rw [same]
      rcases slotOk with keyed | ⟨chargeId, there, reference⟩
      · exact .inl ⟨id, row, extends_.here, keyed⟩
      · exact .inr ⟨chargeId, extends_.present there, reference⟩
    · rw [extends_.untouched key same] at found
      rcases kept.entries key found with ⟨other, row', found, same⟩ | ⟨chargeId, there, same⟩
      · exact .inl ⟨other, row', extends_.kept_row found, same⟩
      · exact .inr ⟨chargeId, extends_.present there, same⟩
  · intro other kind' invoice' found
    rw [extends_.invoices, Table.get?_set] at found
    split at found
    · rename_i same
      cases same
      cases found
      exact ⟨by rw [extends_.here]; rfl, fun chargeId named =>
        extends_.present (originalOk chargeId named)⟩
    · obtain ⟨there, names⟩ := kept.invoices other kind' invoice' found
      exact ⟨extends_.present there, fun chargeId named =>
        extends_.present (names chargeId named)⟩

/-- An extension adds to the trace of a charge what names it. -/
theorem trace (extends_ : Extends books after id row slot kind invoice) (kept : WellKept books)
    (chargeId : UUID) (charge : WalletRow) :
    (after.trace chargeId charge).reversals = (books.trace chargeId charge).reversals ++
        (if row.idempotencyKey = some (Books.refundKey chargeId) then [row] else []) ∧
      (after.trace chargeId charge).creditNotes = (books.trace chargeId charge).creditNotes ++
        (if invoice.original = some chargeId then [invoice] else []) := by
  have unbilled := kept.unbilled extends_.absent kind
  simp only [Books.trace, extends_.transactions, extends_.invoices,
    Table.set_rows_of_absent _ extends_.absent, Table.set_rows_of_absent _ unbilled,
    List.filter_append, List.map_append, List.filter_singleton]
  constructor
  · split <;> rename_i named <;> simp [named]
  · split <;> rename_i named <;> simp [named]

theorem saleOf (extends_ : Extends books after id row slot kind invoice) {charge : WalletRow}
    (sold : ∀ key, charge.idempotencyKey = some key → key ≠ slot) :
    after.saleOf charge = books.saleOf charge := by
  rw [Books.saleOf, Books.saleOf]
  cases keyed : charge.idempotencyKey with
  | none => rfl
  | some key => rw [Option.bind_some, Option.bind_some, extends_.untouched key (sold key keyed)]

/-- The trace of an old charge that the extension does not name. -/
theorem trace_other (extends_ : Extends books after id row slot kind invoice)
    (kept : WellKept books) {chargeId : UUID} {charge : WalletRow}
    (found : books.transactions.get? chargeId = some charge)
    (unnamed : row.idempotencyKey ≠ some (Books.refundKey chargeId))
    (unnoted : invoice.original ≠ some chargeId)
    (sold : ∀ key, charge.idempotencyKey = some key → key ≠ slot)
    (unreferenced : Books.refundReference chargeId ≠ slot) :
    after.trace chargeId charge = books.trace chargeId charge := by
  have ⟨reversals, creditNotes⟩ := extends_.trace kept chargeId charge
  rw [if_neg unnamed, List.append_nil] at reversals
  rw [if_neg unnoted, List.append_nil] at creditNotes
  have different : chargeId ≠ id := by
    intro same
    rw [same, extends_.absent] at found
    cases found
  have sale := extends_.saleOf sold
  have invoiced : after.invoices.get? (chargeId, .invoice) =
      books.invoices.get? (chargeId, .invoice) := by
    rw [extends_.invoices, Table.get?_set, if_neg (by simp [different])]
  have takenBack := extends_.untouched _ unreferenced
  simp only [Books.trace] at reversals creditNotes ⊢
  rw [reversals, creditNotes, sale, invoiced, takenBack]

/-- The trace of a charge that the extension reverses in each book. -/
theorem trace_refunded {chargeId : UUID} {charge : WalletRow} {fee : AppFeeInvoice}
    (extends_ : Extends books after id row (Books.refundReference chargeId) .creditNote invoice)
    (kept : WellKept books) (unrefunded : (books.trace chargeId charge).Unrefunded)
    (sold : ∀ key, charge.idempotencyKey = some key → key ≠ Books.refundReference chargeId)
    (keyed : row.idempotencyKey = some (Books.refundKey chargeId))
    (amount : row.amountCents = -charge.amountCents)
    (taken : (after.ledger.get? (Books.refundReference chargeId)).map Trace.ledgerFigures =
      (books.saleOf charge).map fun sale => Trace.negated (Trace.ledgerFigures sale))
    (original : invoice.original = some chargeId)
    (billed : books.invoices.get? (chargeId, .invoice) = some fee)
    (figures : Trace.invoiceFigures invoice = Trace.negated (Trace.invoiceFigures fee)) :
    (after.trace chargeId charge).sale = (books.trace chargeId charge).sale ∧
      (after.trace chargeId charge).invoice = (books.trace chargeId charge).invoice ∧
      (after.trace chargeId charge).Refunded charge := by
  obtain ⟨reversals, creditNotes⟩ := extends_.trace kept chargeId charge
  rw [if_pos keyed, unrefunded.reversals, List.nil_append] at reversals
  rw [if_pos original, unrefunded.creditNotes, List.nil_append] at creditNotes
  have sale := extends_.saleOf sold
  have invoiced : after.invoices.get? (chargeId, .invoice) =
      books.invoices.get? (chargeId, .invoice) := by
    rw [extends_.invoices, Table.get?_set, if_neg (by simp)]
  refine ⟨sale, invoiced, ⟨row, reversals, amount⟩, ?_, ?_⟩
  · show (after.ledger.get? _).map _ = (after.saleOf charge).map _
    rw [taken, sale]
  · exact ⟨fee, invoice, invoiced.trans billed, creditNotes, figures⟩

end Extends

namespace WellKept
variable {books : Books}

/-- What a charge and its booking make of well-kept books. -/
theorem charged {mid after : Books} (kept : WellKept books) {source : Source}
    {q : Quote} (quotes : source.Quotes q) {key : String} (chargeKey : ChargeKey key)
    {currency note : String} {id tenantId : UUID} {tx : Charged} {subscriptionId : Option UUID}
    {subject : Subject} (own : subject.original = none) {now : Time}
    (ok : books.charge id tenantId q.totalCents currency key note = .ok (mid, some tx))
    (booked : mid.book q tx key subscriptionId subject now = .ok after) : WellKept after := by
  rcases Books.applyEntry_ok (Books.charge_ok ok) with ⟨none_, -⟩ | entered
  · cases none_
  obtain ⟨wallets, row, made, absent, shape, ⟨kind, debit, keyed⟩, free⟩ := entered
  cases made
  replace free := fun other member => free other member key rfl
  have unbilled : mid.invoices.get? (id, .invoice) = none := by
    rw [shape]
    exact kept.unbilled absent .invoice
  have unsold : mid.ledger.get? key = none := by
    rw [shape]
    exact kept.unsold chargeKey free
  obtain ⟨number, ledger, booked, sold, untouched⟩ := Books.book_ok unbilled unsold booked
  have extends_ : Extends books after id row key .invoice
      (Books.feeInvoice number ⟨id, row⟩ .invoice q subject now) := by
    refine ⟨absent, fun other row' found => ?_, ?_, ?_, ?_⟩
    · rw [keyed]
      exact free _ ((Table.get?_eq_some_iff _ _ _).mp found)
    · rw [booked, shape]
    · rw [booked, shape]
    · rw [booked]
      rw [shape] at untouched
      exact untouched
  apply extends_.wellKept kept
  · exact .inl ⟨kind, key, chargeKey, keyed⟩
  · exact .inl keyed
  · intro chargeId named
    rw [Books.feeInvoice, own] at named
    cases named
  intro other charge found charged
  have unnamed : row.idempotencyKey ≠ some (Books.refundKey other) := by
    rw [keyed]
    exact fun same => chargeKey.ne_refundKey other (Option.some.inj same)
  have unnoted : (Books.feeInvoice number ⟨id, row⟩ .invoice q subject now).original ≠
      some other := by
    rw [Books.feeInvoice, own]
    exact fun same => nomatch same
  have unreferenced := (chargeKey.ne_refundReference other).symm
  by_cases new : other = id
  · rw [new, extends_.here] at found
    cases found
    rw [new] at unnamed unnoted unreferenced ⊢
    have ⟨reversals, creditNotes⟩ := extends_.trace kept id row
    have unrefunded := kept.unrefunded absent row
    rw [if_neg unnamed, List.append_nil, unrefunded.reversals] at reversals
    rw [if_neg unnoted, List.append_nil, unrefunded.creditNotes] at creditNotes
    have takenBack := (extends_.untouched _ unreferenced).trans unrefunded.takenBack
    have sale : after.saleOf row = q.partnerId.map fun partnerId => Books.saleEntry partnerId q
        row.currency now subject.appId subscriptionId subject.themeId := by
      rw [Books.saleOf, keyed, Option.bind_some, booked, sold]
      cases q.partnerId with
      | none => rfl
      | some partnerId => rfl
    have invoice : after.invoices.get? (id, .invoice) =
        some (Books.feeInvoice number ⟨id, row⟩ .invoice q subject now) := by
      rw [extends_.invoices, Table.get?_set, if_pos rfl]
    exact ⟨⟨source, q, Charge.of_booked quotes debit sale invoice⟩,
      .inl ⟨reversals, takenBack, creditNotes⟩⟩
  · rw [extends_.transactions, Table.get?_set, if_neg new] at found
    rw [extends_.trace_other kept found unnamed unnoted ?_ unreferenced]
    · exact kept.charges other charge found charged
    · intro key' keyed' same
      exact extends_.alone other charge found (by rw [keyed', same, keyed])

/-- The rows of a refund, for books that hold the charge's invoice and no refund of it. -/
theorem refunded_rows {after mid : Books} {chargeId actorUserId : UUID} {charge : WalletRow}
    {tx : Charged} {invoice : AppFeeInvoice} {note : String} {now : Time}
    (billed : books.invoices.get? (chargeId, .invoice) = some invoice)
    (unnoted : books.invoices.get? (tx.id, .creditNote) = none)
    (unreferenced : books.ledger.get? (Books.refundReference chargeId) = none)
    (credited : books.creditInvoice chargeId tx now = .ok mid)
    (debited : mid.debitPartner chargeId charge actorUserId note now = .ok after) :
    ∃ number ledger subject, subject.original = some chargeId ∧
      after = { books with
        ledger := ledger
        invoices := books.invoices.set (tx.id, .creditNote)
          (Books.feeInvoice number tx .creditNote invoice.quote subject now) } ∧
      ledger.get? (Books.refundReference chargeId) = (books.saleOf charge).map (fun sale =>
        Books.takeBack sale (Books.refundReference chargeId) actorUserId note now) ∧
      ∀ other ≠ Books.refundReference chargeId, ledger.get? other = books.ledger.get? other := by
  simp only [Books.creditInvoice, billed] at credited
  obtain ⟨number, rfl⟩ := Books.issueFeeInvoice_ok unnoted credited
  simp only [Books.debitPartner, Books.saleOf] at debited ⊢
  split at debited
  · rename_i unsold
    cases debited
    refine ⟨number, books.ledger, _, ?_, rfl, ?_, fun _ _ => rfl⟩
    · rfl
    · rw [unsold, unreferenced]
      rfl
  · rename_i sale sold
    simp only [unreferenced, Option.isSome_none, Bool.false_eq_true, if_false] at debited
    cases debited
    refine ⟨number, _, _, ?_, rfl, ?_, fun other different => ?_⟩
    · rfl
    · rw [sold, Table.get?_set, if_pos rfl]
      rfl
    · rw [Table.get?_set, if_neg different]

/-- What a refund makes of well-kept books. -/
theorem refunded {after : Books} (kept : WellKept books) {id chargeId actorUserId : UUID}
    {note : String} {now : Time} {tx : Option Charged}
    (ok : books.refundCharge id chargeId actorUserId note now = .ok (after, tx)) :
    WellKept after := by
  simp only [Books.refundCharge] at ok
  split at ok
  · cases ok
  rename_i charge found
  split at ok
  · cases ok
  rename_i charged
  rw [not_not] at charged
  obtain ⟨⟨mid, reversal⟩, entered, rest⟩ := bind_eq_ok.mp ok
  rcases Books.applyEntry_ok entered with ⟨rfl, rfl⟩ | entered
  · cases rest
    exact kept
  obtain ⟨wallets, row, rfl, absent, shape, ⟨kind, amount, keyed⟩, free⟩ := entered
  replace free := fun other member => free other member (Books.refundKey chargeId) rfl
  obtain ⟨credited, credit, rest⟩ := bind_eq_ok.mp rest
  obtain ⟨debited, debit, rest⟩ := bind_eq_ok.mp rest
  cases rest
  obtain ⟨⟨source, q, booked⟩, -⟩ := kept.charges chargeId charge found charged
  have unrefunded := kept.unrefunded_of_free found charged free
  obtain ⟨invoice, billed, figures⟩ := Option.map_eq_some_iff.mp booked.invoice
  obtain ⟨number, ledger, subject, original, after_, taken, untouched⟩ :=
    refunded_rows (by rw [shape]; exact billed)
      (by rw [shape]; exact kept.unbilled absent .creditNote)
      (by rw [shape]; exact unrefunded.takenBack) credit debit
  have extends_ : Extends books after id row (Books.refundReference chargeId) .creditNote
      (Books.feeInvoice number ⟨id, row⟩ .creditNote invoice.quote subject now) := by
    refine ⟨absent, fun other row' found => ?_, ?_, ?_, ?_⟩
    · rw [keyed]
      exact free _ ((Table.get?_eq_some_iff _ _ _).mp found)
    · rw [after_, shape]
    · rw [after_, shape]
    · rw [after_]
      rw [shape] at untouched
      exact untouched
  have sold (other : UUID) (charge' : WalletRow)
      (found' : books.transactions.get? other = some charge') (charged' : charge'.kind = .appCharge)
      (key : String) (keyed' : charge'.idempotencyKey = some key) :
      key ≠ Books.refundReference chargeId := by
    obtain ⟨key', chargeKey, same⟩ := kept.chargeKey found' charged'
    rw [keyed', Option.some.injEq] at same
    rw [same]
    exact chargeKey.ne_refundReference chargeId
  apply extends_.wellKept kept
  · exact .inr ⟨kind, chargeId, by rw [found]; rfl, keyed⟩
  · exact .inr ⟨chargeId, by rw [found]; rfl, rfl⟩
  · intro other named
    have same : chargeId = other := Option.some.inj (original.symm.trans named)
    rw [← same, found]
    rfl
  intro other charge' found' charged'
  have old : books.transactions.get? other = some charge' := by
    rw [extends_.transactions, Table.get?_set] at found'
    split at found'
    · cases found'
      rw [kind] at charged'
      cases charged'
    · exact found'
  by_cases same : other = chargeId
  · rw [same, found] at old
    cases old
    rw [same]
    have takenBack : after.ledger.get? (Books.refundReference chargeId) =
        (books.saleOf charge).map fun sale =>
          Books.takeBack sale (Books.refundReference chargeId) actorUserId note now := by
      rw [after_]
      rw [shape] at taken
      exact taken
    have reversed : (after.ledger.get? (Books.refundReference chargeId)).map Trace.ledgerFigures =
        (books.saleOf charge).map fun sale => Trace.negated (Trace.ledgerFigures sale) := by
      rw [takenBack]
      cases books.saleOf charge with
      | none => rfl
      | some sale => simp [Books.takeBack, Trace.ledgerFigures, Trace.negated]
    obtain ⟨sale, invoiced, refunded⟩ := extends_.trace_refunded kept unrefunded
      (sold chargeId charge found charged) keyed amount reversed original billed
      (booked.negated_note figures)
    exact ⟨⟨source, q, booked.of_same sale invoiced⟩, .inr refunded⟩
  · rw [extends_.trace_other kept old ?_ ?_ ?_ ?_]
    · exact kept.charges other charge' old charged'
    · rw [keyed]
      intro equal
      exact same (refundKey_injective (Option.some.inj equal)).symm
    · intro named
      exact same (Option.some.inj (original.symm.trans named)).symm
    · exact sold other charge' old charged'
    · intro equal
      exact same (refundReference_injective equal)

end WellKept

theorem quoteFor_quotes (catalogue : Catalogue) (app : App) {list : Int} (list_nonneg : 0 ≤ list)
    (coupon : Option AppCoupon) (vatBps : Nat) :
    (Source.ofApp catalogue app).Quotes (quoteFor catalogue app list coupon vatBps) := by
  obtain ⟨list, rfl⟩ := Int.eq_ofNat_of_zero_le list_nonneg
  cases coupon with
  | none => exact ⟨list, 0, vatBps, rfl⟩
  | some coupon =>
      obtain ⟨discount, same⟩ := Int.eq_ofNat_of_zero_le (couponDiscount_nonneg coupon list_nonneg)
      refine ⟨list, discount, vatBps, ?_⟩
      rw [← same]
      rfl

theorem themeQuote_quotes (catalogue : Catalogue) (theme : Theme) (priced : 0 < theme.priceCents) :
    (Source.ofTheme catalogue theme).Quotes (themeQuote catalogue theme) := by
  obtain ⟨list, same⟩ := Int.eq_ofNat_of_zero_le (Int.le_of_lt priced)
  refine ⟨list, 0, standardVatBps, ?_⟩
  rw [← same]
  rfl

namespace BillingState

theorem usageAmount_nonneg {sub : AppSubscription} {amountCents units : Option Int} {amount : Int}
    (ok : usageAmount sub amountCents units = .ok amount) : 0 ≤ amount := by
  simp only [usageAmount] at ok
  split at ok
  · split at ok
    · rename_i units positive
      cases ok
      have counted : 1 ≤ units := by
        simpa using (Option.filter_eq_some_iff.mp positive).2
      exact Int.mul_nonneg (by omega) (Int.natCast_nonneg _)
    · cases ok
  · split at ok
    · rename_i amount positive
      cases ok
      have counted : 1 ≤ amount := by
        simpa using (Option.filter_eq_some_iff.mp positive).2
      omega
    · cases ok

section Calls
variable {state after : BillingState} {catalogue : Catalogue} {installation : Installation}
  {app : App} {newId chargeId : UUID} {now : Time}

/-- Redeeming a coupon touches no book. -/
theorem redeemAny_books {coupon : Option (UUID × AppCoupon)} {sub sub' : AppSubscription}
    (ok : state.redeemAny coupon sub = .ok (after, sub')) : after.books = state.books := by
  cases coupon with
  | none =>
      cases ok
      rfl
  | some coupon =>
      simp only [redeemAny, redeem] at ok
      split at ok
      · cases ok
      · cases ok
        rfl

/-- The end of `subscribe` books the charge, if there is one. -/
theorem finishSubscribe_books {sub : AppSubscription} {coupon : Option (UUID × AppCoupon)}
    {applied : Bool} {charged : Option (Quote × Charged)}
    (ok : state.finishSubscribe installation app sub coupon applied charged now = .ok after) :
    match charged with
    | none => after.books = state.books
    | some (q, tx) => ∃ subscriptionId subject, subject.original = none ∧
        state.books.book q tx (startKey installation.id now) subscriptionId subject now =
          .ok after.books := by
  obtain ⟨⟨redeemed, sub'⟩, redemption, rest⟩ := bind_eq_ok.mp ok
  have books := redeemAny_books redemption
  cases charged with
  | none =>
      cases rest
      exact books
  | some charged =>
      obtain ⟨booked, book, rest⟩ := bind_eq_ok.mp rest
      cases rest
      rw [books] at book
      exact ⟨_, _, rfl, book⟩

theorem subscribe_wellKept [UpperCase] (kept : WellKept state.books) {couponCode : Option String}
    {started : Bool}
    (ok : state.subscribe catalogue installation app couponCode newId chargeId now =
      .ok (after, started)) : WellKept after.books := by
  rcases subscribe_ok ok with ⟨paid, -, -, shape⟩ | shape | ⟨price, coupon, -, -, started⟩
  · rw [shape]
    exact kept
  · rw [shape]
    exact kept
  rcases started with ⟨trials, -, finished⟩ | ⟨-, finished⟩ | ⟨books, tx, charged, finished⟩
  · rw [finishSubscribe_books finished]
    exact kept
  · rw [finishSubscribe_books finished]
    exact kept
  · obtain ⟨subscriptionId, subject, own, booked⟩ := finishSubscribe_books finished
    exact kept.charged (quoteFor_quotes catalogue app (Int.natCast_nonneg _) _ _)
      (.start installation.id now) own charged booked

theorem renew_wellKept (kept : WellKept state.books) {chargeId : UUID → UUID}
    {installationId : UUID} {sub : AppSubscription}
    (ok : state.renew catalogue chargeId now installationId sub = .ok after) :
    WellKept after.books := by
  rcases renew_ok ok with ⟨status, -, shape⟩ | ⟨-, ⟨-, shape⟩ |
    ⟨app, books, tx, note, charged, rest⟩⟩
  · rw [shape]
    exact kept
  · rw [shape]
    exact kept
  cases tx with
  | none =>
      rw [rest]
      exact kept
  | some tx =>
      obtain ⟨subscriptionId, subject, booked, own, book, shape⟩ := rest
      rw [shape]
      exact kept.charged (quoteFor_quotes catalogue app (Int.natCast_nonneg _) _ _)
        (.renew sub.id sub.currentPeriodEnd) own charged book

theorem recordUsage_wellKept (kept : WellKept state.books) {description idempotencyKey : String}
    {amountCents units : Option Int} {new : Bool}
    (ok : state.recordUsage catalogue installation app description idempotencyKey amountCents units
      chargeId now = .ok (after, new)) : WellKept after.books := by
  rcases recordUsage_ok ok with shape | ⟨sub, amount, usage, books, tx, note, -, reported, charged, rest⟩
  · rw [shape]
    exact kept
  cases tx with
  | none =>
      rw [rest]
      exact kept
  | some tx =>
      obtain ⟨subscriptionId, subject, booked, own, book, shape⟩ := rest
      rw [shape]
      exact kept.charged (quoteFor_quotes catalogue app (usageAmount_nonneg reported) none _)
        (.usage installation.id idempotencyKey) own charged book

theorem purchaseTheme_wellKept (kept : WellKept state.books) {theme : Theme}
    {storeId tenantId userId purchaseId : UUID} {charged : Bool}
    (ok : state.purchaseTheme catalogue theme storeId tenantId userId purchaseId chargeId now =
      .ok (after, charged)) : WellKept after.books := by
  rcases purchaseTheme_ok ok with shape |
    ⟨earlier, books, tx, note, subject, booked, purchases, priced, own, charged, book, shape⟩
  · rw [shape]
    exact kept
  · rw [shape]
    exact kept.charged (themeQuote_quotes catalogue theme priced) (.theme storeId theme.id earlier)
      own charged book

theorem refundCharge_wellKept (kept : WellKept state.books) {id actorUserId : UUID} {note : String}
    {refunded : Bool}
    (ok : state.refundCharge id chargeId actorUserId note now = .ok (after, refunded)) :
    WellKept after.books := by
  obtain ⟨tx, -, shape | refund⟩ := refundCharge_ok ok
  · rw [shape]
    exact kept
  · exact kept.refunded refund

theorem step_wellKept [UpperCase] (kept : WellKept state.books) (label : BillingLabel) :
    WellKept (state.step label).books := by
  cases label with
  | subscribe catalogue installation app couponCode newId chargeId now =>
      refine Outcome.orKeep_keeps (P := fun after : BillingState => WellKept after.books) kept ?_
      intro after ok
      obtain ⟨⟨mid, started⟩, returned, rfl⟩ := Outcome.map_eq_ok.mp ok
      exact subscribe_wellKept kept returned
  | cancel installationId =>
      simp only [step, cancel]
      split <;> exact kept
  | renewDue catalogue locked chargeId now =>
      refine Outcome.orKeep_keeps (P := fun after : BillingState => WellKept after.books) kept ?_
      intro after ok
      exact Outcome.foldlM_ok (P := fun state => WellKept state.books)
        (fun before row after kept ok => renew_wellKept kept ok) ok kept
  | recordUsage catalogue installation app description idempotencyKey amountCents units chargeId
      now =>
      refine Outcome.orKeep_keeps (P := fun after : BillingState => WellKept after.books) kept ?_
      intro after ok
      obtain ⟨⟨mid, new⟩, returned, rfl⟩ := Outcome.map_eq_ok.mp ok
      exact recordUsage_wellKept kept returned
  | purchaseTheme catalogue theme storeId tenantId userId purchaseId chargeId now =>
      refine Outcome.orKeep_keeps (P := fun after : BillingState => WellKept after.books) kept ?_
      intro after ok
      obtain ⟨⟨mid, charged⟩, returned, rfl⟩ := Outcome.map_eq_ok.mp ok
      exact purchaseTheme_wellKept kept returned
  | refundCharge id chargeId actorUserId note now =>
      refine Outcome.orKeep_keeps (P := fun after : BillingState => WellKept after.books) kept ?_
      intro after ok
      obtain ⟨⟨mid, refunded⟩, returned, rfl⟩ := Outcome.map_eq_ok.mp ok
      exact refundCharge_wellKept kept returned
  | setWallet tenantId wallet =>
      exact ⟨kept.rows, kept.distinct, kept.entries, kept.invoices, kept.charges⟩

end Calls
end BillingState

theorem wellKept_empty : WellKept {} := by
  refine ⟨?_, ?_, ?_, ?_, ?_⟩
  · intro id row found
    cases found
  · intro first second row row' found
    cases found
  · intro key found
    cases found
  · intro id kind invoice found
    cases found
  · intro id charge found
    cases found

end Numu.AppBilling
