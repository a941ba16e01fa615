import Numu.AppBilling.Subscription

/-! What a partner may be paid, and what a refunded sale does to it. -/

namespace Numu.AppBilling
open Numu.Orders (UUID Time)
open Numu.Invoices (UpperCase)
open Numu.Outcome (bind_eq_ok)

/-- `HOLD`: a sale becomes payable 30 days after it was collected. -/
def hold : Time := 30 * Calendar.dayLength

/-- A credit inside the hold. -/
def PartnerLedgerEntry.heldAt (entry : PartnerLedgerEntry) (now : Time) : Bool :=
  (entry.kind = .sale || entry.kind = .referral) && now < entry.createdAt + hold

section Payable
variable (ledger : Table String PartnerLedgerEntry) (partnerId : UUID) (now : Time)

/-- `partner_balance`. -/
def partnerBalance : Int :=
  ledger.sumOf fun entry => if entry.partnerId = partnerId then entry.amountCents else 0

def heldCents : Int :=
  ledger.sumOf fun entry =>
    if entry.partnerId = partnerId ∧ entry.heldAt now then entry.amountCents else 0

/-- `partner_payable`. -/
def partnerPayable : Int :=
  max 0 (partnerBalance ledger partnerId - heldCents ledger partnerId now)

/-- The payouts, the adjustments and the credits out of the hold. -/
def releasedCents : Int :=
  ledger.sumOf fun entry =>
    if entry.partnerId = partnerId ∧ ¬ entry.heldAt now then entry.amountCents else 0

theorem releasedCents_eq :
    releasedCents ledger partnerId now =
      partnerBalance ledger partnerId - heldCents ledger partnerId now := by
  simp only [releasedCents, partnerBalance, heldCents, Table.sumOf]
  induction ledger.rows with
  | nil => rfl
  | cons row rows ih =>
      simp only [List.map_cons, List.sum_cons, ih]
      cases row.2.heldAt now <;> by_cases own : row.2.partnerId = partnerId <;> simp [own]
      all_goals omega

end Payable

/-- The ledger as if a sale and what took it back did not exist. -/
def withoutSale (ledger : Table String PartnerLedgerEntry) (key : String) (chargeId : UUID) :
    Table String PartnerLedgerEntry :=
  (ledger.erase key).erase (Books.refundReference chargeId)

/-- Entries are never updated or deleted. -/
def Later (before after : Table String PartnerLedgerEntry) : Prop :=
  ∀ key entry, before.get? key = some entry → after.get? key = some entry

namespace Books
variable {books after : Books} {id chargeId actorUserId : UUID} {note : String} {now : Time}

theorem applyEntry_ledger {tenantId : UUID} {entry : Wallet.Entry} {tx : Option Charged}
    (ok : books.applyEntry id tenantId entry = .ok (after, tx)) : after.ledger = books.ledger := by
  rcases applyEntry_ok ok with ⟨-, rfl⟩ | ⟨wallets, row, -, -, shape, -⟩
  · rfl
  · rw [shape]

/-- A refund of a charge with a sale keeps the sale and adds what takes it back. -/
theorem refundCharge_ledger {charge : WalletRow} {key : String} {sale : PartnerLedgerEntry}
    {tx : Charged} (found : books.transactions.get? chargeId = some charge)
    (keyed : charge.idempotencyKey = some key) (sold : books.saleOf charge = some sale)
    (ok : books.refundCharge id chargeId actorUserId note now = .ok (after, some tx)) :
    key ≠ refundReference chargeId ∧ after.ledger.get? key = some sale ∧
      after.ledger.get? (refundReference chargeId) =
        some (takeBack sale (refundReference chargeId) actorUserId note now) := by
  have present : books.ledger.get? key = some sale := by
    rw [saleOf, keyed, Option.bind_some, Option.filter_eq_some_iff] at sold
    exact sold.1
  simp only [refundCharge, found] at ok
  split at ok
  · cases ok
  obtain ⟨⟨mid, reversal⟩, entered, rest⟩ := bind_eq_ok.mp ok
  cases reversal with
  | none => cases rest
  | some reversal =>
      obtain ⟨credited, credit, rest⟩ := bind_eq_ok.mp rest
      obtain ⟨debited, debit, rest⟩ := bind_eq_ok.mp rest
      cases rest
      have ledger : credited.ledger = books.ledger :=
        (creditInvoice_keeps credit).2.trans (applyEntry_ledger entered)
      have sold : credited.saleOf charge = some sale := by
        rw [← sold, saleOf, saleOf, ledger]
      simp only [debitPartner, sold, ledger] at debit
      split at debit
      · cases debit
      rename_i free
      have apart : key ≠ refundReference chargeId := by
        intro same
        rw [← same, present] at free
        exact free rfl
      cases debit
      refine ⟨apart, ?_, ?_⟩
      · simp only [Table.get?_set, apart, if_false, present]
      · simp only [Table.get?_set, if_true]

end Books

/-- The released entries with a sale and its refund among them. -/
theorem releasedCents_without {ledger : Table String PartnerLedgerEntry} {key reference : String}
    (apart : reference ≠ key) {sale back : PartnerLedgerEntry} (present : ledger.get? key = some sale)
    (present' : ledger.get? reference = some back) (partnerId : UUID) (now : Time) :
    releasedCents ledger partnerId now =
      releasedCents ((ledger.erase key).erase reference) partnerId now +
        (if back.partnerId = partnerId ∧ ¬ back.heldAt now then back.amountCents else 0) +
        (if sale.partnerId = partnerId ∧ ¬ sale.heldAt now then sale.amountCents else 0) := by
  have kept : (ledger.erase key).get? reference = some back := by
    rw [Table.get?_erase_of_ne _ apart, present']
  rw [releasedCents, Table.sumOf_erase _ present, Table.sumOf_erase _ kept]
  rfl

/-- A refunded sale leaves what a partner may be paid as it would be without the sale and its
refund exactly when it is another partner's, has left the hold or credited nothing, or when the
partner's other released entries cover neither nothing nor the sale. -/
theorem payable_without_refunded_sale_iff {books after : Books} {id chargeId actorUserId : UUID}
    {note : String} {refundedAt : Time} {charge : WalletRow} {key : String}
    {sale : PartnerLedgerEntry} {tx : Charged}
    (found : books.transactions.get? chargeId = some charge)
    (keyed : charge.idempotencyKey = some key) (sold : books.saleOf charge = some sale)
    (ok : books.refundCharge id chargeId actorUserId note refundedAt = .ok (after, some tx))
    {ledger : Table String PartnerLedgerEntry} (later : Later after.ledger ledger)
    (partnerId : UUID) (now : Time) :
    partnerPayable ledger partnerId now =
        partnerPayable (withoutSale ledger key chargeId) partnerId now ↔
      sale.partnerId ≠ partnerId ∨ sale.createdAt + hold ≤ now ∨ sale.amountCents = 0 ∨
        releasedCents (withoutSale ledger key chargeId) partnerId now ≤ min 0 sale.amountCents := by
  obtain ⟨apart, present, present'⟩ := Books.refundCharge_ledger found keyed sold ok
  have credit : sale.kind = .sale := by
    rw [Books.saleOf, Option.filter_eq_some_iff] at sold
    exact of_decide_eq_true sold.2
  have sums : releasedCents ledger partnerId now =
      releasedCents (withoutSale ledger key chargeId) partnerId now +
        (if sale.partnerId = partnerId then -sale.amountCents else 0) +
        (if sale.partnerId = partnerId ∧ sale.createdAt + hold ≤ now then sale.amountCents
          else 0) := by
    rw [releasedCents_without apart.symm (later _ _ present) (later _ _ present') partnerId now]
    simp [PartnerLedgerEntry.heldAt, Books.takeBack, withoutSale, credit]
  rw [partnerPayable, partnerPayable, ← releasedCents_eq, ← releasedCents_eq]
  generalize releasedCents ledger partnerId now = total at sums ⊢
  generalize releasedCents (withoutSale ledger key chargeId) partnerId now = rest at sums ⊢
  by_cases own : sale.partnerId = partnerId
  · by_cases matured : sale.createdAt + hold ≤ now
    · rw [if_pos own, if_pos ⟨own, matured⟩] at sums
      have same : total = rest := by omega
      exact iff_of_true (by rw [same]) (.inr (.inl matured))
    · rw [if_pos own, if_neg fun both => matured both.2] at sums
      have apart : ¬ sale.partnerId ≠ partnerId := not_not.mpr own
      simp only [apart, matured, false_or]
      omega
  · rw [if_neg own, if_neg fun both => own both.1] at sums
    have same : total = rest := by omega
    exact iff_of_true (by rw [same]) (.inl own)

/-- Partner 7 sells one subscription on day 0 and another on day 40. -/
def twoSales : List BillingLabel :=
  let catalogue : Catalogue := { accounts := fun _ => some { id := 7 } }
  [.setWallet 1 { balanceCents := 50000 },
    .subscribe catalogue { id := 4, tenantId := 1, storeId := 2 } labelsApp none 5 6 0,
    .subscribe catalogue { id := 8, tenantId := 1, storeId := 3 } labelsApp none 9 10
      (40 * Calendar.dayLength)]

/-- The second sale is refunded on day 45, and on day 71 its hold is over. -/
theorem payable_after_hold :
    let _ := UpperCase.ascii
    let books := (Run.run BillingState.step {} twoSales).books
    let key := startKey 8 (40 * Calendar.dayLength)
    ∃ after tx, books.refundCharge 11 10 12 "duplicate" (45 * Calendar.dayLength) =
        .ok (after, some tx) ∧
      partnerPayable after.ledger 7 (71 * Calendar.dayLength) =
        partnerPayable (withoutSale after.ledger key 10) 7 (71 * Calendar.dayLength) := by
  intro _ books key
  have refunded : ((books.refundCharge 11 10 12 "duplicate" (45 * Calendar.dayLength)).map
      fun after => after.2.isSome).toOption = some true := by decide +kernel
  have charged : ((books.transactions.get? 10).map fun charge =>
      (charge.idempotencyKey, (books.saleOf charge).map PartnerLedgerEntry.createdAt)) =
      some (some key, some (40 * Calendar.dayLength)) := by decide +kernel
  cases ok : books.refundCharge 11 10 12 "duplicate" (45 * Calendar.dayLength) with
  | error error =>
      rw [ok] at refunded
      cases refunded
  | ok result =>
      obtain ⟨after, tx⟩ := result
      cases tx with
      | none =>
          rw [ok] at refunded
          cases refunded
      | some tx =>
          obtain ⟨charge, found, facts⟩ := Option.map_eq_some_iff.mp charged
          rw [Prod.mk.injEq, Option.map_eq_some_iff] at facts
          obtain ⟨keyed, sale, sold, createdAt⟩ := facts
          refine ⟨after, tx, rfl, ?_⟩
          apply (payable_without_refunded_sale_iff found keyed sold ok
            (fun _ _ present => present) 7 _).mpr
          rw [createdAt]
          exact .inr (.inl (by decide))

/-- On day 45 the matured first sale pays nothing: the refunded one is held and taken back. -/
theorem refunded_sale_blocks_payout :
    let _ := UpperCase.ascii
    let books := (Run.run BillingState.step {} twoSales).books
    let key := startKey 8 (40 * Calendar.dayLength)
    ∃ after tx, books.refundCharge 11 10 12 "duplicate" (45 * Calendar.dayLength) =
        .ok (after, some tx) ∧
      partnerPayable after.ledger 7 (45 * Calendar.dayLength) = 0 ∧
      partnerPayable (withoutSale after.ledger key 10) 7 (45 * Calendar.dayLength) = 8000 := by
  intro _ books key
  have evaluated : (((books.refundCharge 11 10 12 "duplicate" (45 * Calendar.dayLength)).map
      fun after => (after.2.isSome,
        partnerPayable after.1.ledger 7 (45 * Calendar.dayLength),
        partnerPayable (withoutSale after.1.ledger key 10) 7
          (45 * Calendar.dayLength))).toOption) = some (true, 0, 8000) := by decide +kernel
  cases ok : books.refundCharge 11 10 12 "duplicate" (45 * Calendar.dayLength) with
  | error error =>
      rw [ok] at evaluated
      cases evaluated
  | ok result =>
      obtain ⟨after, tx⟩ := result
      rw [ok] at evaluated
      simp only [Except.map, Except.toOption, Option.some.injEq, Prod.mk.injEq] at evaluated
      obtain ⟨refunded, payable, without⟩ := evaluated
      obtain ⟨tx, rfl⟩ := Option.isSome_iff_exists.mp refunded
      exact ⟨after, tx, rfl, payable, without⟩

end Numu.AppBilling
