import Numu.AppBilling.Conservation
import Numu.AppBilling.Referrals
import Numu.Foundation.Grouping
import Numu.Foundation.Run

/-!
# Payable and balance

The reversal of a referral credit is on hold like the credit, with a date of its own. What is
payable exceeds the balance when credits that have left the hold are taken back.
-/

namespace Numu.AppBilling
open Numu.Orders (UUID Time)
open Numu.Invoices (UpperCase)

/-- The key of the credit that a reversal takes back. -/
def creditKey (key : String) : String :=
  String.ofList ("referral:".toList ++ key.toList.drop 16)

/-- The key of what takes a credit back. -/
def takenBackKey (key : String) : String :=
  String.ofList ("referral-refund:".toList ++ key.toList.drop 9)

section Sums
variable (ledger : Table String PartnerLedgerEntry) (partnerId : UUID) (now : Time)

/-- The referral credits outside the hold that were taken back inside it. -/
def lateReversals : Int :=
  ledger.sumBy fun key entry =>
    if entry.partnerId = partnerId ∧ entry.kind = .referral ∧ entry.amountCents < 0 ∧
        entry.heldAt now ∧ ¬ (ledger.get? (creditKey key)).any (·.heldAt now)
    then -entry.amountCents else 0

/-- The sales and credits inside the hold, but for the credits that were taken back inside it. -/
def heldEarnings : Int :=
  ledger.sumBy fun key entry =>
    if entry.partnerId = partnerId ∧ entry.heldAt now ∧ (entry.kind = .referral →
        0 < entry.amountCents ∧ ¬ (ledger.get? (takenBackKey key)).any (·.heldAt now))
    then entry.amountCents else 0

end Sums

def IsReferralKey (key : String) : Prop :=
  ∃ invoiceId, key = referralKey invoiceId ∨ key = reversalKey invoiceId

theorem referralKey_toList (invoiceId : UUID) :
    (referralKey invoiceId).toList = "referral:".toList ++ (UuidText.writeUuid invoiceId).toList := by
  delta referralKey
  simp only [toString, String.toList_append]

theorem reversalKey_toList (invoiceId : UUID) :
    (reversalKey invoiceId).toList =
      "referral-refund:".toList ++ (UuidText.writeUuid invoiceId).toList := by
  delta reversalKey
  simp only [toString, String.toList_append]

theorem creditKey_reversalKey (invoiceId : UUID) :
    creditKey (reversalKey invoiceId) = referralKey invoiceId := by
  have cut : "referral-refund:".toList.length = 16 := by simp
  unfold creditKey
  rw [reversalKey_toList, List.drop_left' cut, ← referralKey_toList, String.ofList_toList]

theorem takenBackKey_referralKey (invoiceId : UUID) :
    takenBackKey (referralKey invoiceId) = reversalKey invoiceId := by
  have cut : "referral:".toList.length = 9 := by simp
  unfold takenBackKey
  rw [referralKey_toList, List.drop_left' cut, ← reversalKey_toList, String.ofList_toList]

theorem referralKey_ne_reversalKey (first second : UUID) :
    referralKey first ≠ reversalKey second := by
  intro same
  have chars := congrArg String.toList same
  rw [referralKey_toList, reversalKey_toList] at chars
  simp at chars

theorem ChargeKey.not_referral {key : String} (chargeKey : ChargeKey key) :
    ¬ IsReferralKey key := by
  rintro ⟨invoiceId, same | same⟩ <;>
    have chars := congrArg String.toList same <;>
    cases chargeKey <;>
    simp [startKey, renewKey, usageKey, themeKey_toList, referralKey_toList,
      reversalKey_toList, toString] at chars

theorem refundReference_not_referral (chargeId : UUID) :
    ¬ IsReferralKey (Books.refundReference chargeId) := by
  rintro ⟨invoiceId, same | same⟩ <;>
    have chars := congrArg String.toList same <;>
    simp [Books.refundReference, referralKey_toList, reversalKey_toList, toString] at chars

theorem adjustmentKey_not_referral (partnerId : UUID) (reference : String) :
    ¬ IsReferralKey (adjustmentKey partnerId reference) := by
  rintro ⟨invoiceId, same | same⟩ <;>
    have chars := congrArg String.toList same <;>
    simp [adjustmentKey, referralKey_toList, reversalKey_toList, toString] at chars

theorem payoutKey_not_referral (partnerId : UUID) (reference : String) :
    ¬ IsReferralKey (payoutKey partnerId reference) := by
  rintro ⟨invoiceId, same | same⟩ <;>
    have chars := congrArg String.toList same <;>
    simp [payoutKey, referralKey_toList, reversalKey_toList, toString] at chars

/-- What a reversal has of its credit. -/
structure TakesBack (reversal credit : PartnerLedgerEntry) : Prop where
  kind : credit.kind = .referral
  positive : 0 < credit.amountCents
  partner : reversal.partnerId = credit.partnerId
  amount : reversal.amountCents = -credit.amountCents

/-- Each referral entry is the credit of an invoice or takes one back. -/
structure Paired (ledger : Table String PartnerLedgerEntry) : Prop where
  referrals : ∀ key entry, ledger.get? key = some entry → entry.kind = .referral →
    (∃ invoiceId, key = referralKey invoiceId ∧ 0 < entry.amountCents) ∨
      ∃ invoiceId credit, key = reversalKey invoiceId ∧
        ledger.get? (referralKey invoiceId) = some credit ∧ TakesBack entry credit
  others : ∀ key entry, ledger.get? key = some entry → entry.kind ≠ .referral →
    ¬ IsReferralKey key

namespace Paired
variable {ledger : Table String PartnerLedgerEntry} (paired : Paired ledger)

include paired

theorem credit_of_positive {key : String} {entry : PartnerLedgerEntry}
    (present : ledger.get? key = some entry) (kind : entry.kind = .referral)
    (positive : 0 < entry.amountCents) : ∃ invoiceId, key = referralKey invoiceId := by
  rcases paired.referrals key entry present kind with ⟨invoiceId, same, -⟩ |
    ⟨invoiceId, credit, -, -, takes⟩
  · exact ⟨invoiceId, same⟩
  · have credited := takes.positive
    rw [takes.amount] at positive
    omega

theorem reversal_of_negative {key : String} {entry : PartnerLedgerEntry}
    (present : ledger.get? key = some entry) (kind : entry.kind = .referral)
    (negative : entry.amountCents < 0) :
    ∃ invoiceId credit, key = reversalKey invoiceId ∧
      ledger.get? (referralKey invoiceId) = some credit ∧ TakesBack entry credit := by
  rcases paired.referrals key entry present kind with ⟨invoiceId, -, positive⟩ | reversal
  · omega
  · exact reversal

/-- The entry under the key of a reversal takes back the credit of the invoice. -/
theorem reversal_at {invoiceId : UUID} {entry : PartnerLedgerEntry}
    (present : ledger.get? (reversalKey invoiceId) = some entry) :
    entry.kind = .referral ∧ ∃ credit, ledger.get? (referralKey invoiceId) = some credit ∧
      TakesBack entry credit := by
  have kind : entry.kind = .referral := by
    by_contra other
    exact paired.others _ entry present other ⟨invoiceId, .inr rfl⟩
  refine ⟨kind, ?_⟩
  rcases paired.referrals _ entry present kind with ⟨other, same, -⟩ |
    ⟨other, credit, same, credited, takes⟩
  · exact absurd same.symm (referralKey_ne_reversalKey other invoiceId)
  · have keys := congrArg creditKey same
    rw [creditKey_reversalKey, creditKey_reversalKey] at keys
    rw [keys]
    exact ⟨credit, credited, takes⟩

/-- The reversals inside the hold of credits inside it, and these credits. -/
theorem sum_paired (partnerId : UUID) (now : Time) :
    (ledger.sumBy fun key entry =>
        if entry.partnerId = partnerId ∧ entry.kind = .referral ∧ entry.amountCents < 0 ∧
          entry.heldAt now ∧ (ledger.get? (creditKey key)).any (·.heldAt now)
        then -entry.amountCents else 0) =
      ledger.sumBy fun key entry =>
        if entry.partnerId = partnerId ∧ entry.kind = .referral ∧ 0 < entry.amountCents ∧
          entry.heldAt now ∧ (ledger.get? (takenBackKey key)).any (·.heldAt now)
        then entry.amountCents else 0 := by
  apply Table.sumBy_paired _ creditKey takenBackKey
  · intro key entry present some_
    have counted := ite_ne_right_iff.mp some_
    rcases counted with ⟨⟨own, kind, negative, held, creditHeld⟩, -⟩
    rcases paired.reversal_of_negative present kind negative with
      ⟨invoiceId, credit, rfl, credited, takes⟩
    rw [creditKey_reversalKey] at creditHeld ⊢
    have inside : credit.heldAt now = true := by
      rw [credited, Option.any_some] at creditHeld
      exact creditHeld
    refine ⟨credit, credited, ?_, takenBackKey_referralKey invoiceId⟩
    rw [takenBackKey_referralKey, present, Option.any_some,
      if_pos ⟨takes.partner ▸ own, takes.kind, takes.positive, inside, held⟩,
      if_pos ⟨own, kind, negative, held, creditHeld⟩, takes.amount, neg_neg]
  · intro key entry present some_
    have counted := ite_ne_right_iff.mp some_
    rcases counted with ⟨⟨own, kind, positive, held, reversed⟩, -⟩
    rcases paired.credit_of_positive present kind positive with ⟨invoiceId, rfl⟩
    rw [takenBackKey_referralKey] at reversed ⊢
    rcases Option.any_eq_true .. |>.mp reversed with ⟨reversal, found, reversalHeld⟩
    rcases paired.reversal_at found with ⟨reverses, credit, credited, takes⟩
    rw [present] at credited
    cases credited
    refine ⟨reversal, found, ?_, creditKey_reversalKey invoiceId⟩
    have negative : reversal.amountCents < 0 := by
      have amount := takes.amount
      omega
    rw [creditKey_reversalKey, present, Option.any_some,
      if_pos ⟨takes.partner.trans own, reverses, negative, reversalHeld, held⟩]
    omega

/-- What the hold takes off the balance. -/
theorem heldCents_eq (partnerId : UUID) (now : Time) :
    heldCents ledger partnerId now =
      heldEarnings ledger partnerId now - lateReversals ledger partnerId now := by
  have cancel := paired.sum_paired partnerId now
  have split_ : heldCents ledger partnerId now + lateReversals ledger partnerId now +
      (ledger.sumBy fun key entry =>
        if entry.partnerId = partnerId ∧ entry.kind = .referral ∧ entry.amountCents < 0 ∧
          entry.heldAt now ∧ (ledger.get? (creditKey key)).any (·.heldAt now)
        then -entry.amountCents else 0) =
      heldEarnings ledger partnerId now + ledger.sumBy fun key entry =>
        if entry.partnerId = partnerId ∧ entry.kind = .referral ∧ 0 < entry.amountCents ∧
          entry.heldAt now ∧ (ledger.get? (takenBackKey key)).any (·.heldAt now)
        then entry.amountCents else 0 := by
    have held : heldCents ledger partnerId now = ledger.sumBy fun _ entry =>
        if entry.partnerId = partnerId ∧ entry.heldAt now then entry.amountCents else 0 := rfl
    rw [held, lateReversals, heldEarnings, ← Table.sumBy_add, ← Table.sumBy_add,
      ← Table.sumBy_add]
    apply Table.sumBy_congr
    intro key entry present
    by_cases own : entry.partnerId = partnerId ∧ entry.heldAt now = true
    · rcases own with ⟨own, held⟩
      by_cases kind : entry.kind = .referral
      · rcases Int.lt_trichotomy entry.amountCents 0 with negative | zero | positive
        · have unpaid : ¬ 0 < entry.amountCents := by omega
          by_cases creditHeld : (ledger.get? (creditKey key)).any (·.heldAt now) = true <;>
            simp [own, held, kind, negative, unpaid, creditHeld]
        · simp [zero]
        · have paid : ¬ entry.amountCents < 0 := by omega
          by_cases reversed : (ledger.get? (takenBackKey key)).any (·.heldAt now) = true <;>
            simp [own, held, kind, positive, paid, reversed]
      · simp [own, held, kind]
    · have outside : ∀ rest : Prop, ¬ (entry.partnerId = partnerId ∧ entry.heldAt now = true ∧ rest) :=
        fun rest counted => own ⟨counted.1, counted.2.1⟩
      have outside' : ∀ first second rest : Prop, ¬ (entry.partnerId = partnerId ∧ first ∧ second ∧
          entry.heldAt now = true ∧ rest) :=
        fun _ _ _ counted => own ⟨counted.1, counted.2.2.2.1⟩
      simp only [own, outside, outside', if_false, add_zero]
  omega

end Paired

/-- The later ledger has the entries of the earlier one, and others that no referral makes. -/
structure Grows (before after : Table String PartnerLedgerEntry) : Prop where
  later : Later before after
  fresh : ∀ key entry, after.get? key = some entry → before.get? key = some entry ∨
    entry.kind ≠ .referral ∧ ¬ IsReferralKey key

namespace Grows
variable {before mid after : Table String PartnerLedgerEntry}

theorem refl (ledger : Table String PartnerLedgerEntry) : Grows ledger ledger :=
  ⟨fun _ _ present => present, fun _ _ present => .inl present⟩

theorem trans (first : Grows before mid) (second : Grows mid after) : Grows before after := by
  refine ⟨fun key entry present => second.later key entry (first.later key entry present), ?_⟩
  intro key entry present
  rcases second.fresh key entry present with old | new
  · exact first.fresh key entry old
  · exact .inr new

theorem set {key : String} {entry : PartnerLedgerEntry} (absent : before.get? key = none)
    (kind : entry.kind ≠ .referral) (other : ¬ IsReferralKey key) :
    Grows before (before.set key entry) := by
  constructor
  · intro key' entry' present
    have apart : key' ≠ key := by
      rintro rfl
      rw [absent] at present
      cases present
    rw [Table.get?_set, if_neg apart]
    exact present
  · intro key' entry' present
    rw [Table.get?_set] at present
    split at present
    · rename_i same
      cases present
      exact .inr ⟨kind, same ▸ other⟩
    · exact .inl present

end Grows

theorem Paired.grows {before after : Table String PartnerLedgerEntry} (paired : Paired before)
    (grows : Grows before after) : Paired after := by
  constructor
  · intro key entry present kind
    rcases grows.fresh key entry present with old | ⟨other, -⟩
    · rcases paired.referrals key entry old kind with credit |
        ⟨invoiceId, credit, same, credited, takes⟩
      · exact .inl credit
      · exact .inr ⟨invoiceId, credit, same, grows.later _ _ credited, takes⟩
    · exact absurd kind other
  · intro key entry present other
    rcases grows.fresh key entry present with old | ⟨-, new⟩
    · exact paired.others key entry old other
    · exact new

namespace Books
variable {books after : Books} {id : UUID} {now : Time}

theorem ledgerSale_grows {key : String} (chargeKey : ChargeKey key) {entry : PartnerLedgerEntry}
    (sale : entry.kind = .sale) : Grows books.ledger (books.ledgerSale key entry).ledger := by
  rw [ledgerSale]
  split
  · exact .refl _
  · rename_i absent
    apply Grows.set (Option.not_isSome_iff_eq_none.mp absent)
    · rw [sale]
      decide
    · exact chargeKey.not_referral

theorem book_grows {q : Quote} {tx : Charged} {key : String} (chargeKey : ChargeKey key)
    {subscriptionId : Option UUID} {subject : Subject}
    (ok : books.book q tx key subscriptionId subject now = .ok after) :
    Grows books.ledger after.ledger := by
  rw [book] at ok
  rw [(issueFeeInvoice_keeps ok).2]
  cases q.partnerId with
  | none => exact .refl _
  | some partnerId => exact ledgerSale_grows chargeKey rfl

theorem charge_ledger {tenantId : UUID} {amountCents : Int} {currency key note : String}
    {tx : Option Charged}
    (ok : books.charge id tenantId amountCents currency key note = .ok (after, tx)) :
    after.ledger = books.ledger :=
  applyEntry_ledger (charge_ok ok)

theorem refundCharge_grows {chargeId actorUserId : UUID} {note : String} {tx : Option Charged}
    (ok : books.refundCharge id chargeId actorUserId note now = .ok (after, tx)) :
    Grows books.ledger after.ledger := by
  rw [refundCharge] at ok
  split at ok
  · cases ok
  split at ok
  · cases ok
  rcases Outcome.bind_eq_ok.mp ok with ⟨⟨mid, reversal⟩, entered, rest⟩
  have ledger : mid.ledger = books.ledger := applyEntry_ledger entered
  cases reversal with
  | none =>
      cases rest
      rw [ledger]
      exact .refl _
  | some reversal =>
      rcases Outcome.bind_eq_ok.mp rest with ⟨credited, credit, rest⟩
      rcases Outcome.bind_eq_ok.mp rest with ⟨debited, debit, rest⟩
      cases rest
      rw [← ledger, ← (creditInvoice_keeps credit).2]
      rw [debitPartner] at debit
      split at debit
      · cases debit
        exact .refl _
      · dsimp only at debit
        split at debit
        · cases debit
        · rename_i absent
          cases debit
          apply Grows.set (Option.not_isSome_iff_eq_none.mp absent)
          · exact LedgerKind.noConfusion
          · exact refundReference_not_referral chargeId

end Books

namespace BillingState
variable {state after : BillingState} {catalogue : Catalogue} {installation : Installation}
  {app : App} {newId chargeId : UUID} {now : Time}

theorem subscribe_grows [UpperCase] {couponCode : Option String} {started : Bool}
    (ok : state.subscribe catalogue installation app couponCode newId chargeId now =
      .ok (after, started)) : Grows state.books.ledger after.books.ledger := by
  rcases subscribe_ok ok with ⟨paid, -, -, shape⟩ | shape | ⟨price, coupon, -, -, started⟩
  · rw [shape]
    exact .refl _
  · rw [shape]
    exact .refl _
  rcases started with ⟨trials, -, finished⟩ | ⟨-, finished⟩ | ⟨books, tx, charged, finished⟩
  · rw [finishSubscribe_books finished]
    exact .refl _
  · rw [finishSubscribe_books finished]
    exact .refl _
  · rcases finishSubscribe_books finished with ⟨subscriptionId, subject, -, booked⟩
    rw [← Books.charge_ledger charged]
    exact Books.book_grows (.start installation.id now) booked

theorem renew_grows {chargeId : UUID → UUID} {installationId : UUID} {sub : AppSubscription}
    (ok : state.renew catalogue chargeId now installationId sub = .ok after) :
    Grows state.books.ledger after.books.ledger := by
  rcases renew_ok ok with ⟨status, -, shape⟩ | ⟨-, ⟨-, shape⟩ |
    ⟨app, books, tx, note, charged, rest⟩⟩
  · rw [shape]
    exact .refl _
  · rw [shape]
    exact .refl _
  cases tx with
  | none =>
      rw [rest]
      exact .refl _
  | some tx =>
      rcases rest with ⟨subscriptionId, subject, booked, -, book, shape⟩
      rw [shape, ← Books.charge_ledger charged]
      exact Books.book_grows (.renew sub.id sub.currentPeriodEnd) book

theorem recordUsage_grows {description idempotencyKey : String} {amountCents units : Option Int}
    {new : Bool}
    (ok : state.recordUsage catalogue installation app description idempotencyKey amountCents units
      chargeId now = .ok (after, new)) : Grows state.books.ledger after.books.ledger := by
  rcases recordUsage_ok ok with shape | ⟨sub, amount, usage, books, tx, note, -, -, charged, rest⟩
  · rw [shape]
    exact .refl _
  cases tx with
  | none =>
      rw [rest]
      exact .refl _
  | some tx =>
      rcases rest with ⟨subscriptionId, subject, booked, -, book, shape⟩
      rw [shape, ← Books.charge_ledger charged]
      exact Books.book_grows (.usage installation.id idempotencyKey) book

theorem purchaseTheme_grows {theme : Theme} {storeId tenantId userId purchaseId : UUID}
    {charged : Bool}
    (ok : state.purchaseTheme catalogue theme storeId tenantId userId purchaseId chargeId now =
      .ok (after, charged)) : Grows state.books.ledger after.books.ledger := by
  rcases purchaseTheme_ok ok with shape |
    ⟨earlier, books, tx, note, subject, booked, purchases, -, -, charged, book, shape⟩
  · rw [shape]
    exact .refl _
  · rw [shape, ← Books.charge_ledger charged]
    exact Books.book_grows (.theme storeId theme.id earlier) book

/-- Whatever the billing calls do, the ledger only grows, and by no referral. -/
theorem step_grows [UpperCase] (state : BillingState) (label : BillingLabel) :
    Grows state.books.ledger (state.step label).books.ledger := by
  have unchanged : Grows state.books.ledger state.books.ledger := .refl _
  have rolledBack : ∀ result : Except BillingError BillingState,
      (∀ after, result = .ok after → Grows state.books.ledger after.books.ledger) →
        Grows state.books.ledger (Outcome.orKeep state result).books.ledger :=
    fun _ grows => Outcome.orKeep_keeps
      (P := fun after : BillingState => Grows state.books.ledger after.books.ledger) unchanged grows
  cases label with
  | subscribe catalogue installation app couponCode newId chargeId now =>
      apply rolledBack
      intro after ok
      rcases Outcome.map_eq_ok.mp ok with ⟨⟨mid, started⟩, returned, rfl⟩
      exact subscribe_grows returned
  | cancel installationId =>
      simp only [step, cancel]
      split <;> exact unchanged
  | renewDue catalogue locked chargeId now =>
      apply rolledBack
      intro after ok
      exact Outcome.foldlM_ok 
        (P := fun after : BillingState => Grows state.books.ledger after.books.ledger)
        (fun before row after grown ok => grown.trans (renew_grows ok)) ok unchanged
  | recordUsage catalogue installation app description idempotencyKey amountCents units chargeId
      now =>
      apply rolledBack
      intro after ok
      rcases Outcome.map_eq_ok.mp ok with ⟨⟨mid, new⟩, returned, rfl⟩
      exact recordUsage_grows returned
  | purchaseTheme catalogue theme storeId tenantId userId purchaseId chargeId now =>
      apply rolledBack
      intro after ok
      rcases Outcome.map_eq_ok.mp ok with ⟨⟨mid, charged⟩, returned, rfl⟩
      exact purchaseTheme_grows returned
  | refundCharge id chargeId actorUserId note now =>
      apply rolledBack
      intro after ok
      rcases Outcome.map_eq_ok.mp ok with ⟨⟨mid, refunded⟩, returned, rfl⟩
      rcases refundCharge_ok returned with ⟨tx, -, shape | refund⟩
      · rw [shape]
        exact unchanged
      · exact Books.refundCharge_grows refund
  | setWallet tenantId wallet => exact unchanged

end BillingState

namespace PartnerState
variable {state after : PartnerState} {now : Time}

theorem addEntry_ok {key : String} {entry : PartnerLedgerEntry}
    (ok : state.addEntry key entry = .ok after) :
    state.ledger.get? key = none ∧ after.ledger = state.ledger.set key entry := by
  rw [addEntry] at ok
  split at ok
  · cases ok
  · rename_i absent
    cases ok
    exact ⟨Option.not_isSome_iff_eq_none.mp absent, rfl⟩

theorem addEntry_grows {key : String} {entry : PartnerLedgerEntry}
    (kind : entry.kind ≠ .referral) (other : ¬ IsReferralKey key)
    (ok : state.addEntry key entry = .ok after) : Grows state.ledger after.ledger := by
  rcases addEntry_ok ok with ⟨absent, shape⟩
  rw [shape]
  exact .set absent kind other

/-- A new referral entry that belongs to an invoice keeps the others paired. -/
theorem addEntry_paired (paired : Paired state.ledger) {key : String} {entry : PartnerLedgerEntry}
    (kind : entry.kind = .referral)
    (belongs : (∃ invoiceId, key = referralKey invoiceId ∧ 0 < entry.amountCents) ∨
      ∃ invoiceId credit, key = reversalKey invoiceId ∧
        state.ledger.get? (referralKey invoiceId) = some credit ∧ TakesBack entry credit)
    (ok : state.addEntry key entry = .ok after) : Paired after.ledger := by
  rcases addEntry_ok ok with ⟨absent, shape⟩
  have later : Later state.ledger after.ledger := by
    intro key' entry' present
    have apart : key' ≠ key := by
      rintro rfl
      rw [absent] at present
      cases present
    rw [shape, Table.get?_set, if_neg apart]
    exact present
  constructor
  · intro key' entry' present kind'
    rw [shape, Table.get?_set] at present
    split at present
    · rename_i same
      cases present
      rw [same]
      rcases belongs with credit | ⟨invoiceId, credit, named, credited, takes⟩
      · exact .inl credit
      · exact .inr ⟨invoiceId, credit, named, later _ _ credited, takes⟩
    · rcases paired.referrals key' entry' present kind' with credit |
        ⟨invoiceId, credit, named, credited, takes⟩
      · exact .inl credit
      · exact .inr ⟨invoiceId, credit, named, later _ _ credited, takes⟩
  · intro key' entry' present other
    rw [shape, Table.get?_set] at present
    split at present
    · cases present
      exact absurd kind other
    · exact paired.others key' entry' present other

theorem creditInvoice_paired (paired : Paired state.ledger)
    {accounts : UUID → Option ReferralTerms} {invoiceId : UUID} {invoice : BillingInvoice} :
    Paired (state.creditInvoice accounts invoiceId invoice now).ledger := by
  rw [creditInvoice]
  split
  · exact paired
  · apply Outcome.orKeep_keeps (P := fun after : PartnerState => Paired after.ledger) paired
    intro after ok
    rw [credit] at ok
    split at ok
    · cases ok
      exact paired
    dsimp only at ok
    split at ok
    · cases ok
      exact paired
    split at ok
    · cases ok
      exact paired
    split at ok
    · cases ok
      exact paired
    · rename_i positive
      exact addEntry_paired (by exact paired) rfl (.inl ⟨invoiceId, rfl, not_le.mp positive⟩) ok

theorem reverseInvoice_paired (paired : Paired state.ledger) {invoiceId actorUserId : UUID}
    {note : String} (ok : state.reverseInvoice invoiceId actorUserId note now = .ok after) :
    Paired after.ledger := by
  rw [reverseInvoice] at ok
  split at ok
  · cases ok
    exact paired
  rename_i credit credited
  split at ok
  · cases ok
    exact paired
  have kind : credit.kind = .referral := by
    by_contra other
    exact paired.others _ credit credited other ⟨invoiceId, .inl rfl⟩
  have positive : 0 < credit.amountCents := by
    rcases paired.referrals _ credit credited kind with ⟨-, -, positive⟩ | ⟨other, -, same, -⟩
    · exact positive
    · exact absurd same (referralKey_ne_reversalKey invoiceId other)
  have takes : TakesBack (reversal credit actorUserId note now) credit :=
    ⟨kind, positive, rfl, rfl⟩
  exact addEntry_paired paired rfl (.inr ⟨invoiceId, credit, rfl, credited, takes⟩) ok

theorem recordAdjustment_grows {partnerId actorUserId : UUID} {amountCents : Int}
    {reference note currency : String}
    (ok : state.recordAdjustment partnerId amountCents reference note actorUserId currency now =
      .ok after) : Grows state.ledger after.ledger := by
  rw [recordAdjustment] at ok
  split at ok
  · cases ok
  split at ok
  · cases ok
  · apply addEntry_grows _ (adjustmentKey_not_referral _ _) ok
    exact LedgerKind.noConfusion

theorem recordPayout_grows {partnerId actorUserId : UUID} {amountCents : Int}
    {reference currency : String} {note : Option String} {asOf : Time}
    (ok : state.recordPayout partnerId amountCents reference actorUserId note currency asOf now =
      .ok after) : Grows state.ledger after.ledger := by
  rw [recordPayout] at ok
  split at ok
  · cases ok
  split at ok
  · cases ok
  split at ok
  · cases ok
  · apply addEntry_grows _ (payoutKey_not_referral _ _) ok
    exact LedgerKind.noConfusion

theorem step_paired [UpperCase] (paired : Paired state.ledger) (label : PartnerLabel) :
    Paired (state.step label).ledger := by
  cases label with
  | billing label => exact paired.grows (BillingState.step_grows state.billing label)
  | attributeTenant partner tenantId userId =>
      simp only [step, attributeTenant]
      split
      · exact paired
      · split <;> exact paired
  | assign tenantId partnerId firstPaid =>
      simp only [step, assign]
      split <;> exact paired
  | creditInvoice accounts invoiceId invoice now => exact creditInvoice_paired paired
  | reverseInvoice invoiceId actorUserId note now =>
      apply Outcome.orKeep_keeps (P := fun after : PartnerState => Paired after.ledger) paired
      exact fun after ok => reverseInvoice_paired paired ok
  | recordAdjustment partnerId amountCents reference note actorUserId currency now =>
      apply Outcome.orKeep_keeps (P := fun after : PartnerState => Paired after.ledger) paired
      exact fun after ok => paired.grows (recordAdjustment_grows ok)
  | recordPayout partnerId amountCents reference actorUserId note currency asOf now =>
      apply Outcome.orKeep_keeps (P := fun after : PartnerState => Paired after.ledger) paired
      exact fun after ok => paired.grows (recordPayout_grows ok)

theorem paired_empty : Paired ({} : PartnerState).ledger :=
  ⟨fun _ _ present => (by cases present), fun _ _ present => (by cases present)⟩

/-- What may be paid out is at most the balance exactly if the late reversals are covered by what
the partner has earned within the hold, or nothing is left of his entries outside the hold. -/
theorem payable_bounded_iff [UpperCase] (labels : List PartnerLabel) (partnerId : UUID)
    (now : Time) :
    let ledger := (Run.run step {} labels).ledger
    (0 ≤ partnerPayable ledger partnerId now ∧
        partnerPayable ledger partnerId now ≤ max 0 (partnerBalance ledger partnerId)) ↔
      lateReversals ledger partnerId now ≤ heldEarnings ledger partnerId now ∨
        releasedCents ledger partnerId now ≤ 0 := by
  intro ledger
  have always := Run.always_of_invariant (I := fun state : PartnerState => Paired state.ledger)
    (fun _ label paired => step_paired paired label) paired_empty labels
  have paired : Paired ledger := always.last
  have held := paired.heldCents_eq partnerId now
  rw [releasedCents_eq, partnerPayable]
  omega

end PartnerState

/-- A partner's credit for the first plan invoice of a tenant, refunded on day 40. -/
def refundedInvoice : List PartnerLabel :=
  [.attributeTenant (some (7, 8)) 1 9,
    .creditInvoice (fun _ => some {}) 100 { tenantId := 1, amountCents := 10000, paidAt := some 0 } 0,
    .reverseInvoice 100 12 "refund" (40 * Calendar.dayLength)]

/-- On day 41 the balance is 0, and the 20 pounds of the credit may be paid out. -/
theorem refunded_invoice_is_payable :
    let _ := UpperCase.ascii
    let ledger := (Run.run PartnerState.step {} refundedInvoice).ledger
    ¬ partnerPayable ledger 7 (41 * Calendar.dayLength) ≤ max 0 (partnerBalance ledger 7) := by
  decide +kernel

end Numu.AppBilling
