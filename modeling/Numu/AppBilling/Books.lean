import Mathlib.Algebra.Order.Ring.Int
import Numu.Foundation.Calendar
import Numu.Foundation.Outcome
import Numu.Foundation.Table
import Numu.Foundation.UuidText
import Numu.Orders.Order
import Numu.Wallet.WalletService

/-! What one charge for an app or a theme is made of, in piasters. -/

namespace Numu.AppBilling
open Numu.Orders (UUID Time)

/-- `PARTNER_SHARE_BPS`: the partner keeps 80% unless his account says otherwise. -/
def partnerShareBps : Nat := 8000

/-- `VAT_BPS`. -/
def standardVatBps : Nat := 1400

/-- `bps_of`: basis points of an amount, rounded half up. -/
def bpsOf (amountCents bps : Int) : Int :=
  (amountCents * bps + 5000) / 10000

/-- `split`: the partner's share and the platform's fee. -/
def split (grossCents shareBps : Int) : Int × Int :=
  let fee := bpsOf grossCents (10000 - shareBps)
  (grossCents - fee, fee)

structure Quote where
  listCents : Int
  shareBps : Int
  feeCents : Int
  vatCents : Int
  discountCents : Int
  capped : Bool := false
  partnerId : Option UUID := none
  vatBps : Int := standardVatBps
  deriving DecidableEq

namespace Quote

def partnerCents (q : Quote) : Int := q.listCents - q.feeCents - q.discountCents

def totalCents (q : Quote) : Int := q.listCents - q.discountCents + q.vatCents

end Quote

def quote (listCents shareBps discountCents : Int) (partnerId : Option UUID) (vatBps : Int) :
    Quote :=
  let (share, fee) := split listCents shareBps
  { listCents := listCents
    shareBps := shareBps
    feeCents := fee
    vatCents := bpsOf fee vatBps
    discountCents := min discountCents share
    capped := share < discountCents
    partnerId := partnerId
    vatBps := vatBps }

structure AppCoupon where
  appId : UUID
  code : String
  percentOff : Option Nat := none
  amountOffCents : Option Nat := none
  durationCycles : Option Nat := none
  maxRedemptions : Option Nat := none
  expiresAt : Option Time := none
  storeId : Option UUID := none
  active : Bool := true
  deriving DecidableEq

def couponDiscount (coupon : AppCoupon) (listCents : Int) : Int :=
  let percentOff : Int := coupon.percentOff.getD 0
  if percentOff ≠ 0 then bpsOf listCents (percentOff * 100)
  else min (coupon.amountOffCents.getD 0 : Nat) listCents

/-- The API takes a share of 0 to 10000 basis points. -/
structure PartnerAccount where
  id : UUID
  shareBps : Option (Fin 10001) := none
  deriving DecidableEq

def effectiveShareBps : Option PartnerAccount → Nat
  | none => partnerShareBps
  | some account => (account.shareBps.map Fin.val).getD partnerShareBps

theorem effectiveShareBps_le (account : Option PartnerAccount) :
    effectiveShareBps account ≤ 10000 := by
  cases account with
  | none => decide
  | some account =>
      simp only [effectiveShareBps]
      cases account.shareBps with
      | none => exact (by decide : partnerShareBps ≤ 10000)
      | some share => exact Nat.le_of_lt_succ share.isLt

theorem bpsOf_nonneg {amount bps : Int} (amount_nonneg : 0 ≤ amount) (bps_nonneg : 0 ≤ bps) :
    0 ≤ bpsOf amount bps := by
  have product := Int.mul_nonneg amount_nonneg bps_nonneg
  unfold bpsOf
  omega

theorem couponDiscount_nonneg (coupon : AppCoupon) {list : Int} (list_nonneg : 0 ≤ list) :
    0 ≤ couponDiscount coupon list := by
  simp only [couponDiscount]
  split
  · exact bpsOf_nonneg list_nonneg (by omega)
  · exact le_min (by omega) list_nonneg

/-- A quote that gives away neither more nor less than the merchant pays. -/
structure Quote.Conserves (q : Quote) : Prop where
  total : q.totalCents = q.partnerCents + q.feeCents + q.vatCents
  partner : 0 ≤ q.partnerCents
  fee : 0 ≤ q.feeCents
  vat : 0 ≤ q.vatCents
  discount : q.discountCents ≤ q.listCents - q.feeCents

/-- Up to 10000 basis points are at most the whole amount. -/
theorem bpsOf_le {amount bps : Int} (amount_nonneg : 0 ≤ amount) (bps_le : bps ≤ 10000) :
    bpsOf amount bps ≤ amount := by
  have product : amount * bps ≤ amount * 10000 := Int.mul_le_mul_of_nonneg_left bps_le amount_nonneg
  unfold bpsOf
  omega

theorem quote_conserves {list share vat : Int} (list_nonneg : 0 ≤ list) (share_nonneg : 0 ≤ share)
    (share_le : share ≤ 10000) (vat_nonneg : 0 ≤ vat) (discount : Int)
    (partnerId : Option UUID) : (quote list share discount partnerId vat).Conserves := by
  have fee_nonneg : 0 ≤ bpsOf list (10000 - share) := bpsOf_nonneg list_nonneg (by omega)
  have fee_le : bpsOf list (10000 - share) ≤ list := bpsOf_le list_nonneg (by omega)
  have kept : min discount (list - bpsOf list (10000 - share)) ≤
      list - bpsOf list (10000 - share) := min_le_right _ _
  constructor
  · simp only [quote, split, Quote.totalCents, Quote.partnerCents]
    omega
  · simp only [quote, split, Quote.partnerCents]
    omega
  · exact fee_nonneg
  · exact bpsOf_nonneg fee_nonneg vat_nonneg
  · exact kept

end Numu.AppBilling

/-! The three books of app billing: the wallet rows, the partner ledger and the fee invoices. -/

namespace Numu.AppBilling
open Numu.Orders (UUID Time)
open Numu.Wallet (Entry MerchantWallet WalletTransaction WalletService.applyEntry violates sameKey
  sameValue)

/-- What the billing functions raise. -/
inductive BillingError where
  | insufficientFunds (neededCents balanceCents : Int)
  | walletSuspended
  | notPaid (slug : String)
  | coupon (code : String)
  | usage (code message : String)
  | lookup (text : String)
  | runtime (text : String)
  | value (text : String)
  /-- An `IntegrityError` that nothing catches. -/
  | integrity
  deriving DecidableEq

structure WalletRow extends WalletTransaction where
  tenantId : UUID
  deriving DecidableEq

inductive FeeInvoiceKind where
  | invoice
  | creditNote
  deriving DecidableEq, Repr

/-- A credit note carries negative amounts. -/
def FeeInvoiceKind.sign : FeeInvoiceKind → Int
  | .invoice => 1
  | .creditNote => -1

inductive LedgerKind where
  | sale
  | referral
  | payout
  | adjustment
  deriving DecidableEq, Repr

structure PartnerLedgerEntry where
  partnerId : UUID
  kind : LedgerKind
  amountCents : Int
  grossCents : Option Int := none
  platformFeeCents : Option Int := none
  shareBps : Option Int := none
  discountCents : Option Int := none
  vatCents : Option Int := none
  currency : String := "EGP"
  appId : Option UUID := none
  themeId : Option UUID := none
  subscriptionId : Option UUID := none
  reference : Option String := none
  actorUserId : Option UUID := none
  note : Option String := none
  createdAt : Time
  deriving DecidableEq

structure AppFeeInvoice where
  number : String
  tenantId : UUID
  storeId : Option UUID
  appId : Option UUID
  themeId : Option UUID := none
  /-- The wallet row of the invoice that a credit note reverses. -/
  original : Option UUID := none
  listPriceCents : Int
  discountCents : Int
  feeCents : Int
  vatCents : Int
  vatBps : Int
  shareBps : Int
  totalCents : Int
  currency : String
  description : String
  createdAt : Time
  deriving DecidableEq

/-- The quote that an invoice was issued for. -/
def AppFeeInvoice.quote (invoice : AppFeeInvoice) : Quote where
  listCents := invoice.listPriceCents
  shareBps := invoice.shareBps
  feeCents := invoice.feeCents
  vatCents := invoice.vatCents
  discountCents := invoice.discountCents
  vatBps := invoice.vatBps

/-- Wallets are kept by tenant, ledger entries by their idempotency key and invoices by wallet
row and kind, as their unique constraints have it. -/
structure Books where
  wallets : Table UUID MerchantWallet := .empty
  transactions : Table UUID WalletRow := .empty
  ledger : Table String PartnerLedgerEntry := .empty
  invoices : Table (UUID × FeeInvoiceKind) AppFeeInvoice := .empty

/-- What an invoice is about. -/
structure Subject where
  storeId : Option UUID
  appId : Option UUID
  themeId : Option UUID
  description : String
  original : Option UUID := none

/-- A stored wallet row. -/
structure Charged where
  id : UUID
  row : WalletRow

namespace Books

def wallet (books : Books) (tenantId : UUID) : MerchantWallet :=
  (books.wallets.get? tenantId).getD {}

/-- `WalletService.apply_entry`, whose row gets the given id; an id that a row has is not the
`uuid4` of a new one. -/
def applyEntry (books : Books) (id tenantId : UUID) (entry : Entry) :
    Except BillingError (Books × Option Charged) :=
  let wallet := books.wallet tenantId
  let rows := books.transactions.rows.map fun row => row.2.toWalletTransaction
  match WalletService.applyEntry rows wallet entry with
  | .suspended => .error .walletSuspended
  | .alreadyApplied => .ok (books, none)
  | .applied tx =>
      if (books.transactions.get? id).isSome then .error .integrity
      else
        let row : WalletRow := { tx with tenantId := tenantId }
        .ok ({ books with
          wallets := books.wallets.set tenantId { wallet with balanceCents := tx.balanceAfterCents }
          transactions := books.transactions.set id row }, some ⟨id, row⟩)

/-- `WalletChargeSource.charge`. -/
def charge (books : Books) (id tenantId : UUID) (amountCents : Int) (currency key note : String) :
    Except BillingError (Books × Option Charged) :=
  let wallet := books.wallet tenantId
  if wallet.balanceCents < amountCents then
    .error (.insufficientFunds amountCents wallet.balanceCents)
  else
    books.applyEntry id tenantId
      { kind := .appCharge
        amountCents := -amountCents
        currency := currency
        idempotencyKey := some key
        note := some note }

/-- The partner's credit for one charge. -/
def saleEntry (partnerId : UUID) (q : Quote) (currency : String) (collectedAt : Time)
    (appId subscriptionId themeId : Option UUID) : PartnerLedgerEntry where
  partnerId := partnerId
  kind := .sale
  amountCents := q.partnerCents
  grossCents := some (q.listCents - q.discountCents)
  platformFeeCents := some q.feeCents
  shareBps := some q.shareBps
  discountCents := some q.discountCents
  vatCents := some q.vatCents
  currency := currency
  appId := appId
  themeId := themeId
  subscriptionId := subscriptionId
  createdAt := collectedAt

/-- `_ledger_sale`: an entry whose key is taken is left out. -/
def ledgerSale (books : Books) (key : String) (entry : PartnerLedgerEntry) : Books :=
  if (books.ledger.get? key).isSome then books
  else { books with ledger := books.ledger.set key entry }

/-- Python's `max` of the numbers of one series. -/
def lastNumber (books : Books) (series : String) : Option String :=
  (books.invoices.rows.map fun row => row.2.number).foldl
    (fun best number =>
      if series.isPrefixOf number && best.all (· < number) then some number else best)
    none

/-- `_next_invoice_number`. -/
def nextInvoiceNumber (books : Books) (series : String) : Except BillingError String :=
  let last := match books.lastNumber series with
    | none => some 0
    | some number => IntegerText.readInt (number.drop series.length).toString
  match last with
  | none => .error (.value "invalid literal for int() with base 10")
  | some last => .ok (series ++ String.ofList (Calendar.padded 6 (last + 1).toNat))

def invoiceSeries (kind : FeeInvoiceKind) (now : Time) : String :=
  let year := Calendar.yearOf (Calendar.month now)
  match kind with
  | .invoice => s!"NUMU-{year}-"
  | .creditNote => s!"NUMU-CN-{year}-"

/-- The invoice for one wallet row, or the credit note that reverses it. -/
def feeInvoice (number : String) (tx : Charged) (kind : FeeInvoiceKind) (q : Quote)
    (subject : Subject) (now : Time) : AppFeeInvoice where
  number := number
  tenantId := tx.row.tenantId
  storeId := subject.storeId
  appId := subject.appId
  themeId := subject.themeId
  original := subject.original
  listPriceCents := kind.sign * q.listCents
  discountCents := kind.sign * q.discountCents
  feeCents := kind.sign * q.feeCents
  vatCents := kind.sign * q.vatCents
  vatBps := q.vatBps
  shareBps := q.shareBps
  totalCents := kind.sign * q.totalCents
  currency := tx.row.currency
  description := String.ofList (subject.description.toList.take 255)
  createdAt := now

/-- `issue_fee_invoice`. -/
def issueFeeInvoice (books : Books) (tx : Charged) (kind : FeeInvoiceKind) (q : Quote)
    (subject : Subject) (now : Time) : Except BillingError Books :=
  if (books.invoices.get? (tx.id, kind)).isSome then .ok books
  else do
    let number ← books.nextInvoiceNumber (invoiceSeries kind now)
    if books.invoices.rows.any fun row => row.2.number = number then .error .integrity
    else
      .ok { books with
        invoices := books.invoices.set (tx.id, kind) (feeInvoice number tx kind q subject now) }

/-- The partner's credit, where there is a partner account, and the fee invoice. -/
def book (books : Books) (q : Quote) (tx : Charged) (key : String) (subscriptionId : Option UUID)
    (subject : Subject) (now : Time) : Except BillingError Books :=
  let credited := match q.partnerId with
    | none => books
    | some partnerId => books.ledgerSale key
        (saleEntry partnerId q tx.row.currency now subject.appId subscriptionId subject.themeId)
  credited.issueFeeInvoice tx .invoice q subject now

def refundKey (chargeId : UUID) : String := s!"app-refund:{UuidText.writeUuid chargeId}"

def refundReference (chargeId : UUID) : String := s!"refund:{UuidText.writeUuid chargeId}"

/-- The partner's sale of a charge, under the same key. -/
def saleOf (books : Books) (charge : WalletRow) : Option PartnerLedgerEntry :=
  (charge.idempotencyKey.bind books.ledger.get?).filter fun entry => entry.kind = .sale

/-- The entry that takes a sale back. -/
def takeBack (sale : PartnerLedgerEntry) (reference : String) (actorUserId : UUID) (note : String)
    (now : Time) : PartnerLedgerEntry where
  partnerId := sale.partnerId
  kind := .adjustment
  amountCents := -sale.amountCents
  grossCents := some (-(sale.grossCents.getD 0))
  platformFeeCents := some (-(sale.platformFeeCents.getD 0))
  shareBps := sale.shareBps
  discountCents := some (-(sale.discountCents.getD 0))
  vatCents := some (-(sale.vatCents.getD 0))
  currency := sale.currency
  appId := sale.appId
  themeId := sale.themeId
  subscriptionId := sale.subscriptionId
  reference := some reference
  actorUserId := some actorUserId
  note := some note
  createdAt := now

/-- The credit note of `refund_charge`, against the charge's invoice if it has one. -/
def creditInvoice (books : Books) (chargeId : UUID) (reversal : Charged) (now : Time) :
    Except BillingError Books :=
  match books.invoices.get? (chargeId, .invoice) with
  | none => .ok books
  | some invoice =>
      books.issueFeeInvoice reversal .creditNote invoice.quote
        { storeId := invoice.storeId
          appId := invoice.appId
          themeId := invoice.themeId
          description := invoice.description
          original := some chargeId } now

/-- The entry of `refund_charge` that takes the partner's share back, if he was credited. -/
def debitPartner (books : Books) (chargeId : UUID) (charge : WalletRow) (actorUserId : UUID)
    (note : String) (now : Time) : Except BillingError Books :=
  match books.saleOf charge with
  | none => .ok books
  | some sale =>
      let reference := refundReference chargeId
      if (books.ledger.get? reference).isSome then .error .integrity
      else
        .ok { books with
          ledger := books.ledger.set reference (takeBack sale reference actorUserId note now) }

/-- `refund_charge`; no row when the charge is refunded already. -/
def refundCharge (books : Books) (id chargeId actorUserId : UUID) (note : String) (now : Time) :
    Except BillingError (Books × Option Charged) :=
  match books.transactions.get? chargeId with
  | none => .error (.lookup "App charge not found")
  | some charge =>
      if charge.kind ≠ .appCharge then .error (.lookup "App charge not found")
      else do
        let (reversed, reversal) ← books.applyEntry id charge.tenantId
          { kind := .appChargeReversal
            amountCents := -charge.amountCents
            currency := charge.currency
            idempotencyKey := some (refundKey chargeId)
            actorUserId := some actorUserId
            note := some note }
        match reversal with
        | none => .ok (reversed, none)
        | some reversal => do
            let credited ← reversed.creditInvoice chargeId reversal now
            let debited ← credited.debitPartner chargeId charge actorUserId note now
            .ok (debited, some reversal)

section Specs
variable {books after : Books} {id tenantId : UUID} {entry : Entry} {tx : Option Charged}

/-- An entry that goes through appends one row, whose key no row has. -/
theorem applyEntry_ok (ok : books.applyEntry id tenantId entry = .ok (after, tx)) :
    tx = none ∧ after = books ∨
      ∃ wallets row, tx = some ⟨id, row⟩ ∧ books.transactions.get? id = none ∧
        after = { books with
          wallets := wallets, transactions := books.transactions.set id row } ∧
        (row.kind = entry.kind ∧ row.amountCents = entry.amountCents ∧
          row.idempotencyKey = entry.idempotencyKey) ∧
        ∀ other ∈ books.transactions.rows, ∀ key, entry.idempotencyKey = some key →
          other.2.idempotencyKey ≠ some key := by
  simp only [applyEntry] at ok
  split at ok
  · cases ok
  · cases ok
    exact .inl ⟨rfl, rfl⟩
  · rename_i made applied
    split at ok
    · cases ok
    · rename_i absent
      cases ok
      obtain ⟨shape, free⟩ := Wallet.WalletService.applyEntry_applied applied
      have absent : books.transactions.get? id = none := by simpa using absent
      refine .inr ⟨_, _, rfl, absent, rfl, ?_, ?_⟩
      · rw [shape]
        exact ⟨rfl, rfl, rfl⟩
      · intro other member key keyed same
        have clear := free _ (List.mem_map_of_mem member)
        rw [shape] at clear
        simp [violates, sameKey, sameValue, Entry.transaction, keyed, same] at clear

/-- A charge that goes through, or whose key is taken. -/
theorem charge_ok {amountCents : Int} {currency key note : String}
    (ok : books.charge id tenantId amountCents currency key note = .ok (after, tx)) :
    books.applyEntry id tenantId
      { kind := .appCharge
        amountCents := -amountCents
        currency := currency
        idempotencyKey := some key
        note := some note } = .ok (after, tx) := by
  simp only [charge] at ok
  split at ok
  · cases ok
  · exact ok

theorem issueFeeInvoice_ok {tx : Charged} {kind : FeeInvoiceKind} {q : Quote} {subject : Subject}
    {now : Time} (absent : books.invoices.get? (tx.id, kind) = none)
    (ok : books.issueFeeInvoice tx kind q subject now = .ok after) :
    ∃ number, after = { books with
      invoices := books.invoices.set (tx.id, kind) (feeInvoice number tx kind q subject now) } := by
  simp only [issueFeeInvoice, absent, Option.isSome_none, Bool.false_eq_true, if_false] at ok
  obtain ⟨number, -, ok⟩ := Outcome.bind_eq_ok.mp ok
  split at ok
  · cases ok
  · cases ok
    exact ⟨number, rfl⟩

/-- An invoice leaves the wallet rows and the ledger alone. -/
theorem issueFeeInvoice_keeps {tx : Charged} {kind : FeeInvoiceKind} {q : Quote}
    {subject : Subject} {now : Time} (ok : books.issueFeeInvoice tx kind q subject now = .ok after) :
    after.transactions = books.transactions ∧ after.ledger = books.ledger := by
  cases present : books.invoices.get? (tx.id, kind) with
  | none =>
      obtain ⟨number, rfl⟩ := issueFeeInvoice_ok present ok
      exact ⟨rfl, rfl⟩
  | some invoice =>
      simp only [issueFeeInvoice, present, Option.isSome_some, if_true] at ok
      cases ok
      exact ⟨rfl, rfl⟩

theorem creditInvoice_keeps {chargeId : UUID} {reversal : Charged} {now : Time}
    (ok : books.creditInvoice chargeId reversal now = .ok after) :
    after.transactions = books.transactions ∧ after.ledger = books.ledger := by
  simp only [creditInvoice] at ok
  split at ok
  · cases ok
    exact ⟨rfl, rfl⟩
  · exact issueFeeInvoice_keeps ok

theorem debitPartner_transactions {chargeId actorUserId : UUID} {charge : WalletRow}
    {note : String} {now : Time}
    (ok : books.debitPartner chargeId charge actorUserId note now = .ok after) :
    after.transactions = books.transactions := by
  simp only [debitPartner] at ok
  split at ok
  · cases ok
    rfl
  · split at ok
    · cases ok
    · cases ok
      rfl

/-- Booking a charge writes the sale under the charge's key and one invoice. -/
theorem book_ok {q : Quote} {tx : Charged} {key : String} {subscriptionId : Option UUID}
    {subject : Subject} {now : Time} (unbilled : books.invoices.get? (tx.id, .invoice) = none)
    (unsold : books.ledger.get? key = none)
    (ok : books.book q tx key subscriptionId subject now = .ok after) :
    ∃ number ledger,
      after = { books with
        ledger := ledger
        invoices := books.invoices.set (tx.id, .invoice)
          (feeInvoice number tx .invoice q subject now) } ∧
      ledger.get? key = q.partnerId.map (fun partnerId => saleEntry partnerId q tx.row.currency
        now subject.appId subscriptionId subject.themeId) ∧
      ∀ other ≠ key, ledger.get? other = books.ledger.get? other := by
  simp only [book] at ok
  cases partner : q.partnerId with
  | none =>
      simp only [partner] at ok
      obtain ⟨number, rfl⟩ := issueFeeInvoice_ok unbilled ok
      exact ⟨number, books.ledger, rfl, unsold, fun _ _ => rfl⟩
  | some partnerId =>
      simp only [partner, ledgerSale, unsold, Option.isSome_none, Bool.false_eq_true,
        if_false] at ok
      obtain ⟨number, rfl⟩ := issueFeeInvoice_ok (by exact unbilled) ok
      refine ⟨number, _, rfl, ?_, fun other different => ?_⟩
      · rw [Table.get?_set, if_pos rfl]
        rfl
      · rw [Table.get?_set, if_neg different]

end Specs

end Books
end Numu.AppBilling
