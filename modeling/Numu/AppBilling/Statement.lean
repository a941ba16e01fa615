import Mathlib.Algebra.BigOperators.Group.List.Basic
import Numu.AppBilling.Payable
import Numu.Foundation.Calendar

/-! A partner's ledger month by month. -/

namespace Numu.AppBilling
open Numu.Orders (UUID Time)
open Numu.IntegerText (decimalValue)

/-- Why a statement of a month is refused; both are a `ValueError`. -/
inductive MonthError where
  /-- "month must be YYYY-MM". -/
  | malformed
  /-- A year that `datetime` does not have. -/
  | yearOutOfRange
  deriving DecidableEq, Repr

def yearDigits (text : List Char) : Option Nat :=
  text.foldlM (fun year c => (decimalValue c).map (10 * year + ·)) 0

/-- The year and the number of a month that `MONTH_RE` matches. Its `\d` is a digit of any script
and its `$` admits a line feed. -/
def readMonth (month : String) : Option (Nat × Nat) :=
  match month.toList with
  | a :: b :: c :: d :: '-' :: tens :: units :: rest =>
      if rest = [] ∨ rest = ['\n'] then
        (yearDigits [a, b, c, d]).bind fun year =>
          if tens = '0' ∧ '1' ≤ units ∧ units ≤ '9' then some (year, units.toNat - 48)
          else if tens = '1' ∧ '0' ≤ units ∧ units ≤ '2' then some (year, units.toNat - 38)
          else none
      else none
  | _ => none

/-- `datetime(year, month, 1, tzinfo=UTC)`. -/
def monthInstant (year month : Nat) : Except MonthError Int :=
  if 1 ≤ year ∧ year ≤ 9999 then .ok (Calendar.monthStart year month) else .error .yearOutOfRange

def monthBounds (month : String) : Except MonthError (Int × Int) :=
  match readMonth month with
  | none => .error .malformed
  | some (year, mon) => do
      let start ← monthInstant year mon
      let ending ← monthInstant (year + mon / 12) (mon % 12 + 1)
      return (start, ending)

/-- `is_refund`. -/
def PartnerLedgerEntry.isRefund (entry : PartnerLedgerEntry) : Bool :=
  entry.kind = .adjustment && "refund:".toList.isPrefixOf (entry.reference.getD "").toList

structure StatementEntry where
  kind : String
  amountCents : Int
  grossCents : Option Int
  platformFeeCents : Option Int
  shareBps : Option Int
  discountCents : Option Int
  vatCents : Option Int
  item : String
  appName : Option String
  appSlug : Option String
  reference : Option String
  createdAt : String
  deriving DecidableEq, Repr

structure Statement where
  month : String
  currency : String := "EGP"
  openingBalanceCents : Int
  grossSalesCents : Int
  platformFeesCents : Int
  netSalesCents : Int
  referralsCents : Int
  refundsCents : Int
  adjustmentsCents : Int
  payoutsCents : Int
  couponDiscountsCents : Int
  vatCollectedCents : Int
  closingBalanceCents : Int
  entries : List StatementEntry
  deriving DecidableEq, Repr

def LedgerKind.name : LedgerKind → String
  | .sale => "sale"
  | .referral => "referral"
  | .payout => "payout"
  | .adjustment => "adjustment"

/-- `labels` has the names and slugs of the apps and themes. -/
def PartnerLedgerEntry.view (labels : UUID → Option (String × String)) (entry : PartnerLedgerEntry) :
    StatementEntry :=
  let label := (entry.themeId.or entry.appId).bind labels
  { kind := if entry.isRefund then "refund" else entry.kind.name
    amountCents := entry.amountCents
    grossCents := entry.grossCents
    platformFeeCents := entry.platformFeeCents
    shareBps := entry.shareBps
    discountCents := entry.discountCents
    vatCents := entry.vatCents
    item := if entry.themeId.isSome then "theme" else "app"
    appName := label.map Prod.fst
    appSlug := label.map Prod.snd
    reference := entry.reference
    createdAt := Calendar.isoformat entry.createdAt }

def sumCents (entries : List PartnerLedgerEntry) : Int :=
  (entries.map PartnerLedgerEntry.amountCents).sum

/-- A column over some entries; an empty one counts as nothing. -/
def columnCents (column : PartnerLedgerEntry → Option Int) (entries : List PartnerLedgerEntry) : Int :=
  (entries.map fun entry => (column entry).getD 0).sum

section Statements
variable (ledger : Table String PartnerLedgerEntry) (partnerId : UUID)

/-- The partner's entries from one instant until another. -/
def entriesWithin (start ending : Int) : List PartnerLedgerEntry :=
  (ledger.rows.map Prod.snd).filter fun entry =>
    entry.partnerId = partnerId && decide (start ≤ entry.createdAt) && decide (entry.createdAt < ending)

def openingBalance (start : Int) : Int :=
  sumCents ((ledger.rows.map Prod.snd).filter fun entry =>
    entry.partnerId = partnerId && decide (entry.createdAt < start))

def partnerStatement (labels : UUID → Option (String × String)) (month : String) :
    Except MonthError Statement := do
  let (start, ending) ← monthBounds month
  let opening := openingBalance ledger partnerId start
  let entries := (entriesWithin ledger partnerId start ending).mergeSort fun first second =>
    first.createdAt ≤ second.createdAt
  let sales := entries.filter fun entry => entry.kind = .sale
  let refunds := entries.filter PartnerLedgerEntry.isRefund
  let others := entries.filter fun entry => entry.kind = .adjustment && !entry.isRefund
  let payouts := entries.filter fun entry => entry.kind = .payout
  let referrals := entries.filter fun entry => entry.kind = .referral
  return {
    month := month
    openingBalanceCents := opening
    grossSalesCents := columnCents PartnerLedgerEntry.grossCents sales
    platformFeesCents := columnCents PartnerLedgerEntry.platformFeeCents sales
    netSalesCents := sumCents sales
    referralsCents := sumCents referrals
    refundsCents := sumCents refunds
    adjustmentsCents := sumCents others
    payoutsCents := sumCents payouts
    couponDiscountsCents := columnCents PartnerLedgerEntry.discountCents (sales ++ refunds)
    vatCollectedCents := columnCents PartnerLedgerEntry.vatCents (sales ++ refunds)
    closingBalanceCents := opening + sumCents entries
    entries := entries.map (PartnerLedgerEntry.view labels) }

end Statements

/-- The sums that a statement divides the month's entries into. -/
inductive Bucket where
  | netSales
  | referrals
  | refunds
  | adjustments
  | payouts
  deriving DecidableEq, Repr

def Bucket.holds (bucket : Bucket) (entry : PartnerLedgerEntry) : Bool :=
  match bucket with
  | .netSales => entry.kind = .sale
  | .referrals => entry.kind = .referral
  | .refunds => entry.isRefund
  | .adjustments => entry.kind = .adjustment && !entry.isRefund
  | .payouts => entry.kind = .payout

def Statement.figure (statement : Statement) : Bucket → Int
  | .netSales => statement.netSalesCents
  | .referrals => statement.referralsCents
  | .refunds => statement.refundsCents
  | .adjustments => statement.adjustmentsCents
  | .payouts => statement.payoutsCents

/-- The bucket of an entry. -/
def PartnerLedgerEntry.bucket (entry : PartnerLedgerEntry) : Bucket :=
  match entry.kind with
  | .sale => .netSales
  | .referral => .referrals
  | .payout => .payouts
  | .adjustment => if entry.isRefund then .refunds else .adjustments

theorem holds_iff (bucket : Bucket) (entry : PartnerLedgerEntry) :
    bucket.holds entry = true ↔ entry.bucket = bucket := by
  rw [PartnerLedgerEntry.bucket]
  cases kind : entry.kind with
  | sale => cases bucket <;> simp [Bucket.holds, PartnerLedgerEntry.isRefund, kind]
  | referral => cases bucket <;> simp [Bucket.holds, PartnerLedgerEntry.isRefund, kind]
  | payout => cases bucket <;> simp [Bucket.holds, PartnerLedgerEntry.isRefund, kind]
  | adjustment =>
      cases refund : entry.isRefund with
      | true => cases bucket <;> simp [Bucket.holds, kind, refund]
      | false => cases bucket <;> simp [Bucket.holds, kind, refund]

/-- An entry is in one bucket and in no other. -/
theorem existsUnique_bucket (entry : PartnerLedgerEntry) :
    ∃! bucket : Bucket, bucket.holds entry = true :=
  ⟨entry.bucket, (holds_iff _ _).mpr rfl, fun _ held => ((holds_iff _ _).mp held).symm⟩

theorem sumCents_cons (entry : PartnerLedgerEntry) (entries : List PartnerLedgerEntry) :
    sumCents (entry :: entries) = entry.amountCents + sumCents entries := by
  rw [sumCents, List.map_cons, List.sum_cons]
  rfl

theorem sumCents_perm {entries entries' : List PartnerLedgerEntry} (perm : entries.Perm entries') :
    sumCents entries = sumCents entries' :=
  (perm.map _).sum_eq

theorem sumCents_filter_cons (selects : PartnerLedgerEntry → Bool) (entry : PartnerLedgerEntry)
    (entries : List PartnerLedgerEntry) : sumCents ((entry :: entries).filter selects) =
      (if selects entry then entry.amountCents else 0) + sumCents (entries.filter selects) := by
  rw [List.filter_cons]
  split
  · exact sumCents_cons _ _
  · exact (Int.zero_add _).symm

/-- The buckets together hold every entry once. -/
theorem sumCents_buckets (entries : List PartnerLedgerEntry) :
    sumCents entries = sumCents (entries.filter (Bucket.holds .netSales)) +
      sumCents (entries.filter (Bucket.holds .referrals)) +
      sumCents (entries.filter (Bucket.holds .refunds)) +
      sumCents (entries.filter (Bucket.holds .adjustments)) +
      sumCents (entries.filter (Bucket.holds .payouts)) := by
  induction entries with
  | nil => rfl
  | cons entry entries ih =>
      rw [sumCents_cons, ih]
      simp only [sumCents_filter_cons, holds_iff]
      cases entry.bucket <;> simp <;> omega

section Months
variable {ledger : Table String PartnerLedgerEntry} {partnerId : UUID}

/-- What the balance was at one instant and what moved it until another make the balance there. -/
theorem openingBalance_later {start ending : Int} (le : start ≤ ending) :
    openingBalance ledger partnerId ending =
      openingBalance ledger partnerId start + sumCents (entriesWithin ledger partnerId start ending) := by
  rw [openingBalance, openingBalance, entriesWithin]
  induction ledger.rows.map Prod.snd with
  | nil => rfl
  | cons entry entries ih =>
      rw [sumCents_filter_cons, sumCents_filter_cons, sumCents_filter_cons, ih]
      by_cases own : entry.partnerId = partnerId
      · by_cases before : (entry.createdAt : Int) < start
        · have until_ : (entry.createdAt : Int) < ending := by omega
          simp [own, before, until_, not_le.mpr before]
          omega
        · by_cases until_ : (entry.createdAt : Int) < ending
          · simp [own, before, until_, not_lt.mp before]
            omega
          · simp [own, before, until_]
      · simp [own]

theorem toNat_le_of_le {c d : Char} (le : c ≤ d) : c.toNat ≤ d.toNat :=
  UInt32.le_iff_toNat_le.mp (Char.le_def.mp le)

theorem month_of_read {month : String} {year mon : Nat} (read : readMonth month = some (year, mon)) :
    1 ≤ mon ∧ mon ≤ 12 := by
  rw [readMonth] at read
  split at read
  · split at read
    · obtain ⟨found, _, read⟩ := Option.bind_eq_some_iff.mp read
      split at read
      · rename_i named
        have low : 49 ≤ _ := toNat_le_of_le named.2.1
        have high : _ ≤ 57 := toNat_le_of_le named.2.2
        cases read
        omega
      · split at read
        · rename_i named
          have low : 48 ≤ _ := toNat_le_of_le named.2.1
          have high : _ ≤ 50 := toNat_le_of_le named.2.2
          cases read
          omega
        · cases read
    · cases read
  · cases read

variable {labels : UUID → Option (String × String)}

theorem monthInstant_ok {year mon : Nat} (early : 1 ≤ year) (late : year ≤ 9999) :
    monthInstant year mon = .ok (Calendar.monthStart year mon) :=
  if_pos ⟨early, late⟩

theorem monthInstant_error {year mon : Nat} (outside : ¬(1 ≤ year ∧ year ≤ 9999)) :
    monthInstant year mon = .error .yearOutOfRange :=
  if_neg outside

/-- The bounds of a month in the years that `datetime` has. -/
theorem monthBounds_eq {month : String} {year mon : Nat} (read : readMonth month = some (year, mon)) :
    monthBounds month =
      if 1 ≤ year ∧ year + mon / 12 ≤ 9999 then
        .ok (Calendar.monthStart year mon, Calendar.monthStart (year + mon / 12) (mon % 12 + 1))
      else .error .yearOutOfRange := by
  rw [monthBounds, read]
  by_cases early : 1 ≤ year
  · by_cases late : year + mon / 12 ≤ 9999
    · rw [if_pos ⟨early, late⟩]
      dsimp only
      rw [monthInstant_ok early (by omega), monthInstant_ok (by omega) late]
      rfl
    · rw [if_neg fun both => late both.2]
      dsimp only
      rw [@monthInstant_error (year + mon / 12) _ fun both => late both.2, monthInstant]
      split <;> rfl
  · rw [if_neg fun both => early both.1]
    dsimp only
    rw [@monthInstant_error year _ fun both => early both.1]
    rfl

/-- What a statement that is given says of its month. -/
theorem partnerStatement_spec {month : String} {year mon : Nat} {statement : Statement}
    (read : readMonth month = some (year, mon))
    (given : partnerStatement ledger partnerId labels month = .ok statement) :
    let start := Calendar.monthStart year mon
    let entries := entriesWithin ledger partnerId start
      (Calendar.monthStart (year + mon / 12) (mon % 12 + 1))
    statement.openingBalanceCents = openingBalance ledger partnerId start ∧
      statement.closingBalanceCents = statement.openingBalanceCents + sumCents entries ∧
      ∀ bucket, statement.figure bucket = sumCents (entries.filter (Bucket.holds bucket)) := by
  intro start entries
  rw [partnerStatement, monthBounds_eq read] at given
  split at given
  · cases given
    have sorted : (entries.mergeSort fun first second => first.createdAt ≤ second.createdAt).Perm
        entries := List.mergeSort_perm _ _
    refine ⟨rfl, ?_, fun bucket => ?_⟩
    · exact congrArg (openingBalance ledger partnerId start + ·) (sumCents_perm sorted)
    · cases bucket <;> exact sumCents_perm (sorted.filter _)
  · cases given

/-- A month is refused if it is malformed or if it does not both begin and end within the years of
the calendar. Otherwise its statement opens with what the ledger held before it, each of its five
figures is what the month's entries of one bucket come to, every entry is in one bucket, the closing
balance is the opening one with the five figures, and whatever text names the following month gets a
statement that opens with it. -/
theorem statements_chain (ledger : Table String PartnerLedgerEntry) (partnerId : UUID)
    (labels : UUID → Option (String × String)) (month : String) :
    match readMonth month with
    | none => partnerStatement ledger partnerId labels month = .error .malformed
    | some (year, mon) =>
        let entries := entriesWithin ledger partnerId (Calendar.monthStart year mon)
          (Calendar.monthStart (year + mon / 12) (mon % 12 + 1))
        if 1 ≤ year ∧ year + mon / 12 ≤ 9999 then
          ∃ statement, partnerStatement ledger partnerId labels month = .ok statement ∧
            statement.closingBalanceCents = statement.openingBalanceCents + statement.netSalesCents +
              statement.referralsCents + statement.refundsCents + statement.adjustmentsCents +
              statement.payoutsCents ∧
            (∀ bucket, statement.figure bucket = sumCents (entries.filter (Bucket.holds bucket))) ∧
            (∀ entry ∈ entries, ∃! bucket : Bucket, bucket.holds entry = true) ∧
            statement.openingBalanceCents =
              openingBalance ledger partnerId (Calendar.monthStart year mon) ∧
            ∀ next nextStatement, readMonth next = some (year + mon / 12, mon % 12 + 1) →
              partnerStatement ledger partnerId labels next = .ok nextStatement →
                nextStatement.openingBalanceCents = statement.closingBalanceCents
        else partnerStatement ledger partnerId labels month = .error .yearOutOfRange := by
  cases read : readMonth month with
  | none =>
      dsimp only
      rw [partnerStatement, monthBounds, read]
      rfl
  | some parts =>
      obtain ⟨year, mon⟩ := parts
      dsimp only
      split
      · rename_i within
        have given : ∃ statement, partnerStatement ledger partnerId labels month = .ok statement := by
          rw [partnerStatement, monthBounds_eq read, if_pos within]
          exact ⟨_, rfl⟩
        obtain ⟨statement, given⟩ := given
        obtain ⟨opening, closing, figures⟩ := partnerStatement_spec read given
        refine ⟨statement, given, ?_, figures, fun entry _ => existsUnique_bucket entry, opening, ?_⟩
        · have net := figures .netSales
          have referrals := figures .referrals
          have refunds := figures .refunds
          have adjustments := figures .adjustments
          have payouts := figures .payouts
          simp only [Statement.figure] at net referrals refunds adjustments payouts
          rw [closing, sumCents_buckets, ← net, ← referrals, ← refunds, ← adjustments, ← payouts]
          omega
        · intro next nextStatement read' given'
          obtain ⟨named, most⟩ := month_of_read read
          have opening' := (partnerStatement_spec read' given').1
          rw [opening', closing, opening]
          exact openingBalance_later (Calendar.monthStart_lt_next within.1 named most).le
      · rename_i outside
        rw [partnerStatement, monthBounds_eq read, if_neg outside]
        rfl

example : readMonth "2025-12" = some (2025, 12) := by decide

end Months

end Numu.AppBilling
