import Mathlib.Data.List.Induction
import Numu.AppBilling.Books
import Numu.Foundation.SerialNumbers

/-! The numbers of the fee invoices and credit notes that are issued one after another. -/

namespace Numu.AppBilling
open Numu.Orders (UUID Time)
open Numu.Outcome (bind_eq_ok)

/-- One call of `issue_fee_invoice`. -/
structure FeeIssue where
  tx : Charged
  kind : FeeInvoiceKind
  quote : Quote
  subject : Subject
  now : Time

namespace FeeIssue

def document (issue : FeeIssue) : UUID × FeeInvoiceKind :=
  (issue.tx.id, issue.kind)

def series (issue : FeeIssue) : String :=
  Books.invoiceSeries issue.kind issue.now

/-- The calls that issue a document; later calls for the same wallet row and kind return it. -/
def firsts (issues : List FeeIssue) : List FeeIssue :=
  issues.foldl (fun kept issue =>
    if kept.any (·.document = issue.document) then kept else kept ++ [issue]) []

/-- The documents that the calls issue in one series. -/
def inSeries (series : String) (issues : List FeeIssue) : List FeeIssue :=
  (firsts issues).filter (·.series = series)

theorem firsts_append (issues : List FeeIssue) (issue : FeeIssue) :
    firsts (issues ++ [issue]) =
      if (firsts issues).any (·.document = issue.document) then firsts issues
      else firsts issues ++ [issue] := by
  rw [firsts, List.foldl_append]
  rfl

theorem firsts_of_nodup {issues : List FeeIssue} (nodup : (issues.map document).Nodup) :
    firsts issues = issues := by
  induction issues using List.reverseRecOn with
  | nil => rfl
  | append_singleton issues issue ih =>
      rw [List.map_append, List.nodup_append'] at nodup
      obtain ⟨before, -, apart⟩ := nodup
      rw [firsts_append, ih before, if_neg]
      rw [List.any_eq_true]
      rintro ⟨other, member, same⟩
      exact apart (List.mem_map_of_mem member)
        (List.mem_singleton.mpr (of_decide_eq_true same))

end FeeIssue

namespace Books
open FeeIssue (firsts inSeries)

def issue (books : Books) (issue : FeeIssue) : Except BillingError Books :=
  books.issueFeeInvoice issue.tx issue.kind issue.quote issue.subject issue.now

/-- The books after calls that all return. -/
def issueAll (issues : List FeeIssue) : Except BillingError Books :=
  issues.foldlM issue {}

/-- The numbers of a series, in the order they were issued. -/
def issuedNumbers (books : Books) (series : String) : List String :=
  (books.invoices.rows.map fun row => row.2.number).filter (series.isPrefixOf ·)

/-- The books with a new document of the given number. -/
def withDocument (books : Books) (issue : FeeIssue) (n : Nat) : Books :=
  { books with
    invoices := books.invoices.set (issue.tx.id, issue.kind)
      (feeInvoice (Serial.number issue.series 6 n) issue.tx issue.kind issue.quote issue.subject
        issue.now) }

/-- The calls all return, and number the documents of each series 1, 2, and so on. -/
def NumbersInOrder (issues : List FeeIssue) : Prop :=
  ∃ books, issueAll issues = .ok books ∧ ∀ kind now,
    books.issuedNumbers (invoiceSeries kind now) =
      Serial.numbers (invoiceSeries kind now) 6 (inSeries (invoiceSeries kind now) issues).length

/-! ## The series -/

theorem toList_invoiceSeries (kind : FeeInvoiceKind) (now : Time) :
    (invoiceSeries kind now).toList =
      (match kind with
        | .invoice => "NUMU-".toList
        | .creditNote => "NUMU-CN-".toList) ++
        (Nat.toDigits 10 (Calendar.yearOf (Calendar.month now)) ++ ['-']) := by
  cases kind <;>
    simp [invoiceSeries, toString, Nat.repr]

/-- No series goes on as another. -/
theorem isPrefixOf_number {kind kind' : FeeInvoiceKind} {now now' : Time} {n : Nat} :
    (invoiceSeries kind now).isPrefixOf (Serial.number (invoiceSeries kind' now') 6 n) = true ↔
      invoiceSeries kind now = invoiceSeries kind' now' := by
  rw [String.isPrefixOf, String.startsWith_string_iff, Serial.toList_number]
  constructor
  · rintro ⟨rest, same⟩
    rw [toList_invoiceSeries, toList_invoiceSeries] at same
    apply String.toList_injective
    rw [toList_invoiceSeries, toList_invoiceSeries]
    have digits (now : Time) : ∀ c ∈ Nat.toDigits 10 (Calendar.yearOf (Calendar.month now)),
        c.isDigit :=
      IntegerText.toDigits_isDigit _
    cases kind <;> cases kind' <;>
      simp only [List.append_assoc, List.singleton_append] at same
    case invoice.invoice | creditNote.creditNote =>
      have years := (Calendar.digits_split (digits now) (digits now') (by decide) (by decide)
        (List.append_cancel_left same)).1
      rw [years]
    case invoice.creditNote =>
      have years : Nat.toDigits 10 (Calendar.yearOf (Calendar.month now)) ++ '-' :: rest =
          [] ++ 'C' :: _ := @List.append_cancel_left _ "NUMU-".toList _ _ same
      have stops := (Calendar.digits_split (digits now) (by simp) (by decide) (by decide) years).2.1
      exact absurd stops (by decide)
    case creditNote.invoice =>
      have years : Nat.toDigits 10 (Calendar.yearOf (Calendar.month now')) ++ '-' :: _ =
          [] ++ 'C' :: _ := @List.append_cancel_left _ "NUMU-".toList _ _ same.symm
      have stops := (Calendar.digits_split (digits now') (by simp) (by decide) (by decide) years).2.1
      exact absurd stops (by decide)
  · intro same
    rw [same]
    exact List.prefix_append _ _

/-- The database's greatest number of a series. -/
theorem lastNumber_eq (books : Books) (series : String) :
    books.lastNumber series = Serial.greatest (books.issuedNumbers series) := by
  rw [lastNumber, Serial.greatest, issuedNumbers, List.foldl_filter]
  congr 1
  funext best number
  cases series.isPrefixOf number <;> simp

/-- The number after the greatest one. -/
theorem nextInvoiceNumber_of_last {books : Books} {series : String} {n : Nat}
    (last : books.lastNumber series = some (Serial.number series 6 n)) :
    books.nextInvoiceNumber series = .ok (Serial.number series 6 (n + 1)) := by
  have rest : ((Serial.number series 6 n).drop series.length).toString =
      String.ofList (Calendar.padded 6 n) := by
    apply String.toList_injective
    rw [String.Slice.toString_eq, String.toList_copy_drop, Serial.toList_number,
      String.toList_ofList, ← String.length_toList, List.drop_left]
  rw [nextInvoiceNumber, last]
  simp only
  rw [rest, Serial.readInt_padded]
  rfl

theorem nextInvoiceNumber_of_numbers {books : Books} {series : String} {count : Nat}
    (numbers : books.issuedNumbers series = Serial.numbers series 6 count)
    (fits : count < 1000000) :
    books.nextInvoiceNumber series = .ok (Serial.number series 6 (count + 1)) := by
  have last := books.lastNumber_eq series
  rw [numbers, Serial.greatest_numbers fits] at last
  cases count with
  | zero =>
      rw [nextInvoiceNumber, last]
      rfl
  | succ count =>
      rw [if_neg (Nat.succ_ne_zero count)] at last
      exact nextInvoiceNumber_of_last last

/-- After a million numbers, the greatest text is the last but one, and the last number is made
again. -/
theorem nextInvoiceNumber_overflow {books : Books} {series : String}
    (numbers : books.issuedNumbers series = Serial.numbers series 6 1000000) :
    books.nextInvoiceNumber series = .ok (Serial.number series 6 1000000) := by
  have last := books.lastNumber_eq series
  rw [numbers, show 1000000 = 10 ^ (5 + 1) from rfl, Serial.greatest_overflow] at last
  exact nextInvoiceNumber_of_last last

/-! ## The calls -/

/-- What the books and the calls so far have in common. -/
structure Numbered (books : Books) (issues : List FeeIssue) : Prop where
  documents : books.invoices.rows.map Prod.fst = (firsts issues).map FeeIssue.document
  numbers : ∀ kind now, books.issuedNumbers (invoiceSeries kind now) =
    Serial.numbers (invoiceSeries kind now) 6 (inSeries (invoiceSeries kind now) issues).length
  bounded : ∀ kind now, (inSeries (invoiceSeries kind now) issues).length ≤ 1000000

theorem numbered_empty : Numbered {} [] := by
  constructor
  · rfl
  · exact fun kind now => rfl
  · exact fun kind now => Nat.zero_le _

section Calls
variable {books : Books} {issues : List FeeIssue} {issue : FeeIssue}

theorem any_document_iff : (firsts issues).any (·.document = issue.document) = true ↔
    issue.document ∈ (firsts issues).map FeeIssue.document := by
  simp

/-- A document that is there already is returned. -/
theorem Numbered.again (numbered : Numbered books issues)
    (there : (firsts issues).any (·.document = issue.document) = true) :
    books.issue issue = .ok books ∧ Numbered books (issues ++ [issue]) := by
  have same : firsts (issues ++ [issue]) = firsts issues := by
    rw [FeeIssue.firsts_append, if_pos there]
  constructor
  · have present : (books.invoices.get? (issue.tx.id, issue.kind)).isSome = true := by
      rw [Table.isSome_get?_iff, numbered.documents]
      exact any_document_iff.mp there
    rw [Books.issue, issueFeeInvoice, if_pos present]
  · constructor
    · rw [same]
      exact numbered.documents
    · intro kind now
      rw [inSeries, same]
      exact numbered.numbers kind now
    · intro kind now
      rw [inSeries, same]
      exact numbered.bounded kind now

/-- A number of a series is taken exactly if it was issued in the series. -/
theorem any_number_iff {kind : FeeInvoiceKind} {now : Time} {n : Nat} :
    (books.invoices.rows.any fun row =>
      row.2.number = Serial.number (invoiceSeries kind now) 6 n) = true ↔
      Serial.number (invoiceSeries kind now) 6 n ∈ books.issuedNumbers (invoiceSeries kind now) := by
  rw [List.any_eq_true, issuedNumbers, List.mem_filter, List.mem_map]
  constructor
  · rintro ⟨row, member, same⟩
    exact ⟨⟨row, member, of_decide_eq_true same⟩, isPrefixOf_number.mpr rfl⟩
  · rintro ⟨⟨row, member, same⟩, -⟩
    exact ⟨row, member, decide_eq_true same⟩

theorem Numbered.taken_iff (numbered : Numbered books issues) {n : Nat} :
    (books.invoices.rows.any fun row => row.2.number = Serial.number issue.series 6 n) = true ↔
      0 < n ∧ n ≤ (inSeries issue.series issues).length := by
  rw [FeeIssue.series, any_number_iff, numbered.numbers, Serial.mem_numbers]
  constructor
  · rintro ⟨m, positive, le, same⟩
    rw [← Serial.number_injective same]
    exact ⟨positive, le⟩
  · rintro ⟨positive, le⟩
    exact ⟨n, positive, le, rfl⟩

theorem Numbered.absent (numbered : Numbered books issues)
    (new : (firsts issues).any (·.document = issue.document) = false) :
    books.invoices.get? (issue.tx.id, issue.kind) = none := by
  rw [← Option.not_isSome_iff_eq_none, Table.isSome_get?_iff, numbered.documents]
  intro there
  rw [any_document_iff.mpr there] at new
  cases new

/-- The numbers of each series after a new document of one of them. -/
theorem issuedNumbers_withDocument
    (absent : books.invoices.get? (issue.tx.id, issue.kind) = none) (n : Nat)
    (kind : FeeInvoiceKind) (now : Time) :
    (books.withDocument issue n).issuedNumbers (invoiceSeries kind now) =
      books.issuedNumbers (invoiceSeries kind now) ++
        if issue.series = invoiceSeries kind now then
          [Serial.number issue.series 6 n] else [] := by
  rw [issuedNumbers, issuedNumbers, withDocument, Table.set_rows_of_absent _ absent,
    List.map_append, List.filter_append, List.map_singleton, FeeIssue.series]
  congr 1
  change List.filter _ [Serial.number (invoiceSeries issue.kind issue.now) 6 n] = _
  by_cases same : invoiceSeries issue.kind issue.now = invoiceSeries kind now
  · rw [if_pos same, List.filter_cons_of_pos (isPrefixOf_number.mpr same.symm), List.filter_nil]
  · rw [if_neg same, List.filter_cons_of_neg, List.filter_nil]
    exact fun starts => same (isPrefixOf_number.mp starts).symm

theorem inSeries_append (new : (firsts issues).any (·.document = issue.document) = false)
    (series : String) :
    inSeries series (issues ++ [issue]) =
      inSeries series issues ++ if issue.series = series then [issue] else [] := by
  rw [inSeries, FeeIssue.firsts_append, new, if_neg Bool.false_ne_true, List.filter_append]
  congr 1
  by_cases same : issue.series = series
  · rw [if_pos same]
    simp [same]
  · rw [if_neg same]
    simp [same]

/-- A new document gets the next number, while its series is below a million. -/
theorem Numbered.new (numbered : Numbered books issues)
    (new : (firsts issues).any (·.document = issue.document) = false)
    (fits : (inSeries issue.series issues).length < 1000000) :
    ∃ after, books.issue issue = .ok after ∧ Numbered after (issues ++ [issue]) := by
  have absent := numbered.absent new
  have next : books.nextInvoiceNumber (invoiceSeries issue.kind issue.now) =
      .ok (Serial.number issue.series 6 ((inSeries issue.series issues).length + 1)) :=
    nextInvoiceNumber_of_numbers (numbered.numbers issue.kind issue.now) fits
  have free : ¬(books.invoices.rows.any fun row => row.2.number =
      Serial.number issue.series 6 ((inSeries issue.series issues).length + 1)) = true := by
    rw [numbered.taken_iff]
    omega
  refine ⟨books.withDocument issue ((inSeries issue.series issues).length + 1), ?_, ?_, ?_, ?_⟩
  · rw [Books.issue, issueFeeInvoice, absent, Option.isSome_none, if_neg Bool.false_ne_true, next]
    change (if _ then _ else _) = _
    rw [if_neg free]
    rfl
  · rw [withDocument, Table.set_rows_of_absent _ absent, List.map_append, numbered.documents,
      FeeIssue.firsts_append, new, if_neg Bool.false_ne_true, List.map_append]
    rfl
  · intro kind now
    rw [issuedNumbers_withDocument absent, numbered.numbers, inSeries_append new, List.length_append]
    by_cases same : issue.series = invoiceSeries kind now
    · rw [if_pos same, if_pos same, ← same, List.length_singleton, Serial.numbers_succ]
    · rw [if_neg same, if_neg same, List.append_nil, List.length_nil, Nat.add_zero]
  · intro kind now
    rw [inSeries_append new, List.length_append]
    have bounded := numbered.bounded kind now
    by_cases same : issue.series = invoiceSeries kind now
    · rw [if_pos same, ← same, List.length_singleton]
      exact fits
    · rw [if_neg same, List.length_nil, Nat.add_zero]
      exact bounded

/-- A new document of a series that has a million fails: its number is the last one again. -/
theorem Numbered.full (numbered : Numbered books issues)
    (new : (firsts issues).any (·.document = issue.document) = false)
    (full : (inSeries issue.series issues).length = 1000000) :
    books.issue issue = .error .integrity := by
  have numbers := numbered.numbers issue.kind issue.now
  rw [← FeeIssue.series, full] at numbers
  have taken : (books.invoices.rows.any fun row => row.2.number =
      Serial.number issue.series 6 1000000) = true := by
    rw [numbered.taken_iff, full]
    omega
  rw [Books.issue, issueFeeInvoice, numbered.absent new, Option.isSome_none,
    if_neg Bool.false_ne_true, ← FeeIssue.series, nextInvoiceNumber_overflow numbers]
  change (if _ then _ else _) = _
  rw [if_pos taken]

theorem issueAll_append (issues : List FeeIssue) (issue : FeeIssue) :
    issueAll (issues ++ [issue]) = issueAll issues >>= fun books => books.issue issue := by
  rw [issueAll, List.foldlM_append, issueAll]
  congr 1
  funext books
  rw [List.foldlM_cons]
  exact bind_pure _

/-- Calls that return number their documents, of which no series has more than a million. -/
theorem issueAll_numbered (issues : List FeeIssue) :
    (∀ books, issueAll issues = .ok books → Numbered books issues) := by
  induction issues using List.reverseRecOn with
  | nil =>
      intro books ok
      cases ok
      exact numbered_empty
  | append_singleton issues issue ih =>
      intro after ok
      rw [issueAll_append] at ok
      obtain ⟨books, before, ok⟩ := bind_eq_ok.mp ok
      have numbered := ih books before
      cases new : (firsts issues).any (·.document = issue.document) with
      | true =>
          rcases numbered.again new with ⟨same, numbered'⟩
          rw [same] at ok
          cases ok
          exact numbered'
      | false =>
          rcases Nat.lt_or_eq_of_le (numbered.bounded issue.kind issue.now) with fits | full
          · obtain ⟨next, returned, numbered'⟩ := numbered.new new fits
            rw [returned] at ok
            cases ok
            exact numbered'
          · rw [numbered.full new full] at ok
            cases ok

theorem length_inSeries_le (issues : List FeeIssue) (issue : FeeIssue) (series : String) :
    (inSeries series issues).length ≤ (inSeries series (issues ++ [issue])).length := by
  cases new : (firsts issues).any (·.document = issue.document) with
  | true => rw [inSeries, inSeries, FeeIssue.firsts_append, if_pos new]
  | false =>
      rw [inSeries_append new, List.length_append]
      exact Nat.le_add_right _ _

/-- Calls return as long as no series has more than a million documents. -/
theorem issueAll_returns (issues : List FeeIssue)
    (bounded : ∀ kind now, (inSeries (invoiceSeries kind now) issues).length ≤ 1000000) :
    ∃ books, issueAll issues = .ok books := by
  induction issues using List.reverseRecOn with
  | nil => exact ⟨_, rfl⟩
  | append_singleton issues issue ih =>
      obtain ⟨books, before⟩ := ih fun kind now =>
        (length_inSeries_le issues issue _).trans (bounded kind now)
      have numbered := issueAll_numbered issues books before
      rw [issueAll_append, before]
      cases new : (firsts issues).any (·.document = issue.document) with
      | true => exact ⟨books, (numbered.again new).1⟩
      | false =>
          have here := bounded issue.kind issue.now
          rw [inSeries_append new, FeeIssue.series, if_pos rfl, List.length_append] at here
          obtain ⟨next, returned, -⟩ := numbered.new new (Nat.lt_of_succ_le here)
          exact ⟨next, returned⟩

end Calls
end Books

/-- Documents that are issued one after another are numbered in order exactly if no series has
more than a million of them. -/
theorem numbersInOrder_iff (issues : List FeeIssue) :
    Books.NumbersInOrder issues ↔
      ∀ kind now, (FeeIssue.inSeries (Books.invoiceSeries kind now) issues).length ≤ 1000000 := by
  constructor
  · rintro ⟨books, ok, -⟩
    exact (Books.issueAll_numbered issues books ok).bounded
  · intro bounded
    obtain ⟨books, ok⟩ := Books.issueAll_returns issues bounded
    exact ⟨books, ok, (Books.issueAll_numbered issues books ok).numbers⟩

/-- The invoice of one charge of a pound, in 2026. -/
def poundInvoice (id : UUID) : FeeIssue where
  tx := ⟨id, { kind := .appCharge, amountCents := -100, balanceAfterCents := 0, tenantId := 1 }⟩
  kind := .invoice
  quote := quote 100 partnerShareBps 0 none standardVatBps
  subject := { storeId := some 2, appId := some 3, themeId := none, description := "Labels" }
  now := 1770000000000000

example : ((Books.issueAll [poundInvoice 1, poundInvoice 1,
    { poundInvoice 2 with kind := .creditNote }, poundInvoice 3]).toOption.map fun books =>
      (books.issuedNumbers "NUMU-2026-", books.issuedNumbers "NUMU-CN-2026-")) =
    some (["NUMU-2026-000001", "NUMU-2026-000002"], ["NUMU-CN-2026-000001"]) := by
  decide +kernel

/-- A million and one of them. -/
def millionAndOne : List FeeIssue :=
  (List.range 1000001).map fun i => poundInvoice (BitVec.ofNat 128 i)

theorem millionAndOne_documents : (millionAndOne.map FeeIssue.document).Nodup := by
  rw [millionAndOne, List.map_map]
  refine List.Nodup.map_on ?_ List.nodup_range
  intro first small second small' same
  have ids : BitVec.ofNat 128 first = BitVec.ofNat 128 second := congrArg Prod.fst same
  have values := congrArg BitVec.toNat ids
  rw [BitVec.toNat_ofNat, BitVec.toNat_ofNat] at values
  rw [List.mem_range] at small small'
  omega

theorem millionAndOne_not_in_order : ¬Books.NumbersInOrder millionAndOne := by
  rintro ⟨books, ok, -⟩
  have bounded := (Books.issueAll_numbered millionAndOne books ok).bounded .invoice
    1770000000000000
  have all : FeeIssue.inSeries (Books.invoiceSeries .invoice 1770000000000000) millionAndOne =
      millionAndOne := by
    rw [FeeIssue.inSeries, FeeIssue.firsts_of_nodup millionAndOne_documents, List.filter_eq_self]
    intro issue member
    obtain ⟨i, -, rfl⟩ := List.mem_map.mp member
    exact decide_eq_true rfl
  rw [all, millionAndOne, List.length_map, List.length_range] at bounded
  omega

end Numu.AppBilling
