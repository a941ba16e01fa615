import Numu.Foundation.Table
import Numu.Shipping.CarrierReports

/-!
# A courier's status sheet

`parse_status_sheet` over what `csv.DictReader` yields. A line is read once the lines before it are:
the number of a line is remembered before its status is looked at.
-/

namespace Numu.Shipping
open Numu.Stock (TextCase)
open Numu.Invoices (strip)

/-- `DEFAULT_COLUMN_ALIASES`. -/
def defaultColumnAliases : List (String × String) :=
  [("tracking_number", "tracking_number"), ("tracking", "tracking_number"),
    ("awb", "tracking_number"), ("waybill", "tracking_number"), ("barcode", "tracking_number"),
    ("رقم الشحنة", "tracking_number"), ("رقم البوليصة", "tracking_number"), ("status", "status"),
    ("state", "status"), ("الحالة", "status"), ("notes", "note"), ("note", "note"),
    ("reason", "note"), ("ملاحظات", "note"), ("cod_amount", "cod_amount"), ("cod", "cod_amount"),
    ("collected", "cod_amount"), ("المبلغ", "cod_amount")]

/-- One line, whether or not it can be applied. -/
structure ImportRow where
  line : Nat
  trackingNumber : Option String := none
  rawStatus : String := ""
  status : Option ShipmentStatus := none
  note : String := ""
  codAmount : Option FloatValue := none
  error : Option String := none
  deriving DecidableEq

def ImportRow.ok (row : ImportRow) : Bool :=
  row.error.isNone && row.trackingNumber.any (· ≠ "") && row.status.isSome

structure ImportPreview where
  rows : List ImportRow := []
  encoding : String := ""
  deriving DecidableEq

def ImportPreview.applicable (preview : ImportPreview) : List ImportRow :=
  preview.rows.filter ImportRow.ok

inductive CsvFormatError where
  /-- `No tracking-number column found.` -/
  | noTrackingColumn
  deriving DecidableEq, Repr

/-- A row of `csv.DictReader`: a short one has no values for the last fields. -/
abbrev RawRow := Table String (Option String)

/-- The decoded file, as the reader gives it, and its encoding. -/
structure Sheet where
  encoding : String := "utf-8"
  fieldnames : Option (List String)
  rows : List RawRow

/-- `replace("EGP", "")`. -/
def dropCurrency : List Char → List Char
  | 'E' :: 'G' :: 'P' :: rest => dropCurrency rest
  | c :: rest => c :: dropCurrency rest
  | [] => []

def parseMoney (raw : String) : Option FloatValue :=
  if raw = "" then none
  else
    let digits := (strip raw).toList.filter (· ≠ ',')
    FloatText.readFloat (strip (String.ofList (dropCurrency digits)))

/-- `(raw_row.get(col) or "")`. -/
def RawRow.value (raw : RawRow) (col : String) : String := (raw.get? col).join.getD ""

/-- The number on a line, empty where there is none. -/
def tracking (columns : Table String String) (raw : RawRow) : String :=
  match columns.get? "tracking_number" with
  | some col => strip (raw.value col)
  | none => ""

/-- The status column's cell, where there is the column. -/
def statusCell (columns : Table String String) (raw : RawRow) : Option String :=
  (columns.get? "status").map fun col => strip (raw.value col)

def noteCell (columns : Table String String) (raw : RawRow) : String :=
  match columns.get? "note" with
  | some col => strip (raw.value col)
  | none => ""

def codCell (columns : Table String String) (raw : RawRow) : Option FloatValue :=
  (columns.get? "cod_amount").bind fun col => parseMoney (raw.value col)

/-- The first line of its number, after the lines `before`. -/
def FirstLine (columns : Table String String) (before : List RawRow) (raw : RawRow) : Prop :=
  tracking columns raw ≠ "" ∧ ∀ earlier ∈ before, tracking columns earlier ≠ tracking columns raw

section
variable [TextCase]

def normaliseHeader (name : String) : String :=
  TextCase.lower (String.ofList ((strip name).toList.dropWhile (· = '\uFEFF')))

/-- `lookup` of `_resolve_columns`: the merchant's own spellings come first. -/
def fieldOf (aliases : List (String × String)) (header : String) : Option String :=
  let own := Table.ofList (aliases.map fun pair => (normaliseHeader pair.1, pair.2))
  (own.get? header).or (defaultColumnAliases.lookup header)

def resolveColumns (fieldnames : List String) (aliases : List (String × String)) :
    Table String String :=
  fieldnames.foldl (fun resolved raw =>
    match fieldOf aliases (normaliseHeader raw) with
    | some fieldName =>
        if fieldName ≠ "" ∧ resolved.get? fieldName = none then resolved.set fieldName raw
        else resolved
    | none => resolved) .empty

/-- `resolve_status` with the courier's own words, which come before the known ones. -/
def resolveStatusBy (aliases : Table String ShipmentStatus) (raw : String) : Option ShipmentStatus :=
  if raw = "" then none
  else (aliases.get? (spaced (TextCase.lower (strip raw)))).or (resolveStatus raw)

/-- One turn of the loop, on a line whose number has been seen before or not. -/
def readLine (columns : Table String String) (aliases : Table String ShipmentStatus) (line : Nat)
    (seen : Bool) (raw : RawRow) : ImportRow :=
  let number := tracking columns raw
  let row : ImportRow := { line, trackingNumber := if number = "" then none else some number }
  if number = "" then { row with error := some "No tracking number on this line." }
  else if seen then { row with error := some "Duplicate of an earlier line in this file." }
  else
    let read : ImportRow :=
      match statusCell columns raw with
      | some rawStatus =>
          let status := resolveStatusBy aliases rawStatus
          { row with
            rawStatus
            status
            error :=
              if rawStatus ≠ "" ∧ status = none then some s!"Unrecognised status '{rawStatus}'."
              else none }
      | none => { row with error := some "No status column found." }
    { read with note := noteCell columns raw, codAmount := codCell columns raw }

/-- The loop, from a line on and with the numbers of the lines before it. -/
def readLines (columns : Table String String) (aliases : Table String ShipmentStatus) :
    Nat → List String → List RawRow → List ImportRow
  | _, _, [] => []
  | line, seen, raw :: rest =>
      let number := tracking columns raw
      readLine columns aliases line (number ∈ seen) raw ::
        readLines columns aliases (line + 1) (if number = "" then seen else number :: seen) rest

/-- Line 1 is the header. -/
def parseStatusSheet (columnAliases : List (String × String))
    (statusAliases : Table String ShipmentStatus) (sheet : Sheet) :
    Except CsvFormatError ImportPreview :=
  let columns := resolveColumns (sheet.fieldnames.getD []) columnAliases
  if columns.get? "tracking_number" = none then .error .noTrackingColumn
  else
    .ok { rows := readLines columns statusAliases 2 [] sheet.rows, encoding := sheet.encoding }

/-- The columns that a sheet is read by. -/
def Sheet.columns (sheet : Sheet) (columnAliases : List (String × String)) : Table String String :=
  resolveColumns (sheet.fieldnames.getD []) columnAliases

/-- The status that the words on a line stand for. -/
def recognised (columns : Table String String) (aliases : Table String ShipmentStatus)
    (raw : RawRow) : Option ShipmentStatus :=
  (statusCell columns raw).bind (resolveStatusBy aliases)

/-- A row for each line, in order, that can be applied or says why not; no number twice among those
that can be applied; and one of these for each number of which a line has a recognised status. -/
structure LosesNoRow (columns : Table String String) (aliases : Table String ShipmentStatus)
    (sheet : Sheet) (preview : ImportPreview) : Prop where
  lines : preview.rows.map (·.line) = List.range' 2 sheet.rows.length
  numbers : preview.rows.map (·.trackingNumber.getD "") = sheet.rows.map (tracking columns)
  settled : ∀ row ∈ preview.rows, row.ok = true ∨ row.error ≠ none
  distinct : (preview.applicable.map (·.trackingNumber)).Nodup
  kept : ∀ raw ∈ sheet.rows, tracking columns raw ≠ "" → recognised columns aliases raw ≠ none →
    ∃ row ∈ preview.applicable, row.trackingNumber = some (tracking columns raw)

variable {columns : Table String String} {aliases : Table String ShipmentStatus} {line : Nat}
  {seen : Bool} {raw : RawRow}

theorem readLine_line : (readLine columns aliases line seen raw).line = line := by
  rw [readLine]
  split
  · rfl
  · split
    · rfl
    · dsimp only
      split <;> rfl

theorem readLine_number : (readLine columns aliases line seen raw).trackingNumber =
    if tracking columns raw = "" then none else some (tracking columns raw) := by
  rw [readLine]
  split
  · rfl
  · split
    · rfl
    · dsimp only
      split <;> rfl

/-- A line can be applied if it is the first of its number and its status is recognised. -/
theorem readLine_ok_iff : (readLine columns aliases line seen raw).ok = true ↔
    tracking columns raw ≠ "" ∧ seen = false ∧ recognised columns aliases raw ≠ none := by
  rw [readLine]
  by_cases none_ : tracking columns raw = ""
  · rw [if_pos none_]
    exact iff_of_false (by simp [ImportRow.ok]) (fun facts => facts.1 none_)
  · rw [if_neg none_]
    cases seen with
    | true =>
        rw [if_pos rfl]
        exact iff_of_false (by simp [ImportRow.ok]) (fun facts => nomatch facts.2.1)
    | false =>
        rw [if_neg Bool.false_ne_true, recognised]
        cases cell : statusCell columns raw with
        | none => exact iff_of_false (by simp [ImportRow.ok]) (fun facts => facts.2.2 rfl)
        | some rawStatus =>
            cases found : resolveStatusBy aliases rawStatus with
            | none => simp [ImportRow.ok, found]
            | some status => simp [ImportRow.ok, found, none_]

/-- A line that neither can be applied nor says why: the first of its number, with an empty
status. -/
theorem readLine_settled_iff : (readLine columns aliases line seen raw).ok = true ∨
    (readLine columns aliases line seen raw).error ≠ none ↔
      ¬ (tracking columns raw ≠ "" ∧ seen = false ∧ statusCell columns raw = some "") := by
  rw [readLine_ok_iff, readLine]
  by_cases none_ : tracking columns raw = ""
  · rw [if_pos none_]
    simp [none_]
  · rw [if_neg none_]
    cases seen with
    | true => simp
    | false =>
        rw [if_neg Bool.false_ne_true, recognised]
        cases cell : statusCell columns raw with
        | none => simp
        | some rawStatus =>
            by_cases blank : rawStatus = ""
            · simp [blank, resolveStatusBy, none_]
            · cases found : resolveStatusBy aliases rawStatus with
              | none => simp [found, blank]
              | some status => simp [found, blank, none_]

omit [TextCase] in
/-- The numbers seen after one more line. -/
theorem mem_seen {seen : List String} {first : RawRow} {before : List RawRow} {number : String} :
    (number ∈ (if tracking columns first = "" then seen else tracking columns first :: seen) ∨
        ∃ earlier ∈ before, tracking columns earlier ≠ "" ∧ tracking columns earlier = number) ↔
      number ∈ seen ∨
        ∃ earlier ∈ first :: before, tracking columns earlier ≠ "" ∧
          tracking columns earlier = number := by
  by_cases blank : tracking columns first = ""
  · simp [blank]
  · rw [if_neg blank, List.mem_cons, List.exists_mem_cons_iff]
    constructor
    · rintro ((same | mem) | later)
      · exact Or.inr (Or.inl ⟨blank, same.symm⟩)
      · exact Or.inl mem
      · exact Or.inr (Or.inr later)
    · rintro (mem | ⟨-, same⟩ | later)
      · exact Or.inl (Or.inr mem)
      · exact Or.inl (Or.inl same.symm)
      · exact Or.inr later

/-- The rows of the lines, each read with the numbers of the lines before it. -/
theorem mem_readLines {seen : List String} {raws : List RawRow} {row : ImportRow} :
    row ∈ readLines columns aliases line seen raws ↔
      ∃ before raw after, raws = before ++ raw :: after ∧
        row = readLine columns aliases (line + before.length)
          (decide (tracking columns raw ∈ seen ∨
            ∃ earlier ∈ before, tracking columns earlier ≠ "" ∧
              tracking columns earlier = tracking columns raw)) raw := by
  induction raws generalizing line seen with
  | nil =>
      rw [readLines]
      refine iff_of_false List.not_mem_nil ?_
      rintro ⟨before, raw, after, parts, -⟩
      exact List.cons_ne_nil _ _ (List.append_eq_nil_iff.mp parts.symm).2
  | cons first rest ih =>
      rw [readLines, List.mem_cons, ih]
      simp only [mem_seen]
      constructor
      · rintro (same | ⟨before, raw, after, parts, same⟩)
        · exact ⟨[], first, rest, rfl, by simpa using same⟩
        · refine ⟨first :: before, raw, after, by rw [parts, List.cons_append], ?_⟩
          rw [same, List.length_cons, Nat.add_assoc, Nat.add_comm 1]
      · rintro ⟨before, raw, after, parts, same⟩
        cases before with
        | nil =>
            rw [List.nil_append, List.cons.injEq] at parts
            rw [parts.1, parts.2]
            exact Or.inl (by simpa [parts.1] using same)
        | cons first' before =>
            rw [List.cons_append, List.cons.injEq] at parts
            obtain ⟨rfl, parts⟩ := parts
            refine Or.inr ⟨before, raw, after, parts, ?_⟩
            rw [same, List.length_cons, Nat.add_assoc, Nat.add_comm 1]

theorem map_readLines (seen : List String) (raws : List RawRow) :
    (readLines columns aliases line seen raws).map (·.line) = List.range' line raws.length ∧
      (readLines columns aliases line seen raws).map (·.trackingNumber.getD "") =
        raws.map (tracking columns) := by
  induction raws generalizing line seen with
  | nil => exact ⟨rfl, rfl⟩
  | cons first rest ih =>
      obtain ⟨lines, numbers⟩ := ih (if tracking columns first = "" then seen else tracking columns first :: seen)
      rw [readLines, List.map_cons, List.map_cons, List.map_cons, List.length_cons, List.range'_succ]
      refine ⟨by rw [readLine_line, lines], ?_⟩
      rw [readLine_number, numbers]
      split
      · rename_i blank
        rw [blank]
        rfl
      · rfl

/-- The rows that can be applied have numbers that were not seen, and different ones. -/
theorem applicable_numbers (seen : List String) (raws : List RawRow) :
    ((readLines columns aliases line seen raws).filter ImportRow.ok).Pairwise
        (fun first second => first.trackingNumber ≠ second.trackingNumber) ∧
      ∀ row ∈ (readLines columns aliases line seen raws).filter ImportRow.ok,
        ∀ number ∈ seen, row.trackingNumber ≠ some number := by
  induction raws generalizing line seen with
  | nil => exact ⟨.nil, fun _ mem => absurd mem List.not_mem_nil⟩
  | cons first rest ih =>
      obtain ⟨apart, unseen⟩ := @ih (line + 1)
        (if tracking columns first = "" then seen else tracking columns first :: seen)
      have later : ∀ number ∈ seen,
          number ∈ if tracking columns first = "" then seen else tracking columns first :: seen := by
        intro number mem
        split
        · exact mem
        · exact List.mem_cons_of_mem _ mem
      rw [readLines]
      by_cases applies : (readLine columns aliases line (tracking columns first ∈ seen) first).ok = true
      · obtain ⟨number, new, -⟩ := readLine_ok_iff.mp applies
        have named : (readLine columns aliases line (tracking columns first ∈ seen)
            first).trackingNumber = some (tracking columns first) := by
          rw [readLine_number, if_neg number]
        rw [List.filter_cons_of_pos applies]
        refine ⟨List.pairwise_cons.mpr ⟨fun row mem same => ?_, apart⟩, fun row mem seen_ old => ?_⟩
        · refine unseen row mem (tracking columns first) ?_ (same.symm.trans named)
          rw [if_neg number]
          exact List.mem_cons_self
        · rcases List.mem_cons.mp mem with rfl | mem
          · rw [named]
            intro same
            cases same
            exact of_decide_eq_false new old
          · exact unseen row mem seen_ (later seen_ old)
      · rw [List.filter_cons_of_neg applies]
        exact ⟨apart, fun row mem number old => unseen row mem number (later number old)⟩

omit [TextCase] in
/-- The first line of a number is the one that a search for it finds. -/
theorem FirstLine.find? {raws before after : List RawRow} (first : FirstLine columns before raw)
    (parts : raws = before ++ raw :: after) :
    raws.find? (fun other => tracking columns other = tracking columns raw) = some raw := by
  refine List.find?_eq_some_iff_append.mpr ⟨decide_eq_true rfl, before, after, parts, ?_⟩
  intro earlier mem
  simpa using first.2 earlier mem

omit [TextCase] in
theorem exists_firstLine {raws : List RawRow} (mem : raw ∈ raws) (number : tracking columns raw ≠ "") :
    ∃ before first after, raws = before ++ first :: after ∧ FirstLine columns before first ∧
      tracking columns first = tracking columns raw := by
  obtain ⟨first, found⟩ := Option.isSome_iff_exists.mp (List.find?_isSome
    (p := fun other => decide (tracking columns other = tracking columns raw)) |>.mpr
      ⟨raw, mem, decide_eq_true rfl⟩)
  obtain ⟨same, before, after, parts, others⟩ := List.find?_eq_some_iff_append.mp found
  have same_ : tracking columns first = tracking columns raw := of_decide_eq_true same
  refine ⟨before, first, after, parts, ⟨by rw [same_]; exact number, fun earlier mem' => ?_⟩, same_⟩
  simpa [same_] using others earlier mem'

omit [TextCase] in
theorem firstLine_iff {before : List RawRow} : FirstLine columns before raw ↔
    tracking columns raw ≠ "" ∧
      decide (tracking columns raw ∈ ([] : List String) ∨
        ∃ earlier ∈ before, tracking columns earlier ≠ "" ∧
          tracking columns earlier = tracking columns raw) = false := by
  rw [decide_eq_false_iff_not, FirstLine]
  refine and_congr_right fun number => ?_
  constructor
  · rintro others (old | ⟨earlier, mem, -, same⟩)
    · exact absurd old List.not_mem_nil
    · exact others earlier mem same
  · intro new earlier mem same
    exact new (Or.inr ⟨earlier, mem, by rw [same]; exact number, same⟩)

/-- A sheet loses no row exactly if the first line of each number has a status, where there is the
column, and one that is recognised, unless none of the number's lines has. -/
theorem loses_no_row_iff (columnAliases : List (String × String))
    (statusAliases : Table String ShipmentStatus) (sheet : Sheet) {preview : ImportPreview}
    (parsed : parseStatusSheet columnAliases statusAliases sheet = .ok preview) :
    let columns := sheet.columns columnAliases
    LosesNoRow columns statusAliases sheet preview ↔
      ∀ before raw after, sheet.rows = before ++ raw :: after → FirstLine columns before raw →
        statusCell columns raw ≠ some "" ∧
          (recognised columns statusAliases raw ≠ none ∨
            ∀ other ∈ sheet.rows, tracking columns other = tracking columns raw →
              recognised columns statusAliases other = none) := by
  intro columns
  have read : preview.rows = readLines columns statusAliases 2 [] sheet.rows := by
    rw [parseStatusSheet] at parsed
    split at parsed
    · cases parsed
    · cases parsed
      rfl
  constructor
  · intro kept before raw after parts first
    obtain ⟨number, new⟩ := firstLine_iff.mp first
    refine ⟨fun blank => ?_, ?_⟩
    · have settled := kept.settled _ (by rw [read]; exact mem_readLines.mpr ⟨before, raw, after, parts, rfl⟩)
      exact readLine_settled_iff.mp settled ⟨number, new, blank⟩
    · by_contra neither
      rw [not_or, not_not] at neither
      obtain ⟨unknown, others⟩ := neither
      push Not at others
      obtain ⟨other, mem, same, known⟩ := others
      obtain ⟨row, applies, named⟩ := kept.kept other mem (by rw [same]; exact number) known
      rw [ImportPreview.applicable, List.mem_filter, read, mem_readLines] at applies
      obtain ⟨⟨before', raw', after', parts', rfl⟩, ok⟩ := applies
      obtain ⟨number', new', known'⟩ := readLine_ok_iff.mp ok
      rw [readLine_number, if_neg number', same, Option.some.injEq] at named
      -- Both are the first line of the number.
      have found := (firstLine_iff.mpr ⟨number', new'⟩).find? parts'
      rw [named, first.find? parts, Option.some.injEq] at found
      exact known' (found ▸ unknown)
  · intro firsts
    refine ⟨by rw [read]; exact (map_readLines [] sheet.rows).1,
      by rw [read]; exact (map_readLines [] sheet.rows).2, fun row mem => ?_, ?_,
      fun raw mem number known => ?_⟩
    · rw [read, mem_readLines] at mem
      obtain ⟨before, raw, after, parts, rfl⟩ := mem
      refine readLine_settled_iff.mpr ?_
      rintro ⟨number, new, blank⟩
      exact (firsts before raw after parts (firstLine_iff.mpr ⟨number, new⟩)).1 blank
    · rw [ImportPreview.applicable, read, List.Nodup, List.pairwise_map]
      exact (applicable_numbers [] sheet.rows).1
    · obtain ⟨before, first, after, parts, firstLine, same⟩ := exists_firstLine mem number
      obtain ⟨number', new⟩ := firstLine_iff.mp firstLine
      rcases (firsts before first after parts firstLine).2 with known' | none_
      · obtain ⟨row, listed, ok, named⟩ : ∃ row ∈ readLines columns statusAliases 2 [] sheet.rows,
            row.ok = true ∧ row.trackingNumber = some (tracking columns first) :=
          ⟨_, mem_readLines.mpr ⟨before, first, after, parts, rfl⟩,
            readLine_ok_iff.mpr ⟨number', new, known'⟩, by rw [readLine_number, if_neg number']⟩
        rw [same] at named
        exact ⟨row, List.mem_filter.mpr ⟨by rw [read]; exact listed, ok⟩, named⟩
      · exact absurd (none_ raw mem same.symm) known

end

/-- A sheet of numbers and statuses. -/
def awbSheet (lines : List (String × String)) : Sheet where
  fieldnames := some ["AWB", "Status"]
  rows := lines.map fun line => Table.ofList [("AWB", some line.1), ("Status", some line.2)]

def deliveredPreview : ImportPreview where
  rows := [{ line := 2, trackingNumber := some "A1", rawStatus := "Delivered", status := some .delivered }]
  encoding := "utf-8"

theorem loses_no_row_iff_delivered :
    letI := TextCase.ascii
    let columns := (awbSheet [("A1", "Delivered")]).columns []
    LosesNoRow columns .empty (awbSheet [("A1", "Delivered")]) deliveredPreview ↔
      ∀ before raw after, (awbSheet [("A1", "Delivered")]).rows = before ++ raw :: after →
        FirstLine columns before raw →
          statusCell columns raw ≠ some "" ∧
            (recognised columns .empty raw ≠ none ∨
              ∀ other ∈ (awbSheet [("A1", "Delivered")]).rows,
                tracking columns other = tracking columns raw → recognised columns .empty other = none) :=
  @loses_no_row_iff TextCase.ascii [] .empty (awbSheet [("A1", "Delivered")]) deliveredPreview
    (by decide +kernel)

/-- The courier's first line for a parcel has no status yet, and the second says that it was
delivered. -/
theorem blank_line_hides_delivery :
    letI := TextCase.ascii
    let sheet := awbSheet [("A1", ""), ("A1", "Delivered")]
    ∃ preview, parseStatusSheet [] .empty sheet = .ok preview ∧ preview.applicable = [] ∧
      ¬ LosesNoRow (sheet.columns []) .empty sheet preview := by
  let ascii := TextCase.ascii
  intro sheet
  refine ⟨{ rows := [
      { line := 2, trackingNumber := some "A1" },
      { line := 3, trackingNumber := some "A1"
        error := some "Duplicate of an earlier line in this file." }]
            encoding := "utf-8" }, by decide +kernel, by decide +kernel, fun kept => ?_⟩
  have settled := kept.settled _ List.mem_cons_self
  exact absurd settled (by decide)

end Numu.Shipping
