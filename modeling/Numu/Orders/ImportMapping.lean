import Numu.Foundation.Assignment
import Numu.Foundation.IntegerText
import Numu.Foundation.Json
import Numu.Invoices.TaxResolver
import Numu.Payments.AutoApproval
import Numu.Stock.StockService

/-!
# The columns of an order sheet

`OrderImportService.suggest` proposes a field for each column: what the synonyms say, and over it
what the merchant has confirmed before.
-/

namespace Numu.Orders.Import
open Numu.Stock (TextCase)
open Numu.Invoices (strip)
open Numu.Payments

/-- `TARGET_FIELDS`. -/
def targetFields : List String :=
  ["external_order_id", "customer_name", "customer_phone", "customer_email", "shipping_address",
    "shipping_city", "total", "payment_status", "status", "notes", "order_date"]

/-- `_SYNONYMS`. -/
def synonyms : Table String (List String) where
  rows := [
    ("external_order_id", ["external id", "external order id", "order id", "order no",
      "order number", "order #", "ref", "reference", "ref no", "id", "رقم الطلب",
      "رقم الطلب القديم", "المرجع"]),
    ("customer_name", ["name", "customer", "customer name", "full name", "buyer", "client",
      "الاسم", "اسم العميل", "العميل", "اسم", "الاسم الكامل"]),
    ("customer_phone", ["phone", "mobile", "tel", "telephone", "phone number", "mobile number",
      "contact", "رقم الموبايل", "الموبايل", "الهاتف", "رقم الهاتف", "رقم", "موبايل", "هاتف"]),
    ("customer_email", ["email", "e-mail", "mail", "email address", "البريد", "الإيميل",
      "البريد الإلكتروني", "إيميل"]),
    ("shipping_address", ["address", "shipping address", "street", "delivery address", "العنوان",
      "عنوان الشحن", "عنوان التوصيل", "الشارع"]),
    ("shipping_city", ["city", "governorate", "gov", "region", "state", "المدينة", "المحافظة",
      "المنطقة"]),
    ("total", ["total", "amount", "price", "grand total", "order total", "value", "الإجمالي",
      "المبلغ", "السعر", "قيمة الطلب", "اجمالي"]),
    ("payment_status", ["payment", "payment status", "paid", "paid?", "is paid", "حالة الدفع",
      "الدفع", "مدفوع"]),
    ("status", ["status", "order status", "state", "الحالة", "حالة الطلب"]),
    ("notes", ["notes", "note", "comments", "comment", "remarks", "ملاحظات", "ملاحظة"]),
    ("order_date", ["date", "order date", "created", "created at", "ordered at", "التاريخ",
      "تاريخ الطلب"])]
  nodup := by decide

/-- A field for each column, or none. -/
abbrev Mapping := Table String (Option String)

/-- Each run of white space becomes one blank; `inRun` says that a run has begun. -/
def collapse (inRun : Bool) : List Char → List Char
  | [] => []
  | c :: rest =>
      if IntegerText.isSpace c then
        if inRun then collapse true rest else ' ' :: collapse true rest
      else c :: collapse false rest

def normalize [TextCase] (header : String) : String :=
  let lowered := (TextCase.lower (strip header)).toList
  strip (String.ofList (collapse false ((lowered.filter (· ≠ '.')).filter (· ≠ ':'))))

/-- `_columns_from_csv`, of the first record that the reader yields. -/
def columnsOfHeader (header : Option (List String)) : List String :=
  match header with
  | none => []
  | some header => (header.filter fun h => h ≠ "" && strip h ≠ "").map strip

inductive Pass where
  | exact
  | contains
  deriving DecidableEq, Repr

/-- The inner loop's `match`. -/
def Pass.matches (pass : Pass) (ncol : String) (synonyms : List String) : Bool :=
  match pass with
  | exact => ncol ∈ synonyms
  | contains =>
      synonyms.any fun s =>
        s = ncol || AutoApproval.contains ncol s || AutoApproval.contains s ncol

/-- `_suggest_from_synonyms` between two turns of its loop. -/
structure Suggesting where
  suggestion : Mapping
  claimed : List String := []

namespace Suggesting

/-- `suggestion.get(col)` is neither `None` nor empty. -/
def taken (state : Suggesting) (col : String) : Bool :=
  (state.suggestion.get? col).join.any (· ≠ "")

/-- The turn of one target: the first free column that matches is claimed for it. -/
def turn (normalizedColumns : Table String String) (pass : Pass) (state : Suggesting)
    (entry : String × List String) : Suggesting :=
  if entry.1 ∈ state.claimed then state
  else
    match normalizedColumns.rows.find? fun column =>
      !state.taken column.1 && pass.matches column.2 entry.2 with
    | none => state
    | some column =>
        { suggestion := state.suggestion.set column.1 (some entry.1)
          claimed := state.claimed ++ [entry.1] }

end Suggesting

def suggestFromSynonyms [TextCase] (synonyms : Table String (List String)) (columns : List String) :
    Mapping :=
  let normalizedColumns := Table.ofList (columns.map fun c => (c, normalize c))
  let start : Suggesting := { suggestion := Table.ofList (columns.map fun c => (c, none)) }
  let exact_ := synonyms.rows.foldl (Suggesting.turn normalizedColumns .exact) start
  (synonyms.rows.foldl (Suggesting.turn normalizedColumns .contains) exact_).suggestion

/-- The mapping that the settings hold, where they hold a dictionary under the key. -/
def savedMapping (storeSettings : Option Json.Fields) : Json.Fields :=
  match (storeSettings.getD []).lookup "order_import_mapping" with
  | some (.obj fields) => fields
  | _ => []

/-- The field that was saved for a column, where it is one of the fields. -/
def savedTarget (saved : Json.Fields) (col : String) : Option String :=
  match saved.lookup col with
  | some (.str target) => if target ∈ targetFields then some target else none
  | _ => none

/-- The `suggested_mapping` of `suggest`. -/
def suggest [TextCase] (synonyms : Table String (List String)) (header : Option (List String))
    (storeSettings : Option Json.Fields) : Mapping :=
  let columns := columnsOfHeader header
  let rules := suggestFromSynonyms synonyms columns
  let saved := savedMapping storeSettings
  Table.ofList (columns.map fun col => (col, (savedTarget saved col).or (rules.get? col).join))

/-- No field is proposed for two columns. -/
def Mapping.Injective (mapping : Mapping) : Prop :=
  Assignment.Injective fun col => (mapping.get? col).join

namespace Suggesting
variable {state : Suggesting} {normalizedColumns : Table String String}

/-- What the rules have proposed so far. -/
structure Claims (columns : List String) (state : Suggesting) : Prop where
  injective : state.suggestion.Injective
  claimed : ∀ col target, (state.suggestion.get? col).join = some target → target ∈ state.claimed
  listed : ∀ col, col ∉ columns → state.suggestion.get? col = none

theorem Claims.turn {columns : List String} (claims : Claims columns state)
    (known : ∀ column ∈ normalizedColumns.rows, column.1 ∈ columns) (pass : Pass)
    (entry : String × List String) : Claims columns (turn normalizedColumns pass state entry) := by
  rw [Suggesting.turn]
  split
  · exact claims
  · rename_i unclaimed
    split
    · exact claims
    · rename_i column found
      have view : (fun col => ((state.suggestion.set column.1 (some entry.1)).get? col).join) =
          Function.update (fun col => (state.suggestion.get? col).join) column.1 (some entry.1) := by
        funext col
        rw [Table.get?_set, Function.update_apply]
        split <;> rfl
      refine ⟨?_, ?_, ?_⟩
      · rw [Mapping.Injective, view]
        exact claims.injective.update (fun other same => unclaimed (claims.claimed other _ same)) _
      · intro col target held
        have held_ := congrFun view col
        rw [held, Function.update_apply] at held_
        split at held_
        · cases held_
          exact List.mem_append_right _ (List.mem_singleton_self _)
        · exact List.mem_append_left _ (claims.claimed col target held_.symm)
      · intro col absent
        have member := known column (List.mem_of_find?_eq_some found)
        rw [Table.get?_set, if_neg (fun same => absent (by rw [same]; exact member))]
        exact claims.listed col absent

theorem Claims.turns {columns : List String} (claims : Claims columns state)
    (known : ∀ column ∈ normalizedColumns.rows, column.1 ∈ columns) (pass : Pass)
    (entries : List (String × List String)) :
    Claims columns (entries.foldl (Suggesting.turn normalizedColumns pass) state) := by
  induction entries generalizing state with
  | nil => exact claims
  | cons entry rest ih => exact ih (claims.turn known pass entry)

end Suggesting

section Suggest
variable [TextCase]

/-- The rules give no field to two columns, whatever the synonyms. -/
theorem suggestFromSynonyms_claims (synonyms : Table String (List String)) (columns : List String) :
    (suggestFromSynonyms synonyms columns).Injective ∧
      ∀ col, col ∉ columns → (suggestFromSynonyms synonyms columns).get? col = none := by
  have start : Suggesting.Claims columns
      { suggestion := Table.ofList (columns.map fun c => (c, none)) } := by
    have empty : ∀ col : String, ((Table.ofList (columns.map fun c => (c, (none : Option String)))).get?
        col).join = none := by
      intro col
      rw [Assignment.get?_ofList_map (fun _ => none)]
      split <;> rfl
    refine ⟨fun first _ target here _ => ?_, fun col target held => ?_, fun col absent => ?_⟩
    · cases (empty first).symm.trans here
    · cases (empty col).symm.trans held
    · rw [Assignment.get?_ofList_map (fun _ => none), if_neg absent]
  have known : ∀ column ∈ (Table.ofList (columns.map fun c => (c, normalize c))).rows,
      column.1 ∈ columns := by
    intro column mem
    have found := ((Table.ofList (columns.map fun c => (c, normalize c))).get?_eq_some_iff
      column.1 column.2).mpr mem
    obtain ⟨c, listed, same⟩ := List.mem_map.mp (Table.mem_of_get?_ofList found)
    rw [Prod.mk.injEq] at same
    rw [← same.1]
    exact listed
  have claims := (start.turns known .exact synonyms.rows).turns known .contains synonyms.rows
  exact ⟨claims.injective, claims.listed⟩

/-- No field is proposed for two columns exactly if no two listed columns were saved under one
field, and none was saved under the field that the rules give to another column, one that has
no saved field. -/
theorem suggest_injective_iff (synonyms : Table String (List String)) (header : Option (List String))
    (storeSettings : Option Json.Fields) :
    let columns := columnsOfHeader header
    let saved := savedTarget (savedMapping storeSettings)
    let rules := suggestFromSynonyms synonyms columns
    ((suggest synonyms header storeSettings).rows.map Prod.fst).Nodup ∧
      ((suggest synonyms header storeSettings).Injective ↔
        (∀ first ∈ columns, ∀ second ∈ columns, ∀ target, saved first = some target →
          saved second = some target → first = second) ∧
        ∀ first ∈ columns, ∀ second ∈ columns, ∀ target, saved first = none →
          rules.get? first = some (some target) → saved second ≠ some target) := by
  intro columns saved rules
  obtain ⟨injective, unlisted⟩ := suggestFromSynonyms_claims synonyms columns
  refine ⟨(suggest synonyms header storeSettings).nodup, ?_⟩
  have view : (fun col => ((suggest synonyms header storeSettings).get? col).join) =
      fun col => (if col ∈ columns then saved col else none).or (rules.get? col).join := by
    funext col
    have filled := Assignment.get?_ofList_map
      (fun col => (saved col).or (rules.get? col).join) columns col
    have same : (suggest synonyms header storeSettings).get? col = _ := filled
    rw [same]
    by_cases listed : col ∈ columns
    · rw [if_pos listed, if_pos listed]
      rfl
    · rw [if_neg listed, if_neg listed, unlisted col listed]
      rfl
  have listed_ : ∀ col target, rules.get? col = some (some target) → col ∈ columns := by
    intro col target found
    by_contra absent
    cases (unlisted col absent).symm.trans found
  rw [Mapping.Injective, view, Assignment.or_injective_iff injective]
  constructor
  · rintro ⟨above, apart⟩
    refine ⟨fun first mem second mem' target here there => ?_,
      fun first mem second mem' target silent here there => ?_⟩
    · exact above first second target ((if_pos mem).trans here) ((if_pos mem').trans there)
    · exact apart first second target ((if_pos mem).trans silent) (Option.join_eq_some_iff.mpr here)
        ((if_pos mem').trans there)
  · rintro ⟨above, apart⟩
    refine ⟨fun first second target here there => ?_, fun first second target silent here there => ?_⟩
    · obtain ⟨mem, here⟩ := Option.ite_none_right_eq_some.mp here
      obtain ⟨mem', there⟩ := Option.ite_none_right_eq_some.mp there
      exact above first mem second mem' target here there
    · have proposed := Option.join_eq_some_iff.mp here
      have mem := listed_ first target proposed
      rw [if_pos mem] at silent
      obtain ⟨mem', there⟩ := Option.ite_none_right_eq_some.mp there
      exact apart first mem second mem' target silent proposed there

end Suggest

/-- A column was saved as the phone number, and the next sheet has another that the rules take for
it: both are proposed. -/
theorem phone_and_mobile :
    ¬ (@suggest TextCase.ascii synonyms (some ["Phone", "Mobile"])
      (some [("order_import_mapping", .obj [("Mobile", .str "customer_phone")])])).Injective := by
  intro injective
  have same := injective "Phone" "Mobile" "customer_phone" (by decide +kernel) (by decide +kernel)
  exact absurd same (by decide)

end Numu.Orders.Import
