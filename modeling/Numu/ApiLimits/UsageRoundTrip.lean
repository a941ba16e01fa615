import Numu.ApiLimits.Usage
import Numu.Foundation.Run

/-! What is counted of the calls is read back, call for call. -/

namespace Numu.ApiLimits
open Numu.Orders (Time)
open Numu.Counters (bumpAll sumOf)

section Texts

theorem read_suffix (metric : Metric) : Metric.read metric.suffix = some metric := by
  cases metric <;> decide

theorem suffix_clean (metric : Metric) : separator ∉ metric.suffix.toList := by
  cases metric <;> decide

theorem suffix_of_read {suffix : String} {metric : Metric} (found : Metric.read suffix = some metric) :
    metric.suffix = suffix := by
  have here := List.find?_some found
  exact of_decide_eq_true here

theorem text_toList (key : UsageKey) : key.text.toList =
    key.tokenId.toList ++ separator :: (key.method.toList ++ separator :: key.route.toList) := by
  simp [UsageKey.text]

theorem fieldText_toList (base : String) (metric : Metric) :
    (fieldText base metric).toList = base.toList ++ separator :: metric.suffix.toList := by
  simp [fieldText]

theorem readField_fieldText (base : String) (metric : Metric) :
    readField (fieldText base metric) = (readKey base.toList).map fun key => (key, metric) := by
  rw [readField, fieldText_toList, Separated.rsplitOnce_append (suffix_clean metric)]
  dsimp only
  rw [String.ofList_toList, read_suffix, Option.map_eq_bind]
  rfl

theorem text_of_readKey {base : List Char} {key : UsageKey} (found : readKey base = some key) :
    key.text.toList = base := by
  rw [readKey] at found
  split at found
  · rename_i tokenId method route parts
    cases found
    rw [text_toList, Separated.eq_of_split_two parts]
    simp
  · cases found

/-- A field is the text of what it reads as. -/
theorem eq_of_readField {field : String} {key : UsageKey} {metric : Metric}
    (found : readField field = some (key, metric)) : field = fieldText key.text metric := by
  rw [readField] at found
  split at found
  · rename_i base suffix parts
    obtain ⟨key', base_, found⟩ := Option.bind_eq_some_iff.mp found
    obtain ⟨metric', read, same⟩ := Option.map_eq_some_iff.mp found
    cases same
    apply String.toList_injective
    rw [fieldText_toList, text_of_readKey base_, suffix_of_read read, String.toList_ofList]
    exact Separated.eq_of_rsplitOnce parts
  · cases found

/-- A key reads back as itself where only its route may hold the separator. -/
theorem readKey_text {key : UsageKey} (clean : separator ∉ key.tokenId.toList)
    (clean' : separator ∉ key.method.toList) : readKey key.text.toList = some key := by
  rw [readKey, text_toList, Separated.split_two clean clean']
  dsimp only
  rw [String.ofList_toList, String.ofList_toList, String.ofList_toList]

/-- Every key reads back as some key. -/
theorem isSome_readKey_text (key : UsageKey) : (readKey key.text.toList).isSome := by
  obtain ⟨head, middle, last, parts⟩ := @Separated.exists_split_two _ _ separator
    key.tokenId.toList key.method.toList key.route.toList
  rw [readKey, text_toList, parts]
  rfl

end Texts

section Parsing

theorem UsageRow.ext_get {row row' : UsageRow} (same : ∀ metric, row.get metric = row'.get metric) :
    row = row' := by
  cases row
  cases row'
  simpa using ⟨same .requests, same .latencyMsSum, same .errors4xx, same .errors5xx, same .throttled⟩

theorem UsageRow.get_put (row : UsageRow) (metric other : Metric) (value : Int) :
    (row.put metric value).get other = if other = metric then value else row.get other := by
  cases metric <;> cases other <;> rfl

@[simp] theorem UsageRow.get_zero (metric : Metric) : UsageRow.get {} metric = 0 := by
  cases metric <;> rfl

/-- The fields that read as a key, and those of them for a metric. -/
def ofKey (key : UsageKey) (field : String) : Bool :=
  (readField field).map Prod.fst = some key

def ofMetric (key : UsageKey) (metric : Metric) (field : String) : Bool :=
  readField field = some (key, metric)

def rowFor (key : UsageKey) (entries : List (String × Int)) : UsageRow where
  requests := sumOf (ofMetric key .requests) entries
  latencyMsSum := sumOf (ofMetric key .latencyMsSum) entries
  errors4xx := sumOf (ofMetric key .errors4xx) entries
  errors5xx := sumOf (ofMetric key .errors5xx) entries
  throttled := sumOf (ofMetric key .throttled) entries

theorem get_rowFor (key : UsageKey) (entries : List (String × Int)) (metric : Metric) :
    (rowFor key entries).get metric = sumOf (ofMetric key metric) entries := by
  cases metric <;> rfl

theorem ofKey_of_ofMetric {key : UsageKey} {metric : Metric} {field : String}
    (found : ofMetric key metric field = true) : ofKey key field = true := by
  rw [ofMetric, decide_eq_true_eq] at found
  rw [ofKey, found]
  exact decide_eq_true rfl

/-- The row of a key, if some entry is under it. -/
def readRow (key : UsageKey) (entries : List (String × Int)) : Option UsageRow :=
  if (entries.any fun entry => ofKey key entry.1) = true then some (rowFor key entries) else none

/-- What a table of rows holds of the entries that were read. -/
def Reads (rows : Table UsageKey UsageRow) (entries : List (String × Int)) : Prop :=
  ∀ key, rows.get? key = readRow key entries

theorem sumOf_ofMetric_concat (key : UsageKey) (metric : Metric) (entries : List (String × Int))
    (field : String) (value : Int) :
    sumOf (ofMetric key metric) (entries ++ [(field, value)]) =
      sumOf (ofMetric key metric) entries + if ofMetric key metric field then value else 0 := by
  rw [Counters.sumOf_append, Counters.sumOf_cons, Counters.sumOf_nil, Int.add_zero]

/-- A field of another key, or of none, is nothing to a row. -/
theorem readRow_skip {key : UsageKey} {field : String} (missed : ofKey key field = false)
    (entries : List (String × Int)) (value : Int) :
    readRow key (entries ++ [(field, value)]) = readRow key entries := by
  have same : rowFor key (entries ++ [(field, value)]) = rowFor key entries := by
    apply UsageRow.ext_get
    intro metric
    have missed' : ofMetric key metric field = false := by
      by_contra found
      rw [ofKey_of_ofMetric (by simpa using found)] at missed
      cases missed
    rw [get_rowFor, get_rowFor, sumOf_ofMetric_concat, missed']
    simp
  rw [readRow, readRow, same, List.any_append, List.any_cons, List.any_nil, missed, Bool.or_false,
    Bool.or_false]

/-- A row that is not there reads as one without any count. -/
theorem getD_readRow (key : UsageKey) (entries : List (String × Int)) :
    (readRow key entries).getD {} = rowFor key entries := by
  rw [readRow]
  split
  · rfl
  · rename_i absent
    apply UsageRow.ext_get
    intro metric
    rw [Option.getD_none, UsageRow.get_zero, get_rowFor, Counters.sumOf_eq_zero]
    intro entry mem
    by_contra found
    exact absurd (List.any_eq_true.mpr ⟨entry, mem, ofKey_of_ofMetric (by simpa using found)⟩) absent

/-- A field that was not read before is put where its row had nothing. -/
theorem readRow_field {key : UsageKey} {metric : Metric} {field : String}
    (found : readField field = some (key, metric)) {entries : List (String × Int)}
    (fresh : field ∉ entries.map Prod.fst) (value : Int) :
    readRow key (entries ++ [(field, value)]) = some ((rowFor key entries).put metric value) := by
  have hit : ofKey key field = true := by simp [ofKey, found]
  rw [readRow, if_pos (by simp [hit])]
  congr 1
  apply UsageRow.ext_get
  intro other
  rw [UsageRow.get_put, get_rowFor, get_rowFor, sumOf_ofMetric_concat]
  by_cases same : other = metric
  · subst same
    have untouched : sumOf (ofMetric key other) entries = 0 := by
      apply Counters.sumOf_eq_zero
      intro entry mem
      by_contra reads
      have reads : readField entry.1 = some (key, other) := by simpa [ofMetric] using reads
      have twice : entry.1 = field := (eq_of_readField reads).trans (eq_of_readField found).symm
      exact fresh (twice ▸ List.mem_map_of_mem mem)
    rw [if_pos rfl, untouched, if_pos (by simp [ofMetric, found]), Int.zero_add]
  · have missed : ofMetric key other field = false := by simp [ofMetric, found, Ne.symm same]
    rw [if_neg same, missed]
    simp

theorem Reads.field {rows : Table UsageKey UsageRow} {entries : List (String × Int)}
    (reads : Reads rows entries) {field : String} (fresh : field ∉ entries.map Prod.fst) (value : Int) :
    ∃ rows', parseField rows (field, IntegerText.writeInt value) = some rows' ∧
      Reads rows' (entries ++ [(field, value)]) := by
  rw [parseField]
  cases found : readField field with
  | none =>
      refine ⟨rows, rfl, fun key => ?_⟩
      rw [readRow_skip (by simp [ofKey, found]), reads key]
  | some place =>
      obtain ⟨key, metric⟩ := place
      dsimp only
      rw [IntegerText.readInt_writeInt, Option.map_some]
      refine ⟨_, rfl, fun other => ?_⟩
      rw [Table.get?_set, reads key, getD_readRow]
      by_cases here : other = key
      · rw [if_pos here, here, readRow_field found fresh]
      · rw [if_neg here, readRow_skip (by simp [ofKey, found, Ne.symm here]), reads other]

/-- The fields of a hash read as one row a key, of the sums of what is under it. -/
theorem parseUsage_reads {entries : List (String × Int)} (distinct : (entries.map Prod.fst).Nodup) :
    ∃ rows, parseUsage (entries.map fun entry => (entry.1, IntegerText.writeInt entry.2)) =
      some rows ∧ Reads rows entries := by
  induction entries using List.reverseRecOn with
  | nil => exact ⟨.empty, rfl, fun _ => rfl⟩
  | append_singleton entries entry ih =>
      rw [List.map_append, List.map_singleton, List.nodup_append'] at distinct
      obtain ⟨before, -, apart⟩ := distinct
      obtain ⟨rows, parsed, reads⟩ := ih before
      have fresh : entry.1 ∉ entries.map Prod.fst := fun mem => apart mem (List.mem_singleton.mpr rfl)
      obtain ⟨rows', field, reads'⟩ := reads.field fresh entry.2
      refine ⟨rows', ?_, reads'⟩
      rw [parseUsage] at parsed ⊢
      rw [List.map_append, List.foldlM_append, parsed]
      simpa using field

end Parsing

section Keys

theorem dayText_injective {first second : Time}
    (same : dayText (Calendar.monthAndDay first) = dayText (Calendar.monthAndDay second)) :
    Calendar.monthAndDay first = Calendar.monthAndDay second := by
  have days (time : Time) : (Calendar.padded 2 ((Calendar.monthAndDay time).2 + 1)).length = 2 := by
    have below := (Calendar.monthAndDay_spec time).1
    have most := Calendar.daysIn_le (Calendar.month time)
    exact Serial.length_padded (by omega)
  have months (time : Time) :
      (Calendar.padded 2 (Calendar.monthOfYear (Calendar.monthAndDay time).1)).length = 2 := by
    apply Serial.length_padded
    rw [Calendar.monthOfYear]
    omega
  obtain ⟨rest, day⟩ := List.append_inj' same (by rw [days, days])
  obtain ⟨year, month⟩ := List.append_inj' rest (by rw [months, months])
  have year := Calendar.padded_injective year
  have month := Calendar.padded_injective month
  have day := Calendar.padded_injective day
  rw [Calendar.yearOf, Calendar.yearOf] at year
  rw [Calendar.monthOfYear, Calendar.monthOfYear] at month
  apply Prod.ext
  · omega
  · omega

theorem colon_not_mem_dayText (date : Nat × Nat) : ':' ∉ dayText date := by
  have digits : ∀ c ∈ dayText date, c.isDigit := by
    intro c mem
    rw [dayText, List.mem_append, List.mem_append] at mem
    rcases mem with (year | month) | day
    · exact Calendar.padded_isDigit _ _ c year
    · exact Calendar.padded_isDigit _ _ c month
    · exact Calendar.padded_isDigit _ _ c day
  intro mem
  cases digits ':' mem

/-- The key of a hash tells the tenant, whatever its id, and the day. -/
theorem usageKey_eq_iff {tenantId tenantId' : String} {first second : Time} :
    usageKey tenantId (Calendar.monthAndDay first) = usageKey tenantId' (Calendar.monthAndDay second) ↔
      tenantId = tenantId' ∧ Calendar.monthAndDay first = Calendar.monthAndDay second := by
  constructor
  · intro same
    have chars := congrArg String.toList same
    simp only [usageKey, String.toList_append, String.toList_ofList, List.append_assoc] at chars
    have parts := List.append_cancel_left chars
    have last (tenantId : String) (time : Time) : Separated.cutLast ':'
        (tenantId.toList ++ ':' :: dayText (Calendar.monthAndDay time)) =
          some (tenantId.toList, dayText (Calendar.monthAndDay time)) :=
      Separated.cutLast_append (colon_not_mem_dayText _)
    have cut := (last tenantId first).symm.trans ((congrArg _ parts).trans (last tenantId' second))
    rw [Option.some.injEq, Prod.mk.injEq] at cut
    exact ⟨String.toList_injective cut.1, dayText_injective cut.2⟩
  · rintro ⟨rfl, days⟩
    rw [days]

end Keys

section Calls
variable [LetterCase]

/-- What a call adds to the hash of its tenant and its day. -/
def UsageCall.entries (call : UsageCall) : List (String × Int) :=
  [(fieldText call.base .requests, 1),
    (fieldText call.base .latencyMsSum, Binary64.truncate call.ms)] ++
      (errorMetric call.status).toList.map fun metric => (fieldText call.base metric, 1)

omit [LetterCase] in
theorem UsageBuffer.hash_hincrby (buffer : UsageBuffer) (key field : String) (amount : Int)
    (other : String) : (buffer.hincrby key field amount).hash other =
      if other = key then Counters.bump (buffer.hash key) field amount else buffer.hash other := by
  rw [hash, hincrby, Table.get?_set]
  split <;> rfl

theorem hash_queueUsage (buffer : UsageBuffer) (call : UsageCall) (key : String) :
    (queueUsage buffer call).hash key =
      if usageKey call.tenantId (Calendar.monthAndDay call.now) = key then
        bumpAll (buffer.hash key) call.entries
      else buffer.hash key := by
  have kept (buffer : UsageBuffer) (key' : String) (ttl : Nat) :
      ((buffer.expire key' ttl).sadd key').hash key = buffer.hash key := rfl
  rw [queueUsage, kept, UsageCall.entries]
  by_cases here : usageKey call.tenantId (Calendar.monthAndDay call.now) = key
  · subst here
    cases errorMetric call.status with
    | none => simp [UsageBuffer.hash_hincrby, bumpAll]
    | some metric => simp [UsageBuffer.hash_hincrby, bumpAll]
  · cases errorMetric call.status with
    | none => simp [UsageBuffer.hash_hincrby, here, Ne.symm here]
    | some metric => simp [UsageBuffer.hash_hincrby, here, Ne.symm here]

/-- A hash takes the entries of its own calls and of no other. -/
theorem hash_run (buffer : UsageBuffer) (calls : List UsageCall) (key : String) :
    (Run.run queueUsage buffer calls).hash key = bumpAll (buffer.hash key)
      ((calls.filter fun call =>
        usageKey call.tenantId (Calendar.monthAndDay call.now) = key).flatMap UsageCall.entries) := by
  induction calls generalizing buffer with
  | nil => rfl
  | cons call calls ih =>
      rw [Run.run_cons, ih, hash_queueUsage, List.filter_cons]
      by_cases here : usageKey call.tenantId (Calendar.monthAndDay call.now) = key
      · rw [if_pos here, if_pos (decide_eq_true here), List.flatMap_cons, Counters.bumpAll_append]
      · rw [if_neg here, if_neg (by simp [here])]

/-- The key that the fields of a call read as. -/
def UsageCall.readsAs (call : UsageCall) : Option UsageKey := readKey call.base.toList

/-- What a call counts for a metric. -/
def UsageCall.amount (call : UsageCall) : Metric → Int
  | .requests => 1
  | .latencyMsSum => Binary64.truncate call.ms
  | .errors4xx => if 400 ≤ call.status ∧ call.status < 500 ∧ call.status ≠ 429 then 1 else 0
  | .errors5xx => if 500 ≤ call.status then 1 else 0
  | .throttled => if call.status = 429 then 1 else 0

/-- The row that a list of calls comes to. -/
def UsageRow.of (calls : List UsageCall) : UsageRow where
  requests := calls.length
  latencyMsSum := (calls.map fun call => Binary64.truncate call.ms).sum
  errors4xx := (calls.filter fun call =>
    400 ≤ call.status ∧ call.status < 500 ∧ call.status ≠ 429).length
  errors5xx := (calls.filter fun call => 500 ≤ call.status).length
  throttled := (calls.filter fun call => call.status = 429).length

omit [LetterCase] in
theorem sum_indicator {α : Type*} (P : α → Prop) [DecidablePred P] (rows : List α) :
    (rows.map fun row => if P row then (1 : Int) else 0).sum =
      (rows.filter fun row => P row).length := by
  induction rows with
  | nil => rfl
  | cons row rows ih =>
      rw [List.map_cons, List.sum_cons, ih, List.filter_cons]
      by_cases here : P row
      · rw [if_pos here, if_pos (decide_eq_true here), List.length_cons, Nat.cast_succ, Int.add_comm]
      · rw [if_neg here, if_neg (by simp [here]), Int.zero_add]

omit [LetterCase] in
theorem UsageRow.get_of (calls : List UsageCall) (metric : Metric) :
    (UsageRow.of calls).get metric = (calls.map fun call => call.amount metric).sum := by
  cases metric with
  | requests => simp [UsageRow.of, UsageRow.get, UsageCall.amount]
  | latencyMsSum => rfl
  | errors4xx => exact (sum_indicator _ calls).symm
  | errors5xx => exact (sum_indicator _ calls).symm
  | throttled => exact (sum_indicator _ calls).symm

theorem ofMetric_entry (call : UsageCall) (key : UsageKey) (metric other : Metric) :
    ofMetric key metric (fieldText call.base other) = true ↔
      call.readsAs = some key ∧ other = metric := by
  rw [ofMetric, decide_eq_true_eq, readField_fieldText, ← UsageCall.readsAs, Option.map_eq_some_iff]
  constructor
  · rintro ⟨key', reads, same⟩
    cases same
    exact ⟨reads, rfl⟩
  · rintro ⟨reads, rfl⟩
    exact ⟨key, reads, rfl⟩

theorem ofKey_entry (call : UsageCall) (key : UsageKey) (metric : Metric) :
    ofKey key (fieldText call.base metric) = true ↔ call.readsAs = some key := by
  rw [ofKey, decide_eq_true_eq, readField_fieldText, ← UsageCall.readsAs]
  cases call.readsAs <;> simp

omit [LetterCase] in
theorem errorMetric_eq_some_iff (status : Int) (metric : Metric) :
    errorMetric status = some metric ↔
      match metric with
      | .requests | .latencyMsSum => False
      | .errors4xx => 400 ≤ status ∧ status < 500 ∧ status ≠ 429
      | .errors5xx => 500 ≤ status
      | .throttled => status = 429 := by
  rw [errorMetric]
  cases metric <;> split_ifs <;> simp <;> omega

/-- The fields of a call give its key what the call counts, and other keys nothing. -/
theorem sumOf_entries (call : UsageCall) (key : UsageKey) (metric : Metric) :
    sumOf (ofMetric key metric) call.entries =
      if call.readsAs = some key then call.amount metric else 0 := by
  by_cases reads : call.readsAs = some key
  · have field (other : Metric) :
        ofMetric key metric (fieldText call.base other) = decide (other = metric) := by
      rw [Bool.eq_iff_iff, ofMetric_entry, decide_eq_true_eq, and_iff_right reads]
    have error : sumOf (ofMetric key metric)
        ((errorMetric call.status).toList.map fun other => (fieldText call.base other, 1)) =
          if errorMetric call.status = some metric then 1 else 0 := by
      cases errorMetric call.status with
      | none => rfl
      | some other => simp [Counters.sumOf_cons, field]
    rw [if_pos reads, UsageCall.entries, Counters.sumOf_append, Counters.sumOf_cons,
      Counters.sumOf_cons, Counters.sumOf_nil, field, field, error]
    cases metric <;> simp [UsageCall.amount, errorMetric_eq_some_iff]
  · rw [if_neg reads]
    apply Counters.sumOf_eq_zero
    intro entry mem
    rw [UsageCall.entries, List.mem_append, List.mem_map] at mem
    have other (field : Metric) : ofMetric key metric (fieldText call.base field) = false := by
      by_contra found
      exact reads ((ofMetric_entry call key metric field).mp (by simpa using found)).1
    rcases mem with first | ⟨field, -, rfl⟩
    · rcases List.mem_cons.mp first with rfl | second
      · exact other _
      · rw [List.mem_singleton.mp second]
        exact other _
    · exact other field

theorem any_ofKey_entries (call : UsageCall) (key : UsageKey) :
    (call.entries.any fun entry => ofKey key entry.1) = true ↔ call.readsAs = some key := by
  rw [List.any_eq_true]
  constructor
  · rintro ⟨entry, mem, found⟩
    rw [UsageCall.entries, List.mem_append, List.mem_map] at mem
    rcases mem with first | ⟨field, -, rfl⟩
    · rcases List.mem_cons.mp first with rfl | second
      · exact (ofKey_entry call key _).mp found
      · rw [List.mem_singleton.mp second] at found
        exact (ofKey_entry call key _).mp found
    · exact (ofKey_entry call key field).mp found
  · intro reads
    refine ⟨(fieldText call.base .requests, 1), ?_, (ofKey_entry call key _).mpr reads⟩
    exact List.mem_append_left _ List.mem_cons_self

/-- The calls that are counted under a key. -/
def countedUnder (key : UsageKey) (calls : List UsageCall) : List UsageCall :=
  calls.filter fun call => call.readsAs = some key

theorem sumOf_calls (key : UsageKey) (metric : Metric) (calls : List UsageCall) :
    sumOf (ofMetric key metric) (calls.flatMap UsageCall.entries) =
      (UsageRow.of (countedUnder key calls)).get metric := by
  rw [Counters.sumOf_flatMap, UsageRow.get_of, countedUnder]
  induction calls with
  | nil => rfl
  | cons call calls ih =>
      rw [List.map_cons, List.sum_cons, ih, sumOf_entries, List.filter_cons]
      by_cases reads : call.readsAs = some key
      · rw [if_pos reads, if_pos (decide_eq_true reads), List.map_cons, List.sum_cons]
      · rw [if_neg reads, if_neg (by simp [reads]), Int.zero_add]

theorem any_calls (key : UsageKey) (calls : List UsageCall) :
    ((calls.flatMap UsageCall.entries).any fun entry => ofKey key entry.1) = true ↔
      countedUnder key calls ≠ [] := by
  rw [List.any_flatMap, List.any_eq_true, countedUnder, Ne, List.filter_eq_nil_iff]
  push Not
  constructor
  · rintro ⟨call, mem, found⟩
    exact ⟨call, mem, decide_eq_true ((any_ofKey_entries call key).mp found)⟩
  · rintro ⟨call, mem, reads⟩
    exact ⟨call, mem, (any_ofKey_entries call key).mpr (of_decide_eq_true reads)⟩

/-- A hash that took the entries of some calls reads as the rows that the calls come to. -/
theorem readRow_bumpAll (key : UsageKey) (calls : List UsageCall) :
    readRow key (bumpAll .empty (calls.flatMap UsageCall.entries)).rows =
      if countedUnder key calls = [] then none else some (UsageRow.of (countedUnder key calls)) := by
  have row : rowFor key (bumpAll .empty (calls.flatMap UsageCall.entries)).rows =
      UsageRow.of (countedUnder key calls) := by
    apply UsageRow.ext_get
    intro metric
    rw [get_rowFor, Counters.sumOf_bumpAll, sumOf_calls]
    exact Int.zero_add _
  rw [readRow, row, Counters.any_bumpAll]
  by_cases none_ : countedUnder key calls = []
  · rw [if_pos none_, if_neg]
    intro found
    exact (any_calls key calls).mp found none_
  · rw [if_neg none_, if_pos]
    exact (any_calls key calls).mpr none_

/-- The calls of a tenant on the day of an instant. -/
def callsOn (tenantId : String) (now : Time) (calls : List UsageCall) : List UsageCall :=
  calls.filter fun call =>
    call.tenantId = tenantId ∧ Calendar.monthAndDay call.now = Calendar.monthAndDay now

theorem parseUsage_run (calls : List UsageCall) (tenantId : String) (now : Time) :
    ∃ rows, parseUsage ((Run.run queueUsage {} calls).hgetall
        (usageKey tenantId (Calendar.monthAndDay now))) = some rows ∧
      ∀ key, rows.get? key =
        let counted := countedUnder key (callsOn tenantId now calls)
        if counted = [] then none else some (UsageRow.of counted) := by
  let key := usageKey tenantId (Calendar.monthAndDay now)
  obtain ⟨rows, parsed, reads⟩ := parseUsage_reads ((Run.run queueUsage {} calls).hash key).nodup
  refine ⟨rows, parsed, fun place => ?_⟩
  have mine : (calls.filter fun call => usageKey call.tenantId (Calendar.monthAndDay call.now) = key) =
      callsOn tenantId now calls := by
    apply List.filter_congr
    intro call _
    exact decide_eq_decide.mpr usageKey_eq_iff
  have initial : UsageBuffer.hash {} key = .empty := rfl
  rw [reads place, hash_run, initial, readRow_bumpAll, mine]

/-- Whatever was queued, the hash of a tenant and a day reads as one row for each key of its calls,
and the row is what these calls come to. A call is under its token, its method and the first 200
characters of its route, separators in it or not; a separator in the token or the method parts it. -/
theorem usage_round_trip (calls : List UsageCall) (tenantId : String) (now : Time) :
    (∃ rows, parseUsage ((Run.run queueUsage {} calls).hgetall
        (usageKey tenantId (Calendar.monthAndDay now))) = some rows ∧
      ∀ key, rows.get? key =
        let counted := countedUnder key (callsOn tenantId now calls)
        if counted = [] then none else some (UsageRow.of counted)) ∧
      ∀ call : UsageCall, call.readsAs.isSome ∧
        (separator ∉ call.tokenId.toList → separator ∉ (LetterCase.upper call.method).toList →
          call.readsAs = some
            { tokenId := call.tokenId
              method := LetterCase.upper call.method
              route := String.ofList (call.route.toList.take 200) }) := by
  refine ⟨parseUsage_run calls tenantId now, fun call => ⟨isSome_readKey_text _, ?_⟩⟩
  intro clean clean'
  exact readKey_text clean clean'

end Calls

/-- A call of a route of 201 characters that ends in the given one. -/
def longCall (last : Char) : UsageCall where
  tenantId := "t"
  tokenId := "k"
  method := "get"
  route := String.ofList (List.replicate 200 'a' ++ [last])
  status := 200
  ms := 10
  now := 0

def longKey : UsageKey where
  tokenId := "k"
  method := "GET"
  route := String.ofList (List.replicate 200 'a')

theorem readsAs_longCall (last : Char) : @UsageCall.readsAs .ascii (longCall last) = some longKey := by
  have cut : (longCall last).route.toList.take 200 = List.replicate 200 'a' := by
    rw [longCall, String.toList_ofList, List.take_left' List.length_replicate]
  have upper : @LetterCase.upper .ascii "get" = "GET" := by decide +kernel
  have base : @UsageCall.base .ascii (longCall last) = longKey.text := by
    change UsageKey.text
      { tokenId := "k"
        method := @LetterCase.upper .ascii "get"
        route := String.ofList ((longCall last).route.toList.take 200) } = _
    rw [cut, upper]
    rfl
  change readKey (@UsageCall.base .ascii (longCall last)).toList = _
  rw [base]
  exact readKey_text (by decide) (by decide)

/-- Two routes that differ in their last character alone share a row. -/
theorem long_routes_merge : (longCall 'x').route ≠ (longCall 'y').route ∧
    ∃ rows, parseUsage ((Run.run (@queueUsage .ascii) {} [longCall 'x', longCall 'y']).hgetall
      (usageKey "t" (Calendar.monthAndDay 0))) = some rows ∧
        rows.get? longKey = some { requests := 2, latencyMsSum := 20 } := by
  constructor
  · intro same
    have last := List.append_cancel_left (String.ofList_injective same)
    cases last
  · obtain ⟨rows, parsed, reads⟩ :=
      @parseUsage_run .ascii [longCall 'x', longCall 'y'] "t" 0
    have mine : callsOn "t" 0 [longCall 'x', longCall 'y'] = [longCall 'x', longCall 'y'] := rfl
    have counted : @countedUnder .ascii longKey [longCall 'x', longCall 'y'] =
        [longCall 'x', longCall 'y'] := by
      apply List.filter_eq_self.mpr
      intro call mem
      rcases List.mem_cons.mp mem with rfl | mem
      · exact decide_eq_true (readsAs_longCall 'x')
      · rw [List.mem_singleton.mp mem]
        exact decide_eq_true (readsAs_longCall 'y')
    refine ⟨rows, parsed, ?_⟩
    rw [reads longKey, mine, counted]
    rfl

end Numu.ApiLimits
