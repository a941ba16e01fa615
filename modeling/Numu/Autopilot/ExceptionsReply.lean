import Mathlib.Data.Nat.Digits.Defs
import Numu.Foundation.IntegerText
import Numu.Foundation.Words
import Numu.Stock.StockService

/-!
# Replies that except orders from a digest

`parseReply` reads the numbers of a merchant's reply, and `ReadsAs` is the grammar of what it reads.
A text that the grammar has no reading for changes nothing.
-/

namespace Numu.Autopilot
open IntegerText (decimalValue isDecimal isSpace maxStrDigits readInt readLimited strip)
open Stock (TextCase)
open Words (Ends FirstAppearances addNew trim words)

/-- `_EXCEPT_KEYWORDS`. -/
def exceptKeywords : List String := ["except", "الا", "إلا", "ماعدا", "ما عدا", "بدون"]

/-- `_ARABIC_INDIC` and `_EASTERN_ARABIC`. -/
def arabicIndic : List Char := "٠١٢٣٤٥٦٧٨٩".toList

def easternArabic : List Char := "۰۱۲۳۴۵۶۷۸۹".toList

/-- `_normalize_digits`: each digit in turn is replaced throughout the text. -/
def normalizeDigits (text : List Char) : List Char :=
  [arabicIndic, easternArabic].foldl
    (fun text digits => digits.zipIdx.foldl
      (fun text digit => text.map fun c => if c = digit.1 then digit.2.digitChar else c) text) text

/-- `[,،\s\.]`. -/
def isSeparator (c : Char) : Bool := c = ',' || c = '،' || isSpace c || c = '.'

/-- The first keyword that the text begins with is dropped. -/
def dropKeyword (keywords : List String) (text : List Char) : List Char :=
  match keywords.find? fun keyword => keyword.toList.isPrefixOf text with
  | some keyword => text.drop keyword.toList.length
  | none => text

def isColon (c : Char) : Bool := c = ':'

/-- The loop over the parts. -/
def collectNumbers (validNumbers : List Int) (numbers : List Int) : List (List Char) → Option (List Int)
  | [] => some numbers
  | part :: parts =>
      match readLimited part with
      | none => none
      | some n =>
          if n ∉ validNumbers then none
          else collectNumbers validNumbers (addNew numbers n) parts

section Parser
variable [TextCase]

def parseReply (keywords : List String) (text : String) (validNumbers : List Int) :
    Option (List Int) :=
  if text = "" then none
  else
    let normalized := normalizeDigits (TextCase.lower (String.ofList (strip text.toList))).toList
    let normalized := strip (trim isColon (strip (dropKeyword keywords normalized)))
    if normalized = [] then none
    else if ¬ normalized.all fun c => isDecimal c || isSeparator c then none
    else
      let parts := words isSeparator normalized
      if parts = [] then none
      else (collectNumbers validNumbers [] parts).filter (· ≠ [])

/-- `parse_exceptions_reply`. -/
def parseExceptionsReply (text : String) (validNumbers : List Int) : Option (List Int) :=
  parseReply exceptKeywords text validNumbers

end Parser

/-- The digit of a Latin text for an Arabic-Indic or Eastern Arabic one. -/
def latinDigit (c : Char) : Char :=
  if c ∈ arabicIndic then (arabicIndic.idxOf c).digitChar
  else if c ∈ easternArabic then (easternArabic.idxOf c).digitChar
  else c

/-- The number that decimal digits of any script write. -/
def digitsValue (digits : List Char) : Nat :=
  Nat.ofDigits 10 (digits.filterMap decimalValue).reverse

/-- Digits write a number, few enough of them. -/
structure WritesNumber (digits : List Char) (n : Int) : Prop where
  solid : digits ≠ []
  decimal : ∀ c ∈ digits, isDecimal c = true
  short : digits.length ≤ maxStrDigits
  value : n = digitsValue digits

/-- Numbers with separators between them, and any before and after. -/
inductive ListsNumbers : List Char → List Int → Prop
  | done {gap : List Char} (blank : ∀ c ∈ gap, isSeparator c = true) : ListsNumbers gap []
  | number {gap digits rest : List Char} {n : Int} {listed : List Int}
      (blank : ∀ c ∈ gap, isSeparator c = true) (written : WritesNumber digits n)
      (ends : Ends isSeparator rest) (others : ListsNumbers rest listed) :
      ListsNumbers (gap ++ (digits ++ rest)) (n :: listed)

/-- A list of numbers within white space and, inside of that, colons. -/
structure Encloses (text body : List Char) : Prop where
  parts : ∃ gap colons colons' gap', text = gap ++ ((colons ++ (body ++ colons')) ++ gap') ∧
    (∀ c ∈ gap, isSpace c = true) ∧ (∀ c ∈ colons, isColon c = true) ∧
    (∀ c ∈ colons', isColon c = true) ∧ ∀ c ∈ gap', isSpace c = true

/-- What a text begins with: the first of the keywords that it begins with, if there is any. -/
def LeadsIn (keywords : List String) (lead text : List Char) : Prop :=
  (∃ before keyword after, keywords = before ++ keyword :: after ∧ lead = keyword.toList ∧
    lead <+: text ∧ ∀ earlier ∈ before, ¬ earlier.toList <+: text) ∨
  (lead = [] ∧ ∀ keyword ∈ keywords, ¬ keyword.toList <+: text)

/-- The grammar of a reply: an optional keyword and a list of numbers. -/
def ReadsAs (keywords : List String) (text : List Char) (listed : List Int) : Prop :=
  ∃ lead rest body, text = lead ++ rest ∧ LeadsIn keywords lead text ∧ Encloses rest body ∧
    ListsNumbers body listed

section Digits
variable {c : Char} {digits : List Char} {n : Int}

theorem decimalValue_of_space (space : isSpace c = true) : decimalValue c = none := by
  have apart : ∀ code ∈ IntegerText.whiteSpace, ∀ base ∈ IntegerText.decimalZeros,
      ¬ (base ≤ code ∧ code < base + 10) := by decide
  rw [isSpace, List.contains_eq_mem, decide_eq_true_eq] at space
  rw [decimalValue, List.find?_eq_none.mpr, Option.map_none]
  intro base mem within
  rw [Bool.and_eq_true, decide_eq_true_eq, decide_eq_true_eq] at within
  exact apart c.toNat space base mem within

theorem not_separator_of_decimal (decimal : isDecimal c = true) : isSeparator c = false := by
  rw [isDecimal, Option.isSome_iff_ne_none] at decimal
  rw [Bool.eq_false_iff]
  intro separator
  apply decimal
  simp only [isSeparator, Bool.or_eq_true, decide_eq_true_eq] at separator
  rcases separator with ((rfl | rfl) | space) | rfl
  · decide
  · decide
  · exact decimalValue_of_space space
  · decide

theorem separator_of_space (space : isSpace c = true) : isSeparator c = true := by
  simp [isSeparator, space]

theorem not_colon (allowed : isDecimal c = true ∨ isSeparator c = true) : isColon c = false := by
  rw [isColon, decide_eq_false_iff_not]
  rintro rfl
  revert allowed
  decide

theorem not_space_of_colon (colon : isColon c = true) : isSpace c = false := by
  rw [isColon, decide_eq_true_eq] at colon
  rw [colon]
  decide

theorem readDigits_decimals (decimal : ∀ c ∈ digits, isDecimal c = true) (acc : Nat) :
    IntegerText.readDigits acc digits =
      some ((digits.filterMap decimalValue).foldl (fun acc d => 10 * acc + d) acc) := by
  induction digits generalizing acc with
  | nil => rfl
  | cons c digits ih =>
      have first := decimal c List.mem_cons_self
      obtain ⟨d, value⟩ := Option.isSome_iff_exists.mp first
      have plain : c ≠ '_' := by
        rintro rfl
        exact absurd first (by decide)
      have step : IntegerText.readDigits acc (c :: digits) =
          (decimalValue c).bind fun d => IntegerText.readDigits (10 * acc + d) digits := by
        rw [IntegerText.readDigits]
        intro c' rest' same _
        exact plain same
      rw [step, value, Option.bind_some, ih fun d mem => decimal d (List.mem_cons_of_mem _ mem),
        List.filterMap_cons_some value, List.foldl_cons]

theorem ofDigits_reverse (values : List Nat) :
    Nat.ofDigits 10 values.reverse = values.foldl (fun acc d => 10 * acc + d) 0 := by
  rw [Nat.ofDigits_eq_foldr, List.foldr_reverse]
  congr 1
  funext acc d
  exact Nat.add_comm _ _

theorem readInt_decimals (solid : digits ≠ []) (decimal : ∀ c ∈ digits, isDecimal c = true) :
    readInt (String.ofList digits) = some (digitsValue digits : Int) := by
  have clean : ∀ c ∈ digits, isSpace c = false := by
    intro c mem
    rw [Bool.eq_false_iff]
    intro space
    have first := decimal c mem
    rw [isDecimal, decimalValue_of_space space] at first
    cases first
  cases digits with
  | nil => exact absurd rfl solid
  | cons c digits =>
      have first := decimal c List.mem_cons_self
      obtain ⟨d, value⟩ := Option.isSome_iff_exists.mp first
      have read : IntegerText.readNat (c :: digits) =
          some (digitsValue (c :: digits)) := by
        rw [digitsValue, ofDigits_reverse, List.filterMap_cons_some value, List.foldl_cons, Nat.mul_zero,
          Nat.zero_add, IntegerText.readNat, value, Option.bind_some,
          readDigits_decimals fun d mem => decimal d (List.mem_cons_of_mem _ mem)]
      rw [readInt, String.toList_ofList, IntegerText.strip_eq_self _ clean]
      split
      · rename_i same
        cases same
        exact absurd first (by decide)
      · rename_i same
        cases same
        exact absurd first (by decide)
      · rw [read]
        rfl

theorem readLimited_eq_some_iff (solid : digits ≠ []) (decimal : ∀ c ∈ digits, isDecimal c = true) :
    readLimited digits = some n ↔ WritesNumber digits n := by
  rw [readLimited, List.countP_eq_length.mpr decimal, readInt_decimals solid decimal]
  split
  · rename_i long
    refine iff_of_false (fun same => ?_) fun written => absurd written.short (not_le.mpr long)
    cases same
  · rename_i short
    constructor
    · intro same
      cases same
      exact ⟨solid, decimal, not_lt.mp short, rfl⟩
    · exact fun written => by rw [written.value]

end Digits

section Reading
variable {text body : List Char} {listed : List Int}

theorem ListsNumbers.allowed (lists : ListsNumbers text listed) :
    ∀ c ∈ text, isDecimal c = true ∨ isSeparator c = true := by
  induction lists with
  | done blank => exact fun c mem => Or.inr (blank c mem)
  | number blank written ends others ih =>
      intro c mem
      rcases List.mem_append.mp mem with early | later
      · exact Or.inr (blank c early)
      · rcases List.mem_append.mp later with digit | late
        · exact Or.inl (written.decimal c digit)
        · exact ih c late

/-- The listed numbers are those that the words write. -/
theorem listsNumbers_iff :
    ListsNumbers text listed ↔
      (∀ c ∈ text, isDecimal c = true ∨ isSeparator c = true) ∧
        List.Forall₂ WritesNumber (words isSeparator text) listed := by
  constructor
  · intro lists
    refine ⟨lists.allowed, ?_⟩
    induction lists with
    | done blank =>
        rw [Words.words_gap blank]
        exact .nil
    | number blank written ends others ih =>
        rw [Words.words_gap_append blank, Words.words_word_append written.solid
          (fun c mem => not_separator_of_decimal (written.decimal c mem)) ends]
        exact .cons written ih
  · rintro ⟨allowed, each⟩
    induction text using Words.text_induction isSeparator generalizing listed with
    | done gap blank =>
        rw [Words.words_gap blank] at each
        cases each
        exact .done blank
    | step gap word rest blank solid clean ends ih =>
        rw [Words.words_gap_append blank, Words.words_word_append solid clean ends] at each
        cases each with
        | cons written others =>
            refine .number blank written ends (ih (fun c mem => ?_) others)
            exact allowed c (List.mem_append_right _ (List.mem_append_right _ mem))

/-- A text without numbers, or some character of it is no separator. -/
theorem exists_solid (allowed : ∀ c ∈ text, isDecimal c = true ∨ isSeparator c = true)
    (some_ : words isSeparator text ≠ []) : ∃ c ∈ text, isSpace c = false := by
  by_contra none_
  push Not at none_
  apply some_
  refine Words.words_gap fun c mem => separator_of_space ?_
  simpa using none_ c mem

/-- What is read of the text that encloses a list is the list, less white space around it. -/
theorem Encloses.trimmed (encloses : Encloses text body)
    (allowed : ∀ c ∈ body, isDecimal c = true ∨ isSeparator c = true)
    (some_ : words isSeparator body ≠ []) :
    ∃ front back, body = front ++ (strip (trim isColon (strip text)) ++ back) ∧
      (∀ c ∈ front, isSpace c = true) ∧ ∀ c ∈ back, isSpace c = true := by
  obtain ⟨gap, colons, colons', gap', rfl, blank, marks, marks', blank'⟩ := encloses.parts
  obtain ⟨front, inner, back, split_, spaces, spaces', trimmed⟩ := Words.trim_guarded
    (fun c mem => not_space_of_colon (marks c mem)) (fun c mem => not_space_of_colon (marks' c mem))
    (exists_solid allowed some_)
  have inner_ : ∀ c ∈ inner, isColon c = false := by
    intro c mem
    refine not_colon (allowed c ?_)
    rw [split_]
    exact List.mem_append_right _ (List.mem_append_left _ mem)
  have outer : strip (gap ++ ((colons ++ (body ++ colons')) ++ gap')) =
      colons ++ (inner ++ colons') := (Words.trim_append blank blank' _).trans trimmed
  rw [outer, Words.trim_append marks marks', Words.trim_eq_self inner_]
  obtain ⟨first, last, kept, spaced, spaced'⟩ := Words.exists_trim isSpace inner
  refine ⟨front ++ first, last ++ back, ?_, ?_, ?_⟩
  · rw [split_]
    nth_rewrite 1 [kept]
    simp only [List.append_assoc]
    rfl
  · exact fun c mem => (List.mem_append.mp mem).elim (spaces c) (spaced c)
  · exact fun c mem => (List.mem_append.mp mem).elim (spaced' c) (spaces' c)

/-- Every text encloses what is left of it. -/
theorem encloses_stripped (text : List Char) :
    ∃ body front back, Encloses text body ∧ body = front ++ (strip (trim isColon (strip text)) ++ back) ∧
      (∀ c ∈ front, isSpace c = true) ∧ ∀ c ∈ back, isSpace c = true := by
  obtain ⟨gap, gap', outer, blank, blank'⟩ := Words.exists_trim isSpace text
  obtain ⟨colons, colons', middle, marks, marks'⟩ := Words.exists_trim isColon (strip text)
  obtain ⟨front, back, inner, spaces, spaces'⟩ :=
    Words.exists_trim isSpace (trim isColon (strip text))
  refine ⟨trim isColon (strip text), front, back, ⟨gap, colons, colons', gap', ?_, blank, marks,
    marks', blank'⟩, inner, spaces, spaces'⟩
  rw [← middle]
  exact outer

/-- What remains is allowed and has the listed numbers exactly if it is enclosed as a list of them. -/
theorem stripped_lists_iff {text : List Char} (some_ : listed ≠ []) :
    ListsNumbers (strip (trim isColon (strip text))) listed ↔
      ∃ body, Encloses text body ∧ ListsNumbers body listed := by
  constructor
  · intro lists
    obtain ⟨body, front, back, encloses, split_, spaces, spaces'⟩ := encloses_stripped text
    refine ⟨body, encloses, ?_⟩
    rw [listsNumbers_iff] at lists ⊢
    rw [split_, Words.words_gap_append fun c mem => separator_of_space (spaces c mem),
      Words.words_append_gap fun c mem => separator_of_space (spaces' c mem)]
    refine ⟨fun c mem => ?_, lists.2⟩
    rcases List.mem_append.mp mem with early | later
    · exact Or.inr (separator_of_space (spaces c early))
    · rcases List.mem_append.mp later with inside | late
      · exact lists.1 c inside
      · exact Or.inr (separator_of_space (spaces' c late))
  · rintro ⟨body, encloses, lists⟩
    rw [listsNumbers_iff] at lists ⊢
    have words_ : words isSeparator body ≠ [] := by
      intro nothing
      rw [nothing] at lists
      cases lists.2
      exact some_ rfl
    obtain ⟨front, back, split_, spaces, spaces'⟩ := encloses.trimmed lists.1 words_
    rw [split_, Words.words_gap_append fun c mem => separator_of_space (spaces c mem),
      Words.words_append_gap fun c mem => separator_of_space (spaces' c mem)] at lists
    exact ⟨fun c mem => lists.1 c (List.mem_append_right _ (List.mem_append_left _ mem)), lists.2⟩

end Reading

section Steps
variable {digits : List (Char × Nat)} {keywords : List String} {lead rest text : List Char}
  {validNumbers numbers result listed : List Int} {parts : List (List Char)}

/-- Replacing digits one after the other replaces each character on its own. -/
theorem foldl_map_replace (text : List Char) :
    digits.foldl (fun text digit => text.map fun c => if c = digit.1 then digit.2.digitChar else c) text =
      text.map fun c => digits.foldl (fun c digit => if c = digit.1 then digit.2.digitChar else c) c := by
  induction digits generalizing text with
  | nil => exact (List.map_id' text).symm
  | cons digit digits ih =>
      rw [List.foldl_cons, ih, List.map_map]
      rfl

theorem foldl_replace_keep {c : Char} (other : ∀ digit ∈ digits, c ≠ digit.1) :
    digits.foldl (fun c digit => if c = digit.1 then digit.2.digitChar else c) c = c := by
  induction digits with
  | nil => rfl
  | cons digit digits ih =>
      rw [List.foldl_cons, if_neg (other digit List.mem_cons_self)]
      exact ih fun later mem => other later (List.mem_cons_of_mem _ mem)

theorem replaced_eq_latinDigit (c : Char) :
    easternArabic.zipIdx.foldl (fun c digit => if c = digit.1 then digit.2.digitChar else c)
      (arabicIndic.zipIdx.foldl (fun c digit => if c = digit.1 then digit.2.digitChar else c) c) =
        latinDigit c := by
  by_cases arabic : c ∈ arabicIndic
  · revert c
    exact IntegerText.forall_mem_of_all (by decide)
  · by_cases eastern : c ∈ easternArabic
    · clear arabic
      revert c
      exact IntegerText.forall_mem_of_all (by decide)
    · have keep : ∀ digits : List Char, c ∉ digits →
          digits.zipIdx.foldl (fun c digit => if c = digit.1 then digit.2.digitChar else c) c = c := by
        intro digits other
        refine foldl_replace_keep fun digit mem same => other ?_
        rw [same]
        exact List.fst_mem_of_mem_zipIdx mem
      rw [keep arabicIndic arabic, keep easternArabic eastern, latinDigit, if_neg arabic,
        if_neg eastern]

theorem normalizeDigits_eq_map (text : List Char) : normalizeDigits text = text.map latinDigit := by
  rw [normalizeDigits, List.foldl_cons, List.foldl_cons, List.foldl_nil, foldl_map_replace,
    foldl_map_replace, List.map_map]
  refine List.map_congr_left fun c _ => ?_
  rw [Function.comp_apply, replaced_eq_latinDigit]

/-- What is dropped is what the text begins with. -/
theorem exists_leadsIn_iff :
    (∃ lead, text = lead ++ rest ∧ LeadsIn keywords lead text) ↔ rest = dropKeyword keywords text := by
  rw [dropKeyword]
  constructor
  · rintro ⟨lead, whole, ⟨before, keyword, after, split_, rfl, begins, earlier⟩ | ⟨rfl, none_⟩⟩
    · have found : (keywords.find? fun keyword => keyword.toList.isPrefixOf text) = some keyword := by
        rw [List.find?_eq_some_iff_append]
        refine ⟨List.isPrefixOf_iff_prefix.mpr begins, before, after, split_, fun other mem => ?_⟩
        rw [Bool.not_eq_true', Bool.eq_false_iff]
        exact fun starts => earlier other mem (List.isPrefixOf_iff_prefix.mp starts)
      rw [found]
      dsimp only
      rw [whole, List.drop_left]
    · have missed : (keywords.find? fun keyword => keyword.toList.isPrefixOf text) = none := by
        rw [List.find?_eq_none]
        exact fun keyword mem starts => none_ keyword mem (List.isPrefixOf_iff_prefix.mp starts)
      rw [missed, whole]
      rfl
  · rintro rfl
    cases found : keywords.find? fun keyword => keyword.toList.isPrefixOf text with
    | some keyword =>
        obtain ⟨begins, before, after, split_, earlier⟩ := List.find?_eq_some_iff_append.mp found
        have begins_ := List.isPrefixOf_iff_prefix.mp begins
        refine ⟨keyword.toList, (List.prefix_iff_eq_append.mp begins_).symm, Or.inl
          ⟨before, keyword, after, split_, rfl, begins_, fun other mem starts => ?_⟩⟩
        have no := earlier other mem
        rw [List.isPrefixOf_iff_prefix.mpr starts] at no
        cases no
    | none =>
        exact ⟨[], rfl, Or.inr ⟨rfl, fun keyword mem starts =>
          List.find?_eq_none.mp found keyword mem (List.isPrefixOf_iff_prefix.mpr starts)⟩⟩

theorem collectNumbers_eq_some_iff :
    collectNumbers validNumbers numbers parts = some result ↔
      ∃ listed, List.Forall₂ (fun part n => readLimited part = some n) parts listed ∧
        (∀ n ∈ listed, n ∈ validNumbers) ∧ result = listed.foldl addNew numbers := by
  induction parts generalizing numbers with
  | nil =>
      rw [collectNumbers]
      constructor
      · intro same
        cases same
        exact ⟨[], .nil, fun n mem => absurd mem List.not_mem_nil, rfl⟩
      · rintro ⟨listed, each, -, rfl⟩
        cases each
        rfl
  | cons part parts ih =>
      rw [collectNumbers]
      constructor
      · intro collected
        cases read : readLimited part with
        | none =>
            rw [read] at collected
            cases collected
        | some n =>
            rw [read] at collected
            dsimp only at collected
            split at collected
            · cases collected
            · rename_i valid
              obtain ⟨listed, each, inside, folded⟩ := ih.mp collected
              refine ⟨n :: listed, .cons read each, fun m mem => ?_, folded⟩
              rcases List.mem_cons.mp mem with rfl | later
              · exact not_not.mp valid
              · exact inside m later
      · rintro ⟨listed, each, inside, folded⟩
        cases each with
        | @cons _ n _ listed read others =>
            rw [read]
            dsimp only
            rw [if_neg (not_not.mpr (inside n List.mem_cons_self))]
            exact ih.mpr ⟨listed, others, fun m mem => inside m (List.mem_cons_of_mem _ mem), folded⟩

/-- What the words write, with the loop's conversion and in the grammar. -/
theorem forall₂_readLimited_iff {text : List Char}
    (allowed : ∀ c ∈ text, isDecimal c = true ∨ isSeparator c = true) :
    List.Forall₂ (fun part n => readLimited part = some n) (words isSeparator text) listed ↔
      List.Forall₂ WritesNumber (words isSeparator text) listed := by
  have each : ∀ part ∈ words isSeparator text, ∀ n, readLimited part = some n ↔ WritesNumber part n := by
    intro part mem n
    obtain ⟨solid, chars⟩ := Words.mem_words mem
    refine readLimited_eq_some_iff solid fun c inside => ?_
    obtain ⟨there, clean⟩ := chars c inside
    rcases allowed c there with decimal | separator
    · exact decimal
    · rw [separator] at clean
      cases clean
  revert each
  generalize words isSeparator text = parts
  intro each
  induction parts generalizing listed with
  | nil => exact ⟨fun all_ => by cases all_; exact .nil, fun all_ => by cases all_; exact .nil⟩
  | cons part parts ih =>
      have here := each part List.mem_cons_self
      have later := @ih
      constructor
      · rintro (_ | ⟨read, others⟩)
        exact .cons ((here _).mp read)
          ((ih fun other mem => each other (List.mem_cons_of_mem _ mem)).mp others)
      · rintro (_ | ⟨read, others⟩)
        exact .cons ((here _).mpr read)
          ((ih fun other mem => each other (List.mem_cons_of_mem _ mem)).mpr others)

end Steps

/-- The reply is accepted and lists these numbers, as often as they stand in it. -/
def Accepts [TextCase] (keywords : List String) (text : String) (validNumbers : List Int)
    (listed : List Int) : Prop :=
  text ≠ "" ∧
    ReadsAs keywords ((TextCase.lower (String.ofList (strip text.toList))).toList.map latinDigit)
      listed ∧
    listed ≠ [] ∧ ∀ n ∈ listed, n ∈ validNumbers

section Accepted
variable [TextCase] {keywords : List String} {text : String} {validNumbers numbers : List Int}

theorem parseReply_eq_some_iff :
    parseReply keywords text validNumbers = some numbers ↔
      ∃ listed, Accepts keywords text validNumbers listed ∧ FirstAppearances listed numbers := by
  rw [parseReply, normalizeDigits_eq_map]
  generalize normal : (TextCase.lower (String.ofList (strip text.toList))).toList.map latinDigit =
    normalized
  -- The reading of what is left is the reading of the whole.
  have reads : ∀ listed, listed ≠ [] → (ReadsAs keywords normalized listed ↔
      ListsNumbers (strip (trim isColon (strip (dropKeyword keywords normalized)))) listed) := by
    intro listed some_
    rw [stripped_lists_iff some_]
    constructor
    · rintro ⟨lead, rest, body, whole, leads, encloses, lists⟩
      have dropped := exists_leadsIn_iff.mp ⟨lead, whole, leads⟩
      exact ⟨body, dropped ▸ encloses, lists⟩
    · rintro ⟨body, encloses, lists⟩
      have begins : ∃ lead, normalized = lead ++ dropKeyword keywords normalized ∧
          LeadsIn keywords lead normalized := exists_leadsIn_iff.mpr rfl
      obtain ⟨lead, whole, leads⟩ := begins
      exact ⟨lead, _, body, whole, leads, encloses, lists⟩
  dsimp only
  generalize strip (trim isColon (strip (dropKeyword keywords normalized))) = left_ at reads ⊢
  have accepts : ∀ listed, Accepts keywords text validNumbers listed ↔
      text ≠ "" ∧ listed ≠ [] ∧ ListsNumbers left_ listed ∧ ∀ n ∈ listed, n ∈ validNumbers := by
    intro listed
    rw [Accepts, normal]
    constructor
    · rintro ⟨given, read, some_, valid⟩
      exact ⟨given, some_, (reads listed some_).mp read, valid⟩
    · rintro ⟨given, some_, lists, valid⟩
      exact ⟨given, (reads listed some_).mpr lists, some_, valid⟩
  simp only [accepts, listsNumbers_iff]
  split
  · rename_i empty
    refine iff_of_false (Option.some_ne_none _).symm ?_
    rintro ⟨listed, ⟨given, -⟩, -⟩
    exact given empty
  split
  · rename_i given nothing
    refine iff_of_false (Option.some_ne_none _).symm ?_
    rintro ⟨listed, ⟨-, some_, ⟨-, each⟩, -⟩, -⟩
    rw [nothing, Words.words_nil] at each
    cases each
    exact some_ rfl
  split
  · rename_i given solid other
    refine iff_of_false (Option.some_ne_none _).symm ?_
    rintro ⟨listed, ⟨-, -, ⟨allowed, -⟩, -⟩, -⟩
    apply other
    rw [List.all_eq_true]
    intro c mem
    rw [Bool.or_eq_true]
    exact allowed c mem
  split
  · rename_i given solid allowed nothing
    refine iff_of_false (Option.some_ne_none _).symm ?_
    rintro ⟨listed, ⟨-, some_, ⟨-, each⟩, -⟩, -⟩
    rw [nothing] at each
    cases each
    exact some_ rfl
  · rename_i given solid allowed_ some_
    have allowed : ∀ c ∈ left_, isDecimal c = true ∨ isSeparator c = true := by
      intro c mem
      rw [← Bool.or_eq_true]
      exact List.all_eq_true.mp (not_not.mp allowed_) c mem
    rw [Option.filter_eq_some_iff, collectNumbers_eq_some_iff]
    constructor
    · rintro ⟨⟨listed, each, valid, folded⟩, -⟩
      rw [forall₂_readLimited_iff allowed] at each
      refine ⟨listed, ⟨given, ?_, ⟨allowed, each⟩, valid⟩, Words.firstAppearances_iff.mpr folded⟩
      rintro rfl
      cases each_ : words isSeparator left_ with
      | nil => exact some_ each_
      | cons word rest =>
          rw [each_] at each
          cases each
    · rintro ⟨listed, ⟨-, full, ⟨-, each⟩, valid⟩, first⟩
      refine ⟨⟨listed, (forall₂_readLimited_iff allowed).mpr each, valid,
        Words.firstAppearances_iff.mp first⟩, ?_⟩
      rw [decide_eq_true_eq]
      rintro rfl
      apply full
      rw [List.eq_nil_iff_forall_not_mem]
      intro n mem
      exact List.not_mem_nil ((first.mem n).mpr mem)

/-- A reply is read exactly if the grammar has a reading for it with numbers of the digest alone,
and what is read is the distinct numbers in the order in which they first stand in it. -/
theorem parseReply_grammar (keywords : List String) (text : String) (validNumbers : List Int) :
    (∀ numbers, parseReply keywords text validNumbers = some numbers ↔
      ∃ listed, Accepts keywords text validNumbers listed ∧ FirstAppearances listed numbers) ∧
    (parseReply keywords text validNumbers = none ↔
      ¬ ∃ listed, Accepts keywords text validNumbers listed) := by
  refine ⟨fun numbers => parseReply_eq_some_iff, ?_⟩
  rw [Option.eq_none_iff_forall_ne_some]
  constructor
  · rintro unread ⟨listed, accepts⟩
    exact unread _ (parseReply_eq_some_iff.mpr ⟨listed, accepts, Words.firstAppearances_iff.mpr rfl⟩)
  · intro unlisted numbers read
    obtain ⟨listed, accepts, -⟩ := parseReply_eq_some_iff.mp read
    exact unlisted ⟨listed, accepts⟩

end Accepted

/-- A point separates two numbers, and is no comma, white space or digit. -/
theorem point_separates :
    @parseExceptionsReply TextCase.ascii "2.5" [1, 2, 3, 4, 5] = some [2, 5] ∧
      '.' ∈ "2.5".toList ∧ '.' ≠ ',' ∧ '.' ≠ '،' ∧ isSpace '.' = false ∧ isDecimal '.' = false ∧
      ∀ keyword ∈ exceptKeywords, '.' ∉ keyword.toList := by
  decide +kernel

end Numu.Autopilot
