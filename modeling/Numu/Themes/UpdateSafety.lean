import Mathlib.Algebra.Order.Field.Rat
import Mathlib.Data.Set.Finite.Basic
import Numu.Foundation.Window
import Numu.Foundation.Outcome
import Numu.Themes.ThemeSettingsV3
import Numu.Themes.UpdateClassifier

/-!
# What an automatic update keeps

A customization is valid under the schemas of a version when its sections and
blocks are of known types, its ranges within their bounds and its selects among
their options. The classifier compares neither the options of a select, nor a range
of which a bound is no number, nor the blocks that a block may have.
-/

namespace Numu.Themes
open Json (Fields)

inductive SettingKind where
  | range
  | select
  | other
  deriving DecidableEq, Repr

def kindOf (setting : Fields) : SettingKind :=
  if scalarEq (settingType setting) (.str "range") then .range
  else if scalarEq (settingType setting) (.str "select") then .select
  else .other

def numberOf : Json → Option ℚ
  | .int value => some value
  | .float value => some value
  | _ => none

/-- A bound of a range; one that is not a number bounds nothing. -/
def boundOf (setting : Fields) (key : String) : Option FloatValue :=
  match toFloat (setting.get key .null) with
  | .ok value => some value
  | .error _ => none

/-- Nothing is at least NaN. -/
def lowerEnd : Option FloatValue → WithBot (WithTop ℚ)
  | none => ⊥
  | some (.finite value) => Interval.point value
  | some (.infinite negative) => if negative then ⊥ else ⊤
  | some .nan => ⊤

def upperEnd : Option FloatValue → WithBot (WithTop ℚ)
  | none => ⊤
  | some (.finite value) => Interval.point value
  | some (.infinite negative) => if negative then ⊥ else ⊤
  | some .nan => ⊥

def rangeOf (setting : Fields) : Interval ℚ :=
  ⟨lowerEnd (boundOf setting "min"), upperEnd (boundOf setting "max")⟩

/-- The value of an option, which is a dictionary with a label or the bare value. -/
def optionValue : Json → Json
  | .obj entry => Fields.get entry "value" .null
  | value => value

def optionValues (setting : Fields) : List Json :=
  match setting.get "options" .null with
  | .arr options => options.map optionValue
  | _ => []

def Admits (setting : Fields) (value : Json) : Prop :=
  match kindOf setting with
  | .range => ∃ x ∈ numberOf value, (rangeOf setting).Holds x
  | .select => value ∈ optionValues setting
  | .other => True

/-- The settings of a scope, as they are declared by id, admit a stored value. -/
def AdmitsAt (declared : List (String × Fields)) (id : String) (value : Json) : Prop :=
  ∀ setting ∈ declared.lookup id, Admits setting value

def ValidSettings (declared : List (String × Fields)) (settings : Fields) : Prop :=
  ∀ entry ∈ settings, AdmitsAt declared entry.1 entry.2

/-- The classifier compares two ranges: all four bounds are numbers. -/
def Compared (old new : Fields) : Prop :=
  ∃ bounds, floatBounds old new = .ok bounds ∧ bounds.nmin ≠ .nan ∧ bounds.nmax ≠ .nan

/-- Some number is within the old bounds, and only then the new ones must contain them. -/
def RangeKept (old new : Fields) : Prop :=
  (∃ x, (rangeOf old).Holds x) →
    (rangeOf new).lo ≤ (rangeOf old).lo ∧ (rangeOf old).hi ≤ (rangeOf new).hi

/-- Of two versions of the settings of a scope: what is new takes any value, a select keeps its
options, and a range that is not compared keeps its bounds. -/
def SettingsKept (old new : List (String × Fields)) : Prop :=
  ∀ id ndef, new.lookup id = some ndef →
    match old.lookup id with
    | none => kindOf ndef = .other
    | some odef =>
        (kindOf ndef = .select → optionValues odef ⊆ optionValues ndef) ∧
          (kindOf ndef = .range → Compared odef ndef ∨ RangeKept odef ndef)

/-- Whatever the old settings admit, the new ones do. -/
def SettingsAdmit (old new : List (String × Fields)) : Prop :=
  ∀ id value, AdmitsAt old id value → AdmitsAt new id value

section Settings
variable {old new : List (String × Fields)} {odef ndef : Fields}

theorem lowerEnd_le {first second : FloatValue} (loose : floatLt first second = false)
    (known : second ≠ .nan) : lowerEnd (some second) ≤ lowerEnd (some first) := by
  rcases first with first | (_ | _) | _ <;> rcases second with second | (_ | _) | _ <;>
    simp_all [lowerEnd, floatLt, Interval.point_le_point]

theorem upperEnd_le {first second : FloatValue} (loose : floatLt second first = false)
    (known : second ≠ .nan) : upperEnd (some first) ≤ upperEnd (some second) := by
  rcases first with first | (_ | _) | _ <;> rcases second with second | (_ | _) | _ <;>
    simp_all [upperEnd, floatLt, Interval.point_le_point]

/-- A bound that the classifier reads is the bound of the range. -/
theorem boundOf_eq {setting : Fields} {key : String} {value : FloatValue}
    (reads : toFloat (setting.get key .null) = .ok value) : boundOf setting key = some value := by
  rw [boundOf, reads]

theorem floatBounds_eq {bounds : FloatBounds} (reads : floatBounds odef ndef = .ok bounds) :
    boundOf odef "min" = some bounds.omin ∧ boundOf odef "max" = some bounds.omax ∧
      boundOf ndef "min" = some bounds.nmin ∧ boundOf ndef "max" = some bounds.nmax := by
  rcases Outcome.bind_eq_ok.mp reads with ⟨omin, first, reads⟩
  rcases Outcome.bind_eq_ok.mp reads with ⟨omax, second, reads⟩
  rcases Outcome.bind_eq_ok.mp reads with ⟨nmin, third, reads⟩
  rcases Outcome.bind_eq_ok.mp reads with ⟨nmax, fourth, reads⟩
  cases reads
  exact ⟨boundOf_eq first, boundOf_eq second, boundOf_eq third, boundOf_eq fourth⟩

theorem kindOf_eq (same : scalarEq (settingType odef) (settingType ndef) = true) :
    kindOf odef = kindOf ndef := by
  rw [kindOf, kindOf]
  cases first : settingType odef <;> cases second : settingType ndef <;>
    simp_all [scalarEq, scalarEq.number]

/-- No list of options has every value. -/
theorem exists_not_mem (options : List Json) : ∃ value : Json, value ∉ options := by
  by_contra all
  have finite : (Set.range fun n : Nat => Json.int n).Finite := by
    apply (List.finite_toSet options).subset
    rintro value -
    by_contra missing
    exact all ⟨value, missing⟩
  refine Set.infinite_range_of_injective (fun first second same => ?_) finite
  rw [Json.int.injEq] at same
  exact Int.ofNat_inj.mp same

/-- The numbers within a range, as documents. -/
theorem admits_range (range : kindOf odef = .range) (x : ℚ) :
    Admits odef (.float x) ↔ (rangeOf odef).Holds x := by
  simp [Admits, range, numberOf]

/-- A constraint rejects some value. -/
theorem admits_all_iff : (∀ value, Admits ndef value) ↔ kindOf ndef = .other := by
  constructor
  · intro all
    cases kind : kindOf ndef with
    | range =>
        have nothing := all .null
        simp [Admits, kind, numberOf] at nothing
    | select =>
        rcases exists_not_mem (optionValues ndef) with ⟨value, missing⟩
        have admitted := all value
        rw [Admits, kind] at admitted
        exact absurd admitted missing
    | other => rfl
  · intro other value
    rw [Admits, other]
    trivial

variable [PythonText]

/-- Ranges that are compared and not found tightened contain one another. -/
theorem rangeKept_of_compared (compared : Compared odef ndef)
    (loose : rangeTightened odef ndef = .ok []) : RangeKept odef ndef := by
  rcases compared with ⟨bounds, reads, nmin, nmax⟩
  rcases floatBounds_eq reads with ⟨omin_, omax_, nmin_, nmax_⟩
  have parts : bounds.tightened = [] := by
    simpa only [rangeTightened, reads, Except.ok.injEq] using loose
  rw [FloatBounds.tightened, List.append_eq_nil_iff] at parts
  have lower : floatLt bounds.omin bounds.nmin = false := by
    by_contra tighter
    rw [Bool.not_eq_false] at tighter
    simp [tighter] at parts
  have upper : floatLt bounds.nmax bounds.omax = false := by
    by_contra tighter
    rw [Bool.not_eq_false] at tighter
    simp [tighter] at parts
  intro _
  simp only [rangeOf, omin_, omax_, nmin_, nmax_]
  exact ⟨lowerEnd_le lower nmin, upperEnd_le upper nmax⟩

/-- Of two settings of one type: what the old one admits the new one does exactly if it is kept. -/
theorem admits_imp_iff (same : scalarEq (settingType odef) (settingType ndef) = true)
    (loose : kindOf odef = .range → rangeTightened odef ndef = .ok []) :
    (∀ value, Admits odef value → Admits ndef value) ↔
      (kindOf ndef = .select → optionValues odef ⊆ optionValues ndef) ∧
        (kindOf ndef = .range → Compared odef ndef ∨ RangeKept odef ndef) := by
  have kinds := kindOf_eq same
  cases kind : kindOf ndef with
  | range =>
      rw [kind] at kinds
      have subset : (∀ value, Admits odef value → Admits ndef value) ↔ RangeKept odef ndef := by
        rw [RangeKept, ← Interval.subset_iff]
        constructor
        · intro all x holds
          exact (admits_range kind x).mp (all (.float x) ((admits_range kinds x).mpr holds))
        · intro all value admitted
          rw [Admits, kinds] at admitted
          rw [Admits, kind]
          rcases admitted with ⟨x, number, holds⟩
          exact ⟨x, number, all x holds⟩
      rw [subset]
      constructor
      · exact fun kept => ⟨fun select => (by cases select), fun _ => Or.inr kept⟩
      · intro kept
        rcases kept.2 rfl with compared | contained
        · exact rangeKept_of_compared compared (loose kinds)
        · exact contained
  | select =>
      rw [kind] at kinds
      simp only [Admits, kind, kinds, forall_const, reduceCtorEq, false_implies, and_true]
      exact Iff.rfl
  | other => simp [Admits, kind]

/-- What the classifier finds of settings without a breaking change. -/
def SettingsCompared (old new : List (String × Fields)) : Prop :=
  ∀ id odef, old.lookup id = some odef → ∃ ndef, new.lookup id = some ndef ∧
    scalarEq (settingType odef) (settingType ndef) = true ∧
    (kindOf odef = .range → rangeTightened odef ndef = .ok [])

/-- Where the classifier found nothing breaking, the new settings admit what the old ones did
exactly if they are kept. -/
theorem settingsAdmit_iff (compared : SettingsCompared old new) :
    SettingsAdmit old new ↔ SettingsKept old new := by
  constructor
  · intro wider id ndef declared
    cases before : old.lookup id with
    | none =>
        apply admits_all_iff.mp
        intro value
        exact wider id value (fun setting found => by rw [before] at found; cases found) ndef declared
    | some odef =>
        rcases compared id odef before with ⟨found, here, same, loose⟩
        rw [declared] at here
        cases here
        apply (admits_imp_iff same loose).mp
        intro value admitted
        refine wider id value (fun setting found => ?_) ndef declared
        rw [before] at found
        cases found
        exact admitted
  · intro kept id value admitted ndef declared
    have here := kept id ndef declared
    cases before : old.lookup id with
    | none =>
        rw [before] at here
        exact admits_all_iff.mpr here value
    | some odef =>
        rcases compared id odef before with ⟨found, there, same, loose⟩
        rw [declared] at there
        cases there
        rw [before] at here
        exact (admits_imp_iff same loose).mpr here value (admitted odef before)

end Settings

section Documents
variable [PythonText]

def settingsOfDef (definition : Fields) : List (String × Fields) :=
  settingsById (definition.get "settings" .null)

def blocksOfDef (definition : Fields) : List (String × Fields) :=
  blocksByType (definition.get "blocks" .null)

/-- A block is of a type that its parent knows, and so are its own blocks. -/
inductive ValidBlock : List (String × Fields) → BlockInstance → Prop where
  | mk {known : List (String × Fields)} {type : String} {disabled : Bool} {settings : Fields}
      {blocks : List (String × BlockInstance)} {order : List String} {bdef : Fields}
      (declared : known.lookup type = some bdef)
      (valid : ValidSettings (settingsOfDef bdef) settings)
      (children : ∀ entry ∈ blocks, ValidBlock (blocksOfDef bdef) entry.2) :
      ValidBlock known (.mk type disabled settings blocks order)

def ValidSection (sections : Fields) (section_ : SectionInstance) : Prop :=
  ∃ sdef, sections.lookup section_.type = some sdef ∧
    ValidSettings (settingsOfDef (asDict sdef)) section_.settings ∧
    ∀ entry ∈ section_.blocks, ValidBlock (blocksOfDef (asDict sdef)) entry.2

def allSections (customization : ThemeSettingsV3) : List SectionInstance :=
  (customization.templates ++ customization.sectionGroups).flatMap fun page =>
    page.2.sections.map Prod.snd

/-- The stored customization is valid under the schemas. -/
def Valid (schemas : Fields) (customization : ThemeSettingsV3) : Prop :=
  ValidSettings (settingsById (settingsSchema schemas)) customization.globalSettings ∧
    ∀ section_ ∈ allSections customization, ValidSection (sectionSchemas schemas) section_

/-- No change of the list is breaking. -/
def Quiet (changes : List Change) : Prop := ∀ change ∈ changes, change.breaking = false

section Classified
variable {old new : List (String × Fields)} {scope : String} {changes : List Change}

omit [PythonText] in
theorem quiet_of_flatten {kept : List (List Change)} {added : List Change}
    (quiet : Quiet (kept.flatten ++ added)) (mem : changes ∈ kept) : Quiet changes :=
  fun change inside => quiet change
    (List.mem_append_left _ (List.mem_flatten.mpr ⟨changes, mem, inside⟩))

theorem settingChange_quiet {id : String} {odef : Fields}
    (found : settingChange scope new (id, odef) = .ok changes) (quiet : Quiet changes) :
    ∃ ndef, new.lookup id = some ndef ∧
      scalarEq (settingType odef) (settingType ndef) = true ∧
      (kindOf odef = .range → rangeTightened odef ndef = .ok []) := by
  rw [settingChange.eq_def] at found
  split at found
  · cases found
    have loud := quiet _ List.mem_cons_self
    cases loud
  · rename_i ndef declared
    split at found
    · cases found
      have loud := quiet _ List.mem_cons_self
      cases loud
    · rename_i same
      rw [Bool.not_eq_true', Bool.not_eq_false] at same
      refine ⟨ndef, declared, same, fun range => ?_⟩
      have ranged : scalarEq (settingType odef) (.str "range") = true := by
        by_contra other
        rw [kindOf, if_neg other] at range
        split at range <;> cases range
      rw [if_pos ranged] at found
      rcases Outcome.map_eq_ok.mp found with ⟨parts, tightened, made⟩
      cases parts with
      | nil => exact tightened
      | cons part parts =>
          rw [← made] at quiet
          have loud := quiet _ List.mem_cons_self
          cases loud

theorem diffSettings_quiet (diff : diffSettings old new scope = .ok changes)
    (quiet : Quiet changes) : SettingsCompared old new := by
  rcases Outcome.bind_eq_ok.mp diff with ⟨kept, each, made⟩
  cases made
  intro id odef declared
  rcases Outcome.mapM_ok_mem each (Json.mem_of_lookup declared) with ⟨change, mem, found⟩
  exact settingChange_quiet found (quiet_of_flatten quiet mem)

theorem diffSchemas_quiet {old new : Json} (diff : diffSchemas old new scope = .ok changes)
    (quiet : Quiet changes) : SettingsCompared (settingsById old) (settingsById new) := by
  rcases Outcome.bind_eq_ok.mp diff with ⟨olds, first, diff⟩
  rcases Outcome.bind_eq_ok.mp diff with ⟨news, second, diff⟩
  rw [readSettings] at first second
  split at first <;> cases first
  split at second <;> cases second
  exact diffSettings_quiet diff quiet

/-- The block types of a section, and the settings of each, where nothing is breaking. -/
def BlocksCompared (old new : List (String × Fields)) : Prop :=
  ∀ type odef, old.lookup type = some odef → ∃ ndef, new.lookup type = some ndef ∧
    SettingsCompared (settingsOfDef odef) (settingsOfDef ndef)

theorem diffBlocks_quiet {stype : String} (diff : diffBlocks stype old new = .ok changes)
    (quiet : Quiet changes) : BlocksCompared old new := by
  rcases Outcome.bind_eq_ok.mp diff with ⟨kept, each, made⟩
  cases made
  intro type odef declared
  rcases Outcome.mapM_ok_mem each (Json.mem_of_lookup declared) with ⟨change, mem, found⟩
  have here := quiet_of_flatten quiet mem
  rw [blockChange.eq_def] at found
  split at found
  · cases found
    have loud := here _ List.mem_cons_self
    cases loud
  · rename_i ndef there
    exact ⟨ndef, there, diffSchemas_quiet found here⟩

/-- The section types, with their settings and blocks, where nothing is breaking. -/
def SectionsCompared (old new : Fields) : Prop :=
  ∀ type odef, old.lookup type = some odef → ∃ ndef, new.lookup type = some ndef ∧
    SettingsCompared (settingsOfDef (asDict odef)) (settingsOfDef (asDict ndef)) ∧
    BlocksCompared (blocksOfDef (asDict odef)) (blocksOfDef (asDict ndef))

theorem classify_automatic {oldSchemas newSchemas : Option Fields} {verdict : Verdict}
    (classified : classifyThemeUpdate oldSchemas newSchemas = .ok verdict)
    (automatic : verdict.classification = .automatic) :
    SettingsCompared (settingsById (settingsSchema (oldSchemas.getD [])))
        (settingsById (settingsSchema (newSchemas.getD []))) ∧
      SectionsCompared (sectionSchemas (oldSchemas.getD []))
        (sectionSchemas (newSchemas.getD [])) := by
  rcases Outcome.bind_eq_ok.mp classified with ⟨globals, first, classified⟩
  rcases Outcome.bind_eq_ok.mp classified with ⟨kept, each, made⟩
  cases made
  dsimp only at automatic
  split at automatic
  · cases automatic
  · rename_i silent
    rw [Bool.not_eq_true, List.any_eq_false] at silent
    simp only [Bool.not_eq_true] at silent
    refine ⟨diffSchemas_quiet first fun change mem => silent change ?_, fun type odef declared => ?_⟩
    · exact List.mem_append_left _ (List.mem_append_left _ mem)
    · rcases Outcome.mapM_ok_mem each (Json.mem_of_lookup declared) with ⟨change, mem, found⟩
      have here : Quiet change := fun one inside => silent one
        (List.mem_append_left _ (List.mem_append_right _
          (List.mem_flatten.mpr ⟨change, mem, inside⟩)))
      rw [sectionChange.eq_def] at found
      split at found
      · cases found
        have loud := here _ List.mem_cons_self
        cases loud
      · rename_i ndef there
        rcases Outcome.bind_eq_ok.mp found with ⟨settings, second, found⟩
        rcases Outcome.bind_eq_ok.mp found with ⟨blocks, third, joined⟩
        cases joined
        exact ⟨ndef, there,
          diffSchemas_quiet second fun one inside => here one (List.mem_append_left _ inside),
          diffBlocks_quiet third fun one inside => here one (List.mem_append_right _ inside)⟩

end Classified

/-- The block types that a block may have, in both versions, at every depth. -/
inductive Nested (old new : List (String × Fields)) :
    List (String × Fields) → List (String × Fields) → Prop where
  | child {type : String} {odef ndef : Fields} (before : old.lookup type = some odef)
      (after : new.lookup type = some ndef) : Nested old new (blocksOfDef odef) (blocksOfDef ndef)
  | deeper {o n : List (String × Fields)} {type : String} {odef ndef : Fields}
      (above : Nested old new o n) (before : o.lookup type = some odef)
      (after : n.lookup type = some ndef) : Nested old new (blocksOfDef odef) (blocksOfDef ndef)

/-- Block types stay known, and their settings admit what they did. -/
def BlocksAdmit (old new : List (String × Fields)) : Prop :=
  ∀ type odef, old.lookup type = some odef → ∃ ndef, new.lookup type = some ndef ∧
    SettingsAdmit (settingsOfDef odef) (settingsOfDef ndef)

/-- What the classifier does not look at keeps: the constraints of settings, and the blocks that
blocks may have. -/
structure Keeps (old new : Fields) : Prop where
  globals : SettingsKept (settingsById (settingsSchema old)) (settingsById (settingsSchema new))
  settings : ∀ type odef ndef, (sectionSchemas old).lookup type = some odef →
    (sectionSchemas new).lookup type = some ndef →
    SettingsKept (settingsOfDef (asDict odef)) (settingsOfDef (asDict ndef))
  blocks : ∀ type odef ndef, (sectionSchemas old).lookup type = some odef →
    (sectionSchemas new).lookup type = some ndef → ∀ btype obdef nbdef,
    (blocksOfDef (asDict odef)).lookup btype = some obdef →
    (blocksOfDef (asDict ndef)).lookup btype = some nbdef →
    SettingsKept (settingsOfDef obdef) (settingsOfDef nbdef)
  nested : ∀ type odef ndef, (sectionSchemas old).lookup type = some odef →
    (sectionSchemas new).lookup type = some ndef →
    ∀ o n, Nested (blocksOfDef (asDict odef)) (blocksOfDef (asDict ndef)) o n → BlocksAdmit o n

section Blocks
variable {old new o n : List (String × Fields)}

omit [PythonText] in
theorem validSettings_of_wider (wider : SettingsAdmit old new) {settings : Fields}
    (valid : ValidSettings old settings) : ValidSettings new settings :=
  fun entry mem => wider entry.1 entry.2 (valid entry mem)

omit [PythonText] in
theorem admit_of_validSettings (all : ∀ settings, ValidSettings old settings →
    ValidSettings new settings) : SettingsAdmit old new := by
  intro id value admitted
  have single : ValidSettings old [(id, value)] := by
    intro entry mem
    rw [List.mem_singleton.mp mem]
    exact admitted
  exact all _ single (id, value) List.mem_cons_self

/-- Valid blocks stay valid when the block types of every depth admit what they did. -/
theorem validBlock_of_wider (here : BlocksAdmit o n)
    (deeper : ∀ o' n', Nested o n o' n' → BlocksAdmit o' n') {block : BlockInstance}
    (valid : ValidBlock o block) : ValidBlock n block := by
  induction valid generalizing n with
  | @mk known type disabled settings blocks order bdef declared valid children ih =>
      rcases here type bdef declared with ⟨ndef, after, wider⟩
      refine .mk after (validSettings_of_wider wider valid) fun entry mem => ?_
      refine ih entry mem (deeper _ _ (.child declared after)) fun o' n' inside => ?_
      refine deeper o' n' ?_
      induction inside with
      | child before' after' => exact .deeper (.child declared after) before' after'
      | deeper _ before' after' above => exact .deeper above before' after'

/-- A block around another one. -/
def wrap (type : String) (block : BlockInstance) : BlockInstance :=
  .mk type false [] [("block", block)] ["block"]

theorem validBlock_wrap {type : String} {bdef : Fields} {block : BlockInstance}
    (declared : old.lookup type = some bdef) :
    ValidBlock old (wrap type block) ↔ ValidBlock (blocksOfDef bdef) block := by
  constructor
  · rintro ⟨found, -, children⟩
    rw [declared] at found
    cases found
    exact children _ List.mem_cons_self
  · intro valid
    refine .mk declared (fun entry mem => by cases mem) fun entry mem => ?_
    rw [List.mem_singleton.mp mem]
    exact valid

/-- What is valid of nested blocks decides what is valid of the blocks around them. -/
theorem validBlock_of_nested (inside : Nested old new o n)
    (all : ∀ block, ValidBlock old block → ValidBlock new block) :
    ∀ block, ValidBlock o block → ValidBlock n block := by
  induction inside with
  | child before after =>
      intro block valid
      exact (validBlock_wrap after).mp (all _ ((validBlock_wrap before).mpr valid))
  | deeper _ before after ih =>
      intro block valid
      exact (validBlock_wrap after).mp (ih _ ((validBlock_wrap before).mpr valid))

theorem admit_of_validBlocks (all : ∀ block, ValidBlock old block → ValidBlock new block) :
    BlocksAdmit old new := by
  intro type odef declared
  have bare (settings : Fields) (valid : ValidSettings (settingsOfDef odef) settings) :
      ValidBlock new (.mk type false settings [] []) :=
    all _ (.mk declared valid fun entry mem => by cases mem)
  have empty : ValidSettings (settingsOfDef odef) [] := fun entry mem => by cases mem
  rcases bare [] empty with ⟨after, -, -⟩
  rename_i ndef
  refine ⟨ndef, after, admit_of_validSettings fun settings valid => ?_⟩
  rcases bare settings valid with ⟨found, kept, -⟩
  rw [after] at found
  cases found
  exact kept

end Blocks

section Update
variable {old new : Fields}

/-- A customization with one section on its home page. -/
def singleSection (section_ : SectionInstance) : ThemeSettingsV3 where
  themeId := ""
  templates := [("home", { name := "Home", sections := [("section", section_)] })]

theorem valid_singleSection {schemas : Fields} {section_ : SectionInstance} :
    Valid schemas (singleSection section_) ↔ ValidSection (sectionSchemas schemas) section_ := by
  constructor
  · intro valid
    exact valid.2 section_ List.mem_cons_self
  · intro valid
    refine ⟨fun entry mem => (by cases mem), fun found mem => ?_⟩
    have same : found = section_ := by simpa [allSections, singleSection] using mem
    rw [same]
    exact valid

theorem validSection_iff {section_ : SectionInstance} {sdef : Json}
    (declared : old.lookup section_.type = some sdef) :
    ValidSection old section_ ↔ ValidSettings (settingsOfDef (asDict sdef)) section_.settings ∧
      ∀ entry ∈ section_.blocks, ValidBlock (blocksOfDef (asDict sdef)) entry.2 := by
  constructor
  · rintro ⟨found, here, valid⟩
    rw [declared] at here
    cases here
    exact valid
  · exact fun valid => ⟨sdef, declared, valid⟩

/-- Where every valid customization stays valid, so do the settings of a section type and each
block that it may have. -/
theorem section_of_valid (all : ∀ customization, Valid old customization →
    Valid new customization) {type : String} {odef ndef : Json}
    (before : (sectionSchemas old).lookup type = some odef)
    (after : (sectionSchemas new).lookup type = some ndef) :
    SettingsAdmit (settingsOfDef (asDict odef)) (settingsOfDef (asDict ndef)) ∧
      ∀ block, ValidBlock (blocksOfDef (asDict odef)) block →
        ValidBlock (blocksOfDef (asDict ndef)) block := by
  have sections (section_ : SectionInstance) (typed : section_.type = type) :
      (ValidSettings (settingsOfDef (asDict odef)) section_.settings ∧
        ∀ entry ∈ section_.blocks, ValidBlock (blocksOfDef (asDict odef)) entry.2) →
      ValidSettings (settingsOfDef (asDict ndef)) section_.settings ∧
        ∀ entry ∈ section_.blocks, ValidBlock (blocksOfDef (asDict ndef)) entry.2 := by
    subst typed
    intro valid
    apply (validSection_iff after).mp
    apply valid_singleSection.mp
    apply all
    exact valid_singleSection.mpr ((validSection_iff before).mpr valid)
  constructor
  · apply admit_of_validSettings
    intro settings valid
    exact (sections { type, settings } rfl ⟨valid, fun entry mem => by cases mem⟩).1
  · intro block valid
    refine (sections { type, blocks := [("block", block)] } rfl
      ⟨fun entry mem => (by cases mem), fun entry mem => ?_⟩).2 ("block", block) List.mem_cons_self
    rw [List.mem_singleton.mp mem]
    exact valid

theorem keeps_of_valid
    (globals : SettingsCompared (settingsById (settingsSchema old))
      (settingsById (settingsSchema new)))
    (sections : SectionsCompared (sectionSchemas old) (sectionSchemas new))
    (all : ∀ customization, Valid old customization → Valid new customization) :
    Keeps old new := by
  refine ⟨(settingsAdmit_iff globals).mp ?_, ?_, ?_, ?_⟩
  · apply admit_of_validSettings
    intro settings valid
    have stays := all { themeId := "", globalSettings := settings }
      ⟨valid, fun section_ mem => by cases mem⟩
    exact stays.1
  · intro type odef ndef before after
    rcases sections type odef before with ⟨found, there, compared, -⟩
    rw [after] at there
    cases there
    exact (settingsAdmit_iff compared).mp (section_of_valid all before after).1
  · intro type odef ndef before after btype obdef nbdef declared declared'
    rcases sections type odef before with ⟨found, there, -, blocks⟩
    rw [after] at there
    cases there
    rcases blocks btype obdef declared with ⟨found, here, compared⟩
    rw [declared'] at here
    cases here
    apply (settingsAdmit_iff compared).mp
    rcases admit_of_validBlocks (section_of_valid all before after).2 btype obdef declared with
      ⟨found, here, wider⟩
    rw [declared'] at here
    cases here
    exact wider
  · intro type odef ndef before after o n inside
    exact admit_of_validBlocks
      (validBlock_of_nested inside (section_of_valid all before after).2)

theorem valid_of_keeps
    (globals : SettingsCompared (settingsById (settingsSchema old))
      (settingsById (settingsSchema new)))
    (sections : SectionsCompared (sectionSchemas old) (sectionSchemas new))
    (keeps : Keeps old new) {customization : ThemeSettingsV3} (valid : Valid old customization) :
    Valid new customization := by
  constructor
  · exact validSettings_of_wider ((settingsAdmit_iff globals).mpr keeps.globals) valid.1
  · intro section_ mem
    rcases valid.2 section_ mem with ⟨odef, before, settings, blocks⟩
    rcases sections section_.type odef before with ⟨ndef, after, compared, types⟩
    refine ⟨ndef, after, ?_, fun entry inside => ?_⟩
    · exact validSettings_of_wider
        ((settingsAdmit_iff compared).mpr (keeps.settings _ odef ndef before after)) settings
    · refine validBlock_of_wider (fun type obdef declared => ?_)
        (keeps.nested _ odef ndef before after) (blocks entry inside)
      rcases types type obdef declared with ⟨nbdef, declared', settings'⟩
      exact ⟨nbdef, declared', (settingsAdmit_iff settings').mpr
        (keeps.blocks _ odef ndef before after type obdef nbdef declared declared')⟩

end Update

/-- An update that is called automatic leaves every valid customization valid exactly if it keeps
what the classifier does not look at. -/
theorem automatic_update_safe_iff (oldSchemas newSchemas : Option Fields) (verdict : Verdict)
    (classified : classifyThemeUpdate oldSchemas newSchemas = .ok verdict)
    (automatic : verdict.classification = .automatic) :
    (∀ customization, Valid (oldSchemas.getD []) customization →
      Valid (newSchemas.getD []) customization) ↔
      Keeps (oldSchemas.getD []) (newSchemas.getD []) := by
  rcases classify_automatic classified automatic with ⟨globals, sections⟩
  constructor
  · exact keeps_of_valid globals sections
  · exact fun keeps _ valid => valid_of_keeps globals sections keeps valid

end Documents

/-- The texts of `None`, of booleans and of whole numbers. -/
@[reducible] def PythonText.whole : PythonText where
  str
    | .null => "None"
    | .bool value => if value then "True" else "False"
    | .int value => toString value
    | _ => ""
  float
    | .finite value => toString value.floor ++ ".0"
    | .infinite negative => if negative then "-inf" else "inf"
    | .nan => "nan"

/-- The schemas of a theme with one setting, a select. -/
def layoutSelect (options : List String) : Fields :=
  [("id", .str "layout"), ("type", .str "select"),
    ("options", .arr (options.map fun option => .obj [("value", .str option)]))]

def layoutSchemas (options : List String) : Fields :=
  [("settings_schema", .arr [.obj (layoutSelect options)]), ("section_schemas", .obj [])]

def gridLayout : ThemeSettingsV3 where
  themeId := "bold"
  globalSettings := [("layout", .str "grid")]

def listLayout : ThemeSettingsV3 where
  themeId := "bold"
  globalSettings := [("layout", .str "list")]

theorem added_option_safe :
    letI := PythonText.whole
    Valid (layoutSchemas ["grid", "list"]) gridLayout := by
  let _ := PythonText.whole
  have before : Valid (layoutSchemas ["grid"]) gridLayout := by
    refine ⟨fun entry mem setting declared => ?_, fun section_ mem => (by cases mem)⟩
    rw [List.mem_singleton.mp mem] at declared ⊢
    cases declared
    exact List.mem_cons_self
  apply (automatic_update_safe_iff (some (layoutSchemas ["grid"]))
    (some (layoutSchemas ["grid", "list"])) _ rfl rfl).mpr ?_ gridLayout before
  refine ⟨fun id ndef declared => ?_, fun type odef ndef before => (by cases before),
    fun type odef ndef before => (by cases before), fun type odef ndef before => (by cases before)⟩
  have settings (options : List String) : settingsById (settingsSchema
      ((some (layoutSchemas options)).getD [])) = [("layout", layoutSelect options)] := rfl
  rw [settings, List.lookup_cons] at declared
  rw [settings, List.lookup_cons]
  cases same : id == "layout" with
  | true =>
      rw [same] at declared
      cases declared
      refine ⟨fun _ value mem => ?_, fun range => (by cases range)⟩
      have grid : value = .str "grid" := List.mem_singleton.mp mem
      rw [grid]
      exact List.mem_cons_self
  | false =>
      rw [same] at declared
      cases declared

/-- The new version no longer offers an option that a store has chosen. -/
theorem dropped_option_automatic :
    letI := PythonText.whole
    ¬ ∀ verdict, classifyThemeUpdate (some (layoutSchemas ["grid", "list"]))
        (some (layoutSchemas ["grid"])) = .ok verdict →
      verdict.classification = .automatic →
      ∀ customization, Valid (layoutSchemas ["grid", "list"]) customization →
        Valid (layoutSchemas ["grid"]) customization := by
  let _ := PythonText.whole
  intro safe
  have before : Valid (layoutSchemas ["grid", "list"]) listLayout := by
    refine ⟨fun entry mem setting declared => ?_, fun section_ mem => (by cases mem)⟩
    rw [List.mem_singleton.mp mem] at declared ⊢
    cases declared
    exact List.mem_cons_of_mem _ List.mem_cons_self
  have after := (safe _ rfl rfl listLayout before).1 ("layout", .str "list") List.mem_cons_self
    (layoutSelect ["grid"]) rfl
  have grid : Json.str "list" = .str "grid" := List.mem_singleton.mp after
  rw [Json.str.injEq] at grid
  exact absurd grid (by decide)

end Numu.Themes
