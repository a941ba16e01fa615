import Numu.Foundation.Carried
import Numu.Themes.UpdateSafety

/-!
# Automatic updates one after another

`classify_theme_update` calls an update automatic exactly if everything of the old schemas is found
in the new ones, each setting with its type and, where all four bounds are numbers, a range that is
no narrower.
-/

namespace Numu.Themes
open Json (Fields)
open Numu.Carry (Carried Through carried_comp_iff)

/-- `_range_tightened` finds nothing: a bound is no number, or neither end has moved inwards. -/
def Loose (old new : Fields) : Prop :=
  match floatBounds old new with
  | .ok bounds =>
      floatLt bounds.omin bounds.nmin = false ∧ floatLt bounds.nmax bounds.omax = false
  | .error reason => reason = .unreadable

/-- Both bounds are numbers. -/
def Spanned (setting : Fields) : Prop :=
  ∃ lo hi, toFloat (setting.get "min" .null) = .ok lo ∧ toFloat (setting.get "max" .null) = .ok hi ∧
    lo ≠ .nan ∧ hi ≠ .nan

/-- A setting keeps its type, and a range is no narrower. -/
def SettingStands (old new : Fields) : Prop :=
  scalarEq (settingType old) (settingType new) = true ∧ (kindOf old = .range → Loose old new)

/-- A range has bounds in the version between, or is no narrower across both updates. -/
def RangeStands (first second third : Fields) : Prop :=
  kindOf first = .range → Spanned second ∨ Loose first third

section Settings
variable {first second third : Fields}

theorem floatLt_trans {lo mid hi : FloatValue} (known : mid ≠ .nan)
    (loose : floatLt lo mid = false) (loose' : floatLt mid hi = false) :
    floatLt lo hi = false := by
  rcases lo with lo | (_ | _) | _ <;> rcases mid with mid | (_ | _) | _ <;>
    rcases hi with hi | (_ | _) | _ <;> simp_all [floatLt]
  exact loose'.trans loose

theorem scalarEq_trans (same : scalarEq (settingType first) (settingType second) = true)
    (same' : scalarEq (settingType second) (settingType third) = true) :
    scalarEq (settingType first) (settingType third) = true := by
  generalize settingType first = x at *
  generalize settingType second = y at *
  generalize settingType third = z at *
  cases x <;> cases y <;> cases z <;> simp_all [scalarEq, scalarEq.number]

/-- Where the bounds are read one after another, the first that is no number decides. -/
theorem loose_iff : Loose first second ↔
    toFloat (first.get "min" .null) = .error .unreadable ∨
    ∃ omin, toFloat (first.get "min" .null) = .ok omin ∧
      (toFloat (first.get "max" .null) = .error .unreadable ∨
      ∃ omax, toFloat (first.get "max" .null) = .ok omax ∧
        (toFloat (second.get "min" .null) = .error .unreadable ∨
        ∃ nmin, toFloat (second.get "min" .null) = .ok nmin ∧
          (toFloat (second.get "max" .null) = .error .unreadable ∨
          ∃ nmax, toFloat (second.get "max" .null) = .ok nmax ∧
            floatLt omin nmin = false ∧ floatLt nmax omax = false))) := by
  rw [Loose, floatBounds]
  cases toFloat (first.get "min" .null) with
  | error reason => simp [bind, Except.bind]
  | ok omin =>
    cases toFloat (first.get "max" .null) with
    | error reason => simp [bind, Except.bind]
    | ok omax =>
      cases toFloat (second.get "min" .null) with
      | error reason => simp [bind, Except.bind]
      | ok nmin =>
        cases toFloat (second.get "max" .null) <;>
          simp [bind, Except.bind, pure, Except.pure]

/-- Ranges with bounds between them compose. -/
theorem Loose.trans (loose : Loose first second) (loose' : Loose second third)
    (spanned : Spanned second) : Loose first third := by
  obtain ⟨lo, hi, reads, reads', known, known'⟩ := spanned
  rw [loose_iff, reads, reads'] at loose loose'
  simp only [reduceCtorEq, Except.ok.injEq, false_or, exists_eq_left'] at loose loose'
  rw [loose_iff]
  rcases loose with missing | ⟨omin, omin_, missing | ⟨omax, omax_, lower, upper⟩⟩
  · exact .inl missing
  · exact .inr ⟨omin, omin_, .inl missing⟩
  · refine .inr ⟨omin, omin_, .inr ⟨omax, omax_, ?_⟩⟩
    rcases loose' with missing | ⟨nmin, nmin_, missing | ⟨nmax, nmax_, lower', upper'⟩⟩
    · exact .inl missing
    · exact .inr ⟨nmin, nmin_, .inl missing⟩
    · exact .inr ⟨nmin, nmin_, .inr ⟨nmax, nmax_, floatLt_trans known lower lower',
        floatLt_trans known' upper' upper⟩⟩

/-- A setting stands across two updates exactly if its range does. -/
theorem settingStands_comp_iff (before : SettingStands first second)
    (after : SettingStands second third) :
    SettingStands first third ↔ RangeStands first second third := by
  constructor
  · exact fun stands range => .inr (stands.2 range)
  · intro stands
    refine ⟨scalarEq_trans before.1 after.1, fun range => ?_⟩
    rcases stands range with spanned | loose
    · exact (before.2 range).trans (after.2 (kindOf_eq before.1 ▸ range)) spanned
    · exact loose

end Settings

section Classified
variable [PythonText] {scope : String}

/-- A comparison that returns and finds nothing breaking. -/
def Silent (result : Except ClassifyError (List Change)) : Prop :=
  ∃ changes, result = .ok changes ∧ Quiet changes

/-- The settings of both versions can be read, and each of the old ones stands. -/
def SettingsStand (old new : Json) : Prop :=
  (settingItems old).all itemHashable = true ∧ (settingItems new).all itemHashable = true ∧
    Carried SettingStands (settingsById old) (settingsById new)

def BlocksStand (old new : Json) : Prop :=
  Carried (fun odef ndef : Fields => SettingsStand (odef.get "settings" .null)
    (ndef.get "settings" .null)) (blocksByType old) (blocksByType new)

/-- The settings and the blocks of a section type stand. -/
def SectionStands (old new : Json) : Prop :=
  SettingsStand ((asDict old).get "settings" .null) ((asDict new).get "settings" .null) ∧
    BlocksStand ((asDict old).get "blocks" .null) ((asDict new).get "blocks" .null)

omit [PythonText] in
@[simp] theorem quiet_nil : Quiet [] := fun change mem => by cases mem

omit [PythonText] in
theorem quiet_append {first second : List Change} :
    Quiet (first ++ second) ↔ Quiet first ∧ Quiet second := List.forall_mem_append

omit [PythonText] in
theorem not_silent_cons {change : Change} {changes : List Change}
    (loud : change.breaking = true) : ¬ Silent (.ok (change :: changes)) := by
  rintro ⟨changes, made, quiet⟩
  cases made
  rw [quiet change List.mem_cons_self] at loud
  cases loud

omit [PythonText] in
/-- A loop is silent exactly if each of its rounds is. -/
theorem silent_loop {α : Type} {f : α → Except ClassifyError (List Change)} {items : List α} :
    (∃ kept, items.mapM f = .ok kept ∧ Quiet kept.flatten) ↔ ∀ item ∈ items, Silent (f item) := by
  constructor
  · rintro ⟨kept, each, quiet⟩ item member
    obtain ⟨changes, inside, found⟩ := Outcome.mapM_ok_mem each member
    exact ⟨changes, found, fun change mem =>
      quiet change (List.mem_flatten.mpr ⟨changes, inside, mem⟩)⟩
  · intro silent
    obtain ⟨kept, each⟩ := Outcome.mapM_isOk fun item member =>
      (silent item member).imp fun _ found => found.1
    refine ⟨kept, each, fun change mem => ?_⟩
    obtain ⟨changes, inside, here⟩ := List.mem_flatten.mp mem
    obtain ⟨item, member, found⟩ := Outcome.mapM_ok_of_mem each inside
    obtain ⟨changes', found', quiet⟩ := silent item member
    rw [found, Except.ok.injEq] at found'
    exact quiet change (found' ▸ here)

theorem rangeTightened_iff {old new : Fields} :
    rangeTightened old new = .ok [] ↔ Loose old new := by
  rw [rangeTightened, Loose]
  cases floatBounds old new with
  | error reason => cases reason <;> simp
  | ok bounds =>
      simp only [Except.ok.injEq, FloatBounds.tightened, List.append_eq_nil_iff]
      cases floatLt bounds.omin bounds.nmin <;> cases floatLt bounds.nmax bounds.omax <;> simp

omit [PythonText] in
theorem kindOf_range {setting : Fields} :
    kindOf setting = .range ↔ scalarEq (settingType setting) (.str "range") = true := by
  rw [kindOf]
  split
  · rename_i range
    exact iff_of_true rfl range
  · rename_i other
    refine iff_of_false ?_ other
    split <;> intro same <;> cases same

theorem settingChange_silent_iff {new : List (String × Fields)} {setting : String × Fields} :
    Silent (settingChange scope new setting) ↔
      ∃ ndef, new.lookup setting.1 = some ndef ∧ SettingStands setting.2 ndef := by
  rw [settingChange.eq_def]
  cases declared : new.lookup setting.1 with
  | none =>
      refine iff_of_false (not_silent_cons rfl) ?_
      rintro ⟨ndef, found, -⟩
      cases found
  | some ndef =>
      simp only [Option.some.injEq, exists_eq_left', SettingStands]
      by_cases same : scalarEq (settingType setting.2) (settingType ndef) = true
      · simp only [same, Bool.not_true, Bool.false_eq_true, if_false, true_and, kindOf_range]
        by_cases range : scalarEq (settingType setting.2) (.str "range") = true
        · rw [if_pos range, ← rangeTightened_iff]
          simp only [range, forall_const]
          constructor
          · rintro ⟨changes, made, quiet⟩
            obtain ⟨parts, tightened, made⟩ := Outcome.map_eq_ok.mp made
            cases parts with
            | nil => exact tightened
            | cons part parts =>
                rw [← made] at quiet
                exact absurd ⟨_, rfl, quiet⟩ (not_silent_cons rfl)
          · intro loose
            rw [loose]
            exact ⟨[], rfl, quiet_nil⟩
        · rw [if_neg range]
          exact iff_of_true ⟨[], rfl, quiet_nil⟩ fun ranged => absurd ranged range
      · simp only [same, Bool.not_false, if_true, Bool.false_eq_true, false_and, iff_false]
        exact not_silent_cons rfl

omit [PythonText] in
/-- What is added breaks nothing. -/
theorem quiet_added {α : Type*} {made : α → Change} {items : List α}
    (harmless : ∀ item, (made item).breaking = false) : Quiet (items.map made) := by
  intro change mem
  obtain ⟨item, -, rfl⟩ := List.mem_map.mp mem
  exact harmless item

omit [PythonText] in
/-- A comparison of the old items, with what is added after it. -/
theorem silent_diff {α β : Type} {f : α → Except ClassifyError (List Change)} {old : List α}
    {made : β → Change} {added : List β} (harmless : ∀ item, (made item).breaking = false) :
    Silent (do return (← old.mapM f).flatten ++ added.map made) ↔
      ∀ item ∈ old, Silent (f item) := by
  rw [← silent_loop]
  constructor
  · rintro ⟨changes, made, quiet⟩
    obtain ⟨kept, loop, joined⟩ := Outcome.bind_eq_ok.mp made
    cases joined
    exact ⟨kept, loop, (quiet_append.mp quiet).1⟩
  · rintro ⟨kept, loop, quiet⟩
    refine ⟨_, Outcome.bind_eq_ok.mpr ⟨kept, loop, rfl⟩, ?_⟩
    exact quiet_append.mpr ⟨quiet, quiet_added harmless⟩

theorem diffSettings_silent_iff {old new : List (String × Fields)} :
    Silent (diffSettings old new scope) ↔ Carried SettingStands old new := by
  have each : Carried SettingStands old new ↔
      ∀ setting ∈ old, Silent (settingChange scope new setting) :=
    forall₂_congr fun setting _ => settingChange_silent_iff.symm
  rw [each]
  exact silent_diff fun _ => rfl

theorem readSettings_eq_ok {schema : Json} {settings : List (String × Fields)} :
    readSettings schema = .ok settings ↔
      (settingItems schema).all itemHashable = true ∧ settingsById schema = settings := by
  rw [readSettings]
  split
  · rename_i readable
    simp [readable]
  · rename_i unreadable
    simp [unreadable]

theorem diffSchemas_silent_iff {old new : Json} :
    Silent (diffSchemas old new scope) ↔ SettingsStand old new := by
  constructor
  · rintro ⟨changes, made, quiet⟩
    obtain ⟨olds, reads, made⟩ := Outcome.bind_eq_ok.mp made
    obtain ⟨news, reads', made⟩ := Outcome.bind_eq_ok.mp made
    obtain ⟨readable, rfl⟩ := readSettings_eq_ok.mp reads
    obtain ⟨readable', rfl⟩ := readSettings_eq_ok.mp reads'
    exact ⟨readable, readable', diffSettings_silent_iff.mp ⟨changes, made, quiet⟩⟩
  · rintro ⟨readable, readable', stand⟩
    obtain ⟨changes, made, quiet⟩ := (@diffSettings_silent_iff _ scope _ _).mpr stand
    refine ⟨changes, ?_, quiet⟩
    refine Outcome.bind_eq_ok.mpr ⟨_, readSettings_eq_ok.mpr ⟨readable, rfl⟩, ?_⟩
    exact Outcome.bind_eq_ok.mpr ⟨_, readSettings_eq_ok.mpr ⟨readable', rfl⟩, made⟩

theorem blockChange_silent_iff {stype : String} {new : List (String × Fields)}
    {block : String × Fields} :
    Silent (blockChange stype new block) ↔
      ∃ ndef, new.lookup block.1 = some ndef ∧
        SettingsStand (block.2.get "settings" .null) (ndef.get "settings" .null) := by
  rw [blockChange.eq_def]
  cases declared : new.lookup block.1 with
  | none =>
      refine iff_of_false (not_silent_cons rfl) ?_
      rintro ⟨ndef, found, -⟩
      cases found
  | some ndef =>
      simp only [Option.some.injEq, exists_eq_left']
      exact diffSchemas_silent_iff

theorem diffBlocks_silent_iff {stype : String} {old new : Json} :
    Silent (diffBlocks stype (blocksByType old) (blocksByType new)) ↔ BlocksStand old new := by
  have each : BlocksStand old new ↔
      ∀ block ∈ blocksByType old, Silent (blockChange stype (blocksByType new) block) :=
    forall₂_congr fun block _ => blockChange_silent_iff.symm
  rw [each]
  exact silent_diff fun _ => rfl

theorem sectionChange_silent_iff {new : Fields} {section_ : String × Json} :
    Silent (sectionChange new section_) ↔
      ∃ ndef, new.lookup section_.1 = some ndef ∧ SectionStands section_.2 ndef := by
  rw [sectionChange.eq_def]
  cases declared : new.lookup section_.1 with
  | none =>
      refine iff_of_false (not_silent_cons rfl) ?_
      rintro ⟨ndef, found, -⟩
      cases found
  | some ndef =>
      simp only [Option.some.injEq, exists_eq_left', SectionStands]
      constructor
      · rintro ⟨changes, made, quiet⟩
        obtain ⟨settings, first, made⟩ := Outcome.bind_eq_ok.mp made
        obtain ⟨blocks, second, joined⟩ := Outcome.bind_eq_ok.mp made
        cases joined
        obtain ⟨quiet, quiet'⟩ := quiet_append.mp quiet
        exact ⟨diffSchemas_silent_iff.mp ⟨settings, first, quiet⟩,
          diffBlocks_silent_iff.mp ⟨blocks, second, quiet'⟩⟩
      · rintro ⟨settings, blocks⟩
        obtain ⟨changes, first, quiet⟩ := diffSchemas_silent_iff.mpr settings
        obtain ⟨changes', second, quiet'⟩ := diffBlocks_silent_iff.mpr blocks
        exact ⟨changes ++ changes', Outcome.bind_eq_ok.mpr ⟨changes, first,
          Outcome.bind_eq_ok.mpr ⟨changes', second, rfl⟩⟩, quiet_append.mpr ⟨quiet, quiet'⟩⟩

/-- `classify_theme_update` returns, and calls the update automatic. -/
def Automatic (oldSchemas newSchemas : Option Fields) : Prop :=
  ∃ verdict, classifyThemeUpdate oldSchemas newSchemas = .ok verdict ∧
    verdict.classification = .automatic

omit [PythonText] in
theorem classification_eq_automatic {changes : List Change} :
    (if changes.any Change.breaking then Classification.manual else .automatic) = .automatic ↔
      Quiet changes := by
  have quiet : Quiet changes ↔ changes.any Change.breaking = false := by
    simp [Quiet, List.any_eq_false]
  rw [quiet]
  cases changes.any Change.breaking <;> simp

/-- An update is automatic exactly if every setting, section and block stands. -/
theorem automatic_iff {oldSchemas newSchemas : Option Fields} :
    Automatic oldSchemas newSchemas ↔
      SettingsStand (settingsSchema (oldSchemas.getD [])) (settingsSchema (newSchemas.getD [])) ∧
        Carried SectionStands (sectionSchemas (oldSchemas.getD []))
          (sectionSchemas (newSchemas.getD [])) := by
  have each : Carried SectionStands (sectionSchemas (oldSchemas.getD []))
        (sectionSchemas (newSchemas.getD [])) ↔
      ∀ section_ ∈ sectionSchemas (oldSchemas.getD []),
        Silent (sectionChange (sectionSchemas (newSchemas.getD [])) section_) :=
    forall₂_congr fun section_ _ => sectionChange_silent_iff.symm
  rw [each, ← silent_loop]
  constructor
  · rintro ⟨verdict, classified, automatic⟩
    obtain ⟨globals, first, classified⟩ := Outcome.bind_eq_ok.mp classified
    obtain ⟨kept, loop, made⟩ := Outcome.bind_eq_ok.mp classified
    cases made
    obtain ⟨quiet, -⟩ := quiet_append.mp (classification_eq_automatic.mp automatic)
    obtain ⟨quiet, quiet'⟩ := quiet_append.mp quiet
    exact ⟨diffSchemas_silent_iff.mp ⟨globals, first, quiet⟩, kept, loop, quiet'⟩
  · rintro ⟨stand, kept, loop, quiet'⟩
    obtain ⟨globals, first, quiet⟩ := (@diffSchemas_silent_iff _ "global" _ _).mpr stand
    refine ⟨_, Outcome.bind_eq_ok.mpr ⟨globals, first, Outcome.bind_eq_ok.mpr ⟨kept, loop, rfl⟩⟩, ?_⟩
    apply classification_eq_automatic.mpr
    exact quiet_append.mpr ⟨quiet_append.mpr ⟨quiet, quiet'⟩, quiet_added fun _ => rfl⟩

/-! ## Two updates in a row -/

/-- The ranges of a schema stand across both updates. -/
def RangesStand (first second third : Json) : Prop :=
  Through RangeStands (settingsById first) (settingsById second) (settingsById third)

def BlockRangesStand (first second third : Fields) : Prop :=
  RangesStand (first.get "settings" .null) (second.get "settings" .null)
    (third.get "settings" .null)

def SectionRangesStand (first second third : Json) : Prop :=
  RangesStand ((asDict first).get "settings" .null) ((asDict second).get "settings" .null)
      ((asDict third).get "settings" .null) ∧
    Through BlockRangesStand (blocksByType ((asDict first).get "blocks" .null))
      (blocksByType ((asDict second).get "blocks" .null))
      (blocksByType ((asDict third).get "blocks" .null))

/-- Every range of the first version, in the theme's settings, a section or a block, either has
numbers for bounds in the second version or is no narrower in the third than in the first. -/
def UpdateRangesStand (first second third : Fields) : Prop :=
  RangesStand (settingsSchema first) (settingsSchema second) (settingsSchema third) ∧
    Through SectionRangesStand (sectionSchemas first) (sectionSchemas second)
      (sectionSchemas third)

theorem settingsStand_comp_iff {first second third : Json} (before : SettingsStand first second)
    (after : SettingsStand second third) :
    SettingsStand first third ↔ RangesStand first second third := by
  have compose := carried_comp_iff before.2.2 after.2.2 fun _ _ _ => settingStands_comp_iff
  exact ⟨fun stand => compose.mp stand.2.2,
    fun through => ⟨before.1, after.2.1, compose.mpr through⟩⟩

theorem sectionStands_comp_iff {first second third : Json} (before : SectionStands first second)
    (after : SectionStands second third) :
    SectionStands first third ↔ SectionRangesStand first second third :=
  and_congr (settingsStand_comp_iff before.1 after.1)
    (carried_comp_iff before.2 after.2 fun _ _ _ => settingsStand_comp_iff)

/-- Of two automatic updates in a row, the one across both is automatic exactly if no range lost
its bounds in between and came back narrower. -/
theorem automatic_comp_iff {first second third : Option Fields}
    (before : Automatic first second) (after : Automatic second third) :
    Automatic first third ↔
      UpdateRangesStand (first.getD []) (second.getD []) (third.getD []) := by
  rw [automatic_iff] at before after ⊢
  exact and_congr (settingsStand_comp_iff before.1 after.1)
    (carried_comp_iff before.2 after.2 fun _ _ _ => sectionStands_comp_iff)

end Classified

/-- The schemas of a theme with one setting, a range. -/
def spacingRange : Option (ℚ × ℚ) → Fields
  | none => [("id", .str "spacing"), ("type", .str "range")]
  | some (min, max) =>
      [("id", .str "spacing"), ("type", .str "range"), ("min", .float min), ("max", .float max)]

def spacingSchemas (bounds : Option (ℚ × ℚ)) : Fields :=
  [("settings_schema", .arr [.obj (spacingRange bounds)]), ("section_schemas", .obj [])]

theorem loose_spacing {omin omax nmin nmax : ℚ} :
    Loose (spacingRange (some (omin, omax))) (spacingRange (some (nmin, nmax))) ↔
      nmin ≤ omin ∧ omax ≤ nmax := by
  change floatLt (.finite omin) (.finite nmin) = false ∧
    floatLt (.finite nmax) (.finite omax) = false ↔ _
  simp [floatLt]

theorem spacing_automatic_iff [PythonText] {bounds bounds' : Option (ℚ × ℚ)} :
    Automatic (some (spacingSchemas bounds)) (some (spacingSchemas bounds')) ↔
      Loose (spacingRange bounds) (spacingRange bounds') := by
  have settings (bounds : Option (ℚ × ℚ)) : settingsById (settingsSchema
      ((some (spacingSchemas bounds)).getD [])) = [("spacing", spacingRange bounds)] := by
    cases bounds <;> rfl
  have readable (bounds : Option (ℚ × ℚ)) : (settingItems (settingsSchema
      ((some (spacingSchemas bounds)).getD []))).all itemHashable = true := by
    cases bounds <;> rfl
  have ranged (bounds : Option (ℚ × ℚ)) : settingType (spacingRange bounds) = .str "range" := by
    cases bounds <;> rfl
  rw [automatic_iff]
  constructor
  · intro stand
    have carried := stand.1.2.2
    rw [settings, settings] at carried
    obtain ⟨found, here, stands⟩ := carried _ List.mem_cons_self
    cases here
    exact stands.2 (by rw [kindOf, ranged]; rfl)
  · intro loose
    refine ⟨⟨readable _, readable _, ?_⟩, fun section_ mem => by cases mem⟩
    rw [settings, settings]
    intro entry mem
    rw [List.mem_singleton.mp mem]
    exact ⟨_, rfl, by rw [ranged, ranged]; rfl, fun _ => loose⟩

/-- A range that grows twice. -/
theorem widened_twice_automatic :
    letI := PythonText.whole
    Automatic (some (spacingSchemas (some (1, 2))))
      (some (spacingSchemas (some (0, 3)))) := by
  let _ := PythonText.whole
  have before : Automatic (some (spacingSchemas (some (1, 2))))
      (some (spacingSchemas (some (1, 3)))) :=
    spacing_automatic_iff.mpr (loose_spacing.mpr (by decide))
  have after : Automatic (some (spacingSchemas (some (1, 3))))
      (some (spacingSchemas (some (0, 3)))) :=
    spacing_automatic_iff.mpr (loose_spacing.mpr (by decide))
  refine (automatic_comp_iff before after).mpr ⟨?_, fun section_ mem => by cases mem⟩
  intro entry mem y z here there _
  left
  rw [List.mem_singleton.mp mem] at here
  cases here
  exact ⟨.finite 1, .finite 3, rfl, rfl, nofun, nofun⟩

/-- The bounds are dropped and then come back narrower. -/
theorem bounds_come_back_narrower :
    letI := PythonText.whole
    Automatic (some (spacingSchemas (some (0, 3)))) (some (spacingSchemas none)) ∧
      Automatic (some (spacingSchemas none)) (some (spacingSchemas (some (1, 2)))) ∧
      ¬ Automatic (some (spacingSchemas (some (0, 3))))
        (some (spacingSchemas (some (1, 2)))) := by
  let _ := PythonText.whole
  refine ⟨spacing_automatic_iff.mpr rfl, spacing_automatic_iff.mpr rfl, fun automatic => ?_⟩
  have loose := loose_spacing.mp (spacing_automatic_iff.mp automatic)
  exact absurd loose (by decide)

end Numu.Themes
