import Numu.Themes.Presets
import Numu.Themes.UpdateSafety

/-!
# Reconciling a customization with the presets of the theme

Where each preset page has a section of a known type, one reconciliation leaves every page that the
presets name renderable, touches no page that already was, and a second one changes nothing.
-/

namespace Numu.Themes.Presets
open Json (Fields assign)
open Repair (repair repair_keeps repair_fine repair_of_fine repair_unchanged repair_returns)

def templatesOf (document : Fields) : Fields := asDict (document.get "templates" .null)

def groupsOf (document : Fields) : Fields := asDict (document.get "section_groups" .null)

/-- A preset page with a section of a known type. -/
def PresetKnown (known : List String) (preset : String × Json) : Prop :=
  ∃ data items section_ type, preset.2 = .obj data ∧
    List.lookup "sections" data = some (.arr items) ∧ .obj section_ ∈ items ∧
    List.lookup "type" section_ = some (.str type) ∧ type ∈ known

/-- `templates` or `section_groups` of the presets is nothing or a dictionary of what pages can be
made of. -/
def Buildable [PythonText] [TitleCase] (presets : Fields) (key : String) : Prop :=
  ∃ fields, readDict (orDict (presets.get key .null)) = some fields ∧
    ∀ preset ∈ fields, (presetPage preset).isSome

/-- What reconciling does to a customization. -/
structure Reconciled (known : List String) (presets before after : Fields) : Prop where
  /-- Every page that the presets name can be rendered. -/
  renders : ∀ preset ∈ templatesOf presets, ∃ page,
    (templatesOf after).lookup preset.1 = some page ∧ Renderable known page
  keeps : ∀ name page, (templatesOf before).lookup name = some page → Renderable known page →
    (templatesOf after).lookup name = some page
  /-- Pages that the presets do not name are not touched. -/
  others : ∀ name, (∀ preset ∈ templatesOf presets, preset.1 ≠ name) →
    (templatesOf after).lookup name = (templatesOf before).lookup name
  settings : ∀ key, key ≠ "templates" → key ≠ "section_groups" → after.lookup key = before.lookup key
  /-- Groups stay where the theme declares some and renders one of the stored sections. -/
  groups : (presets.get "section_groups" .null).truthy = true →
    (∃ group ∈ groupsOf before, Renderable known group.2) →
    after.lookup "section_groups" = before.lookup "section_groups"

section Groups
variable {known : List String} {customization presets : Fields}

theorem readDict_orDict_obj (fields : Fields) : readDict (orDict (.obj fields)) = some fields := by
  rw [orDict_obj]
  rfl

theorem truthy_orDict {value : Json} : (orDict value).truthy = value.truthy := by
  rw [orDict]
  split
  · rfl
  · rename_i nothing
    rw [Bool.not_eq_true] at nothing
    rw [nothing]
    rfl

theorem mem_groupTypes {groups : Fields} {types : List Json} (told : groupTypes groups = some types)
    {group : String × Json} (member : group ∈ groups) (renderable : Renderable known group.2) :
    ∃ type ∈ types, isKnown known type = true := by
  obtain ⟨each, loop, joined⟩ := Option.bind_eq_some_iff.mp told
  cases joined
  obtain ⟨here, inside, found⟩ := Outcome.mapM_some_mem loop member
  obtain ⟨fields, sections, key, section_, type, shape, stored, entry, typed, listed⟩ := renderable
  have reads : typesInGroup group.2 = some (sectionTypes sections) := by
    rw [shape, typesInGroup, Fields.get, stored, Option.getD_some, readDict_orDict_obj]
    rfl
  rw [reads] at found
  cases found
  have listed_ : Fields.get section_ "type" .null ∈ sectionTypes sections :=
    mem_sectionTypes.mpr ⟨key, section_, entry, rfl⟩
  exact ⟨_, List.mem_flatten.mpr ⟨_, inside, listed_⟩, known_type_iff.mpr ⟨type, typed, listed⟩⟩

variable [PythonText] [TitleCase]

/-- The groups that are made of the presets. -/
def rebuildGroups (presets : Fields) : Option Fields :=
  (groupsOf presets).mapM fun preset => (presetDump preset).map fun page => (preset.1, page)

/-- What takes the place of the stored groups. -/
theorem newGroups_cases {found : Option Fields}
    (made : newGroups known customization presets = some found) :
    found = none ∨
    (found = some [] ∧ (presets.get "section_groups" .null).truthy = false) ∨
    (∃ rebuilt types, found = some rebuilt ∧ known.isEmpty = false ∧
      (presets.get "section_groups" .null).truthy = true ∧
      groupTypes (groupsOf customization) = some types ∧ anyKnown known types = some false ∧
      readDict (orDict (presets.get "section_groups" .null)) = some (groupsOf presets) ∧
      rebuildGroups presets = some rebuilt) := by
  rw [newGroups] at made
  simp only [truthy_orDict] at made
  split at made
  · cases made
    exact .inl rfl
  · split at made
    · rename_i undeclared
      cases made
      rw [Bool.not_eq_true'] at undeclared
      exact .inr (.inl ⟨rfl, undeclared⟩)
    · rename_i declared
      rw [Bool.not_eq_true', Bool.not_eq_false] at declared
      split at made
      · cases made
        exact .inl rfl
      · rename_i types_known
        rw [Bool.not_eq_true] at types_known
        obtain ⟨groups, reads, made⟩ := Option.bind_eq_some_iff.mp made
        obtain ⟨types, told, made⟩ := Option.bind_eq_some_iff.mp made
        split at made
        · cases made
          exact .inl rfl
        · obtain ⟨some_known, any, made⟩ := Option.bind_eq_some_iff.mp made
          cases some_known with
          | true =>
              cases made
              exact .inl rfl
          | false =>
              obtain ⟨fields, presets_, made⟩ := Option.bind_eq_some_iff.mp made
              obtain ⟨rebuilt, built, made⟩ := Option.bind_eq_some_iff.mp made
              cases made
              refine .inr (.inr ⟨rebuilt, types, rfl, types_known, declared, ?_, any, ?_, ?_⟩)
              · rw [groupsOf, asDict_of_readDict reads, told]
              · rw [groupsOf, asDict_of_readDict presets_, presets_]
              · rw [rebuildGroups, groupsOf, asDict_of_readDict presets_, built]

/-- Where the stored groups and those of the presets can be read, and it can be told of the types. -/
theorem newGroups_told {groups : Fields} {types : List Json}
    (reads : readDict (orDict (customization.get "section_groups" .null)) = some groups)
    (told : groupTypes groups = some types) (any : (anyKnown known types).isSome)
    (declared : readDict (orDict (presets.get "section_groups" .null)) = some (groupsOf presets)) :
    newGroups known customization presets = some none ∨
    (newGroups known customization presets = some (some []) ∧
      (presets.get "section_groups" .null).truthy = false) ∨
    newGroups known customization presets = (rebuildGroups presets).map some := by
  obtain ⟨some_known, any⟩ := Option.isSome_iff_exists.mp any
  rw [newGroups]
  simp only [truthy_orDict, reads, declared, told, any, Option.bind_eq_bind, Option.bind_some]
  split
  · exact .inl rfl
  · split
    · rename_i undeclared
      rw [Bool.not_eq_true'] at undeclared
      exact .inr (.inl ⟨rfl, undeclared⟩)
    · split
      · exact .inl rfl
      · split
        · exact .inl rfl
        · cases some_known with
          | true => exact .inl rfl
          | false =>
              refine .inr (.inr ?_)
              rw [rebuildGroups]
              cases (groupsOf presets).mapM fun preset =>
                (presetDump preset).map fun page => (preset.1, page) <;> rfl

/-- Rebuilt groups are dumped pages. -/
theorem rebuildGroups_dump {rebuilt : Fields} (built : rebuildGroups presets = some rebuilt) :
    ∃ pages : List (String × PageTemplate),
      rebuilt = pages.map fun group => (group.1, group.2.dump) := by
  obtain ⟨pages, same, -⟩ := Outcome.mapM_some_image
    (h := fun group : String × PageTemplate => (group.1, group.2.dump)) (fun preset page made => by
      obtain ⟨dumped, dump, rfl⟩ := Option.map_eq_some_iff.mp made
      obtain ⟨template, -, rfl⟩ := Option.map_eq_some_iff.mp dump
      exact ⟨(preset.1, template), rfl⟩) built
  exact ⟨pages, same⟩

/-- The groups that took the place of others stay. -/
theorem newGroups_again {after : Fields} {groups : Fields}
    (made : newGroups known customization presets = some (some groups))
    (stored : after.get "section_groups" .null = .obj groups) :
    newGroups known after presets = some none ∨
      newGroups known after presets = some (some groups) := by
  rcases newGroups_cases made with absent | ⟨cleared, -⟩ |
    ⟨rebuilt, types, same, -, filled, -, -, declared, built⟩
  · cases absent
  · cases cleared
    rw [newGroups]
    simp only [truthy_orDict, stored]
    exact .inl rfl
  · cases same
    obtain ⟨pages, dumped⟩ := rebuildGroups_dump built
    obtain ⟨types, told, texts⟩ := groupTypes_dump pages
    have reads : readDict (orDict (after.get "section_groups" .null)) = some groups := by
      rw [stored, readDict_orDict_obj]
    rw [← dumped] at told
    rcases newGroups_told reads told (anyKnown_texts texts) declared with
      none_ | ⟨-, undeclared⟩ | rebuilds
    · exact .inl none_
    · rw [filled] at undeclared
      cases undeclared
    · rw [rebuilds, built]
      exact .inr rfl

end Groups

section Reconcile
variable [PythonText] [TitleCase] {schemas : Json} {known : List String}
  {customization presets after : Fields}

/-- What is made of a preset with a known section can be rendered, and stays. -/
theorem presetDump_renderable {preset : String × Json} {page : Json}
    (isKnown_ : PresetKnown known preset) (made : presetDump preset = some page) :
    Renderable known page ∧ pageKept known (some page) = some true := by
  obtain ⟨data, items, section_, type, shape, list, member, typed, listed⟩ := isKnown_
  obtain ⟨template, built, rfl⟩ := Option.map_eq_some_iff.mp made
  rw [presetPage, shape] at built
  obtain ⟨found, same, built⟩ := Option.bind_eq_some_iff.mp built
  cases same
  obtain ⟨sections, run, built⟩ := Option.bind_eq_some_iff.mp built
  obtain ⟨name, -, made_⟩ := Option.bind_eq_some_iff.mp built
  cases made_
  have iterates : iterate (Fields.get data "sections" (.arr [])) = some items := by
    rw [Fields.get, list, Option.getD_some]
    cases items <;> rfl
  obtain ⟨id, value, section', inside⟩ := buildFromList_mem run iterates member
  have type_ : value.type = type := by
    obtain ⟨blocks, -, section'⟩ := Option.bind_eq_some_iff.mp section'
    obtain ⟨text, reads, section'⟩ := Option.bind_eq_some_iff.mp section'
    obtain ⟨settings, -, section'⟩ := Option.bind_eq_some_iff.mp section'
    cases section'
    rw [Fields.get, typed, Option.getD_some] at reads
    exact (Option.some.inj reads).symm
  have renderable : Renderable known (PageTemplate.dump ⟨name, sections.1, sections.2⟩) :=
    renderable_dump inside (type_ ▸ listed)
  refine ⟨renderable, ?_⟩
  obtain ⟨kept, told⟩ := Option.isSome_iff_exists.mp
    (@pageKept_dump_isSome known ⟨name, sections.1, sections.2⟩)
  cases kept with
  | true => exact told
  | false => exact absurd told (pageKept_of_renderable renderable)

/-- What a reconciliation that returns has done. -/
theorem reconcileDict_cases (run : reconcileDict customization schemas presets = some after) :
    ((presets.get "templates" .null).truthy = false ∧ after = customization) ∨
    ∃ newTemplates changed groups,
      readDict (orDict (customization.get "templates" .null)) = some (templatesOf customization) ∧
      readDict (orDict (presets.get "templates" .null)) = some (templatesOf presets) ∧
      (presets.get "templates" .null).truthy = true ∧
      repair (pageKept (knownSectionTypes schemas)) presetDump (templatesOf customization)
        (templatesOf presets) = some (newTemplates, changed) ∧
      newGroups (knownSectionTypes schemas) customization presets = some groups ∧
      after = if !changed && groups.isNone then customization
        else groups.elim (customization.put "templates" (.obj newTemplates)) fun groups =>
          (customization.put "templates" (.obj newTemplates)).put "section_groups" (.obj groups) := by
  rw [reconcileDict] at run
  simp only [truthy_orDict] at run
  split at run
  · rename_i undeclared
    cases run
    rw [Bool.not_eq_true'] at undeclared
    exact .inl ⟨undeclared, rfl⟩
  · rename_i declared
    rw [Bool.not_eq_true', Bool.not_eq_false] at declared
    obtain ⟨templates, reads, run⟩ := Option.bind_eq_some_iff.mp run
    obtain ⟨sources, presets_, run⟩ := Option.bind_eq_some_iff.mp run
    obtain ⟨⟨newTemplates, changed⟩, repaired, run⟩ := Option.bind_eq_some_iff.mp run
    obtain ⟨groups, made, run⟩ := Option.bind_eq_some_iff.mp run
    have stored : templatesOf customization = templates := asDict_of_readDict reads
    have named : templatesOf presets = sources := asDict_of_readDict presets_
    refine .inr ⟨newTemplates, changed, groups, ?_, ?_, declared, ?_, made, ?_⟩
    · rw [reads, stored]
    · rw [presets_, named]
    · rw [stored, named, repaired]
    · split at run
      · rename_i same
        rw [if_pos same]
        exact (Option.some.inj run).symm
      · rename_i different
        rw [if_neg different]
        exact (Option.some.inj run).symm

/-- A reconciliation that replaced something, or nothing. -/
structure Replaced (customization after newTemplates : Fields) (groups : Option Fields) : Prop where
  templates : templatesOf after = newTemplates
  stored : after = customization ∨ after.lookup "templates" = some (.obj newTemplates)
  settings : ∀ key, key ≠ "templates" → key ≠ "section_groups" →
    after.lookup key = customization.lookup key
  kept : groups = none → after.lookup "section_groups" = customization.lookup "section_groups"
  new : ∀ made ∈ groups, after.lookup "section_groups" = some (.obj made)

omit [PythonText] [TitleCase] in
theorem replaced_of_eq {newTemplates : Fields} {changed : Bool} {groups : Option Fields}
    (unchanged : changed = false → newTemplates = templatesOf customization)
    (made : after = if !changed && groups.isNone then customization
      else groups.elim (customization.put "templates" (.obj newTemplates)) fun groups =>
        (customization.put "templates" (.obj newTemplates)).put "section_groups" (.obj groups)) :
    Replaced customization after newTemplates groups := by
  have put_templates : (customization.put "templates" (.obj newTemplates)).lookup "templates" =
      some (.obj newTemplates) := by
    rw [Fields.lookup_put, if_pos rfl]
  cases groups with
  | none =>
      cases changed with
      | false =>
          cases made
          refine ⟨(unchanged rfl).symm, .inl rfl, fun _ _ _ => rfl, fun _ => rfl, fun _ found => ?_⟩
          cases found
      | true =>
          cases made
          refine ⟨?_, .inr put_templates, fun key other _ => ?_, fun _ => ?_, fun _ found => ?_⟩
          · rw [templatesOf, Fields.get]
            simp only [Bool.not_true, Bool.false_and, Bool.false_eq_true, if_false, Option.elim_none,
              put_templates, Option.getD_some, asDict]
          · exact (Fields.lookup_put _ _ _ _).trans (if_neg other)
          · exact (Fields.lookup_put _ _ _ _).trans (if_neg (by decide))
          · cases found
  | some groups =>
      have same : after = (customization.put "templates" (.obj newTemplates)).put "section_groups"
          (.obj groups) := by
        rw [made, Option.isNone_some, Bool.and_false]
        rfl
      have templates : after.lookup "templates" = some (.obj newTemplates) := by
        rw [same, Fields.lookup_put, if_neg (by decide), put_templates]
      refine ⟨?_, .inr templates, fun key other other' => ?_, fun none_ => ?_, fun made found => ?_⟩
      · rw [templatesOf, Fields.get, templates]
        rfl
      · rw [same, Fields.lookup_put, if_neg other', Fields.lookup_put, if_neg other]
      · cases none_
      · cases found
        rw [same, Fields.lookup_put, if_pos rfl]

/-- Every preset page of the theme has a section that the theme renders. -/
def PresetsKnown (known : List String) (presets : Fields) : Prop :=
  ∀ preset ∈ templatesOf presets, PresetKnown known preset

theorem reconcile_reconciled (presetsKnown : PresetsKnown (knownSectionTypes schemas) presets)
    (run : reconcileDict customization schemas presets = some after) :
    Reconciled (knownSectionTypes schemas) presets customization after := by
  rcases reconcileDict_cases run with ⟨undeclared, rfl⟩ |
    ⟨newTemplates, changed, groups, -, -, -, repaired, made, same⟩
  · have nothing : templatesOf presets = [] := by
      rw [templatesOf]
      cases declared : presets.get "templates" .null with
      | obj fields =>
          rw [declared] at undeclared
          cases fields with
          | nil => rfl
          | cons field rest => cases undeclared
      | _ => rfl
    refine ⟨fun preset member => ?_, fun _ _ found _ => found, fun _ _ => rfl, fun _ _ _ => rfl,
      fun _ _ => rfl⟩
    rw [nothing] at member
    cases member
  · have replaced : Replaced customization after newTemplates groups := by
      refine replaced_of_eq (fun still => ?_) same
      subst still
      exact repair_unchanged repaired
    refine ⟨fun preset member => ?_, fun name page found renderable => ?_, fun name other => ?_,
      replaced.settings, fun declared rendered => ?_⟩
    · have types : knownSectionTypes schemas ≠ [] := by
        obtain ⟨_, _, _, _, -, -, -, -, listed⟩ := presetsKnown preset member
        exact List.ne_nil_of_mem listed
      rw [replaced.templates]
      refine renderable_of_pageKept types (repair_fine repaired (fun source inside value made => ?_)
        member)
      exact (presetDump_renderable (presetsKnown source inside) made).2
    · rw [replaced.templates, repair_keeps repaired, found]
      rw [found]
      exact pageKept_of_renderable renderable
    · rw [replaced.templates]
      exact Repair.repair_other repaired other
    · apply replaced.kept
      obtain ⟨group, member, renderable⟩ := rendered
      rcases newGroups_cases made with absent | ⟨-, undeclared⟩ |
        ⟨rebuilt, types, -, -, -, told, unknown, -, -⟩
      · exact absent
      · rw [declared] at undeclared
        cases undeclared
      · obtain ⟨type, inside, known_⟩ := mem_groupTypes told member renderable
        rw [anyKnown_eq_false unknown type inside] at known_
        cases known_

/-- A second reconciliation finds nothing to do. -/
theorem reconcile_again (presetsKnown : PresetsKnown (knownSectionTypes schemas) presets)
    (run : reconcileDict customization schemas presets = some after) :
    reconcileDict after schemas presets = some after := by
  rcases reconcileDict_cases run with ⟨-, rfl⟩ |
    ⟨newTemplates, changed, groups, -, declared, filled, repaired, made, same⟩
  · exact run
  · have replaced : Replaced customization after newTemplates groups := by
      refine replaced_of_eq (fun still => ?_) same
      subst still
      exact repair_unchanged repaired
    rcases replaced.stored with rfl | stored
    · exact run
    have again : repair (pageKept (knownSectionTypes schemas)) presetDump newTemplates
        (templatesOf presets) = some (newTemplates, false) :=
      repair_of_fine fun source member => repair_fine repaired
        (fun other inside value made => (presetDump_renderable (presetsKnown other inside) made).2)
        member
    have reads : readDict (orDict (after.get "templates" .null)) = some newTemplates := by
      rw [Fields.get, stored, Option.getD_some, readDict_orDict_obj]
    have rest (found : newGroups (knownSectionTypes schemas) after presets = some none) :
        reconcileDict after schemas presets = some after := by
      rw [reconcileDict]
      simp only [truthy_orDict, filled, reads, declared, again, found, Option.bind_eq_bind,
        Option.bind_some]
      rfl
    cases groups with
    | none =>
        apply rest
        have groups_same : after.get "section_groups" .null =
            customization.get "section_groups" .null := by
          rw [Fields.get, Fields.get, replaced.kept rfl]
        rw [newGroups, groups_same, ← newGroups, made]
    | some groups =>
        have new := replaced.new groups rfl
        have groups_stored : after.get "section_groups" .null = .obj groups := by
          rw [Fields.get, new, Option.getD_some]
        rcases newGroups_again made groups_stored with none_ | same_groups
        · exact rest none_
        · rw [reconcileDict]
          simp only [truthy_orDict, filled, reads, declared, again, same_groups,
            Option.bind_eq_bind, Option.bind_some]
          change some ((after.put "templates" (.obj newTemplates)).put "section_groups"
            (.obj groups)) = some after
          rw [Fields.put, Fields.put, Json.assign_self stored, Json.assign_self new]

omit [PythonText] [TitleCase] in
theorem lookup_dumpEntries (pages : List (String × PageTemplate)) (name : String) :
    (pages.map fun page => (page.1, page.2.dump)).lookup name =
      (pages.lookup name).map PageTemplate.dump := by
  induction pages with
  | nil => rfl
  | cons page rest ih =>
      rw [List.map_cons, Json.lookup_cons_eq_if, Json.lookup_cons_eq_if, ih]
      split <;> rfl

/-- Of validated settings and presets that pages can be made of there is always a result. -/
theorem reconcile_returns (templates : Buildable presets "templates")
    (groups : Buildable presets "section_groups") (settings : ThemeSettingsV3) :
    ∃ after, reconcileDict settings.modelDump schemas presets = some after := by
  obtain ⟨sources, declared, makes⟩ := templates
  obtain ⟨fields, declared', makes'⟩ := groups
  have reads : readDict (orDict (Fields.get settings.modelDump "templates" .null)) =
      some (settings.templates.map fun page => (page.1, page.2.dump)) := readDict_orDict_obj _
  have reads' : readDict (orDict (Fields.get settings.modelDump "section_groups" .null)) =
      some (settings.sectionGroups.map fun page => (page.1, page.2.dump)) := readDict_orDict_obj _
  have repairs : ∃ repaired, repair (pageKept (knownSectionTypes schemas)) presetDump
      (settings.templates.map fun page => (page.1, page.2.dump)) sources = some repaired := by
    refine repair_returns (fun source _ => ?_) fun source member => ?_
    · rw [lookup_dumpEntries]
      cases settings.templates.lookup source.1 with
      | none => rfl
      | some page => exact pageKept_dump_isSome page
    · rw [presetDump, Option.isSome_map]
      exact makes source member
  have groupsMade : ∃ made, newGroups (knownSectionTypes schemas) settings.modelDump presets =
      some made := by
    obtain ⟨types, told, texts⟩ := groupTypes_dump settings.sectionGroups
    have named : groupsOf presets = fields := asDict_of_readDict declared'
    rcases newGroups_told reads' told (anyKnown_texts texts) (named ▸ declared') with
      none_ | ⟨cleared, -⟩ | rebuilds
    · exact ⟨_, none_⟩
    · exact ⟨_, cleared⟩
    · have built : (rebuildGroups presets).isSome := by
        rw [rebuildGroups, named]
        refine Outcome.mapM_isSome fun preset member => ?_
        rw [Option.isSome_map, presetDump, Option.isSome_map]
        exact makes' preset member
      obtain ⟨rebuilt, built⟩ := Option.isSome_iff_exists.mp built
      exact ⟨some rebuilt, by rw [rebuilds, built]; rfl⟩
  obtain ⟨repaired, run⟩ := repairs
  obtain ⟨made, run'⟩ := groupsMade
  rw [reconcileDict]
  split
  · exact ⟨_, rfl⟩
  · simp only [reads, declared, run, run', Option.bind_eq_bind, Option.bind_some]
    split <;> exact ⟨_, rfl⟩

omit [PythonText] [TitleCase] in
theorem map_obj_eq_some_iff {found : Option Fields} {fields : Fields} :
    found.map Json.obj = some (.obj fields) ↔ found = some fields := by
  cases found <;> simp

/-- Reconciling a customization with presets whose pages all have a known section repairs every
page that the presets name, once and for all, and there is a result for all validated settings. -/
theorem reconcile_repairs (customization presets : Fields) (schemas : Json)
    (presetsKnown : PresetsKnown (knownSectionTypes schemas) presets) :
    (∀ after, reconcileV3Customization (.obj customization) schemas (.obj presets) =
        some (.obj after) →
      reconcileV3Customization (.obj after) schemas (.obj presets) = some (.obj after) ∧
        Reconciled (knownSectionTypes schemas) presets customization after) ∧
    (Buildable presets "templates" → Buildable presets "section_groups" →
      ∀ settings : ThemeSettingsV3, customization = settings.modelDump →
        ∃ after, reconcileV3Customization (.obj customization) schemas (.obj presets) =
          some (.obj after)) := by
  constructor
  · intro after run
    have run := map_obj_eq_some_iff.mp run
    exact ⟨map_obj_eq_some_iff.mpr (reconcile_again presetsKnown run),
      reconcile_reconciled presetsKnown run⟩
  · rintro templates groups settings rfl
    obtain ⟨after, run⟩ := reconcile_returns templates groups settings
    exact ⟨after, map_obj_eq_some_iff.mpr run⟩

end Reconcile

/-- `str.title` of one word in small letters. -/
@[reducible] def TitleCase.word : TitleCase where
  title text :=
    match text.toList with
    | [] => ""
    | c :: rest => String.ofList (c.toUpper :: rest)

/-- The presets of a theme that renders its own hero. -/
def heroPresets : Fields :=
  [("templates", .obj [("home", .obj [("sections", .arr [.obj [("type", .str "by-hero")]])])])]

def heroSchemas : Json := .obj [("by-hero", .obj [])]

/-- A home page with one section, and a header. -/
def homePage (type : String) : ThemeSettingsV3 where
  themeId := "bazar"
  templates := [("home", { name := "Home", sections := [("hero_1", { type })] })]
  sectionGroups := [("header", { name := "Header Group" })]

/-- A hero of another theme gives way to the theme's own. -/
theorem stale_hero_repaired :
    letI := PythonText.whole
    letI := TitleCase.word
    ∃ after, reconcileV3Customization (.obj (homePage "hero").modelDump) heroSchemas
        (.obj heroPresets) = some (.obj after) ∧
      reconcileV3Customization (.obj after) heroSchemas (.obj heroPresets) = some (.obj after) ∧
      Reconciled (knownSectionTypes heroSchemas) heroPresets (homePage "hero").modelDump after := by
  let _ := PythonText.whole
  let _ := TitleCase.word
  have known : PresetsKnown (knownSectionTypes heroSchemas) heroPresets := by
    intro preset member
    rw [List.mem_singleton.mp member]
    exact ⟨_, _, _, _, rfl, rfl, List.mem_singleton.mpr rfl, rfl, List.mem_singleton.mpr rfl⟩
  have templates : Buildable heroPresets "templates" := by
    refine ⟨_, rfl, fun preset member => ?_⟩
    rw [List.mem_singleton.mp member]
    rfl
  have groups : Buildable heroPresets "section_groups" := ⟨[], rfl, fun _ member => by cases member⟩
  have repairs := reconcile_repairs (homePage "hero").modelDump heroPresets heroSchemas known
  obtain ⟨after, run⟩ := repairs.2 templates groups (homePage "hero") rfl
  obtain ⟨again, reconciled⟩ := repairs.1 after run
  exact ⟨after, run, again, reconciled⟩

/-- A theme without preset groups clears the stored ones, whatever the templates are. -/
theorem stored_header_cleared :
    letI := PythonText.whole
    letI := TitleCase.word
    PresetsKnown (knownSectionTypes heroSchemas) heroPresets ∧
      ¬ ∀ after, reconcileV3Customization (.obj (homePage "by-hero").modelDump) heroSchemas
          (.obj heroPresets) = some (.obj after) →
        ∀ key, key ≠ "templates" → after.lookup key = (homePage "by-hero").modelDump.lookup key := by
  let _ := PythonText.whole
  let _ := TitleCase.word
  constructor
  · intro preset member
    rw [List.mem_singleton.mp member]
    exact ⟨_, _, _, _, rfl, rfl, List.mem_singleton.mpr rfl, rfl, List.mem_singleton.mpr rfl⟩
  · intro unchanged
    have cleared := unchanged _ rfl "section_groups" (by decide)
    cases cleared

end Numu.Themes.Presets
