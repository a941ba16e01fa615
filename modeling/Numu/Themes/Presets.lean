import Numu.Foundation.Calendar
import Numu.Foundation.Outcome
import Numu.Foundation.Repair
import Numu.Themes.ThemeSettingsV3
import Numu.Themes.UpdateClassifier

/-!
# Customizations and the presets of a theme

`reconcile_v3_customization` replaces the pages of a customization that the active theme cannot
render by the pages of its presets. Nothing stands for an exception.
-/

namespace Numu.Themes.Presets
open Json (Fields assign)

/-- `str.title`. -/
class TitleCase where
  title : String → String

/-- `value or {}`. -/
def orDict (value : Json) : Json := if value.truthy then value else .obj []

/-- What a loop over `value or []` goes through; there is none over a number. -/
def iterate (value : Json) : Option (List Json) :=
  if value.truthy then
    match value with
    | .arr items => some items
    | .obj fields => some (fields.map fun field => .str field.1)
    | .str text => some (text.toList.map fun c => .str (String.singleton c))
    | _ => none
  else some []

/-- Whether the theme renders a section of this type, which is any value. -/
def isKnown (known : List String) : Json → Bool
  | .str type => type ∈ known
  | _ => false

/-- `any(t in known for t in types)`, which raises at a type that has no hash. -/
def anyKnown (known : List String) : List Json → Option Bool
  | [] => some false
  | type :: rest =>
      if hashable type then if isKnown known type then some true else anyKnown known rest
      else none

def sectionTypes (sections : Fields) : List Json :=
  sections.filterMap fun entry =>
    match entry.2 with
    | .obj section_ => some (Fields.get section_ "type" .null)
    | _ => none

/-- The types of the sections of a group; what is no dictionary has none. -/
def typesInGroup : Json → Option (List Json)
  | .obj group => (readDict (orDict (Fields.get group "sections" .null))).map sectionTypes
  | _ => some []

def groupTypes (groups : Fields) : Option (List Json) := do
  let types ← groups.mapM fun group => typesInGroup group.2
  return types.flatten

/-- Whether a page stays: it has sections, and one of them is known where any type is. -/
def pageKept (known : List String) (page : Option Json) : Option Bool := do
  let existing ← readDict (orDict (page.getD .null))
  let sections := orDict (existing.get "sections" .null)
  if !sections.truthy then some false
  else if known.isEmpty then some true
  else anyKnown known (sectionTypes (← readDict sections))

variable [PythonText]

/-- `_known_section_types`. -/
def knownSectionTypes : Json → List String
  | .obj schemas =>
      match Fields.get schemas "sections" .null with
      | .obj inner => inner.map Prod.fst
      | _ => schemas.map Prod.fst
  | .arr schemas => schemas.filterMap fun schema =>
      match schema with
      | .obj fields =>
          let type := Fields.get fields "type" .null
          if type.truthy then some (pyStr type) else none
      | _ => none
  | _ => []

/-- One round of the loops of `_build_sections_from_list`: what is no dictionary is passed over. -/
def buildItem {α : Type} (default : String) (make : Fields → Option α)
    (built : List (String × α) × List String) (item : Json × Nat) :
    Option (List (String × α) × List String) :=
  match item.1 with
  | .obj data => do
      let value ← make data
      let id := pyStr (Fields.get data "type" (.str default)) ++ "-" ++ toString item.2
      return (assign built.1 id value, built.2 ++ [id])
  | _ => some built

def buildFromList {α : Type} (default : String) (make : Fields → Option α) (list : Json) :
    Option (List (String × α) × List String) := do
  let items ← iterate list
  items.zipIdx.foldlM (buildItem default make) ([], [])

def presetBlock (data : Fields) : Option BlockInstance := do
  let type ← (readStr (data.get "type" (.str "text"))).bind validateBlockType
  let settings ← readDict (data.get "settings" (.obj []))
  return .mk type false settings [] []

def presetSection (data : Fields) : Option SectionInstance := do
  let (blocks, blockOrder) ← buildFromList "block" presetBlock (data.get "blocks" (.arr []))
  let type ← readStr (data.get "type" (.str "generic"))
  let settings ← readDict (data.get "settings" (.obj []))
  return { type, settings, blocks, blockOrder }

/-- `_build_sections_from_list`. -/
def buildSectionsFromList : Json → Option (List (String × SectionInstance) × List String) :=
  buildFromList "section" presetSection

variable [TitleCase]

/-- The page of a preset, or its section group. -/
def presetPage (preset : String × Json) : Option PageTemplate := do
  let data ← readDict preset.2
  let (sections, order) ← buildSectionsFromList (data.get "sections" (.arr []))
  let name ← readStr (data.get "name" (.str (TitleCase.title preset.1)))
  return { name, sections, order }

def presetDump (preset : String × Json) : Option Json := (presetPage preset).map PageTemplate.dump

/-- The section groups that take the place of the stored ones, if any do. -/
def newGroups (known : List String) (customization presets : Fields) : Option (Option Fields) :=
  let groups := orDict (customization.get "section_groups" .null)
  let presetGroups := orDict (presets.get "section_groups" .null)
  if !groups.truthy then some none
  else if !presetGroups.truthy then some (some [])
  else if known.isEmpty then some none
  else do
    let types ← groupTypes (← readDict groups)
    if types.isEmpty then return none
    else if ← anyKnown known types then return none
    else
      let rebuilt ← (← readDict presetGroups).mapM fun preset =>
        (presetDump preset).map fun page => (preset.1, page)
      return some rebuilt

def reconcileDict (customization : Fields) (sectionSchemas : Json) (presets : Fields) :
    Option Fields :=
  let presetTemplates := orDict (presets.get "templates" .null)
  if !presetTemplates.truthy then some customization
  else do
    let known := knownSectionTypes sectionSchemas
    let templates ← readDict (orDict (customization.get "templates" .null))
    let sources ← readDict presetTemplates
    let (newTemplates, changed) ← Repair.repair (pageKept known) presetDump templates sources
    let groups ← newGroups known customization presets
    if !changed && groups.isNone then return customization
    else
      let result := customization.put "templates" (.obj newTemplates)
      return groups.elim result fun groups => result.put "section_groups" (.obj groups)

/-- `reconcile_v3_customization`. -/
def reconcileV3Customization (customization sectionSchemas presets : Json) : Option Json :=
  match customization, presets with
  | .obj stored, .obj presets => (reconcileDict stored sectionSchemas presets).map .obj
  | customization, _ => some customization

end Numu.Themes.Presets

/-!
# Pages that a theme can render

A page is renderable when it holds a section of a known type. The page that is built from a preset
has a section for each dictionary in the preset's list, under an id of its own.
-/

namespace Numu.Themes.Presets
open Json (Fields assign)

/-- A page with a section that the theme renders. -/
def Renderable (known : List String) (page : Json) : Prop :=
  ∃ fields sections key section_ type, page = .obj fields ∧
    fields.lookup "sections" = some (.obj sections) ∧ (key, .obj section_) ∈ sections ∧
    List.lookup "type" section_ = some (.str type) ∧ type ∈ known

section Types
variable {known : List String} {types : List Json}

theorem isKnown_iff {type : Json} : isKnown known type = true ↔ ∃ text ∈ known, type = .str text := by
  cases type <;> simp [isKnown]

theorem anyKnown_eq_true (told : anyKnown known types = some true) :
    ∃ type ∈ types, isKnown known type = true := by
  induction types with
  | nil => cases told
  | cons type rest ih =>
      rw [anyKnown] at told
      split at told
      · split at told
        · rename_i here
          exact ⟨type, List.mem_cons_self, here⟩
        · obtain ⟨other, member, there⟩ := ih told
          exact ⟨other, List.mem_cons_of_mem _ member, there⟩
      · cases told

theorem anyKnown_eq_false (told : anyKnown known types = some false) :
    ∀ type ∈ types, isKnown known type = false := by
  induction types with
  | nil => exact fun _ member => by cases member
  | cons type rest ih =>
      rw [anyKnown] at told
      split at told
      · split at told
        · cases told
        · rename_i unknown
          intro other member
          rcases List.mem_cons.mp member with rfl | later
          · exact Bool.eq_false_iff.mpr unknown
          · exact ih told other later
      · cases told

/-- Of texts it can always be told. -/
theorem anyKnown_texts (texts : ∀ type ∈ types, ∃ text, type = .str text) :
    (anyKnown known types).isSome := by
  induction types with
  | nil => rfl
  | cons type rest ih =>
      obtain ⟨text, rfl⟩ := texts type List.mem_cons_self
      have later := ih fun other member => texts other (List.mem_cons_of_mem _ member)
      have hashes : hashable (.str text) = true := rfl
      rw [anyKnown, if_pos hashes]
      split
      · rfl
      · exact later

theorem mem_sectionTypes {sections : Fields} {type : Json} :
    type ∈ sectionTypes sections ↔
      ∃ key section_, (key, .obj section_) ∈ sections ∧ Fields.get section_ "type" .null = type := by
  simp only [sectionTypes, List.mem_filterMap]
  constructor
  · rintro ⟨⟨key, value⟩, member, picked⟩
    cases value with
    | obj section_ => exact ⟨key, section_, member, Option.some.inj picked⟩
    | _ => cases picked
  · rintro ⟨key, section_, member, same⟩
    exact ⟨(key, .obj section_), member, congrArg some same⟩

/-- A known type is a text that stands in the section. -/
theorem known_type_iff {section_ : Fields} :
    isKnown known (section_.get "type" .null) = true ↔
      ∃ type, section_.lookup "type" = some (.str type) ∧ type ∈ known := by
  rw [isKnown_iff, Fields.get]
  cases section_.lookup "type" with
  | none => simp
  | some type => simp [and_comm]

end Types

theorem orDict_obj (fields : Fields) : orDict (.obj fields) = .obj fields := by
  cases fields <;> rfl

/-- What a dictionary or nothing is read as. -/
theorem asDict_of_readDict {value : Json} {fields : Fields}
    (reads : readDict (orDict value) = some fields) : asDict value = fields := by
  cases value with
  | obj found =>
      rw [orDict_obj] at reads
      exact Option.some.inj reads
  | _ =>
      rw [orDict] at reads
      split at reads
      · cases reads
      · exact Option.some.inj reads

/-- What is not empty is read from a dictionary. -/
theorem eq_obj_of_readDict {value : Json} {fields : Fields}
    (reads : readDict (orDict value) = some fields) (filled : fields ≠ []) :
    value = .obj fields := by
  have dict := asDict_of_readDict reads
  cases value with
  | obj found => exact congrArg Json.obj dict
  | _ => exact absurd dict.symm filled

section Pages
variable {known : List String} {page : Json}

/-- A page that is a dictionary with a dictionary of sections. -/
theorem pageKept_dict {fields sections : Fields}
    (found : List.lookup "sections" fields = some (.obj sections)) :
    pageKept known (some (.obj fields)) =
      if sections = [] then some false else if known.isEmpty then some true
      else anyKnown known (sectionTypes sections) := by
  have within : orDict (Fields.get fields "sections" .null) = .obj sections := by
    rw [Fields.get, found, Option.getD_some, orDict_obj]
  have reads : readDict (orDict (.obj fields)) = some fields := by
    rw [orDict_obj]
    rfl
  rw [pageKept, Option.getD_some, reads]
  simp only [Option.bind_eq_bind, Option.bind_some, within, readDict, Json.truthy]
  cases sections <;> rfl

/-- A renderable page is not replaced. -/
theorem pageKept_of_renderable (renderable : Renderable known page) :
    pageKept known (some page) ≠ some false := by
  obtain ⟨fields, sections, key, section_, type, rfl, found, member, typed, listed⟩ := renderable
  have types : known.isEmpty ≠ true := by
    rw [ne_eq, List.isEmpty_iff]
    exact List.ne_nil_of_mem listed
  rw [pageKept_dict found, if_neg (List.ne_nil_of_mem member), if_neg types]
  intro replaced
  have here : Fields.get section_ "type" .null ∈ sectionTypes sections :=
    mem_sectionTypes.mpr ⟨key, section_, member, rfl⟩
  have unknown := anyKnown_eq_false replaced _ here
  rw [known_type_iff.mpr ⟨type, typed, listed⟩] at unknown
  cases unknown

/-- A page that stays where types are known is there and renderable. -/
theorem renderable_of_pageKept {page : Option Json} (types : known ≠ [])
    (kept : pageKept known page = some true) : ∃ json, page = some json ∧ Renderable known json := by
  rw [pageKept] at kept
  obtain ⟨fields, reads, kept⟩ := Option.bind_eq_some_iff.mp kept
  have some_known : known.isEmpty = false := List.isEmpty_eq_false_iff.mpr types
  simp only [some_known, Bool.false_eq_true, if_false] at kept
  split at kept
  · cases kept
  · obtain ⟨sections, within, told⟩ := Option.bind_eq_some_iff.mp kept
    obtain ⟨type, member, known_⟩ := anyKnown_eq_true told
    obtain ⟨key, section_, inside, rfl⟩ := mem_sectionTypes.mp member
    obtain ⟨text, typed, listed⟩ := known_type_iff.mp known_
    have inner := eq_obj_of_readDict within (List.ne_nil_of_mem inside)
    have found : List.lookup "sections" fields = some (.obj sections) := by
      rw [Fields.get] at inner
      cases there : List.lookup "sections" fields with
      | none =>
          rw [there] at inner
          cases inner
      | some value =>
          rw [there] at inner
          exact congrArg some inner
    have nonempty : fields ≠ [] := by
      rintro rfl
      cases found
    have outer := eq_obj_of_readDict reads nonempty
    cases page with
    | none => cases outer
    | some json =>
        exact ⟨json, rfl, fields, sections, key, section_, text, outer, found, inside, typed, listed⟩

end Pages

section Dumps
variable {known : List String}

/-- The types of dumped sections are texts. -/
theorem sectionTypes_dump (sections : List (String × SectionInstance)) :
    sectionTypes (sections.map fun entry => (entry.1, entry.2.dump)) =
      sections.map fun entry => .str entry.2.type := by
  induction sections with
  | nil => rfl
  | cons entry rest ih =>
      rw [List.map_cons, List.map_cons, ← ih]
      rfl

theorem pageKept_dump (page : PageTemplate) :
    pageKept known (some page.dump) =
      if page.sections = [] then some false else if known.isEmpty then some true
      else anyKnown known (page.sections.map fun entry => .str entry.2.type) := by
  have found : List.lookup "sections" [("name", Json.str page.name),
      ("sections", dumpEntries SectionInstance.dump page.sections),
      ("order", .arr (page.order.map .str))] =
      some (.obj (page.sections.map fun entry => (entry.1, entry.2.dump))) := rfl
  rw [PageTemplate.dump, pageKept_dict found, sectionTypes_dump]
  simp only [List.map_eq_nil_iff]

/-- Of the pages of a validated customization it can always be told. -/
theorem pageKept_dump_isSome (page : PageTemplate) : (pageKept known (some page.dump)).isSome := by
  rw [pageKept_dump]
  split
  · rfl
  · split
    · rfl
    · apply anyKnown_texts
      intro type member
      obtain ⟨entry, -, rfl⟩ := List.mem_map.mp member
      exact ⟨entry.2.type, rfl⟩

theorem renderable_dump {page : PageTemplate} {entry : String × SectionInstance}
    (member : entry ∈ page.sections) (listed : entry.2.type ∈ known) :
    Renderable known page.dump := by
  have inside : (entry.1, entry.2.dump) ∈
      page.sections.map fun entry => (entry.1, entry.2.dump) :=
    List.mem_map_of_mem (f := fun entry : String × SectionInstance => (entry.1, entry.2.dump)) member
  exact ⟨_, _, entry.1, _, entry.2.type, rfl, rfl, inside, rfl, listed⟩

theorem typesInGroup_dump (group : PageTemplate) :
    typesInGroup group.dump = some (group.sections.map fun entry => .str entry.2.type) := by
  change (readDict (orDict (.obj (group.sections.map fun entry => (entry.1, entry.2.dump))))).map
    sectionTypes = _
  rw [orDict_obj, ← sectionTypes_dump]
  rfl

/-- The types in the groups of a validated customization are texts. -/
theorem groupTypes_dump (groups : List (String × PageTemplate)) :
    ∃ types, groupTypes (groups.map fun group => (group.1, group.2.dump)) = some types ∧
      ∀ type ∈ types, ∃ text, type = .str text := by
  have each : (groups.map fun group => (group.1, group.2.dump)).mapM
      (fun group => typesInGroup group.2) =
      some (groups.map fun group => group.2.sections.map fun entry => .str entry.2.type) := by
    rw [List.mapM_map]
    exact Outcome.mapM_some fun group _ => typesInGroup_dump group.2
  refine ⟨_, by rw [groupTypes, each]; rfl, fun type member => ?_⟩
  obtain ⟨types, inside, here⟩ := List.mem_flatten.mp member
  obtain ⟨group, -, rfl⟩ := List.mem_map.mp inside
  obtain ⟨entry, -, rfl⟩ := List.mem_map.mp here
  exact ⟨entry.2.type, rfl⟩

end Dumps

section Building

/-- An id that ends in a number names the number. -/
theorem numbered_injective {first second : String} {n m : Nat}
    (same : first ++ "-" ++ toString n = second ++ "-" ++ toString m) : n = m := by
  have reversed (text : String) (n : Nat) : (text ++ "-" ++ toString n).toList.reverse =
      (Nat.toDigits 10 n).reverse ++ '-' :: text.toList.reverse := by
    simp [Nat.repr]
  have digits (n : Nat) : ∀ c ∈ (Nat.toDigits 10 n).reverse, c.isDigit := fun c member =>
    IntegerText.toDigits_isDigit n c (List.mem_reverse.mp member)
  have chars := congrArg (fun text : String => text.toList.reverse) same
  simp only [reversed] at chars
  obtain ⟨number, -, -⟩ :=
    Calendar.digits_split (digits n) (digits m) (by decide) (by decide) chars
  have value (n : Nat) : Nat.ofDigitChars 10 (Nat.toDigits 10 n) 0 = n :=
    Nat.ofDigitChars_ten_toDigits
  rw [← value n, List.reverse_injective number, value]

variable [PythonText] {α : Type} {default : String} {make : Fields → Option α}
  {items : List Json} {built after : List (String × α) × List String}

/-- The ids so far end in smaller numbers. -/
def Numbered (bound : Nat) (entries : List (String × α)) : Prop :=
  ∀ entry ∈ entries, ∃ text n, n < bound ∧ entry.1 = text ++ "-" ++ toString n

/-- What is built from the rest of a list: nothing is lost, and each dictionary gets its entry. -/
theorem build_run {start : Nat} (numbered : Numbered start built.1)
    (run : (items.zipIdx start).foldlM (buildItem default make) built = some after) :
    (∀ entry ∈ built.1, entry ∈ after.1) ∧
      ∀ data, .obj data ∈ items → ∃ id value, make data = some value ∧ (id, value) ∈ after.1 := by
  induction items generalizing start built with
  | nil =>
      cases run
      exact ⟨fun _ member => member, fun _ member => by cases member⟩
  | cons item rest ih =>
      rw [List.zipIdx_cons, List.foldlM_cons] at run
      obtain ⟨mid, step, onward⟩ := Option.bind_eq_some_iff.mp run
      have skipped (same : mid = built) (other : ∀ data, item ≠ .obj data) :
          (∀ entry ∈ built.1, entry ∈ after.1) ∧
          ∀ data, .obj data ∈ item :: rest →
            ∃ id value, make data = some value ∧ (id, value) ∈ after.1 := by
        subst same
        have wider : Numbered (start + 1) mid.1 := fun entry member => by
          obtain ⟨text, n, below, id_⟩ := numbered entry member
          exact ⟨text, n, Nat.lt_succ_of_lt below, id_⟩
        obtain ⟨kept, each⟩ := ih wider onward
        refine ⟨kept, fun data member => ?_⟩
        rcases List.mem_cons.mp member with here | later
        · exact absurd here.symm (other data)
        · exact each data later
      cases item with
      | obj data =>
          obtain ⟨value, made, step⟩ := Option.bind_eq_some_iff.mp step
          cases step
          have fresh : ∀ entry ∈ built.1,
              entry.1 ≠ pyStr (Fields.get data "type" (.str default)) ++ "-" ++ toString start := by
            intro entry member same
            obtain ⟨text, n, below, id_⟩ := numbered entry member
            have equal := numbered_injective (id_.symm.trans same)
            omega
          have appended := Json.assign_of_fresh fresh value
          have wider : Numbered (start + 1)
              (assign built.1 (pyStr (Fields.get data "type" (.str default)) ++ "-" ++
                toString start) value) := by
            rw [appended]
            intro entry member
            rcases List.mem_append.mp member with old | new
            · obtain ⟨text, n, below, id_⟩ := numbered entry old
              exact ⟨text, n, Nat.lt_succ_of_lt below, id_⟩
            · rw [List.mem_singleton.mp new]
              exact ⟨_, start, Nat.lt_succ_self start, rfl⟩
          obtain ⟨kept, each⟩ := ih wider onward
          rw [appended] at kept
          refine ⟨fun entry member => kept entry (List.mem_append_left _ member), ?_⟩
          intro other member
          rcases List.mem_cons.mp member with here | later
          · cases here
            exact ⟨_, value, made, kept _ (List.mem_append_right _ (List.mem_singleton.mpr rfl))⟩
          · exact each other later
      | _ => exact skipped (Option.some.inj step).symm nofun

theorem buildFromList_mem {list : Json} {data : Fields}
    (run : buildFromList default make list = some built) (items_ : iterate list = some items)
    (member : .obj data ∈ items) : ∃ id value, make data = some value ∧ (id, value) ∈ built.1 := by
  obtain ⟨found, iterates, run⟩ := Option.bind_eq_some_iff.mp run
  rw [items_] at iterates
  cases iterates
  exact (build_run (fun _ member => by cases member) run).2 data member

end Building

end Numu.Themes.Presets
