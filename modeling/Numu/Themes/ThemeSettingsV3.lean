import Numu.Foundation.Json

/-!
# V3 theme settings

The payload of `customization_v3`: how a document is validated into it, and the
document that `model_dump` makes of it. Keys that a model does not declare are
dropped.
-/

namespace Numu.Themes
open Json (Fields)

def readStr : Json → Option String
  | .str text => some text
  | _ => none

/-- The texts that a `bool` field takes. -/
def boolTexts : List (String × Bool) :=
  [("0", false), ("off", false), ("f", false), ("false", false), ("n", false), ("no", false),
    ("1", true), ("on", true), ("t", true), ("true", true), ("y", true), ("yes", true)]

def readBool : Json → Option Bool
  | .bool value => some value
  | .int value => if value = 0 then some false else if value = 1 then some true else none
  | .float value => if value = 0 then some false else if value = 1 then some true else none
  | .str text => boolTexts.lookup text.toLower
  | _ => none

def readStrList : Json → Option (List String)
  | .arr items => items.mapM readStr
  | _ => none

def readDict : Json → Option Fields
  | .obj fields => some fields
  | _ => none

def readOptional (read : Json → Option α) : Json → Option (Option α)
  | .null => some none
  | value => (read value).map some

/-- A field with a default. -/
def field (fields : Fields) (key : String) (read : Json → Option α) (default : α) : Option α :=
  match fields.lookup key with
  | none => some default
  | some value => read value

def required (fields : Fields) (key : String) (read : Json → Option α) : Option α :=
  (fields.lookup key).bind read

inductive BlockInstance where
  | mk (type : String) (disabled : Bool) (settings : Fields)
      (blocks : List (String × BlockInstance)) (blockOrder : List String)

/-- `validate_block_type`: an app block names its app and its type. -/
def validateBlockType (type : String) : Option String :=
  if "@app/".toList.isPrefixOf type.toList ∧ type.toList.count '/' < 2 then none else some type

mutual

def BlockInstance.validate : Json → Option BlockInstance
  | .obj fields => do
      let type ← (required fields "type" readStr).bind validateBlockType
      let disabled ← field fields "disabled" readBool false
      let settings ← field fields "settings" readDict []
      let blocks ← blocksField fields
      let blockOrder ← field fields "block_order" readStrList []
      return .mk type disabled settings blocks blockOrder
  | _ => none

/-- The field `blocks` of a block. -/
def blocksField : List (String × Json) → Option (List (String × BlockInstance))
  | [] => some []
  | (key, value) :: rest => if key = "blocks" then blocksOf value else blocksField rest

def blocksOf : Json → Option (List (String × BlockInstance))
  | .obj fields => blockEntries fields
  | _ => none

def blockEntries : List (String × Json) → Option (List (String × BlockInstance))
  | [] => some []
  | (key, value) :: rest => do
      let block ← BlockInstance.validate value
      let others ← blockEntries rest
      return (key, block) :: others

end

mutual

def BlockInstance.dump : BlockInstance → Json
  | .mk type disabled settings blocks blockOrder => .obj [
      ("type", .str type),
      ("disabled", .bool disabled),
      ("settings", .obj settings),
      ("blocks", .obj (dumpBlocks blocks)),
      ("block_order", .arr (blockOrder.map .str))]

def dumpBlocks : List (String × BlockInstance) → List (String × Json)
  | [] => []
  | (key, block) :: rest => (key, block.dump) :: dumpBlocks rest

end

/-- A dictionary of models. -/
def readEntries (read : Json → Option α) : Json → Option (List (String × α))
  | .obj fields => fields.mapM fun entry => (read entry.2).map fun value => (entry.1, value)
  | _ => none

def dumpEntries (dump : α → Json) (entries : List (String × α)) : Json :=
  .obj (entries.map fun entry => (entry.1, dump entry.2))

structure SectionInstance where
  type : String
  disabled : Bool := false
  settings : Fields := []
  blocks : List (String × BlockInstance) := []
  blockOrder : List String := []

def SectionInstance.validate : Json → Option SectionInstance
  | .obj fields => do
      let type ← required fields "type" readStr
      let disabled ← field fields "disabled" readBool false
      let settings ← field fields "settings" readDict []
      let blocks ← blocksField fields
      let blockOrder ← field fields "block_order" readStrList []
      return { type, disabled, settings, blocks, blockOrder }
  | _ => none

def SectionInstance.dump (instance_ : SectionInstance) : Json :=
  .obj [
    ("type", .str instance_.type),
    ("disabled", .bool instance_.disabled),
    ("settings", .obj instance_.settings),
    ("blocks", .obj (dumpBlocks instance_.blocks)),
    ("block_order", .arr (instance_.blockOrder.map .str))]

/-- `PageTemplate`, and `SectionGroup`, which has the same fields. -/
structure PageTemplate where
  name : String
  sections : List (String × SectionInstance) := []
  order : List String := []

abbrev SectionGroup := PageTemplate

def PageTemplate.validate : Json → Option PageTemplate
  | .obj fields => do
      let name ← required fields "name" readStr
      let sections ← field fields "sections" (readEntries SectionInstance.validate) []
      let order ← field fields "order" readStrList []
      return { name, sections, order }
  | _ => none

def PageTemplate.dump (template : PageTemplate) : Json :=
  .obj [
    ("name", .str template.name),
    ("sections", dumpEntries SectionInstance.dump template.sections),
    ("order", .arr (template.order.map .str))]

inductive BundleMode where
  | production
  | development
  deriving DecidableEq, Repr

def BundleMode.value : BundleMode → String
  | .production => "production"
  | .development => "development"

def readMode : Json → Option BundleMode
  | .str "production" => some .production
  | .str "development" => some .development
  | _ => none

/-- `settings_schema: list[Any] | dict[str, Any]`. -/
def readSchema : Json → Option Json
  | .arr items => some (.arr items)
  | .obj fields => some (.obj fields)
  | _ => none

structure ExternalThemeMetadata where
  bundleUrl : String
  cssUrl : Option String := none
  checksum : Option String := none
  serverChecksum : Option String := none
  settingsSchema : Option Json := none
  sectionSchemas : Option Fields := none
  manifest : Option Fields := none
  mode : Option BundleMode := some .production
  devUrl : Option String := none
  errorTemplateUrl : Option String := none
  loadingTemplateUrl : Option String := none

/-- `_is_allowed_bundle_url`, which depends on the hosts that the platform is configured with. -/
abbrev Allowlist := (url : String) → (mode : BundleMode) → Bool

/-- An optional URL passes when it is absent, empty or on the allowlist. -/
def passes (allowed : Allowlist) (mode : BundleMode) (url : Option String) : Bool :=
  url.all fun text => text = "" || allowed text mode

/-- `_enforce_bundle_allowlist`. -/
def ExternalThemeMetadata.allowlisted (allowed : Allowlist) (metadata : ExternalThemeMetadata) :
    Bool :=
  let mode := metadata.mode.getD .production
  allowed metadata.bundleUrl mode && passes allowed mode metadata.cssUrl &&
    passes allowed .development metadata.devUrl &&
    passes allowed mode metadata.errorTemplateUrl &&
    passes allowed mode metadata.loadingTemplateUrl

def ExternalThemeMetadata.enforced (allowed : Allowlist) (metadata : ExternalThemeMetadata) :
    Option ExternalThemeMetadata :=
  if metadata.allowlisted allowed then some metadata else none

def ExternalThemeMetadata.validate (allowed : Allowlist) : Json → Option ExternalThemeMetadata
  | .obj fields => do
      let bundleUrl ← required fields "bundle_url" readStr
      let cssUrl ← field fields "css_url" (readOptional readStr) none
      let checksum ← field fields "checksum" (readOptional readStr) none
      let serverChecksum ← field fields "server_checksum" (readOptional readStr) none
      let settingsSchema ← field fields "settings_schema" (readOptional readSchema) none
      let sectionSchemas ← field fields "section_schemas" (readOptional readDict) none
      let manifest ← field fields "manifest" (readOptional readDict) none
      let mode ← field fields "mode" (readOptional readMode) (some .production)
      let devUrl ← field fields "dev_url" (readOptional readStr) none
      let errorTemplateUrl ← field fields "error_template_url" (readOptional readStr) none
      let loadingTemplateUrl ← field fields "loading_template_url" (readOptional readStr) none
      ExternalThemeMetadata.enforced allowed
        { bundleUrl, cssUrl, checksum, serverChecksum, settingsSchema, sectionSchemas, manifest,
          mode, devUrl, errorTemplateUrl, loadingTemplateUrl }
  | _ => none

def dumpOptional (dump : α → Json) : Option α → Json
  | none => .null
  | some value => dump value

def ExternalThemeMetadata.dump (metadata : ExternalThemeMetadata) : Json :=
  .obj [
    ("bundle_url", .str metadata.bundleUrl),
    ("css_url", dumpOptional .str metadata.cssUrl),
    ("checksum", dumpOptional .str metadata.checksum),
    ("server_checksum", dumpOptional .str metadata.serverChecksum),
    ("settings_schema", dumpOptional id metadata.settingsSchema),
    ("section_schemas", dumpOptional .obj metadata.sectionSchemas),
    ("manifest", dumpOptional .obj metadata.manifest),
    ("mode", dumpOptional (fun mode => .str mode.value) metadata.mode),
    ("dev_url", dumpOptional .str metadata.devUrl),
    ("error_template_url", dumpOptional .str metadata.errorTemplateUrl),
    ("loading_template_url", dumpOptional .str metadata.loadingTemplateUrl)]

structure ThemeSettingsV3 where
  themeId : String
  globalSettings : Fields := []
  templates : List (String × PageTemplate) := []
  sectionGroups : List (String × SectionGroup) := []
  externalTheme : Option ExternalThemeMetadata := none

/-- `Literal[3]`. -/
def readSchemaVersion : Json → Option Unit
  | .int 3 => some ()
  | _ => none

def ThemeSettingsV3.validate (allowed : Allowlist) (fields : Fields) : Option ThemeSettingsV3 := do
  let _ ← field fields "schema_version" readSchemaVersion ()
  let themeId ← required fields "theme_id" readStr
  let globalSettings ← field fields "global_settings" readDict []
  let templates ← field fields "templates" (readEntries PageTemplate.validate) []
  let sectionGroups ← field fields "section_groups" (readEntries PageTemplate.validate) []
  let externalTheme ←
    field fields "external_theme" (readOptional (ExternalThemeMetadata.validate allowed)) none
  return { themeId, globalSettings, templates, sectionGroups, externalTheme }

/-- What is dumped next to the external theme. -/
def ThemeSettingsV3.pages (settings : ThemeSettingsV3) : Fields := [
  ("schema_version", .int 3),
  ("theme_id", .str settings.themeId),
  ("global_settings", .obj settings.globalSettings),
  ("templates", dumpEntries PageTemplate.dump settings.templates),
  ("section_groups", dumpEntries PageTemplate.dump settings.sectionGroups)]

def ThemeSettingsV3.modelDump (settings : ThemeSettingsV3) : Fields :=
  settings.pages ++
    [("external_theme", dumpOptional ExternalThemeMetadata.dump settings.externalTheme)]

@[simp] theorem ThemeSettingsV3.pop_externalTheme (settings : ThemeSettingsV3) :
    settings.modelDump.pop "external_theme" = settings.pages := rfl

section Texts
variable {plain : String → Prop} {source : List String}

/-- A reader whose values are dumped with texts of what was read. -/
def Faithful (plain : String → Prop) (source : List String) (read : Json → Option α)
    (dump : α → Json) : Prop :=
  ∀ doc value, read doc = some value → Json.Within plain source doc →
    Json.Within plain source (dump value)

theorem readStr_faithful : Faithful plain source readStr .str := by
  intro doc text reads within
  cases doc with
  | str found =>
      cases reads
      exact within
  | _ => cases reads

theorem readDict_faithful : Faithful plain source readDict .obj := by
  intro doc fields reads within
  cases doc with
  | obj found =>
      cases reads
      exact within
  | _ => cases reads

theorem readSchema_faithful : Faithful plain source readSchema id := by
  intro doc value reads within
  cases doc with
  | arr items =>
      cases reads
      exact within
  | obj fields =>
      cases reads
      exact within
  | _ => cases reads

theorem readMode_faithful (here : ∀ mode : BundleMode, plain mode.value) :
    Faithful plain source readMode fun mode => .str mode.value :=
  fun _ mode _ _ => Json.within_str (Or.inl (here mode))

theorem readOptional_faithful {read : Json → Option α} {dump : α → Json}
    (faithful : Faithful plain source read dump) :
    Faithful plain source (readOptional read) (dumpOptional dump) := by
  intro doc value reads within
  cases value with
  | none => exact fun _ mem => by cases mem
  | some value =>
      have inner : read doc = some value := by
        cases doc with
        | null => cases reads
        | _ =>
            rcases Option.map_eq_some_iff.mp reads with ⟨found, inner, same⟩
            cases same
            exact inner
      exact faithful doc value inner within

variable {fields : Json.Fields} {key : String}

theorem field_faithful {read : Json → Option α} {dump : α → Json} {default value : α}
    (faithful : Faithful plain source read dump)
    (otherwise : Json.Within plain source (dump default))
    (within : Json.Within plain source (.obj fields))
    (reads : field fields key read default = some value) :
    Json.Within plain source (dump value) := by
  rw [field.eq_def] at reads
  split at reads
  · cases reads
    exact otherwise
  · rename_i found present
    exact faithful found value reads (Json.within_lookup within present)

theorem required_faithful {read : Json → Option α} {dump : α → Json} {value : α}
    (faithful : Faithful plain source read dump)
    (within : Json.Within plain source (.obj fields))
    (reads : required fields key read = some value) : Json.Within plain source (dump value) := by
  rcases Option.bind_eq_some_iff.mp reads with ⟨found, present, inner⟩
  exact faithful found value inner (Json.within_lookup within present)

end Texts
end Numu.Themes
