import Numu.Themes.ThemeSettingsV3

/-! The legacy view of V3 settings, and the V3 view of legacy settings. -/

namespace Numu.Themes
open Json (Fields)

/-- What the settings are validated and normalized with. -/
structure Platform where
  allowed : Allowlist
  /-- `NUMU_DEFAULT_THEME_ID`. -/
  defaultThemeId : String

def legacyHero (settings : Fields) : Json :=
  .obj [
    ("headline", settings.get "headline" (.str "")),
    ("headline_ar", settings.get "headline_ar" (.str "")),
    ("subtitle", settings.get "subtitle" (.str "")),
    ("hero_image_url", settings.get "background_image" (.str "")),
    ("cta_text", settings.get "cta_text" (.str "")),
    ("cta_link", settings.get "cta_link" (.str ""))]

def legacyHomeSection (legacy : Fields) (section_ : String × SectionInstance) : Fields :=
  if section_.2.type = "hero" then legacy.put "hero" (legacyHero section_.2.settings)
  else if section_.2.type = "featured-collection" ∨ section_.2.type = "featured-products" then
    legacy.put "products" (.obj section_.2.settings)
  else legacy

/-- The sections of a group that carry the group's own type. -/
def legacyGroupSection (type : String) (legacy : Fields) (section_ : String × SectionInstance) :
    Fields :=
  if section_.2.type = type then legacy.put type (.obj section_.2.settings) else legacy

def legacyTheme (v3 : ThemeSettingsV3) : Fields :=
  v3.globalSettings.foldl (fun theme entry => theme.put entry.1 entry.2)
    [("base_theme", .str v3.themeId)]

def legacyExternalTheme (metadata : ExternalThemeMetadata) : Json :=
  .obj [
    ("bundle_url", .str metadata.bundleUrl),
    ("css_url", dumpOptional .str metadata.cssUrl),
    ("mode", .str (metadata.mode.getD .production).value)]

def mapV3ToLegacyStoreSettings (v3 : ThemeSettingsV3) : Fields :=
  let legacy : Fields := [
    ("schema_version", .int 2),
    ("theme", .obj (legacyTheme v3)),
    ("identity", v3.globalSettings.get "identity" (.obj []))]
  let legacy := match v3.templates.lookup "home" with
    | some home => home.sections.foldl legacyHomeSection legacy
    | none => legacy
  let legacy := match v3.sectionGroups.lookup "header" with
    | some group => group.sections.foldl (legacyGroupSection "header") legacy
    | none => legacy
  let legacy := match v3.sectionGroups.lookup "footer" with
    | some group => group.sections.foldl (legacyGroupSection "footer") legacy
    | none => legacy
  match v3.externalTheme with
  | some metadata => legacy.put "external_theme" (legacyExternalTheme metadata)
  | none => legacy

/-- `theme_block.get("base_theme") or _default_theme_id()`. -/
def baseTheme (platform : Platform) (themeBlock : Fields) : Option String :=
  if (themeBlock.get "base_theme" .null).truthy then
    readStr (themeBlock.get "base_theme" .null)
  else some platform.defaultThemeId

def themeKeys : List String := ["primary_color", "secondary_color", "font_family", "logo_url"]

def normalizedGlobals (themeBlock legacy : Fields) : Fields :=
  let settings : Fields := themeKeys.filterMap fun key =>
    (themeBlock.lookup key).map fun value => (key, value)
  let identity := legacy.get "identity" (.obj [])
  if identity.truthy then settings.put "identity" identity else settings

/-- The block that a section is made of, when it is not empty. -/
def sectionData (legacy : Fields) (key : String) : Option (Option Fields) :=
  let data := legacy.get key (.obj [])
  if data.truthy then (readDict data).map some else some none

def normalizedHero (hero : Fields) : String × SectionInstance :=
  ("hero_1", {
    type := "hero"
    settings := [
      ("headline", hero.get "headline" (.str "")),
      ("headline_ar", hero.get "headline_ar" (.str "")),
      ("subtitle", hero.get "subtitle" (.str "")),
      ("background_image", hero.get "hero_image_url" (.str "")),
      ("cta_text", hero.get "cta_text" (.str "")),
      ("cta_link", hero.get "cta_link" (.str ""))] })

def normalizedProducts (products : Fields) : String × SectionInstance :=
  ("featured_1", { type := "featured-products", settings := products })

def normalizedTemplates (hero products : Option Fields) : List (String × PageTemplate) :=
  let sections := (hero.map normalizedHero).toList ++ (products.map normalizedProducts).toList
  if sections.isEmpty then []
  else [("home", { name := "Home", sections, order := sections.map Prod.fst })]

/-- The group of a header or a footer, with one section. -/
def singleGroup (name key type : String) (settings : Fields) : SectionGroup where
  name := name
  sections := [(key, { type, settings })]
  order := [key]

def normalizedGroups (header footer : Option Fields) : List (String × SectionGroup) := [
  ("header", singleGroup "Header Group" "header_1" "header" (header.getD [])),
  ("footer", singleGroup "Footer Group" "footer_1" "footer" (footer.getD []))]

def normalizedExternal (platform : Platform) (legacy : Fields) :
    Option (Option ExternalThemeMetadata) :=
  match legacy.get "external_theme" .null with
  | .obj ext =>
      if (Fields.get ext "bundle_url" .null).truthy then
        (ExternalThemeMetadata.validate platform.allowed (.obj [
          ("bundle_url", Fields.get ext "bundle_url" .null),
          ("css_url", Fields.get ext "css_url" .null),
          ("mode", Fields.get ext "mode" (.str "production"))])).map some
      else some none
  | _ => some none

def normalizeLegacyToV3 (platform : Platform) (legacy : Fields) : Option ThemeSettingsV3 := do
  let themeBlock ← readDict (legacy.get "theme" (.obj []))
  let themeId ← baseTheme platform themeBlock
  let hero ← sectionData legacy "hero"
  let products ← sectionData legacy "products"
  let header ← sectionData legacy "header"
  let footer ← sectionData legacy "footer"
  let externalTheme ← normalizedExternal platform legacy
  return {
    themeId
    globalSettings := normalizedGlobals themeBlock legacy
    templates := normalizedTemplates hero products
    sectionGroups := normalizedGroups header footer
    externalTheme }

/-- `customization_v3.get("schema_version") == 3`. -/
def isV3 (customization : Fields) : Bool :=
  match customization.lookup "schema_version" with
  | some (.int 3) => true
  | some (.float version) => version = 3
  | _ => false

def resolveThemeSettings (platform : Platform) (customizationV3 legacySettings : Fields) :
    Option ThemeSettingsV3 :=
  if isV3 customizationV3 then ThemeSettingsV3.validate platform.allowed customizationV3
  else if legacySettings.isEmpty then
    some { themeId := platform.defaultThemeId, sectionGroups := normalizedGroups none none }
  else normalizeLegacyToV3 platform legacySettings

/-- A text that no URL can be a part of. -/
def Plain (text : String) : Prop := ':' ∉ text.toList

instance (text : String) : Decidable (Plain text) :=
  inferInstanceAs (Decidable (':' ∉ text.toList))

section Texts
variable {source : List String} {platform : Platform} {legacy : Fields}

/-- The metadata that a block of the legacy document is validated to has the texts of the block. -/
theorem external_faithful {allowed : Allowlist} :
    Faithful Plain source (ExternalThemeMetadata.validate allowed) ExternalThemeMetadata.dump := by
  intro doc metadata validates within
  cases doc with
  | obj fields =>
      simp only [ExternalThemeMetadata.validate, Option.bind_eq_bind,
        Option.bind_eq_some_iff] at validates
      rcases validates with ⟨bundleUrl, bundle, cssUrl, css, checksum, check, serverChecksum, server,
        settingsSchema, settings, sectionSchemas, sections, manifest, manifest_, mode, mode_, devUrl,
        dev, errorTemplateUrl, error_, loadingTemplateUrl, loading, enforces⟩
      rw [ExternalThemeMetadata.enforced, Option.ite_none_right_eq_some, Option.some.injEq]
        at enforces
      rcases enforces with ⟨-, rfl⟩
      have absent : ∀ {α : Type} (dump : α → Json),
          Json.Within Plain source (dumpOptional dump none) := fun _ _ mem => by cases mem
      have text {key : String} {value : Option String}
          (reads : field fields key (readOptional readStr) none = some value) :
          Json.Within Plain source (dumpOptional .str value) :=
        field_faithful (readOptional_faithful readStr_faithful) (absent _) within reads
      have dict {key : String} {value : Option Fields}
          (reads : field fields key (readOptional readDict) none = some value) :
          Json.Within Plain source (dumpOptional .obj value) :=
        field_faithful (readOptional_faithful readDict_faithful) (absent _) within reads
      have modes (mode : BundleMode) : Plain mode.value := by cases mode <;> decide
      apply Json.within_cons (by decide) (required_faithful readStr_faithful within bundle)
      apply Json.within_cons (by decide) (text css)
      apply Json.within_cons (by decide) (text check)
      apply Json.within_cons (by decide) (text server)
      apply Json.within_cons (by decide)
        (field_faithful (readOptional_faithful readSchema_faithful) (absent _) within settings)
      apply Json.within_cons (by decide) (dict sections)
      apply Json.within_cons (by decide) (dict manifest_)
      apply Json.within_cons (by decide)
        (field_faithful (readOptional_faithful (readMode_faithful modes))
          (Json.within_str (Or.inl (modes _))) within mode_)
      apply Json.within_cons (by decide) (text dev)
      apply Json.within_cons (by decide) (text error_)
      apply Json.within_cons (by decide) (text loading)
      exact Json.within_nil
  | _ => cases validates

theorem within_sectionData {key : String} {data : Option Fields}
    (within : Json.Within Plain source (.obj legacy)) (reads : sectionData legacy key = some data) :
    Json.Within Plain source (.obj (data.getD [])) := by
  rw [sectionData] at reads
  split at reads
  · rcases Option.map_eq_some_iff.mp reads with ⟨fields, dict, rfl⟩
    exact readDict_faithful _ fields dict (Json.within_get within Json.within_nil)
  · cases reads
    exact Json.within_nil

theorem within_heroSettings {hero : Fields} (within : Json.Within Plain source (.obj hero)) :
    Json.Within Plain source (.obj (normalizedHero hero).2.settings) := by
  have text (key : String) : Json.Within Plain source (hero.get key (.str "")) :=
    Json.within_get within (Json.within_str (Or.inl (by decide)))
  exact Json.within_cons (by decide) (text _) (Json.within_cons (by decide) (text _)
    (Json.within_cons (by decide) (text _) (Json.within_cons (by decide) (text _)
      (Json.within_cons (by decide) (text _) (Json.within_cons (by decide) (text _)
        Json.within_nil)))))

/-- A section without blocks. -/
theorem within_section {type : String} {settings : Fields} (plain : Plain type)
    (within : Json.Within Plain source (.obj settings)) :
    Json.Within Plain source (SectionInstance.dump { type, settings }) := by
  apply Json.within_cons (by decide) (Json.within_str (Or.inl plain))
  apply Json.within_cons (by decide) (fun _ mem => by cases mem)
  apply Json.within_cons (by decide) within
  apply Json.within_cons (by decide) Json.within_nil
  exact Json.within_cons (by decide) (fun _ mem => by cases mem) Json.within_nil

theorem within_template {name : String} {sections : List (String × SectionInstance)}
    (plain : Plain name)
    (each : ∀ entry ∈ sections, Plain entry.1 ∧ Json.Within Plain source entry.2.dump) :
    Json.Within Plain source
      (PageTemplate.dump { name, sections, order := sections.map Prod.fst }) := by
  apply Json.within_cons (by decide) (Json.within_str (Or.inl plain))
  apply Json.within_cons (by decide)
  · apply Json.within_obj
    intro dumped member
    rcases List.mem_map.mp member with ⟨entry, inside, rfl⟩
    exact ⟨Or.inl (each entry inside).1, (each entry inside).2⟩
  · apply Json.within_cons (by decide) _ Json.within_nil
    apply Json.within_arr
    intro item member
    rcases List.mem_map.mp member with ⟨key, keys, rfl⟩
    rcases List.mem_map.mp keys with ⟨entry, inside, rfl⟩
    exact Json.within_str (Or.inl (each entry inside).1)

theorem within_templates {hero products : Option Fields}
    (heroes : Json.Within Plain source (.obj (hero.getD [])))
    (goods : Json.Within Plain source (.obj (products.getD []))) :
    Json.Within Plain source
      (dumpEntries PageTemplate.dump (normalizedTemplates hero products)) := by
  rw [normalizedTemplates]
  split
  · exact Json.within_nil
  · have home : Plain "home" := by decide
    refine Json.within_cons home (within_template (by decide) ?_) Json.within_nil
    intro entry member
    rcases List.mem_append.mp member with first | second
    · rcases Option.map_eq_some_iff.mp (Option.mem_toList.mp first) with ⟨fields, rfl, rfl⟩
      have key : Plain "hero_1" := by decide
      exact ⟨key, within_section (by decide) (within_heroSettings heroes)⟩
    · rcases Option.map_eq_some_iff.mp (Option.mem_toList.mp second) with ⟨fields, rfl, rfl⟩
      have key : Plain "featured_1" := by decide
      exact ⟨key, within_section (by decide) goods⟩

theorem within_groups {header footer : Option Fields}
    (head : Json.Within Plain source (.obj (header.getD [])))
    (foot : Json.Within Plain source (.obj (footer.getD []))) :
    Json.Within Plain source (dumpEntries PageTemplate.dump (normalizedGroups header footer)) := by
  have single {name key type : String} {settings : Fields} (plainName : Plain name)
      (plainKey : Plain key) (plainType : Plain type)
      (within : Json.Within Plain source (.obj settings)) :
      Json.Within Plain source (singleGroup name key type settings).dump := by
    apply within_template plainName
    intro entry member
    rw [List.mem_singleton] at member
    rw [member]
    exact ⟨plainKey, within_section plainType within⟩
  have header_ : Plain "header" := by decide
  have footer_ : Plain "footer" := by decide
  exact Json.within_cons header_ (single (by decide) (by decide) header_ head)
    (Json.within_cons footer_ (single (by decide) (by decide) footer_ foot) Json.within_nil)

theorem within_normalizedGlobals {themeBlock : Fields}
    (within : Json.Within Plain source (.obj legacy))
    (theme : Json.Within Plain source (.obj themeBlock)) :
    Json.Within Plain source (.obj (normalizedGlobals themeBlock legacy)) := by
  have picked : ∀ entry ∈ themeKeys.filterMap (fun key =>
      (themeBlock.lookup key).map fun value => (key, value)),
      (Plain entry.1 ∨ entry.1 ∈ source) ∧ Json.Within Plain source entry.2 := by
    intro entry member
    rcases List.mem_filterMap.mp member with ⟨key, listed, found⟩
    rcases Option.map_eq_some_iff.mp found with ⟨value, present, rfl⟩
    have plain : ∀ key ∈ themeKeys, Plain key := by decide
    exact ⟨Or.inl (plain key listed), Json.within_lookup theme present⟩
  have identity : Json.Within Plain source (legacy.get "identity" (.obj [])) :=
    Json.within_get within Json.within_nil
  rw [normalizedGlobals]
  split
  · apply Json.within_obj
    intro entry member
    rcases Json.mem_put member with rfl | old
    · have key : Plain "identity" := by decide
      exact ⟨Or.inl key, identity⟩
    · exact picked entry old
  · exact Json.within_obj picked

theorem within_normalizedExternal {metadata : Option ExternalThemeMetadata}
    (within : Json.Within Plain source (.obj legacy))
    (reads : normalizedExternal platform legacy = some metadata) :
    Json.Within Plain source (dumpOptional ExternalThemeMetadata.dump metadata) := by
  have absent : Json.Within Plain source .null := fun _ mem => by cases mem
  have block : Json.Within Plain source (legacy.get "external_theme" .null) :=
    Json.within_get within absent
  rw [normalizedExternal.eq_def] at reads
  split at reads
  · rename_i ext shape
    rw [shape] at block
    split at reads
    · rcases Option.map_eq_some_iff.mp reads with ⟨found, validates, rfl⟩
      apply external_faithful _ found validates
      apply Json.within_cons (by decide) (Json.within_get block absent)
      apply Json.within_cons (by decide) (Json.within_get block absent)
      apply Json.within_cons (by decide)
        (Json.within_get block (Json.within_str (Or.inl (by decide))))
      exact Json.within_nil
    · cases reads
      exact absent
  · cases reads
    exact absent

/-- The document names no theme to be based on. -/
def Unbased (legacy : Fields) : Prop :=
  ∀ themeBlock, readDict (legacy.get "theme" (.obj [])) = some themeBlock →
    (themeBlock.get "base_theme" .null).truthy = false

/-- Whatever normalized settings say stands in the legacy document, but for the default theme. -/
theorem within_normalized {settings : ThemeSettingsV3}
    (within : Json.Within Plain source (.obj legacy))
    (default : Unbased legacy → Plain platform.defaultThemeId ∨ platform.defaultThemeId ∈ source)
    (normalizes : normalizeLegacyToV3 platform legacy = some settings) :
    Json.Within Plain source (.obj settings.modelDump) := by
  simp only [normalizeLegacyToV3, Option.bind_eq_bind, Option.bind_eq_some_iff] at normalizes
  rcases normalizes with ⟨themeBlock, theme, themeId, based, hero, hero_, products, products_,
    header, header_, footer, footer_, external, external_, made⟩
  cases made
  have block : Json.Within Plain source (.obj themeBlock) :=
    readDict_faithful _ themeBlock theme (Json.within_get within Json.within_nil)
  have id_ : Json.Within Plain source (.str themeId) := by
    rw [baseTheme] at based
    split at based
    · exact readStr_faithful _ themeId based
        (Json.within_get block fun _ mem => by cases mem)
    · rename_i missing
      cases based
      apply Json.within_str (default fun found reads => ?_)
      rw [theme] at reads
      cases reads
      exact Bool.eq_false_iff.mpr missing
  apply Json.within_cons (by decide) (fun _ mem => by cases mem)
  apply Json.within_cons (by decide) id_
  apply Json.within_cons (by decide) (within_normalizedGlobals within block)
  apply Json.within_cons (by decide)
    (within_templates (within_sectionData within hero_) (within_sectionData within products_))
  apply Json.within_cons (by decide)
    (within_groups (within_sectionData within header_) (within_sectionData within footer_))
  exact Json.within_cons (by decide) (within_normalizedExternal within external_) Json.within_nil

end Texts
end Numu.Themes
