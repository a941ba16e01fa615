import Mathlib.Data.List.Nodup
import Numu.Themes.LegacyView

/-!
# From V3 to the legacy view and back

`normalize_legacy_to_v3` reads of a legacy view what it knows: five of the global settings, one hero
and one featured section, a header and a footer that are always there, and the bundle.
-/

namespace Numu.Themes
open Json (Fields)

/-- The legacy view shows the same: the same value under each key, and the same theme. -/
structure SameView (first second : Fields) : Prop where
  top : ∀ key, key ≠ "theme" → first.lookup key = second.lookup key
  theme : ∃ theme theme', first.lookup "theme" = some (.obj theme) ∧
    second.lookup "theme" = some (.obj theme') ∧ ∀ key, theme.lookup key = theme'.lookup key

/-- Nothing of the settings is lost or added on the way over the legacy view. -/
structure Stable (platform : Platform) (v3 : ThemeSettingsV3) : Prop where
  header : (v3.chrome "header").isSome
  footer : (v3.chrome "footer").isSome
  /-- The featured section that is shown has settings. -/
  featured : ∀ section_ ∈ v3.featured, section_.settings ≠ []
  globals : ∀ entry ∈ v3.globalSettings, entry.1 ∈ "base_theme" :: "identity" :: themeKeys
  identity : ∀ value ∈ v3.globalSettings.lookup "identity", value.truthy = true
  base : ∃ text, v3.base = .str text ∧ (text = "" → platform.defaultThemeId = "")
  bundle : ∀ metadata ∈ v3.externalTheme, metadata.bundleUrl ≠ ""

/-- The fields of a block that is not empty. -/
def filled (settings : Option Fields) : Option Fields := settings.filter fun fields => !fields.isEmpty

/-- The fields of the legacy hero. -/
def heroFields (settings : Fields) : Fields := (readDict (legacyHero settings)).getD []

def shownHero (v3 : ThemeSettingsV3) : Option Fields :=
  v3.hero.map fun section_ => heroFields section_.settings

def shownProducts (v3 : ThemeSettingsV3) : Option Fields :=
  filled (v3.featured.map SectionInstance.settings)

def shownChrome (v3 : ThemeSettingsV3) (type : String) : Option Fields :=
  filled ((v3.chrome type).map SectionInstance.settings)

/-- The bundle, with no more than the legacy view shows of it. -/
def shownMetadata (metadata : ExternalThemeMetadata) : ExternalThemeMetadata where
  bundleUrl := metadata.bundleUrl
  cssUrl := metadata.cssUrl
  mode := some (metadata.mode.getD .production)

def shownBundle (metadata : ExternalThemeMetadata) : Option ExternalThemeMetadata :=
  if metadata.bundleUrl = "" then none else some (shownMetadata metadata)

/-- The settings that come back. -/
def upgraded (v3 : ThemeSettingsV3) (themeId : String) : ThemeSettingsV3 where
  themeId := themeId
  globalSettings := normalizedGlobals (legacyTheme v3) (mapV3ToLegacyStoreSettings v3)
  templates := normalizedTemplates (shownHero v3) (shownProducts v3)
  sectionGroups := normalizedGroups (shownChrome v3 "header") (shownChrome v3 "footer")
  externalTheme := v3.externalTheme.bind shownBundle

section Normalize
variable {platform : Platform} {v3 : ThemeSettingsV3}

theorem sectionData_eq {legacy : Fields} {key : String} {settings : Option Fields}
    (shown : legacy.lookup key = settings.map .obj) :
    sectionData legacy key = some (filled settings) := by
  rw [sectionData, Fields.get, shown]
  cases settings with
  | none => rfl
  | some fields => cases fields <;> rfl

theorem filled_hero : filled (shownHero v3) = shownHero v3 := by
  rw [shownHero]
  cases v3.hero <;> rfl

/-- A bundle that was validated is validated again with what the legacy view shows of it. -/
theorem validate_shown {allowed : Allowlist} {metadata : ExternalThemeMetadata}
    (listed : metadata.allowlisted allowed = true) :
    ExternalThemeMetadata.validate allowed (legacyExternalTheme metadata) =
      some (shownMetadata metadata) := by
  have reads : ExternalThemeMetadata.validate allowed (legacyExternalTheme metadata) =
      (shownMetadata metadata).enforced allowed := by
    obtain ⟨url, css, checksum, server, settings, sections, manifest, mode, dev, error_, loading⟩ :=
      metadata
    cases css <;> rcases mode with _ | (_ | _) <;> rfl
  have absent (mode : BundleMode) : passes allowed mode none = true := rfl
  simp only [ExternalThemeMetadata.allowlisted, Bool.and_eq_true] at listed
  obtain ⟨⟨⟨⟨bundle, css⟩, -⟩, -⟩, -⟩ := listed
  rw [reads, ExternalThemeMetadata.enforced, if_pos]
  simp only [ExternalThemeMetadata.allowlisted, shownMetadata, Option.getD_some, bundle, css,
    absent, Bool.and_self]

theorem normalizedExternal_map
    (listed : ∀ metadata ∈ v3.externalTheme, metadata.allowlisted platform.allowed = true) :
    normalizedExternal platform (mapV3ToLegacyStoreSettings v3) =
      some (v3.externalTheme.bind shownBundle) := by
  rw [normalizedExternal, Fields.get, map_lookup_external]
  cases found : v3.externalTheme with
  | none => rfl
  | some metadata =>
      have again := validate_shown (listed metadata found)
      change (if decide (metadata.bundleUrl ≠ "") = true then
        (ExternalThemeMetadata.validate platform.allowed (legacyExternalTheme metadata)).map some
        else some none) = some (shownBundle metadata)
      rw [again, shownBundle]
      by_cases empty : metadata.bundleUrl = "" <;> simp [empty]

theorem normalize_map
    (listed : ∀ metadata ∈ v3.externalTheme, metadata.allowlisted platform.allowed = true) :
    normalizeLegacyToV3 platform (mapV3ToLegacyStoreSettings v3) =
      (baseTheme platform (legacyTheme v3)).map (upgraded v3) := by
  have theme : readDict ((mapV3ToLegacyStoreSettings v3).get "theme" (.obj [])) =
      some (legacyTheme v3) := by
    rw [Fields.get, map_lookup_theme]
    rfl
  have hero : sectionData (mapV3ToLegacyStoreSettings v3) "hero" = some (shownHero v3) := by
    rw [@sectionData_eq _ _ (shownHero v3), filled_hero]
    rw [map_lookup_hero, shownHero, Option.map_map]
    rfl
  have products : sectionData (mapV3ToLegacyStoreSettings v3) "products" =
      some (shownProducts v3) := by
    apply sectionData_eq
    rw [map_lookup_products, Option.map_map]
    rfl
  have header : sectionData (mapV3ToLegacyStoreSettings v3) "header" =
      some (shownChrome v3 "header") := by
    apply sectionData_eq
    rw [map_lookup_header, Option.map_map]
    rfl
  have footer : sectionData (mapV3ToLegacyStoreSettings v3) "footer" =
      some (shownChrome v3 "footer") := by
    apply sectionData_eq
    rw [map_lookup_footer, Option.map_map]
    rfl
  rw [normalizeLegacyToV3, theme, hero, products, header, footer, normalizedExternal_map listed]
  simp only [Option.bind_eq_bind, Option.bind_some]
  cases baseTheme platform (legacyTheme v3) <;> rfl

end Normalize

section Globals
variable {themeBlock legacy : Fields}

theorem normalizedGlobals_lookup (key : String) :
    (normalizedGlobals themeBlock legacy).lookup key =
      if key = "identity" then
        if (legacy.get "identity" (.obj [])).truthy then some (legacy.get "identity" (.obj []))
        else none
      else if key ∈ themeKeys then themeBlock.lookup key else none := by
  rw [normalizedGlobals]
  by_cases identity : key = "identity"
  · subst identity
    rw [if_pos rfl]
    split
    · exact (Fields.lookup_put _ _ _ _).trans (if_pos rfl)
    · exact (Json.lookup_picked _ _ _).trans (if_neg (by decide))
  · rw [if_neg identity]
    split
    · rw [Fields.lookup_put, if_neg identity]
      exact Json.lookup_picked _ _ _
    · exact Json.lookup_picked _ _ _

theorem normalizedGlobals_distinct : ((normalizedGlobals themeBlock legacy).map Prod.fst).Nodup := by
  have picked : ((themeKeys.filterMap fun key =>
      (themeBlock.lookup key).map fun value => (key, value)).map Prod.fst).Nodup := by
    rw [Json.keys_picked]
    exact List.Nodup.filter _ (by decide)
  rw [normalizedGlobals]
  split
  · have fresh : ∀ entry ∈ themeKeys.filterMap (fun key =>
        (themeBlock.lookup key).map fun value => (key, value)), entry.1 ≠ "identity" := by
      intro entry member
      have key := List.mem_map_of_mem (f := Prod.fst) member
      rw [Json.keys_picked] at key
      intro identity
      rw [identity] at key
      exact absurd (List.mem_of_mem_filter key) (by decide)
    rw [Fields.put, Json.assign_of_fresh fresh, List.map_append]
    refine List.nodup_append.mpr ⟨picked, List.nodup_singleton _, ?_⟩
    intro key member other here same
    obtain ⟨entry, inside, rfl⟩ := List.mem_map.mp member
    exact fresh entry inside (same.trans (List.mem_singleton.mp here))
  · exact picked

end Globals

section Back
variable {v3 : ThemeSettingsV3} (themeId : String)

theorem upgraded_hero : (upgraded v3 themeId).hero =
    (shownHero v3).map fun hero => (normalizedHero hero).2 := by
  rw [ThemeSettingsV3.hero, upgraded]
  cases shownHero v3 <;> cases shownProducts v3 <;> rfl

theorem upgraded_featured : (upgraded v3 themeId).featured =
    (shownProducts v3).map fun products => (normalizedProducts products).2 := by
  rw [ThemeSettingsV3.featured, upgraded]
  cases shownHero v3 <;> cases shownProducts v3 <;> rfl

/-- What is not shown of a block is that it is empty. -/
theorem filled_getD (settings : Option Fields) : (filled settings).getD [] = settings.getD [] := by
  cases settings with
  | none => rfl
  | some fields => cases fields <;> rfl

theorem filled_eq_iff {settings : Option Fields} :
    filled settings = settings ↔ ∀ fields ∈ settings, fields ≠ [] := by
  cases settings with
  | none => simp [filled]
  | some fields => cases fields <;> simp [filled]

theorem map_obj_injective : Function.Injective (Option.map Json.obj) := by
  apply Option.map_injective
  intro first second same
  rwa [Json.obj.injEq] at same

theorem hero_stays : (mapV3ToLegacyStoreSettings (upgraded v3 themeId)).lookup "hero" =
    (mapV3ToLegacyStoreSettings v3).lookup "hero" := by
  rw [map_lookup_hero, map_lookup_hero, upgraded_hero, shownHero, Option.map_map, Option.map_map]
  rfl

theorem products_stay_iff : (mapV3ToLegacyStoreSettings (upgraded v3 themeId)).lookup "products" =
      (mapV3ToLegacyStoreSettings v3).lookup "products" ↔
    ∀ section_ ∈ v3.featured, section_.settings ≠ [] := by
  have shown (settings : Option SectionInstance) :
      (settings.map fun section_ => Json.obj section_.settings) =
        (settings.map SectionInstance.settings).map .obj := (Option.map_map _ _ _).symm
  have back : (upgraded v3 themeId).featured.map SectionInstance.settings = shownProducts v3 := by
    rw [upgraded_featured, Option.map_map]
    exact Option.map_id'
  rw [map_lookup_products, map_lookup_products, shown, shown, back, map_obj_injective.eq_iff,
    shownProducts, filled_eq_iff]
  simp

theorem chrome_stays_iff {type : String}
    (back : (mapV3ToLegacyStoreSettings (upgraded v3 themeId)).lookup type =
      some (.obj ((shownChrome v3 type).getD [])))
    (before : (mapV3ToLegacyStoreSettings v3).lookup type =
      (v3.chrome type).map fun section_ => .obj section_.settings) :
    (mapV3ToLegacyStoreSettings (upgraded v3 themeId)).lookup type =
      (mapV3ToLegacyStoreSettings v3).lookup type ↔ (v3.chrome type).isSome := by
  rw [back, before, shownChrome, filled_getD]
  cases v3.chrome type <;> simp

theorem bundle_stays_iff :
    (mapV3ToLegacyStoreSettings (upgraded v3 themeId)).lookup "external_theme" =
      (mapV3ToLegacyStoreSettings v3).lookup "external_theme" ↔
    ∀ metadata ∈ v3.externalTheme, metadata.bundleUrl ≠ "" := by
  rw [map_lookup_external, map_lookup_external]
  change (v3.externalTheme.bind shownBundle).map legacyExternalTheme = _ ↔ _
  cases v3.externalTheme with
  | none => simp
  | some metadata =>
      have same : legacyExternalTheme (shownMetadata metadata) = legacyExternalTheme metadata := rfl
      by_cases empty : metadata.bundleUrl = "" <;> simp [shownBundle, empty, same]

theorem upgraded_identity :
    (upgraded v3 themeId).globalSettings.lookup "identity" =
      if (v3.globalSettings.get "identity" (.obj [])).truthy then
        some (v3.globalSettings.get "identity" (.obj [])) else none := by
  have shown : (mapV3ToLegacyStoreSettings v3).get "identity" (.obj []) =
      v3.globalSettings.get "identity" (.obj []) := by
    rw [Fields.get, map_lookup_identity]
    rfl
  rw [upgraded, normalizedGlobals_lookup, if_pos rfl, shown]

/-- The identity of the settings comes back where it is not empty. -/
theorem upgraded_identity_iff :
    (upgraded v3 themeId).globalSettings.lookup "identity" = v3.globalSettings.lookup "identity" ↔
      ∀ value ∈ v3.globalSettings.lookup "identity", value.truthy = true := by
  rw [upgraded_identity, Fields.get]
  cases v3.globalSettings.lookup "identity" with
  | none => simp [Json.truthy]
  | some value => cases filled : value.truthy <;> simp [filled]

theorem upgraded_globals {key : String} (other : key ≠ "identity") :
    (upgraded v3 themeId).globalSettings.lookup key =
      if key ∈ themeKeys then (legacyTheme v3).lookup key else none := by
  rw [upgraded, normalizedGlobals_lookup, if_neg other]

variable (distinct : (v3.globalSettings.map Prod.fst).Nodup)
include distinct

/-- The theme comes back under a key exactly if the settings know of no other. -/
theorem theme_stays_iff :
    (∀ key, (legacyTheme (upgraded v3 themeId)).lookup key = (legacyTheme v3).lookup key) ↔
      v3.base = .str themeId ∧
      (∀ value ∈ v3.globalSettings.lookup "identity", value.truthy = true) ∧
      ∀ entry ∈ v3.globalSettings, entry.1 ∈ "base_theme" :: "identity" :: themeKeys := by
  have after {key : String} (other : key ≠ "base_theme") :=
    legacyTheme_other (upgraded v3 themeId) normalizedGlobals_distinct other
  have before {key : String} (other : key ≠ "base_theme") := legacyTheme_other v3 distinct other
  have base : (legacyTheme (upgraded v3 themeId)).lookup "base_theme" = some (.str themeId) := by
    rw [legacyTheme_lookup _ normalizedGlobals_distinct, upgraded_globals themeId (by decide),
      if_neg (by decide), if_pos rfl]
    rfl
  have identity : (legacyTheme (upgraded v3 themeId)).lookup "identity" =
      (legacyTheme v3).lookup "identity" ↔
        ∀ value ∈ v3.globalSettings.lookup "identity", value.truthy = true := by
    rw [after (by decide), before (by decide)]
    exact upgraded_identity_iff themeId
  constructor
  · intro same
    refine ⟨?_, identity.mp (same "identity"), fun entry member => ?_⟩
    · have stays := same "base_theme"
      rw [base, legacyTheme_base v3 distinct, Option.some.injEq] at stays
      exact stays.symm
    · by_contra unknown
      rw [List.mem_cons, List.mem_cons, not_or, not_or] at unknown
      obtain ⟨notBase, notIdentity, notTheme⟩ := unknown
      have stays := same entry.1
      rw [after notBase, before notBase, upgraded_globals themeId notIdentity, if_neg notTheme]
        at stays
      have missing := List.lookup_eq_none_iff.mp stays.symm entry member
      simp at missing
  · rintro ⟨id_, filled, known⟩ key
    by_cases isBase : key = "base_theme"
    · rw [isBase, base, legacyTheme_base v3 distinct, id_]
    by_cases isIdentity : key = "identity"
    · rw [isIdentity]
      exact identity.mpr filled
    rw [after isBase, upgraded_globals themeId isIdentity]
    by_cases isTheme : key ∈ themeKeys
    · rw [if_pos isTheme]
    · rw [if_neg isTheme, before isBase]
      symm
      rw [List.lookup_eq_none_iff]
      intro entry member
      rw [bne_iff_ne]
      rintro rfl
      have here := known entry member
      simp only [List.mem_cons, isBase, isIdentity, isTheme, or_self] at here

/-- The same view comes back exactly if the settings are stable, once the theme's id is known. -/
theorem sameView_iff :
    SameView (mapV3ToLegacyStoreSettings (upgraded v3 themeId)) (mapV3ToLegacyStoreSettings v3) ↔
      v3.base = .str themeId ∧
      (∀ value ∈ v3.globalSettings.lookup "identity", value.truthy = true) ∧
      (∀ entry ∈ v3.globalSettings, entry.1 ∈ "base_theme" :: "identity" :: themeKeys) ∧
      (∀ section_ ∈ v3.featured, section_.settings ≠ []) ∧ (v3.chrome "header").isSome ∧
      (v3.chrome "footer").isSome ∧ ∀ metadata ∈ v3.externalTheme, metadata.bundleUrl ≠ "" := by
  have header := @chrome_stays_iff v3 themeId _ (map_lookup_header _) (map_lookup_header v3)
  have footer := @chrome_stays_iff v3 themeId _ (map_lookup_footer _) (map_lookup_footer v3)
  constructor
  · intro same
    obtain ⟨theme, theme', there, there', agree⟩ := same.theme
    rw [map_lookup_theme] at there there'
    cases there
    cases there'
    obtain ⟨base, identity, globals⟩ := (theme_stays_iff themeId distinct).mp agree
    exact ⟨base, identity, globals,
      (products_stay_iff themeId).mp (same.top "products" (by decide)),
      header.mp (same.top "header" (by decide)), footer.mp (same.top "footer" (by decide)),
      (bundle_stays_iff themeId).mp (same.top "external_theme" (by decide))⟩
  · rintro ⟨base, identity, globals, featured, head, foot, bundle⟩
    refine ⟨fun key other => ?_, _, _, map_lookup_theme _, map_lookup_theme v3,
      (theme_stays_iff themeId distinct).mpr ⟨base, identity, globals⟩⟩
    by_cases isProducts : key = "products"
    · rw [isProducts]
      exact (products_stay_iff themeId).mpr featured
    by_cases isHeader : key = "header"
    · rw [isHeader]
      exact header.mpr head
    by_cases isFooter : key = "footer"
    · rw [isFooter]
      exact footer.mpr foot
    by_cases isBundle : key = "external_theme"
    · rw [isBundle]
      exact (bundle_stays_iff themeId).mpr bundle
    by_cases isHero : key = "hero"
    · rw [isHero]
      exact hero_stays themeId
    rw [map_lookup_base _ isBundle isFooter isHeader isHero isProducts,
      map_lookup_base v3 isBundle isFooter isHeader isHero isProducts, legacyBase, legacyBase,
      Fields.get, (upgraded_identity_iff themeId).mpr identity]
    simp only [Json.lookup_cons_eq_if, if_neg other]
    rfl

end Back

section RoundTrip
variable {platform : Platform} {document : Fields} {v3 : ThemeSettingsV3}

theorem readOptional_eq_some {α : Type} {read : Json → Option α} {doc : Json} {value : α}
    (reads : readOptional read doc = some (some value)) : read doc = some value := by
  rw [readOptional.eq_def] at reads
  split at reads
  · cases reads
  · rcases Option.map_eq_some_iff.mp reads with ⟨found, inner, same⟩
    cases same
    exact inner

theorem allowlisted_of_validate {allowed : Allowlist} {block : Json}
    {metadata : ExternalThemeMetadata}
    (validated : ExternalThemeMetadata.validate allowed block = some metadata) :
    metadata.allowlisted allowed = true := by
  cases block with
  | obj fields =>
      simp only [ExternalThemeMetadata.validate, Option.bind_eq_bind,
        Option.bind_eq_some_iff] at validated
      obtain ⟨_, -, _, -, _, -, _, -, _, -, _, -, _, -, _, -, _, -, _, -, _, -, enforced⟩ := validated
      rw [ExternalThemeMetadata.enforced, Option.ite_none_right_eq_some, Option.some.injEq]
        at enforced
      obtain ⟨listed, rfl⟩ := enforced
      exact listed
  | _ => cases validated

/-- The bundle of validated settings is on the allowlist. -/
theorem validate_allowlisted {allowed : Allowlist}
    (validated : ThemeSettingsV3.validate allowed document = some v3) :
    ∀ metadata ∈ v3.externalTheme, metadata.allowlisted allowed = true := by
  intro metadata member
  simp only [ThemeSettingsV3.validate, Option.bind_eq_bind, Option.bind_eq_some_iff] at validated
  obtain ⟨-, -, themeId, -, globals, -, templates, -, groups, -, external, reads, made⟩ := validated
  cases made
  cases member
  rw [field.eq_def] at reads
  split at reads
  · cases reads
  · rename_i block found
    exact allowlisted_of_validate (readOptional_eq_some reads)

theorem baseTheme_eq_some_iff (distinct : (v3.globalSettings.map Prod.fst).Nodup)
    {themeId : String} :
    baseTheme platform (legacyTheme v3) = some themeId ∧ v3.base = .str themeId ↔
      v3.base = .str themeId ∧ (themeId = "" → platform.defaultThemeId = "") := by
  rw [baseTheme, Fields.get, legacyTheme_base v3 distinct, Option.getD_some]
  constructor
  · rintro ⟨based, base⟩
    refine ⟨base, fun empty => ?_⟩
    subst empty
    rw [base, if_neg (by decide)] at based
    exact Option.some.inj based
  · rintro ⟨base, default⟩
    refine ⟨?_, base⟩
    rw [base]
    by_cases empty : themeId = ""
    · subst empty
      rw [if_neg (by decide), default rfl]
    · have filled : (Json.str themeId).truthy = true := decide_eq_true empty
      rw [if_pos filled]
      rfl

/-- The legacy view of V3 settings comes back unchanged exactly if the settings are stable. -/
theorem legacy_round_trip_iff
    (validated : ThemeSettingsV3.validate platform.allowed document = some v3)
    (distinct : (v3.globalSettings.map Prod.fst).Nodup) :
    (∃ back, normalizeLegacyToV3 platform (mapV3ToLegacyStoreSettings v3) = some back ∧
      SameView (mapV3ToLegacyStoreSettings back) (mapV3ToLegacyStoreSettings v3)) ↔
      Stable platform v3 := by
  rw [normalize_map (validate_allowlisted validated)]
  constructor
  · rintro ⟨back, normalized, same⟩
    obtain ⟨themeId, based, rfl⟩ := Option.map_eq_some_iff.mp normalized
    obtain ⟨base, identity, globals, featured, header, footer, bundle⟩ :=
      (sameView_iff themeId distinct).mp same
    have named := (baseTheme_eq_some_iff distinct).mp ⟨based, base⟩
    exact ⟨header, footer, featured, globals, identity, ⟨themeId, named⟩, bundle⟩
  · rintro ⟨header, footer, featured, globals, identity, ⟨themeId, named⟩, bundle⟩
    obtain ⟨based, base⟩ := (baseTheme_eq_some_iff distinct).mpr named
    exact ⟨upgraded v3 themeId, Option.map_eq_some_iff.mpr ⟨themeId, based, rfl⟩,
      (sameView_iff themeId distinct).mpr
        ⟨base, identity, globals, featured, header, footer, bundle⟩⟩

end RoundTrip

/-- A platform that hosts no bundles. -/
def bare : Platform := ⟨fun _ _ => false, "modern"⟩

def chromeDocument (type : String) : Json :=
  .obj [("name", .str type), ("sections", .obj [(type, .obj [("type", .str type)])])]

/-- A document with one color, a header and a footer. -/
def colorDocument (key : String) : Fields := [
  ("theme_id", .str "bazar"),
  ("global_settings", .obj [(key, .str "#ff0000")]),
  ("section_groups", .obj [
    ("header", chromeDocument "header"), ("footer", chromeDocument "footer")])]

def colorSettings (key : String) : ThemeSettingsV3 where
  themeId := "bazar"
  globalSettings := [(key, .str "#ff0000")]
  sectionGroups := [
    ("header", { name := "header", sections := [("header", { type := "header" })] }),
    ("footer", { name := "footer", sections := [("footer", { type := "footer" })] })]

theorem validate_color (key : String) :
    ThemeSettingsV3.validate bare.allowed (colorDocument key) = some (colorSettings key) := rfl

theorem stable_color {key : String} (known : key ∈ themeKeys) (base : key ≠ "base_theme")
    (identity : key ≠ "identity") : Stable bare (colorSettings key) := by
  have featured : (colorSettings key).featured = none := rfl
  have absent {other : String} (different : key ≠ other) :
      (colorSettings key).globalSettings.lookup other = none := by
    rw [colorSettings, Json.lookup_cons_eq_if, if_neg (Ne.symm different)]
    rfl
  have text : "bazar" ≠ "" := by decide
  refine ⟨?_, ?_, ?_, ?_, ?_, ⟨"bazar", ?_, fun empty => absurd empty text⟩, ?_⟩
  · simp [ThemeSettingsV3.chrome, lastSection, colorSettings]
  · simp [ThemeSettingsV3.chrome, lastSection, colorSettings, Json.lookup_cons_eq_if]
  · rw [featured]
    intro _ found
    cases found
  · intro entry member
    rw [List.mem_singleton.mp member]
    exact List.mem_cons_of_mem _ (List.mem_cons_of_mem _ known)
  · rw [absent identity]
    intro _ found
    cases found
  · rw [ThemeSettingsV3.base, absent base]
    rfl
  · intro metadata member
    cases member

theorem primary_color_comes_back :
    ∃ back, normalizeLegacyToV3 bare
        (mapV3ToLegacyStoreSettings (colorSettings "primary_color")) = some back ∧
      SameView (mapV3ToLegacyStoreSettings back)
        (mapV3ToLegacyStoreSettings (colorSettings "primary_color")) :=
  (legacy_round_trip_iff (validate_color "primary_color") (List.nodup_singleton _)).mpr
    (stable_color (by decide) (by decide) (by decide))

/-- A setting that the normalizer does not know is gone. -/
theorem accent_color_lost :
    ThemeSettingsV3.validate bare.allowed (colorDocument "accent_color") =
        some (colorSettings "accent_color") ∧
      ¬ ∃ back, normalizeLegacyToV3 bare
          (mapV3ToLegacyStoreSettings (colorSettings "accent_color")) = some back ∧
        SameView (mapV3ToLegacyStoreSettings back)
          (mapV3ToLegacyStoreSettings (colorSettings "accent_color")) := by
  refine ⟨validate_color "accent_color", ?_⟩
  rintro ⟨back, normalized, same⟩
  cases normalized
  obtain ⟨theme, theme', there, there', agree⟩ := same.theme
  cases there
  cases there'
  have lost := agree "accent_color"
  cases lost

end Numu.Themes
