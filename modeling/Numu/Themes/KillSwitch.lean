import Numu.Foundation.Outcome
import Numu.Themes.Resolution

/-!
# The kill switch

A suspended theme must not be served. The switch drops the URLs of the version and
the external theme block of the V3 settings; the legacy customization, which has a
copy of that block, is served as it is stored.
-/

namespace Numu.Themes
open Json (Fields Mentions)
open Numu.UuidText (writeUuid hexDigits groupsOf)

/-- The URL of a bundle: a text with a scheme. -/
structure BundleUrl where
  text : String
  scheme : ':' ∈ text.toList

section Mention
variable (url : BundleUrl)

theorem BundleUrl.foreign {text : String} (plain : Plain text) :
    ¬ url.text.toList <:+: text.toList :=
  fun part => plain (part.subset url.scheme)

/-- A field with a plain key mentions the URL in its value. -/
theorem mentions_cons {key : String} {value : Json} {rest : Fields} (plain : Plain key) :
    Mentions url.text (.obj ((key, value) :: rest)) ↔
      Mentions url.text value ∨ Mentions url.text (.obj rest) := by
  rw [Json.mentions_obj, Json.mentions_obj]
  simp only [List.mem_cons, exists_eq_or_imp, url.foreign plain, false_or]

theorem mentions_append {first second : Fields} :
    Mentions url.text (.obj (first ++ second)) ↔
      Mentions url.text (.obj first) ∨ Mentions url.text (.obj second) := by
  rw [Json.mentions_obj, Json.mentions_obj, Json.mentions_obj]
  simp only [List.mem_append, or_and_right, exists_or]

theorem not_mentions_nil : ¬ Mentions url.text (.obj []) := by
  rintro ⟨text, mem, -⟩
  cases mem

theorem not_mentions_plain {text : String} (plain : Plain text) :
    ¬ Mentions url.text (.str text) :=
  fun mention => url.foreign plain (Json.mentions_str.mp mention)

theorem plain_writeUuid (id : BitVec 128) : Plain (writeUuid id) := by
  intro colon
  rcases Numu.UuidText.mem_writeUuid colon with dash | digit
  · cases dash
  · cases digit

end Mention

/-- What is served of a theme as it is stored. -/
def StoreTheme.storedTexts (theme : StoreTheme) : Fields := [
  ("theme_slug", dumpOptional .str theme.themeSlug),
  ("version", dumpOptional .str theme.themeVersion),
  ("customization", .obj theme.customization),
  ("settings_schema", orEmpty theme.settingsSchema),
  ("section_schemas", dumpOptional .obj theme.sectionSchemas)]

/-- What the switch drops of the version. -/
def StoreTheme.versionTexts (theme : StoreTheme) : Fields := [
  ("bundle_url", dumpOptional .str theme.bundleUrl),
  ("css_url", dumpOptional .str theme.cssUrl),
  ("bundle_checksum", dumpOptional .str theme.bundleChecksum),
  ("server_checksum", dumpOptional .str theme.serverChecksum)]

section Documents
variable (url : BundleUrl) (theme : StoreTheme)

theorem mentions_stripped (v3 : Fields) :
    Mentions url.text (.obj (themeDocument theme (theme.stripped v3) ++
      [("theme_suspended", .bool true)])) ↔
      Mentions url.text (.obj theme.storedTexts) ∨
        Mentions url.text (.obj (v3.pop "external_theme")) := by
  have ids (id : BitVec 128) : ¬ Mentions url.text (.str (writeUuid id)) :=
    not_mentions_plain url (plain_writeUuid id)
  have kind : ¬ Mentions url.text (.str "internal") := not_mentions_plain url (by decide)
  have flag : ¬ Mentions url.text (.bool true) := fun ⟨_, mem, _⟩ => by cases mem
  have absent : ¬ Mentions url.text .null := fun ⟨_, mem, _⟩ => by cases mem
  rw [mentions_append]
  simp (disch := decide) only [themeDocument, StoreTheme.stripped, StoreTheme.storedTexts,
    mentions_cons, not_mentions_nil, ids, kind, flag, absent, dumpOptional, or_false, false_or]
  tauto

theorem mentions_served (v3 : Fields) :
    Mentions url.text (.obj (themeDocument theme (theme.served theme.customization v3))) ↔
      Mentions url.text (.obj theme.storedTexts) ∨ Mentions url.text (.obj v3) ∨
        Mentions url.text (.obj theme.versionTexts) := by
  have ids (id : BitVec 128) : ¬ Mentions url.text (.str (writeUuid id)) :=
    not_mentions_plain url (plain_writeUuid id)
  have kind : ¬ Mentions url.text (.str ((theme.themeType.map ThemeType.value).getD "internal")) := by
    apply not_mentions_plain
    rcases theme.themeType with _ | _ | _ <;> decide
  simp (disch := decide) only [themeDocument, StoreTheme.served, StoreTheme.storedTexts,
    StoreTheme.versionTexts, mentions_cons, not_mentions_nil, ids, kind, or_false, false_or]
  tauto

theorem mentions_modelDump (settings : ThemeSettingsV3) :
    Mentions url.text (.obj settings.modelDump) ↔
      Mentions url.text (.obj settings.pages) ∨
        Mentions url.text (dumpOptional ExternalThemeMetadata.dump settings.externalTheme) := by
  rw [ThemeSettingsV3.modelDump, mentions_append, mentions_cons url (by decide)]
  simp only [not_mentions_nil, or_false]

end Documents

/-- The theme of the store is external, and the marketplace has suspended it. -/
def Suspended (repo : MarketplaceRepository) (active : StoreTheme) : Prop :=
  active.themeType = some .external ∧
    ∃ slug ∈ active.themeSlug, repo.status slug = some .suspended

/-- The lookup of the listing is made and comes through. -/
def Noticed (repo : MarketplaceRepository) (active : StoreTheme) : Prop :=
  ∀ slug ∈ active.themeSlug, slug ≠ "" ∧ repo.answers slug = true

theorem isThemeSuspended_iff {repo : MarketplaceRepository} {active : StoreTheme}
    (suspended : Suspended repo active) :
    isThemeSuspended (some repo) active = true ↔ Noticed repo active := by
  rcases suspended with ⟨external, slug, named, status⟩
  rw [Option.mem_def] at named
  simp [isThemeSuspended, Noticed, external, named, status]

/-- The customization that the storefront reads is valid. -/
def Readable (platform : Platform) (active : StoreTheme) : Prop :=
  (resolveThemeSettings platform active.customizationV3 active.customization).isSome = true

/-- Where the URL must not stand: the texts that are served as they are stored, the pages of valid
V3 settings, the default theme where it is used, and, when the switch goes unnoticed, the version
and the external theme block. -/
structure Withheld (platform : Platform) (repo : MarketplaceRepository) (active : StoreTheme)
    (url : String) : Prop where
  stored : ¬ Mentions url (.obj active.storedTexts)
  pages : isV3 active.customizationV3 = true →
    ∀ settings ∈ ThemeSettingsV3.validate platform.allowed active.customizationV3,
      ¬ Mentions url (.obj settings.pages)
  fallback : isV3 active.customizationV3 = false → Unbased active.customization →
    ¬ url.toList <:+: platform.defaultThemeId.toList
  version : ¬ Noticed repo active → ¬ Mentions url (.obj active.versionTexts)
  external : ¬ Noticed repo active → isV3 active.customizationV3 = true →
    ∀ settings ∈ ThemeSettingsV3.validate platform.allowed active.customizationV3,
      ¬ Mentions url (dumpOptional ExternalThemeMetadata.dump settings.externalTheme)

section Switch
variable {platform : Platform} {repo : MarketplaceRepository} {active : StoreTheme}
  {settings : ThemeSettingsV3} (url : BundleUrl)

theorem mentions_stored_customization (mention : Mentions url.text (.obj active.customization)) :
    Mentions url.text (.obj active.storedTexts) := by
  simp (disch := decide) only [StoreTheme.storedTexts, mentions_cons]
  exact Or.inr (Or.inr (Or.inl mention))

/-- Without V3 settings the storefront reads the legacy customization, also an empty one. -/
theorem resolve_legacy (legacy : isV3 active.customizationV3 = false) :
    resolveThemeSettings platform active.customizationV3 active.customization =
      normalizeLegacyToV3 platform active.customization := by
  rw [resolveThemeSettings, legacy]
  cases empty : active.customization with
  | nil => rfl
  | cons entry rest => rfl

theorem normalized_id (normalizes : normalizeLegacyToV3 platform active.customization = some settings)
    (unbased : Unbased active.customization) : settings.themeId = platform.defaultThemeId := by
  simp only [normalizeLegacyToV3, Option.bind_eq_bind, Option.bind_eq_some_iff] at normalizes
  rcases normalizes with ⟨themeBlock, theme, themeId, based, _, _, _, _, _, _, _, _, _, _, made⟩
  cases made
  rw [baseTheme, unbased themeBlock theme] at based
  cases based
  rfl

/-- Normalized settings mention nothing that the legacy customization does not, but the default
theme. -/
theorem fallback_of_mentions
    (normalizes : normalizeLegacyToV3 platform active.customization = some settings)
    (stored : ¬ Mentions url.text (.obj active.customization))
    (mention : Mentions url.text (.obj settings.modelDump)) :
    Unbased active.customization ∧ url.text.toList <:+: platform.defaultThemeId.toList := by
  by_cases unbased : Unbased active.customization
  · refine ⟨unbased, ?_⟩
    have within : Json.Within Plain
        (platform.defaultThemeId :: Json.stringsOfFields active.customization)
        (.obj settings.modelDump) :=
      within_normalized (fun text mem => Or.inr (List.mem_cons_of_mem _ mem))
        (fun _ => Or.inr List.mem_cons_self) normalizes
    rcases within.mentions (fun _ plain => url.foreign plain) mention with ⟨text, mem, part⟩
    rcases List.mem_cons.mp mem with rfl | inside
    · exact part
    · exact absurd ⟨text, inside, part⟩ stored
  · have within : Json.Within Plain (Json.stringsOfFields active.customization)
        (.obj settings.modelDump) :=
      within_normalized (Json.within_self _) (fun none_ => absurd none_ unbased) normalizes
    rcases within.mentions (fun _ plain => url.foreign plain) mention with ⟨text, inside, part⟩
    exact absurd ⟨text, inside, part⟩ stored

theorem mentions_of_fallback
    (normalizes : normalizeLegacyToV3 platform active.customization = some settings)
    (unbased : Unbased active.customization)
    (part : url.text.toList <:+: platform.defaultThemeId.toList) :
    Mentions url.text (.obj settings.pages) := by
  rw [ThemeSettingsV3.pages, normalized_id normalizes unbased]
  refine (mentions_cons url (by decide)).mpr (Or.inr ?_)
  exact (mentions_cons url (by decide)).mpr (Or.inl (Json.mentions_str.mpr part))

/-- What is served of the settings that are read is clean exactly if the URL is withheld. -/
theorem withheld_iff
    (reads : resolveThemeSettings platform active.customizationV3 active.customization =
      some settings) :
    Withheld platform repo active url.text ↔
      ¬ Mentions url.text (.obj active.storedTexts) ∧ ¬ Mentions url.text (.obj settings.pages) ∧
        (¬ Noticed repo active → ¬ Mentions url.text (.obj active.versionTexts) ∧
          ¬ Mentions url.text (.obj settings.modelDump)) := by
  by_cases v3 : isV3 active.customizationV3 = true
  · have validates : ThemeSettingsV3.validate platform.allowed active.customizationV3 =
        some settings := by
      rw [resolveThemeSettings, v3] at reads
      exact reads
    constructor
    · intro withheld
      have pages := withheld.pages v3 settings validates
      refine ⟨withheld.stored, pages, fun unnoticed => ⟨withheld.version unnoticed, ?_⟩⟩
      rw [mentions_modelDump, not_or]
      exact ⟨pages, withheld.external unnoticed v3 settings validates⟩
    · rintro ⟨stored, pages, rest⟩
      refine ⟨stored, fun _ other found => ?_, fun legacy => ?_, fun unnoticed => (rest unnoticed).1,
        fun unnoticed _ other found => ?_⟩
      · rw [Option.mem_def, validates] at found
        cases found
        exact pages
      · rw [v3] at legacy
        cases legacy
      · rw [Option.mem_def, validates] at found
        cases found
        have dump := (rest unnoticed).2
        rw [mentions_modelDump, not_or] at dump
        exact dump.2
  · have legacy := Bool.eq_false_iff.mpr v3
    have normalizes : normalizeLegacyToV3 platform active.customization = some settings :=
      (resolve_legacy legacy).symm.trans reads
    constructor
    · intro withheld
      have silent : ¬ Mentions url.text (.obj settings.modelDump) := by
        intro mention
        have customization : ¬ Mentions url.text (.obj active.customization) := fun inside =>
          withheld.stored (mentions_stored_customization url inside)
        have fallback := fallback_of_mentions url normalizes customization mention
        exact withheld.fallback legacy fallback.1 fallback.2
      have pages : ¬ Mentions url.text (.obj settings.pages) := fun mention =>
        silent ((mentions_modelDump url settings).mpr (Or.inl mention))
      exact ⟨withheld.stored, pages, fun unnoticed => ⟨withheld.version unnoticed, silent⟩⟩
    · rintro ⟨stored, pages, rest⟩
      refine ⟨stored, fun here => absurd here v3, fun _ unbased part => ?_,
        fun unnoticed => (rest unnoticed).1, fun _ here => absurd here v3⟩
      exact pages (mentions_of_fallback url normalizes unbased part)

end Switch

/-- In normal mode no bundle URL of a suspended theme is served exactly if the customization is
not valid (nothing is served then), or the URLs are withheld wherever they could stand. -/
theorem suspended_theme_hidden_iff (platform : Platform) (repo : MarketplaceRepository)
    (storeId : BitVec 128) (stored : StoreThemes) (active : StoreTheme) (urls : List BundleUrl)
    (here : stored.active = some active) (suspended : Suspended repo active) :
    (∀ doc, resolveStorefrontTheme platform (some repo) storeId stored none = .ok doc →
      ∀ url ∈ urls, ¬ Mentions url.text (.obj doc)) ↔
      (Readable platform active → ∀ url ∈ urls, Withheld platform repo active url.text) := by
  have served : resolveStorefrontTheme platform (some repo) storeId stored none =
      (settingsOf platform active.customizationV3 active.customization).map fun settings =>
        if isThemeSuspended (some repo) active then
          themeDocument active (active.stripped settings.modelDump) ++
            [("theme_suspended", .bool true)]
        else themeDocument active (active.served active.customization settings.modelDump) := by
    simp only [resolveStorefrontTheme, resolveLive, here]
    cases settingsOf platform active.customizationV3 active.customization with
    | error raised => rfl
    | ok settings =>
        by_cases switch : isThemeSuspended (some repo) active = true
        · simp [switch, bind, Except.bind, Except.map, pure, Except.pure]
        · simp [switch, bind, Except.bind, Except.map, pure, Except.pure]
  rw [served]
  cases reads : resolveThemeSettings platform active.customizationV3 active.customization with
  | none =>
      refine iff_of_true (fun doc returned => ?_) fun readable => ?_
      · rw [settingsOf, reads] at returned
        cases returned
      · rw [Readable, reads] at readable
        cases readable
  | some settings =>
      have readable : Readable platform active := by rw [Readable, reads]; rfl
      simp only [settingsOf, reads, Except.map, Except.ok.injEq, forall_eq', readable,
        forall_const]
      refine forall_congr' fun url => imp_congr_right fun _ => ?_
      rw [withheld_iff url reads]
      by_cases noticed : Noticed repo active
      · rw [if_pos ((isThemeSuspended_iff suspended).mpr noticed), mentions_stripped,
          ThemeSettingsV3.pop_externalTheme, not_or]
        simp only [noticed, not_true_eq_false, false_implies, and_true]
      · rw [if_neg (mt (isThemeSuspended_iff suspended).mp noticed), mentions_served, not_or,
          not_or, mentions_modelDump]
        simp only [noticed, not_false_eq_true, forall_const]
        tauto

/-- A store that was never customized. -/
def plainStore : StoreTheme where
  id := 11
  themeId := 4
  themeSlug := some "bold"
  themeType := some .external
  themeVersion := some "1.2.0"
  bundleUrl := some "https://cdn.numueg.app/bold/1.2.0/theme.js"

def boldBundle : BundleUrl where
  text := "https://cdn.numueg.app/bold/1.2.0/theme.js"
  scheme := by decide

def cdnPlatform : Platform where
  allowed := fun url _ => "https://cdn.numueg.app/".toList.isPrefixOf url.toList
  defaultThemeId := "modern"

def suspendedBold : MarketplaceRepository where
  status := fun slug => if slug = "bold" then some .suspended else none
  answers := fun _ => true

theorem uncustomized_store_hides :
    ∃ doc, resolveStorefrontTheme cdnPlatform (some suspendedBold) 3
        { active := some plainStore, installations := [] } none = .ok doc ∧
      ¬ Mentions boldBundle.text (.obj doc) := by
  have noticed : Noticed suspendedBold plainStore := by
    intro slug named
    cases named
    decide
  have withheld : Withheld cdnPlatform suspendedBold plainStore boldBundle.text :=
    ⟨by decide +kernel, fun v3 => (by cases v3), fun _ _ => by decide +kernel,
      fun unnoticed => absurd noticed unnoticed, fun unnoticed => absurd noticed unnoticed⟩
  have hides := (suspended_theme_hidden_iff cdnPlatform suspendedBold 3
    { active := some plainStore, installations := [] } plainStore [boldBundle] rfl
      ⟨rfl, "bold", rfl, rfl⟩).mpr fun _ url listed => List.mem_singleton.mp listed ▸ withheld
  have valid : (resolveStorefrontTheme cdnPlatform (some suspendedBold) 3
      { active := some plainStore, installations := [] } none).toOption.isSome = true := by
    decide +kernel
  cases returned : resolveStorefrontTheme cdnPlatform (some suspendedBold) 3
      { active := some plainStore, installations := [] } none with
  | error raised =>
      rw [returned] at valid
      cases valid
  | ok doc => exact ⟨doc, rfl, hides doc returned boldBundle List.mem_cons_self⟩

/-- The legacy customization is part of whatever is served in normal mode. -/
theorem customization_served {platform : Platform} {marketplace : Option MarketplaceRepository}
    {storeId : BitVec 128} {stored : StoreThemes} {active : StoreTheme} {doc : Fields}
    (here : stored.active = some active)
    (returned : resolveStorefrontTheme platform marketplace storeId stored none = .ok doc) :
    ("customization", .obj active.customization) ∈ doc := by
  simp only [resolveStorefrontTheme, resolveLive, here] at returned
  rcases Numu.Outcome.bind_eq_ok.mp returned with ⟨settings, -, built⟩
  split at built
  · cases built
    simp [themeDocument, StoreTheme.stripped]
  · cases built
    simp [themeDocument, StoreTheme.served]

theorem legacy_external_theme {v3 : ThemeSettingsV3} {metadata : ExternalThemeMetadata}
    (external : v3.externalTheme = some metadata) :
    ("external_theme", legacyExternalTheme metadata) ∈ mapV3ToLegacyStoreSettings v3 := by
  simp only [mapV3ToLegacyStoreSettings, external]
  exact Json.mem_put_self

/-- Once V3 settings with an external theme are published, their bundle is served, suspended or
not: the legacy copy that goes with them names it. -/
theorem published_bundle_served {platform : Platform} {marketplace : Option MarketplaceRepository}
    {storeId : BitVec 128} {stored : StoreThemes} {active : StoreTheme} {doc : Fields}
    {v3 : ThemeSettingsV3} {metadata : ExternalThemeMetadata}
    (here : stored.active = some active)
    (published : active.customization = mapV3ToLegacyStoreSettings v3)
    (external : v3.externalTheme = some metadata)
    (returned : resolveStorefrontTheme platform marketplace storeId stored none = .ok doc) :
    Mentions metadata.bundleUrl (.obj doc) := by
  have block := legacy_external_theme external
  rw [← published] at block
  have named : Mentions metadata.bundleUrl (legacyExternalTheme metadata) :=
    Json.mentions_obj.mpr ⟨("bundle_url", .str metadata.bundleUrl), List.mem_cons_self,
      Or.inr (Json.mentions_str.mpr List.infix_rfl)⟩
  exact Json.mentions_obj.mpr ⟨_, customization_served here returned,
    Or.inr (Json.mentions_obj.mpr ⟨_, block, Or.inr named⟩)⟩

/-- The settings that a store with the bold theme publishes. -/
def boldMetadata : ExternalThemeMetadata where
  bundleUrl := boldBundle.text

def boldSettings : ThemeSettingsV3 where
  themeId := "bold"
  externalTheme := some boldMetadata

def publishedStore : StoreTheme :=
  { plainStore with
    customization := mapV3ToLegacyStoreSettings boldSettings
    customizationV3 := boldSettings.modelDump }

theorem suspended_bundle_served :
    Suspended suspendedBold publishedStore ∧
      ¬ ∀ doc, resolveStorefrontTheme cdnPlatform (some suspendedBold) 3
          { active := some publishedStore, installations := [] } none = .ok doc →
        ∀ url ∈ [boldBundle], ¬ Mentions url.text (.obj doc) := by
  refine ⟨⟨rfl, "bold", rfl, rfl⟩, fun hidden => ?_⟩
  have valid : (resolveStorefrontTheme cdnPlatform (some suspendedBold) 3
      { active := some publishedStore, installations := [] } none).toOption.isSome = true := by
    decide +kernel
  cases returned : resolveStorefrontTheme cdnPlatform (some suspendedBold) 3
      { active := some publishedStore, installations := [] } none with
  | error raised =>
      rw [returned] at valid
      cases valid
  | ok doc =>
      have published : publishedStore.customization = mapV3ToLegacyStoreSettings boldSettings := rfl
      have external : boldSettings.externalTheme = some boldMetadata := rfl
      have served := published_bundle_served rfl published external returned
      exact hidden doc returned boldBundle List.mem_cons_self served

end Numu.Themes
