import Numu.Foundation.UuidText
import Numu.Themes.Mappers

/-!
# What the storefront is served

`resolve_storefront_theme`, and the kill switch for a theme that the marketplace
has suspended.
-/

namespace Numu.Themes
open Json (Fields)
open Numu.UuidText (writeUuid)

inductive ThemeType where
  | internal
  | external
  deriving DecidableEq, Repr

def ThemeType.value : ThemeType → String
  | .internal => "internal"
  | .external => "external"

inductive MarketplaceThemeStatus where
  | draft
  | pendingReview
  | published
  | rejected
  | suspended
  deriving DecidableEq, Repr

/-- An installation, with what is denormalized of its theme and its version. -/
structure StoreTheme where
  id : BitVec 128
  themeId : BitVec 128
  customization : Fields := []
  draftCustomization : Fields := []
  customizationV3 : Fields := []
  draftCustomizationV3 : Fields := []
  themeSlug : Option String := none
  themeType : Option ThemeType := none
  themeVersion : Option String := none
  bundleUrl : Option String := none
  cssUrl : Option String := none
  bundleChecksum : Option String := none
  serverChecksum : Option String := none
  settingsSchema : Option Json := none
  sectionSchemas : Option Fields := none

def StoreTheme.hasDraftChanges (theme : StoreTheme) : Bool := !theme.draftCustomization.isEmpty

/-- The listings, and whether the lookup of one comes through. -/
structure MarketplaceRepository where
  status : String → Option MarketplaceThemeStatus
  answers : String → Bool

structure StoreThemes where
  active : Option StoreTheme
  installations : List StoreTheme

inductive ResolveError where
  | notFound (detail : String)
  | validation
  deriving DecidableEq, Repr

/-- `_is_theme_suspended`. -/
def isThemeSuspended (marketplace : Option MarketplaceRepository) (active : StoreTheme) : Bool :=
  if active.themeType ≠ some .external then false
  else match active.themeSlug, marketplace with
  | some slug, some repo =>
      slug ≠ "" && repo.answers slug && (repo.status slug = some .suspended)
  | _, _ => false

/-- `settings_schema or {}`. -/
def orEmpty : Option Json → Json
  | some schema => if schema.truthy then schema else .obj []
  | none => .obj []

/-- What is served of an installation. -/
structure Served where
  themeType : String
  bundleUrl : Option String
  cssUrl : Option String
  customization : Fields
  customizationV3 : Fields
  bundleChecksum : Option String
  serverChecksum : Option String

def themeDocument (theme : StoreTheme) (served : Served) : Fields := [
  ("theme_id", .str (writeUuid theme.themeId)),
  ("theme_slug", dumpOptional .str theme.themeSlug),
  ("theme_type", .str served.themeType),
  ("version", dumpOptional .str theme.themeVersion),
  ("bundle_url", dumpOptional .str served.bundleUrl),
  ("css_url", dumpOptional .str served.cssUrl),
  ("customization", .obj served.customization),
  ("customization_v3", .obj served.customizationV3),
  ("settings_schema", orEmpty theme.settingsSchema),
  ("section_schemas", dumpOptional .obj theme.sectionSchemas),
  ("installation_id", .str (writeUuid theme.id)),
  ("bundle_checksum", dumpOptional .str served.bundleChecksum),
  ("server_checksum", dumpOptional .str served.serverChecksum)]

def StoreTheme.served (theme : StoreTheme) (customization customizationV3 : Fields) : Served where
  themeType := (theme.themeType.map ThemeType.value).getD "internal"
  bundleUrl := theme.bundleUrl
  cssUrl := theme.cssUrl
  customization := customization
  customizationV3 := customizationV3
  bundleChecksum := theme.bundleChecksum
  serverChecksum := theme.serverChecksum

/-- The built-in rendering of a suspended theme: no bundle, and no external theme block. -/
def StoreTheme.stripped (theme : StoreTheme) (v3 : Fields) : Served where
  themeType := "internal"
  bundleUrl := none
  cssUrl := none
  customization := theme.customization
  customizationV3 := v3.pop "external_theme"
  bundleChecksum := none
  serverChecksum := none

def settingsOf (platform : Platform) (customizationV3 legacy : Fields) :
    Except ResolveError ThemeSettingsV3 :=
  match resolveThemeSettings platform customizationV3 legacy with
  | some settings => .ok settings
  | none => .error .validation

def resolveDraft (platform : Platform) (stored : StoreThemes) (installationId : BitVec 128) :
    Except ResolveError Fields := do
  match stored.installations.find? fun theme => theme.id = installationId with
  | none => .error (.notFound ("Installation " ++ writeUuid installationId ++ " not found"))
  | some theme =>
      let legacy :=
        if theme.hasDraftChanges then theme.draftCustomization else theme.customization
      let v3 :=
        if theme.hasDraftChanges then theme.draftCustomizationV3 else theme.customizationV3
      let settings ← settingsOf platform v3 legacy
      return themeDocument theme (theme.served legacy settings.modelDump)

def resolveLive (platform : Platform) (marketplace : Option MarketplaceRepository)
    (storeId : BitVec 128) (stored : StoreThemes) : Except ResolveError Fields := do
  match stored.active with
  | none => .error (.notFound ("No active theme found for store " ++ writeUuid storeId))
  | some active =>
      let settings ← settingsOf platform active.customizationV3 active.customization
      if isThemeSuspended marketplace active then
        return themeDocument active (active.stripped settings.modelDump) ++
          [("theme_suspended", .bool true)]
      else return themeDocument active (active.served active.customization settings.modelDump)

/-- Draft mode shows an installation with its draft data, normal mode the active theme. -/
def resolveStorefrontTheme (platform : Platform) (marketplace : Option MarketplaceRepository)
    (storeId : BitVec 128) (stored : StoreThemes) :
    (draftInstallationId : Option (BitVec 128)) → Except ResolveError Fields
  | some installationId => resolveDraft platform stored installationId
  | none => resolveLive platform marketplace storeId stored

end Numu.Themes
