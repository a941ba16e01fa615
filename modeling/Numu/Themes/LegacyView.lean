import Numu.Foundation.LastWrite
import Numu.Themes.Mappers

/-!
# What the legacy view of V3 settings shows

Each key of the legacy document, as it depends on the settings: the last hero and the last featured
section of the home page, the last header and footer of their groups, the global settings and the
bundle.
-/

namespace Numu.Themes
open Json (Fields)

/-- The last section of a page that `p` holds of. -/
def lastSection (p : SectionInstance → Bool) (page : Option PageTemplate) :
    Option SectionInstance :=
  page.bind fun page => (page.sections.reverse.find? fun entry => p entry.2).map Prod.snd

namespace ThemeSettingsV3

def hero (v3 : ThemeSettingsV3) : Option SectionInstance :=
  lastSection (fun section_ => section_.type = "hero") (v3.templates.lookup "home")

def featured (v3 : ThemeSettingsV3) : Option SectionInstance :=
  lastSection
    (fun section_ => section_.type = "featured-collection" ∨ section_.type = "featured-products")
    (v3.templates.lookup "home")

/-- The last section of a group that carries the group's own type. -/
def chrome (v3 : ThemeSettingsV3) (type : String) : Option SectionInstance :=
  lastSection (fun section_ => section_.type = type) (v3.sectionGroups.lookup type)

/-- The `base_theme` of the legacy view. -/
def base (v3 : ThemeSettingsV3) : Json :=
  (v3.globalSettings.lookup "base_theme").getD (.str v3.themeId)

end ThemeSettingsV3

/-- The loop over the sections of a page, where there is one. -/
def eachSection (f : Fields → String × SectionInstance → Fields) (page : Option PageTemplate)
    (legacy : Fields) : Fields :=
  match page with
  | some page => page.sections.foldl f legacy
  | none => legacy

section Loops
variable {f : Fields → String × SectionInstance → Fields} {key : String}
  {p : SectionInstance → Bool} {g : SectionInstance → Json}

theorem eachSection_last
    (write : ∀ legacy section_, p section_.2 = true →
      (f legacy section_).lookup key = some (g section_.2))
    (keep : ∀ legacy section_, p section_.2 = false →
      (f legacy section_).lookup key = legacy.lookup key)
    (page : Option PageTemplate) (legacy : Fields) :
    (eachSection f page legacy).lookup key =
      ((lastSection p page).map g).or (legacy.lookup key) := by
  cases page with
  | none => rfl
  | some page =>
      rw [eachSection, Json.lookup_foldl_last (p := fun entry => p entry.2)
        (g := fun entry => g entry.2) write keep, lastSection, Option.bind_some, Option.map_map]
      rfl

theorem eachSection_keep
    (keep : ∀ legacy section_, (f legacy section_).lookup key = legacy.lookup key)
    (page : Option PageTemplate) (legacy : Fields) :
    (eachSection f page legacy).lookup key = legacy.lookup key := by
  cases page with
  | none => rfl
  | some page => exact Json.lookup_foldl_keep keep legacy page.sections

end Loops

section Steps
variable (legacy : Fields) (section_ : String × SectionInstance) {key : String}

theorem homeSection_hero (hero : section_.2.type = "hero") :
    (legacyHomeSection legacy section_).lookup "hero" = some (legacyHero section_.2.settings) := by
  rw [legacyHomeSection, if_pos hero, Fields.lookup_put, if_pos rfl]

theorem homeSection_keeps_hero (other : section_.2.type ≠ "hero") :
    (legacyHomeSection legacy section_).lookup "hero" = legacy.lookup "hero" := by
  rw [legacyHomeSection, if_neg other]
  split
  · rw [Fields.lookup_put, if_neg (by decide)]
  · rfl

theorem homeSection_products
    (featured : section_.2.type = "featured-collection" ∨ section_.2.type = "featured-products") :
    (legacyHomeSection legacy section_).lookup "products" = some (.obj section_.2.settings) := by
  have other : section_.2.type ≠ "hero" := by
    rcases featured with type | type <;> rw [type] <;> decide
  rw [legacyHomeSection, if_neg other, if_pos featured, Fields.lookup_put, if_pos rfl]

theorem homeSection_keeps_products
    (other : ¬ (section_.2.type = "featured-collection" ∨
      section_.2.type = "featured-products")) :
    (legacyHomeSection legacy section_).lookup "products" = legacy.lookup "products" := by
  rw [legacyHomeSection, if_neg other]
  split
  · rw [Fields.lookup_put, if_neg (by decide)]
  · rfl

theorem homeSection_keeps (hero : key ≠ "hero") (products : key ≠ "products") :
    (legacyHomeSection legacy section_).lookup key = legacy.lookup key := by
  rw [legacyHomeSection]
  split
  · rw [Fields.lookup_put, if_neg hero]
  · split
    · rw [Fields.lookup_put, if_neg products]
    · rfl

theorem groupSection_own {type : String} (own : section_.2.type = type) :
    (legacyGroupSection type legacy section_).lookup type = some (.obj section_.2.settings) := by
  rw [legacyGroupSection, if_pos own, Fields.lookup_put, if_pos rfl]

theorem groupSection_keeps_own {type : String} (other : section_.2.type ≠ type) :
    (legacyGroupSection type legacy section_).lookup type = legacy.lookup type := by
  rw [legacyGroupSection, if_neg other]

theorem groupSection_keeps {type : String} (other : key ≠ type) :
    (legacyGroupSection type legacy section_).lookup key = legacy.lookup key := by
  rw [legacyGroupSection]
  split
  · rw [Fields.lookup_put, if_neg other]
  · rfl

end Steps

section View
variable (v3 : ThemeSettingsV3)

/-- The legacy view before the pages are read. -/
def legacyBase : Fields := [
  ("schema_version", .int 2),
  ("theme", .obj (legacyTheme v3)),
  ("identity", v3.globalSettings.get "identity" (.obj []))]

/-- The legacy view without the bundle. -/
def legacyPages : Fields :=
  eachSection (legacyGroupSection "footer") (v3.sectionGroups.lookup "footer")
    (eachSection (legacyGroupSection "header") (v3.sectionGroups.lookup "header")
      (eachSection legacyHomeSection (v3.templates.lookup "home") (legacyBase v3)))

theorem map_eq : mapV3ToLegacyStoreSettings v3 =
    match v3.externalTheme with
    | some metadata => (legacyPages v3).put "external_theme" (legacyExternalTheme metadata)
    | none => legacyPages v3 := rfl

theorem map_lookup_external :
    (mapV3ToLegacyStoreSettings v3).lookup "external_theme" =
      v3.externalTheme.map legacyExternalTheme := by
  rw [map_eq]
  cases v3.externalTheme with
  | some metadata => exact (Fields.lookup_put _ _ _ _).trans (if_pos rfl)
  | none =>
      change (legacyPages v3).lookup "external_theme" = none
      rw [legacyPages, eachSection_keep fun _ _ => groupSection_keeps _ _ (by decide),
        eachSection_keep fun _ _ => groupSection_keeps _ _ (by decide),
        eachSection_keep fun _ _ => homeSection_keeps _ _ (by decide) (by decide)]
      rfl

variable {key : String}

theorem map_lookup_pages (other : key ≠ "external_theme") :
    (mapV3ToLegacyStoreSettings v3).lookup key = (legacyPages v3).lookup key := by
  rw [map_eq]
  cases v3.externalTheme with
  | some metadata => exact (Fields.lookup_put _ _ _ _).trans (if_neg other)
  | none => rfl

theorem map_lookup_base (external : key ≠ "external_theme") (footer : key ≠ "footer")
    (header : key ≠ "header") (hero : key ≠ "hero") (products : key ≠ "products") :
    (mapV3ToLegacyStoreSettings v3).lookup key = (legacyBase v3).lookup key := by
  rw [map_lookup_pages v3 external, legacyPages,
    eachSection_keep fun _ _ => groupSection_keeps _ _ footer,
    eachSection_keep fun _ _ => groupSection_keeps _ _ header,
    eachSection_keep fun _ _ => homeSection_keeps _ _ hero products]

theorem map_lookup_theme :
    (mapV3ToLegacyStoreSettings v3).lookup "theme" = some (.obj (legacyTheme v3)) :=
  map_lookup_base v3 (by decide) (by decide) (by decide) (by decide) (by decide)

theorem map_lookup_identity : (mapV3ToLegacyStoreSettings v3).lookup "identity" =
    some (v3.globalSettings.get "identity" (.obj [])) :=
  map_lookup_base v3 (by decide) (by decide) (by decide) (by decide) (by decide)

theorem map_lookup_hero : (mapV3ToLegacyStoreSettings v3).lookup "hero" =
    v3.hero.map fun section_ => legacyHero section_.settings := by
  rw [map_lookup_pages v3 (by decide), legacyPages,
    eachSection_keep fun _ _ => groupSection_keeps _ _ (by decide),
    eachSection_keep fun _ _ => groupSection_keeps _ _ (by decide),
    eachSection_last (p := fun section_ => section_.type = "hero")
      (g := fun section_ => legacyHero section_.settings)
      (fun _ _ hero => homeSection_hero _ _ (of_decide_eq_true hero))
      (fun _ _ other => homeSection_keeps_hero _ _ (of_decide_eq_false other))]
  exact Option.or_none

theorem map_lookup_products : (mapV3ToLegacyStoreSettings v3).lookup "products" =
    v3.featured.map fun section_ => .obj section_.settings := by
  rw [map_lookup_pages v3 (by decide), legacyPages,
    eachSection_keep fun _ _ => groupSection_keeps _ _ (by decide),
    eachSection_keep fun _ _ => groupSection_keeps _ _ (by decide),
    eachSection_last
      (p := fun section_ => section_.type = "featured-collection" ∨
        section_.type = "featured-products")
      (g := fun section_ => .obj section_.settings)
      (fun _ _ featured => homeSection_products _ _ (of_decide_eq_true featured))
      (fun _ _ other => homeSection_keeps_products _ _ (of_decide_eq_false other))]
  exact Option.or_none

theorem eachSection_group (type : String) (page : Option PageTemplate) (legacy : Fields) :
    (eachSection (legacyGroupSection type) page legacy).lookup type =
      ((lastSection (fun section_ => section_.type = type) page).map fun section_ =>
        Json.obj section_.settings).or (legacy.lookup type) :=
  eachSection_last (fun _ _ own => groupSection_own _ _ (of_decide_eq_true own))
    (fun _ _ other => groupSection_keeps_own _ _ (of_decide_eq_false other)) page legacy

theorem map_lookup_header : (mapV3ToLegacyStoreSettings v3).lookup "header" =
    (v3.chrome "header").map fun section_ => .obj section_.settings := by
  rw [map_lookup_pages v3 (by decide), legacyPages,
    eachSection_keep fun _ _ => groupSection_keeps _ _ (by decide), eachSection_group,
    eachSection_keep fun _ _ => homeSection_keeps _ _ (by decide) (by decide)]
  exact Option.or_none

theorem map_lookup_footer : (mapV3ToLegacyStoreSettings v3).lookup "footer" =
    (v3.chrome "footer").map fun section_ => .obj section_.settings := by
  rw [map_lookup_pages v3 (by decide), legacyPages, eachSection_group,
    eachSection_keep fun _ _ => groupSection_keeps _ _ (by decide),
    eachSection_keep fun _ _ => homeSection_keeps _ _ (by decide) (by decide)]
  exact Option.or_none

/-- The theme of the legacy view is the global settings over the theme's id. -/
theorem legacyTheme_lookup (distinct : (v3.globalSettings.map Prod.fst).Nodup) (key : String) :
    (legacyTheme v3).lookup key = (v3.globalSettings.lookup key).or
      (if key = "base_theme" then some (.str v3.themeId) else none) := by
  rw [legacyTheme, Json.lookup_foldl_last (p := fun entry : String × Json => entry.1 = key)
    (g := Prod.snd)
    (fun _ entry own => by rw [Fields.lookup_put, if_pos (of_decide_eq_true own).symm])
    (fun _ entry other => by rw [Fields.lookup_put, if_neg (Ne.symm (of_decide_eq_false other))]),
    Json.find?_reverse_of_nodup distinct, Json.lookup_cons_eq_if]
  rfl

theorem legacyTheme_base (distinct : (v3.globalSettings.map Prod.fst).Nodup) :
    (legacyTheme v3).lookup "base_theme" = some v3.base := by
  rw [legacyTheme_lookup v3 distinct, ThemeSettingsV3.base]
  cases v3.globalSettings.lookup "base_theme" <;> rfl

theorem legacyTheme_other (distinct : (v3.globalSettings.map Prod.fst).Nodup)
    (other : key ≠ "base_theme") :
    (legacyTheme v3).lookup key = v3.globalSettings.lookup key := by
  rw [legacyTheme_lookup v3 distinct, if_neg other, Option.or_none]

end View

end Numu.Themes
