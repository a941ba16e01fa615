import Numu.Foundation.FloatText
import Numu.Foundation.Json

/-!
# Classification of theme updates

`classify_theme_update` compares the schemas of two versions and calls the update
automatic when no change is breaking.
-/

namespace Numu.Themes
open Json (Fields assign)

/-- A list or a dictionary is not a member of a set, and asking raises. -/
def hashable : Json → Bool
  | .arr _ | .obj _ => false
  | _ => true

/-- `_NON_INPUT_TYPES`. -/
def nonInputTypes : List String := ["header", "paragraph"]

def settingType (setting : Fields) : Json := setting.get "type" .null

def isDivider (setting : Fields) : Bool :=
  match settingType setting with
  | .str type => type ∈ nonInputTypes
  | _ => false

/-- The settings of a group, which has no `id`. -/
def groupSettings : Json → Option (List Json)
  | .obj group =>
      match group.lookup "settings", group.lookup "id" with
      | some (.arr settings), none => some settings
      | _, _ => none
  | _ => none

def settingItems : Json → List Json
  | .obj fields =>
      match fields.lookup "settings" with
      | some (.arr items) => items
      | _ => []
  | .arr items => items
  | _ => []

def settingHashable : Json → Bool
  | .obj setting => !(Fields.get setting "id" .null).truthy || hashable (settingType setting)
  | _ => true

def itemHashable (item : Json) : Bool :=
  match groupSettings item with
  | some settings => settings.all settingHashable
  | none => settingHashable item

inductive ClassifyError where
  | typeError
  | overflowError
  deriving DecidableEq, Repr

/-- Equality of the values that a `type` may have. -/
def scalarEq : Json → Json → Bool
  | .null, .null => true
  | .str first, .str second => first = second
  | first, second =>
      match number first, number second with
      | some first, some second => first = second
      | _, _ => false
where
  number : Json → Option ℚ
    | .bool value => some (if value then 1 else 0)
    | .int value => some value
    | .float value => some value
    | _ => none

inductive BoundError where
  | unreadable
  | overflow
  deriving DecidableEq, Repr

/-- `float(value)`. -/
def toFloat : Json → Except BoundError FloatValue
  | .bool value => .ok (.finite (if value then 1 else 0))
  | .int value =>
      if FloatText.overflow ≤ |(value : ℚ)| then .error .overflow
      else .ok (.finite (Binary64.nearest value))
  | .float value => .ok (.finite value)
  | .str text =>
      match FloatText.readFloat text with
      | some value => .ok value
      | none => .error .unreadable
  | _ => .error .unreadable

/-- Python's `<` of floats. -/
def floatLt : FloatValue → FloatValue → Bool
  | .nan, _ | _, .nan => false
  | .finite first, .finite second => first < second
  | .finite _, .infinite negative => !negative
  | .infinite negative, .finite _ => negative
  | .infinite first, .infinite second => first && !second

structure FloatBounds where
  omin : FloatValue
  omax : FloatValue
  nmin : FloatValue
  nmax : FloatValue

def floatBounds (old new : Fields) : Except BoundError FloatBounds := do
  let omin ← toFloat (old.get "min" .null)
  let omax ← toFloat (old.get "max" .null)
  let nmin ← toFloat (new.get "min" .null)
  let nmax ← toFloat (new.get "max" .null)
  return { omin, omax, nmin, nmax }

inductive ChangeKind where
  | settingRemoved
  | settingTypeChanged
  | rangeTightened
  | settingAdded
  | sectionRemoved
  | sectionAdded
  | blockRemoved
  | blockAdded
  deriving DecidableEq, Repr

structure Change where
  kind : ChangeKind
  target : String
  breaking : Bool
  detail : String

/-- The scope of the settings of the theme, a section or a block. -/
def settingTarget (scope sid : String) : String := scope ++ ".setting:" ++ sid

/-- A definition that is not a dictionary counts as an empty one. -/
def asDict : Json → Fields
  | .obj fields => fields
  | _ => []

inductive Classification where
  | manual
  | automatic
  deriving DecidableEq, Repr

structure Verdict where
  classification : Classification
  breaking : Bool
  changes : List Change

def sectionSchemas (schemas : Fields) : Fields := asDict (schemas.get "section_schemas" .null)

def settingsSchema (schemas : Fields) : Json := schemas.get "settings_schema" .null

/-- Python's `str` and `repr`, of what is not a string and of floats. -/
class PythonText where
  str : Json → String
  float : FloatValue → String

variable [PythonText]

def pyStr : Json → String
  | .str text => text
  | value => PythonText.str value

def addSetting (out : List (String × Fields)) : Json → List (String × Fields)
  | .obj setting =>
      let id := Fields.get setting "id" .null
      if id.truthy && !isDivider setting then assign out (pyStr id) setting else out
  | _ => out

def addItem (out : List (String × Fields)) (item : Json) : List (String × Fields) :=
  match groupSettings item with
  | some settings => settings.foldl addSetting out
  | none => addSetting out item

/-- `_settings_by_id`, where it does not raise. -/
def settingsById (schema : Json) : List (String × Fields) :=
  (settingItems schema).foldl addItem []

def readSettings (schema : Json) : Except ClassifyError (List (String × Fields)) :=
  if (settingItems schema).all itemHashable then .ok (settingsById schema) else .error .typeError

def addBlock (out : List (String × Fields)) : Json → List (String × Fields)
  | .obj block =>
      let type := Fields.get block "type" .null
      if type.truthy then assign out (pyStr type) block else out
  | _ => out

/-- `_blocks_by_type`. -/
def blocksByType : Json → List (String × Fields)
  | .arr blocks => blocks.foldl addBlock []
  | .obj blocks => blocks.filterMap fun entry =>
      match entry.2 with
      | .obj block => some (entry.1, block)
      | _ => none
  | _ => []

def FloatBounds.tightened (bounds : FloatBounds) : List String :=
  (if floatLt bounds.omin bounds.nmin then
    ["min " ++ PythonText.float bounds.omin ++ "→" ++ PythonText.float bounds.nmin] else []) ++
  (if floatLt bounds.nmax bounds.omax then
    ["max " ++ PythonText.float bounds.omax ++ "→" ++ PythonText.float bounds.nmax] else [])

/-- `_range_tightened`: nothing where a bound is no number. -/
def rangeTightened (old new : Fields) : Except ClassifyError (List String) :=
  match floatBounds old new with
  | .ok bounds => .ok bounds.tightened
  | .error .unreadable => .ok []
  | .error .overflow => .error .overflowError

/-- What became of one setting of the old schema. -/
def settingChange (scope : String) (new : List (String × Fields)) (setting : String × Fields) :
    Except ClassifyError (List Change) :=
  match new.lookup setting.1 with
  | none => .ok [{
      kind := .settingRemoved
      target := settingTarget scope setting.1
      breaking := true
      detail := "Setting '" ++ setting.1 ++ "' was removed." }]
  | some ndef =>
      if !scalarEq (settingType setting.2) (settingType ndef) then .ok [{
        kind := .settingTypeChanged
        target := settingTarget scope setting.1
        breaking := true
        detail := "Setting '" ++ setting.1 ++ "' type changed: " ++
          pyStr (settingType setting.2) ++ " → " ++ pyStr (settingType ndef) ++ "." }]
      else if scalarEq (settingType setting.2) (.str "range") then
        (rangeTightened setting.2 ndef).map fun parts =>
          if parts.isEmpty then [] else [{
            kind := .rangeTightened
            target := settingTarget scope setting.1
            breaking := true
            detail := "Setting '" ++ setting.1 ++ "' range tightened (" ++
              ", ".intercalate parts ++ ")." }]
      else .ok []

/-- `_diff_settings`. -/
def diffSettings (old new : List (String × Fields)) (scope : String) :
    Except ClassifyError (List Change) := do
  let kept ← old.mapM (settingChange scope new)
  return kept.flatten ++ (new.filter fun setting => (old.lookup setting.1).isNone).map fun setting =>
    { kind := .settingAdded
      target := settingTarget scope setting.1
      breaking := false
      detail := "Setting '" ++ setting.1 ++ "' was added." }

def diffSchemas (old new : Json) (scope : String) : Except ClassifyError (List Change) := do
  let olds ← readSettings old
  let news ← readSettings new
  diffSettings olds news scope

/-- What became of one block type of a section. -/
def blockChange (stype : String) (new : List (String × Fields)) (block : String × Fields) :
    Except ClassifyError (List Change) :=
  match new.lookup block.1 with
  | none => .ok [{
      kind := .blockRemoved
      target := "section:" ++ stype ++ ".block:" ++ block.1
      breaking := true
      detail := "Block '" ++ block.1 ++ "' was removed from section '" ++ stype ++ "'." }]
  | some ndef =>
      diffSchemas (block.2.get "settings" .null) (ndef.get "settings" .null)
        ("section:" ++ stype ++ ".block:" ++ block.1)

def diffBlocks (stype : String) (old new : List (String × Fields)) :
    Except ClassifyError (List Change) := do
  let kept ← old.mapM (blockChange stype new)
  return kept.flatten ++ (new.filter fun block => (old.lookup block.1).isNone).map fun block =>
    { kind := .blockAdded
      target := "section:" ++ stype ++ ".block:" ++ block.1
      breaking := false
      detail := "Block '" ++ block.1 ++ "' was added to section '" ++ stype ++ "'." }

/-- What became of one section type. -/
def sectionChange (new : Fields) (section_ : String × Json) : Except ClassifyError (List Change) :=
  match new.lookup section_.1 with
  | none => .ok [{
      kind := .sectionRemoved
      target := "section:" ++ section_.1
      breaking := true
      detail := "Section '" ++ section_.1 ++ "' was removed." }]
  | some ndef => do
      let settings ← diffSchemas ((asDict section_.2).get "settings" .null)
        ((asDict ndef).get "settings" .null) ("section:" ++ section_.1)
      let blocks ← diffBlocks section_.1 (blocksByType ((asDict section_.2).get "blocks" .null))
        (blocksByType ((asDict ndef).get "blocks" .null))
      return settings ++ blocks

def classifyThemeUpdate (oldSchemas newSchemas : Option Fields) : Except ClassifyError Verdict := do
  let old := oldSchemas.getD []
  let new := newSchemas.getD []
  let globals ← diffSchemas (settingsSchema old) (settingsSchema new) "global"
  let sections ← (sectionSchemas old).mapM (sectionChange (sectionSchemas new))
  let added : List Change := ((sectionSchemas new).filter fun entry =>
    ((sectionSchemas old).lookup entry.1).isNone).map fun entry =>
      { kind := .sectionAdded
        target := "section:" ++ entry.1
        breaking := false
        detail := "Section '" ++ entry.1 ++ "' was added." }
  let changes := globals ++ sections.flatten ++ added
  let breaking := changes.any Change.breaking
  return {
    classification := if breaking then .manual else .automatic
    breaking := breaking
    changes := changes }

end Numu.Themes
