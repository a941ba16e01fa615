import Numu.Foundation.Json
import Numu.Foundation.Table
import Numu.Foundation.UuidText

/-!
# Scopes as filters and as checks

`ScopeCompiler.compile` turns a scope into conditions of a query, `check_access` judges one resource.
Identifiers are compared as the UUIDs that they write.
-/

namespace Numu.Access.Scope
open Numu.UuidText (readUuid)

abbrev UUID := BitVec 128

inductive AccessError where
  | attributeError
  | typeError
  deriving DecidableEq, Repr

/-- What a model's class has: the columns that hold a user, and perhaps tags. -/
structure ResourceModel where
  userFields : List String
  hasTags : Bool

/-- A row of a model. The columns of users are nullable; `tags` is there where the model has them,
and may be null. -/
structure Resource where
  id : UUID
  users : Table String (Option UUID)
  tags : Option (Option (List String))

def Resource.model (resource : Resource) : ResourceModel where
  userFields := resource.users.rows.map Prod.fst
  hasTags := resource.tags.isSome

/-- `getattr(resource, field, None)`. -/
def Resource.user (resource : Resource) (field : String) : Option UUID :=
  (resource.users.get? field).join

/-- A condition of a query. -/
inductive Condition where
  | equals (field : String) (user : UUID)
  | idIn (ids : List String)
  | tagsOverlap (tags : List String)
  deriving DecidableEq

/-- One of the identifiers is the resource's. -/
def Resource.named (resource : Resource) (ids : List String) : Bool :=
  ids.any fun written => readUuid written = some resource.id

/-- The resource has one of the tags. -/
def Resource.tagged (resource : Resource) (tags : List String) : Bool :=
  resource.tags.join.any fun own => tags.any (· ∈ own)

/-- What the database makes of a condition; a null satisfies none. -/
def Condition.holds (resource : Resource) : Condition → Bool
  | .equals field user => resource.user field = some user
  | .idIn ids => resource.named ids
  | .tagsOverlap tags => resource.tagged tags

/-- The texts of a list; a null has none. -/
def texts : Json → Option (List String)
  | .arr items =>
      items.mapM fun item =>
        match item with
        | .str text => some text
        | _ => none
  | _ => none

/-- `scope_qualifier.get(key, [])`. -/
def entry (qualifier : Json.Fields) (key : String) : Json := qualifier.get key (.arr [])

/-- The conditions of a qualifier, as its two entries are there. -/
def resourceConditions (qualifier : Json.Fields) (resourceModel : ResourceModel) : List Condition :=
  let resourceIds := entry qualifier "resource_ids"
  let tags := entry qualifier "tags"
  let byId := if resourceIds.truthy then [Condition.idIn ((texts resourceIds).getD [])] else []
  let byTags :=
    if tags.truthy && resourceModel.hasTags then [Condition.tagsOverlap ((texts tags).getD [])] else []
  byId ++ byTags

def compile (scopeType : String) (scopeQualifier : Option Json.Fields) (userId : UUID)
    (resourceModel : ResourceModel) (ownerField assignedField : String) :
    Except AccessError (List Condition) :=
  if scopeType = "all" then .ok []
  else if scopeType = "own" then
    if ownerField ∈ resourceModel.userFields then .ok [.equals ownerField userId]
    else .error .attributeError
  else if scopeType = "assigned" then
    if assignedField ∈ resourceModel.userFields then .ok [.equals assignedField userId]
    else .error .attributeError
  else if scopeType = "resource" then
    match scopeQualifier with
    | none => .ok []
    | some qualifier =>
        if qualifier.isEmpty then .ok [] else .ok (resourceConditions qualifier resourceModel)
  else .ok []

/-- Neither a null nor the null tags of a resource can be searched. -/
def checkResource (qualifier : Json.Fields) (resource : Resource) : Except AccessError Bool :=
  match texts (entry qualifier "resource_ids") with
  | none => .error .typeError
  | some resourceIds =>
      if resource.named resourceIds then .ok true
      else
        match texts (entry qualifier "tags"), resource.tags with
        | none, _ | _, some none => .error .typeError
        | some tags, some (some own) => .ok (tags.any (· ∈ own))
        | some _, none => .ok false

def checkAccess (scopeType : String) (scopeQualifier : Option Json.Fields) (userId : UUID)
    (resource : Resource) (ownerField assignedField : String) : Except AccessError Bool :=
  if scopeType = "all" then .ok true
  else if scopeType = "own" then .ok (resource.user ownerField = some userId)
  else if scopeType = "assigned" then .ok (resource.user assignedField = some userId)
  else if scopeType = "resource" then
    match scopeQualifier with
    | none => .ok false
    | some qualifier =>
        if qualifier.isEmpty then .ok false else checkResource qualifier resource
  else .ok false

/-- Both answer, and the check allows what satisfies the filter. -/
def Agree (scopeType : String) (scopeQualifier : Option Json.Fields) (userId : UUID)
    (resource : Resource) (ownerField assignedField : String) : Prop :=
  ∃ conditions allowed,
    compile scopeType scopeQualifier userId resource.model ownerField assignedField =
        .ok conditions ∧
      checkAccess scopeType scopeQualifier userId resource ownerField assignedField = .ok allowed ∧
        (allowed = true ↔ ∀ condition ∈ conditions, condition.holds resource = true)

/-- Where a qualifier names the resource, its tags, if the filter looks at any, must be the
resource's too; where it does not, the tags must be no null, and the resource must have none of
them if identifiers were given, and an attribute for them if not. -/
def Settles (qualifier : Json.Fields) (resource : Resource) : Prop :=
  ∃ ids ∈ texts (entry qualifier "resource_ids"),
    if resource.named ids then
      ∀ tags ∈ texts (entry qualifier "tags"), tags = [] ∨ resource.tags = none ∨
        resource.tagged tags = true
    else
      ∃ tags ∈ texts (entry qualifier "tags"), resource.tags ≠ some none ∧
        if ids = [] then resource.tags ≠ none else resource.tagged tags = false

variable {qualifier : Json.Fields} {resource : Resource} {key : String}

/-- A qualifier that is accepted has two entries of the kind, and one of them is not empty. -/
structure Accepted (qualifier : Json.Fields) : Prop where
  ids : entry qualifier "resource_ids" = .null ∨
    ∃ items, texts (entry qualifier "resource_ids") = some items
  tags : entry qualifier "tags" = .null ∨ ∃ items, texts (entry qualifier "tags") = some items
  some_ : (entry qualifier "resource_ids").truthy = true ∨ (entry qualifier "tags").truthy = true

namespace Accepted

theorem nonempty (accepted : Accepted qualifier) : qualifier.isEmpty = false := by
  cases qualifier with
  | nil => exact absurd accepted.some_ (by decide)
  | cons => rfl

end Accepted

end Numu.Access.Scope
