import Numu.Foundation.Json
import Numu.Orders.Order

/-!
# Effective permissions

What a member of a tenant may do: the permissions of roles, temporary grants and
ALLOW overrides, less the DENY overrides, with their dependencies.
-/

namespace Numu.Access
open Json (Fields assign)
open Numu.Orders (Time)

/-- `PERMISSION_CATALOG`: the dependencies of a registered permission. -/
abbrev Catalog := String → Option (List String)

inductive AccessError where
  | recursionError
  deriving DecidableEq, Repr

/-- `resolve_dependencies`; `depth` is what is left of the interpreter's recursion limit. -/
def resolveDependencies (catalog : Catalog) : Nat → String → Except AccessError (List String)
  | 0, _ => .error .recursionError
  | depth + 1, code =>
      match catalog code with
      | none => .ok []
      | some dependencies => do
          let nested ← dependencies.mapM (resolveDependencies catalog depth)
          return dependencies ++ nested.flatten

structure EffectivePermissions where
  isOwner : Bool
  allowed : List String
  wildcards : List String
  denied : List String
  scopes : List (String × Fields)
  version : Nat

/-- `code.rstrip("*")`. -/
def stripStars (code : String) : String :=
  String.ofList (code.toList.reverse.dropWhile (· = '*')).reverse

/-- The code begins with what a pattern has before its last stars. -/
def matchesPrefix (pattern code : String) : Bool :=
  (stripStars pattern).toList.isPrefixOf code.toList

def EffectivePermissions.hasPermission (effective : EffectivePermissions) (code : String) : Bool :=
  if effective.isOwner then true
  else if code ∈ effective.denied then false
  else if code ∈ effective.allowed then true
  else effective.wildcards.any fun wildcard => matchesPrefix wildcard code

structure RolePermission where
  permissionId : Nat
  scopeQualifier : Fields := []

inductive OverrideEffect where
  | allow
  | deny
  deriving DecidableEq, Repr

structure Override where
  permissionId : Nat
  effect : OverrideEffect
  scopeQualifier : Fields := []
  expiresAt : Option Time := none

structure TemporaryGrant where
  id : Nat
  roleId : Nat
  validFrom : Time
  validUntil : Time
  revokedAt : Option Time := none

structure Membership where
  isOwner : Bool := false
  permissionVersion : Nat := 1

/-- The rows that decide on one membership. -/
structure AccessRows where
  permissionCode : Nat → Option String
  rolePermissions : Nat → List RolePermission
  membership : Membership
  roleIds : List Nat := []
  grants : List TemporaryGrant := []
  overrides : List Override := []

def isPattern (code : String) : Bool := '*' ∈ code.toList

namespace AccessRows

/-- The permissions of a role that exist, with the qualifiers of their scopes. -/
def roleCodes (rows : AccessRows) (roleId : Nat) : List (String × Fields) :=
  (rows.rolePermissions roleId).filterMap fun rp =>
    (rows.permissionCode rp.permissionId).map fun code => (code, rp.scopeQualifier)

def allRoleCodes (rows : AccessRows) : List (String × Fields) :=
  rows.roleIds.flatMap rows.roleCodes

def validGrants (rows : AccessRows) (now : Time) : List TemporaryGrant :=
  rows.grants.filter fun grant =>
    grant.validFrom ≤ now && now < grant.validUntil && grant.revokedAt = none

def grantCodes (rows : AccessRows) (now : Time) : List String :=
  (rows.validGrants now).flatMap fun grant => (rows.roleCodes grant.roleId).map Prod.fst

def overrideCodes (rows : AccessRows) (effect : OverrideEffect) : List (String × Fields) :=
  (rows.overrides.filter fun override => override.effect = effect).filterMap fun override =>
    (rows.permissionCode override.permissionId).map fun code => (code, override.scopeQualifier)

def denied (rows : AccessRows) : List String := (rows.overrideCodes .deny).map Prod.fst

def wildcards (rows : AccessRows) : List String :=
  ((rows.allRoleCodes.map Prod.fst).filter fun code => isPattern code).map stripStars

/-- What is allowed before the DENY overrides are taken off. -/
def allowed (rows : AccessRows) (now : Time) : List String :=
  (rows.allRoleCodes.map Prod.fst).filter (fun code => !isPattern code) ++ rows.grantCodes now ++
    (rows.overrideCodes .allow).map Prod.fst

def remaining (rows : AccessRows) (now : Time) : List String :=
  (rows.allowed now).filter fun code => code ∉ rows.denied

/-- A qualifier that is not empty is the scope of its code; a later one replaces it. -/
def addScope (scopes : List (String × Fields)) (entry : String × Fields) : List (String × Fields) :=
  if entry.2.isEmpty then scopes else assign scopes entry.1 entry.2

def scopes (rows : AccessRows) : List (String × Fields) :=
  (rows.overrideCodes .allow).foldl addScope
    ((rows.allRoleCodes.filter fun entry => !isPattern entry.1).foldl addScope [])

end AccessRows

/-- `_compute_effective_permissions`. -/
def computeEffectivePermissions (catalog : Catalog) (depth : Nat) (rows : AccessRows) (now : Time) :
    Except AccessError EffectivePermissions := do
  if rows.membership.isOwner then
    return {
      isOwner := true, allowed := ["*"], wildcards := ["*"], denied := [], scopes := []
      version := rows.membership.permissionVersion }
  else
    let dependencies ← (rows.remaining now).mapM (resolveDependencies catalog depth)
    return {
      isOwner := false
      allowed := rows.remaining now ++ dependencies.flatten
      wildcards := rows.wildcards
      denied := rows.denied
      scopes := rows.scopes
      version := rows.membership.permissionVersion }

/-- `get_effective_permissions`, given what the cache holds under the membership's version. -/
def getEffectivePermissions (catalog : Catalog) (depth : Nat) (rows : AccessRows)
    (cached : Option EffectivePermissions) (now : Time) : Except AccessError EffectivePermissions :=
  match cached with
  | some entry => .ok entry
  | none => computeEffectivePermissions catalog depth rows now

/-- `PermissionService.has_permission`. -/
def hasPermission (catalog : Catalog) (depth : Nat) (rows : AccessRows)
    (cached : Option EffectivePermissions) (now : Time) (code : String) : Except AccessError Bool :=
  (getEffectivePermissions catalog depth rows cached now).map fun effective =>
    effective.hasPermission code

end Numu.Access
