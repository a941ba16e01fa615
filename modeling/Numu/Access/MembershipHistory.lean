import Numu.Access.PermissionService
import Numu.Foundation.Calendar
import Numu.Foundation.Table

/-!
# History of a membership

The writers of roles, overrides and temporary grants, the expiry sweep, and the checks
with their cache. An entry of the cache is read under the membership's permission
version; only some of the writers raise it.
-/

namespace Numu.Access
open Numu.Orders (Time)
open Numu (Table)

/-- What the sweep selects: the grants past their end, or one of them. -/
def TemporaryGrant.Swept (grant : TemporaryGrant) (grantId : Option Nat) (now : Time) : Prop :=
  grant.validUntil < now ∧ grant.revokedAt = none ∧ ∀ id ∈ grantId, grant.id = id

instance (grant : TemporaryGrant) (grantId : Option Nat) (now : Time) :
    Decidable (grant.Swept grantId now) :=
  inferInstanceAs (Decidable (_ ∧ _ ∧ _))

namespace AccessRows

def bumpVersion (rows : AccessRows) (by_ : Nat) : AccessRows :=
  { rows with membership :=
      { rows.membership with permissionVersion := rows.membership.permissionVersion + by_ } }

def assignRole (rows : AccessRows) (roleId : Nat) : AccessRows :=
  { rows with roleIds := rows.roleIds ++ [roleId] }.bumpVersion 1

def revokeRole (rows : AccessRows) (roleId : Nat) : AccessRows :=
  { rows with roleIds := rows.roleIds.filter (· ≠ roleId) }.bumpVersion 1

/-- The permissions of a role that stay, and those that are new to it. -/
def replacePermissions (current : List RolePermission) (permissionIds : List Nat) :
    List RolePermission :=
  current.filter (fun rp => rp.permissionId ∈ permissionIds) ++
    (permissionIds.dedup.filter fun id => id ∉ current.map (·.permissionId)).map fun id =>
      { permissionId := id }

/-- `set_role_permissions`: the role's own version is raised, no membership's is. -/
def setRolePermissions (rows : AccessRows) (roleId : Nat) (permissionIds : List Nat) : AccessRows :=
  { rows with rolePermissions := fun id =>
      if id = roleId then replacePermissions (rows.rolePermissions id) permissionIds
      else rows.rolePermissions id }

/-- `delete_role`: its members get the role they are reassigned to; else they keep theirs, which
is deleted softly and read as before. -/
def deleteRole (rows : AccessRows) (roleId : Nat) (reassignTo : Option Nat) : AccessRows :=
  match reassignTo with
  | some target =>
      { rows with roleIds := rows.roleIds.map fun id => if id = roleId then target else id }
  | none => rows

/-- `set_override`; several overrides of one permission make the lookup raise. -/
def setOverride (rows : AccessRows) (override : Override) : AccessRows :=
  match rows.overrides.filter (·.permissionId = override.permissionId) with
  | [] => { rows with overrides := rows.overrides ++ [override] }
  | [_] => { rows with overrides := rows.overrides.map fun existing =>
      if existing.permissionId = override.permissionId then override else existing }
  | _ => rows

def clearOverride (rows : AccessRows) (permissionId : Nat) : AccessRows :=
  { rows with overrides := rows.overrides.filter (·.permissionId ≠ permissionId) }

/-- `clear_expired`. -/
def clearExpired (rows : AccessRows) (now : Time) : AccessRows :=
  { rows with overrides := rows.overrides.filter fun override =>
      !override.expiresAt.any (· < now) }

/-- The grants of `GrantTemporaryAccessUseCase`, each with its id and role. -/
def grantTemporaryAccess (rows : AccessRows) (grants : List (Nat × Nat)) (now validUntil : Time) :
    AccessRows :=
  { rows with grants := rows.grants ++ grants.map fun grant =>
      { id := grant.1, roleId := grant.2, validFrom := now, validUntil := validUntil } }

def revokeTemporaryAccess (rows : AccessRows) (grantId : Nat) (now : Time) : AccessRows :=
  { rows with grants := rows.grants.map fun grant =>
      if grant.id = grantId ∧ grant.revokedAt = none then { grant with revokedAt := some now }
      else grant }

def revokeSwept (rows : AccessRows) (grantId : Option Nat) (now : Time) : AccessRows :=
  { rows with grants := rows.grants.map fun grant =>
      if grant.Swept grantId now then { grant with revokedAt := some now } else grant }

/-- `_expire_temporary_grants`: the version is raised once for each grant. -/
def expireTemporaryGrants (rows : AccessRows) (grantId : Option Nat) (now : Time) : AccessRows :=
  (rows.revokeSwept grantId now).bumpVersion
    (rows.grants.countP fun grant => grant.Swept grantId now)

end AccessRows

structure CachedPermissions where
  permissions : EffectivePermissions
  expiresAt : Time

/-- How long an entry lives. -/
def cacheLifetime : Nat := 86400 * Calendar.secondLength

def CachedPermissions.filledAt (entry : CachedPermissions) : Time :=
  entry.expiresAt - cacheLifetime

/-- One membership, and the cache's entries about it by permission version. -/
structure AccessState where
  rows : AccessRows
  cache : Table Nat CachedPermissions := Table.empty
  clock : Time := 0

inductive AccessEvent where
  | assignRole (roleId : Nat)
  | revokeRole (roleId : Nat)
  | setRolePermissions (roleId : Nat) (permissionIds : List Nat)
  | deleteRole (roleId : Nat) (reassignTo : Option Nat)
  | setOverride (override : Override)
  | clearOverride (permissionId : Nat)
  | clearExpired
  | grantTemporaryAccess (grants : List (Nat × Nat)) (validUntil : Time)
  | revokeTemporaryAccess (grantId : Nat)
  | expireTemporaryGrants (grantId : Option Nat)
  /-- A check of a code; the cache may fail to answer or to take the result. -/
  | check (code : String) (reads writes : Bool)

/-- What an event writes to the database at an instant. -/
def AccessEvent.write (event : AccessEvent) (rows : AccessRows) (now : Time) : AccessRows :=
  match event with
  | .assignRole roleId => rows.assignRole roleId
  | .revokeRole roleId => rows.revokeRole roleId
  | .setRolePermissions roleId permissionIds => rows.setRolePermissions roleId permissionIds
  | .deleteRole roleId reassignTo => rows.deleteRole roleId reassignTo
  | .setOverride override => rows.setOverride override
  | .clearOverride permissionId => rows.clearOverride permissionId
  | .clearExpired => rows.clearExpired now
  | .grantTemporaryAccess grants validUntil => rows.grantTemporaryAccess grants now validUntil
  | .revokeTemporaryAccess grantId => rows.revokeTemporaryAccess grantId now
  | .expireTemporaryGrants grantId => rows.expireTemporaryGrants grantId now
  | .check _ _ _ => rows

namespace AccessState

/-- The entry under the membership's version, while it lives. -/
def readable (state : AccessState) (now : Time) : Option CachedPermissions :=
  (state.cache.get? state.rows.membership.permissionVersion).filter (now ≤ ·.expiresAt)

/-- What the cache answers with. -/
def cached (state : AccessState) (now : Time) (reads : Bool) : Option EffectivePermissions :=
  if reads then (state.readable now).map (·.permissions) else none

def fill (catalog : Catalog) (depth : Nat) (state : AccessState) (now : Time)
    (reads writes : Bool) : Table Nat CachedPermissions :=
  match state.cached now reads, computeEffectivePermissions catalog depth state.rows now with
  | none, .ok effective =>
      if writes then
        state.cache.set state.rows.membership.permissionVersion
          { permissions := effective, expiresAt := now + cacheLifetime }
      else state.cache
  | _, _ => state.cache

def step (catalog : Catalog) (depth : Nat) (state : AccessState) (label : Time × AccessEvent) :
    AccessState where
  rows := label.2.write state.rows label.1
  cache :=
    match label.2 with
    | .check _ reads writes => state.fill catalog depth label.1 reads writes
    | _ => state.cache
  clock := label.1

end AccessState
end Numu.Access
