import Mathlib.Data.List.Perm.Basic
import Numu.Access.TemporaryGrants

/-!
# What one more role does

Rows are read in no fixed order, and the last scope that is read for a code is its scope. A role
that is added can take the place of another role's scope, or bring one to a code without any.
-/

namespace Numu.Access
open Json (Fields)
open Numu.Orders (Time)

/-- The same rows as the database gives them another time. -/
structure Reordered (rows rows' : AccessRows) : Prop where
  permissionCode : rows'.permissionCode = rows.permissionCode
  membership : rows'.membership = rows.membership
  roleIds : rows.roleIds.Perm rows'.roleIds
  rolePermissions : ∀ roleId, (rows.rolePermissions roleId).Perm (rows'.rolePermissions roleId)
  overrides : rows.overrides.Perm rows'.overrides
  grants : rows.grants.Perm rows'.grants

namespace AccessRows

def withRole (rows : AccessRows) (roleId : Nat) : AccessRows :=
  rows.withRoles (rows.roleIds ++ [roleId])

def withOverrides (rows : AccessRows) (overrides : List Override) : AccessRows :=
  { rows with overrides := overrides }

def withRolePermissions (rows : AccessRows) (roleId : Nat) (permissions : List RolePermission) :
    AccessRows :=
  { rows with rolePermissions := Function.update rows.rolePermissions roleId permissions }

theorem overrideCodes_concat {rows : AccessRows} {override : Override} {code : String}
    (allow : override.effect = .allow)
    (registered : rows.permissionCode override.permissionId = some code)
    (overrides : List Override) :
    (rows.withOverrides (overrides ++ [override])).overrideCodes .allow =
      (rows.withOverrides overrides).overrideCodes .allow ++ [(code, override.scopeQualifier)] := by
  simp [overrideCodes, withOverrides, allow, registered]

theorem roleCodes_concat {rows : AccessRows} {rp : RolePermission} {code : String}
    (registered : rows.permissionCode rp.permissionId = some code) (roleId : Nat)
    (permissions : List RolePermission) :
    (rows.withRolePermissions roleId (permissions ++ [rp])).roleCodes roleId =
      (rows.withRolePermissions roleId permissions).roleCodes roleId ++ [(code, rp.scopeQualifier)] := by
  simp [roleCodes, withRolePermissions, registered]

/-- The scopes of which a code has one: of its ALLOW overrides, or of roles where these give none. -/
def Offers (rows : AccessRows) (code : String) (qualifier : Fields) : Prop :=
  qualifier ∈ rows.overrideScopes code ∨
    (rows.overrideScopes code = [] ∧ qualifier ∈ rows.scopesOf rows.roleIds code)

/-- No two scopes compete for a code. -/
def ScopesAgree (rows : AccessRows) : Prop :=
  ∀ code first second, rows.Offers code first → rows.Offers code second → first = second

theorem offers_of_lookup {rows : AccessRows} {code : String} {qualifier : Fields}
    (found : rows.scopes.lookup code = some qualifier) : rows.Offers code qualifier := by
  rw [lookup_scopes, Option.or_eq_some_iff] at found
  rcases found with own | ⟨none_, given⟩
  · exact Or.inl (List.mem_of_getLast? own)
  · exact Or.inr ⟨List.getLast?_eq_none_iff.mp none_, List.mem_of_getLast? given⟩

theorem lookup_of_offers {rows : AccessRows} {code : String} {qualifier : Fields}
    (offers : rows.Offers code qualifier) : ∃ last, rows.scopes.lookup code = some last := by
  rw [← Option.isSome_iff_exists, ← Option.not_isNone, Bool.not_eq_true', Bool.eq_false_iff]
  intro nothing
  rw [Option.isNone_iff_eq_none, lookup_scopes, Option.or_eq_none_iff] at nothing
  rcases offers with own | ⟨-, given⟩
  · rw [List.getLast?_eq_none_iff.mp nothing.1] at own
    cases own
  · rw [List.getLast?_eq_none_iff.mp nothing.2] at given
    cases given

end AccessRows

section Readings
variable {catalog : Catalog} {depth : Nat} {rows rows' : AccessRows} {now : Time} {code : String}

theorem Reordered.mem_roleCodes (again : Reordered rows rows') {roleId : Nat}
    {entry : String × Fields} : entry ∈ rows'.roleCodes roleId ↔ entry ∈ rows.roleCodes roleId := by
  rw [AccessRows.roleCodes, AccessRows.roleCodes, again.permissionCode]
  exact ((again.rolePermissions roleId).filterMap _).mem_iff.symm

theorem Reordered.mem_allRoleCodes (again : Reordered rows rows') {entry : String × Fields} :
    entry ∈ rows'.allRoleCodes ↔ entry ∈ rows.allRoleCodes := by
  simp only [AccessRows.allRoleCodes, List.mem_flatMap, again.mem_roleCodes,
    again.roleIds.mem_iff]

theorem Reordered.mem_grantCodes (again : Reordered rows rows') :
    code ∈ rows'.grantCodes now ↔ code ∈ rows.grantCodes now := by
  simp only [AccessRows.grantCodes, AccessRows.validGrants, List.mem_flatMap, List.mem_map,
    List.mem_filter, again.mem_roleCodes, again.grants.mem_iff]

theorem Reordered.mem_overrideCodes (again : Reordered rows rows') {effect : OverrideEffect}
    {entry : String × Fields} :
    entry ∈ rows'.overrideCodes effect ↔ entry ∈ rows.overrideCodes effect := by
  simp only [AccessRows.overrideCodes, List.mem_filterMap, List.mem_filter, again.permissionCode,
    again.overrides.mem_iff]

theorem Reordered.mem_denied (again : Reordered rows rows') :
    code ∈ rows'.denied ↔ code ∈ rows.denied := by
  simp only [AccessRows.denied, List.mem_map, again.mem_overrideCodes]

theorem Reordered.mem_remaining (again : Reordered rows rows') :
    code ∈ rows'.remaining now ↔ code ∈ rows.remaining now := by
  simp only [Access.mem_remaining, again.mem_denied, again.mem_allRoleCodes, again.mem_grantCodes,
    again.mem_overrideCodes]

theorem Reordered.mem_wildcards (again : Reordered rows rows') :
    code ∈ rows'.wildcards ↔ code ∈ rows.wildcards := by
  simp only [AccessRows.wildcards, List.mem_map, List.mem_filter, again.mem_allRoleCodes]

theorem Reordered.resolves_iff (again : Reordered rows rows') :
    Resolves catalog depth rows' now ↔ Resolves catalog depth rows now := by
  simp only [Resolves, again.mem_remaining]

theorem Reordered.mem_overrideScopes (again : Reordered rows rows') {qualifier : Fields} :
    qualifier ∈ rows'.overrideScopes code ↔ qualifier ∈ rows.overrideScopes code := by
  simp only [AccessRows.overrideScopes, mem_qualifiers, again.mem_overrideCodes]

theorem Reordered.offers_iff (again : Reordered rows rows') {qualifier : Fields} :
    rows'.Offers code qualifier ↔ rows.Offers code qualifier := by
  simp only [AccessRows.Offers, again.mem_overrideScopes, List.eq_nil_iff_forall_not_mem,
    AccessRows.mem_scopesOf, again.mem_roleCodes, again.roleIds.mem_iff]

theorem qualifiers_concat (entries : List (String × Fields)) {qualifier : Fields}
    (full : qualifier.isEmpty = false) :
    qualifiers (entries ++ [(code, qualifier)]) code = qualifiers entries code ++ [qualifier] := by
  rw [qualifiers_append]
  simp [qualifiers, scopesCode, full]

theorem perm_move_last {α : Type*} (before after : List α) (item : α) :
    (before ++ item :: after).Perm (before ++ after ++ [item]) := by
  rw [List.append_assoc]
  exact (List.perm_append_left_iff before).mpr (List.perm_append_singleton item after).symm

/-- An override that is read last decides. -/
theorem exists_reading_of_override {qualifier : Fields}
    (own : qualifier ∈ rows.overrideScopes code) :
    ∃ rows', Reordered rows rows' ∧ rows'.scopes.lookup code = some qualifier := by
  rw [AccessRows.overrideScopes, mem_qualifiers] at own
  obtain ⟨listed, full⟩ := own
  obtain ⟨override, kept, entry⟩ := List.mem_filterMap.mp listed
  obtain ⟨member, allow⟩ := List.mem_filter.mp kept
  obtain ⟨found, registered, same⟩ := Option.map_eq_some_iff.mp entry
  cases same
  obtain ⟨before, after, split_⟩ := List.append_of_mem member
  refine ⟨rows.withOverrides (before ++ after ++ [override]),
    ⟨rfl, rfl, .refl _, fun _ => .refl _, ?_, .refl _⟩, ?_⟩
  · rw [split_]
    exact perm_move_last before after override
  · rw [AccessRows.lookup_scopes, AccessRows.overrideScopes,
      AccessRows.overrideCodes_concat (of_decide_eq_true allow) registered,
      qualifiers_concat _ full, List.getLast?_concat, Option.some_or]

/-- Without one, a role's permission decides that is read last, of the role that is. -/
theorem exists_reading_of_role {qualifier : Fields} (unscoped : rows.overrideScopes code = [])
    (given : qualifier ∈ rows.scopesOf rows.roleIds code) :
    ∃ rows', Reordered rows rows' ∧ rows'.scopes.lookup code = some qualifier := by
  rw [AccessRows.mem_scopesOf] at given
  obtain ⟨plain, full, roleId, held, listed⟩ := given
  obtain ⟨rp, member, entry⟩ := List.mem_filterMap.mp listed
  obtain ⟨found, registered, same⟩ := Option.map_eq_some_iff.mp entry
  cases same
  obtain ⟨before, after, split_⟩ := List.append_of_mem held
  obtain ⟨first, rest, inner⟩ := List.append_of_mem member
  let read := rows.withRolePermissions roleId (first ++ rest ++ [rp])
  have last : read.scopesOf [roleId] code =
      qualifiers (((rows.withRolePermissions roleId (first ++ rest)).roleCodes roleId).filter
        fun entry => !isPattern entry.1) code ++ [rp.scopeQualifier] := by
    rw [AccessRows.scopesOf, List.flatMap_singleton, AccessRows.roleCodes_concat registered,
      List.filter_append, List.filter_cons_of_pos (by simp [plain]), List.filter_nil,
      qualifiers_concat _ full]
  refine ⟨read.withRoles (before ++ after ++ [roleId]),
    ⟨rfl, rfl, ?_, fun other => ?_, .refl _, .refl _⟩, ?_⟩
  · rw [split_]
    exact perm_move_last before after roleId
  · change (rows.rolePermissions other).Perm (Function.update rows.rolePermissions roleId _ other)
    by_cases same : other = roleId
    · subst same
      rw [Function.update_self, inner]
      exact perm_move_last first rest rp
    · rw [Function.update_of_ne same]
  · have own : (read.withRoles (before ++ after ++ [roleId])).overrideScopes code = [] := unscoped
    have roles : (read.withRoles (before ++ after ++ [roleId])).scopesOf
        (before ++ after ++ [roleId]) code = read.scopesOf (before ++ after) code ++
          read.scopesOf [roleId] code :=
      AccessRows.scopesOf_append (before ++ after) [roleId]
    have read_ : (read.withRoles (before ++ after ++ [roleId])).roleIds =
        before ++ after ++ [roleId] := rfl
    rw [AccessRows.lookup_scopes, own, List.getLast?_nil, Option.none_or, read_, roles, last,
      ← List.append_assoc, List.getLast?_concat]

theorem exists_reading {qualifier : Fields} (offers : rows.Offers code qualifier) :
    ∃ rows', Reordered rows rows' ∧ rows'.scopes.lookup code = some qualifier := by
  rcases offers with own | ⟨unscoped, given⟩
  · exact exists_reading_of_override own
  · exact exists_reading_of_role unscoped given

end Readings

/-- The same sets of codes, with the same scopes. -/
structure EffectivePermissions.Alike (effective effective' : EffectivePermissions) : Prop where
  isOwner : effective.isOwner = effective'.isOwner
  allowed : ∀ code, code ∈ effective.allowed ↔ code ∈ effective'.allowed
  wildcards : ∀ code, code ∈ effective.wildcards ↔ code ∈ effective'.wildcards
  denied : ∀ code, code ∈ effective.denied ↔ code ∈ effective'.denied
  scope : ∀ code, effective.getScope code = effective'.getScope code
  version : effective.version = effective'.version

/-- Both computations fail, or what they compute is alike. -/
def ComputedAlike : Except AccessError EffectivePermissions →
    Except AccessError EffectivePermissions → Prop
  | .ok effective, .ok effective' => effective.Alike effective'
  | .error error, .error error' => error = error'
  | _, _ => False

/-- What is computed does not hinge on the order in which rows are read. -/
def OrderFree (catalog : Catalog) (depth : Nat) (rows : AccessRows) (now : Time) : Prop :=
  ∀ rows', Reordered rows rows' →
    ComputedAlike (computeEffectivePermissions catalog depth rows now)
      (computeEffectivePermissions catalog depth rows' now)

/-- A scope took the place of none or of a wider one. -/
def Narrowed (narrower : List Fields → List Fields → Prop) :
    Option (List Fields) → Option (List Fields) → Prop
  | none, some _ => True
  | some old, some new => narrower new old
  | _, none => False

/-- What was permitted is permitted, and in no narrower scope. -/
def NeverLess (narrower : List Fields → List Fields → Prop)
    (computed computed' : Except AccessError EffectivePermissions) : Prop :=
  ∀ effective, computed = .ok effective →
    ∃ effective', computed' = .ok effective' ∧
      ∀ code, effective.hasPermission code = true →
        effective'.hasPermission code = true ∧
          ¬ Narrowed narrower (effective.getScope code) (effective'.getScope code)

/-- Order does not matter, before and after the role is given, and the role takes nothing away. -/
def RolesOnlyAdd (narrower : List Fields → List Fields → Prop) (catalog : Catalog) (depth : Nat)
    (rows : AccessRows) (roleId : Nat) (now : Time) : Prop :=
  OrderFree catalog depth rows now ∧ OrderFree catalog depth (rows.withRole roleId) now ∧
    NeverLess narrower (computeEffectivePermissions catalog depth rows now)
      (computeEffectivePermissions catalog depth (rows.withRole roleId) now)

/-- The dependencies of the role's codes resolve, no two scopes compete for a code, and no scope
comes to a code that the member has without one. -/
structure AddsCleanly (catalog : Catalog) (depth : Nat) (rows : AccessRows) (roleId : Nat)
    (now : Time) : Prop where
  resolves : Resolves catalog depth rows now → Resolves catalog depth (rows.withRole roleId) now
  agree : Resolves catalog depth (rows.withRole roleId) now → (rows.withRole roleId).ScopesAgree
  unrestricted : Resolves catalog depth rows now → ∀ code, code ∉ rows.denied →
    Granted catalog rows now code → ∀ qualifier, (rows.withRole roleId).Offers code qualifier →
      ∃ earlier, rows.Offers code earlier

section Added
variable {catalog : Catalog} {depth : Nat} {rows : AccessRows} {now : Time} {code : String}

theorem computed_error (member : rows.membership.isOwner = false)
    (stuck : ¬ Resolves catalog depth rows now) :
    computeEffectivePermissions catalog depth rows now = .error .recursionError := by
  cases computed : computeEffectivePermissions catalog depth rows now with
  | error error =>
      cases error
      rfl
  | ok effective => exact absurd ((computed_isOk_iff member).mp ⟨effective, computed⟩) stuck

theorem computed_isOwner {effective : EffectivePermissions}
    (computed : computeEffectivePermissions catalog depth rows now = .ok effective) :
    effective.isOwner = rows.membership.isOwner ∧
      effective.version = rows.membership.permissionVersion := by
  rw [computeEffectivePermissions] at computed
  split at computed
  · rename_i owner
    cases computed
    exact ⟨owner.symm, rfl⟩
  · rename_i member
    rcases Outcome.bind_eq_ok.mp computed with ⟨dependencies, -, built⟩
    cases built
    exact ⟨(Bool.not_eq_true _ ▸ member : rows.membership.isOwner = false).symm, rfl⟩

theorem computed_getScope {effective : EffectivePermissions}
    (member : rows.membership.isOwner = false)
    (computed : computeEffectivePermissions catalog depth rows now = .ok effective) :
    effective.getScope code = (rows.scopes.lookup code).map fun qualifier => [qualifier] := by
  rw [EffectivePermissions.getScope, (computed_fields member computed).2.2.1]

/-- What is computed does not hinge on the order exactly if no two scopes compete for a code. -/
theorem orderFree_iff (member : rows.membership.isOwner = false) :
    OrderFree catalog depth rows now ↔ (Resolves catalog depth rows now → rows.ScopesAgree) := by
  constructor
  · intro free resolves code first second offered offered'
    obtain ⟨effective, computed⟩ := (computed_isOk_iff member).mpr resolves
    -- Each offer is the scope in some reading.
    have decides : ∀ qualifier, rows.Offers code qualifier →
        effective.getScope code = some [qualifier] := by
      intro qualifier offers
      obtain ⟨rows', again, found⟩ := exists_reading offers
      have member' : rows'.membership.isOwner = false := by rw [again.membership, member]
      obtain ⟨effective', computed'⟩ :=
        (computed_isOk_iff member').mpr (again.resolves_iff.mpr resolves)
      have alike := free rows' again
      rw [computed, computed'] at alike
      rw [alike.scope, computed_getScope member' computed', found]
      rfl
    have same := (decides first offered).symm.trans (decides second offered')
    cases same
    rfl
  · intro agree rows' again
    have member' : rows'.membership.isOwner = false := by rw [again.membership, member]
    by_cases resolves : Resolves catalog depth rows now
    · obtain ⟨effective, computed⟩ := (computed_isOk_iff member).mpr resolves
      obtain ⟨effective', computed'⟩ :=
        (computed_isOk_iff member').mpr (again.resolves_iff.mpr resolves)
      obtain ⟨denied, wildcards, -, allowed⟩ := computed_fields member computed
      obtain ⟨denied', wildcards', -, allowed'⟩ := computed_fields member' computed'
      have owner := computed_isOwner computed
      have owner' := computed_isOwner computed'
      rw [computed, computed']
      refine ⟨?_, ?_, ?_, ?_, ?_, ?_⟩
      · rw [owner.1, owner'.1, again.membership]
      · intro code
        simp only [allowed, allowed', again.mem_remaining]
      · intro code
        rw [wildcards, wildcards', again.mem_wildcards]
      · intro code
        rw [denied, denied', again.mem_denied]
      · intro code
        rw [computed_getScope member computed, computed_getScope member' computed']
        congr 1
        cases found : rows.scopes.lookup code with
        | some qualifier =>
            have offers := AccessRows.offers_of_lookup found
            obtain ⟨last, found'⟩ := AccessRows.lookup_of_offers (again.offers_iff.mpr offers)
            have offers' := again.offers_iff.mp (AccessRows.offers_of_lookup found')
            rw [found', agree resolves code qualifier last offers offers']
        | none =>
            cases found' : rows'.scopes.lookup code with
            | none => rfl
            | some last =>
                have offers := again.offers_iff.mp (AccessRows.offers_of_lookup found')
                obtain ⟨qualifier, some_⟩ := AccessRows.lookup_of_offers offers
                rw [found] at some_
                cases some_
      · rw [owner.2, owner'.2, again.membership]
    · rw [computed_error member resolves,
        computed_error member' fun resolves' => resolves (again.resolves_iff.mp resolves')]
      rfl

variable {roleId : Nat}

theorem placed_last (rows : AccessRows) : rows.roleIds = rows.roleIds ++ [] :=
  (List.append_nil _).symm

theorem granted_withRole (granted : Granted catalog rows now code) :
    Granted catalog (rows.withRole roleId) now code := by
  rcases granted with ⟨allowed, left_, path⟩ | ⟨entry, mem, covers⟩
  · exact Or.inl
      ⟨allowed, (mem_remaining_withRoles (placed_last rows) roleId).mpr (Or.inl left_), path⟩
  · exact Or.inr
      ⟨entry, (mem_allRoleCodes_withRoles (placed_last rows) roleId entry).mpr (Or.inl mem), covers⟩

theorem offers_withRole {qualifier : Fields} (offers : rows.Offers code qualifier) :
    (rows.withRole roleId).Offers code qualifier := by
  rcases offers with own | ⟨unscoped, given⟩
  · exact Or.inl own
  · refine Or.inr ⟨unscoped, ?_⟩
    have longer : (rows.withRole roleId).scopesOf (rows.withRole roleId).roleIds code =
        rows.scopesOf rows.roleIds code ++ rows.scopesOf [roleId] code :=
      AccessRows.scopesOf_append rows.roleIds [roleId]
    rw [longer]
    exact List.mem_append_left _ given

/-- The role takes nothing away where scopes agree, exactly if it brings none to a code that the
member has without one. -/
theorem takesNothing_iff {narrower : List Fields → List Fields → Prop}
    (irreflexive : ∀ scope, ¬ narrower scope scope) (member : rows.membership.isOwner = false)
    (agree : Resolves catalog depth (rows.withRole roleId) now →
      (rows.withRole roleId).ScopesAgree) :
    NeverLess narrower (computeEffectivePermissions catalog depth rows now)
        (computeEffectivePermissions catalog depth (rows.withRole roleId) now) ↔
      (Resolves catalog depth rows now → Resolves catalog depth (rows.withRole roleId) now ∧
        ∀ code, code ∉ rows.denied → Granted catalog rows now code →
          ∀ qualifier, (rows.withRole roleId).Offers code qualifier →
            ∃ earlier, rows.Offers code earlier) := by
  have member' : (rows.withRole roleId).membership.isOwner = false := member
  constructor
  · intro never resolves
    obtain ⟨effective, computed⟩ := (computed_isOk_iff member).mpr resolves
    obtain ⟨effective', computed', kept⟩ := never effective computed
    refine ⟨(computed_isOk_iff member').mp ⟨effective', computed'⟩, ?_⟩
    intro code undenied granted qualifier offers
    obtain ⟨-, unnarrowed⟩ :=
      kept code ((computed_has_iff member computed).mpr ⟨undenied, granted⟩)
    obtain ⟨last, found'⟩ := AccessRows.lookup_of_offers offers
    rw [computed_getScope member computed, computed_getScope member' computed', found'] at unnarrowed
    cases found : rows.scopes.lookup code with
    | some earlier => exact ⟨earlier, AccessRows.offers_of_lookup found⟩
    | none =>
        rw [found] at unnarrowed
        exact absurd trivial unnarrowed
  · intro clean effective computed
    obtain ⟨resolves', unrestricted⟩ := clean ((computed_isOk_iff member).mp ⟨effective, computed⟩)
    obtain ⟨effective', computed'⟩ := (computed_isOk_iff member').mpr resolves'
    refine ⟨effective', computed', fun code has => ?_⟩
    obtain ⟨undenied, granted⟩ := (computed_has_iff member computed).mp has
    refine ⟨(computed_has_iff member' computed').mpr ⟨undenied, granted_withRole granted⟩, ?_⟩
    rw [computed_getScope member computed, computed_getScope member' computed']
    intro narrowed
    cases found' : (rows.withRole roleId).scopes.lookup code with
    | none =>
        rw [found'] at narrowed
        cases found : rows.scopes.lookup code with
        | none =>
            rw [found] at narrowed
            exact narrowed
        | some old =>
            rw [found] at narrowed
            exact narrowed
    | some new =>
        have offers := AccessRows.offers_of_lookup found'
        obtain ⟨earlier, earlierOffers⟩ := unrestricted code undenied granted new offers
        obtain ⟨old, found⟩ := AccessRows.lookup_of_offers earlierOffers
        have same := agree resolves' code old new
          (offers_withRole (AccessRows.offers_of_lookup found)) offers
        rw [found, found', same] at narrowed
        exact irreflexive _ narrowed

/-- Roles only ever add to a membership exactly if the dependencies of the role's codes resolve,
no two scopes compete for a code, and the role brings no scope to a code that the member has
without one. -/
theorem rolesOnlyAdd_iff (narrower : List Fields → List Fields → Prop)
    (irreflexive : ∀ scope, ¬ narrower scope scope) (catalog : Catalog) (depth : Nat)
    (rows : AccessRows) (roleId : Nat) (now : Time) (member : rows.membership.isOwner = false) :
    RolesOnlyAdd narrower catalog depth rows roleId now ↔
      AddsCleanly catalog depth rows roleId now := by
  have member' : (rows.withRole roleId).membership.isOwner = false := member
  rw [RolesOnlyAdd, orderFree_iff member, orderFree_iff member']
  constructor
  · rintro ⟨-, agree, never⟩
    have clean := (takesNothing_iff irreflexive member agree).mp never
    exact ⟨fun resolves => (clean resolves).1, agree, fun resolves => (clean resolves).2⟩
  · rintro ⟨resolves, agree, unrestricted⟩
    refine ⟨fun held code first second offered offered' => ?_, agree, ?_⟩
    · exact agree (resolves held) code first second (offers_withRole offered)
        (offers_withRole offered')
    · exact (takesNothing_iff irreflexive member agree).mpr
        fun held => ⟨resolves held, unrestricted held⟩

end Added

/-- A member who may view all orders, and a role that lets its members view those of a branch. -/
def branchRows : AccessRows where
  permissionCode permissionId := if permissionId = 0 then some "orders.view" else none
  rolePermissions roleId :=
    if roleId = 0 then [{ permissionId := 0 }]
    else [{ permissionId := 0, scopeQualifier := [("branch", .str "cairo")] }]
  membership := {}
  roleIds := [0]

theorem rolesOnlyAdd_iff_branch :
    RolesOnlyAdd (fun _ _ => False) (fun _ => none) 1 branchRows 1 0 ↔
      AddsCleanly (fun _ => none) 1 branchRows 1 0 :=
  have member : branchRows.membership.isOwner = false := rfl
  rolesOnlyAdd_iff (fun _ _ => False) (fun _ => id) (fun _ => none) 1 branchRows 1 0 member

/-- The second role narrows to a branch what the member could view. -/
theorem second_role_narrows :
    branchRows.membership.isOwner = false ∧
      (getScope (fun _ => none) 1 branchRows none 0 "orders.view").map Option.isSome = .ok false ∧
      (getScope (fun _ => none) 1 (branchRows.withRole 1) none 0 "orders.view").map Option.isSome =
        .ok true ∧
      ¬ RolesOnlyAdd (fun _ _ => False) (fun _ => none) 1 branchRows 1 0 := by
  refine ⟨rfl, by decide +kernel, by decide +kernel, ?_⟩
  rintro ⟨-, -, never⟩
  obtain ⟨effective', computed', kept⟩ := never _ rfl
  cases computed'
  exact (kept "orders.view" (by decide +kernel)).2 trivial

end Numu.Access
