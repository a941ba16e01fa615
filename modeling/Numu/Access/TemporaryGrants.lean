import Numu.Access.Scopes

/-!
# What a temporary grant of a role is worth

The codes of a granted role are all taken as plain ones, patterns too, and without their scopes.
-/

namespace Numu.Access
open Json (Fields)
open Relation (ReflTransGen)
open Numu.Orders (Time)

namespace AccessRows

/-- The membership with one more temporary grant. -/
def withGrant (rows : AccessRows) (grant : TemporaryGrant) : AccessRows :=
  { rows with grants := rows.grants ++ [grant] }

/-- The membership with other roles. -/
def withRoles (rows : AccessRows) (roleIds : List Nat) : AccessRows :=
  { rows with roleIds := roleIds }

end AccessRows

/-- The grant counts at an instant. -/
def TemporaryGrant.ValidAt (grant : TemporaryGrant) (now : Time) : Prop :=
  grant.validFrom ≤ now ∧ now < grant.validUntil ∧ grant.revokedAt = none

/-- The member has the code of what the role's patterns have no part in. -/
def GrantedElsewhere (catalog : Catalog) (rows held : AccessRows) (now : Time) (code : String) : Prop :=
  (∃ granted ∈ held.remaining now, ReflTransGen (DependsOn catalog) granted code) ∨
    ∃ entry ∈ rows.allRoleCodes, isPattern entry.1 = true ∧ matchesPrefix entry.1 code = true

/-- A pattern of the role covers the code. -/
def PatternCovers (rows : AccessRows) (roleId : Nat) (code : String) : Prop :=
  ∃ entry ∈ rows.roleCodes roleId, isPattern entry.1 = true ∧ matchesPrefix entry.1 code = true

/-- The code is a pattern of the role that is not denied, or one depends on it. -/
def PatternDepends (catalog : Catalog) (rows : AccessRows) (roleId : Nat) (code : String) : Prop :=
  ∃ entry ∈ rows.roleCodes roleId, isPattern entry.1 = true ∧ entry.1 ∉ rows.denied ∧
    ReflTransGen (DependsOn catalog) entry.1 code

section Rows
variable {catalog : Catalog} {depth : Nat} {rows : AccessRows} {grant : TemporaryGrant} {now : Time}
  {before after : List Nat} {code : String}

theorem mem_allRoleCodes_withRoles (placed : rows.roleIds = before ++ after) (roleId : Nat)
    (entry : String × Fields) :
    entry ∈ (rows.withRoles (before ++ roleId :: after)).allRoleCodes ↔
      entry ∈ rows.allRoleCodes ∨ entry ∈ rows.roleCodes roleId := by
  simp only [AccessRows.allRoleCodes, placed, List.mem_flatMap, AccessRows.withRoles, List.mem_append,
    List.mem_cons]
  constructor
  · rintro ⟨id, (early | rfl | late), mem⟩
    · exact Or.inl ⟨id, Or.inl early, mem⟩
    · exact Or.inr mem
    · exact Or.inl ⟨id, Or.inr late, mem⟩
  · rintro (⟨id, (early | late), mem⟩ | mem)
    · exact ⟨id, Or.inl early, mem⟩
    · exact ⟨id, Or.inr (Or.inr late), mem⟩
    · exact ⟨roleId, Or.inr (Or.inl rfl), mem⟩

/-- What is left of the allowed codes, by where it comes from. -/
theorem mem_remaining (rows : AccessRows) (now : Time) (code : String) :
    code ∈ rows.remaining now ↔
      code ∉ rows.denied ∧
        ((isPattern code = false ∧ ∃ entry ∈ rows.allRoleCodes, entry.1 = code) ∨
          code ∈ rows.grantCodes now ∨ ∃ entry ∈ rows.overrideCodes .allow, entry.1 = code) := by
  rw [AccessRows.remaining, List.mem_filter, decide_eq_true_eq, and_comm, AccessRows.allowed,
    List.mem_append, List.mem_append, List.mem_filter, List.mem_map, List.mem_map,
    Bool.not_eq_true', and_comm (a := ∃ entry ∈ rows.allRoleCodes, entry.1 = code), or_assoc]

/-- The grant allows all codes of its role by name. -/
theorem mem_remaining_withGrant (valid : grant.ValidAt now) :
    code ∈ (rows.withGrant grant).remaining now ↔
      code ∈ rows.remaining now ∨
        (code ∉ rows.denied ∧ ∃ entry ∈ rows.roleCodes grant.roleId, entry.1 = code) := by
  have kept : (rows.withGrant grant).validGrants now = rows.validGrants now ++ [grant] := by
    rw [AccessRows.validGrants, AccessRows.withGrant, List.filter_append]
    congr 1
    exact List.filter_cons_of_pos (by simp [valid.1, valid.2.1, valid.2.2])
  have granted : code ∈ (rows.withGrant grant).grantCodes now ↔
      code ∈ rows.grantCodes now ∨ ∃ entry ∈ rows.roleCodes grant.roleId, entry.1 = code := by
    rw [AccessRows.grantCodes, kept, List.flatMap_append, List.flatMap_singleton, List.mem_append]
    exact or_congr_right List.mem_map
  rw [mem_remaining, mem_remaining, granted]
  have denied : (rows.withGrant grant).denied = rows.denied := rfl
  have plain : (rows.withGrant grant).allRoleCodes = rows.allRoleCodes := rfl
  have given : (rows.withGrant grant).overrideCodes .allow = rows.overrideCodes .allow := rfl
  rw [denied, plain, given, ← and_or_left]
  refine and_congr_right fun _ => ?_
  constructor
  · rintro (held | (old | new) | allowed)
    · exact Or.inl (Or.inl held)
    · exact Or.inl (Or.inr (Or.inl old))
    · exact Or.inr new
    · exact Or.inl (Or.inr (Or.inr allowed))
  · rintro ((held | old | allowed) | new)
    · exact Or.inl held
    · exact Or.inr (Or.inl (Or.inl old))
    · exact Or.inr (Or.inr allowed)
    · exact Or.inr (Or.inl (Or.inr new))

/-- A role that is held allows its plain codes. -/
theorem mem_remaining_withRoles (placed : rows.roleIds = before ++ after) (roleId : Nat) :
    code ∈ (rows.withRoles (before ++ roleId :: after)).remaining now ↔
      code ∈ rows.remaining now ∨
        (code ∉ rows.denied ∧ isPattern code = false ∧
          ∃ entry ∈ rows.roleCodes roleId, entry.1 = code) := by
  have listed : (∃ entry ∈ (rows.withRoles (before ++ roleId :: after)).allRoleCodes, entry.1 = code) ↔
      (∃ entry ∈ rows.allRoleCodes, entry.1 = code) ∨
        ∃ entry ∈ rows.roleCodes roleId, entry.1 = code := by
    simp only [mem_allRoleCodes_withRoles placed roleId, or_and_right, exists_or]
  rw [mem_remaining, mem_remaining, listed]
  have denied : (rows.withRoles (before ++ roleId :: after)).denied = rows.denied := rfl
  have granted : (rows.withRoles (before ++ roleId :: after)).grantCodes now = rows.grantCodes now := rfl
  have given : (rows.withRoles (before ++ roleId :: after)).overrideCodes .allow =
      rows.overrideCodes .allow := rfl
  rw [denied, granted, given, ← and_or_left, and_or_left (a := isPattern code = false)]
  refine and_congr_right fun _ => ?_
  rw [or_right_comm]

/-- Held, the role grants what its patterns cover. -/
theorem granted_withRoles_iff (placed : rows.roleIds = before ++ after) (roleId : Nat) :
    Granted catalog (rows.withRoles (before ++ roleId :: after)) now code ↔
      GrantedElsewhere catalog rows (rows.withRoles (before ++ roleId :: after)) now code ∨
        PatternCovers rows roleId code := by
  rw [Granted, GrantedElsewhere, PatternCovers, or_assoc]
  refine or_congr_right ?_
  simp only [mem_allRoleCodes_withRoles placed roleId, or_and_right, exists_or]

/-- Granted for a time, it grants what depends on its patterns, as if these were codes. -/
theorem granted_withGrant_iff (placed : rows.roleIds = before ++ after) (valid : grant.ValidAt now) :
    Granted catalog (rows.withGrant grant) now code ↔
      GrantedElsewhere catalog rows (rows.withRoles (before ++ grant.roleId :: after)) now code ∨
        PatternDepends catalog rows grant.roleId code := by
  have wild : (rows.withGrant grant).allRoleCodes = rows.allRoleCodes := rfl
  rw [Granted, GrantedElsewhere, PatternDepends, wild]
  simp only [mem_remaining_withGrant valid, mem_remaining_withRoles placed grant.roleId]
  constructor
  · rintro (⟨granted, (old | ⟨left_, entry, mem, rfl⟩), path⟩ | covered)
    · exact Or.inl (Or.inl ⟨granted, Or.inl old, path⟩)
    · by_cases pattern : isPattern entry.1 = true
      · exact Or.inr ⟨entry, mem, pattern, left_, path⟩
      · have plain : isPattern entry.1 = false := by simpa using pattern
        exact Or.inl (Or.inl ⟨entry.1, Or.inr ⟨left_, plain, entry, mem, rfl⟩, path⟩)
    · exact Or.inl (Or.inr covered)
  · rintro ((⟨granted, (old | ⟨left_, -, listed⟩), path⟩ | covered) | ⟨entry, mem, -, left_, path⟩)
    · exact Or.inl ⟨granted, Or.inl old, path⟩
    · exact Or.inl ⟨granted, Or.inr ⟨left_, listed⟩, path⟩
    · exact Or.inr covered
    · exact Or.inl ⟨entry.1, Or.inr ⟨left_, entry, mem, rfl⟩, path⟩

end Rows

/-- No answer hinges on the role's patterns: a code that is not denied and not granted otherwise is
covered by one exactly if it depends on one. -/
def PatternsIdle (catalog : Catalog) (rows held : AccessRows) (roleId : Nat) (now : Time) : Prop :=
  ∀ code, code ∉ rows.denied → ¬ GrantedElsewhere catalog rows held now code →
    (PatternCovers rows roleId code ↔ PatternDepends catalog rows roleId code)

/-- No answer hinges on the role's scopes: an ALLOW override or a role that is read later gives a
scope to the code, or the role gives none, or the last one that it gives is there already. -/
def ScopesIdle (rows : AccessRows) (before after : List Nat) (roleId : Nat) : Prop :=
  ∀ code, rows.overrideScopes code ≠ [] ∨ rows.scopesOf after code ≠ [] ∨
    rows.scopesOf [roleId] code = [] ∨
      (rows.scopesOf [roleId] code).getLast? = (rows.scopesOf before code).getLast?

section Answers
variable {catalog : Catalog} {depth : Nat} {rows : AccessRows} {grant : TemporaryGrant} {now : Time}
  {before after : List Nat} {code : String}

theorem getLast?_append_eq_iff {α : Type*} (first middle last : List α) :
    (first ++ last).getLast? = (first ++ (middle ++ last)).getLast? ↔
      last ≠ [] ∨ middle = [] ∨ middle.getLast? = first.getLast? := by
  rw [List.getLast?_append, List.getLast?_append, List.getLast?_append]
  cases ends : last.getLast? with
  | some value =>
      have long : last ≠ [] := by
        rintro rfl
        cases ends
      simp [long]
  | none =>
      have empty : last = [] := List.getLast?_eq_none_iff.mp ends
      cases inner : middle.getLast? with
      | some value =>
          have long : middle ≠ [] := by
            rintro rfl
            cases inner
          simp [empty, long, eq_comm]
      | none =>
          have short : middle = [] := List.getLast?_eq_none_iff.mp inner
          simp [empty, short]

/-- The scopes of a code are the same where the role's own decide nothing. -/
theorem scopes_eq_iff (grant : TemporaryGrant) (placed : rows.roleIds = before ++ after)
    (code : String) :
    (rows.withGrant grant).scopes.lookup code =
        (rows.withRoles (before ++ grant.roleId :: after)).scopes.lookup code ↔
      rows.overrideScopes code ≠ [] ∨ rows.scopesOf after code ≠ [] ∨
        rows.scopesOf [grant.roleId] code = [] ∨
          (rows.scopesOf [grant.roleId] code).getLast? = (rows.scopesOf before code).getLast? := by
  have held : (rows.withRoles (before ++ grant.roleId :: after)).scopes.lookup code =
      (rows.overrideScopes code).getLast?.or
        (rows.scopesOf (before ++ ([grant.roleId] ++ after)) code).getLast? :=
    AccessRows.lookup_scopes _ code
  have given : (rows.withGrant grant).scopes.lookup code =
      (rows.overrideScopes code).getLast?.or (rows.scopesOf (before ++ after) code).getLast? := by
    rw [← placed]
    exact AccessRows.lookup_scopes _ code
  rw [held, given, AccessRows.scopesOf_append, AccessRows.scopesOf_append,
    AccessRows.scopesOf_append, ← getLast?_append_eq_iff]
  cases own : (rows.overrideScopes code).getLast? with
  | some qualifier =>
      have some_ : rows.overrideScopes code ≠ [] := by
        intro empty
        rw [empty] at own
        cases own
      exact iff_of_true rfl (Or.inl some_)
  | none =>
      have unscoped := List.getLast?_eq_none_iff.mp own
      simp [unscoped]

/-- While it is valid, a grant of a role is answered for as the role held would be exactly if,
where the dependencies of what is held resolve, those of the granted patterns do too, and neither
the role's patterns nor its scopes decide any answer. -/
theorem grant_worth_iff (member : rows.membership.isOwner = false) (valid : grant.ValidAt now)
    (placed : rows.roleIds = before ++ after) :
    SameAnswers catalog depth (rows.withGrant grant)
        (rows.withRoles (before ++ grant.roleId :: after)) now ↔
      (Resolves catalog depth (rows.withRoles (before ++ grant.roleId :: after)) now →
        Resolves catalog depth (rows.withGrant grant) now ∧
          PatternsIdle catalog rows (rows.withRoles (before ++ grant.roleId :: after)) grant.roleId now ∧
            ScopesIdle rows before after grant.roleId) := by
  -- What is held is among what is granted.
  have narrower : Resolves catalog depth (rows.withGrant grant) now →
      Resolves catalog depth (rows.withRoles (before ++ grant.roleId :: after)) now := by
    intro resolves code left_
    refine resolves code ((mem_remaining_withGrant valid).mpr ?_)
    rcases (mem_remaining_withRoles placed grant.roleId).mp left_ with old | ⟨allowed, -, listed⟩
    · exact Or.inl old
    · exact Or.inr ⟨allowed, listed⟩
  have codes : (∀ code, (code ∉ rows.denied ∧ Granted catalog (rows.withGrant grant) now code) ↔
      (code ∉ rows.denied ∧
        Granted catalog (rows.withRoles (before ++ grant.roleId :: after)) now code)) ↔
        PatternsIdle catalog rows (rows.withRoles (before ++ grant.roleId :: after)) grant.roleId now := by
    refine forall_congr' fun code => ?_
    rw [granted_withGrant_iff placed valid, granted_withRoles_iff placed]
    tauto
  have granted_ : (rows.withGrant grant).membership.isOwner = false := member
  have held_ : (rows.withRoles (before ++ grant.roleId :: after)).membership.isOwner = false := member
  rw [sameAnswers_iff granted_ held_]
  constructor
  · rintro ⟨resolve, same⟩ held
    have granted := resolve.mpr held
    exact ⟨granted, codes.mp fun code => (same granted code).1,
      fun code => (scopes_eq_iff grant placed code).mp (same granted code).2⟩
  · intro worth
    refine ⟨⟨narrower, fun held => (worth held).1⟩, fun granted code => ?_⟩
    obtain ⟨-, patterns, scopes⟩ := worth (narrower granted)
    exact ⟨codes.mpr patterns code, (scopes_eq_iff grant placed code).mpr (scopes code)⟩

end Answers

/-- A role of one permission, and a member without roles. -/
def seasonalRows (code : String) : AccessRows where
  permissionCode permissionId := if permissionId = 0 then some code else none
  rolePermissions roleId := if roleId = 0 then [{ permissionId := 0 }] else []
  membership := {}

def seasonalGrant : TemporaryGrant := { id := 1, roleId := 0, validFrom := 0, validUntil := 10 }

theorem seasonalGrant_valid : seasonalGrant.ValidAt 5 := ⟨by decide, by decide, rfl⟩

theorem grant_worth_iff_viewer :
    SameAnswers (fun _ => none) 1 ((seasonalRows "orders.view").withGrant seasonalGrant)
        ((seasonalRows "orders.view").withRoles ([] ++ seasonalGrant.roleId :: [])) 5 ↔
      (Resolves (fun _ => none) 1
          ((seasonalRows "orders.view").withRoles ([] ++ seasonalGrant.roleId :: [])) 5 →
        Resolves (fun _ => none) 1 ((seasonalRows "orders.view").withGrant seasonalGrant) 5 ∧
          PatternsIdle (fun _ => none) (seasonalRows "orders.view")
            ((seasonalRows "orders.view").withRoles ([] ++ seasonalGrant.roleId :: []))
            seasonalGrant.roleId 5 ∧
          ScopesIdle (seasonalRows "orders.view") [] [] seasonalGrant.roleId) :=
  have member : (seasonalRows "orders.view").membership.isOwner = false := rfl
  have placed : (seasonalRows "orders.view").roleIds = [] ++ [] := rfl
  grant_worth_iff member seasonalGrant_valid placed

/-- The role's `orders.*` lets a member view orders, and a grant of the role does not. -/
theorem granted_pattern_is_worthless :
    let rows := seasonalRows "orders.*"
    rows.membership.isOwner = false ∧ seasonalGrant.ValidAt 5 ∧
      hasPermission (fun _ => none) 1 (rows.withRoles [seasonalGrant.roleId]) none 5 "orders.view" =
        .ok true ∧
      hasPermission (fun _ => none) 1 (rows.withGrant seasonalGrant) none 5 "orders.view" =
        .ok false :=
  ⟨rfl, seasonalGrant_valid, by decide +kernel, by decide +kernel⟩

end Numu.Access
