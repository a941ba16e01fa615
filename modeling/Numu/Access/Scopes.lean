import Mathlib.Data.List.Basic
import Numu.Access.Precedence
import Numu.Foundation.LastWrite

/-!
# Scopes of effective permissions

The scope of a code is the last qualifier that was read for it: of an ALLOW override, and
otherwise of a role. What a member may do and within which scopes decides every answer.
-/

namespace Numu.Access
open Json (Fields)
open Relation (ReflTransGen)
open Numu.Orders (Time)

/-- `get_scope`: a list of one qualifier, where there is a scope. -/
def EffectivePermissions.getScope (effective : EffectivePermissions) (code : String) :
    Option (List Fields) :=
  (effective.scopes.lookup code).map fun qualifier => [qualifier]

/-- `get_scope` of what the service returns. -/
def getScope (catalog : Catalog) (depth : Nat) (rows : AccessRows)
    (cached : Option EffectivePermissions) (now : Time) (code : String) :
    Except AccessError (Option (List Fields)) :=
  (getEffectivePermissions catalog depth rows cached now).map fun effective =>
    effective.getScope code

/-- The entry gives a scope to the code. -/
def scopesCode (code : String) (entry : String × Fields) : Bool :=
  entry.1 = code && !entry.2.isEmpty

/-- The scopes that entries give to a code, in the order in which they are read. -/
def qualifiers (entries : List (String × Fields)) (code : String) : List Fields :=
  (entries.filter (scopesCode code)).map Prod.snd

theorem qualifiers_append (first second : List (String × Fields)) (code : String) :
    qualifiers (first ++ second) code = qualifiers first code ++ qualifiers second code := by
  rw [qualifiers, List.filter_append, List.map_append]
  rfl

theorem mem_qualifiers {entries : List (String × Fields)} {code : String} {qualifier : Fields} :
    qualifier ∈ qualifiers entries code ↔
      (code, qualifier) ∈ entries ∧ qualifier.isEmpty = false := by
  rw [qualifiers, List.mem_map]
  constructor
  · rintro ⟨⟨found, qualifier'⟩, mem, rfl⟩
    rw [List.mem_filter, scopesCode, Bool.and_eq_true, decide_eq_true_eq, Bool.not_eq_true'] at mem
    obtain ⟨listed, rfl, full⟩ := mem
    exact ⟨listed, full⟩
  · rintro ⟨listed, full⟩
    exact ⟨(code, qualifier), List.mem_filter.mpr ⟨listed, by simp [scopesCode, full]⟩, rfl⟩

theorem getLast?_qualifiers (entries : List (String × Fields)) (code : String) :
    (qualifiers entries code).getLast? =
      (entries.reverse.find? (scopesCode code)).map Prod.snd := by
  rw [qualifiers, List.getLast?_map, List.getLast?_eq_head?_reverse, ← List.filter_reverse,
    List.head?_filter]

theorem lookup_addScopes (scopes entries : List (String × Fields)) (code : String) :
    (entries.foldl AccessRows.addScope scopes).lookup code =
      (qualifiers entries code).getLast?.or (scopes.lookup code) := by
  rw [getLast?_qualifiers]
  refine Json.lookup_foldl_last ?_ ?_ scopes entries
  · intro held entry hit
    rw [scopesCode, Bool.and_eq_true, decide_eq_true_eq, Bool.not_eq_true'] at hit
    rw [AccessRows.addScope, hit.2, if_neg Bool.false_ne_true, Json.lookup_assign, if_pos hit.1.symm]
  · intro held entry missed
    rw [AccessRows.addScope]
    split
    · rfl
    · rename_i full
      rw [Json.lookup_assign, if_neg]
      rintro rfl
      exact absurd missed (by simp [scopesCode, full])

namespace AccessRows

/-- The scopes that roles give to a code, in the order in which they are read. -/
def scopesOf (rows : AccessRows) (roleIds : List Nat) (code : String) : List Fields :=
  qualifiers ((roleIds.flatMap rows.roleCodes).filter fun entry => !isPattern entry.1) code

def overrideScopes (rows : AccessRows) (code : String) : List Fields :=
  qualifiers (rows.overrideCodes .allow) code

variable {rows : AccessRows} {code : String}

theorem scopesOf_append (first second : List Nat) :
    rows.scopesOf (first ++ second) code = rows.scopesOf first code ++ rows.scopesOf second code := by
  rw [scopesOf, List.flatMap_append, List.filter_append, qualifiers_append]
  rfl

theorem mem_scopesOf {roleIds : List Nat} {qualifier : Fields} :
    qualifier ∈ rows.scopesOf roleIds code ↔
      isPattern code = false ∧ qualifier.isEmpty = false ∧
        ∃ roleId ∈ roleIds, (code, qualifier) ∈ rows.roleCodes roleId := by
  rw [scopesOf, mem_qualifiers, List.mem_filter, List.mem_flatMap, Bool.not_eq_true']
  constructor
  · exact fun facts => ⟨facts.1.2, facts.2, facts.1.1⟩
  · exact fun facts => ⟨⟨facts.2.2, facts.1⟩, facts.2.1⟩

theorem lookup_scopes (rows : AccessRows) (code : String) :
    rows.scopes.lookup code =
      (rows.overrideScopes code).getLast?.or (rows.scopesOf rows.roleIds code).getLast? := by
  rw [scopes, lookup_addScopes, lookup_addScopes, List.lookup_nil, Option.or_none]
  rfl

end AccessRows

section Computed
variable {catalog : Catalog} {depth : Nat} {rows : AccessRows} {now : Time} {code : String}

/-- What is computed for a member who is no owner is computed if all dependencies resolve. -/
theorem computed_isOk_iff (member : rows.membership.isOwner = false) :
    (∃ effective, computeEffectivePermissions catalog depth rows now = .ok effective) ↔
      Resolves catalog depth rows now := by
  rw [computeEffectivePermissions, member]
  simp only [Bool.false_eq_true, if_false]
  constructor
  · rintro ⟨effective, computed⟩ granted left_
    rcases Outcome.bind_eq_ok.mp computed with ⟨dependencies, each, -⟩
    rcases Outcome.mapM_ok_mem each left_ with ⟨result, -, here⟩
    exact ⟨result, here⟩
  · intro resolves
    rcases Outcome.mapM_isOk resolves with ⟨dependencies, each⟩
    exact ⟨_, Outcome.bind_eq_ok.mpr ⟨dependencies, each, rfl⟩⟩

variable {effective : EffectivePermissions}

theorem computed_has_iff (member : rows.membership.isOwner = false)
    (computed : computeEffectivePermissions catalog depth rows now = .ok effective) :
    effective.hasPermission code = true ↔ code ∉ rows.denied ∧ Granted catalog rows now code := by
  have resolves := (computed_isOk_iff member).mp ⟨effective, computed⟩
  have refused : (computeEffectivePermissions catalog depth rows now).map
      (fun effective => effective.hasPermission code) = .ok false ↔ _ :=
    computed_refuses_iff member
  rw [computed] at refused
  have refused_ : effective.hasPermission code = false ↔
      code ∈ rows.denied ∨ ¬ Granted catalog rows now code := by
    constructor
    · exact fun no => (refused.mp (by rw [← no]; rfl)).2
    · intro no
      exact Except.ok.inj (refused.mpr ⟨resolves, no⟩)
  rw [← Bool.not_eq_false, refused_, not_or, not_not]

/-- The sets and the scopes that are computed. -/
theorem computed_fields (member : rows.membership.isOwner = false)
    (computed : computeEffectivePermissions catalog depth rows now = .ok effective) :
    effective.denied = rows.denied ∧ effective.wildcards = rows.wildcards ∧
      effective.scopes = rows.scopes ∧
      ∀ code, code ∈ effective.allowed ↔
        ∃ granted ∈ rows.remaining now, ReflTransGen (DependsOn catalog) granted code := by
  rw [computeEffectivePermissions, member] at computed
  simp only [Bool.false_eq_true, if_false] at computed
  rcases Outcome.bind_eq_ok.mp computed with ⟨dependencies, each, built⟩
  cases built
  exact ⟨rfl, rfl, rfl, fun code => mem_allowed each⟩

end Computed

/-- Two memberships are given the same answers. -/
def SameAnswers (catalog : Catalog) (depth : Nat) (first second : AccessRows) (now : Time) : Prop :=
  ∀ code, hasPermission catalog depth first none now code =
      hasPermission catalog depth second none now code ∧
    getScope catalog depth first none now code = getScope catalog depth second none now code

/-- Two members are given the same answers if both computations fail, or if both succeed with the
same codes and the same scopes. -/
theorem sameAnswers_iff {catalog : Catalog} {depth : Nat} {first second : AccessRows} {now : Time}
    (member : first.membership.isOwner = false) (member' : second.membership.isOwner = false) :
    SameAnswers catalog depth first second now ↔
      (Resolves catalog depth first now ↔ Resolves catalog depth second now) ∧
        (Resolves catalog depth first now → ∀ code,
          ((code ∉ first.denied ∧ Granted catalog first now code) ↔
            (code ∉ second.denied ∧ Granted catalog second now code)) ∧
          first.scopes.lookup code = second.scopes.lookup code) := by
  rw [← computed_isOk_iff member, ← computed_isOk_iff member', SameAnswers]
  simp only [hasPermission, getScope, getEffectivePermissions]
  cases computed : computeEffectivePermissions catalog depth first now with
  | error error =>
      cases error
      cases computed' : computeEffectivePermissions catalog depth second now with
      | error error =>
          cases error
          refine iff_of_true (fun _ => ⟨rfl, rfl⟩) ⟨Iff.rfl, fun both => ?_⟩
          obtain ⟨_, ok⟩ := both
          cases ok
      | ok effective =>
          refine iff_of_false (fun same => ?_) (fun both => ?_)
          · cases (same "").1
          · obtain ⟨_, ok⟩ := both.1.mpr ⟨effective, rfl⟩
            cases ok
  | ok effective =>
      cases computed' : computeEffectivePermissions catalog depth second now with
      | error error =>
          refine iff_of_false (fun same => ?_) (fun both => ?_)
          · cases (same "").1
          · obtain ⟨_, ok⟩ := both.1.mp ⟨effective, rfl⟩
            cases ok
      | ok effective' =>
          have answers : ∀ code,
              ((Except.ok (effective.hasPermission code) : Except AccessError Bool) =
                  .ok (effective'.hasPermission code) ↔
                ((code ∉ first.denied ∧ Granted catalog first now code) ↔
                  (code ∉ second.denied ∧ Granted catalog second now code))) ∧
              ((Except.ok (effective.getScope code) : Except AccessError _) =
                  .ok (effective'.getScope code) ↔
                first.scopes.lookup code = second.scopes.lookup code) := by
            intro code
            rw [← computed_has_iff member computed, ← computed_has_iff member' computed',
              Except.ok.injEq, Except.ok.injEq, EffectivePermissions.getScope,
              EffectivePermissions.getScope, (computed_fields member computed).2.2.1,
              (computed_fields member' computed').2.2.1]
            refine ⟨Bool.eq_iff_iff, ?_⟩
            exact ⟨fun same => Option.map_injective (fun _ _ one => List.cons.inj one |>.1) same,
              fun same => by rw [same]⟩
          constructor
          · intro same
            refine ⟨iff_of_true ⟨_, rfl⟩ ⟨_, rfl⟩, fun _ code => ?_⟩
            exact ⟨(answers code).1.mp (same code).1, (answers code).2.mp (same code).2⟩
          · rintro ⟨-, same⟩ code
            have here := same ⟨_, rfl⟩ code
            exact ⟨(answers code).1.mpr here.1, (answers code).2.mpr here.2⟩

end Numu.Access
