import Mathlib.Data.List.DropRight
import Mathlib.Logic.Relation
import Numu.Access.PermissionService
import Numu.Foundation.Outcome

/-!
# Precedence of DENY overrides

A denied code is refused before anything else is asked. A denied pattern is only a
code among others: what it covers is refused where nothing grants it.
-/

namespace Numu.Access
open Relation (ReflTransGen TransGen)
open Numu.Orders (Time)

def DependsOn (catalog : Catalog) (code dependency : String) : Prop :=
  ∃ dependencies, catalog code = some dependencies ∧ dependency ∈ dependencies

section Dependencies
variable {catalog : Catalog} {depth : Nat} {code : String}

/-- What is resolved is what the code depends on, at any number of steps. -/
theorem mem_resolveDependencies {result : List String}
    (resolves : resolveDependencies catalog depth code = .ok result) (found : String) :
    found ∈ result ↔ TransGen (DependsOn catalog) code found := by
  induction depth generalizing code result found with
  | zero => cases resolves
  | succ depth ih =>
      rw [TransGen.head'_iff]
      rw [resolveDependencies] at resolves
      split at resolves
      · rename_i unregistered
        cases resolves
        constructor
        · intro mem
          cases mem
        · rintro ⟨next, ⟨dependencies, registered, -⟩, -⟩
          rw [unregistered] at registered
          cases registered
      · rename_i dependencies registered
        rcases Outcome.bind_eq_ok.mp resolves with ⟨nested, each, built⟩
        cases built
        constructor
        · intro mem
          rcases List.mem_append.mp mem with direct | deeper
          · exact ⟨found, ⟨dependencies, registered, direct⟩, .refl⟩
          · rcases List.mem_flatten.mp deeper with ⟨inner, listed, inside⟩
            rcases Outcome.mapM_ok_of_mem each listed with ⟨next, direct, here⟩
            exact ⟨next, ⟨dependencies, registered, direct⟩, ((ih here found).mp inside).to_reflTransGen⟩
        · rintro ⟨next, ⟨listed, same, direct⟩, path⟩
          rw [registered] at same
          cases same
          rcases Relation.reflTransGen_iff_eq_or_transGen.mp path with rfl | further
          · exact List.mem_append_left _ direct
          · rcases Outcome.mapM_ok_mem each direct with ⟨inner, there, here⟩
            exact List.mem_append_right _
              (List.mem_flatten.mpr ⟨inner, there, (ih here found).mpr further⟩)

/-- Dependencies that descend resolve within the recursion limit. -/
theorem resolveDependencies_isOk {rank : String → Nat}
    (descends : ∀ code dependency, DependsOn catalog code dependency → rank dependency < rank code)
    (within : rank code < depth) :
    ∃ result, resolveDependencies catalog depth code = .ok result := by
  induction depth generalizing code with
  | zero => omega
  | succ depth ih =>
      rw [resolveDependencies]
      split
      · exact ⟨[], rfl⟩
      · rename_i dependencies registered
        have each : ∀ dependency ∈ dependencies,
            ∃ value, resolveDependencies catalog depth dependency = .ok value := by
          intro dependency direct
          apply ih
          have lower := descends code dependency ⟨dependencies, registered, direct⟩
          omega
        rcases Outcome.mapM_isOk each with ⟨nested, resolved⟩
        exact ⟨dependencies ++ nested.flatten, Outcome.bind_eq_ok.mpr ⟨nested, resolved, rfl⟩⟩

end Dependencies

theorem stripStars_stripStars (code : String) : stripStars (stripStars code) = stripStars code := by
  simp [stripStars, List.dropWhile_idempotent]

theorem matchesPrefix_stripStars (pattern code : String) :
    matchesPrefix (stripStars pattern) code = matchesPrefix pattern code := by
  rw [matchesPrefix, matchesPrefix, stripStars_stripStars]

/-- A pattern is the code, or a wildcard whose prefix the code has. -/
def Covers (pattern code : String) : Prop :=
  pattern = code ∨ (isPattern pattern = true ∧ matchesPrefix pattern code = true)

/-- A permission that is left once the denied codes are taken off is the code or depends on it, or
a wildcard of a role covers the code. -/
def Granted (catalog : Catalog) (rows : AccessRows) (now : Time) (code : String) : Prop :=
  (∃ granted ∈ rows.remaining now, ReflTransGen (DependsOn catalog) granted code) ∨
    ∃ entry ∈ rows.allRoleCodes, isPattern entry.1 = true ∧ matchesPrefix entry.1 code = true

/-- The dependencies of everything that is left resolve within the recursion limit. -/
def Resolves (catalog : Catalog) (depth : Nat) (rows : AccessRows) (now : Time) : Prop :=
  ∀ code ∈ rows.remaining now, ∃ result, resolveDependencies catalog depth code = .ok result

/-- What an entry of the cache says no to. -/
def EffectivePermissions.Refuses (effective : EffectivePermissions) (code : String) : Prop :=
  effective.isOwner = false ∧
    (code ∈ effective.denied ∨
      (code ∉ effective.allowed ∧
        (effective.wildcards.any fun wildcard => matchesPrefix wildcard code) = false))

theorem EffectivePermissions.refuses_iff (effective : EffectivePermissions) {code : String} :
    effective.hasPermission code = false ↔ effective.Refuses code := by
  rw [EffectivePermissions.hasPermission, EffectivePermissions.Refuses]
  split
  · simp_all
  · split
    · simp_all
    · split <;> simp_all

section Deny
variable {catalog : Catalog} {depth : Nat} {rows : AccessRows} {now : Time} {code : String}

theorem mem_allowed {dependencies : List (List String)}
    (each : (rows.remaining now).mapM (resolveDependencies catalog depth) = .ok dependencies) :
    code ∈ rows.remaining now ++ dependencies.flatten ↔
      ∃ granted ∈ rows.remaining now, ReflTransGen (DependsOn catalog) granted code := by
  constructor
  · intro mem
    rcases List.mem_append.mp mem with direct | deeper
    · exact ⟨code, direct, .refl⟩
    · rcases List.mem_flatten.mp deeper with ⟨inner, listed, inside⟩
      rcases Outcome.mapM_ok_of_mem each listed with ⟨granted, left_, here⟩
      exact ⟨granted, left_, ((mem_resolveDependencies here code).mp inside).to_reflTransGen⟩
  · rintro ⟨granted, left_, path⟩
    rcases Relation.reflTransGen_iff_eq_or_transGen.mp path with rfl | further
    · exact List.mem_append_left _ left_
    · rcases Outcome.mapM_ok_mem each left_ with ⟨inner, listed, here⟩
      exact List.mem_append_right _
        (List.mem_flatten.mpr ⟨inner, listed, (mem_resolveDependencies here code).mpr further⟩)

theorem any_wildcards :
    (rows.wildcards.any fun wildcard => matchesPrefix wildcard code) = true ↔
      ∃ entry ∈ rows.allRoleCodes, isPattern entry.1 = true ∧ matchesPrefix entry.1 code = true := by
  simp only [AccessRows.wildcards, List.any_map, List.any_filter, List.any_eq_true,
    Function.comp_apply, matchesPrefix_stripStars, Bool.and_eq_true]

theorem mem_denied {override : Override} {pattern : String} (listed : override ∈ rows.overrides)
    (deny : override.effect = .deny)
    (registered : rows.permissionCode override.permissionId = some pattern) :
    pattern ∈ rows.denied := by
  refine List.mem_map.mpr ⟨(pattern, override.scopeQualifier), ?_, rfl⟩
  refine List.mem_filterMap.mpr ⟨override, ?_, by rw [registered]; rfl⟩
  exact List.mem_filter.mpr ⟨listed, decide_eq_true deny⟩

/-- What is computed for a member who is no owner refuses a code exactly if the dependencies
resolve, and the code itself is denied or nothing grants it. -/
theorem computed_refuses_iff (member : rows.membership.isOwner = false) :
    (computeEffectivePermissions catalog depth rows now).map
        (fun effective => effective.hasPermission code) = .ok false ↔
      Resolves catalog depth rows now ∧
        (code ∈ rows.denied ∨ ¬ Granted catalog rows now code) := by
  rw [computeEffectivePermissions, member, Outcome.map_eq_ok]
  simp only [Bool.false_eq_true, if_false]
  constructor
  · rintro ⟨effective, computed, refused⟩
    rcases Outcome.bind_eq_ok.mp computed with ⟨dependencies, each, built⟩
    cases built
    refine ⟨?_, ?_⟩
    · intro granted left_
      rcases Outcome.mapM_ok_mem each left_ with ⟨result, -, here⟩
      exact ⟨result, here⟩
    · simp only [EffectivePermissions.refuses_iff] at refused
      rcases refused with ⟨-, exactly | ⟨absent, uncovered⟩⟩
      · exact Or.inl exactly
      · refine Or.inr ?_
        rintro (direct | wild)
        · exact absent ((mem_allowed each).mpr direct)
        · rw [← any_wildcards, uncovered] at wild
          cases wild
  · rintro ⟨resolves, refusal⟩
    rcases Outcome.mapM_isOk resolves with ⟨dependencies, each⟩
    refine ⟨_, Outcome.bind_eq_ok.mpr ⟨dependencies, each, rfl⟩, ?_⟩
    rw [EffectivePermissions.refuses_iff]
    refine ⟨rfl, ?_⟩
    rcases refusal with exactly | ungranted
    · exact Or.inl exactly
    · refine Or.inr ⟨?_, ?_⟩
      · intro mem
        exact ungranted (Or.inl ((mem_allowed each).mp mem))
      · rw [Bool.eq_false_iff]
        intro covered
        exact ungranted (Or.inr (any_wildcards.mp covered))

/-- A DENY override refuses each code it covers exactly if what is in the cache does, or if, with
nothing there, all dependencies resolve and, for a pattern, the code itself is denied as well or
nothing grants it. -/
theorem deny_wins_iff {cached : Option EffectivePermissions} {override : Override}
    {pattern : String}
    (member : rows.membership.isOwner = false) (listed : override ∈ rows.overrides)
    (deny : override.effect = .deny)
    (registered : rows.permissionCode override.permissionId = some pattern)
    (covers : Covers pattern code) :
    hasPermission catalog depth rows cached now code = .ok false ↔
      match cached with
      | some entry => entry.Refuses code
      | none =>
          Resolves catalog depth rows now ∧
            (isPattern pattern = true →
              code ∈ rows.denied ∨ ¬ Granted catalog rows now code) := by
  cases cached with
  | some entry =>
      rw [hasPermission, getEffectivePermissions, Outcome.map_eq_ok]
      constructor
      · rintro ⟨effective, same, refused⟩
        cases same
        exact entry.refuses_iff.mp refused
      · intro refuses
        exact ⟨entry, rfl, entry.refuses_iff.mpr refuses⟩
  | none =>
      have denied : pattern ∈ rows.denied := mem_denied listed deny registered
      refine (computed_refuses_iff member).trans (and_congr_right ?_)
      intro _
      constructor
      · intro refusal _
        exact refusal
      · intro refusal
        rcases covers with rfl | ⟨wild, -⟩
        · exact Or.inl denied
        · exact refusal wild

end Deny

/-- A role may view orders, and an override denies one permission. -/
def viewerRows (denied : String) : AccessRows where
  permissionCode permissionId :=
    if permissionId = 0 then some "orders.view"
    else if permissionId = 1 then some denied
    else none
  rolePermissions roleId := if roleId = 0 then [{ permissionId := 0 }] else []
  membership := {}
  roleIds := [0]
  overrides := [{ permissionId := 1, effect := .deny }]

theorem denied_view_refused :
    hasPermission (fun _ => none) 1 (viewerRows "orders.view") none 0 "orders.view" = .ok false := by
  refine (deny_wins_iff rfl (List.mem_singleton.mpr rfl) rfl rfl
    (Or.inl rfl)).mpr ⟨?_, ?_⟩
  · intro code left_
    have nothing : (viewerRows "orders.view").remaining 0 = [] := by decide +kernel
    rw [nothing] at left_
    cases left_
  · intro wild
    have plain : isPattern "orders.view" = false := by decide +kernel
    rw [plain] at wild
    cases wild

/-- A member is denied `orders.*` and still may view orders. -/
theorem denied_pattern_granted :
    (∃ override ∈ (viewerRows "orders.*").overrides, override.effect = .deny ∧
      (viewerRows "orders.*").permissionCode override.permissionId = some "orders.*") ∧
    Covers "orders.*" "orders.view" ∧ (viewerRows "orders.*").membership.isOwner = false ∧
    hasPermission (fun _ => none) 1 (viewerRows "orders.*") none 0 "orders.view" = .ok true := by
  refine ⟨⟨_, List.mem_singleton.mpr rfl, rfl, rfl⟩, ?_, rfl, by decide +kernel⟩
  exact Or.inr ⟨by decide +kernel, by decide +kernel⟩

end Numu.Access
