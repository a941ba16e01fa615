import Numu.Access.MembershipHistory
import Numu.Access.Precedence
import Numu.Foundation.Run

/-!
# Expired access

What an entry of the cache allows was given when it was made. It is still given as long
as each write that raises no version takes nothing away and nothing given then has ended.
-/

namespace Numu.Access
open Relation (ReflTransGen)
open Numu (Table)
open Numu.Orders (Time)

/-- An override without an end, or before it. -/
def Override.Lives (override : Override) (now : Time) : Prop :=
  ∀ end_ ∈ override.expiresAt, now < end_

instance (override : Override) (now : Time) : Decidable (override.Lives now) :=
  inferInstanceAs (Decidable (∀ end_ ∈ override.expiresAt, now < end_))

/-- The codes that a role, a valid grant or an ALLOW override before its end gives. -/
def AccessRows.live (rows : AccessRows) (now : Time) : List String :=
  rows.allRoleCodes.map Prod.fst ++ rows.grantCodes now ++
    (rows.overrides.filter fun override => override.effect = .allow ∧ override.Lives now).filterMap
      fun override => rows.permissionCode override.permissionId

/-- Something live is the code, depends on it, or is a pattern that covers it. -/
def Given (catalog : Catalog) (rows : AccessRows) (now : Time) (code : String) : Prop :=
  ∃ source ∈ rows.live now, ReflTransGen (DependsOn catalog) source code ∨
    (isPattern source = true ∧ matchesPrefix source code = true)

/-- Each ALLOW override past its end is for a code that is denied or that something live gives. -/
def AccessRows.Lapsed (rows : AccessRows) (now : Time) : Prop :=
  ∀ override ∈ rows.overrides, override.effect = .allow → ¬ override.Lives now →
    ∀ code ∈ rows.permissionCode override.permissionId, code ∈ rows.denied ∨ code ∈ rows.live now

instance (rows : AccessRows) (now : Time) : Decidable (rows.Lapsed now) :=
  inferInstanceAs (Decidable (∀ override ∈ rows.overrides, _ → _ → ∀ code ∈ _, _))

namespace AccessState
variable (catalog : Catalog) (depth : Nat) (state : AccessState) (label : Time × AccessEvent)

/-- A check grants a code only if something live gives it. -/
def ConfersOnlyGiven : Prop :=
  ∀ code reads writes, label.2 = .check code reads writes →
    hasPermission catalog depth state.rows (state.cached label.1 reads) label.1 code = .ok true →
      Given catalog state.rows label.1 code

/-- A write takes away nothing that was live when the entry that can be read was made. -/
def Keeps (state : AccessState) (label : Time × AccessEvent) : Prop :=
  ∀ entry ∈ state.readable label.1,
      state.rows.live entry.filledAt ⊆ (label.2.write state.rows label.1).live entry.filledAt

/-- What has to be avoided: a check that computes from an override past its end, a check that is
served what has ended since, and a write that takes something away and raises no version. -/
def Careful (state : AccessState) (label : Time × AccessEvent) : Prop :=
  match label.2 with
  | .assignRole _ | .revokeRole _ | .grantTemporaryAccess _ _ | .expireTemporaryGrants _ => True
  | .check _ reads _ =>
      (reads = true →
        ∀ entry ∈ state.readable label.1, state.rows.live entry.filledAt ⊆ state.rows.live label.1) ∧
      ((state.cached label.1 reads).isNone = true → state.rows.Lapsed label.1)
  | .setRolePermissions _ _ | .deleteRole _ _ | .setOverride _ | .clearOverride _ | .clearExpired
  | .revokeTemporaryAccess _ => state.Keeps label

instance decidableCareful (state : AccessState) : ∀ label, Decidable (state.Careful label)
  | (_, .assignRole _) | (_, .revokeRole _) | (_, .grantTemporaryAccess _ _)
  | (_, .expireTemporaryGrants _) => isTrue trivial
  | (_, .check _ _ _) => inferInstanceAs (Decidable (_ ∧ _))
  | (_, .setRolePermissions _ _) | (_, .deleteRole _ _) | (_, .setOverride _)
  | (_, .clearOverride _) | (_, .clearExpired) | (_, .revokeTemporaryAccess _) =>
      inferInstanceAs (Decidable (∀ entry ∈ state.readable _, _))

end AccessState

section Given
variable {catalog : Catalog} {depth : Nat} {rows : AccessRows} {now : Time} {code : String}

theorem Given.mono {later : AccessRows} {since : Time} (kept : rows.live since ⊆ later.live now)
    (given : Given catalog rows since code) : Given catalog later now code := by
  rcases given with ⟨source, live, gives⟩
  exact ⟨source, kept live, gives⟩

theorem live_of_role {entry : String × Json.Fields} (listed : entry ∈ rows.allRoleCodes) :
    entry.1 ∈ rows.live now := by
  apply List.mem_append_left
  apply List.mem_append_left
  exact List.mem_map_of_mem listed

/-- What is left after the denied codes are taken off is live, if no override past its end is
read for more. -/
theorem remaining_live (lapsed : rows.Lapsed now) : rows.remaining now ⊆ rows.live now := by
  intro code left_
  rcases List.mem_filter.mp left_ with ⟨allowed, undenied⟩
  rcases List.mem_append.mp allowed with given | overridden
  · rcases List.mem_append.mp given with plain | granted
    · apply List.mem_append_left
      exact List.mem_append_left _ (List.mem_filter.mp plain).1
    · apply List.mem_append_left
      exact List.mem_append_right _ granted
  · rcases List.mem_map.mp overridden with ⟨entry, coded, rfl⟩
    rcases List.mem_filterMap.mp coded with ⟨override, listed, registered⟩
    rcases List.mem_filter.mp listed with ⟨listed, allow⟩
    rcases Option.map_eq_some_iff.mp registered with ⟨code, known, rfl⟩
    by_cases lives : override.Lives now
    · apply List.mem_append_right
      refine List.mem_filterMap.mpr ⟨override, ?_, known⟩
      exact List.mem_filter.mpr ⟨listed, decide_eq_true ⟨of_decide_eq_true allow, lives⟩⟩
    · rcases lapsed override listed (of_decide_eq_true allow) lives code known with denied | live
      · exact absurd denied (of_decide_eq_true undenied)
      · exact live

end Given

/-- What an entry of the cache allows was given by something that was live when it was made and
that the rows still have. -/
structure Backed (catalog : Catalog) (rows : AccessRows) (entry : CachedPermissions) : Prop where
  member : entry.permissions.isOwner = false
  allowed : ∀ code ∈ entry.permissions.allowed,
    ∃ source ∈ rows.live entry.filledAt, ReflTransGen (DependsOn catalog) source code
  wildcards : ∀ wildcard ∈ entry.permissions.wildcards,
    ∃ source ∈ rows.live entry.filledAt, isPattern source = true ∧ stripStars source = wildcard

namespace Backed
variable {catalog : Catalog} {depth : Nat} {rows : AccessRows} {now : Time} {code : String}
  {entry : CachedPermissions}

theorem mono {later : AccessRows} (backed : Backed catalog rows entry)
    (kept : rows.live entry.filledAt ⊆ later.live entry.filledAt) : Backed catalog later entry where
  member := backed.member
  allowed := by
    intro code mem
    rcases backed.allowed code mem with ⟨source, live, path⟩
    exact ⟨source, kept live, path⟩
  wildcards := by
    intro wildcard mem
    rcases backed.wildcards wildcard mem with ⟨source, live, wild⟩
    exact ⟨source, kept live, wild⟩

/-- A code that a backed entry grants was given when the entry was made. -/
theorem given (backed : Backed catalog rows entry)
    (granted : entry.permissions.hasPermission code = true) :
    Given catalog rows entry.filledAt code := by
  rw [EffectivePermissions.hasPermission, backed.member] at granted
  simp only [Bool.false_eq_true, if_false] at granted
  split at granted
  · cases granted
  · split at granted
    · rename_i mem
      rcases backed.allowed code mem with ⟨source, live, path⟩
      exact ⟨source, live, Or.inl path⟩
    · rcases List.any_eq_true.mp granted with ⟨wildcard, mem, covers⟩
      rcases backed.wildcards wildcard mem with ⟨source, live, wild, rfl⟩
      rw [matchesPrefix_stripStars] at covers
      exact ⟨source, live, Or.inr ⟨wild, covers⟩⟩

theorem filledAt_fill (effective : EffectivePermissions) :
    CachedPermissions.filledAt { permissions := effective, expiresAt := now + cacheLifetime } =
      now :=
  Nat.add_sub_cancel now cacheLifetime

/-- What is computed is backed by the rows it is computed from. -/
theorem of_computed (member : rows.membership.isOwner = false) (lapsed : rows.Lapsed now)
    {effective : EffectivePermissions}
    (computed : computeEffectivePermissions catalog depth rows now = .ok effective) :
    Backed catalog rows { permissions := effective, expiresAt := now + cacheLifetime } := by
  rw [computeEffectivePermissions, member] at computed
  simp only [Bool.false_eq_true, if_false] at computed
  rcases Outcome.bind_eq_ok.mp computed with ⟨dependencies, each, built⟩
  cases built
  constructor
  · rfl
  · intro code mem
    rw [filledAt_fill]
    rcases (mem_allowed each).mp mem with ⟨source, left_, path⟩
    exact ⟨source, remaining_live lapsed left_, path⟩
  · intro wildcard mem
    rw [filledAt_fill]
    rcases List.mem_map.mp mem with ⟨pattern, listed, rfl⟩
    rcases List.mem_filter.mp listed with ⟨listed, wild⟩
    rcases List.mem_map.mp listed with ⟨coded, role, rfl⟩
    exact ⟨coded.1, live_of_role role, wild, rfl⟩

end Backed

section Writes
variable {rows : AccessRows} {now since : Time}

theorem live_grantTemporaryAccess (grants : List (Nat × Nat)) (validUntil : Time) :
    rows.live since ⊆ (rows.grantTemporaryAccess grants now validUntil).live since := by
  intro code live
  rcases List.mem_append.mp live with given | overridden
  · rcases List.mem_append.mp given with role | granted
    · apply List.mem_append_left
      exact List.mem_append_left _ role
    · apply List.mem_append_left
      apply List.mem_append_right
      rcases List.mem_flatMap.mp granted with ⟨grant, valid, gives⟩
      refine List.mem_flatMap.mpr ⟨grant, ?_, gives⟩
      rcases List.mem_filter.mp valid with ⟨listed, holds⟩
      exact List.mem_filter.mpr ⟨List.mem_append_left _ listed, holds⟩
  · exact List.mem_append_right _ overridden

/-- A sweep that raises no version changes nothing. -/
theorem expireTemporaryGrants_eq_self {grantId : Option Nat}
    (none_ : (rows.grants.countP fun grant => grant.Swept grantId now) = 0) :
    rows.expireTemporaryGrants grantId now = rows := by
  rw [AccessRows.expireTemporaryGrants, none_, AccessRows.revokeSwept]
  have same : rows.grants.map (fun grant =>
      if grant.Swept grantId now then { grant with revokedAt := some now } else grant) =
      rows.grants := by
    refine (List.map_congr_left ?_).trans (List.map_id _)
    intro grant listed
    have unswept := List.countP_eq_zero.mp none_ grant listed
    exact if_neg (of_decide_eq_false (Bool.eq_false_iff.mpr unswept))
  rw [same]
  rfl

end Writes

/-- The member is no owner, no entry is of a version yet to come, and the one that can be read is
backed. -/
structure Kept (catalog : Catalog) (state : AccessState) : Prop where
  member : state.rows.membership.isOwner = false
  past : ∀ version entry, state.cache.get? version = some entry →
    version ≤ state.rows.membership.permissionVersion
  backed : ∀ entry ∈ state.readable state.clock, Backed catalog state.rows entry

namespace Kept
variable {catalog : Catalog} {depth : Nat} {state : AccessState} {now : Time}

theorem mem_readable {entry : CachedPermissions} :
    entry ∈ state.readable now ↔
      state.cache.get? state.rows.membership.permissionVersion = some entry ∧
        now ≤ entry.expiresAt := by
  rw [AccessState.readable, Option.mem_def, Option.filter_eq_some_iff, decide_eq_true_eq]

/-- What can be read later can be read now. -/
theorem backed_later (kept : Kept catalog state) (later : state.clock ≤ now)
    {entry : CachedPermissions} (served : entry ∈ state.readable now) :
    Backed catalog state.rows entry := by
  rcases mem_readable.mp served with ⟨stored, within⟩
  exact kept.backed entry (mem_readable.mpr ⟨stored, later.trans within⟩)

/-- A write that raises the version leaves nothing to be read; one that does not has to keep what
was live. -/
theorem write (kept : Kept catalog state) (later : state.clock ≤ now) {rows : AccessRows}
    (member : rows.membership.isOwner = state.rows.membership.isOwner)
    (raised : state.rows.membership.permissionVersion ≤ rows.membership.permissionVersion)
    (same : rows.membership.permissionVersion = state.rows.membership.permissionVersion →
      ∀ entry ∈ state.readable now, state.rows.live entry.filledAt ⊆ rows.live entry.filledAt) :
    Kept catalog { rows := rows, cache := state.cache, clock := now } where
  member := member.trans kept.member
  past := fun version entry stored => (kept.past version entry stored).trans raised
  backed := by
    intro entry served
    rcases mem_readable.mp served with ⟨stored, within⟩
    have version : rows.membership.permissionVersion = state.rows.membership.permissionVersion :=
      le_antisymm (kept.past _ entry stored) raised
    have served : entry ∈ state.readable now := mem_readable.mpr ⟨version ▸ stored, within⟩
    exact (kept.backed_later later served).mono (same version entry served)

/-- A check whose cache holds nothing keeps what it computes. -/
theorem check (kept : Kept catalog state) (later : state.clock ≤ now) {reads writes : Bool}
    (careful : (state.cached now reads).isNone = true → state.rows.Lapsed now) :
    Kept catalog
      { rows := state.rows, cache := state.fill catalog depth now reads writes, clock := now } := by
  have unchanged : Kept catalog { rows := state.rows, cache := state.cache, clock := now } :=
    kept.write later rfl le_rfl fun _ _ _ => List.Subset.refl _
  rw [AccessState.fill]
  split
  · rename_i effective missed computed
    split
    · have fresh : Backed catalog state.rows
          { permissions := effective, expiresAt := now + cacheLifetime } :=
        Backed.of_computed kept.member (careful (Option.isNone_iff_eq_none.mpr missed)) computed
      constructor
      · exact kept.member
      · intro version entry stored
        rw [Table.get?_set] at stored
        split at stored
        · rename_i same
          exact same.le
        · exact kept.past version entry stored
      · intro entry served
        rcases mem_readable.mp served with ⟨stored, -⟩
        rw [Table.get?_set, if_pos rfl] at stored
        cases stored
        exact fresh
    · exact unchanged
  · exact unchanged

variable {label : Time × AccessEvent}

theorem step (kept : Kept catalog state) (later : state.clock ≤ label.1)
    (careful : state.Careful label) : Kept catalog (state.step catalog depth label) := by
  rcases label with ⟨now, event⟩
  cases event with
  | assignRole roleId =>
      refine kept.write later rfl (Nat.le_succ _) ?_
      intro same
      exact absurd same (Nat.succ_ne_self _)
  | revokeRole roleId =>
      refine kept.write later rfl (Nat.le_succ _) ?_
      intro same
      exact absurd same (Nat.succ_ne_self _)
  | expireTemporaryGrants grantId =>
      refine kept.write later rfl (Nat.le_add_right _ _) ?_
      intro same entry _
      have unswept := expireTemporaryGrants_eq_self (Nat.add_eq_left.mp same)
      rw [AccessEvent.write, unswept]
      exact List.Subset.refl _
  | grantTemporaryAccess grants validUntil =>
      refine kept.write later rfl le_rfl ?_
      intro _ entry _
      exact live_grantTemporaryAccess grants validUntil
  | setOverride override =>
      have membership : (state.rows.setOverride override).membership = state.rows.membership := by
        rw [AccessRows.setOverride.eq_def]
        split <;> rfl
      refine kept.write later (congrArg _ membership) (congrArg _ membership).ge ?_
      exact fun _ => careful
  | deleteRole roleId reassignTo =>
      cases reassignTo with
      | none => exact kept.write later rfl le_rfl fun _ => careful
      | some target => exact kept.write later rfl le_rfl fun _ => careful
  | setRolePermissions roleId permissionIds => exact kept.write later rfl le_rfl fun _ => careful
  | clearOverride permissionId => exact kept.write later rfl le_rfl fun _ => careful
  | clearExpired => exact kept.write later rfl le_rfl fun _ => careful
  | revokeTemporaryAccess grantId => exact kept.write later rfl le_rfl fun _ => careful
  | check code reads writes => exact kept.check later careful.2

theorem confersOnlyGiven (kept : Kept catalog state) (later : state.clock ≤ label.1)
    (careful : state.Careful label) : state.ConfersOnlyGiven catalog depth label := by
  rcases label with ⟨now, event⟩
  intro code reads writes checks granted
  cases checks
  rcases Outcome.map_eq_ok.mp granted with ⟨effective, found, allows⟩
  cases served : state.cached now reads with
  | some answer =>
      rw [served] at found
      cases found
      rw [AccessState.cached] at served
      split at served
      · rename_i read
        rcases Option.map_eq_some_iff.mp served with ⟨entry, here, rfl⟩
        have backed := kept.backed_later later here
        exact (backed.given allows).mono (careful.1 read entry here)
      · cases served
  | none =>
      rw [served] at found
      have lapsed := careful.2 (Option.isNone_iff_eq_none.mpr served)
      have backed := Backed.of_computed kept.member lapsed found
      have given := backed.given allows
      rwa [Backed.filledAt_fill] at given

end Kept

/-- In a run of one membership, not an owner's, that starts with nothing in the cache, whose clock
does not go back and whose every step is careful, each check grants a code only if a role, an
override before its end or a valid grant gives it. -/
theorem expired_confers_nothing {catalog : Catalog} {depth : Nat} {start : AccessState}
    {labels : List (Time × AccessEvent)} (member : start.rows.membership.isOwner = false)
    (uncached : start.cache = Table.empty)
    (ordered : Run.Guarded (AccessState.step catalog depth)
      (fun state label => state.clock ≤ label.1) start labels)
    (careful : Run.Guarded (AccessState.step catalog depth) AccessState.Careful start labels) :
    Run.Guarded (AccessState.step catalog depth) (AccessState.ConfersOnlyGiven catalog depth) start
      labels := by
  have initial : Kept catalog start := by
    refine ⟨member, ?_, ?_⟩
    · intro version entry stored
      rw [uncached, Table.get?_empty] at stored
      cases stored
    · intro entry served
      rw [Kept.mem_readable, uncached, Table.get?_empty] at served
      cases served.1
  refine Run.Guarded.imp (I := Kept catalog) ?_ ?_ initial (ordered.and careful)
  · intro state label kept admitted
    exact kept.step admitted.1 admitted.2
  · intro state label kept admitted
    exact kept.confersOnlyGiven admitted.1 admitted.2

/-- A member with a role that may view orders and, until instant 10, a grant of it. -/
def grantedViewer : AccessState where
  rows := {
    permissionCode := fun permissionId => if permissionId = 0 then some "orders.view" else none
    rolePermissions := fun roleId => if roleId = 0 then [{ permissionId := 0 }] else []
    membership := {}
    roleIds := [0]
    grants := [{ id := 0, roleId := 0, validFrom := 0, validUntil := 10 }] }

/-- A role that is revoked and a grant that is swept, with checks served before, between and
after. -/
theorem grantedViewer_confers_nothing :
    Run.Guarded (AccessState.step (fun _ => none) 1)
      (AccessState.ConfersOnlyGiven (fun _ => none) 1) grantedViewer
      [(1, .check "orders.view" true true), (2, .check "orders.view" true true),
        (3, .revokeRole 0), (4, .check "orders.view" true true),
        (11, .expireTemporaryGrants none), (12, .check "orders.view" true true)] :=
  expired_confers_nothing rfl rfl (by decide +kernel) (by decide +kernel)

/-- A member with an ALLOW override that ended at instant 1. -/
def formerViewer : AccessState where
  rows := {
    permissionCode := fun permissionId => if permissionId = 0 then some "orders.view" else none
    rolePermissions := fun _ => []
    membership := {}
    overrides := [{ permissionId := 0, effect := .allow, expiresAt := some 1 }] }

/-- A check at instant 2, with no cache, grants what the override gave. -/
theorem ended_override_confers :
    ¬ Run.Guarded (AccessState.step (fun _ => none) 1)
      (AccessState.ConfersOnlyGiven (fun _ => none) 1) formerViewer
      [(2, .check "orders.view" false false)] := by
  rintro ⟨confers, -⟩
  have granted : hasPermission (fun _ => none) 1 formerViewer.rows none 2 "orders.view" =
      .ok true := by decide +kernel
  rcases confers "orders.view" false false rfl granted with ⟨source, live, -⟩
  have nothing : formerViewer.rows.live 2 = [] := by decide +kernel
  rw [nothing] at live
  cases live

end Numu.Access
