import Mathlib.Data.List.Sort
import Numu.AppBilling.Subscription
import Numu.Entitlements.Rules
import Numu.Foundation.Run

/-! The resolved features and flags of one tenant, and the snapshot of them that Redis keeps. -/

namespace Numu.Entitlements
open Numu.Orders (UUID Time)
open Numu.AppBilling (AppSubscription coverageEnd)

inductive Usage where
  | count
  | counter
  deriving DecidableEq, Repr

inductive Period where
  | day
  | month
  deriving DecidableEq, Repr

inductive Enforcement where
  | hard
  | soft
  deriving DecidableEq, Repr

structure FeatureModel where
  kind : Kind
  defaultValue : Value
  usage : Option Usage := none
  period : Option Period := none
  enforcement : Enforcement := .hard
  isEnabled : Bool := true
  deriving DecidableEq, Repr

structure EntitlementOverride where
  id : UUID
  tenantId : UUID
  featureKey : String
  value : Value
  startsAt : Time
  expiresAt : Option Time := none
  revokedAt : Option Time := none
  deriving DecidableEq

structure FeatureFlag where
  enabled : Bool
  rolloutPercent : Int
  deriving DecidableEq, Repr

structure Tenant where
  id : UUID
  plan : String
  entitlementsVersion : Nat
  deriving DecidableEq

/-- The tables that the answers are computed from. -/
structure Stored where
  features : Table String FeatureModel
  /-- By plan key and feature key. -/
  planEntitlements : Table (String × String) Value
  overrides : List EntitlementOverride
  flags : Table String FeatureFlag
  /-- By flag key and tenant. -/
  targets : Table (String × UUID) FlagTarget
  /-- The slugs of the apps. -/
  apps : Table UUID String
  subscriptions : Table UUID AppSubscription

/-- Everything one tenant's answers are computed from; a grant stands under its feature key. -/
structure Inputs where
  features : Table String FeatureModel
  grants : List (String × Grant)
  overrides : Table String EntitlementOverride
  flags : Table String FeatureFlag
  targets : Table String FlagTarget

/-- `_feature`. -/
def FeatureModel.feature (row : FeatureModel) (key : String) : Feature where
  key := key
  kind := row.kind
  default := row.defaultValue
  enabled := row.isEnabled

/-- `_override`. -/
def EntitlementOverride.grant (row : EntitlementOverride) : Grant where
  source := .override
  sourceId := some (UuidText.writeUuid row.id)
  value := row.value
  startsAt := some row.startsAt
  expiresAt := row.expiresAt

/-- `_in_plan`. -/
def inPlan (row : FeatureModel) (grants : List Grant) : Bool :=
  (grants.find? fun grant => grant.source = .plan).any fun plan => isOn row.kind plan.value

namespace Stored

/-- The tenant's subscriptions with the slugs of their apps. -/
def subscribed (stored : Stored) (tenant : Tenant) : List (String × AppSubscription) :=
  (stored.subscriptions.rows.filter fun row => row.2.tenantId = tenant.id).filterMap fun row =>
    (stored.apps.get? row.2.appId).map fun slug => (slug, row.2)

/-- The plan and the add-ons; lapsed ones too. -/
def bundles (stored : Stored) (tenant : Tenant) : Table String Grant :=
  (stored.subscribed tenant).foldl
    (fun bundles sub =>
      match coverageEnd sub.2 with
      | some end_ => bundles.set s!"addon:{sub.1}"
          { source := .addon, sourceId := some sub.1, value := .bool false, expiresAt := some end_ }
      | none => bundles)
    (Table.ofList [(tenant.plan,
      { source := .plan, sourceId := some tenant.plan, value := .bool false })])

/-- `_inputs`. -/
def inputs (stored : Stored) (tenant : Tenant) : Inputs where
  features := stored.features
  grants := stored.planEntitlements.rows.filterMap fun row =>
    ((stored.bundles tenant).get? row.1.1).map fun base =>
      (row.1.2,
        { source := base.source, sourceId := base.sourceId, value := row.2,
          expiresAt := base.expiresAt })
  overrides := Table.ofList
    ((stored.overrides.filter fun row => row.tenantId = tenant.id && row.revokedAt.isNone).map
      fun row => (row.featureKey, row))
  flags := stored.flags
  targets := Table.ofList
    ((stored.targets.rows.filter fun row => row.1.2 = tenant.id).map fun row => (row.1.1, row.2))

end Stored

/-- What the snapshot and the admin screens say of a feature. -/
structure PublicFeature where
  value : Value
  available : Bool
  inPlan : Bool
  source : GrantSource
  sourceId : Option String
  expiresAt : Option Time
  reason : Option Reason
  kind : Kind
  usage : Option Usage
  period : Option Period
  enforcement : Enforcement
  deriving DecidableEq, Repr

/-- `_public`. -/
def publicFeature (result : Resolved) (row : FeatureModel) (inPlan : Bool) : PublicFeature where
  value := result.value
  available := result.available
  inPlan := inPlan
  source := result.source
  sourceId := result.sourceId
  expiresAt := result.expiresAt
  reason := result.reason
  kind := row.kind
  usage := row.usage
  period := row.period
  enforcement := row.enforcement

namespace Inputs

/-- The grants of a feature, the plan's first, then the add-ons'. -/
def grantsOf (inputs : Inputs) (key : String) : List Grant :=
  let listed := (inputs.grants.filter fun row => row.1 = key).map Prod.snd
  (listed.filter fun grant => grant.source = .plan) ++
    listed.filter fun grant => grant.source ≠ .plan

def resolveFeature (inputs : Inputs) (key : String) (row : FeatureModel) (now : Time) :
    PublicFeature :=
  let grants := inputs.grantsOf key
  publicFeature
    (resolve (row.feature key) grants
      ((inputs.overrides.get? key).map EntitlementOverride.grant) now)
    row (inPlan row grants)

def resolveFlag (bucket : String → String → Nat) (inputs : Inputs) (tenant : Tenant)
    (key : String) (now : Time) : Bool × FlagReason :=
  flagOn bucket
    ((inputs.flags.get? key).map fun row =>
      { key := key, enabled := row.enabled, rolloutPercent := row.rolloutPercent })
    (some (UuidText.writeUuid tenant.id)) (inputs.targets.get? key) now

/-- Whatever starts or ends some day. -/
def boundaries (inputs : Inputs) : List Grant :=
  inputs.grants.map Prod.snd ++ (inputs.overrides.rows.map fun row => row.2.grant) ++
    inputs.targets.rows.map fun row => row.2.boundary row.1

end Inputs

/-- `SNAPSHOT_TTL`. -/
def snapshotTtl : Time := 300 * Calendar.secondLength

structure Stamp where
  entitlementsVersion : Nat
  catalog : Option String
  plan : String
  deriving DecidableEq, Repr

structure Snapshot where
  stamp : Stamp
  until_ : Time
  features : List (String × PublicFeature)
  flags : List String
  deriving DecidableEq, Repr

/-- `_compute`. -/
def compute (bucket : String → String → Nat) (stored : Stored) (tenant : Tenant) (stamp : Stamp)
    (now : Time) : Snapshot :=
  let inputs := stored.inputs tenant
  { stamp := stamp
    until_ :=
      match nextChange inputs.boundaries now with
      | some next => min next (now + snapshotTtl)
      | none => now + snapshotTtl
    features := inputs.features.rows.map fun row => (row.1, inputs.resolveFeature row.1 row.2 now)
    flags := ((inputs.flags.rows.map Prod.fst).filter fun key =>
      (inputs.resolveFlag bucket tenant key now).1).insertionSort (· ≤ ·) }

/-- What Redis holds for the tenant. -/
structure Cache where
  catalog : Option String := none
  snapshot : Option Snapshot := none

def Cache.stamp (cache : Cache) (tenant : Tenant) : Stamp :=
  ⟨tenant.entitlementsVersion, cache.catalog, tenant.plan⟩

/-- `snapshot`: the cached one while its stamp matches and it lives, else a new one. -/
def snapshot (bucket : String → String → Nat) (stored : Stored) (tenant : Tenant) (cache : Cache)
    (now : Time) : Snapshot × Cache :=
  match cache.snapshot.filter fun cached =>
      cached.stamp = cache.stamp tenant && now < cached.until_ with
  | some cached => (cached, cache)
  | none =>
      let computed := compute bucket stored tenant (cache.stamp tenant) now
      (computed, { cache with snapshot := some computed })

namespace Snapshot

def feature (snap : Snapshot) (key : String) : Option PublicFeature := snap.features.lookup key

/-- An unknown feature is not available. -/
def has (snap : Snapshot) (key : String) : Bool := (snap.feature key).any PublicFeature.available

/-- The entitled amount. -/
def limit (snap : Snapshot) (key : String) : Value :=
  ((snap.feature key).map PublicFeature.value).getD (.bool false)

def flag (snap : Snapshot) (key : String) : Bool := key ∈ snap.flags

end Snapshot

/-- `explain`, which never reads the cache; `none` for a key that the catalog lacks. -/
def explain (stored : Stored) (tenant : Tenant) (key : String) (now : Time) :
    Option PublicFeature :=
  let inputs := stored.inputs tenant
  (inputs.features.get? key).map fun row => inputs.resolveFeature key row now

/-- `explain_flags` for one flag. -/
def explainFlag (bucket : String → String → Nat) (stored : Stored) (tenant : Tenant)
    (key : String) (now : Time) : Bool × FlagReason :=
  (stored.inputs tenant).resolveFlag bucket tenant key now

section Coherence
variable {bucket : String → String → Nat} {stored : Stored} {tenant : Tenant} {stamp : Stamp}
  {now later : Time}

theorem grantsOf_boundaries {inputs : Inputs} {key : String} {grant : Grant}
    (member : grant ∈ inputs.grantsOf key) : grant ∈ inputs.boundaries := by
  have listed : grant ∈ (inputs.grants.filter fun row => row.1 = key).map Prod.snd := by
    rcases List.mem_append.mp member with plan | addon
    · exact (List.mem_filter.mp plan).1
    · exact (List.mem_filter.mp addon).1
  rcases List.mem_map.mp listed with ⟨row, chosen, rfl⟩
  exact List.mem_append_left _
    (List.mem_append_left _ (List.mem_map_of_mem (List.mem_filter.mp chosen).1))

theorem override_boundaries {inputs : Inputs} {key : String} {grant : Grant}
    (member : grant ∈ (inputs.overrides.get? key).map EntitlementOverride.grant) :
    grant ∈ inputs.boundaries := by
  rcases Option.map_eq_some_iff.mp member with ⟨row, found, same⟩
  have stands := (Table.get?_eq_some_iff _ _ _).mp found
  have listed : grant ∈ inputs.overrides.rows.map fun row => row.2.grant :=
    List.mem_map.mpr ⟨(key, row), stands, same⟩
  exact List.mem_append_left _ (List.mem_append_right _ listed)

theorem target_boundaries {inputs : Inputs} {key : String} {target : FlagTarget}
    (found : target ∈ inputs.targets.get? key) : target.boundary key ∈ inputs.boundaries :=
  List.mem_append_right _ (List.mem_map_of_mem ((Table.get?_eq_some_iff _ _ _).mp found))

/-- While a snapshot lives, nothing that it was computed from starts or ends. -/
theorem compute_unchanged (later_le : now ≤ later)
    (alive : later < (compute bucket stored tenant stamp now).until_) :
    Unchanged (stored.inputs tenant).boundaries now later := by
  refine ⟨later_le, fun next first => ?_⟩
  rw [← nextChange_eq, Option.mem_def] at first
  simp only [compute, first] at alive
  exact lt_of_lt_of_le alive (min_le_left _ _)

theorem Unchanged.explain_eq (unchanged : Unchanged (stored.inputs tenant).boundaries now later)
    (key : String) : explain stored tenant key later = explain stored tenant key now := by
  have resolving : ∀ row, (stored.inputs tenant).resolveFeature key row later =
      (stored.inputs tenant).resolveFeature key row now := by
    intro row
    rw [Inputs.resolveFeature, Inputs.resolveFeature,
      unchanged.resolve_eq (fun _ => grantsOf_boundaries) fun _ => override_boundaries]
  simp only [explain, resolving]

theorem Unchanged.explainFlag_eq
    (unchanged : Unchanged (stored.inputs tenant).boundaries now later) (key : String) :
    explainFlag bucket stored tenant key later = explainFlag bucket stored tenant key now :=
  unchanged.flagOn_eq bucket fun _ => target_boundaries

theorem compute_feature (key : String) :
    (compute bucket stored tenant stamp now).feature key = explain stored tenant key now := by
  simp only [Snapshot.feature, compute]
  exact Table.lookup_map (fun key row => (stored.inputs tenant).resolveFeature key row now) key _

theorem compute_flag (key : String) :
    (compute bucket stored tenant stamp now).flag key =
      (explainFlag bucket stored tenant key now).1 := by
  rw [Bool.eq_iff_iff, Snapshot.flag, decide_eq_true_iff, compute, List.mem_insertionSort,
    List.mem_filter, ← Table.isSome_get?_iff]
  constructor
  · exact And.right
  · intro on
    refine ⟨?_, on⟩
    by_contra missing
    rw [Option.not_isSome_iff_eq_none] at missing
    rw [explainFlag, Inputs.resolveFlag, missing] at on
    cases on

/-- A cached snapshot is served for its whole life while its stamp stands, and what it holds is
what resolving each feature and each flag directly gives. -/
theorem snapshot_right_for_life (bucket : String → String → Nat) (stored : Stored)
    (tenant : Tenant) (catalog : Option String) (now later : Time) (later_le : now ≤ later)
    (alive : later <
      (compute bucket stored tenant ⟨tenant.entitlementsVersion, catalog, tenant.plan⟩
        now).until_) :
    let built := compute bucket stored tenant ⟨tenant.entitlementsVersion, catalog, tenant.plan⟩ now
    let cache : Cache := { catalog := catalog, snapshot := some built }
    snapshot bucket stored tenant cache later = (built, cache) ∧
      (∀ key, built.feature key = explain stored tenant key later) ∧
      ∀ key, built.flag key = (explainFlag bucket stored tenant key later).1 := by
  intro built cache
  have unchanged := compute_unchanged later_le alive
  refine ⟨?_, fun key => ?_, fun key => ?_⟩
  · have fits : (built.stamp = cache.stamp tenant && later < built.until_) = true := by
      rw [Bool.and_eq_true, decide_eq_true_iff, decide_eq_true_iff]
      exact ⟨rfl, alive⟩
    rw [snapshot]
    simp only [cache, Option.filter, fits, if_true]
  · rw [compute_feature, unchanged.explain_eq]
  · rw [compute_flag, unchanged.explainFlag_eq]

def growthTenant : Tenant := { id := 7, plan := "growth", entitlementsVersion := 3 }

/-- Staff lifts a limit of the plan two minutes from now. -/
def growthStored : Stored where
  features := Table.ofList [("products", { kind := .limit, defaultValue := .int 0 })]
  planEntitlements := Table.ofList [(("growth", "products"), .int 100)]
  overrides :=
    [{ id := 1, tenantId := 7, featureKey := "products", value := .unlimited,
       startsAt := 1767225720000000 }]
  flags := Table.ofList [("editor", { enabled := true, rolloutPercent := 0 })]
  targets := Table.ofList [(("editor", 7), { enabled := true })]
  apps := Table.empty
  subscriptions := Table.empty

theorem snapshot_right_until_override :
    let built := compute (fun _ _ => 0) growthStored growthTenant ⟨3, none, "growth"⟩
      1767225600000000
    let cache : Cache := { snapshot := some built }
    snapshot (fun _ _ => 0) growthStored growthTenant cache 1767225719999999 = (built, cache) ∧
      (∀ key, built.feature key = explain growthStored growthTenant key 1767225719999999) ∧
      ∀ key, built.flag key =
        (explainFlag (fun _ _ => 0) growthStored growthTenant key 1767225719999999).1 :=
  snapshot_right_for_life (fun _ _ => 0) growthStored growthTenant none 1767225600000000
    1767225719999999 (by decide) (by decide +kernel)

end Coherence

/-- The tables, the cache and the last instant at which the cache was read. -/
structure Site where
  stored : Stored
  tenant : Tenant
  cache : Cache := {}
  clock : Time

inductive SiteLabel where
  | read (now : Time)
  | evict
  /-- A write of the tables, the tenant or the catalogue's token. -/
  | write (stored : Stored) (tenant : Tenant) (catalog : Option String)

namespace Site
variable (bucket : String → String → Nat)

def served (site : Site) (now : Time) : Snapshot × Cache :=
  snapshot bucket site.stored site.tenant site.cache now

def step (site : Site) : SiteLabel → Site
  | .read now => { site with cache := (site.served bucket now).2, clock := now }
  | .evict => { site with cache := { site.cache with snapshot := none } }
  | .write stored tenant catalog =>
      { site with stored := stored, tenant := tenant, cache := { site.cache with catalog := catalog } }

/-- The clock does not run back, and a write gives a stamp which the cached snapshot lacks. -/
def Stamped (site : Site) : SiteLabel → Prop
  | .read now => site.clock ≤ now
  | .evict => True
  | .write _ tenant catalog => ∀ cached ∈ site.cache.snapshot,
      cached.stamp ≠ ({ site.cache with catalog := catalog } : Cache).stamp tenant

/-- A cached snapshot with the stamp of the tables was computed from them. -/
def Coherent (site : Site) : Prop :=
  ∀ cached ∈ site.cache.snapshot, cached.stamp = site.cache.stamp site.tenant →
    ∃ built ≤ site.clock, cached = compute bucket site.stored site.tenant cached.stamp built

/-- A read gives what resolving directly gives. -/
def Reads (site : Site) : SiteLabel → Prop
  | .read now =>
      (∀ key, (site.served bucket now).1.feature key =
        explain site.stored site.tenant key now) ∧
      ∀ key, (site.served bucket now).1.flag key =
        (explainFlag bucket site.stored site.tenant key now).1
  | _ => True

/-- A read serves the cached snapshot, which lives, or a new one. -/
theorem served_cases (site : Site) (now : Time) :
    (∃ cached, site.cache.snapshot = some cached ∧ cached.stamp = site.cache.stamp site.tenant ∧
      now < cached.until_ ∧ site.served bucket now = (cached, site.cache)) ∨
    ∃ computed, computed =
        compute bucket site.stored site.tenant (site.cache.stamp site.tenant) now ∧
      site.served bucket now = (computed, { site.cache with snapshot := some computed }) := by
  rw [served, snapshot]
  split
  · rename_i cached found
    rw [Option.filter_eq_some_iff, Bool.and_eq_true, decide_eq_true_iff, decide_eq_true_iff] at found
    exact .inl ⟨cached, found.1, found.2.1, found.2.2, rfl⟩
  · exact .inr ⟨_, rfl, rfl⟩

variable {bucket} {site : Site}

theorem Coherent.step (coherent : site.Coherent bucket) {label : SiteLabel}
    (stamped : site.Stamped label) : (site.step bucket label).Coherent bucket := by
  cases label with
  | read now =>
      intro cached found same
      rcases site.served_cases bucket now with
        ⟨old, held, -, -, served⟩ | ⟨computed, fresh, served⟩
      · simp only [Site.step, served] at found same
        rcases coherent cached found same with ⟨built, before, computed⟩
        exact ⟨built, le_trans before stamped, computed⟩
      · simp only [Site.step, served, Option.mem_def, Option.some.injEq] at found
        refine ⟨now, le_rfl, ?_⟩
        rw [← found, fresh]
        rfl
  | evict =>
      intro cached found
      cases found
  | write stored tenant catalog =>
      intro cached found same
      exact absurd same (stamped cached found)

theorem Coherent.reads (coherent : site.Coherent bucket) {label : SiteLabel}
    (stamped : site.Stamped label) : site.Reads bucket label := by
  cases label with
  | read now =>
      rcases site.served_cases bucket now with
        ⟨cached, held, same, alive, served⟩ | ⟨computed, fresh, served⟩
      · rcases coherent cached held same with ⟨built, before, computed⟩
        rw [computed] at alive
        have unchanged := compute_unchanged (le_trans before stamped) alive
        simp only [Reads, served]
        rw [computed]
        exact ⟨fun key => by rw [compute_feature, unchanged.explain_eq],
          fun key => by rw [compute_flag, unchanged.explainFlag_eq]⟩
      · simp only [Reads, served]
        rw [fresh]
        exact ⟨fun key => compute_feature key, fun key => compute_flag key⟩
  | evict => trivial
  | write stored tenant catalog => trivial

end Site
end Numu.Entitlements
