import Numu.Foundation.Window
import Numu.Orders.Order

/-! Entitlements and feature flags: the rules, which see neither the tables nor the clock. -/

namespace Numu.Entitlements
open Numu.Orders (Time)

inductive Value where
  | bool (on : Bool)
  | int (amount : Int)
  | unlimited
  deriving DecidableEq, Repr

inductive Kind where
  | boolean
  | limit
  deriving DecidableEq, Repr

structure Feature where
  key : String
  kind : Kind
  default : Value
  /-- The global kill switch when `false`. -/
  enabled : Bool := true
  deriving DecidableEq, Repr

inductive GrantSource where
  | plan
  | addon
  | override
  | default
  | flag
  deriving DecidableEq, Repr

structure Grant where
  source : GrantSource
  sourceId : Option String
  value : Value
  startsAt : Option Time := none
  expiresAt : Option Time := none
  deriving DecidableEq, Repr

inductive Reason where
  | disabledGlobally
  | blocked
  | notInPlan
  deriving DecidableEq, Repr

structure Resolved where
  key : String
  value : Value
  source : GrantSource
  sourceId : Option String
  expiresAt : Option Time
  available : Bool
  reason : Option Reason
  shadowed : List Grant
  deriving DecidableEq, Repr

/-- A Python number; `True` is 1. -/
def Value.number : Value → Int
  | .bool on => if on then 1 else 0
  | .int amount => amount
  | .unlimited => 0

def checkValue (kind : Kind) (value : Value) : Option Value :=
  match kind, value with
  | .boolean, .bool _ => some value
  | .limit, .unlimited => some value
  | .limit, .int amount => if 0 ≤ amount then some value else none
  | _, _ => none

def isOn (kind : Kind) (value : Value) : Bool :=
  match kind with
  | .boolean => value = .bool true
  | .limit => value = .unlimited || 0 < value.number

def active (grant : Grant) (now : Time) : Bool :=
  grant.startsAt.all (· ≤ now) && grant.expiresAt.all (now < ·)

/-- `_combine`. -/
def combine (kind : Kind) (a b : Value) : Value :=
  match kind with
  | .boolean => .bool (a = .bool true || b = .bool true)
  | .limit =>
      if a = .unlimited || b = .unlimited then .unlimited else .int (a.number + b.number)

/-- When the value next changes on its own. -/
def expiry (feature : Feature) (value : Value) (winners : List Grant) : Option Time :=
  let ends := winners.map Grant.expiresAt
  if feature.kind = .boolean && value = .bool true then
    if none ∈ ends then none else ends.reduceOption.max?
  else ends.reduceOption.min?

/-- The result for a value and the grants it comes from, of which there is a first. -/
def resolved (feature : Feature) (value : Value) (winner : Grant) (others shadowed : List Grant) :
    Resolved :=
  let on := isOn feature.kind value
  { key := feature.key
    value := value
    source := winner.source
    sourceId := winner.sourceId
    expiresAt := expiry feature value (winner :: others)
    available := feature.enabled && on
    reason :=
      if !feature.enabled then some .disabledGlobally
      else if !on then some (if winner.source = .override then .blocked else .notInPlan)
      else none
    shadowed := shadowed }

def resolve (feature : Feature) (bundles : List Grant) (override : Option Grant) (now : Time) :
    Resolved :=
  let live := bundles.filter (active · now)
  match override.filter (active · now), live with
  | some override, live => resolved feature override.value override [] live
  | none, first :: rest =>
      let value := rest.foldl (fun value grant => combine feature.kind value grant.value) first.value
      match live.filter fun grant => feature.kind = .limit || grant.value = .bool true with
      | [] => resolved feature value first [] []
      | winner :: others => resolved feature value winner others []
  | none, [] =>
      resolved feature feature.default
        { source := .default, sourceId := none, value := feature.default } [] []

/-- The earliest future moment any grant starts or ends. -/
def nextChange (grants : List Grant) (now : Time) : Option Time :=
  ((grants.flatMap fun grant => [grant.startsAt, grant.expiresAt].reduceOption).filter
    (now < ·)).min?

structure Flag where
  key : String
  /-- The master switch. -/
  enabled : Bool
  rolloutPercent : Int
  deriving DecidableEq, Repr

structure FlagTarget where
  enabled : Bool
  expiresAt : Option Time := none
  deriving DecidableEq, Repr

inductive FlagReason where
  | unknownFlag
  | flagOff
  | targeted
  | everyone
  | rollout
  | notInRollout
  deriving DecidableEq, Repr

/-- `bucket` is the slot that SHA-256 gives the flag and the tenant. -/
def flagOn (bucket : String → String → Nat) (flag : Option Flag) (tenantId : Option String)
    (target : Option FlagTarget) (now : Time) : Bool × FlagReason :=
  match flag with
  | none => (false, .unknownFlag)
  | some flag =>
      if !flag.enabled then (false, .flagOff)
      else match target.filter fun target => target.expiresAt.all (now < ·) with
        | some target => (target.enabled, .targeted)
        | none =>
            if 100 ≤ flag.rolloutPercent then (true, .everyone)
            else if tenantId.any fun tenantId => tenantId ≠ "" &&
                (bucket flag.key tenantId : Int) < flag.rolloutPercent * 100 then
              (true, .rollout)
            else (false, .notInRollout)

/-- A target counts as a grant that only expires. -/
def FlagTarget.boundary (target : FlagTarget) (flagKey : String) : Grant where
  source := .flag
  sourceId := some flagKey
  value := .bool true
  expiresAt := target.expiresAt

def Grant.window (grant : Grant) : Window Time where
  opens := grant.startsAt
  closes := grant.expiresAt

section Unchanged
variable {grants : List Grant} {now later : Time}

/-- No grant starts or ends from one instant until after another. -/
def Unchanged (grants : List Grant) (now later : Time) : Prop :=
  Window.Unchanged (grants.map Grant.window) now later

theorem nextChange_eq (grants : List Grant) (now : Time) :
    nextChange grants now = Window.nextChange (grants.map Grant.window) now := by
  rw [nextChange, Window.nextChange, List.flatMap_map]
  rfl

theorem Unchanged.active_eq (unchanged : Unchanged grants now later) {grant : Grant}
    (member : grant ∈ grants) : active grant later = active grant now :=
  Window.Unchanged.active_eq unchanged (List.mem_map_of_mem member)

/-- A feature resolves alike while none of its layers starts or ends. -/
theorem Unchanged.resolve_eq (unchanged : Unchanged grants now later) {feature : Feature}
    {bundles : List Grant} {override : Option Grant} (listed : ∀ grant ∈ bundles, grant ∈ grants)
    (overriding : ∀ grant ∈ override, grant ∈ grants) :
    resolve feature bundles override later = resolve feature bundles override now := by
  have live : bundles.filter (active · later) = bundles.filter (active · now) :=
    List.filter_congr fun grant member => unchanged.active_eq (listed grant member)
  have winning : override.filter (active · later) = override.filter (active · now) := by
    cases override with
    | none => rfl
    | some grant =>
        simp only [Option.filter, unchanged.active_eq (overriding grant rfl)]
  simp only [resolve, live, winning]

/-- A flag is on alike while its target does not end. -/
theorem Unchanged.flagOn_eq (unchanged : Unchanged grants now later)
    (bucket : String → String → Nat) {flag : Option Flag} {tenantId : Option String}
    {target : Option FlagTarget} {flagKey : String}
    (targeted : ∀ row ∈ target, row.boundary flagKey ∈ grants) :
    flagOn bucket flag tenantId target later = flagOn bucket flag tenantId target now := by
  have live : (target.filter fun target => target.expiresAt.all (later < ·)) =
      target.filter fun target => target.expiresAt.all (now < ·) := by
    cases target with
    | none => rfl
    | some row =>
        have same := unchanged.active_eq (targeted row rfl)
        simp only [active, FlagTarget.boundary, Option.all_none, Bool.true_and] at same
        simp only [Option.filter, same]
  simp only [flagOn, live]

end Unchanged

section Checked
variable {kind : Kind}

/-- The value is valid for the kind. -/
def Checked (kind : Kind) (value : Value) : Prop := checkValue kind value = some value

theorem checked_boolean_iff {value : Value} :
    Checked .boolean value ↔ ∃ on, value = .bool on := by
  cases value <;> simp [Checked, checkValue]

theorem checked_limit_iff {value : Value} :
    Checked .limit value ↔ value = .unlimited ∨ ∃ amount, 0 ≤ amount ∧ value = .int amount := by
  cases value <;> simp [Checked, checkValue]

theorem Checked.combine {a b : Value} (first : Checked kind a) (second : Checked kind b) :
    Checked kind (combine kind a b) := by
  cases kind with
  | boolean => exact checked_boolean_iff.mpr ⟨_, rfl⟩
  | limit =>
      rw [checked_limit_iff] at first second ⊢
      rcases first with rfl | ⟨amount, nonneg, rfl⟩
      · exact .inl rfl
      rcases second with rfl | ⟨other, nonneg', rfl⟩
      · exact .inl rfl
      · exact .inr ⟨amount + other, Int.add_nonneg nonneg nonneg', rfl⟩

/-- A feature whose layers all hold valid values resolves to a valid one. -/
theorem resolve_checked {feature : Feature} {bundles : List Grant} {override : Option Grant}
    (now : Time) (byDefault : Checked feature.kind feature.default)
    (listed : ∀ grant ∈ bundles, Checked feature.kind grant.value)
    (overriding : ∀ grant ∈ override, Checked feature.kind grant.value) :
    Checked feature.kind (resolve feature bundles override now).value := by
  simp only [resolve]
  split
  · rename_i winner won
    exact overriding winner (Option.filter_eq_some_iff.mp won).1
  · rename_i first rest _ live
    have all : ∀ grant ∈ first :: rest, Checked feature.kind grant.value := fun grant member =>
      listed grant (List.mem_filter.mp (live ▸ member)).1
    have folded : Checked feature.kind
        (rest.foldl (fun value grant => combine feature.kind value grant.value) first.value) := by
      apply List.foldlRecOn (motive := Checked feature.kind) rest _ (all first List.mem_cons_self)
      intro value checked grant member
      exact checked.combine (all grant (List.mem_cons_of_mem _ member))
    split <;> exact folded
  · exact byDefault

end Checked
end Numu.Entitlements
