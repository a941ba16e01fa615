import Numu.Foundation.Latch
import Numu.Foundation.Run
import Numu.Stock.StockService
import Numu.Subscriptions.Renewal
import Numu.Wallet.WalletService

/-! The low-balance warning ladder of a wallet, and the checkout gate that reads the balance. -/

namespace Numu.Wallet
open Numu.Orders (Time)
open Numu.Stock (TextCase)

def warningLevelNone : Nat := 0
def warningLevelLow : Nat := 1
def warningLevelNegative : Nat := 2
def warningLevelBlocked : Nat := 3

def warningLevelFor (balanceCents negativeAllowanceCents lowThresholdCents : Int) : Nat :=
  if balanceCents < -negativeAllowanceCents then warningLevelBlocked
  else if balanceCents < 0 then warningLevelNegative
  else if balanceCents < lowThresholdCents then warningLevelLow
  else warningLevelNone

theorem warningLevelFor_blocked {balance allowance low : Int} :
    warningLevelFor balance allowance low = warningLevelBlocked ↔ balance < -allowance := by
  rw [warningLevelFor]
  split
  · simp [*]
  · split
    · simp [*, warningLevelNegative, warningLevelBlocked]
    · split
      · simp [*, warningLevelLow, warningLevelBlocked]
      · simp [*, warningLevelNone, warningLevelBlocked]

/-- A wallet with the columns that the ladder and the gate read. -/
structure LadderWallet extends MerchantWallet where
  /-- Null for the default allowance. -/
  negativeAllowanceCents : Option Int := none
  /-- Null for the plan's rate. -/
  commissionBpsOverride : Option Int := none
  lastWarningLevel : Nat := 0

/-- The thresholds of a `WalletService`: those of the environment, or of the admin panel once they
are loaded. -/
structure LadderDefaults where
  defaultAllowance : Int
  lowThreshold : Int

namespace LadderDefaults
variable (service : LadderDefaults)

def allowanceFor (wallet : LadderWallet) : Int :=
  wallet.negativeAllowanceCents.getD service.defaultAllowance

def currentWarningLevel (wallet : LadderWallet) : Nat :=
  warningLevelFor wallet.balanceCents (service.allowanceFor wallet) service.lowThreshold

/-- The wallet after the evaluation, with the new level when it rises. -/
def bumpWarningLevel (wallet : LadderWallet) : LadderWallet × Option Nat :=
  let level := service.currentWarningLevel wallet
  if wallet.lastWarningLevel < level then ({ wallet with lastWarningLevel := level }, some level)
  else if level = warningLevelNone ∧ wallet.lastWarningLevel ≠ 0 then
    ({ wallet with lastWarningLevel := warningLevelNone }, none)
  else (wallet, none)

end LadderDefaults

/-! ### Histories of evaluations -/

/-- What an evaluation finds: any balance, allowance and thresholds. -/
structure Reading where
  balanceCents : Int
  negativeAllowanceCents : Option Int := none
  service : LadderDefaults

namespace Reading

def level (reading : Reading) : Nat :=
  warningLevelFor reading.balanceCents
    (reading.negativeAllowanceCents.getD reading.service.defaultAllowance)
    reading.service.lowThreshold

/-- The wallet as the evaluation finds it. -/
def found (reading : Reading) (wallet : LadderWallet) : LadderWallet :=
  { wallet with
    balanceCents := reading.balanceCents
    negativeAllowanceCents := reading.negativeAllowanceCents }

def evaluate (wallet : LadderWallet) (reading : Reading) : LadderWallet × Option Nat :=
  reading.service.bumpWarningLevel (reading.found wallet)

end Reading

/-- The wallet after a sequence of evaluations. -/
def evaluated (wallet : LadderWallet) (readings : List Reading) : LadderWallet :=
  readings.foldl (fun before reading => (reading.evaluate before).1) wallet

/-- The levels that a sequence of evaluations returns. -/
def notifications (wallet : LadderWallet) : List Reading → List Nat
  | [] => []
  | reading :: rest =>
      (reading.evaluate wallet).2.toList ++ notifications (reading.evaluate wallet).1 rest

/-- An evaluation moves the stored level as a latch does, and returns what the latch says. -/
theorem evaluate_latches (wallet : LadderWallet) (reading : Reading) :
    (reading.evaluate wallet).1.lastWarningLevel
        = Latch.step wallet.lastWarningLevel reading.level ∧
      (reading.evaluate wallet).2 = Latch.notice wallet.lastWarningLevel reading.level := by
  have same : reading.service.currentWarningLevel (reading.found wallet) = reading.level := rfl
  have held : (reading.found wallet).lastWarningLevel = wallet.lastWarningLevel := rfl
  have bottom : (⊥ : Nat) = warningLevelNone := rfl
  unfold Reading.evaluate LadderDefaults.bumpWarningLevel
  simp only [same, held, Latch.step, Latch.notice, bottom]
  split
  · exact ⟨rfl, rfl⟩
  · split
    · rename_i low
      rw [if_pos low.1]
      exact ⟨rfl, rfl⟩
    · rename_i stays other
      refine ⟨?_, rfl⟩
      split
      · rename_i low
        by_contra moved
        exact other ⟨low, fun zero => moved (held.trans zero)⟩
      · exact held

theorem evaluated_latches (wallet : LadderWallet) (readings : List Reading) :
    (evaluated wallet readings).lastWarningLevel =
      (readings.map Reading.level).foldl Latch.step wallet.lastWarningLevel := by
  induction readings generalizing wallet with
  | nil => rfl
  | cons reading rest ih =>
      rw [List.map_cons, List.foldl_cons, ← (evaluate_latches wallet reading).1]
      exact ih (reading.evaluate wallet).1

theorem notifications_latch (wallet : LadderWallet) (readings : List Reading) :
    notifications wallet readings =
      Latch.notices wallet.lastWarningLevel (readings.map Reading.level) := by
  induction readings generalizing wallet with
  | nil => rfl
  | cons reading rest ih =>
      have here := evaluate_latches wallet reading
      rw [List.map_cons, Latch.notices, ← here.1, ← here.2, ← ih]
      rfl

end Numu.Wallet

/-! The checkout gate: what it computes from the tenant and the wallet, and what it serves from its
cache. -/

namespace Numu.Wallet
open Numu.Orders (Time)
open Numu.Stock (TextCase)
open Numu.Subscriptions (TenantLifecycleState)

inductive GateState where
  | ok
  | blocked
  | notLive
  deriving DecidableEq, Repr

/-- `PLAN_LIMITS`, by the commission of each plan in basis points. -/
def planCommissionBps : List (String × Int) :=
  [("demo", 0), ("trial", 0), ("starter", 0), ("pro", 0), ("developer", 0), ("enterprise", 0),
    ("payg", 300), ("free", 0)]

/-- `get_plan_features(plan).commission_bps`; an unknown plan is a trial. -/
def getPlanCommissionBps [TextCase] (plan : String) : Int :=
  (planCommissionBps.lookup (TextCase.lower plan)).getD 0

structure GatedTenant where
  plan : String
  lifecycleState : TenantLifecycleState := .active
  expiresAt : Option Time := none
  /-- Whether `feature_flags["golive_exempt"]` is truthy. -/
  goliveExempt : Bool := false
  /-- Whether `feature_flags["wallet_checkout_gate"]` is truthy. -/
  walletCheckoutGate : Bool := false

structure WalletAdminSettings where
  checkoutGateEnabled : Bool := false
  goliveGateEnabled : Bool := false
  commissionBpsDefault : Option Int := none
  negativeAllowanceCents : Int := 5000
  lowBalanceThresholdCents : Int := 10000

/-- What `load_admin_defaults` leaves in the service. -/
def WalletAdminSettings.defaults (admin : WalletAdminSettings) : LadderDefaults :=
  ⟨admin.negativeAllowanceCents, admin.lowBalanceThresholdCents⟩

/-- All that the gate reads. -/
structure GateScene where
  tenant : Option GatedTenant
  wallet : Option LadderWallet
  admin : WalletAdminSettings := {}
  ffWalletCheckoutGate : Bool := false
  ffGoliveGate : Bool := false

def resolveCommissionBps (tenantPlanBps : Int) (walletOverrideBps : Option Int)
    (admin : WalletAdminSettings) : Int :=
  if tenantPlanBps ≤ 0 then 0
  else match walletOverrideBps with
  | some override_ => override_
  | none => admin.commissionBpsDefault.getD tenantPlanBps

def effectiveCommissionBpsAdmin [TextCase] (tenant : GatedTenant) (wallet : Option LadderWallet)
    (admin : WalletAdminSettings) : Int :=
  if wallet.any (·.status = .exempt) then 0
  else
    resolveCommissionBps (getPlanCommissionBps tenant.plan)
      (wallet.bind (·.commissionBpsOverride)) admin

namespace GateScene
variable (scene : GateScene)

def onLiveTrial (tenant : GatedTenant) (now : Time) : Bool :=
  tenant.lifecycleState = .trial && tenant.expiresAt.all (now < ·)

/-- The go-live gate holds the tenant back. -/
def heldBack (tenant : GatedTenant) (now : Time) : Bool :=
  (scene.admin.goliveGateEnabled || scene.ffGoliveGate) && !onLiveTrial tenant now &&
    tenant.plan ∈ ["trial", "demo", "free"] && !tenant.goliveExempt

/-- The balance gate is on for the tenant. -/
def armed (tenant : GatedTenant) : Bool :=
  scene.admin.checkoutGateEnabled || scene.ffWalletCheckoutGate || tenant.walletCheckoutGate

/-- `_compute_gate_state`. -/
def computeGateState [TextCase] (now : Time) : GateState :=
  match scene.tenant with
  | none => .ok
  | some tenant =>
      if scene.heldBack tenant now then .notLive
      else if !scene.armed tenant then .ok
      else if effectiveCommissionBpsAdmin tenant scene.wallet scene.admin = 0 then .ok
      else match scene.wallet with
      | none => .ok
      | some wallet =>
          if wallet.status ≠ .active then .ok
          else if wallet.balanceCents < -scene.admin.defaults.allowanceFor wallet then .blocked
          else .ok

/-- The balance gate is responsible for the tenant's wallet. -/
structure Responsible [TextCase] (now : Time) (tenant : GatedTenant) (wallet : LadderWallet) :
    Prop where
  tenant_eq : scene.tenant = some tenant
  wallet_eq : scene.wallet = some wallet
  live : scene.heldBack tenant now = false
  armed : scene.armed tenant = true
  bearing : effectiveCommissionBpsAdmin tenant (some wallet) scene.admin ≠ 0
  active : wallet.status = .active

theorem computeGateState_of_responsible [TextCase] {now : Time} {tenant : GatedTenant}
    {wallet : LadderWallet} (responsible : scene.Responsible now tenant wallet) :
    scene.computeGateState now =
      if scene.admin.defaults.currentWarningLevel wallet = warningLevelBlocked then .blocked
      else .ok := by
  rw [computeGateState, responsible.tenant_eq, responsible.wallet_eq]
  simp only [responsible.live, responsible.armed, responsible.active,
    LadderDefaults.currentWarningLevel, warningLevelFor_blocked, if_neg responsible.bearing]
  rfl

/-- The gate blocks exactly the wallets it is responsible for that are at the level BLOCKED. -/
theorem computeGateState_blocked [TextCase] {now : Time} :
    scene.computeGateState now = .blocked ↔
      ∃ tenant wallet, scene.Responsible now tenant wallet ∧
        scene.admin.defaults.currentWarningLevel wallet = warningLevelBlocked := by
  constructor
  · intro blocked
    unfold computeGateState at blocked
    split at blocked
    · cases blocked
    · rename_i tenant isTenant
      split at blocked
      · cases blocked
      · rename_i live
        split at blocked
        · cases blocked
        · rename_i armed
          split at blocked
          · cases blocked
          · rename_i bearing
            split at blocked
            · cases blocked
            · rename_i wallet isWallet
              split at blocked
              · cases blocked
              · rename_i active
                rw [isWallet] at bearing
                have responsible : scene.Responsible now tenant wallet :=
                  { tenant_eq := isTenant
                    wallet_eq := isWallet
                    live := eq_false_of_ne_true live
                    armed := by simpa using armed
                    bearing := bearing
                    active := not_not.mp active }
                refine ⟨tenant, wallet, responsible, ?_⟩
                rw [LadderDefaults.currentWarningLevel, warningLevelFor_blocked]
                by_contra above
                rw [if_neg above] at blocked
                cases blocked
  · rintro ⟨tenant, wallet, responsible, level⟩
    rw [scene.computeGateState_of_responsible responsible, if_pos level]

end GateScene

/-! ### Answers from the cache -/

/-- `_GATE_CACHE_TTL_SECONDS`. -/
def gateCacheTtl : Time := 60 * 1000000

structure CachedGate where
  state : GateState
  expiresAt : Time

/-- What can happen to the cached answer of a tenant. -/
inductive GateStep where
  /-- A call computed its answer at `now` and stored it at `storedAt`. -/
  | store (scene : GateScene) (now storedAt : Time)
  /-- A call computed its answer and could not store it, or raised. -/
  | skip
  /-- `invalidate_cache`. -/
  | invalidate

def GateStep.apply [TextCase] (cached : Option CachedGate) : GateStep → Option CachedGate
  | store scene now storedAt => some ⟨scene.computeGateState now, storedAt + gateCacheTtl⟩
  | skip => cached
  | invalidate => none

/-- A call of the gate: one that raises anywhere, or one that reads the scene if it must. -/
inductive GateCall where
  | raised
  | completed (scene : GateScene) (readAt : Time)

/-- `checkout_gate_state`; the cache is looked up at `now`. -/
def checkoutGateState [TextCase] (cached : Option CachedGate) (now : Time) : GateCall → GateState
  | .raised => .ok
  | .completed scene readAt =>
      match cached.filter (now < ·.expiresAt) with
      | some hit => hit.state
      | none => scene.computeGateState readAt

/-- The cached answer was computed by the last call that stored one, and nothing dropped it since. -/
theorem cached_of_run [TextCase] {steps : List GateStep} {cached : CachedGate}
    (found : Run.run GateStep.apply none steps = some cached) :
    ∃ before scene now storedAt since, steps = before ++ .store scene now storedAt :: since ∧
      GateStep.invalidate ∉ since ∧
      cached = ⟨scene.computeGateState now, storedAt + gateCacheTtl⟩ := by
  induction steps using List.reverseRecOn generalizing cached with
  | nil => cases found
  | append_singleton earlier last ih =>
      rw [Run.run_append, Run.run_cons, Run.run_nil] at found
      cases last with
      | store scene now storedAt =>
          cases found
          exact ⟨earlier, scene, now, storedAt, [], rfl, List.not_mem_nil, rfl⟩
      | skip =>
          rcases ih found with ⟨before, scene, now, storedAt, since, rfl, kept, same⟩
          refine ⟨before, scene, now, storedAt, since ++ [.skip], by simp, ?_, same⟩
          simpa using kept
      | invalidate => cases found

/-- A call that blocks found a wallet at the level BLOCKED, or an answer that said so within the
time to live. -/
theorem checkoutGateState_blocked [TextCase] {steps : List GateStep} {now : Time} {call : GateCall}
    (blocked : checkoutGateState (Run.run GateStep.apply none steps) now call = .blocked) :
    ∃ scene readAt tenant wallet, scene.Responsible readAt tenant wallet ∧
      scene.admin.defaults.currentWarningLevel wallet = warningLevelBlocked ∧
      (call = .completed scene readAt ∨
        ∃ before storedAt since, steps = before ++ .store scene readAt storedAt :: since ∧
          GateStep.invalidate ∉ since ∧ now < storedAt + gateCacheTtl) := by
  cases call with
  | raised => cases blocked
  | completed scene readAt =>
      rw [checkoutGateState] at blocked
      split at blocked
      · rename_i hit live
        rcases Option.filter_eq_some_iff.mp live with ⟨found, fresh⟩
        rcases cached_of_run found with ⟨before, scene, readAt, storedAt, since, same, kept, rfl⟩
        rcases scene.computeGateState_blocked.mp blocked with ⟨tenant, wallet, responsible, level⟩
        exact ⟨scene, readAt, tenant, wallet, responsible, level,
          Or.inr ⟨before, storedAt, since, same, kept, of_decide_eq_true fresh⟩⟩
      · rcases scene.computeGateState_blocked.mp blocked with ⟨tenant, wallet, responsible, level⟩
        exact ⟨scene, readAt, tenant, wallet, responsible, level, Or.inl rfl⟩

/-- The stored level is the highest since the balance was last healthy, an evaluation returns it
exactly when it rises, and the gate blocks, where it is responsible, at the level BLOCKED alone. -/
theorem ladder_latches_and_gate_blocks [TextCase] :
    (∀ history : List Reading,
      (evaluated {} history).lastWarningLevel = Latch.peak (history.map Reading.level)) ∧
    (∀ (history : List Reading) (reading : Reading),
      let before := Latch.peak (history.map Reading.level)
      let after := Latch.peak ((history ++ [reading]).map Reading.level)
      (reading.evaluate (evaluated {} history)).2 = if before < after then some after else none) ∧
    (∀ history excursion : List Reading,
      (∀ reading ∈ excursion, reading.level ≠ warningLevelNone) →
        (notifications (evaluated {} history) excursion).Pairwise (· < ·)) ∧
    (∀ (scene : GateScene) (now : Time), scene.computeGateState now = .blocked ↔
      ∃ tenant wallet, scene.Responsible now tenant wallet ∧
        scene.admin.defaults.currentWarningLevel wallet = warningLevelBlocked) ∧
    (∀ (steps : List GateStep) (now : Time) (call : GateCall),
      checkoutGateState (Run.run GateStep.apply none steps) now call = .blocked →
      ∃ scene readAt tenant wallet, scene.Responsible readAt tenant wallet ∧
        scene.admin.defaults.currentWarningLevel wallet = warningLevelBlocked ∧
        (call = .completed scene readAt ∨
          ∃ before storedAt since, steps = before ++ .store scene readAt storedAt :: since ∧
            GateStep.invalidate ∉ since ∧ now < storedAt + gateCacheTtl)) := by
  have held (history : List Reading) :
      (evaluated {} history).lastWarningLevel = Latch.peak (history.map Reading.level) := by
    rw [evaluated_latches]
    exact Latch.foldl_step_eq_peak _
  refine ⟨held, ?_, ?_, fun scene _ => scene.computeGateState_blocked,
    fun _ _ _ => checkoutGateState_blocked⟩
  · intro history reading
    rw [(evaluate_latches _ reading).2, held, List.map_append, List.map_singleton]
    exact Latch.notice_peak
  · intro history excursion high
    rw [notifications_latch]
    refine (Latch.notices_rising _ ?_).2
    intro level member
    rcases List.mem_map.mp member with ⟨reading, inside, rfl⟩
    exact high reading inside

/-- A wallet far below its allowance; the gate is switched off. -/
def unarmedScene : GateScene where
  tenant := some { plan := "payg" }
  wallet := some { balanceCents := -100000 }

theorem unarmed_gate_lets_through :
    letI := TextCase.ascii
    unarmedScene.admin.defaults.currentWarningLevel { balanceCents := -100000 }
        = warningLevelBlocked ∧
      unarmedScene.computeGateState 0 = .ok := by
  let _ := TextCase.ascii
  exact ⟨by decide, rfl⟩

end Numu.Wallet
