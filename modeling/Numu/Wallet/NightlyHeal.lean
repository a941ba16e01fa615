import Numu.Wallet.WalletService

/-!
# The nightly heal of a wallet

The integrity pass reads the sums of the ledgers in one select, then locks each wallet that drifts
and stores the sum that it has read. Entries go on being applied meanwhile.
-/

namespace Numu.Wallet
namespace LedgerState

def ledgerSum (state : LedgerState) : Int :=
  RunningTotal.total WalletTransaction.amountCents state.ledger

/-- The stored balance is the sum of the ledger rows. -/
def Agrees (state : LedgerState) : Prop := state.row.balanceCents = state.ledgerSum

instance (state : LedgerState) : Decidable state.Agrees := inferInstanceAs (Decidable (_ = _))

/-- The `ledger_sum` of the wallet in `drift_rows`, where it is one of them. -/
def driftRow (state : LedgerState) : Option Int :=
  match state.wallet with
  | none => none
  | some wallet => if wallet.balanceCents ≠ state.ledgerSum then some state.ledgerSum else none

/-- `wallet.balance_cents = int(row.ledger_sum)`, on the object that the locked select returned,
and the commit. -/
def writeSum (state : LedgerState) (session : Nat) (copy : MerchantWallet) (ledgerSum : Int) :
    LedgerState :=
  { state.hold session (some { copy with balanceCents := ledgerSum }) with
    wallet := some { state.row with
      balanceCents := column copy.balanceCents ledgerSum state.row.balanceCents } }

/-- A call of `apply_entry` that appends a row. -/
def appends (state : LedgerState) (session : Nat) (entry : Entry) : Bool :=
  match state.applied session entry with
  | .applied _ => true
  | _ => false

/-- A call that appends finds the stored balance in the object it uses. -/
def Fresh (state : LedgerState) : LedgerLabel → Prop
  | .apply session entry =>
      state.appends session entry = true →
        (state.selected session).balanceCents = state.row.balanceCents
  | _ => True

instance : ∀ (state : LedgerState) (label : LedgerLabel), Decidable (state.Fresh label)
  | state, .apply session entry => inferInstanceAs (Decidable (state.appends session entry = true → _))
  | _, .read _ | _, .forget _ | _, .setStatus _ | _, .applyElsewhere _ =>
      inferInstanceAs (Decidable True)

end LedgerState

/-- What waits for the wallet's row while another transaction has locked it. -/
def LedgerLabel.needsLock : LedgerLabel → Bool
  | .apply .. | .setStatus _ => true
  | _ => false

namespace LedgerState

/-- A step of another transaction while the heal has the row locked. -/
def lockedStep (state : LedgerState) (label : LedgerLabel) : LedgerState :=
  if label.needsLock then state else state.step label

end LedgerState

/-- What the other transactions do before the heal's select of the sums, between it and the lock,
under the lock, and after the heal. -/
structure Night where
  session : Nat
  before : List LedgerLabel
  between : List LedgerLabel
  locked : List LedgerLabel
  after : List LedgerLabel

namespace Night
open LedgerState

def atRead (night : Night) (start : LedgerState) : LedgerState :=
  Run.run LedgerState.step start night.before

def atLock (night : Night) (start : LedgerState) : LedgerState :=
  Run.run LedgerState.step (night.atRead start) night.between

/-- A wallet that is none of the `drift_rows` is not locked. -/
def healed (night : Night) (start : LedgerState) : LedgerState :=
  let state := night.atLock start
  match (night.atRead start).driftRow with
  | none => state
  | some ledgerSum =>
      let copy := state.selected night.session
      let beforeWrite := Run.run lockedStep (state.hold night.session (some copy)) night.locked
      beforeWrite.writeSum night.session copy ledgerSum

def finished (night : Night) (start : LedgerState) : LedgerState :=
  Run.run LedgerState.step (night.healed start) night.after

/-- Each call that appends, whenever it comes, finds the stored balance in the object it uses. -/
structure Fresh (night : Night) (start : LedgerState) : Prop where
  before : Run.Guarded LedgerState.step LedgerState.Fresh start night.before
  between : Run.Guarded LedgerState.step LedgerState.Fresh (night.atRead start) night.between
  after : Run.Guarded LedgerState.step LedgerState.Fresh (night.healed start) night.after

end Night

namespace LedgerState
variable {state : LedgerState} {label : LedgerLabel}

/-- By how much the stored balance is off. -/
def drift (state : LedgerState) : Int := state.row.balanceCents - state.ledgerSum

theorem agrees_iff_drift : state.Agrees ↔ state.drift = 0 := by
  rw [Agrees, drift]
  omega

/-- An entry moves the balance and the ledger by one amount. -/
theorem step_drift (fresh : state.Fresh label) : (state.step label).drift = state.drift := by
  by_cases appended : ∃ session entry tx,
      label = .apply session entry ∧ state.applied session entry = .applied tx
  · obtain ⟨session, entry, tx, rfl, ok⟩ := appended
    have current : (state.selected session).balanceCents = state.row.balanceCents :=
      fresh (by rw [appends, ok])
    obtain ⟨made, -⟩ := WalletService.applyEntry_applied ok
    have after : tx.balanceAfterCents = (state.selected session).balanceCents + tx.amountCents := by
      rw [made]
      rfl
    have balance : (state.append session tx).row.balanceCents = tx.balanceAfterCents := by
      show column (state.selected session).balanceCents _ _ = _
      rw [current, column_current]
    have sum : (state.append session tx).ledgerSum = state.ledgerSum + tx.amountCents :=
      RunningTotal.total_append WalletTransaction.amountCents state.ledger tx
    simp only [step, ok]
    rw [drift, balance, sum, after, drift, current]
    omega
  · have kept := step_kept fun session entry tx same ok => appended ⟨session, entry, tx, same, ok⟩
    rw [drift, drift, ledgerSum, ledgerSum, kept.1, kept.2]

theorem run_drift {labels : List LedgerLabel} (fresh : Run.Guarded step LedgerState.Fresh state labels) :
    (Run.run step state labels).drift = state.drift :=
  (Run.always_of_guarded (I := fun later => later.drift = state.drift)
    (fun _ _ same next => (step_drift next).trans same) rfl fresh).last

/-- A wallet that is there stays. -/
theorem step_wallet (present : state.wallet ≠ none) (label : LedgerLabel) :
    (state.step label).wallet ≠ none := by
  cases label with
  | read session =>
      simp only [step]
      split <;> exact present
  | forget session => exact present
  | apply session entry =>
      simp only [step]
      split <;> exact Option.some_ne_none _
  | setStatus status => exact Option.some_ne_none _
  | applyElsewhere tx =>
      simp only [step]
      split <;> exact present

theorem run_wallet (present : state.wallet ≠ none) (labels : List LedgerLabel) :
    (Run.run step state labels).wallet ≠ none :=
  (Run.always_of_invariant (I := fun later : LedgerState => later.wallet ≠ none)
    (fun _ label here => step_wallet here label) present labels).last

/-- Under the heal's lock neither the balance nor the ledger moves. -/
theorem run_locked (state : LedgerState) (labels : List LedgerLabel) :
    (Run.run lockedStep state labels).ledger = state.ledger ∧
      (Run.run lockedStep state labels).row.balanceCents = state.row.balanceCents := by
  have kept : ∀ (now : LedgerState) (label : LedgerLabel),
      (now.lockedStep label).ledger = now.ledger ∧
        (now.lockedStep label).row.balanceCents = now.row.balanceCents := by
    intro now label
    rw [lockedStep]
    split
    · exact ⟨rfl, rfl⟩
    · rename_i free
      exact step_kept fun session entry tx same _ => free (by rw [same]; rfl)
  exact (Run.always_of_invariant
    (I := fun later => later.ledger = state.ledger ∧ later.row.balanceCents = state.row.balanceCents)
    (fun now label same => ⟨(kept now label).1.trans same.1, (kept now label).2.trans same.2⟩)
    ⟨rfl, rfl⟩ labels).last

theorem ledgerSum_congr {other : LedgerState} (same : other.ledger = state.ledger) :
    other.ledgerSum = state.ledgerSum := by
  rw [ledgerSum, same, ledgerSum]

@[simp] theorem writeSum_balance (session : Nat) (copy : MerchantWallet) (sum : Int) :
    (state.writeSum session copy sum).row.balanceCents =
      column copy.balanceCents sum state.row.balanceCents := rfl

@[simp] theorem writeSum_ledgerSum (session : Nat) (copy : MerchantWallet) (sum : Int) :
    (state.writeSum session copy sum).ledgerSum = state.ledgerSum := rfl

theorem driftRow_eq (present : state.wallet ≠ none) :
    state.driftRow = if state.drift = 0 then none else some state.ledgerSum := by
  obtain ⟨wallet, found⟩ := Option.ne_none_iff_exists'.mp present
  have row : state.row = wallet := by rw [LedgerState.row, found, Option.getD_some]
  rw [driftRow, found, drift, row]
  dsimp only
  by_cases same : wallet.balanceCents = state.ledgerSum
  · rw [if_neg (not_not.mpr same), if_pos (by omega)]
  · rw [if_pos same, if_neg (by omega)]

end LedgerState

namespace Night
open LedgerState
variable {night : Night} {start : LedgerState}

theorem Fresh.atRead_drift (fresh : night.Fresh start) : (night.atRead start).drift = start.drift :=
  run_drift fresh.before

theorem Fresh.atLock_drift (fresh : night.Fresh start) : (night.atLock start).drift = start.drift :=
  (run_drift fresh.between).trans fresh.atRead_drift

theorem atRead_present (present : start.wallet ≠ none) : (night.atRead start).wallet ≠ none :=
  run_wallet present night.before

/-- Where the wallet drifts, what is stored is the sum that was read, over the ledger of the
lock's time. -/
theorem healed_drift (present : start.wallet ≠ none) (drifts : (night.atRead start).drift ≠ 0) :
    (night.healed start).drift =
      column ((night.atLock start).selected night.session).balanceCents (night.atRead start).ledgerSum
          (night.atLock start).row.balanceCents - (night.atLock start).ledgerSum := by
  have listed : (night.atRead start).driftRow = some (night.atRead start).ledgerSum := by
    rw [driftRow_eq (atRead_present present), if_neg drifts]
  obtain ⟨ledger, balance⟩ := run_locked ((night.atLock start).hold night.session
    (some ((night.atLock start).selected night.session))) night.locked
  rw [healed, listed]
  dsimp only
  rw [drift, writeSum_balance, writeSum_ledgerSum, balance, ledgerSum_congr ledger]
  rfl

theorem healed_of_agrees (present : start.wallet ≠ none) (settled : (night.atRead start).drift = 0) :
    night.healed start = night.atLock start := by
  have unlisted : (night.atRead start).driftRow = none := by
    rw [driftRow_eq (atRead_present present), if_pos settled]
  rw [healed, unlisted]

end Night

/-- Among the nights on which each call finds the stored balance, those on which the wallet agrees
with its ledger in the end: it did so at the start, or the entries between the heal's select and its
lock come to nothing and the heal's object of the wallet does not show the sum already. -/
theorem nightly_heal_iff (night : Night) (wallet : MerchantWallet)
    (ledger others : List WalletTransaction) (copies : Nat → Option MerchantWallet)
    (fresh : night.Fresh { wallet := some wallet, ledger, others, copies }) :
    let start : LedgerState := { wallet := some wallet, ledger, others, copies }
    (night.finished start).Agrees ↔
      start.Agrees ∨
        (night.atLock start).ledgerSum = (night.atRead start).ledgerSum ∧
          ((night.atLock start).selected night.session).balanceCents ≠
            (night.atRead start).ledgerSum := by
  intro start
  have present : start.wallet ≠ none := Option.some_ne_none wallet
  have ends : (night.finished start).drift = (night.healed start).drift := LedgerState.run_drift fresh.after
  have read : (night.atRead start).drift = start.drift := fresh.atRead_drift
  have lock : (night.atLock start).drift = start.drift := fresh.atLock_drift
  rw [LedgerState.agrees_iff_drift, ends, LedgerState.agrees_iff_drift]
  by_cases settled : start.drift = 0
  · rw [Night.healed_of_agrees present (read.trans settled), lock]
    exact iff_of_true settled (Or.inl settled)
  · rw [Night.healed_drift present (fun zero => settled (read.symm.trans zero))]
    rw [LedgerState.drift] at lock
    by_cases shown : ((night.atLock start).selected night.session).balanceCents =
        (night.atRead start).ledgerSum
    · -- The write changes nothing, and the drift stays.
      rw [column_kept shown.symm]
      exact iff_of_false (fun zero => settled (lock.symm.trans zero))
        (fun either => either.elim settled fun facts => facts.2 shown)
    · rw [column_changed (Ne.symm shown)]
      constructor
      · exact fun zero => Or.inr ⟨by omega, shown⟩
      · intro either
        rcases either with zero | ⟨same, -⟩
        · exact absurd zero settled
        · omega

/-- A top-up after the heal, over a wallet that was one pound short. -/
def quietNight : Night where
  session := 0
  before := []
  between := []
  locked := [.read 1]
  after := [.forget 1, .apply 1 { kind := .topup, amountCents := 5000 }]

def paidIn : WalletTransaction where
  kind := .topup
  amountCents := 10000
  balanceAfterCents := 10000

theorem nightly_heal_iff_quiet :
    (quietNight.finished { wallet := some { balanceCents := 9900 }, ledger := [paidIn] }).Agrees ↔
      LedgerState.Agrees { wallet := some { balanceCents := 9900 }, ledger := [paidIn] } ∨
        (10000 : Int) = 10000 ∧ (9900 : Int) ≠ 10000 :=
  nightly_heal_iff quietNight { balanceCents := 9900 } [paidIn] [] (fun _ => none)
    ⟨by decide, by decide, by decide⟩

/-- A top-up between the heal's select and its lock is in the ledger and not in the balance. -/
theorem heal_loses_topup :
    let night : Night :=
      ⟨0, [], [.apply 1 { kind := .topup, amountCents := 5000 }], [], []⟩
    ¬ (night.finished { wallet := some { balanceCents := 9900 }, ledger := [paidIn] }).Agrees := by
  decide

end Numu.Wallet
