import Mathlib.Tactic.Ring
import Numu.Foundation.Calendar
import Numu.Foundation.Run

/-!
# Guessing a password

The lockout of one account against the logins that reach it, each of which first looks whether the
account is locked and later, when it has verified a password, records how that went. Only their
number matters, so the logins between the two are counted. The clock is in microseconds.
-/

namespace Numu.Auth.Lockout
open Numu.Calendar (secondLength)

/-- `_MAX_ATTEMPTS`. -/
def maxAttempts : Nat := 5

/-- `_BASE_LOCKOUT_SECONDS`. -/
def baseLockoutSeconds : Nat := 60

/-- `_MAX_LOCKOUT_SECONDS`. -/
def maxLockoutSeconds : Nat := 900

/-- `_ATTEMPT_WINDOW_SECONDS`. -/
def attemptWindowSeconds : Nat := 600

/-- `_lockout_for`. -/
def lockoutFor (attempts : Nat) : Nat :=
  min (baseLockoutSeconds * 2 ^ (attempts - maxAttempts)) maxLockoutSeconds

/-- Where the failures are counted: in Redis, or while it is down in the memory of the process. -/
inductive Counter where
  | redis
  | memory
  deriving DecidableEq, Repr

/-- The whole seconds that a key is told to live: Redis rounds, the memory rounds down. -/
def ttl (counter : Counter) (expiresAt now : Nat) : Nat :=
  match counter with
  | .redis => (expiresAt - now + secondLength / 2) / secondLength
  | .memory => (expiresAt - now) / secondLength

structure Account where
  counter : Counter
  now : Nat
  /-- The failures that are counted, and until when. -/
  attempts : Option (Nat × Nat) := none
  locked : Option Nat := none
  /-- The logins that have passed `check_locked` and have not ended. -/
  inFlight : Nat := 0
  /-- What came of the logins so far; no step reads it. -/
  denied : Nat := 0
  granted : Nat := 0
  deriving DecidableEq, Repr

inductive Step where
  | wait (elapsed : Nat)
  | check
  | deny
  | grant
  | abandon
  deriving DecidableEq, Repr

namespace Account

/-- `check_locked`. -/
def checkLocked (account : Account) : Bool :=
  account.locked.any fun expiresAt => 0 < ttl account.counter expiresAt account.now

/-- The counter that `record_failure` finds; the first failure opens a new one. -/
def live (account : Account) : Option (Nat × Nat) :=
  account.attempts.filter fun attempts => account.now < attempts.2

def recordFailure (account : Account) : Account :=
  let attempts := match account.live with
    | some (count, expiresAt) => (count + 1, expiresAt)
    | none => (1, account.now + attemptWindowSeconds * secondLength)
  { account with
    attempts := some attempts
    locked :=
      if maxAttempts ≤ attempts.1 then
        some (account.now + lockoutFor attempts.1 * secondLength)
      else account.locked }

def clear (account : Account) : Account := { account with attempts := none, locked := none }

/-- A login that is refused at once, or that is not there to end, changes nothing. -/
def step (account : Account) : Step → Account
  | .wait elapsed => { account with now := account.now + elapsed }
  | .check =>
      if account.checkLocked then account else { account with inFlight := account.inFlight + 1 }
  | .deny =>
      if account.inFlight = 0 then account
      else { account.recordFailure with
        inFlight := account.inFlight - 1, denied := account.denied + 1 }
  | .grant =>
      if account.inFlight = 0 then account
      else { account.clear with
        inFlight := account.inFlight - 1, granted := account.granted + 1 }
  | .abandon => { account with inFlight := account.inFlight - 1 }

/-- At most `c` logins are in flight. -/
def Few (c : Nat) (account : Account) : Step → Prop
  | .check => account.checkLocked = false → account.inFlight < c
  | _ => True

instance (c : Nat) (account : Account) : ∀ a, Decidable (account.Few c a)
  | .check => inferInstanceAs (Decidable (_ → _))
  | .wait _ | .deny | .grant | .abandon => isTrue trivial

/-- No login is in flight, and nothing is counted yet. -/
structure Opened (account : Account) : Prop where
  attempts : account.attempts = none
  inFlight : account.inFlight = 0
  denied : account.denied = 0
  granted : account.granted = 0

end Account

/-! ## Rounds

Within the life of a counter the logins come in rounds: a new round begins when a login passes after
the lock that the failures of the round before have set.
-/

/-- The seconds that pass at least until a round begins; a lock may be told a second short. -/
def roundStart : Nat → Nat
  | 0 => 0
  | r + 1 => roundStart r + (min (baseLockoutSeconds * 2 ^ r) maxLockoutSeconds - 1)

theorem roundStart_mono {r s : Nat} (le : r ≤ s) : roundStart r ≤ roundStart s := by
  induction le with
  | refl => exact le_refl _
  | step _ ih => exact Nat.le_add_right_of_le ih

/-- The fifth round begins when the counter has expired. -/
theorem round_le {r : Nat} (within : roundStart r < attemptWindowSeconds) : r ≤ 3 := by
  by_contra late
  have later : roundStart 4 ≤ roundStart r := roundStart_mono (not_le.mp late)
  have fifth : attemptWindowSeconds ≤ roundStart 4 := by decide
  exact absurd (lt_of_le_of_lt (fifth.trans later) within) (lt_irrefl _)

/-- An account that is open again has left its lock, but for less than a second. -/
theorem lock_le_of_open {counter : Counter} {expiresAt now : Nat}
    (open_ : ttl counter expiresAt now = 0) : expiresAt < now + secondLength := by
  have second : secondLength = 1000000 := rfl
  cases counter <;> simp only [ttl, second] at open_ ⊢ <;> omega

/-- The least lock that a failure of a round sets. -/
theorem lockoutFor_le {c r count : Nat} (some_ : 1 ≤ c) (late : maxAttempts + r * c ≤ count) :
    min (baseLockoutSeconds * 2 ^ r) maxLockoutSeconds ≤ lockoutFor count := by
  have rounds : r ≤ r * c := Nat.le_mul_of_pos_right r some_
  have past : r ≤ count - maxAttempts := by omega
  exact min_le_min_right _ (Nat.mul_le_mul_left _ (Nat.pow_le_pow_right (by decide) past))

namespace Account
variable {c : Nat} {account : Account} {begin : Nat}

/-- The counter was opened at `opened`, and its failures and the logins in flight belong to `r + 1`
rounds; the lock of a full round lasts until the next. -/
def InRound (c : Nat) (account : Account) (count : Nat) (opened : Nat) (r : Nat) : Prop :=
  opened + roundStart r * secondLength ≤ account.now ∧
    count + account.inFlight ≤ 4 + (r + 1) * c ∧
    (maxAttempts + r * c ≤ count → ∃ lock ∈ account.locked,
      opened + (roundStart (r + 1) + 1) * secondLength ≤ lock)

/-- All failures but `count` belong to `closed` counters, each of which was cleared by a login or has
lived for its ten minutes before `opened`. -/
def Closed (c : Nat) (begin : Nat) (account : Account) (count : Nat) (opened : Nat)
    (closed : Nat) : Prop :=
  account.denied ≤ (4 + 4 * c) * closed + count ∧
    begin + closed * (attemptWindowSeconds * secondLength) ≤
      opened + account.granted * (attemptWindowSeconds * secondLength)

structure Bounded (c : Nat) (begin : Nat) (account : Account) : Prop where
  few : account.inFlight ≤ c
  /-- No counter is alive. -/
  idle : account.live = none →
    ∃ closed, account.Closed c begin 0 account.now closed
  counting : ∀ count expiresAt, account.live = some (count, expiresAt) →
    ∃ opened r closed, expiresAt = opened + attemptWindowSeconds * secondLength ∧
      opened ≤ account.now ∧ account.InRound c count opened r ∧
        account.Closed c begin count opened closed

/-- A live counter has counted at most `4 + 4 * c` failures. -/
theorem Bounded.count_le (bounded : account.Bounded c begin) {count expiresAt : Nat}
    (live : account.live = some (count, expiresAt)) : count ≤ 4 + 4 * c := by
  obtain ⟨opened, r, closed, rfl, -, ⟨since, few, -⟩, -⟩ := bounded.counting count expiresAt live
  have alive : account.now < opened + attemptWindowSeconds * secondLength :=
    of_decide_eq_true (Option.filter_eq_some_iff.mp live).2
  have within : roundStart r * secondLength < attemptWindowSeconds * secondLength := by omega
  have rounds := round_le (lt_of_mul_lt_mul_right within (Nat.zero_le _))
  have widest : (r + 1) * c ≤ 4 * c := Nat.mul_le_mul_right c (by omega)
  omega

/-- As time passes a counter is closed when its ten minutes are over. -/
theorem Bounded.wait (bounded : account.Bounded c begin) (elapsed : Nat) :
    (account.step (.wait elapsed)).Bounded c begin := by
  have older : ∀ count expiresAt, (account.step (.wait elapsed)).live = some (count, expiresAt) →
      account.live = some (count, expiresAt) := by
    intro count expiresAt live
    obtain ⟨there, alive⟩ := Option.filter_eq_some_iff.mp live
    have alive' : account.now + elapsed < expiresAt := of_decide_eq_true alive
    exact Option.filter_eq_some_iff.mpr ⟨there, decide_eq_true (by dsimp only; omega)⟩
  refine ⟨bounded.few, fun idle => ?_, fun count expiresAt live => ?_⟩
  · cases known : account.live with
    | none =>
        obtain ⟨closed, denied, span⟩ := bounded.idle known
        exact ⟨closed, denied, span.trans (by dsimp only [step]; omega)⟩
    | some attempts =>
        obtain ⟨count, expiresAt⟩ := attempts
        obtain ⟨opened, r, closed, rfl, -, -, denied, span⟩ := bounded.counting count expiresAt known
        have most := bounded.count_le known
        have gone : opened + attemptWindowSeconds * secondLength ≤ account.now + elapsed := by
          by_contra alive
          have there := (Option.filter_eq_some_iff.mp known).1
          have still : (account.step (.wait elapsed)).live = some (count, _) :=
            Option.filter_eq_some_iff.mpr ⟨there, decide_eq_true (not_le.mp alive)⟩
          cases idle.symm.trans still
        refine ⟨closed + 1, ?_, ?_⟩
        · dsimp only [step]
          rw [Nat.mul_succ]
          omega
        · dsimp only [step]
          rw [Nat.succ_mul]
          omega
  · obtain ⟨opened, r, closed, expires, before, ⟨since, few, lock⟩, done⟩ :=
      bounded.counting count expiresAt (older count expiresAt live)
    refine ⟨opened, r, closed, expires, ?_, ⟨?_, few, lock⟩, done⟩
    · exact before.trans (Nat.le_add_right _ _)
    · exact since.trans (Nat.le_add_right _ _)

/-- A login that passes after the lock of a full round begins the next one. -/
theorem Bounded.check (bounded : account.Bounded c begin) (few : account.Few c .check) :
    (account.step .check).Bounded c begin := by
  rw [step]
  split
  · exact bounded
  · rename_i unlocked
    have open_ := Bool.eq_false_iff.mpr unlocked
    have room := few open_
    refine ⟨room, bounded.idle, fun count expiresAt live => ?_⟩
    obtain ⟨opened, r, closed, expires, before, ⟨since, within, lock⟩, done⟩ :=
      bounded.counting count expiresAt live
    have next : (r + 1 + 1) * c = (r + 1) * c + c := Nat.succ_mul _ _
    have this_ : (r + 1) * c = r * c + c := Nat.succ_mul _ _
    by_cases full : maxAttempts + r * c ≤ count
    · obtain ⟨until_, locked, late⟩ := lock full
      rw [checkLocked, Option.mem_def.mp locked, Option.any_some] at open_
      have over_ := lock_le_of_open (Nat.eq_zero_of_not_pos (of_decide_eq_false open_))
      rw [Nat.succ_mul] at late
      refine ⟨opened, r + 1, closed, expires, before, ⟨?_, ?_, fun fuller => ?_⟩, done⟩
      · dsimp only
        omega
      · dsimp only
        omega
      · exfalso
        have five : maxAttempts = 5 := rfl
        omega
    · refine ⟨opened, r, closed, expires, before, ⟨since, ?_, fun fuller => absurd fuller full⟩, done⟩
      have five : maxAttempts = 5 := rfl
      dsimp only
      omega

theorem one_le_lock (r : Nat) : 1 ≤ min (baseLockoutSeconds * 2 ^ r) maxLockoutSeconds :=
  le_min (Nat.mul_pos (by decide) (Nat.pow_pos (by decide))) (by decide)

/-- A failure of a live counter is counted in its round, and the last one locks until the next. -/
theorem InRound.deny {count opened r : Nat} (round : account.InRound c count opened r)
    (some_ : 1 ≤ account.inFlight) (few : account.inFlight ≤ c) {after : Account}
    (now : after.now = account.now) (ends : after.inFlight + 1 = account.inFlight)
    (locked : maxAttempts ≤ count + 1 →
      after.locked = some (account.now + lockoutFor (count + 1) * secondLength)) :
    after.InRound c (count + 1) opened r := by
  obtain ⟨since, within, -⟩ := round
  refine ⟨now ▸ since, by omega, fun full => ?_⟩
  refine ⟨_, locked (le_trans (Nat.le_add_right _ _) full), ?_⟩
  have most := lockoutFor_le (some_.trans few) full
  have positive := one_le_lock r
  have length : (roundStart (r + 1) + 1) * secondLength ≤
      roundStart r * secondLength + lockoutFor (count + 1) * secondLength := by
    rw [← Nat.add_mul, roundStart]
    exact Nat.mul_le_mul_right _ (by omega)
  omega

/-- A failure opens a counter, or is counted by the live one. -/
theorem Bounded.deny (bounded : account.Bounded c begin) :
    (account.step .deny).Bounded c begin := by
  rw [step]
  split
  · exact bounded
  · rename_i none_
    have some_ : 1 ≤ account.inFlight := Nat.pos_of_ne_zero none_
    have few := bounded.few
    have counted : ∀ attempts : Nat × Nat, account.now < attempts.2 →
        (some attempts).filter (fun attempts => account.now < attempts.2) = some attempts :=
      fun _ alive => Option.filter_eq_some_iff.mpr ⟨rfl, decide_eq_true alive⟩
    cases known : account.live with
    | none =>
        have alive : account.now < account.now + attemptWindowSeconds * secondLength :=
          Nat.lt_add_of_pos_right (by decide)
        simp only [recordFailure, known]
        refine ⟨by dsimp only; omega, fun idle => ?_, fun count expiresAt live => ?_⟩
        · cases idle.symm.trans (counted _ alive)
        · cases (counted _ alive).symm.trans live
          obtain ⟨closed, denied, span⟩ := bounded.idle known
          refine ⟨account.now, 0, closed, rfl, le_refl _, ⟨?_, ?_, ?_⟩, by dsimp only; omega, span⟩
          · exact le_of_eq (by rw [roundStart, Nat.zero_mul, Nat.add_zero])
          · dsimp only
            omega
          · intro full
            exact absurd (le_trans (Nat.le_add_right _ _) full) (by decide)
    | some attempts =>
        obtain ⟨count, expiresAt⟩ := attempts
        have alive : account.now < expiresAt :=
          of_decide_eq_true (Option.filter_eq_some_iff.mp known).2
        simp only [recordFailure, known]
        refine ⟨by dsimp only; omega, fun idle => ?_, fun count' expiresAt' live => ?_⟩
        · cases idle.symm.trans (counted _ alive)
        · cases (counted (count + 1, expiresAt) alive).symm.trans live
          obtain ⟨opened, r, closed, expires, before, round, denied, span⟩ :=
            bounded.counting count expiresAt known
          refine ⟨opened, r, closed, expires, before, ?_, by dsimp only; omega, span⟩
          exact round.deny some_ few rfl (by dsimp only; omega) fun late => if_pos late

/-- A login that is granted closes the counter. -/
theorem Bounded.grant (bounded : account.Bounded c begin) :
    (account.step .grant).Bounded c begin := by
  rw [step]
  split
  · exact bounded
  · have few := bounded.few
    refine ⟨by dsimp only; omega, fun _ => ?_, fun count expiresAt live => by cases live⟩
    cases known : account.live with
    | none =>
        obtain ⟨closed, denied, span⟩ := bounded.idle known
        refine ⟨closed, denied, span.trans ?_⟩
        exact Nat.add_le_add_left (Nat.mul_le_mul_right _ (Nat.le_succ _)) _
    | some attempts =>
        obtain ⟨count, expiresAt⟩ := attempts
        obtain ⟨opened, r, closed, -, before, -, denied, span⟩ :=
          bounded.counting count expiresAt known
        have most := bounded.count_le known
        refine ⟨closed + 1, ?_, ?_⟩
        · dsimp only [clear]
          rw [Nat.mul_succ]
          omega
        · dsimp only [clear]
          rw [Nat.succ_mul, Nat.succ_mul]
          omega

theorem Bounded.abandon (bounded : account.Bounded c begin) :
    (account.step .abandon).Bounded c begin := by
  refine ⟨(Nat.sub_le _ _).trans bounded.few, bounded.idle, fun count expiresAt live => ?_⟩
  obtain ⟨opened, r, closed, expires, before, ⟨since, within, lock⟩, done⟩ :=
    bounded.counting count expiresAt live
  refine ⟨opened, r, closed, expires, before, ⟨since, le_trans ?_ within, lock⟩, done⟩
  exact Nat.add_le_add_left (Nat.sub_le _ _) _

theorem Opened.bounded (opened : account.Opened) : account.Bounded c account.now := by
  have idle : account.live = none := by
    rw [live, opened.attempts]
    rfl
  refine ⟨opened.inFlight ▸ Nat.zero_le c, fun _ => ⟨0, ?_, ?_⟩, fun count expiresAt live => ?_⟩
  · rw [opened.denied]
    exact Nat.zero_le _
  · rw [opened.granted]
  · cases idle.symm.trans live

end Account

end Numu.Auth.Lockout
