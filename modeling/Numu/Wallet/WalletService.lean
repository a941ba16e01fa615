import Numu.Foundation.Carried
import Numu.Foundation.Journal
import Numu.Foundation.Run
import Numu.Orders.Order

/-! The merchant wallet, its ledger rows and `WalletService`. -/

namespace Numu.Wallet
open Numu.Orders (UUID Time)

inductive WalletStatus where
  | active
  | suspended
  | exempt
  deriving DecidableEq, Repr

inductive WalletTransactionKind where
  | topup
  | commission
  | commissionReversal
  | adjustment
  | appCharge
  | appChargeReversal
  deriving DecidableEq, Repr

structure MerchantWallet where
  balanceCents : Int := 0
  pendingBalanceCents : Int := 0
  status : WalletStatus := .active
  deriving DecidableEq

structure WalletTransaction where
  kind : WalletTransactionKind
  amountCents : Int
  balanceAfterCents : Int
  currency : String := "EGP"
  orderId : Option UUID := none
  topupIntentId : Option UUID := none
  idempotencyKey : Option String := none
  actorUserId : Option UUID := none
  note : Option String := none
  deriving DecidableEq

/-- The arguments of `apply_entry`. -/
structure Entry where
  kind : WalletTransactionKind
  amountCents : Int
  currency : String := "EGP"
  orderId : Option UUID := none
  topupIntentId : Option UUID := none
  idempotencyKey : Option String := none
  actorUserId : Option UUID := none
  note : Option String := none
  /-- The rows that the foreign keys name exist. -/
  referencesExist : Bool := true
  deriving DecidableEq

/-- The row that an entry appends to a wallet of the given balance. -/
def Entry.transaction (entry : Entry) (balanceCents : Int) : WalletTransaction where
  kind := entry.kind
  amountCents := entry.amountCents
  balanceAfterCents := balanceCents + entry.amountCents
  currency := entry.currency
  orderId := entry.orderId
  topupIntentId := entry.topupIntentId
  idempotencyKey := entry.idempotencyKey
  actorUserId := entry.actorUserId
  note := entry.note

/-- Equal columns; a null equals nothing. -/
def sameValue {α : Type} [DecidableEq α] (left right : Option α) : Bool :=
  left.isSome && left = right

/-- Two rows of one order and kind. -/
def samePair (left right : WalletTransaction) : Bool :=
  sameValue left.orderId right.orderId && left.kind = right.kind

def sameKey (left right : WalletTransaction) : Bool :=
  sameValue left.idempotencyKey right.idempotencyKey

/-- The kinds that a partial unique index on the order covers. -/
def indexedKinds : List WalletTransactionKind := [.commission, .commissionReversal]

/-- `uq_wallet_tx_commission_order`, `uq_wallet_tx_reversal_order` and
`uq_wallet_tx_idempotency_key`. -/
def violates (row new : WalletTransaction) : Bool :=
  samePair row new && new.kind ∈ indexedKinds || sameKey row new

inductive Applied where
  /-- `WalletSuspendedError`. -/
  | suspended
  /-- `None`: an integrity error, taken for an entry that is already there. -/
  | alreadyApplied
  | applied (tx : WalletTransaction)
  deriving DecidableEq

namespace WalletService

/-- `apply_entry`, on the wallet object the locked select returned and all rows of
`wallet_transactions`. -/
def applyEntry (rows : List WalletTransaction) (wallet : MerchantWallet) (entry : Entry) :
    Applied :=
  if wallet.status = .suspended then .suspended
  else
    let tx := entry.transaction wallet.balanceCents
    if !entry.referencesExist || rows.any (violates · tx) then .alreadyApplied else .applied tx

def addPendingHold (wallet : MerchantWallet) (amountCents : Int) : MerchantWallet :=
  { wallet with pendingBalanceCents := wallet.pendingBalanceCents + amountCents }

def releasePendingHold (wallet : MerchantWallet) (amountCents : Int) : MerchantWallet :=
  { wallet with pendingBalanceCents := max 0 (wallet.pendingBalanceCents - amountCents) }

variable {rows : List WalletTransaction} {wallet : MerchantWallet} {entry : Entry}

theorem applyEntry_applied {tx : WalletTransaction}
    (ok : applyEntry rows wallet entry = .applied tx) :
    tx = entry.transaction wallet.balanceCents ∧ ∀ row ∈ rows, violates row tx = false := by
  unfold applyEntry at ok
  split at ok
  · cases ok
  · simp only at ok
    split at ok
    · cases ok
    · rename_i free
      cases ok
      simp only [Bool.or_eq_true, not_or, List.any_eq_true, not_exists, not_and] at free
      exact ⟨rfl, fun row member => eq_false_of_ne_true (free.2 row member)⟩

end WalletService
end Numu.Wallet

/-! Interleavings of `apply_entry` calls on one wallet. -/

namespace Numu.Wallet

/-- The committed rows, and what the sessions still hold of the wallet. The row lock makes a
transaction that applies entries a run of consecutive steps. -/
structure LedgerState where
  /-- The wallet's row; it is created on the first touch. -/
  wallet : Option MerchantWallet := none
  ledger : List WalletTransaction := []
  /-- Ledger rows of the other wallets, which the unique indexes cover too. -/
  others : List WalletTransaction := []
  /-- The wallet object of each session that has kept one. -/
  copies : Nat → Option MerchantWallet := fun _ => none

inductive LedgerLabel where
  /-- An unlocked select whose result the session keeps. -/
  | read (session : Nat)
  /-- The session ends, rolls back or drops its reference. -/
  | forget (session : Nat)
  | apply (session : Nat) (entry : Entry)
  | setStatus (status : WalletStatus)
  | applyElsewhere (tx : WalletTransaction)

namespace LedgerState

def row (state : LedgerState) : MerchantWallet :=
  state.wallet.getD {}

def transactions (state : LedgerState) : List WalletTransaction :=
  state.ledger ++ state.others

def hold (state : LedgerState) (session : Nat) (copy : Option MerchantWallet) : LedgerState :=
  { state with copies := Function.update state.copies session copy }

/-- What `get_or_create_wallet(for_update=True)` returns: the object that the session already
holds, with the columns it was loaded with, or else the locked row. -/
def selected (state : LedgerState) (session : Nat) : MerchantWallet :=
  (state.copies session).getD state.row

def applied (state : LedgerState) (session : Nat) (entry : Entry) : Applied :=
  WalletService.applyEntry state.transactions (state.selected session) entry

/-- The flushed row and the new balance. -/
def append (state : LedgerState) (session : Nat) (tx : WalletTransaction) : LedgerState :=
  let copy := state.selected session
  { state.hold session (some { copy with balanceCents := tx.balanceAfterCents }) with
    ledger := state.ledger ++ [tx]
    wallet := some { state.row with
      balanceCents := column copy.balanceCents tx.balanceAfterCents state.row.balanceCents } }

def step (state : LedgerState) (label : LedgerLabel) : LedgerState :=
  match label with
  | .read session =>
      match state.copies session with
      | some _ => state
      | none => state.hold session state.wallet
  | .forget session => state.hold session none
  | .apply session entry =>
      match state.applied session entry with
      | .applied tx => state.append session tx
      | _ =>
          { state.hold session (some (state.selected session)) with wallet := some state.row }
  | .setStatus status => { state with wallet := some { state.row with status := status } }
  | .applyElsewhere tx =>
      if state.transactions.any (violates · tx) then state
      else { state with others := state.others ++ [tx] }

/-- The wallet agrees with its ledger. -/
structure Consistent (state : LedgerState) : Prop where
  balance : state.row.balanceCents =
    RunningTotal.total WalletTransaction.amountCents state.ledger
  prefixes : ∀ before tx later, state.ledger = before ++ tx :: later →
    tx.balanceAfterCents = RunningTotal.total WalletTransaction.amountCents (before ++ [tx])
  pairs : state.ledger.Pairwise fun earlier later => samePair earlier later = false
  keys : state.ledger.Pairwise fun earlier later => sameKey earlier later = false

/-- A call that appends finds the stored balance in the object it uses, and no row of its
order and kind. -/
def Current (state : LedgerState) (label : LedgerLabel) : Prop :=
  match label with
  | .apply session entry =>
      match state.applied session entry with
      | .applied tx =>
          (state.selected session).balanceCents = state.row.balanceCents ∧
            ∀ row ∈ state.ledger, samePair row tx = false
      | _ => True
  | _ => True

theorem consistent_iff (state : LedgerState) : Consistent state ↔
    state.row.balanceCents = RunningTotal.total WalletTransaction.amountCents state.ledger ∧
    RunningTotal.Recorded WalletTransaction.amountCents WalletTransaction.balanceAfterCents 0
      state.ledger ∧
    state.ledger.Pairwise (fun earlier later => samePair earlier later = false) ∧
    state.ledger.Pairwise fun earlier later => sameKey earlier later = false := by
  rw [RunningTotal.recorded_iff_prefix]
  constructor
  · intro facts
    rcases facts with ⟨balance, prefixes, pairs, keys⟩
    exact ⟨balance, prefixes, pairs, keys⟩
  · intro facts
    rcases facts with ⟨balance, prefixes, pairs, keys⟩
    exact ⟨balance, prefixes, pairs, keys⟩

theorem pairwise_concat {α : Type*} {relation : α → α → Prop} {entries : List α} {entry : α} :
    (entries ++ [entry]).Pairwise relation ↔
      entries.Pairwise relation ∧ ∀ earlier ∈ entries, relation earlier entry := by
  simp [List.pairwise_append]

/-- Only an appending step reaches the ledger or the balance. -/
theorem step_kept {state : LedgerState} {label : LedgerLabel}
    (idle : ∀ session entry tx, label = .apply session entry →
      state.applied session entry ≠ .applied tx) :
    (state.step label).ledger = state.ledger ∧
      (state.step label).row.balanceCents = state.row.balanceCents := by
  cases label with
  | read session =>
      simp only [step]
      split <;> exact ⟨rfl, rfl⟩
  | forget session => exact ⟨rfl, rfl⟩
  | apply session entry =>
      simp only [step]
      split
      · rename_i tx ok
        exact absurd ok (idle session entry tx rfl)
      · exact ⟨rfl, rfl⟩
  | setStatus status => exact ⟨rfl, rfl⟩
  | applyElsewhere tx =>
      simp only [step]
      split <;> exact ⟨rfl, rfl⟩

theorem Consistent.of_kept {before after : LedgerState} (consistent : Consistent before)
    (kept : after.ledger = before.ledger ∧ after.row.balanceCents = before.row.balanceCents) :
    Consistent after := by
  obtain ⟨ledger, balance⟩ := kept
  exact ⟨by rw [balance, ledger]; exact consistent.balance, by rw [ledger]; exact consistent.prefixes,
    by rw [ledger]; exact consistent.pairs, by rw [ledger]; exact consistent.keys⟩

/-- An entry that goes through keeps the wallet consistent exactly when the session's object
was current and the pair is new. -/
theorem append_consistent_iff {state : LedgerState} (consistent : Consistent state)
    {session : Nat} {entry : Entry} {tx : WalletTransaction}
    (ok : state.applied session entry = .applied tx) :
    Consistent (state.append session tx) ↔
      (state.selected session).balanceCents = state.row.balanceCents ∧
        ∀ row ∈ state.ledger, samePair row tx = false := by
  obtain ⟨made, free⟩ := WalletService.applyEntry_applied ok
  have after : tx.balanceAfterCents = (state.selected session).balanceCents + tx.amountCents := by
    rw [made]
    rfl
  have keys : ∀ row ∈ state.ledger, sameKey row tx = false := by
    intro row member
    have clear := free row (List.mem_append_left _ member)
    simp only [violates, Bool.or_eq_false_iff] at clear
    exact clear.2
  obtain ⟨balance, recorded, pairs, apart⟩ := (consistent_iff state).mp consistent
  rw [consistent_iff]
  simp only [append, hold, pairwise_concat, RunningTotal.recorded_append,
    RunningTotal.total_append, zero_add]
  constructor
  · intro facts
    rcases facts with ⟨-, ⟨-, current⟩, ⟨-, new⟩, -⟩
    refine ⟨?_, new⟩
    omega
  · intro facts
    rcases facts with ⟨current, new⟩
    refine ⟨?_, ⟨recorded, ?_⟩, ⟨pairs, new⟩, apart, keys⟩
    · show column (state.selected session).balanceCents tx.balanceAfterCents
        state.row.balanceCents = _
      rw [current, column_current, after]
      omega
    · omega

theorem current_iff {state : LedgerState} (consistent : Consistent state) (label : LedgerLabel) :
    Consistent (state.step label) ↔ Current state label := by
  by_cases appends : ∃ session entry tx,
      label = .apply session entry ∧ state.applied session entry = .applied tx
  · obtain ⟨session, entry, tx, rfl, ok⟩ := appends
    simp only [step, Current, ok]
    exact append_consistent_iff consistent ok
  · have kept := step_kept fun session entry tx same ok =>
      appends ⟨session, entry, tx, same, ok⟩
    refine iff_of_true (consistent.of_kept kept) ?_
    cases label with
    | apply session entry =>
        simp only [Current]
        split
        · rename_i tx ok
          exact absurd ⟨session, entry, tx, rfl, ok⟩ appends
        · trivial
    | _ => trivial

end LedgerState

/-- A call that returns `None` leaves the ledger and the balance as they were, and over every
interleaving the wallet agrees with its ledger exactly when every call that appends is current. -/
theorem consistent_iff_current (labels : List LedgerLabel) :
    (∀ (state : LedgerState) session entry, state.applied session entry = .alreadyApplied →
      (state.step (.apply session entry)).ledger = state.ledger ∧
        (state.step (.apply session entry)).row.balanceCents = state.row.balanceCents) ∧
    (Run.Always LedgerState.step LedgerState.Consistent {} labels ↔
      Run.Guarded LedgerState.step LedgerState.Current {} labels) := by
  refine ⟨fun state session entry already => ?_, ?_⟩
  · apply LedgerState.step_kept
    intro session entry tx equal ok
    cases equal
    rw [already] at ok
    cases ok
  · apply Run.always_iff_guarded (I := LedgerState.Consistent)
    · exact fun state label consistent current =>
        (LedgerState.current_iff consistent label).mpr current
    · exact fun state consistent => consistent
    · exact fun state label consistent next =>
        (LedgerState.current_iff consistent label).mp next
    · exact (LedgerState.consistent_iff {}).mpr ⟨rfl, trivial, .nil, .nil⟩

/-- A commission whose session read the wallet before another session's top-up. -/
def commissionAfterTopup : List LedgerLabel :=
  [.apply 0 { kind := .topup, amountCents := 10000, idempotencyKey := some "proof:1" },
    .forget 0,
    .read 1,
    .apply 0 { kind := .topup, amountCents := 5000, idempotencyKey := some "proof:2" },
    .apply 1 { kind := .commission, amountCents := -300, orderId := some 7 }]

/-- The second top-up is in the ledger and not in the balance. -/
theorem commission_loses_topup :
    ¬ Run.Always LedgerState.step LedgerState.Consistent {} commissionAfterTopup := by
  intro always
  exact absurd always.last.balance (by decide)

end Numu.Wallet
