import Numu.Foundation.Run
import Numu.GiftCards.GiftCardService

/-! Interleavings of issues, redemptions, refunds and voids. -/

namespace Numu.GiftCards
open Numu.Orders (UUID Time)

structure GiftCardState where
  tables : GiftCardTables := {}
  /-- What the unlocked `get_by_id` of each session's operation returned. -/
  fetched : Nat → Option GiftCard := fun _ => none

/-- An operation after its `get_by_id` is one step, which ends when it commits: from its
locking select on, nobody else reaches the card. -/
inductive GiftCardLabel where
  | issue (request : IssueRequest)
  | getById (session : Nat) (giftCardId : UUID)
  | redeem (session : Nat) (request : RedeemRequest) (now : Time)
  | refund (request : RefundRequest)
  | void (session : Nat) (request : VoidRequest)

namespace GiftCardState

/-- The copy that the session has read of this card. -/
def copy (state : GiftCardState) (session : Nat) (giftCardId : UUID) : Option GiftCard :=
  (state.fetched session).filter fun card => card.id = giftCardId

def operation (state : GiftCardState) (label : GiftCardLabel) : GiftCardSession (Option GiftCard) :=
  match label with
  | .issue request => some <$> GiftCardService.issue request
  | .getById _ giftCardId => return state.tables.cards.get? giftCardId
  | .redeem session request now =>
      some <$> GiftCardService.redeem request (state.copy session request.giftCardId) now
  | .refund request => some <$> GiftCardService.refund request
  | .void session request =>
      some <$> GiftCardService.void request (state.copy session request.giftCardId)

/-- The rows after the operation. A failed flush rolls its transaction back; after any other
exception the caller may still commit. -/
def settle (before : GiftCardTables) :
    EStateM.Result GiftCardError GiftCardTables (Option GiftCard) → GiftCardTables
  | .ok _ after => after
  | .error .database _ => before
  | .error _ after => after

/-- An operation reads once; its copy goes with it. -/
def fetchedAfter (state : GiftCardState) : GiftCardLabel → Nat → Option GiftCard
  | .getById session giftCardId =>
      Function.update state.fetched session (state.tables.cards.get? giftCardId)
  | .redeem session _ _ => Function.update state.fetched session none
  | .void session _ => Function.update state.fetched session none
  | _ => state.fetched

def step (state : GiftCardState) (label : GiftCardLabel) : GiftCardState where
  tables := settle state.tables (state.operation label state.tables)
  fetched := state.fetchedAfter label

end GiftCardState

/-- The cards agree with the ledger. -/
structure Balanced (tables : GiftCardTables) : Prop where
  keyed : ∀ id card, tables.cards.get? id = some card → card.id = id
  balance : ∀ id card, tables.cards.get? id = some card →
    card.currentBalanceCents = tables.ledgerBalance id
  nonneg : ∀ id card, tables.cards.get? id = some card → 0 ≤ card.currentBalanceCents
  owned : ∀ tx ∈ tables.transactions, (tables.cards.get? tx.giftCardId).isSome

namespace GiftCardTables
variable {tables after : GiftCardTables}

theorem ledgerBalance_append (tables : GiftCardTables) (cards : Table UUID GiftCard)
    (tx : GiftCardTransaction) (id : UUID) :
    ledgerBalance ⟨cards, tables.transactions ++ [tx]⟩ id =
      tables.ledgerBalance id + if tx.giftCardId = id then tx.amountCents else 0 := by
  rw [ledgerBalance, List.filter_append, ledgerBalance]
  by_cases mine : tx.giftCardId = id
  · rw [List.filter_cons_of_pos (by simpa using mine), List.filter_nil, if_pos mine,
      RunningTotal.total_append]
  · rw [List.filter_cons_of_neg (by simpa using mine), List.filter_nil, if_neg mine,
      List.append_nil, add_zero]

theorem ledgerBalance_unlisted (balanced : Balanced tables) {id : UUID}
    (absent : tables.cards.get? id = none) : tables.ledgerBalance id = 0 := by
  have none_ : (tables.transactions.filter fun tx => tx.giftCardId = id) = [] := by
    apply List.filter_eq_nil_iff.mpr
    intro tx member mine
    have owner := balanced.owned tx member
    rw [of_decide_eq_true mine, absent] at owner
    cases owner
  rw [ledgerBalance, none_]
  rfl

end GiftCardTables

section Steps
variable {tables after : GiftCardTables} {card : GiftCard}

/-- A movement without debt keeps the cards in agreement with the ledger. -/
theorem Balanced.record (balanced : Balanced tables) {movement : Movement} {row : GiftCard}
    (found : tables.cards.get? movement.giftCardId = some row)
    (covered : 0 ≤ row.currentBalanceCents + movement.amountCents) :
    Balanced (tables.record movement row) := by
  have key := balanced.keyed _ _ found
  have lookup := tables.get?_record movement row
  have sum (id : UUID) : (tables.record movement row).ledgerBalance id =
      tables.ledgerBalance id + if row.id = id then movement.amountCents else 0 :=
    GiftCardTables.ledgerBalance_append _ _ _ _
  constructor
  · intro id card present
    rw [lookup] at present
    split at present
    · rename_i here
      cases present
      rw [here]
      exact key
    · exact balanced.keyed id card present
  · intro id card present
    rw [lookup] at present
    rw [sum]
    split at present
    · rename_i here
      cases present
      rw [here, if_pos key, ← balanced.balance _ _ found]
      exact max_eq_right covered
    · rename_i apart
      rw [if_neg fun same => apart (same.symm.trans key), add_zero]
      exact balanced.balance id card present
  · intro id card present
    rw [lookup] at present
    split at present
    · cases present
      exact le_max_left 0 _
    · exact balanced.nonneg id card present
  · intro tx member
    rw [lookup]
    split
    · rfl
    · rename_i apart
      rcases List.mem_append.mp member with earlier | here
      · exact balanced.owned tx earlier
      · rw [List.mem_singleton] at here
        subst here
        exact absurd key apart

theorem Balanced.transaction (balanced : Balanced tables) {movement : Movement}
    (strict : movement.allowNegative = false)
    (ok : GiftCardRepository.applyTransaction movement tables = .ok card after) :
    Balanced after := by
  rcases applyTransaction_ok ok with ⟨row, found, covered, -, rfl⟩
  apply balanced.record found
  rcases covered with covered | debt
  · exact covered
  · rw [strict] at debt
    cases debt

theorem Balanced.issue (balanced : Balanced tables) {request : IssueRequest}
    (ok : GiftCardService.issue request tables = .ok card after) : Balanced after := by
  rcases issue_ok ok with ⟨positive, absent, codeHash, rfl⟩
  have lookup (id : UUID) := Table.get?_set tables.cards request.id (request.card codeHash) id
  have created : Balanced
      { tables with cards := tables.cards.set request.id (request.card codeHash) } := by
    constructor
    · intro id card present
      simp only [lookup] at present
      split at present
      · rename_i here
        cases present
        exact here.symm
      · exact balanced.keyed id card present
    · intro id card present
      simp only [lookup] at present
      split at present
      · rename_i here
        cases present
        rw [here]
        exact (GiftCardTables.ledgerBalance_unlisted balanced absent).symm
      · exact balanced.balance id card present
    · intro id card present
      simp only [lookup] at present
      split at present
      · cases present
        exact le_refl 0
      · exact balanced.nonneg id card present
    · intro tx member
      simp only [lookup]
      split
      · rfl
      · exact balanced.owned tx member
  apply created.record
  · rw [lookup]
    exact if_pos rfl
  · change 0 ≤ 0 + request.amountCents
    omega

end Steps

namespace GiftCardState

/-- What an operation returns comes from one service call. -/
theorem map_ok {call : GiftCardSession GiftCard} {tables after : GiftCardTables}
    {result : Option GiftCard} (ok : (some <$> call) tables = .ok result after) :
    ∃ card, call tables = .ok card after := by
  change EStateM.map some call tables = _ at ok
  rw [EStateM.map] at ok
  cases called : call tables with
  | ok card mid =>
      rw [called] at ok
      cases ok
      exact ⟨card, rfl⟩
  | error e mid =>
      rw [called] at ok
      cases ok

theorem map_eq {call : GiftCardSession GiftCard} {tables after : GiftCardTables} {card : GiftCard}
    (called : call tables = .ok card after) :
    (some <$> call) tables = .ok (some card) after := by
  change EStateM.map some call tables = _
  rw [EStateM.map, called]

theorem map_error {call : GiftCardSession GiftCard} {tables after : GiftCardTables}
    {error : GiftCardError} (raised : (some <$> call) tables = .error error after) :
    call tables = .error error after := by
  change EStateM.map some call tables = _ at raised
  rw [EStateM.map] at raised
  cases called : call tables with
  | ok card mid =>
      rw [called] at raised
      cases raised
  | error e mid =>
      rw [called] at raised
      cases raised
      rfl

variable {state : GiftCardState} {label : GiftCardLabel} {after : GiftCardTables}

theorem operation_balanced {result : Option GiftCard} (balanced : Balanced state.tables)
    (ok : state.operation label state.tables = .ok result after) : Balanced after := by
  cases label with
  | issue request =>
      rcases map_ok ok with ⟨card, called⟩
      exact balanced.issue called
  | getById session id =>
      cases ok
      exact balanced
  | redeem session request now =>
      rcases map_ok ok with ⟨card, called⟩
      exact balanced.transaction rfl (redeem_ok called).2.2
  | refund request =>
      rcases map_ok ok with ⟨card, called⟩
      exact balanced.transaction rfl (refund_ok called).2
  | void session request =>
      rcases map_ok ok with ⟨card, called⟩
      rcases void_ok called with ⟨read, -, applied⟩
      exact balanced.transaction rfl applied

theorem operation_error {error : GiftCardError}
    (raised : state.operation label state.tables = .error error after) :
    error = .database ∨ after = state.tables := by
  cases label with
  | issue request => exact issue_error (map_error raised)
  | getById session id => cases raised
  | redeem session request now => exact redeem_error (map_error raised)
  | refund request => exact refund_error (map_error raised)
  | void session request => exact void_error (map_error raised)

theorem settle_error {tables : GiftCardTables} {error : GiftCardError}
    (unwritten : error = .database ∨ after = tables) :
    settle tables (.error error after) = tables := by
  cases error with
  | database => rfl
  | _ =>
      rcases unwritten with impossible | same
      · cases impossible
      · exact same

theorem step_error {error : GiftCardError}
    (raised : state.operation label state.tables = .error error after) :
    (state.step label).tables = state.tables := by
  rw [step, raised]
  exact settle_error (operation_error raised)

theorem step_balanced (balanced : Balanced state.tables) (label : GiftCardLabel) :
    Balanced (state.step label).tables := by
  cases called : state.operation label state.tables with
  | ok result after =>
      rw [step, called]
      exact operation_balanced balanced called
  | error error after =>
      rw [step_error called]
      exact balanced

end GiftCardState

theorem balanced_empty : Balanced {} where
  keyed := fun _ _ absent => by cases absent
  balance := fun _ _ absent => by cases absent
  nonneg := fun _ _ absent => by cases absent
  owned := fun _ absent => by cases absent

/-- Over every interleaving each card's balance is the sum of its transactions and never
negative, and an operation that raises leaves the cards and the ledger as they were. -/
theorem ledger_balanced (labels : List GiftCardLabel) :
    Run.Always GiftCardState.step (fun state => Balanced state.tables) {} labels ∧
      ∀ (state : GiftCardState) label error after,
        state.operation label state.tables = .error error after →
          (state.step label).tables = state.tables := by
  constructor
  · apply Run.always_of_invariant
    · exact fun state label balanced => GiftCardState.step_balanced balanced label
    · exact balanced_empty
  · exact fun state label error after raised => GiftCardState.step_error raised

end Numu.GiftCards
