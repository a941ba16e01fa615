import Numu.GiftCards.Ledger

/-! Voided gift cards. -/

namespace Numu.GiftCards
open Numu.Orders (UUID Time)

/-- A card that is VOIDED. -/
def Voided (tables : GiftCardTables) (id : UUID) (card : GiftCard) : Prop :=
  tables.cards.get? id = some card ∧ card.status = .voided

def VoidedEmpty (tables : GiftCardTables) : Prop :=
  ∀ id card, Voided tables id card → card.currentBalanceCents = 0

/-- Once a card is VOIDED its balance is zero, and its balance and its status stay. -/
def VoidedTerminal (labels : List GiftCardLabel) : Prop :=
  ∀ before later, (∃ rest, labels = before ++ later ++ rest) →
    ∀ id card, Voided (Run.run GiftCardState.step {} before).tables id card →
      card.currentBalanceCents = 0 ∧
        ∃ last, (Run.run GiftCardState.step {} (before ++ later)).tables.cards.get? id = some last ∧
          last.status = card.status ∧ last.currentBalanceCents = card.currentBalanceCents

section Steps
variable {tables after : GiftCardTables} {card : GiftCard} {movement : Movement}

theorem GiftCard.moved_voided {row : GiftCard} (voided : row.status = .voided)
    (kind : TransactionKind) (newBalance : Int) : (row.moved kind newBalance).status = .voided := by
  simp [GiftCard.moved, voided]

/-- Only a void makes a card VOIDED. -/
theorem GiftCard.moved_status {row : GiftCard} {kind : TransactionKind} {newBalance : Int}
    (voided : (row.moved kind newBalance).status = .voided) :
    kind = .void ∨ row.status = .voided := by
  rw [GiftCard.moved] at voided
  simp only at voided
  split at voided
  · rename_i void
    exact .inl void
  · split at voided
    · cases voided
    · split at voided
      · cases voided
      · exact .inr voided

theorem record_voided {row : GiftCard} (found : tables.cards.get? movement.giftCardId = some row)
    {id : UUID} (voided : Voided tables id card) :
    ∃ next, Voided (tables.record movement row) id next := by
  rcases voided with ⟨present, status⟩
  by_cases here : id = movement.giftCardId
  · rw [here, found] at present
    cases present
    refine ⟨_, ?_, GiftCard.moved_voided status movement.kind
      (card.currentBalanceCents + movement.amountCents)⟩
    rw [GiftCardTables.get?_record, if_pos here]
  · refine ⟨card, ?_, status⟩
    rw [GiftCardTables.get?_record, if_neg here]
    exact present

theorem VoidedEmpty.record (empty : VoidedEmpty tables) {row : GiftCard}
    (zeroed : (row.moved movement.kind
        (row.currentBalanceCents + movement.amountCents)).status = .voided →
      row.currentBalanceCents + movement.amountCents ≤ 0) :
    VoidedEmpty (tables.record movement row) := by
  intro id card facts
  rcases facts with ⟨present, status⟩
  rw [GiftCardTables.get?_record] at present
  split at present
  · cases present
    exact max_eq_left (zeroed status)
  · exact empty id card ⟨present, status⟩

theorem transaction_voided
    (ok : GiftCardRepository.applyTransaction movement tables = .ok card after) {id : UUID}
    {old : GiftCard} (voided : Voided tables id old) : ∃ next, Voided after id next := by
  rcases applyTransaction_ok ok with ⟨row, found, -, -, rfl⟩
  exact record_voided found voided

theorem issue_voided {request : IssueRequest}
    (ok : GiftCardService.issue request tables = .ok card after) {id : UUID} {old : GiftCard}
    (voided : Voided tables id old) : ∃ next, Voided after id next := by
  rcases issue_ok ok with ⟨-, absent, codeHash, rfl⟩
  have lookup (id : UUID) := Table.get?_set tables.cards request.id (request.card codeHash) id
  apply record_voided
  · rw [lookup]
    exact if_pos rfl
  · rcases voided with ⟨present, status⟩
    have apart : id ≠ request.id := by
      intro same
      rcases same with rfl
      rw [absent] at present
      cases present
    refine ⟨?_, status⟩
    rw [lookup, if_neg apart]
    exact present

end Steps

namespace GiftCardState
variable {state : GiftCardState}

/-- No operation takes a card out of VOIDED. -/
theorem step_voided {id : UUID} {card : GiftCard} (voided : Voided state.tables id card)
    (label : GiftCardLabel) : ∃ next, Voided (state.step label).tables id next := by
  cases called : state.operation label state.tables with
  | error error after =>
      rw [step_error called]
      exact ⟨card, voided⟩
  | ok result after =>
      rw [step, called]
      cases label with
      | issue request =>
          rcases map_ok called with ⟨card, ok⟩
          exact issue_voided ok voided
      | getById session giftCardId =>
          cases called
          exact ⟨card, voided⟩
      | redeem session request now =>
          rcases map_ok called with ⟨card, ok⟩
          exact transaction_voided (redeem_ok ok).2.2 voided
      | refund request =>
          rcases map_ok called with ⟨card, ok⟩
          exact transaction_voided (refund_ok ok).2 voided
      | void session request =>
          rcases map_ok called with ⟨card, ok⟩
          rcases void_ok ok with ⟨read, -, applied⟩
          exact transaction_voided applied voided

theorem run_voided {id : UUID} {card : GiftCard} (voided : Voided state.tables id card)
    (labels : List GiftCardLabel) :
    ∃ last, Voided (Run.run step state labels).tables id last := by
  induction labels generalizing state card with
  | nil => exact ⟨card, voided⟩
  | cons label rest ih =>
      rcases step_voided voided label with ⟨next, kept⟩
      exact ih kept

/-- A refund that goes through finds a card that is not VOIDED, and a void finds no more on
the card than it had read. -/
def Clean (state : GiftCardState) : GiftCardLabel → Prop
  | .refund request =>
      0 < request.amountCents → request.flushes = true →
        ∀ row, state.tables.cards.get? request.giftCardId = some row → row.status ≠ .voided
  | .void session request =>
      request.flushes = true → ∀ read, state.copy session request.giftCardId = some read →
        ∀ row, state.tables.cards.get? request.giftCardId = some row →
          row.currentBalanceCents ≤ max 0 read.currentBalanceCents
  | _ => True

theorem VoidRequest.left (request : VoidRequest) (read : Int) :
    (request.movement read).amountCents = -max 0 read := by
  simp only [VoidRequest.movement]
  split <;> omega

theorem step_empty (empty : VoidedEmpty state.tables)
    {label : GiftCardLabel} (clean : Clean state label) : VoidedEmpty (state.step label).tables := by
  cases called : state.operation label state.tables with
  | error error after =>
      rw [step_error called]
      exact empty
  | ok result after =>
      rw [step, called]
      cases label with
      | issue request =>
          rcases map_ok called with ⟨card, ok⟩
          rcases issue_ok ok with ⟨-, absent, codeHash, rfl⟩
          apply VoidedEmpty.record
          · intro id card facts
            rcases facts with ⟨present, status⟩
            rw [Table.get?_set] at present
            split at present
            · cases present
              cases status
            · exact empty id card ⟨present, status⟩
          · intro voided
            rcases GiftCard.moved_status voided with void | void <;> cases void
      | getById session giftCardId =>
          cases called
          exact empty
      | redeem session request now =>
          rcases map_ok called with ⟨card, ok⟩
          rcases redeem_ok ok with ⟨positive, -, applied⟩
          rcases applyTransaction_ok applied with ⟨row, found, covered, -, rfl⟩
          apply empty.record
          intro voided
          rcases GiftCard.moved_status voided with void | voidedRow
          · cases void
          · have nothing := empty _ row ⟨found, voidedRow⟩
            rw [nothing]
            simp only [RedeemRequest.movement]
            omega
      | refund request =>
          rcases map_ok called with ⟨card, ok⟩
          rcases refund_ok ok with ⟨positive, applied⟩
          rcases applyTransaction_ok applied with ⟨row, found, -, flushes, rfl⟩
          apply empty.record
          intro voided
          rcases GiftCard.moved_status voided with void | voidedRow
          · cases void
          · exact absurd voidedRow (clean positive flushes row found)
      | void session request =>
          rcases map_ok called with ⟨card, ok⟩
          rcases void_ok ok with ⟨read, copied, applied⟩
          rcases applyTransaction_ok applied with ⟨row, found, -, flushes, rfl⟩
          apply empty.record
          intro _
          have bounded := clean flushes read copied row found
          rw [VoidRequest.left]
          omega

theorem step_refund {request : RefundRequest} {row : GiftCard}
    (positive : 0 < request.amountCents) (flushes : request.flushes = true)
    (found : state.tables.cards.get? request.giftCardId = some row)
    (nonneg : 0 ≤ row.currentBalanceCents) :
    (state.step (.refund request)).tables = state.tables.record request.movement row := by
  have credited : 0 ≤ row.currentBalanceCents + request.movement.amountCents := by
    simp only [RefundRequest.movement]
    omega
  have applied : GiftCardRepository.applyTransaction request.movement state.tables = _ :=
    applyTransaction_covered found credited flushes
  have called : state.operation (.refund request) state.tables =
      (some <$> GiftCardRepository.applyTransaction request.movement) state.tables := by
    rw [operation, GiftCardService.refund, if_neg (by omega)]
  rw [step, called, map_eq applied]
  rfl

theorem step_void {session : Nat} {request : VoidRequest} {read row : GiftCard}
    (copied : state.copy session request.giftCardId = some read)
    (flushes : request.flushes = true)
    (found : state.tables.cards.get? request.giftCardId = some row)
    (covered : max 0 read.currentBalanceCents ≤ row.currentBalanceCents) :
    (state.step (.void session request)).tables =
      state.tables.record (request.movement read.currentBalanceCents) row := by
  have left_ := VoidRequest.left request read.currentBalanceCents
  have debited : 0 ≤ row.currentBalanceCents +
      (request.movement read.currentBalanceCents).amountCents := by omega
  have applied : GiftCardRepository.applyTransaction
      (request.movement read.currentBalanceCents) state.tables = _ :=
    applyTransaction_covered found debited flushes
  have called : state.operation (.void session request) state.tables =
      (some <$> GiftCardRepository.applyTransaction (request.movement read.currentBalanceCents))
        state.tables := by
    rw [operation, copied]
    rfl
  rw [step, called, map_eq applied]
  rfl

/-- Outside the guard a VOIDED card is left with money on it. -/
theorem clean_of_empty (balanced : Balanced state.tables) (empty : VoidedEmpty state.tables)
    {label : GiftCardLabel} (after : VoidedEmpty (state.step label).tables) :
    Clean state label := by
  cases label with
  | refund request =>
      intro positive flushes row found voided
      have nothing := empty _ row ⟨found, voided⟩
      rw [step_refund positive flushes found (balanced.nonneg _ row found)] at after
      have left_ := after request.giftCardId _
        ⟨(GiftCardTables.get?_record ..).trans (if_pos rfl), GiftCard.moved_voided voided _ _⟩
      simp only [GiftCard.moved, RefundRequest.movement] at left_
      omega
  | void session request =>
      intro flushes read copied row found
      by_contra more
      rw [step_void copied flushes found (by omega)] at after
      have left_ := after request.giftCardId _
        ⟨(GiftCardTables.get?_record ..).trans (if_pos rfl), rfl⟩
      have amount := VoidRequest.left request read.currentBalanceCents
      simp only [GiftCard.moved] at left_
      omega
  | _ => trivial

end GiftCardState

/-- VOIDED is terminal on a run exactly when no VOIDED card keeps or gets a balance in it. -/
theorem voidedTerminal_iff_empty (labels : List GiftCardLabel) :
    VoidedTerminal labels ↔
      Run.Always GiftCardState.step (fun state => VoidedEmpty state.tables) {} labels := by
  rw [Run.always_iff_prefixes]
  constructor
  · intro terminal before rest split_ id card voided
    have here := terminal before [] ⟨rest, by rw [split_, List.append_nil]⟩ id card voided
    exact here.1
  · intro empty before later part id card voided
    rcases part with ⟨rest, split_⟩
    have now := empty before (later ++ rest) (by rw [split_, List.append_assoc]) id card voided
    rcases GiftCardState.run_voided voided later with ⟨last, kept⟩
    rw [← Run.run_append] at kept
    have then_ := empty (before ++ later) rest split_ id last kept
    exact ⟨now, last, kept.1, kept.2.trans voided.2.symm, then_.trans now.symm⟩

/-- VOIDED is terminal on exactly the runs where a refund that goes through finds a card that is
not VOIDED, and a void finds no more on the card than it had read. -/
theorem voidedTerminal_iff_clean (labels : List GiftCardLabel) :
    VoidedTerminal labels ↔
      Run.Guarded GiftCardState.step GiftCardState.Clean {} labels := by
  rw [voidedTerminal_iff_empty]
  apply Run.always_iff_guarded
    (I := fun state => Balanced state.tables ∧ VoidedEmpty state.tables)
  · intro state label facts clean
    rcases facts with ⟨balanced, empty⟩
    exact ⟨GiftCardState.step_balanced balanced label, GiftCardState.step_empty empty clean⟩
  · exact fun state kept => kept.2
  · exact fun state label kept after => GiftCardState.clean_of_empty kept.1 kept.2 after
  · exact ⟨balanced_empty, fun _ _ voided => by cases voided.1⟩

/-- A void that read the card before an order's refund came back to it. -/
def voidAroundRefund : List GiftCardLabel :=
  [.issue { id := 1, tenantId := 2, storeId := 3, amountCents := 100, codeHash := some "a1" },
    .getById 0 1,
    .redeem 0 { giftCardId := 1, amountCents := 50, orderId := 7 } 0,
    .getById 1 1,
    .refund { giftCardId := 1, amountCents := 50, orderId := 7 },
    .void 1 { giftCardId := 1 }]

/-- The card ends VOIDED with 50 on it. -/
theorem void_leaves_balance : ¬ VoidedTerminal voidAroundRefund := by
  rw [voidedTerminal_iff_empty]
  intro empty
  have last := empty.last 1 _ ⟨rfl, rfl⟩
  exact absurd last (by decide)

end Numu.GiftCards
