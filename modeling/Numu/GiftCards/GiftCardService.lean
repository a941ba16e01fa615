import Numu.Foundation.Outcome
import Numu.Foundation.Journal
import Numu.Foundation.Table
import Numu.Orders.Order

/-! Gift cards, the ledger of their movements and `GiftCardService`. -/

namespace Numu.GiftCards
open Numu.Orders (UUID Time)
open Numu.Outcome (session_ok session_error)

inductive GiftCardStatus where
  | active
  | depleted
  | expired
  | voided
  deriving DecidableEq, Repr

inductive TransactionKind where
  | issue
  | redeem
  | refund
  | adjust
  | void
  deriving DecidableEq, Repr

structure GiftCard where
  id : UUID
  tenantId : UUID
  storeId : UUID
  codeHash : String
  initialBalanceCents : Int
  currentBalanceCents : Int
  currency : String
  status : GiftCardStatus := .active
  customerId : Option UUID := none
  issuedByUserId : Option UUID := none
  issuingOrderId : Option UUID := none
  expiresAt : Option Time := none
  note : Option String := none
  deriving DecidableEq

structure GiftCardTransaction where
  tenantId : UUID
  storeId : UUID
  giftCardId : UUID
  kind : TransactionKind
  amountCents : Int
  orderId : Option UUID := none
  actorUserId : Option UUID := none
  actorCustomerId : Option UUID := none
  note : Option String := none
  deriving DecidableEq

structure GiftCardTables where
  cards : Table UUID GiftCard := .empty
  transactions : List GiftCardTransaction := []

/-- What the calls raise, with what their texts show. -/
inductive GiftCardError where
  /-- "Gift card initial balance must be > 0". -/
  | initialBalanceNotPositive
  /-- "Gift card code generation failed (3 collisions)". -/
  | codeCollisions
  /-- "Redemption amount must be > 0". -/
  | redemptionNotPositive
  /-- "Refund amount must be > 0". -/
  | refundNotPositive
  | notFound (giftCardId : UUID)
  | balanceInsufficient (available requested : Int)
  | notRedeemable (status : GiftCardStatus) (balance : Int) (expiresAt : Option Time)
  | redemptionExceeds (amountCents balance : Int)
  /-- The flush fails in the database. -/
  | database
  deriving DecidableEq

/-- An exception leaves behind what the call had written until then. -/
abbrev GiftCardSession := EStateM GiftCardError GiftCardTables

namespace GiftCard

def isRedeemable (card : GiftCard) (now : Time) : Bool :=
  card.status = .active && 0 < card.currentBalanceCents &&
    match card.expiresAt with
    | none => true
    | some expiresAt => now < expiresAt

/-- The row with a new balance, and the status that the balance brings. -/
def moved (card : GiftCard) (kind : TransactionKind) (newBalance : Int) : GiftCard :=
  let balance := max 0 newBalance
  { card with
    currentBalanceCents := balance
    status :=
      if kind = .void then .voided
      else if balance = 0 ∧ card.status = .active then .depleted
      else if card.status = .depleted ∧ 0 < balance then .active
      else card.status }

end GiftCard

/-- The arguments of `apply_transaction`. -/
structure Movement where
  giftCardId : UUID
  kind : TransactionKind
  amountCents : Int
  orderId : Option UUID := none
  actorUserId : Option UUID := none
  actorCustomerId : Option UUID := none
  note : Option String := none
  allowNegative : Bool := false
  /-- The database takes the flush: the rows that it names exist, the amounts fit. -/
  flushes : Bool := true

def Movement.transaction (movement : Movement) (row : GiftCard) : GiftCardTransaction where
  tenantId := row.tenantId
  storeId := row.storeId
  giftCardId := row.id
  kind := movement.kind
  amountCents := movement.amountCents
  orderId := movement.orderId
  actorUserId := movement.actorUserId
  actorCustomerId := movement.actorCustomerId
  note := movement.note

namespace GiftCardTables

/-- The sum of the card's transaction amounts. -/
def ledgerBalance (tables : GiftCardTables) (giftCardId : UUID) : Int :=
  RunningTotal.total GiftCardTransaction.amountCents
    (tables.transactions.filter fun tx => tx.giftCardId = giftCardId)

/-- What `apply_transaction` flushes. -/
def record (tables : GiftCardTables) (movement : Movement) (row : GiftCard) : GiftCardTables where
  cards := tables.cards.set movement.giftCardId
    (row.moved movement.kind (row.currentBalanceCents + movement.amountCents))
  transactions := tables.transactions ++ [movement.transaction row]

theorem get?_record (tables : GiftCardTables) (movement : Movement) (row : GiftCard) (id : UUID) :
    (tables.record movement row).cards.get? id =
      if id = movement.giftCardId then
        some (row.moved movement.kind (row.currentBalanceCents + movement.amountCents))
      else tables.cards.get? id := Table.get?_set _ _ _ _

end GiftCardTables

namespace GiftCardRepository

/-- The insert, with balance 0. -/
def create (card : GiftCard) (flushes : Bool) : GiftCardSession GiftCard := do
  let tables ← get
  if (tables.cards.get? card.id).isSome || !flushes then throw .database
  else
    set { tables with cards := tables.cards.set card.id card }
    return card

/-- Its select locks the row and finds what was last committed. -/
def applyTransaction (movement : Movement) : GiftCardSession GiftCard := do
  let tables ← get
  match tables.cards.get? movement.giftCardId with
  | none => throw (.notFound movement.giftCardId)
  | some row =>
      let newBalance := row.currentBalanceCents + movement.amountCents
      if newBalance < 0 ∧ movement.allowNegative = false then
        throw (.balanceInsufficient row.currentBalanceCents |movement.amountCents|)
      else
        set (tables.record movement row)
        if movement.flushes then return row.moved movement.kind newBalance
        else throw .database

end GiftCardRepository

structure IssueRequest where
  /-- The row's key, drawn by the database model. -/
  id : UUID
  tenantId : UUID
  storeId : UUID
  amountCents : Int
  currency : String := "EGP"
  customerId : Option UUID := none
  issuedByUserId : Option UUID := none
  issuingOrderId : Option UUID := none
  expiresAt : Option Time := none
  note : Option String := none
  /-- The hash of the first of three codes that no card has. -/
  codeHash : Option String
  flushes : Bool := true

structure RedeemRequest where
  giftCardId : UUID
  amountCents : Int
  orderId : UUID
  actorCustomerId : Option UUID := none
  flushes : Bool := true

structure RefundRequest where
  giftCardId : UUID
  amountCents : Int
  orderId : UUID
  note : Option String := none
  flushes : Bool := true

structure VoidRequest where
  giftCardId : UUID
  actorUserId : Option UUID := none
  note : Option String := none
  flushes : Bool := true

def IssueRequest.card (request : IssueRequest) (codeHash : String) : GiftCard where
  id := request.id
  tenantId := request.tenantId
  storeId := request.storeId
  codeHash := codeHash
  initialBalanceCents := request.amountCents
  currentBalanceCents := 0
  currency := request.currency
  customerId := request.customerId
  issuedByUserId := request.issuedByUserId
  issuingOrderId := request.issuingOrderId
  expiresAt := request.expiresAt
  note := request.note

def IssueRequest.movement (request : IssueRequest) : Movement where
  giftCardId := request.id
  kind := .issue
  amountCents := request.amountCents
  actorUserId := request.issuedByUserId
  note := some s!"issued: {request.amountCents} {request.currency}"
  flushes := request.flushes

def RedeemRequest.movement (request : RedeemRequest) : Movement where
  giftCardId := request.giftCardId
  kind := .redeem
  amountCents := -request.amountCents
  orderId := some request.orderId
  actorCustomerId := request.actorCustomerId
  flushes := request.flushes

def RefundRequest.movement (request : RefundRequest) : Movement where
  giftCardId := request.giftCardId
  kind := .refund
  amountCents := request.amountCents
  orderId := some request.orderId
  note := request.note
  flushes := request.flushes

/-- `note or "voided by merchant"`. -/
def VoidRequest.noteText (request : VoidRequest) : String :=
  match request.note with
  | none => "voided by merchant"
  | some note => if note = "" then "voided by merchant" else note

def VoidRequest.movement (request : VoidRequest) (remaining : Int) : Movement where
  giftCardId := request.giftCardId
  kind := .void
  amountCents := if remaining > 0 then -remaining else 0
  actorUserId := request.actorUserId
  note := some request.noteText
  flushes := request.flushes

namespace GiftCardService

def issue (request : IssueRequest) : GiftCardSession GiftCard :=
  if request.amountCents ≤ 0 then throw .initialBalanceNotPositive
  else
    match request.codeHash with
    | none => throw .codeCollisions
    | some codeHash => do
        let _ ← GiftCardRepository.create (request.card codeHash) request.flushes
        GiftCardRepository.applyTransaction request.movement

/-- `card` is what its `get_by_id` returned. -/
def redeem (request : RedeemRequest) (card : Option GiftCard) (now : Time) :
    GiftCardSession GiftCard :=
  if request.amountCents ≤ 0 then throw .redemptionNotPositive
  else
    match card with
    | none => throw (.notFound request.giftCardId)
    | some card =>
        if !card.isRedeemable now then
          throw (.notRedeemable card.status card.currentBalanceCents card.expiresAt)
        else if request.amountCents > card.currentBalanceCents then
          throw (.redemptionExceeds request.amountCents card.currentBalanceCents)
        else GiftCardRepository.applyTransaction request.movement

def refund (request : RefundRequest) : GiftCardSession GiftCard :=
  if request.amountCents ≤ 0 then throw .refundNotPositive
  else GiftCardRepository.applyTransaction request.movement

/-- `card` is what its `get_by_id` returned, without a lock. -/
def void (request : VoidRequest) (card : Option GiftCard) : GiftCardSession GiftCard :=
  match card with
  | none => throw (.notFound request.giftCardId)
  | some card => GiftCardRepository.applyTransaction (request.movement card.currentBalanceCents)

end GiftCardService

section Spec
variable {tables after : GiftCardTables} {card row : GiftCard} {movement : Movement}
  {error : GiftCardError}

theorem applyTransaction_missing (missing : tables.cards.get? movement.giftCardId = none) :
    GiftCardRepository.applyTransaction movement tables =
      .error (.notFound movement.giftCardId) tables := by
  unfold GiftCardRepository.applyTransaction
  rw [Outcome.session_get, missing]
  rfl

theorem applyTransaction_found (found : tables.cards.get? movement.giftCardId = some row) :
    GiftCardRepository.applyTransaction movement tables =
      if row.currentBalanceCents + movement.amountCents < 0 ∧ movement.allowNegative = false then
        .error (.balanceInsufficient row.currentBalanceCents |movement.amountCents|) tables
      else if movement.flushes then
        .ok (row.moved movement.kind (row.currentBalanceCents + movement.amountCents))
          (tables.record movement row)
      else .error .database (tables.record movement row) := by
  unfold GiftCardRepository.applyTransaction
  rw [Outcome.session_get, found]
  simp only
  split
  · rfl
  · cases movement.flushes <;> rfl

theorem applyTransaction_covered (found : tables.cards.get? movement.giftCardId = some row)
    (covered : 0 ≤ row.currentBalanceCents + movement.amountCents)
    (flushes : movement.flushes = true) :
    GiftCardRepository.applyTransaction movement tables =
      .ok (row.moved movement.kind (row.currentBalanceCents + movement.amountCents))
        (tables.record movement row) := by
  rw [applyTransaction_found found, if_neg (by omega), if_pos flushes]

/-- A movement that goes through found its row and leaves no debt. -/
theorem applyTransaction_ok
    (ok : GiftCardRepository.applyTransaction movement tables = .ok card after) :
    ∃ row, tables.cards.get? movement.giftCardId = some row ∧
      (0 ≤ row.currentBalanceCents + movement.amountCents ∨ movement.allowNegative = true) ∧
        movement.flushes = true ∧ after = tables.record movement row := by
  cases found : tables.cards.get? movement.giftCardId with
  | none =>
      rw [applyTransaction_missing found] at ok
      cases ok
  | some row =>
      rw [applyTransaction_found found] at ok
      refine ⟨row, rfl, ?_⟩
      split at ok
      · cases ok
      · rename_i covered
        split at ok
        · rename_i flushes
          cases ok
          refine ⟨?_, flushes, rfl⟩
          cases debt : movement.allowNegative with
          | true => exact .inr rfl
          | false =>
              rw [debt] at covered
              refine .inl ?_
              by_contra short
              exact covered ⟨by omega, rfl⟩
        · cases ok

/-- Only the flush itself fails after something was written. -/
theorem applyTransaction_error
    (raised : GiftCardRepository.applyTransaction movement tables = .error error after) :
    error = .database ∨ after = tables := by
  cases found : tables.cards.get? movement.giftCardId with
  | none =>
      rw [applyTransaction_missing found] at raised
      cases raised
      exact .inr rfl
  | some row =>
      rw [applyTransaction_found found] at raised
      split at raised
      · cases raised
        exact .inr rfl
      · split at raised
        · cases raised
        · cases raised
          exact .inl rfl

theorem create_eq (new : GiftCard) (flushes : Bool) :
    GiftCardRepository.create new flushes tables =
      if (tables.cards.get? new.id).isSome || !flushes then .error .database tables
      else .ok new { tables with cards := tables.cards.set new.id new } := by
  change (if (tables.cards.get? new.id).isSome || !flushes then throw .database
    else do
      set { tables with cards := tables.cards.set new.id new }
      return new : GiftCardSession GiftCard) tables = _
  split <;> rfl

theorem create_ok {new : GiftCard} {flushes : Bool}
    (ok : GiftCardRepository.create new flushes tables = .ok card after) :
    tables.cards.get? new.id = none ∧ flushes = true ∧
      after = { tables with cards := tables.cards.set new.id new } := by
  rw [create_eq] at ok
  split at ok
  · cases ok
  · rename_i free
    cases ok
    rw [Bool.or_eq_true, not_or] at free
    rcases free with ⟨absent, flushed⟩
    exact ⟨by simpa using absent, by simpa using flushed, rfl⟩

/-- The card that an issue adds starts empty and is credited at once. -/
theorem issue_ok {request : IssueRequest}
    (ok : GiftCardService.issue request tables = .ok card after) :
    0 < request.amountCents ∧ tables.cards.get? request.id = none ∧
      ∃ codeHash, after =
        { tables with cards := tables.cards.set request.id (request.card codeHash) }.record
          request.movement (request.card codeHash) := by
  rw [GiftCardService.issue] at ok
  by_cases positive : request.amountCents ≤ 0
  · rw [if_pos positive] at ok
    cases ok
  · rw [if_neg positive] at ok
    cases code : request.codeHash with
    | none =>
        rw [code] at ok
        cases ok
    | some codeHash =>
        rw [code] at ok
        rcases session_ok.mp ok with ⟨new, mid, created, applied⟩
        rcases create_ok created with ⟨absent, -, rfl⟩
        rcases applyTransaction_ok applied with ⟨row, found, -, -, same⟩
        have here : row = request.card codeHash := by
          have stored : (tables.cards.set request.id (request.card codeHash)).get? request.id =
              some row := found
          rw [Table.get?_set, if_pos rfl] at stored
          cases stored
          rfl
        subst here
        exact ⟨by omega, absent, codeHash, same⟩

/-- An issue that raises wrote nothing, or the database refused its flush. -/
theorem issue_error {request : IssueRequest}
    (raised : GiftCardService.issue request tables = .error error after) :
    error = .database ∨ after = tables := by
  rw [GiftCardService.issue] at raised
  by_cases positive : request.amountCents ≤ 0
  · rw [if_pos positive] at raised
    cases raised
    exact .inr rfl
  · rw [if_neg positive] at raised
    cases code : request.codeHash with
    | none =>
        rw [code] at raised
        cases raised
        exact .inr rfl
    | some codeHash =>
        rw [code] at raised
        rcases session_error.mp raised with failed | ⟨new, mid, created, applied⟩
        · rw [create_eq] at failed
          split at failed
          · cases failed
            exact .inl rfl
          · cases failed
        · rcases create_ok created with ⟨-, -, rfl⟩
          have found : (tables.cards.set request.id (request.card codeHash)).get? request.id =
              some (request.card codeHash) := by
            rw [Table.get?_set, if_pos rfl]
          have credit : ¬ (request.card codeHash).currentBalanceCents +
              request.movement.amountCents < 0 := by
            change ¬ (0 + request.amountCents < 0)
            omega
          rw [applyTransaction_found found] at applied
          rw [if_neg fun short => credit short.1] at applied
          split at applied
          · cases applied
          · cases applied
            exact .inl rfl

theorem redeem_ok {request : RedeemRequest} {copy : Option GiftCard} {now : Time}
    (ok : GiftCardService.redeem request copy now tables = .ok card after) :
    0 < request.amountCents ∧
      (∃ read, copy = some read ∧ read.isRedeemable now = true ∧
        request.amountCents ≤ read.currentBalanceCents) ∧
      GiftCardRepository.applyTransaction request.movement tables = .ok card after := by
  cases copy with
  | none =>
      rw [GiftCardService.redeem] at ok
      split at ok <;> cases ok
  | some read =>
      rw [GiftCardService.redeem] at ok
      by_cases positive : request.amountCents ≤ 0
      · rw [if_pos positive] at ok
        cases ok
      · rw [if_neg positive] at ok
        by_cases refused : (!read.isRedeemable now) = true
        · rw [if_pos refused] at ok
          cases ok
        · rw [if_neg refused] at ok
          by_cases much : request.amountCents > read.currentBalanceCents
          · rw [if_pos much] at ok
            cases ok
          · rw [if_neg much] at ok
            exact ⟨by omega, ⟨read, rfl, by simpa using refused, by omega⟩, ok⟩

theorem redeem_error {request : RedeemRequest} {copy : Option GiftCard} {now : Time}
    (raised : GiftCardService.redeem request copy now tables = .error error after) :
    error = .database ∨ after = tables := by
  cases copy with
  | none =>
      rw [GiftCardService.redeem] at raised
      split at raised <;> (cases raised; exact .inr rfl)
  | some read =>
      rw [GiftCardService.redeem] at raised
      by_cases positive : request.amountCents ≤ 0
      · rw [if_pos positive] at raised
        cases raised
        exact .inr rfl
      · rw [if_neg positive] at raised
        by_cases refused : (!read.isRedeemable now) = true
        · rw [if_pos refused] at raised
          cases raised
          exact .inr rfl
        · rw [if_neg refused] at raised
          by_cases much : request.amountCents > read.currentBalanceCents
          · rw [if_pos much] at raised
            cases raised
            exact .inr rfl
          · rw [if_neg much] at raised
            exact applyTransaction_error raised

theorem refund_ok {request : RefundRequest}
    (ok : GiftCardService.refund request tables = .ok card after) :
    0 < request.amountCents ∧
      GiftCardRepository.applyTransaction request.movement tables = .ok card after := by
  rw [GiftCardService.refund] at ok
  by_cases positive : request.amountCents ≤ 0
  · rw [if_pos positive] at ok
    cases ok
  · rw [if_neg positive] at ok
    exact ⟨by omega, ok⟩

theorem refund_error {request : RefundRequest}
    (raised : GiftCardService.refund request tables = .error error after) :
    error = .database ∨ after = tables := by
  rw [GiftCardService.refund] at raised
  by_cases positive : request.amountCents ≤ 0
  · rw [if_pos positive] at raised
    cases raised
    exact .inr rfl
  · rw [if_neg positive] at raised
    exact applyTransaction_error raised

theorem void_ok {request : VoidRequest} {copy : Option GiftCard}
    (ok : GiftCardService.void request copy tables = .ok card after) :
    ∃ read, copy = some read ∧ GiftCardRepository.applyTransaction
      (request.movement read.currentBalanceCents) tables = .ok card after := by
  cases copy with
  | none => cases ok
  | some read => exact ⟨read, rfl, ok⟩

theorem void_error {request : VoidRequest} {copy : Option GiftCard}
    (raised : GiftCardService.void request copy tables = .error error after) :
    error = .database ∨ after = tables := by
  cases copy with
  | none =>
      cases raised
      exact .inr rfl
  | some read => exact applyTransaction_error raised

end Spec

end Numu.GiftCards
