import Mathlib.Algebra.Order.BigOperators.Group.List
import Mathlib.Algebra.Order.Group.Int
import Numu.Foundation.Calendar
import Numu.Foundation.Grouping
import Numu.Foundation.UuidText
import Numu.Orders.Order
import Numu.Stock.StockService

/-! The daily reconciliation of paid orders with gateway transactions and courier remittances. -/

namespace Numu.Payments.Reconciliation
open Numu.Orders
open Numu.Stock (TextCase)

structure PaymentTransaction where
  storeId : UUID
  orderId : Option UUID
  amountCents : Int
  gateway : String
  gatewayTransactionId : Option String
  status : String
  processingCompletedAt : Option Time
  deriving DecidableEq

structure Shipment where
  orderId : UUID
  storeId : UUID
  codCollected : Bool
  codAmount : Int
  status : String
  deriving DecidableEq

inductive MismatchType where
  | paidOrderNoTransaction
  | transactionNoOrder
  | amountMismatch
  | duplicateTransaction
  | codNotRemitted
  deriving DecidableEq, Repr

structure ReconciliationMismatch where
  mismatchType : MismatchType
  orderId : Option UUID := none
  orderNumber : Option String := none
  transactionId : Option UUID := none
  gatewayTransactionId : Option String := none
  expectedAmountCents : Option Int := none
  actualAmountCents : Option Int := none
  gateway : Option String := none
  notes : String
  deriving DecidableEq

/-- The tables that a run reads. -/
structure Tables where
  orders : Table UUID Order
  transactions : Table UUID PaymentTransaction
  shipments : List Shipment

/-- A calendar day, counted from the epoch, and the store of a store-level run. -/
structure Scope where
  day : Nat
  storeId : Option UUID

namespace Scope

def periodStart (scope : Scope) : Time := scope.day * Calendar.dayLength

def periodEnd (scope : Scope) : Time := scope.periodStart + Calendar.dayLength

def inPeriod (scope : Scope) (instant : Option Time) : Bool :=
  match instant with
  | none => false
  | some instant => scope.periodStart ≤ instant ∧ instant < scope.periodEnd

def inStore (scope : Scope) (storeId : UUID) : Bool :=
  match scope.storeId with
  | none => true
  | some own => storeId = own

end Scope

/-- `_SUCCESSFUL_TX_STATUSES`. -/
def successfulTxStatuses : List String := ["success", "paid", "completed", "captured"]

/-- `_COD_METHODS`. -/
def codMethods : List String := ["cod", "cash_on_delivery", "cash"]

namespace Tables
variable (tables : Tables) (scope : Scope)

def paidOrders : List (UUID × Order) :=
  tables.orders.rows.filter fun row =>
    row.2.paymentStatus = .paid && scope.inPeriod row.2.paidAt && scope.inStore row.2.storeId

def txns : List (UUID × PaymentTransaction) :=
  tables.transactions.rows.filter fun row =>
    row.2.status ∈ successfulTxStatuses && scope.inPeriod row.2.processingCompletedAt &&
      scope.inStore row.2.storeId

def orderIdSet : List UUID := (tables.paidOrders scope).map Prod.fst

def txnByOrder : Table UUID (List (UUID × PaymentTransaction)) :=
  Index.index (fun txn => txn.2.orderId) (tables.txns scope)

def codShipments : List Shipment :=
  tables.shipments.filter fun row =>
    row.orderId ∈ tables.orderIdSet scope && scope.inStore row.storeId

end Tables

/-- What a courier reports of one order. -/
structure Remittance where
  collected : Bool
  codCents : Int
  status : String
  deriving DecidableEq

def Shipment.remittance (row : Shipment) : Remittance :=
  ⟨row.codCollected, row.codAmount, row.status⟩

/-- A parcel can be shipped again; the collected one wins. -/
def addShipment (codByOrder : Table UUID Remittance) (row : Shipment) : Table UUID Remittance :=
  match codByOrder.get? row.orderId with
  | none => codByOrder.set row.orderId row.remittance
  | some existing =>
      if row.codCollected && !existing.collected then codByOrder.set row.orderId row.remittance
      else codByOrder

def codByOrder (shipments : List Shipment) : Table UUID Remittance :=
  shipments.foldl addShipment .empty

def isCod [TextCase] (order : Order) : Bool :=
  TextCase.lower (order.paymentMethod.getD "") ∈ codMethods

/-- One round of the loop over the orders: what it adds to the actual total, and the mismatch. -/
structure OrderCheck where
  observed : Int
  mismatch : Option ReconciliationMismatch

/-- An order without a transaction. -/
def checkWithoutTransaction [TextCase] (remittance : Option Remittance) (orderId : UUID)
    (order : Order) : OrderCheck :=
  let orderCents : Int := order.collectibleTotal
  if isCod order then
    match remittance with
    | none => ⟨orderCents, none⟩
    | some ⟨true, codCents, _⟩ =>
        let observed := if codCents = 0 then orderCents else codCents
        ⟨observed,
          if 1 < (observed - orderCents).natAbs then
            some {
              mismatchType := .amountMismatch
              orderId := some orderId
              orderNumber := some order.orderNumber
              expectedAmountCents := some orderCents
              actualAmountCents := some observed
              gateway := order.paymentMethod
              notes := s!"Order {order.orderNumber} — courier remitted {observed} piastres " ++
                s!"against {orderCents} expected" }
          else none⟩
    | some ⟨false, _, shipStatus⟩ =>
        let shown := if shipStatus = "" then "unknown" else shipStatus
        ⟨0, some {
          mismatchType := .codNotRemitted
          orderId := some orderId
          orderNumber := some order.orderNumber
          expectedAmountCents := some orderCents
          actualAmountCents := some 0
          gateway := order.paymentMethod
          notes := s!"Order {order.orderNumber} — shipment is '{shown}' and the courier " ++
            "has not remitted the cash" }⟩
  else
    ⟨0, some {
      mismatchType := .paidOrderNoTransaction
      orderId := some orderId
      orderNumber := some order.orderNumber
      expectedAmountCents := some orderCents
      actualAmountCents := none
      gateway := order.paymentMethod
      notes := s!"Order {order.orderNumber} — no matching payment transaction" }⟩

/-- An order whose most recent transaction is `latest`. -/
def checkTransaction (txnId : UUID) (latest : PaymentTransaction) (orderId : UUID)
    (order : Order) : OrderCheck :=
  let orderCents : Int := order.collectibleTotal
  ⟨latest.amountCents,
    if 1 < (latest.amountCents - orderCents).natAbs then
      some {
        mismatchType := .amountMismatch
        orderId := some orderId
        orderNumber := some order.orderNumber
        transactionId := some txnId
        gatewayTransactionId := latest.gatewayTransactionId
        expectedAmountCents := some orderCents
        actualAmountCents := some latest.amountCents
        gateway := some latest.gateway
        notes := s!"Order total {orderCents} piastres vs transaction {latest.amountCents} piastres" }
    else none⟩

def checkOrder [TextCase] (txnByOrder : Table UUID (List (UUID × PaymentTransaction)))
    (cod : Table UUID Remittance) (orderId : UUID) (order : Order) : OrderCheck :=
  match (Index.rowsAt txnByOrder orderId).getLast? with
  | none => checkWithoutTransaction (cod.get? orderId) orderId order
  | some (txnId, latest) => checkTransaction txnId latest orderId order

/-- One round of the loop over the transactions. -/
def checkOrphan (orderIdSet : List UUID) (txnId : UUID) (txn : PaymentTransaction) :
    Option ReconciliationMismatch :=
  match txn.orderId with
  | none => none
  | some orderId =>
      if orderId ∈ orderIdSet then none
      else some {
        mismatchType := .transactionNoOrder
        transactionId := some txnId
        gatewayTransactionId := txn.gatewayTransactionId
        actualAmountCents := some txn.amountCents
        gateway := some txn.gateway
        notes := s!"Transaction {strOf txn.gatewayTransactionId} references order " ++
          s!"{UuidText.writeUuid orderId} which is not PAID for this period" }

/-- The figures of a completed run, and its mismatches. -/
structure Report where
  mismatches : List ReconciliationMismatch := []
  totalOrdersChecked : Nat := 0
  totalTransactionsChecked : Nat := 0
  mismatchesFound : Nat := 0
  expectedAmountCents : Int := 0
  actualAmountCents : Int := 0

def addOrder (report : Report) (order : Order) (check : OrderCheck) : Report :=
  { report with
    mismatches := report.mismatches ++ check.mismatch.toList
    expectedAmountCents := report.expectedAmountCents + order.collectibleTotal
    actualAmountCents := report.actualAmountCents + check.observed }

def addOrphan (report : Report) (orphan : Option ReconciliationMismatch) : Report :=
  { report with mismatches := report.mismatches ++ orphan.toList }

/-- `_execute_run`. -/
def executeRun [TextCase] (tables : Tables) (scope : Scope) : Report :=
  let paidOrders := tables.paidOrders scope
  let txns := tables.txns scope
  let txnByOrder := tables.txnByOrder scope
  let cod := codByOrder (tables.codShipments scope)
  let ordersChecked := paidOrders.foldl
    (fun report row => addOrder report row.2 (checkOrder txnByOrder cod row.1 row.2)) {}
  let report := txns.foldl
    (fun report txn => addOrphan report (checkOrphan (tables.orderIdSet scope) txn.1 txn.2))
    ordersChecked
  { report with
    totalOrdersChecked := paidOrders.length
    totalTransactionsChecked := txns.length
    mismatchesFound := report.mismatches.length }

/-- What a mismatch says that was received beyond what was expected. -/
def ReconciliationMismatch.difference (mismatch : ReconciliationMismatch) : Int :=
  mismatch.actualAmountCents.getD 0 - mismatch.expectedAmountCents.getD 0

section Purpose
variable [TextCase] (tables : Tables) (scope : Scope)

/-- The transaction that an order is compared with. -/
def compared (orderId : UUID) : Option (UUID × PaymentTransaction) :=
  ((tables.txns scope).filter fun txn => txn.2.orderId = some orderId).getLast?

/-- The parcels of an order. -/
def parcels (orderId : UUID) : List Shipment :=
  (tables.codShipments scope).filter fun row => row.orderId = orderId

/-- What a courier handed over for an order, or the merchant says to have been paid. -/
def cashReceived (orderId : UUID) (orderCents : Int) : Option Int :=
  if parcels tables scope orderId = [] then some orderCents
  else ((parcels tables scope orderId).find? Shipment.codCollected).map fun row =>
    if row.codAmount = 0 then orderCents else row.codAmount

/-- What was received for an order. -/
def received (order : UUID × Order) : Option Int :=
  match compared tables scope order.1 with
  | some txn => some txn.2.amountCents
  | none =>
      if isCod order.2 then cashReceived tables scope order.1 order.2.collectibleTotal else none

/-- An order is matched with what was received for it, up to one piastre. -/
def OrderMatched (order : UUID × Order) : Prop :=
  ∃ amount ∈ received tables scope order, (amount - order.2.collectibleTotal : Int).natAbs ≤ 1

instance (order : UUID × Order) : Decidable (OrderMatched tables scope order) :=
  decidable_of_iff
    ((received tables scope order).any fun amount =>
      (amount - order.2.collectibleTotal : Int).natAbs ≤ 1) (by
    rw [OrderMatched]
    cases received tables scope order <;> simp)

/-- A transaction is matched with the order that is compared with it. -/
def TransactionMatched (txn : UUID × PaymentTransaction) : Prop :=
  ∃ order ∈ tables.paidOrders scope, txn.2.orderId = some order.1 ∧
    compared tables scope order.1 = some txn ∧ OrderMatched tables scope order

/-- The report accounts for every transaction, every order and the totals. -/
structure Accounts (report : Report) : Prop where
  transactions : ∀ txn ∈ tables.txns scope, TransactionMatched tables scope txn ∨
    ∃ mismatch ∈ report.mismatches, mismatch.transactionId = some txn.1
  orders : ∀ order ∈ tables.paidOrders scope, OrderMatched tables scope order ∨
    ∃ mismatch ∈ report.mismatches, mismatch.orderId = some order.1
  totals : (report.actualAmountCents - report.expectedAmountCents -
    (report.mismatches.map ReconciliationMismatch.difference).sum).natAbs ≤
      (tables.paidOrders scope).length

/-- The piastre by which an order may be off and still match. -/
def slack (order : UUID × Order) : Int :=
  if OrderMatched tables scope order then
    (received tables scope order).getD 0 - order.2.collectibleTotal
  else 0

/-- The amount of a transaction whose order was not paid in the period. -/
def orphanAmount (txn : UUID × PaymentTransaction) : Int :=
  match txn.2.orderId with
  | none => 0
  | some orderId => if orderId ∈ tables.orderIdSet scope then 0 else txn.2.amountCents

/-- Each transaction names an order, none a paid order that another one names, and those of
unpaid orders come to nothing beyond the tolerance. -/
structure Plain : Prop where
  named : ∀ txn ∈ tables.txns scope, txn.2.orderId.isSome
  single : ∀ order ∈ tables.paidOrders scope, ∀ txn ∈ tables.txns scope,
    ∀ other ∈ tables.txns scope, txn.2.orderId = some order.1 → other.2.orderId = some order.1 →
      txn = other
  orphans : (((tables.paidOrders scope).map (slack tables scope)).sum -
    ((tables.txns scope).map (orphanAmount tables scope)).sum).natAbs ≤
      (tables.paidOrders scope).length

end Purpose

theorem codByOrder_append (front : List Shipment) (row : Shipment) :
    codByOrder (front ++ [row]) = addShipment (codByOrder front) row := by
  rw [codByOrder, List.foldl_append, ← codByOrder]
  rfl

/-- The first collected parcel, or else the first one. -/
def preferred (rows : List Shipment) : Option Shipment :=
  (rows.find? Shipment.codCollected).or rows.head?

theorem preferred_append (rows : List Shipment) (row : Shipment) :
    preferred (rows ++ [row]) =
      match preferred rows with
      | none => some row
      | some existing =>
          if row.codCollected && !existing.codCollected then some row else some existing := by
  rw [preferred, preferred, List.find?_append, List.head?_append]
  rcases found : rows.find? Shipment.codCollected with _ | already
  · rcases rows with _ | ⟨first, others⟩
    · rcases collected : row.codCollected <;> simp [collected]
    · have waiting : first.codCollected = false := by
        have unfound := List.find?_eq_none.mp found first List.mem_cons_self
        simpa using unfound
      rcases collected : row.codCollected <;> simp [collected, waiting]
  · have done : already.codCollected = true := List.find?_some found
    simp [done]

/-- The row of an order is that of its preferred parcel. -/
theorem codByOrder_get? (rows : List Shipment) (orderId : UUID) :
    (codByOrder rows).get? orderId =
      (preferred (rows.filter fun row => row.orderId = orderId)).map Shipment.remittance := by
  induction rows using List.reverseRecOn with
  | nil => rfl
  | append_singleton front row ih =>
      rw [codByOrder_append, List.filter_append]
      by_cases here : row.orderId = orderId
      · subst here
        rw [addShipment, ih]
        have alone : [row].filter (fun other => other.orderId = row.orderId) = [row] := by simp
        rw [alone, preferred_append]
        rcases mine : preferred (front.filter fun other => other.orderId = row.orderId)
          with _ | existing
        · simp [Table.get?_set]
        · by_cases wins : row.codCollected && !existing.codCollected
          · simp only [Option.map_some, Shipment.remittance, wins, if_true, Table.get?_set]
          · simp only [Option.map_some, Shipment.remittance, wins, if_false, Bool.false_eq_true]
            rw [ih, mine]
            rfl
      · have elsewhere : [row].filter (fun other => other.orderId = orderId) = [] := by simp [here]
        rw [elsewhere, List.append_nil, ← ih, addShipment]
        split
        · rw [Table.get?_set, if_neg (Ne.symm here)]
        · split
          · rw [Table.get?_set, if_neg (Ne.symm here)]
          · rfl

theorem foldl_addOrder (rows : List (UUID × Order)) (check : UUID × Order → OrderCheck)
    (report : Report) :
    rows.foldl (fun report row => addOrder report row.2 (check row)) report =
      { report with
        mismatches := report.mismatches ++ rows.filterMap fun row => (check row).mismatch
        expectedAmountCents := report.expectedAmountCents +
          (rows.map fun row => (row.2.collectibleTotal : Int)).sum
        actualAmountCents := report.actualAmountCents +
          (rows.map fun row => (check row).observed).sum } := by
  induction rows generalizing report with
  | nil => simp
  | cons row rows ih =>
      rw [List.foldl_cons, ih]
      rcases listed : (check row).mismatch with _ | mismatch
      · simp [addOrder, listed, add_assoc]
      · simp [addOrder, listed, add_assoc]

theorem foldl_addOrphan (rows : List (UUID × PaymentTransaction))
    (check : UUID × PaymentTransaction → Option ReconciliationMismatch) (report : Report) :
    rows.foldl (fun report txn => addOrphan report (check txn)) report =
      { report with mismatches := report.mismatches ++ rows.filterMap check } := by
  induction rows generalizing report with
  | nil => simp
  | cons row rows ih =>
      rw [List.foldl_cons, ih]
      rcases listed : check row with _ | mismatch
      · simp [addOrphan, listed]
      · simp [addOrphan, listed]

/-- The differences of optional rows add up over what they were made of. -/
theorem sum_filterMap {α : Type} (rows : List α) (check : α → Option ReconciliationMismatch) :
    ((rows.filterMap check).map ReconciliationMismatch.difference).sum =
      (rows.map fun row => ((check row).map ReconciliationMismatch.difference).getD 0).sum := by
  induction rows with
  | nil => rfl
  | cons row rows ih =>
      rw [List.filterMap_cons, List.map_cons, List.sum_cons, ← ih]
      rcases check row with _ | mismatch
      · exact (zero_add _).symm
      · rfl

/-- A sum of what is left of each is what is left of the sums. -/
theorem sum_map_residue {α : Type} (rows : List α) (observed expected slack : α → Int) :
    (rows.map fun row => observed row - expected row - slack row).sum =
      (rows.map observed).sum - (rows.map expected).sum - (rows.map slack).sum := by
  induction rows with
  | nil => rfl
  | cons row rows ih =>
      simp only [List.map_cons, List.sum_cons, ih]
      omega

section Checks
variable [TextCase] (tables : Tables) (scope : Scope)

def checkOf (order : UUID × Order) : OrderCheck :=
  checkOrder (tables.txnByOrder scope) (codByOrder (tables.codShipments scope)) order.1 order.2

omit [TextCase] in
theorem compared_eq (orderId : UUID) :
    (Index.rowsAt (tables.txnByOrder scope) orderId).getLast? = compared tables scope orderId := by
  rw [Tables.txnByOrder, Index.rowsAt_index, compared]

/-- What one check makes of its order. -/
structure Judged (order : UUID × Order) (check : OrderCheck) : Prop where
  observed : check.observed = (received tables scope order).getD 0
  unlisted : check.mismatch = none ↔ OrderMatched tables scope order
  listed : ∀ mismatch ∈ check.mismatch, mismatch.orderId = some order.1 ∧
    mismatch.transactionId = (compared tables scope order.1).map Prod.fst ∧
    mismatch.difference = check.observed - order.2.collectibleTotal

/-- An amount that is listed when it is off by more than the tolerance. -/
theorem judged_of_amount {order : UUID × Order} {amount : Int} {mismatch : ReconciliationMismatch}
    (got : received tables scope order = some amount) (orderId : mismatch.orderId = some order.1)
    (txnId : mismatch.transactionId = (compared tables scope order.1).map Prod.fst)
    (difference : mismatch.difference = amount - order.2.collectibleTotal) :
    Judged tables scope order
      ⟨amount, if 1 < (amount - order.2.collectibleTotal : Int).natAbs then some mismatch
        else none⟩ := by
  constructor
  · rw [got]
    rfl
  · by_cases off : 1 < (amount - order.2.collectibleTotal : Int).natAbs
    · simp [OrderMatched, got, off]
    · simp [OrderMatched, got, off, Nat.le_of_not_lt off]
  · intro other mine
    dsimp only at mine
    split at mine
    · cases mine
      exact ⟨orderId, txnId, difference⟩
    · cases mine

/-- An order for which nothing was received is listed. -/
theorem judged_of_nothing {order : UUID × Order} {mismatch : ReconciliationMismatch}
    (got : received tables scope order = none) (orderId : mismatch.orderId = some order.1)
    (txnId : mismatch.transactionId = (compared tables scope order.1).map Prod.fst)
    (difference : mismatch.difference = 0 - order.2.collectibleTotal) :
    Judged tables scope order ⟨0, some mismatch⟩ := by
  constructor
  · rw [got]
    rfl
  · simp [OrderMatched, got]
  · intro other mine
    cases mine
    exact ⟨orderId, txnId, difference⟩

theorem judged_transaction {order : UUID × Order} {txn : UUID × PaymentTransaction}
    (latest : compared tables scope order.1 = some txn) :
    Judged tables scope order (checkTransaction txn.1 txn.2 order.1 order.2) := by
  have got : received tables scope order = some txn.2.amountCents := by rw [received, latest]
  exact judged_of_amount tables scope got rfl (by rw [latest]; rfl) rfl

/-- A cash order, by the parcel whose row it keeps. -/
theorem judged_cash {order : UUID × Order} (none_ : compared tables scope order.1 = none)
    (cod : isCod order.2 = true) :
    Judged tables scope order (checkWithoutTransaction
      ((preferred (parcels tables scope order.1)).map Shipment.remittance) order.1 order.2) := by
  have cash : received tables scope order =
      cashReceived tables scope order.1 order.2.collectibleTotal := by
    rw [received, none_]
    exact if_pos cod
  have noTxn : none = (compared tables scope order.1).map Prod.fst := by
    rw [none_]
    rfl
  rw [cashReceived] at cash
  simp only [checkWithoutTransaction, cod, if_true]
  rcases found : (parcels tables scope order.1).find? Shipment.codCollected with _ | parcel
  · rcases shipped : parcels tables scope order.1 with _ | ⟨first, others⟩
    · rw [shipped, if_pos rfl] at cash
      constructor
      · rw [cash]
        rfl
      · simp [preferred, OrderMatched, cash]
      · intro mismatch mine
        cases mine
    · rw [shipped, if_neg (List.cons_ne_nil _ _), ← shipped, found, Option.map_none] at cash
      have waiting : first.codCollected = false := by
        have unfound := List.find?_eq_none.mp found first (shipped ▸ List.mem_cons_self)
        simpa using unfound
      have row : (preferred (first :: others)).map Shipment.remittance =
          some ⟨false, first.codAmount, first.status⟩ := by
        rw [preferred, ← shipped, found, shipped, ← waiting]
        rfl
      rw [row]
      exact judged_of_nothing tables scope cash rfl noTxn rfl
  · have done : parcel.codCollected = true := List.find?_some found
    have shipped : parcels tables scope order.1 ≠ [] := by
      intro empty
      rw [empty] at found
      cases found
    rw [if_neg shipped, found, Option.map_some] at cash
    have row : (preferred (parcels tables scope order.1)).map Shipment.remittance =
        some ⟨true, parcel.codAmount, parcel.status⟩ := by
      rw [preferred, found, ← done]
      rfl
    rw [row]
    exact judged_of_amount tables scope cash rfl noTxn rfl

theorem judged_noTransaction {order : UUID × Order}
    (none_ : compared tables scope order.1 = none) :
    Judged tables scope order (checkWithoutTransaction
      ((codByOrder (tables.codShipments scope)).get? order.1) order.1 order.2) := by
  rw [codByOrder_get?, ← parcels]
  by_cases cod : isCod order.2 = true
  · exact judged_cash tables scope none_ cod
  · have nothing : received tables scope order = none := by
      rw [received, none_]
      exact if_neg cod
    simp only [checkWithoutTransaction, cod, Bool.false_eq_true, if_false]
    exact judged_of_nothing tables scope nothing rfl (by rw [none_]; rfl) rfl

theorem judged (order : UUID × Order) : Judged tables scope order (checkOf tables scope order) := by
  rw [checkOf, checkOrder, compared_eq]
  rcases latest : compared tables scope order.1 with _ | txn
  · exact judged_noTransaction tables scope latest
  · exact judged_transaction tables scope latest

/-- The rows of a report. -/
theorem executeRun_mismatches :
    (executeRun tables scope).mismatches =
      (tables.paidOrders scope).filterMap (fun order => (checkOf tables scope order).mismatch) ++
        (tables.txns scope).filterMap fun txn =>
          checkOrphan (tables.orderIdSet scope) txn.1 txn.2 := by
  have orders := foldl_addOrder (tables.paidOrders scope) (checkOf tables scope) {}
  have orphans := foldl_addOrphan (tables.txns scope) fun txn =>
    checkOrphan (tables.orderIdSet scope) txn.1 txn.2
  simp only [executeRun]
  rw [orphans]
  exact congrArg (fun report : Report => report.mismatches ++ _) orders

theorem executeRun_totals :
    (executeRun tables scope).expectedAmountCents =
        ((tables.paidOrders scope).map fun order => (order.2.collectibleTotal : Int)).sum ∧
      (executeRun tables scope).actualAmountCents =
        ((tables.paidOrders scope).map fun order => (checkOf tables scope order).observed).sum := by
  have orders := foldl_addOrder (tables.paidOrders scope) (checkOf tables scope) {}
  have orphans := foldl_addOrphan (tables.txns scope) fun txn =>
    checkOrphan (tables.orderIdSet scope) txn.1 txn.2
  simp only [executeRun]
  rw [orphans]
  constructor
  · have expected := congrArg Report.expectedAmountCents orders
    exact expected.trans (zero_add _)
  · have actual := congrArg Report.actualAmountCents orders
    exact actual.trans (zero_add _)

theorem difference_of_check (order : UUID × Order) :
    ((checkOf tables scope order).mismatch.map ReconciliationMismatch.difference).getD 0 =
      (checkOf tables scope order).observed - order.2.collectibleTotal -
        slack tables scope order := by
  have facts := judged tables scope order
  rw [slack]
  rcases listed : (checkOf tables scope order).mismatch with _ | mismatch
  · rw [if_pos (facts.unlisted.mp listed), facts.observed]
    exact (sub_self _).symm
  · have off : ¬ OrderMatched tables scope order := by
      intro matched
      have unlisted := facts.unlisted.mpr matched
      rw [listed] at unlisted
      cases unlisted
    rw [if_neg off, sub_zero]
    exact (facts.listed mismatch listed).2.2

omit [TextCase] in
theorem difference_of_orphan (txn : UUID × PaymentTransaction) :
    ((checkOrphan (tables.orderIdSet scope) txn.1 txn.2).map
      ReconciliationMismatch.difference).getD 0 = orphanAmount tables scope txn := by
  rw [orphanAmount, checkOrphan]
  rcases txn.2.orderId with _ | orderId
  · rfl
  · simp only
    split
    · rfl
    · exact sub_zero _

/-- What the listed differences leave of the totals' difference. -/
theorem executeRun_residue :
    (executeRun tables scope).actualAmountCents - (executeRun tables scope).expectedAmountCents -
        ((executeRun tables scope).mismatches.map ReconciliationMismatch.difference).sum =
      ((tables.paidOrders scope).map (slack tables scope)).sum -
        ((tables.txns scope).map (orphanAmount tables scope)).sum := by
  rcases executeRun_totals tables scope with ⟨expected, actual⟩
  rw [expected, actual, executeRun_mismatches, List.map_append, List.sum_append, sum_filterMap,
    sum_filterMap]
  rw [funext (difference_of_check tables scope), funext (difference_of_orphan tables scope),
    sum_map_residue]
  omega

omit [TextCase] in
theorem txns_unique {first second : UUID × PaymentTransaction} (here : first ∈ tables.txns scope)
    (there : second ∈ tables.txns scope) (same : first.1 = second.1) : first = second := by
  have found := (Table.get?_eq_some_iff _ _ _).mpr (List.mem_filter.mp here).1
  have found' := (Table.get?_eq_some_iff _ _ _).mpr (List.mem_filter.mp there).1
  rw [same, found'] at found
  exact Prod.ext same (Option.some.inj found).symm

omit [TextCase] in
theorem compared_mem {orderId : UUID} {txn : UUID × PaymentTransaction}
    (latest : compared tables scope orderId = some txn) :
    txn ∈ tables.txns scope ∧ txn.2.orderId = some orderId := by
  have member := List.mem_filter.mp (List.mem_of_getLast? latest)
  exact ⟨member.1, by simpa using member.2⟩

/-- The transactions that a report names are the compared ones of mismatched orders, and orphans. -/
theorem listed_transaction {txn : UUID × PaymentTransaction} (present : txn ∈ tables.txns scope)
    {mismatch : ReconciliationMismatch}
    (listed : mismatch ∈ (executeRun tables scope).mismatches)
    (names : mismatch.transactionId = some txn.1) :
    (∃ order ∈ tables.paidOrders scope, compared tables scope order.1 = some txn) ∨
      ∃ orderId, txn.2.orderId = some orderId ∧ orderId ∉ tables.orderIdSet scope := by
  rw [executeRun_mismatches, List.mem_append, List.mem_filterMap, List.mem_filterMap] at listed
  rcases listed with ⟨order, paid, check⟩ | ⟨other, checked, check⟩
  · refine .inl ⟨order, paid, ?_⟩
    have facts := ((judged tables scope order).listed mismatch check).2.1
    rw [names] at facts
    rcases latest : compared tables scope order.1 with _ | other
    · rw [latest] at facts
      cases facts
    · rw [latest, Option.map_some, Option.some.injEq] at facts
      rw [txns_unique tables scope (compared_mem tables scope latest).1 present facts.symm]
  · right
    rw [checkOrphan] at check
    rcases unnamed : other.2.orderId with _ | orderId
    · rw [unnamed] at check
      cases check
    · rw [unnamed] at check
      simp only at check
      split at check
      · cases check
      · rename_i unpaid
        cases check
        rw [Option.some.injEq] at names
        rw [← txns_unique tables scope checked present names]
        exact ⟨orderId, unnamed, unpaid⟩

/-- A transaction is accounted for exactly if it names an order, and any paid order that it names
is compared with it. -/
theorem accounted_iff {txn : UUID × PaymentTransaction} (present : txn ∈ tables.txns scope) :
    (TransactionMatched tables scope txn ∨
        ∃ mismatch ∈ (executeRun tables scope).mismatches, mismatch.transactionId = some txn.1) ↔
      txn.2.orderId.isSome ∧ ∀ order ∈ tables.paidOrders scope, txn.2.orderId = some order.1 →
        compared tables scope order.1 = some txn := by
  have alone {order : UUID × Order} (paid : order ∈ tables.paidOrders scope)
      (latest : compared tables scope order.1 = some txn) :
      txn.2.orderId.isSome ∧ ∀ other ∈ tables.paidOrders scope, txn.2.orderId = some other.1 →
        compared tables scope other.1 = some txn := by
    have named := (compared_mem tables scope latest).2
    refine ⟨by rw [named]; rfl, fun other there same => ?_⟩
    rw [named, Option.some.injEq] at same
    rw [← same]
    exact latest
  constructor
  · rintro (⟨order, paid, -, latest, -⟩ | ⟨mismatch, listed, names⟩)
    · exact alone paid latest
    · rcases listed_transaction tables scope present listed names with
        ⟨order, paid, latest⟩ | ⟨orderId, named, unpaid⟩
      · exact alone paid latest
      · refine ⟨by rw [named]; rfl, fun order paid same => ?_⟩
        rw [named, Option.some.injEq] at same
        exact absurd (List.mem_map.mpr ⟨order, paid, same.symm⟩) unpaid
  · rintro ⟨named, compares⟩
    rcases Option.isSome_iff_exists.mp named with ⟨orderId, names⟩
    by_cases paid : orderId ∈ tables.orderIdSet scope
    · rcases List.mem_map.mp paid with ⟨order, here, rfl⟩
      have latest := compares order here names
      have facts := judged tables scope order
      by_cases matched : OrderMatched tables scope order
      · exact .inl ⟨order, here, names, latest, matched⟩
      · rcases listed : (checkOf tables scope order).mismatch with _ | mismatch
        · exact absurd (facts.unlisted.mp listed) matched
        · refine .inr ⟨mismatch, ?_, ?_⟩
          · rw [executeRun_mismatches]
            exact List.mem_append_left _ (List.mem_filterMap.mpr ⟨order, here, listed⟩)
          · rw [(facts.listed mismatch listed).2.1, latest]
            rfl
    · right
      have orphan : ∃ mismatch,
          checkOrphan (tables.orderIdSet scope) txn.1 txn.2 = some mismatch ∧
            mismatch.transactionId = some txn.1 := by
        rw [checkOrphan, names]
        exact ⟨_, if_neg paid, rfl⟩
      rcases orphan with ⟨mismatch, listed, same⟩
      rw [executeRun_mismatches]
      exact ⟨mismatch,
        List.mem_append_right _ (List.mem_filterMap.mpr ⟨txn, present, listed⟩), same⟩

/-- Every order of the period is matched or listed. -/
theorem order_accounted {order : UUID × Order} (paid : order ∈ tables.paidOrders scope) :
    OrderMatched tables scope order ∨
      ∃ mismatch ∈ (executeRun tables scope).mismatches, mismatch.orderId = some order.1 := by
  have facts := judged tables scope order
  rcases listed : (checkOf tables scope order).mismatch with _ | mismatch
  · exact .inl (facts.unlisted.mp listed)
  · refine .inr ⟨mismatch, ?_, (facts.listed mismatch listed).1⟩
    rw [executeRun_mismatches]
    exact List.mem_append_left _ (List.mem_filterMap.mpr ⟨order, paid, listed⟩)

/-- A run accounts for everything exactly if its transactions are plain. -/
theorem accounts_iff_plain :
    Accounts tables scope (executeRun tables scope) ↔ Plain tables scope := by
  constructor
  · intro accounts
    have each := fun txn present => (accounted_iff tables scope present).mp
      (accounts.transactions txn present)
    refine ⟨fun txn present => (each txn present).1, ?_, ?_⟩
    · intro order paid txn here other there names names'
      have latest := (each txn here).2 order paid names
      rw [(each other there).2 order paid names', Option.some.injEq] at latest
      exact latest.symm
    · rw [← executeRun_residue]
      exact accounts.totals
  · intro plain
    refine ⟨fun txn present => ?_, fun order paid => order_accounted tables scope paid, ?_⟩
    · refine (accounted_iff tables scope present).mpr
        ⟨plain.named txn present, fun order paid names => ?_⟩
      have member : txn ∈ (tables.txns scope).filter fun txn => txn.2.orderId = some order.1 :=
        List.mem_filter.mpr ⟨present, by simpa using names⟩
      rcases latest : compared tables scope order.1 with _ | other
      · rw [compared, List.getLast?_eq_none_iff] at latest
        rw [latest] at member
        cases member
      · rcases compared_mem tables scope latest with ⟨there, names'⟩
        rw [plain.single order paid txn present other there names names']
    · rw [executeRun_residue]
      exact plain.orphans

end Checks

def payment (processedAt : Time) : PaymentTransaction where
  storeId := 2
  orderId := some 5
  amountCents := 10000
  gateway := "paymob"
  gatewayTransactionId := none
  status := "success"
  processingCompletedAt := some processedAt

def paidOrder : Order where
  id := 5
  storeId := 2
  paymentStatus := .paid
  paymentMethod := some "paymob"
  total := 10000
  paidAt := some 20

/-- One order of 10000 cents, paid twice on the first day. -/
def paidTwice : Tables where
  orders := Table.ofList [(5, paidOrder)]
  transactions := Table.ofList [(61, payment 20), (62, payment 30)]
  shipments := []

theorem duplicate_charge_unlisted :
    letI := TextCase.ascii
    ¬ Accounts paidTwice ⟨0, none⟩ (executeRun paidTwice ⟨0, none⟩) := by
  let _ := TextCase.ascii
  intro accounts
  have first : (61, payment 20) ∈ paidTwice.txns ⟨0, none⟩ := by decide +kernel
  rcases accounts.transactions _ first with ⟨order, -, named, latest, -⟩ | ⟨mismatch, listed, -⟩
  · have here : order.1 = 5 := (Option.some.inj named).symm
    rw [here] at latest
    revert latest
    decide +kernel
  · have clean : (executeRun paidTwice ⟨0, none⟩).mismatches = [] := by decide +kernel
    rw [clean] at listed
    cases listed

end Numu.Payments.Reconciliation
