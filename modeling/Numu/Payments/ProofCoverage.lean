import Numu.Foundation.Run
import Numu.Orders.OrderRepository
import Numu.Payments.PaymentProof

/-! When the approved proofs of an order cover what it is marked paid for. -/

namespace Numu.Payments
open Numu.Orders
open Numu.Outcome (bind_eq_ok orKeep)
open Numu.Payments.PaymentProofRepository (amountPaidCents violated)

/-- The order's intent asks for its COD deposit. -/
def asksDeposit (order : Order) (intent : Option ManualPaymentIntent) : Bool :=
  order.depositRequiredCents.getD 0 ≠ 0 &&
    intent.any fun intent => order.depositRequiredCents = some intent.amountCents

namespace TransferRows

def becomesPaid (before after : TransferRows) (orderId : UUID) : Bool :=
  (before.orders.get? orderId).any (fun order => !order.isPaid) &&
    (after.orders.get? orderId).any Order.isPaid

/-- The approved proofs reach the order's collectible total and are not those of a deposit. -/
def covered (rows : TransferRows) (orderId : UUID) : Bool :=
  (rows.orders.get? orderId).all fun order =>
    (order.collectibleTotal : Int) ≤ amountPaidCents rows.proofs orderId &&
      !asksDeposit order (rows.intents.get? orderId)

/-- A transition marks an order paid only when its approved proofs cover it. -/
def PaidOnlyCovered (before after : TransferRows) : Prop :=
  ∀ orderId, becomesPaid before after orderId = true → after.covered orderId = true

end TransferRows

/-- An approval that is about to be written: of which proof, on which copy of the order. -/
structure Approval where
  orderId : UUID
  proofId : UUID
  order : Order
  amountCents : Int

/-- The order is paid already, or its copy still waits for the deposit, or the proof brings the
approved ones up to the whole total of an order that is not asked for a deposit. -/
def Approval.sound (approval : Approval) (rows : TransferRows) : Bool :=
  (rows.orders.get? approval.orderId).any Order.isPaid || approval.order.paysDeposit ||
    !asksDeposit approval.order (rows.intents.get? approval.orderId) &&
      (approval.order.collectibleTotal : Int) ≤
        amountPaidCents (rows.proofs.erase approval.proofId) approval.orderId +
          approval.amountCents

namespace TransferState
variable [CaseFold]

def submitted (rows : TransferRows) (vision : ProofVision) (proofId : UUID) (now : Time) :
    Submitting → Option Approval
  | .accepted upload order intent =>
      let verdict := SubmitPaymentProof.decision rows upload order intent vision now
      let proof := SubmitPaymentProof.judged upload order intent vision now verdict
      if verdict.approved && (violated rows.proofs proofId proof).isNone then
        some ⟨upload.orderId, proofId, order,
          upload.declaredAmountCents.getD intent.amountCents⟩
      else none
  | _ => none

omit [CaseFold] in
def reviewed (rows : TransferRows) : Reviewing → Option Approval
  | .loaded proofId proof order =>
      if order.paymentStatus = .paid then none
      else (rows.intents.get? proof.orderId).map fun intent =>
        ⟨proof.orderId, proofId, order, proof.declaredAmountCents.getD intent.amountCents⟩
  | _ => none

/-- The approval a step is about to write, automatic or by the merchant. -/
def approval (state : TransferState) : TransferLabel → Option Approval
  | .persist session vision proofId now =>
      submitted state.rows vision proofId now (state.submissions session)
  | .decide session _ .approve _ => reviewed state.rows (state.reviews session)
  | _ => none

def Admitted (state : TransferState) (label : TransferLabel) : Prop :=
  (state.approval label).all (fun approval => approval.sound state.rows) = true

end TransferState

/-- What marking a copy paid leaves in the row. -/
structure PaidRow (order row : Order) : Prop extends SameAmounts order row where
  payment : row.paymentStatus = if order.paysDeposit then order.paymentStatus else .paid

theorem payByProof_isOk (order : Order) (intent : ManualPaymentIntent) (declared : Option Int)
    (now : Time) : ∃ paid, payByProof order intent declared now = .ok paid ∧ PaidRow order paid := by
  obtain ⟨paid, marked, amounts, settled⟩ :=
    markAsPaid_money order intent.referenceCode (some intent.method.value) now
  refine ⟨_, bind_eq_ok.mpr ⟨paid, marked, rfl⟩, ⟨amounts.collectible, amounts.required⟩, ?_⟩
  unfold Settled at settled
  split at settled
  · rename_i deposit
    rw [if_pos deposit]
    exact settled.1
  · rename_i full
    rw [if_neg full]
    exact settled.1

namespace TransferRows

/-- What the writes after an approval leave in the rows. -/
structure SettledRows (rows after : TransferRows) (orderId : UUID) (order : Order) : Prop where
  orders : ∃ row, after.orders = rows.orders.set orderId row ∧ PaidRow order row
  intents : ∀ id, (after.intents.get? id).map ManualPaymentIntent.amountCents =
    (rows.intents.get? id).map ManualPaymentIntent.amountCents
  proofs : after.proofs = rows.proofs

theorem updateIntent_amounts (rows : TransferRows) (orderId : UUID)
    (status : ManualPaymentIntentStatus) (id : UUID) :
    ((rows.updateIntent orderId status).intents.get? id).map ManualPaymentIntent.amountCents =
      (rows.intents.get? id).map ManualPaymentIntent.amountCents := by
  by_cases same : id = orderId
  · subst same
    simp only [updateIntent, Table.get?_modify_self, Option.map_map]
    rfl
  · simp only [updateIntent, Table.get?_modify_of_ne _ _ same]

theorem settleByProof_isOk {rows : TransferRows} {orderId : UUID} {stored : Order}
    (present : rows.orders.get? orderId = some stored) (order : Order)
    (intent : ManualPaymentIntent) (declared : Option Int) (now : Time) :
    ∃ after, rows.settleByProof orderId order intent declared now = .ok after ∧
      SettledRows rows after orderId order := by
  obtain ⟨paid, ok, made⟩ := payByProof_isOk order intent declared now
  have same := sameMoney_update stored paid now
  let marked := rows.updateIntent orderId intent.markPaid.status
  have found : marked.orders.get? orderId = some stored := present
  refine ⟨{ marked with
    orders := marked.orders.set orderId (OrderRepository.update stored paid now) }, ?_, ?_, ?_, rfl⟩
  · simp only [settleByProof, ok, updateOrder]
    rw [found]
  · refine ⟨_, rfl, made.toSameAmounts.trans same.toSameAmounts, ?_⟩
    rw [same.payment, made.payment]
  · exact rows.updateIntent_amounts orderId _

theorem asksDeposit_congr {before after : Order} {first second : Option ManualPaymentIntent}
    (required : after.depositRequiredCents = before.depositRequiredCents)
    (amounts : second.map ManualPaymentIntent.amountCents =
      first.map ManualPaymentIntent.amountCents) :
    asksDeposit after second = asksDeposit before first := by
  have asked (intent : Option ManualPaymentIntent) (order : Order) :
      (intent.any fun intent => order.depositRequiredCents = some intent.amountCents) =
        (intent.map ManualPaymentIntent.amountCents).any
          fun amount => order.depositRequiredCents = some amount := by
    cases intent <;> rfl
  unfold asksDeposit
  rw [asked, asked, amounts, required]

/-- Nothing becomes paid where the orders stay as they are. -/
theorem paidOnlyCovered_of_orders {before after : TransferRows}
    (same : after.orders = before.orders) : PaidOnlyCovered before after := by
  intro orderId becomes
  unfold becomesPaid at becomes
  rw [same] at becomes
  cases found : before.orders.get? orderId with
  | none => simp [found] at becomes
  | some order => simp [found] at becomes

namespace SettledRows
variable {rows after : TransferRows} {orderId : UUID} {order stored : Order}

theorem row (settled : SettledRows rows after orderId order) :
    ∃ row, after.orders.get? orderId = some row ∧ PaidRow order row := by
  rcases settled.orders with ⟨row, written, made⟩
  refine ⟨row, ?_, made⟩
  rw [written, Table.get?_set, if_pos rfl]

theorem elsewhere (settled : SettledRows rows after orderId order) {id : UUID}
    (other : id ≠ orderId) : after.orders.get? id = rows.orders.get? id := by
  rcases settled.orders with ⟨row, written, -⟩
  rw [written, Table.get?_set, if_neg other]

theorem covered_eq (settled : SettledRows rows after orderId order) :
    after.covered orderId =
      (decide ((order.collectibleTotal : Int) ≤ amountPaidCents rows.proofs orderId) &&
        !asksDeposit order (rows.intents.get? orderId)) := by
  rcases settled.row with ⟨row, found, made⟩
  have asked : asksDeposit row (after.intents.get? orderId) =
      asksDeposit order (rows.intents.get? orderId) :=
    asksDeposit_congr made.required (settled.intents orderId)
  unfold covered
  rw [found, Option.all_some, asked, settled.proofs, made.collectible]

/-- The branch of `mark_as_paid` decides whether the row turns to paid. -/
theorem becomesPaid_eq (settled : SettledRows rows after orderId order)
    (unpaid : order.paymentStatus ≠ .paid) (present : rows.orders.get? orderId = some stored) :
    becomesPaid rows after orderId = (!stored.isPaid && !order.paysDeposit) := by
  rcases settled.row with ⟨row, found, made⟩
  have turned : row.isPaid = !order.paysDeposit := by
    unfold Order.isPaid
    rw [made.payment]
    cases order.paysDeposit with
    | true => simp [unpaid]
    | false => simp
  unfold becomesPaid
  rw [present, found, Option.any_some, Option.any_some, turned]

theorem becomesPaid_elsewhere (settled : SettledRows rows after orderId order) {id : UUID}
    (other : id ≠ orderId) : becomesPaid rows after id = false := by
  unfold becomesPaid
  rw [settled.elsewhere other]
  cases rows.orders.get? id with
  | none => rfl
  | some order => simp

/-- Only the order that was settled can break the law. -/
theorem paidOnlyCovered_iff (settled : SettledRows rows after orderId order) :
    PaidOnlyCovered rows after ↔
      (becomesPaid rows after orderId = true → after.covered orderId = true) := by
  constructor
  · intro law
    exact law orderId
  · intro law id turned
    by_cases same : id = orderId
    · rw [same] at turned ⊢
      exact law turned
    · rw [settled.becomesPaid_elsewhere same] at turned
      cases turned

end SettledRows

/-- The rows after an approval keep the law exactly if the approval was sound. -/
theorem paidOnlyCovered_iff_sound {rows after : TransferRows} {proofs : PaymentProofRows}
    {approval : Approval} {stored : Order}
    (settled : SettledRows { rows with proofs := proofs } after approval.orderId approval.order)
    (unpaid : approval.order.paymentStatus ≠ .paid)
    (present : rows.orders.get? approval.orderId = some stored)
    (amount : amountPaidCents proofs approval.orderId =
      amountPaidCents (rows.proofs.erase approval.proofId) approval.orderId +
        approval.amountCents) :
    PaidOnlyCovered rows after ↔ approval.sound rows = true := by
  have law : PaidOnlyCovered rows after ↔
      (becomesPaid rows after approval.orderId = true →
        after.covered approval.orderId = true) := settled.paidOnlyCovered_iff
  have becomes : becomesPaid rows after approval.orderId =
      (!stored.isPaid && !approval.order.paysDeposit) := settled.becomesPaid_eq unpaid present
  rw [law, becomes, settled.covered_eq]
  simp only [amount]
  unfold Approval.sound
  rw [present, Option.any_some]
  cases stored.isPaid <;> cases approval.order.paysDeposit <;> simp [and_comm]

end TransferRows

open TransferRows

section
variable {rows : TransferRows}

theorem amountPaid_set (proofs : PaymentProofRows) (proofId : UUID) (proof : PaymentProof)
    (orderId : UUID) :
    amountPaidCents (proofs.set proofId proof) orderId =
      amountPaidCents (proofs.erase proofId) orderId + proof.collected orderId :=
  proofs.sumOf_set proofId proof _

/-- What a submission's writes do, by the approval it carries. -/
theorem persist_law [CaseFold] {upload : ProofUpload} {order : UnpaidOrder}
    {intent : ManualPaymentIntent} {stored : Order}
    (present : rows.orders.get? upload.orderId = some stored) (vision : ProofVision)
    (proofId : UUID) (now : Time) :
    PaidOnlyCovered rows
        (orKeep rows (SubmitPaymentProof.persist rows upload order intent vision proofId now)) ↔
      (TransferState.submitted rows vision proofId now (.accepted upload order intent)).all
        (fun approval => approval.sound rows) = true := by
  unfold TransferState.submitted SubmitPaymentProof.persist
  simp only
  set verdict := SubmitPaymentProof.decision rows upload order intent vision now
  set proof := SubmitPaymentProof.judged upload order intent vision now verdict with judged
  unfold PaymentProofRepository.create
  cases clash : violated rows.proofs proofId proof with
  | some constraint =>
      simp only [Option.isNone_some, Bool.and_false, Bool.false_eq_true, if_false]
      exact iff_of_true (paidOnlyCovered_of_orders rfl) rfl
  | none =>
      cases approved : verdict.approved with
      | false =>
          simp only [Bool.false_and, Bool.false_eq_true, if_false]
          exact iff_of_true (paidOnlyCovered_of_orders rfl) rfl
      | true =>
          simp only [Option.isNone_none, Bool.and_self, if_true, Option.all_some]
          let row := PaymentProofRepository.inserted proof upload.startedAt
          let written : TransferRows := { rows with proofs := rows.proofs.set proofId row }
          have found : written.orders.get? upload.orderId = some stored := present
          obtain ⟨after, ok, settled⟩ :=
            settleByProof_isOk found order intent proof.declaredAmountCents now
          have counted : row.collected upload.orderId =
              upload.declaredAmountCents.getD intent.amountCents := by
            simp [row, judged, PaymentProofRepository.inserted,
              SubmitPaymentProof.judged, approved, PaymentProof.collected,
              PaymentProof.settled, PaymentProof.markAutoApproved, PaymentProof.declareAmount,
              SubmitPaymentProof.newProof]
          have amount := amountPaid_set rows.proofs proofId row upload.orderId
          rw [counted] at amount
          let approval : Approval :=
            ⟨upload.orderId, proofId, order, upload.declaredAmountCents.getD intent.amountCents⟩
          have law : PaidOnlyCovered rows after ↔ approval.sound rows = true :=
            paidOnlyCovered_iff_sound settled order.2 present amount
          rw [ok]
          exact law

/-- The stored proof that a review has read answers the order it has read. -/
def Answers (rows : TransferRows) (proofId : UUID) (proof : PaymentProof) : Prop :=
  ∃ row, rows.proofs.get? proofId = some row ∧ row.orderId = proof.orderId

theorem updateProof_isOk {proofId : UUID} {row : PaymentProof}
    (found : rows.proofs.get? proofId = some row) (proof : PaymentProof) (now : Time) :
    ReviewPaymentProof.updateProof rows proofId proof now =
      .ok { rows with
        proofs := rows.proofs.set proofId (PaymentProofRepository.merge row proof now) } := by
  simp only [ReviewPaymentProof.updateProof, PaymentProofRepository.update, found, Option.map_some]

/-- What a review's writes do, by the approval it carries. -/
theorem approve_law {proofId : UUID} {proof : PaymentProof} {order stored : Order}
    (answers : Answers rows proofId proof)
    (present : rows.orders.get? proof.orderId = some stored) (reviewer : UUID) (now : Time) :
    PaidOnlyCovered rows
        (orKeep rows
          (ReviewPaymentProof.decide rows proofId proof order reviewer .approve now)) ↔
      (TransferState.reviewed rows (.loaded proofId proof order)).all
        (fun approval => approval.sound rows) = true := by
  simp only [TransferState.reviewed, ReviewPaymentProof.decide, ReviewPaymentProof.approve]
  cases asked : rows.intents.get? proof.orderId with
  | none =>
      refine iff_of_true (paidOnlyCovered_of_orders rfl) ?_
      simp only [Option.map_none, ite_self]
      rfl
  | some intent =>
      simp only
      by_cases paid : order.paymentStatus = .paid
      · rw [if_pos paid, if_pos paid]
        exact iff_of_true (paidOnlyCovered_of_orders rfl) rfl
      · rw [if_neg paid, if_neg paid]
        rcases answers with ⟨row, found, same⟩
        set approved := (proof.declareAmount intent).markApproved reviewer now
        let merged := PaymentProofRepository.merge row approved now
        let written : TransferRows := { rows with proofs := rows.proofs.set proofId merged }
        have kept : written.orders.get? proof.orderId = some stored := present
        obtain ⟨after, ok, settled⟩ :=
          settleByProof_isOk kept order intent approved.declaredAmountCents now
        have counted : merged.collected proof.orderId =
            proof.declaredAmountCents.getD intent.amountCents := by
          simp [merged, approved, PaymentProofRepository.merge, PaymentProof.collected,
            PaymentProof.settled, PaymentProof.markApproved, PaymentProof.declareAmount, same]
        have amount := amountPaid_set rows.proofs proofId merged proof.orderId
        rw [counted] at amount
        let approval : Approval :=
          ⟨proof.orderId, proofId, order, proof.declaredAmountCents.getD intent.amountCents⟩
        have law : PaidOnlyCovered rows after ↔ approval.sound rows = true :=
          paidOnlyCovered_iff_sound settled paid present amount
        rw [updateProof_isOk found]
        simp only [Option.map_some, Option.all_some]
        rw [ok]
        exact law

theorem reject_orders (proofId : UUID) (proof : PaymentProof) (order : Order) (reviewer : UUID)
    (reason : Option String) (now : Time) :
    (orKeep rows (ReviewPaymentProof.decide rows proofId proof order reviewer (.reject reason)
      now)).orders = rows.orders := by
  unfold ReviewPaymentProof.decide
  cases rows.intents.get? proof.orderId with
  | none => rfl
  | some intent =>
      simp only [ReviewPaymentProof.reject, ReviewPaymentProof.updateProof]
      split
      · rfl
      · split <;> rfl

/-- No order and no proof goes, and a proof stays with its order. -/
structure Extends (before after : TransferRows) : Prop where
  orders : ∀ id, (before.orders.get? id).isSome → (after.orders.get? id).isSome
  proofs : ∀ id proof, Answers before id proof → Answers after id proof

theorem Extends.refl (rows : TransferRows) : Extends rows rows :=
  ⟨fun _ present => present, fun _ _ answers => answers⟩

theorem Extends.trans {first second third : TransferRows} (before : Extends first second)
    (after : Extends second third) : Extends first third :=
  ⟨fun id present => after.orders id (before.orders id present),
    fun id proof answers => after.proofs id proof (before.proofs id proof answers)⟩

theorem extends_setProof {proofId : UUID} {proof : PaymentProof}
    (kept : ∀ row, rows.proofs.get? proofId = some row → proof.orderId = row.orderId) :
    Extends rows { rows with proofs := rows.proofs.set proofId proof } := by
  refine ⟨fun _ present => present, ?_⟩
  intro id read answers
  rcases answers with ⟨row, found, same⟩
  unfold Answers
  simp only [Table.get?_set]
  by_cases here : id = proofId
  · subst here
    rw [if_pos rfl]
    exact ⟨proof, rfl, (kept row found).trans same⟩
  · rw [if_neg here]
    exact ⟨row, found, same⟩

theorem extends_settleByProof {after : TransferRows} {orderId : UUID} {order : Order}
    {intent : ManualPaymentIntent} {declared : Option Int} {now : Time}
    (ok : rows.settleByProof orderId order intent declared now = .ok after) :
    Extends rows after := by
  unfold settleByProof at ok
  split at ok
  · cases ok
  · unfold updateOrder at ok
    split at ok
    · cases ok
    · cases ok
      refine ⟨fun id present => ?_, fun _ _ answers => answers⟩
      simp only [Table.get?_set]
      split
      · rfl
      · exact present

theorem extends_persist [CaseFold] (upload : ProofUpload) (order : Order)
    (intent : ManualPaymentIntent) (vision : ProofVision) (proofId : UUID) (now : Time) :
    Extends rows
      (orKeep rows (SubmitPaymentProof.persist rows upload order intent vision proofId now)) := by
  apply Outcome.orKeep_of_ok (.refl rows)
  intro after ok
  unfold SubmitPaymentProof.persist PaymentProofRepository.create at ok
  simp only at ok
  set verdict := SubmitPaymentProof.decision rows upload order intent vision now
  set proof := SubmitPaymentProof.judged upload order intent vision now verdict
  cases clash : violated rows.proofs proofId proof with
  | some constraint =>
      rw [clash] at ok
      cases ok
  | none =>
      rw [clash] at ok
      simp only at ok
      have fresh : rows.proofs.get? proofId = none := by
        unfold violated at clash
        split at clash
        · cases clash
        · rename_i absent
          simpa using absent
      let row := PaymentProofRepository.inserted proof upload.startedAt
      have created : Extends rows { rows with proofs := rows.proofs.set proofId row } := by
        apply extends_setProof
        intro stored found
        rw [fresh] at found
        cases found
      split at ok
      · exact created.trans (extends_settleByProof ok)
      · cases ok
        exact created.trans ⟨fun _ present => present, fun _ _ answers => answers⟩

theorem extends_updateProof {after : TransferRows} {proofId : UUID} {proof : PaymentProof}
    {now : Time} (ok : ReviewPaymentProof.updateProof rows proofId proof now = .ok after) :
    Extends rows after := by
  unfold ReviewPaymentProof.updateProof PaymentProofRepository.update at ok
  cases found : rows.proofs.get? proofId with
  | none =>
      rw [found] at ok
      cases ok
  | some row =>
      rw [found] at ok
      cases ok
      apply extends_setProof
      intro stored same
      rw [found] at same
      cases same
      rfl

theorem extends_decide (proofId : UUID) (proof : PaymentProof) (order : Order) (reviewer : UUID)
    (decision : ReviewDecision) (now : Time) :
    Extends rows
      (orKeep rows
        (ReviewPaymentProof.decide rows proofId proof order reviewer decision now)) := by
  apply Outcome.orKeep_of_ok (.refl rows)
  intro after ok
  unfold ReviewPaymentProof.decide at ok
  split at ok
  · cases ok
  · cases decision with
    | approve =>
        simp only [ReviewPaymentProof.approve] at ok
        split at ok
        · cases ok
        · split at ok
          · cases ok
          · rename_i updated
            exact (extends_updateProof updated).trans (extends_settleByProof ok)
    | reject reason =>
        simp only [ReviewPaymentProof.reject] at ok
        split at ok
        · cases ok
        · exact extends_updateProof ok

end

/-- The rows that a submission under way has read are still there. -/
def Submitting.Stored (rows : TransferRows) : Submitting → Prop
  | idle => True
  | loaded upload _ => (rows.orders.get? upload.orderId).isSome
  | accepted upload _ _ => (rows.orders.get? upload.orderId).isSome

def Reviewing.Stored (rows : TransferRows) : Reviewing → Prop
  | idle => True
  | opened proofId proof => Answers rows proofId proof
  | loaded proofId proof _ =>
      Answers rows proofId proof ∧ (rows.orders.get? proof.orderId).isSome

theorem Submitting.Stored.mono {before after : TransferRows} (extends_ : Extends before after)
    {submitting : Submitting} (stored : submitting.Stored before) : submitting.Stored after := by
  cases submitting with
  | idle => trivial
  | loaded upload order => exact extends_.orders _ stored
  | accepted upload order intent => exact extends_.orders _ stored

theorem Reviewing.Stored.mono {before after : TransferRows} (extends_ : Extends before after)
    {reviewing : Reviewing} (stored : reviewing.Stored before) : reviewing.Stored after := by
  cases reviewing with
  | idle => trivial
  | opened proofId proof => exact extends_.proofs _ _ stored
  | loaded proofId proof order =>
      exact ⟨extends_.proofs _ _ stored.1, extends_.orders _ stored.2⟩

namespace TransferState

structure Sound (state : TransferState) : Prop where
  submissions : ∀ session, (state.submissions session).Stored state.rows
  reviews : ∀ session, (state.reviews session).Stored state.rows

section
variable {state : TransferState}

theorem Sound.setSubmission (sound : state.Sound) (session : Nat) {submitting : Submitting}
    (stored : submitting.Stored state.rows) : (state.setSubmission session submitting).Sound := by
  refine ⟨fun other => ?_, sound.reviews⟩
  by_cases same : other = session
  · subst same
    simpa [TransferState.setSubmission] using stored
  · simpa [TransferState.setSubmission, same] using sound.submissions other

theorem Sound.setReview (sound : state.Sound) (session : Nat) {reviewing : Reviewing}
    (stored : reviewing.Stored state.rows) : (state.setReview session reviewing).Sound := by
  refine ⟨sound.submissions, fun other => ?_⟩
  by_cases same : other = session
  · subst same
    simpa [TransferState.setReview] using stored
  · simpa [TransferState.setReview, same] using sound.reviews other

theorem Sound.write (sound : state.Sound) {rows : TransferRows}
    (extends_ : Extends state.rows rows) : ({ state with rows := rows } : TransferState).Sound :=
  ⟨fun session => (sound.submissions session).mono extends_,
    fun session => (sound.reviews session).mono extends_⟩

end

theorem submit_stored (rows : TransferRows) (upload : ProofUpload) :
    (submit rows upload).Stored rows := by
  unfold submit
  split
  · rename_i order loaded
    unfold SubmitPaymentProof.load at loaded
    split at loaded
    · cases loaded
    · split at loaded
      · split at loaded <;> cases loaded
      · cases found : rows.orders.get? upload.orderId with
        | none =>
            rw [found] at loaded
            cases loaded
        | some stored =>
            simp only [Submitting.Stored, found, Option.isSome_some]
  · trivial

theorem check_stored {rows : TransferRows} {submitting : Submitting}
    (stored : submitting.Stored rows) (now : Time) : (check rows now submitting).Stored rows := by
  cases submitting with
  | idle => trivial
  | accepted upload order intent => trivial
  | loaded upload order =>
      unfold check
      simp only
      split
      · exact stored
      · trivial

theorem review_stored (rows : TransferRows) (proofId : UUID) :
    (review rows proofId).Stored rows := by
  unfold review ReviewPaymentProof.openProof
  cases found : rows.proofs.get? proofId with
  | none => trivial
  | some proof =>
      simp only
      split
      · rename_i opened
        split at opened
        · cases opened
        · cases opened
          exact ⟨proof, found, rfl⟩
      · trivial

theorem loadOrder_stored {rows : TransferRows} {reviewing : Reviewing}
    (stored : reviewing.Stored rows) : (loadOrder rows reviewing).Stored rows := by
  cases reviewing with
  | idle => trivial
  | loaded proofId proof order => trivial
  | opened proofId proof =>
      simp only [loadOrder, ReviewPaymentProof.loadOrder]
      cases found : rows.orders.get? proof.orderId with
      | none => trivial
      | some order =>
          have present : (rows.orders.get? proof.orderId).isSome := by
            rw [found]
            rfl
          exact ⟨stored, present⟩

variable [CaseFold]

theorem extends_writes (rows : TransferRows) (vision : ProofVision) (proofId : UUID) (now : Time)
    (submitting : Submitting) :
    Extends rows (orKeep rows (persist rows vision proofId now submitting)) := by
  cases submitting with
  | idle => exact .refl rows
  | loaded upload order => exact .refl rows
  | accepted upload order intent => exact extends_persist upload order intent vision proofId now

omit [CaseFold] in
theorem extends_review (rows : TransferRows) (reviewer : UUID) (decision : ReviewDecision)
    (now : Time) (reviewing : Reviewing) :
    Extends rows (orKeep rows (decide rows reviewer decision now reviewing)) := by
  cases reviewing with
  | idle => exact .refl rows
  | opened proofId proof => exact .refl rows
  | loaded proofId proof order => exact extends_decide proofId proof order reviewer decision now

theorem step_sound (state : TransferState) (label : TransferLabel) (sound : state.Sound) :
    (state.step label).Sound := by
  cases label with
  | submit session upload =>
      exact sound.setSubmission session (submit_stored state.rows upload)
  | check session now =>
      exact sound.setSubmission session (check_stored (sound.submissions session) now)
  | persist session vision proofId now =>
      have written := sound.write
        (extends_writes state.rows vision proofId now (state.submissions session))
      exact written.setSubmission session trivial
  | review session proofId => exact sound.setReview session (review_stored state.rows proofId)
  | loadOrder session =>
      exact sound.setReview session (loadOrder_stored (sound.reviews session))
  | decide session reviewer decision now =>
      have written := sound.write
        (extends_review state.rows reviewer decision now (state.reviews session))
      exact written.setReview session trivial

/-- A step keeps the law exactly if what it approves is sound. -/
theorem step_law (state : TransferState) (label : TransferLabel) (sound : state.Sound) :
    PaidOnlyCovered state.rows (state.step label).rows ↔ state.Admitted label := by
  have unchanged : PaidOnlyCovered state.rows state.rows := paidOnlyCovered_of_orders rfl
  cases label with
  | submit session upload => exact iff_of_true unchanged rfl
  | check session now => exact iff_of_true unchanged rfl
  | review session proofId => exact iff_of_true unchanged rfl
  | loadOrder session => exact iff_of_true unchanged rfl
  | persist session vision proofId now =>
      have stored := sound.submissions session
      simp only [step, Admitted, approval, TransferState.setSubmission]
      cases submitting : state.submissions session with
      | idle => exact iff_of_true unchanged rfl
      | loaded upload order => exact iff_of_true unchanged rfl
      | accepted upload order intent =>
          rw [submitting] at stored
          rcases Option.isSome_iff_exists.mp stored with ⟨row, present⟩
          exact persist_law present vision proofId now
  | decide session reviewer decision now =>
      have stored := sound.reviews session
      simp only [step, Admitted, TransferState.setReview]
      cases reviewing : state.reviews session with
      | idle =>
          cases decision with
          | approve =>
              refine iff_of_true unchanged ?_
              simp only [approval, reviewing, reviewed, Option.all_none]
          | reject reason => exact iff_of_true unchanged rfl
      | opened proofId proof =>
          cases decision with
          | approve =>
              refine iff_of_true unchanged ?_
              simp only [approval, reviewing, reviewed, Option.all_none]
          | reject reason => exact iff_of_true unchanged rfl
      | loaded proofId proof order =>
          cases decision with
          | reject reason =>
              apply iff_of_true ?_ rfl
              exact paidOnlyCovered_of_orders
                (reject_orders proofId proof order reviewer reason now)
          | approve =>
              rw [reviewing] at stored
              rcases Option.isSome_iff_exists.mp stored.2 with ⟨row, present⟩
              simp only [approval, reviewing]
              exact approve_law stored.1 present reviewer now

end TransferState

theorem TransferState.start_sound (rows : TransferRows) :
    ({ rows := rows } : TransferState).Sound :=
  ⟨fun _ => trivial, fun _ => trivial⟩

/-- Proofs mark an order paid beyond what they cover exactly when an approval is written that
is not sound. -/
theorem proofs_cover_payment [CaseFold] (rows : TransferRows) (labels : List TransferLabel) :
    Run.Transitions TransferState.step
        (fun before after => PaidOnlyCovered before.rows after.rows) { rows := rows } labels ↔
      Run.Guarded TransferState.step TransferState.Admitted { rows := rows } labels :=
  Run.transitions_iff_guarded TransferState.step_sound TransferState.step_law
    (TransferState.start_sound rows) labels

/-- A COD order of 100.00 whose deposit of 20.00 is paid by InstaPay. -/
def depositRows : TransferRows where
  orders := .ofList [(1, {
    id := 1
    storeId := 7
    customerId := 3
    status := .pendingDeposit
    total := 10000
    paymentMethod := some "cod"
    depositRequiredCents := some 2000
    depositAmountCents := some 2000
    depositGateway := some "instapay" })]
  intents := .ofList [(1, {
    referenceCode := "NU-7K2M9Q"
    amountCents := 2000
    expiresAt := 1800000000 })]

def depositUpload (imageHash : BitVec 256) (transactionRef : String) (startedAt : Time) :
    ProofUpload where
  storeId := 7
  orderId := 1
  customerId := 3
  proofImageHash := imageHash
  transactionRef := transactionRef
  config :=
    { thresholdCents := 50000
      dailyCapCents := 500000
      dailyCountCap := 10
      enabled := false }
  startedAt := startedAt

/-- The customer uploads two receipts of the deposit and the merchant approves both. -/
def twoDepositProofs : List TransferLabel :=
  [.submit 0 (depositUpload 5 "100200300" 50), .check 0 60, .persist 0 {} 21 60,
    .submit 1 (depositUpload 6 "100200301" 65), .check 1 70, .persist 1 {} 22 70,
    .review 0 21, .loadOrder 0, .decide 0 9 .approve 80,
    .review 1 22, .loadOrder 1, .decide 1 9 .approve 90]

theorem second_deposit_proof_pays :
    let _ := CaseFold.ascii
    ¬ Run.Transitions TransferState.step
      (fun before after => PaidOnlyCovered before.rows after.rows)
      { rows := depositRows } twoDepositProofs := by
  intro _ law
  rcases law with ⟨-, -, -, -, -, -, -, -, -, -, -, last, -⟩
  have covered := last 1 (by decide +kernel)
  exact absurd covered (by decide +kernel)

end Numu.Payments
