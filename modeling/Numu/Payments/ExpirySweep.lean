import Numu.Foundation.Run
import Numu.Orders.OrderRepository
import Numu.Payments.ManualTransfer
import Numu.Payments.Webhooks

/-! The expiry sweeps beside the payment callbacks and proof approvals of one order. -/

namespace Numu.Payments
open Numu.Orders
open Numu.Outcome (bind_eq_ok)
open Numu.Stock (Inventory Reply TextCase manifest tryRestockOrder restockLines minusRestocked)

/-- The proof under review and the intent it answers. -/
structure ProofReview where
  proofStatus : PaymentProofStatus := .awaitingReview
  declaredAmountCents : Option Int := none
  amountCents : Int
  referenceCode : String
  method : String

/-- What a payment does to the copy of the order it read. -/
inductive Payment where
  | paymob (callback : PaymobCallback)
  | kashier (callback : KashierCallback)
  | fawry (callback : FawryCallback)
  /-- The other gateways settle the order with `mark_as_paid` alone. -/
  | settled (paymentId paymentMethod : String)
  | approved (review : ProofReview)

/-- The approving branch of `ReviewPaymentProofUseCase.execute`. -/
def approveProof (order : Order) (review : ProofReview) (now : Time) : Except String Order :=
  if review.proofStatus ≠ .awaitingReview then
    .error s!"Proof is already {review.proofStatus.value}; cannot review again."
  else if order.paymentStatus = .paid then .error "Order is already paid."
  else do
    let paid ← order.markAsPaid review.referenceCode (some review.method) now
    let recorded := { paid with
      depositAmountCents :=
        if paid.paymentStatus = .paid then paid.depositAmountCents
        else some (review.declaredAmountCents.getD review.amountCents) }
    return OrderRepository.update order recorded now

def Payment.process [TextCase] (inv : Inventory) (replies : Nat → Reply) (order : Order)
    (now : Time) : Payment → Processed
  | paymob callback => paymobCallback inv replies order callback now
  | kashier callback => kashierCallback inv order callback now
  | fawry callback => fawryCallback inv replies order callback now
  | settled paymentId paymentMethod => do
      let paid ← order.markAsPaid paymentId (some paymentMethod) now
      return some (inv, OrderRepository.update order paid now)
  | approved review => do
      let row ← approveProof order review now
      return some (inv, row)

inductive Sweep where
  | deposit
  /-- `escalated` is the bucket of proofs nobody reviewed in time. -/
  | instapay (escalated : Bool)
  deriving DecidableEq, Repr

/-- `AWAITING_PAYMENT_TTL_MINUTES`, in microseconds. -/
def awaitingPaymentTtl : Time := 120 * 60 * 1000000

/-- The filter of the deposit sweep's scan. -/
def depositExpired (order : Order) (now : Time) : Bool :=
  (order.status = .pendingDeposit && order.depositExpiresAt.any (· ≤ now)) ||
    (order.status = .awaitingPayment && order.createdAt + awaitingPaymentTtl ≤ now)

/-- What a sweep asks the other tables while it decides. -/
structure SweepAnswers where
  /-- The order's intent is in `PROOF_RECEIVED`. -/
  proofReceived : Bool := false
  /-- `has_recorded_payments`. -/
  recordedPayments : Bool := false

/-- The reason a sweep cancels the copy with, if it does. -/
def cancelReason (copy : Order) (answers : SweepAnswers) : Sweep → Option String
  | .deposit =>
      if copy.status ≠ .pendingDeposit ∧ copy.status ≠ .awaitingPayment then none
      else if !copy.canBeCancelled || copy.isPaid then none
      else if answers.proofReceived then none
      else if copy.status = .pendingDeposit ∧ answers.recordedPayments then none
      else if copy.status = .pendingDeposit then some "COD deposit payment window expired"
      else some "Card payment not completed"
  | .instapay escalated =>
      if copy.isPaid || answers.recordedPayments then none
      else if copy.canBeCancelled then
        if escalated then some "InstaPay proof not reviewed within grace window"
        else some "InstaPay payment window expired"
      else none

def restockReason (reason : String) : Sweep → String
  | .deposit => "deposit_window_expired"
  | .instapay _ => reason

/-- `order.cancel` and the restock of what it held, before the update. -/
def cancelCopy [TextCase] (inv : Inventory) (replies : Nat → Reply) (sweep : Sweep) (copy : Order)
    (reason : String) (now : Time) : Except String (Inventory × Order) := do
  let cancelled ← copy.cancel (some reason) now
  let restocked := tryRestockOrder inv replies cancelled (some (restockReason reason sweep)) now
  return (restocked.inventory, restocked.order)

/-- `OrderRepository.update` at the end of a sweep. The deposit sweep still holds the rows of
its scan, so only what it changed is written; the InstaPay sweep selects the row anew. -/
def sweepUpdate (sweep : Sweep) (stored copy entity : Order) (now : Time) : Order :=
  match sweep with
  | .deposit => OrderRepository.updateChanged stored copy entity now
  | .instapay _ => OrderRepository.update stored entity now

inductive Sweeping where
  | idle
  | holding (sweep : Sweep) (copy : Order)
  | cancelling (sweep : Sweep) (copy : Order) (reason : String)
  deriving DecidableEq

/-- The payment columns of an order row. -/
structure PaymentRecord where
  paymentStatus : PaymentStatus
  paymentId : Option String
  paymentMethod : Option String
  paidAt : Option Time
  depositAmountCents : Option Int
  depositPaidAt : Option Time
  depositGateway : Option String
  depositPaymentId : Option String
  deriving DecidableEq

def paymentRecord (order : Order) : PaymentRecord where
  paymentStatus := order.paymentStatus
  paymentId := order.paymentId
  paymentMethod := order.paymentMethod
  paidAt := order.paidAt
  depositAmountCents := order.depositAmountCents
  depositPaidAt := order.depositPaidAt
  depositGateway := order.depositGateway
  depositPaymentId := order.depositPaymentId

structure SweepState where
  order : Order
  inventory : Inventory
  sweeps : Nat → Sweeping := fun _ => .idle
  /-- The copies that payments have read and not yet written back. -/
  payments : Nat → Option Order := fun _ => none
  /-- A sweep cancelled the order and gave its stock back although money was recorded. -/
  cancelledReceived : Bool := false
  /-- A sweep wrote its copy over the payment columns of an order with money recorded. -/
  overwritten : Bool := false

inductive SweepLabel where
  | scan (session : Nat) (now : Time)
  | read (session : Nat) (escalated : Bool)
  | decide (session : Nat) (answers : SweepAnswers)
  /-- The update up to the commit: the row is locked in between. -/
  | write (session : Nat) (replies : Nat → Reply) (now : Time)
  /-- The batch failed and rolled back. -/
  | abandon (session : Nat)
  | readForPayment (session : Nat)
  | pay (session : Nat) (payment : Payment) (replies : Nat → Reply) (now : Time)
  /-- A payment that read the row with a lock. -/
  | payLocked (payment : Payment) (replies : Nat → Reply) (now : Time)

namespace SweepState

def move (state : SweepState) (session : Nat) (sweeping : Sweeping) : SweepState :=
  { state with sweeps := Function.update state.sweeps session sweeping }

/-- A sweep's write: the row it leaves, and what it did to money recorded before it. -/
def swept (state : SweepState) (inventory : Inventory) (row : Order) : SweepState :=
  { state with
    order := row
    inventory := inventory
    cancelledReceived := state.cancelledReceived ||
      received state.order && row.status = .cancelled && row.metadata.stockRestockedAt.isSome
    overwritten := state.overwritten ||
      received state.order && paymentRecord row ≠ paymentRecord state.order }

section
variable [TextCase]

def write (state : SweepState) (replies : Nat → Reply) (sweep : Sweep) (copy : Order)
    (reason : String) (now : Time) : SweepState :=
  match cancelCopy state.inventory replies sweep copy reason now with
  | .error _ => state
  | .ok (inventory, entity) =>
      state.swept inventory (sweepUpdate sweep state.order copy entity now)

/-- An update stamps a later `updated_at`, so a row equal to the copy was not written. -/
def pay (state : SweepState) (copy : Order) (payment : Payment) (replies : Nat → Reply)
    (now : Time) : SweepState :=
  match payment.process state.inventory replies copy now with
  | .ok (some (inventory, row)) =>
      { state with
        inventory := inventory
        order := if row = copy then state.order else row }
  | _ => state

def step (state : SweepState) : SweepLabel → SweepState
  | .scan session now =>
      if depositExpired state.order now then state.move session (.holding .deposit state.order)
      else state
  | .read session escalated => state.move session (.holding (.instapay escalated) state.order)
  | .decide session answers =>
      match state.sweeps session with
      | .holding sweep copy =>
          match cancelReason copy answers sweep with
          | some reason => state.move session (.cancelling sweep copy reason)
          | none => state.move session .idle
      | _ => state
  | .write session replies now =>
      match state.sweeps session with
      | .cancelling sweep copy reason =>
          (state.write replies sweep copy reason now).move session .idle
      | _ => state
  | .abandon session => state.move session .idle
  | .readForPayment session =>
      { state with payments := Function.update state.payments session (some state.order) }
  | .pay session payment replies now =>
      match state.payments session with
      | some copy =>
          { state.pay copy payment replies now with
            payments := Function.update state.payments session none }
      | none => state
  | .payLocked payment replies now => state.pay state.order payment replies now

/-- The stamp the restock of a copy leaves, or finds. -/
def stampsRestock (inv : Inventory) (replies : Nat → Reply) (order : Order) : Bool :=
  order.metadata.stockRestockedAt.isSome ||
    manifest order ≠ [] &&
      !(restockLines order.tenantId inv replies
        (minusRestocked (manifest order) (order.metadata.stockRestockedLines.getD []))).raised

/-- No order is cancelled and restocked by a sweep over recorded money, and no sweep
writes its copy over the record. -/
def Safe (state : SweepState) : Prop :=
  state.cancelledReceived = false ∧ state.overwritten = false

instance (state : SweepState) : Decidable (Safe state) :=
  inferInstanceAs (Decidable (_ ∧ _))

/-- A cancelling write that meets recorded money has no stock to give back and, where it
writes every column, has read the same record. -/
def harmless (state : SweepState) (replies : Nat → Reply) : Sweeping → Bool
  | .cancelling sweep copy _ =>
      !received state.order ||
        !stampsRestock state.inventory replies copy &&
          (sweep = .deposit || paymentRecord copy = paymentRecord state.order)
  | _ => true

def Undisturbed (state : SweepState) : SweepLabel → Prop
  | .write session replies _ => harmless state replies (state.sweeps session) = true
  | _ => True

instance (state : SweepState) (label : SweepLabel) : Decidable (Undisturbed state label) := by
  cases label <;> unfold Undisturbed <;> infer_instance

end

/-- The sweeps that are about to cancel hold copies that can be. -/
structure Sound (state : SweepState) : Prop where
  safe : Safe state
  cancellable : ∀ session sweep copy reason,
    state.sweeps session = .cancelling sweep copy reason → copy.canBeCancelled = true

end SweepState

/-- What a sweep makes of the copy it read. -/
structure CancelledCopy (copy entity : Order) (stamped : Bool) : Prop where
  status : entity.status = .cancelled
  record : paymentRecord entity = paymentRecord copy
  recorded : entity.statusHistory.length = copy.statusHistory.length + 1
  stamp : entity.metadata.stockRestockedAt.isSome = stamped

theorem CancelledCopy.metadata_ne {copy entity : Order} {stamped : Bool}
    (cancelled : CancelledCopy copy entity stamped) : entity.metadata ≠ copy.metadata := by
  intro same
  have recorded := cancelled.recorded
  simp only [Order.statusHistory, same] at recorded
  omega

section
variable {copy entity : Order} {reason : Option String} {now : Time}

theorem cancel_ok (ok : copy.cancel reason now = .ok entity) :
    copy.canBeCancelled = true ∧
      CancelledCopy copy entity copy.metadata.stockRestockedAt.isSome ∧
      entity.tenantId = copy.tenantId ∧ manifest entity = manifest copy ∧
      entity.metadata.stockRestockedLines = copy.metadata.stockRestockedLines := by
  unfold Order.cancel at ok
  split at ok
  · rename_i open_
    obtain ⟨moved, step, same⟩ := bind_eq_ok.mp ok
    cases same
    simp only [Order.transitionTo] at step
    split at step
    · cases step
      refine ⟨open_, ⟨rfl, rfl, ?_, rfl⟩, rfl, rfl, rfl⟩
      exact List.length_append
    · cases step
  · cases ok

variable [TextCase]

theorem tryRestockOrder_ok (inv : Inventory) (replies : Nat → Reply) (order : Order)
    (reason : Option String) (now : Time) :
    let restocked := (tryRestockOrder inv replies order reason now).order
    restocked.status = order.status ∧ paymentRecord restocked = paymentRecord order ∧
      restocked.statusHistory = order.statusHistory ∧
      restocked.metadata.stockRestockedAt.isSome =
        SweepState.stampsRestock inv replies order := by
  unfold tryRestockOrder Stock.restockOrder SweepState.stampsRestock manifest
  simp only
  split_ifs with noLines stamped raised
  · exact ⟨rfl, rfl, rfl, by simp [noLines]⟩
  · exact ⟨rfl, rfl, rfl, by simp [stamped]⟩
  · exact ⟨rfl, rfl, rfl, by simp [raised]⟩
  · refine ⟨rfl, rfl, rfl, ?_⟩
    simp only [Option.getD_some, Stock.stampRestock, Option.isSome_some]
    simp [raised, noLines]

theorem cancelCopy_ok {inv after : Inventory} {replies : Nat → Reply} {sweep : Sweep}
    {reason : String} (ok : cancelCopy inv replies sweep copy reason now = .ok (after, entity)) :
    CancelledCopy copy entity (SweepState.stampsRestock inv replies copy) := by
  obtain ⟨cancelled, step, same⟩ := bind_eq_ok.mp ok
  cases same
  obtain ⟨-, made, tenant, lines, ledger⟩ := cancel_ok step
  obtain ⟨status, record, history, stamp⟩ := tryRestockOrder_ok inv replies cancelled
    (some (restockReason reason sweep)) now
  refine ⟨status.trans made.status, record.trans made.record, ?_, ?_⟩
  · rw [history, made.recorded]
  · rw [stamp]
    simp only [SweepState.stampsRestock, tenant, lines, ledger, made.stamp]

theorem cancelCopy_isOk (open_ : copy.canBeCancelled = true) (inv : Inventory)
    (replies : Nat → Reply) (sweep : Sweep) (reason : String) (now : Time) :
    ∃ result, cancelCopy inv replies sweep copy reason now = .ok result := by
  obtain ⟨cancelled, ok⟩ := cancel_isOk open_ (some reason) now
  exact ⟨_, bind_eq_ok.mpr ⟨cancelled, ok, rfl⟩⟩

end

/-- A row the sweep still holds keeps its payment columns through the update. -/
theorem updateChanged_record {stored copy entity : Order}
    (same : paymentRecord entity = paymentRecord copy) (now : Time) :
    paymentRecord (OrderRepository.updateChanged stored copy entity now) = paymentRecord stored := by
  simp only [paymentRecord, PaymentRecord.mk.injEq] at same
  simp only [paymentRecord, OrderRepository.updateChanged, column_kept, same]

/-- Which row a sweep's write leaves. -/
theorem sweepUpdate_row {copy entity : Order} {stamped : Bool}
    (made : CancelledCopy copy entity stamped) (open_ : copy.canBeCancelled = true) (sweep : Sweep)
    (stored : Order) (now : Time) :
    let row := sweepUpdate sweep stored copy entity now
    row.status = .cancelled ∧ row.metadata = entity.metadata ∧
      paymentRecord row = paymentRecord (if sweep = .deposit then stored else copy) := by
  cases sweep with
  | deposit =>
      have moved : entity.status ≠ copy.status := by
        intro same
        rw [made.status] at same
        simp [Order.canBeCancelled, ← same] at open_
      refine ⟨?_, ?_, ?_⟩
      · exact (column_changed moved stored.status).trans made.status
      · exact column_changed made.metadata_ne stored.metadata
      · exact updateChanged_record made.record now
  | instapay escalated => exact ⟨made.status, rfl, made.record⟩

namespace SweepState
variable [TextCase]

/-- The row and the two marks a cancelling write leaves. -/
theorem write_marks (state : SweepState) (replies : Nat → Reply) (sweep : Sweep) {copy : Order}
    (open_ : copy.canBeCancelled = true) (reason : String) (now : Time) :
    let written := state.write replies sweep copy reason now
    written.sweeps = state.sweeps ∧
    written.cancelledReceived = (state.cancelledReceived ||
      received state.order && stampsRestock state.inventory replies copy) ∧
    written.overwritten = (state.overwritten ||
      received state.order &&
        !(sweep = .deposit || paymentRecord copy = paymentRecord state.order)) := by
  obtain ⟨⟨inventory, entity⟩, ok⟩ :=
    cancelCopy_isOk open_ state.inventory replies sweep reason now
  have made := cancelCopy_ok ok
  obtain ⟨status, metadata, record⟩ := sweepUpdate_row made open_ sweep state.order now
  simp only [write, ok, swept]
  refine ⟨trivial, ?_, ?_⟩
  · rw [metadata, made.stamp, status]
    simp
  · rw [record]
    by_cases deposit : sweep = .deposit
    · simp [deposit]
    · simp [deposit]

theorem harmless_iff {state : SweepState} (safe : Safe state) (replies : Nat → Reply)
    {sweep : Sweep} {copy : Order} (open_ : copy.canBeCancelled = true) (reason : String)
    (now : Time) :
    Safe (state.write replies sweep copy reason now) ↔
      harmless state replies (.cancelling sweep copy reason) = true := by
  obtain ⟨-, cancelled, overwritten⟩ := state.write_marks replies sweep open_ reason now
  simp only [Safe, cancelled, overwritten, safe.1, safe.2, harmless]
  by_cases deposit : sweep = .deposit <;> cases received state.order <;>
    cases stampsRestock state.inventory replies copy <;> simp [deposit]

omit [TextCase] in
theorem sound_move {state : SweepState} (sound : Sound state) (session : Nat)
    {sweeping : Sweeping}
    (open_ : ∀ sweep copy reason, sweeping = .cancelling sweep copy reason →
      copy.canBeCancelled = true) : Sound (state.move session sweeping) := by
  refine ⟨sound.safe, fun other sweep copy reason stage => ?_⟩
  by_cases same : other = session
  · subst same
    exact open_ sweep copy reason (by simpa [move] using stage)
  · exact sound.cancellable other sweep copy reason (by simpa [move, same] using stage)

end SweepState

/-- A sweep only decides to cancel what can be cancelled. -/
theorem cancelReason_open {copy : Order} {answers : SweepAnswers} {sweep : Sweep}
    {reason : String} (decided : cancelReason copy answers sweep = some reason) :
    copy.canBeCancelled = true ∧ copy.isPaid = false := by
  cases sweep with
  | deposit =>
      unfold cancelReason at decided
      split_ifs at decided <;> simp_all
  | instapay escalated =>
      unfold cancelReason at decided
      split_ifs at decided <;> simp_all

namespace SweepState
variable [TextCase]

theorem sound_pay {state : SweepState} (sound : Sound state) (copy : Order) (payment : Payment)
    (replies : Nat → Reply) (now : Time) : Sound (state.pay copy payment replies now) := by
  unfold pay
  split
  · exact ⟨sound.safe, sound.cancellable⟩
  · exact sound

theorem sound_step {state : SweepState} {label : SweepLabel} (sound : Sound state)
    (undisturbed : Undisturbed state label) : Sound (state.step label) := by
  cases label with
  | scan session now =>
      simp only [step]
      split
      · exact sound_move sound session (by simp)
      · exact sound
  | read session escalated => exact sound_move sound session (by simp)
  | decide session answers =>
      simp only [step]
      split
      · rename_i sweep copy held
        split
        · rename_i reason decided
          refine sound_move sound session fun _ _ _ same => ?_
          cases same
          exact (cancelReason_open decided).1
        · exact sound_move sound session (by simp)
      · exact sound
  | write session replies now =>
      simp only [step]
      split
      · rename_i sweep copy reason stage
        have open_ := sound.cancellable session sweep copy reason stage
        have untouched := (state.write_marks replies sweep open_ reason now).1
        have harmless : harmless state replies (.cancelling sweep copy reason) = true := by
          simpa only [Undisturbed, stage] using undisturbed
        refine sound_move ⟨(harmless_iff sound.safe replies open_ reason now).mpr harmless, ?_⟩
          session (by simp)
        rw [untouched]
        exact sound.cancellable
      · exact sound
  | abandon session => exact sound_move sound session (by simp)
  | readForPayment session => exact ⟨sound.safe, sound.cancellable⟩
  | pay session payment replies now =>
      simp only [step]
      split
      · rename_i copy _
        have paid := sound_pay sound copy payment replies now
        exact ⟨paid.safe, paid.cancellable⟩
      · exact sound
  | payLocked payment replies now => exact sound_pay sound state.order payment replies now

theorem undisturbed_of_safe {state : SweepState} {label : SweepLabel} (sound : Sound state)
    (safe : Safe (state.step label)) : Undisturbed state label := by
  cases label with
  | write session replies now =>
      simp only [Undisturbed]
      cases stage : state.sweeps session with
      | idle => rfl
      | holding sweep copy => rfl
      | cancelling sweep copy reason =>
          have open_ := sound.cancellable session sweep copy reason stage
          simp only [step, stage] at safe
          exact (harmless_iff sound.safe replies open_ reason now).mp safe
  | _ => trivial

end SweepState

/-- An order with no sweep and no payment under way. -/
def unswept (order : Order) (inventory : Inventory) : SweepState where
  order := order
  inventory := inventory

/-- Over every interleaving of sweeps and payments, recorded money is safe from the sweeps
exactly when each cancelling write is harmless in the state it lands in. -/
theorem safe_iff_undisturbed [TextCase] (order : Order) (inventory : Inventory)
    (labels : List SweepLabel) :
    Run.Always SweepState.step SweepState.Safe (unswept order inventory) labels ↔
      Run.Guarded SweepState.step SweepState.Undisturbed (unswept order inventory) labels := by
  apply Run.always_iff_guarded (I := SweepState.Sound)
  · exact fun state label sound undisturbed => SweepState.sound_step sound undisturbed
  · exact fun state sound => sound.safe
  · exact fun state label sound safe => SweepState.undisturbed_of_safe sound safe
  · exact ⟨⟨rfl, rfl⟩, fun _ _ _ _ stage => by cases stage⟩

/-- A card order of two pieces that checkout took off the shelf. -/
def cardOrder : Order where
  id := 5
  tenantId := some 7
  status := .awaitingPayment
  total := 10000
  metadata := {
    paymobOrderId := some "88"
    stockDebited := some [⟨1, none, none, 2⟩] }

/-- The charge is recorded between the decision of the deposit sweep and its write. -/
def paidDuringSweep : List SweepLabel :=
  [.scan 0 awaitingPaymentTtl,
    .decide 0 {},
    .readForPayment 0,
    .pay 0 (.paymob {
        merchantOrderId := none
        paymobOrderId := some "88"
        transactionId := some "4211"
        success := true
        amountCents := 10000 }) (fun _ => ⟨.stored, false⟩) (awaitingPaymentTtl + 1),
    .write 0 (fun _ => ⟨.stored, false⟩) (awaitingPaymentTtl + 2)]

/-- The sweep cancels the paid order and gives its stock back. -/
theorem sweep_cancels_paid_order :
    letI := TextCase.ascii
    ¬ Run.Always SweepState.step SweepState.Safe
      (unswept cardOrder ⟨⟨[(1, ⟨7, 3, none⟩)], by decide⟩, .empty, .empty⟩) paidDuringSweep := by
  let _ := TextCase.ascii
  intro always
  exact absurd always.last.1 (by decide)

end Numu.Payments
