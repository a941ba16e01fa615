import Numu.Orders.Goods
import Numu.Refunds.Budget

/-!
# The payment status after a refund

Creating a refund measures what may still be refunded by the collectible total of the order,
completing one measures what has been refunded by the order's total.
-/

namespace Numu.Refunds
open Numu.Orders
open Numu.Outcome (bind_eq_ok)
open Numu.Stock (Inventory Reply TextCase)

/-- A run of an order's refunds, mixed with what else happens to the order. -/
inductive SettlementLabel where
  | refund (label : RefundLabel)
  | acceptPart (inv : Inventory) (replies : Nat → Reply) (aborts : Bool) (store : Store)
      (orderId : UUID) (request : PartialAcceptanceRequest) (now : Time)
  /-- The other routes of an order. -/
  | writeOrder (order : Order)

namespace RefundState

/-- A partial acceptance, which a refusal leaves undone. -/
def acceptPart [TextCase] (state : RefundState) (inv : Inventory) (replies : Nat → Reply)
    (aborts : Bool) (store : Store) (orderId : UUID) (request : PartialAcceptanceRequest)
    (now : Time) : RefundState :=
  match recordPartialAcceptance inv replies aborts store (some state.order) orderId request now with
  | .error _ => state
  | .ok accepted => { state with order := accepted.order }

def settle [TextCase] (state : RefundState) : SettlementLabel → RefundState
  | .refund label => state.step label
  | .acceptPart inv replies aborts store orderId request now =>
      state.acceptPart inv replies aborts store orderId request now
  | .writeOrder order => { state with order }

/-- The refund that a call of `ProcessRefund` completes. -/
def completes (state : RefundState) : SettlementLabel → Option Refund
  | .refund (.process refundId storeId userId service now) =>
      match processRefund state.store (state.refunds.get? refundId) refundId storeId userId service
          now with
      | .error _ => none
      | .ok entity => if entity.status = .completed then some entity else none
  | _ => none

/-- The order's payment status says whether the completed refunds reach the collectible total. -/
def StatusTells (state : RefundState) : Prop :=
  (state.order.paymentStatus = .refunded ↔ state.order.collectibleTotal ≤ state.completed) ∧
    (state.completed < state.order.collectibleTotal →
      state.order.paymentStatus = .partiallyRefunded)

instance (state : RefundState) : Decidable state.StatusTells :=
  inferInstanceAs (Decidable (_ ∧ _))

/-- The status tells as much after every refund that is completed. -/
def Concluded [TextCase] (state : RefundState) (label : SettlementLabel) : Prop :=
  (state.completes label).isSome → (state.settle label).StatusTells

/-- The two totals of an order agree on the completed refunds, and where these are nothing the
order has the right status already. -/
def TotalsAgree (order : Order) (refunded : Nat) : Prop :=
  if order.total ≤ refunded then order.collectibleTotal ≤ refunded
  else if 0 < refunded then refunded < order.collectibleTotal
  else order.paymentStatus =
    if order.collectibleTotal = 0 then .refunded else .partiallyRefunded

/-- The totals agree on what a completed refund brings the refunds to. -/
def Agreeing (state : RefundState) (label : SettlementLabel) : Prop :=
  ∀ refund ∈ state.completes label, TotalsAgree state.order (state.completed + refund.amount)

end RefundState

/-- The part of a refund that is completed. -/
def completedPart (refund : Refund) : Nat :=
  if RefundRepository.counted false refund then refund.amount else 0

theorem completedPart_of_completed {refund : Refund} (done : refund.status = .completed) :
    completedPart refund = refund.amount := by
  simp [completedPart, RefundRepository.counted, done]

theorem completedPart_of_open {refund : Refund} (pending : refund.status ≠ .completed) :
    completedPart refund = 0 := by
  simp [completedPart, RefundRepository.counted, pending]

/-- Only a refund that is not completed yet is processed. -/
theorem processRefund_opens {store : Option Store} {found : Option Refund}
    {refundId storeId userId : UUID} {service : Option ProviderAnswer} {now : Time} {after : Refund}
    (ok : processRefund store found refundId storeId userId service now = .ok after) :
    ∃ copy, found = some copy ∧ copy.status ≠ .completed ∧ after.amount = copy.amount := by
  rcases processRefund_ok ok with ⟨copy, present, -, -, amount⟩
  refine ⟨copy, present, ?_, amount⟩
  rcases bind_eq_ok.mp ok with ⟨checked, check, rest⟩
  rcases bind_eq_ok.mp rest with ⟨started, step, -⟩
  have same : copy = checked := Option.some.inj (present.symm.trans (checkRefund_ok check))
  have start := startProcessing_ok (validated_ok step)
  intro done
  have valid := start.valid
  simp [← same, done, validRefundTransitions] at valid

theorem updateOrderPaymentStatus_status (order : Order) (refunds : RefundRows) (now : Time) :
    (updateOrderPaymentStatus order refunds now).paymentStatus =
      if order.total ≤ RefundRepository.getTotalRefundedForOrder refunds false then .refunded
      else if 0 < RefundRepository.getTotalRefundedForOrder refunds false then .partiallyRefunded
      else order.paymentStatus := by
  unfold updateOrderPaymentStatus
  simp only
  split_ifs <;> rfl

/-- The status that an order of one total is given tells of another exactly if the two agree. -/
theorem givenStatus_tells_iff (status : PaymentStatus) (total collectible reached : Nat) :
    ((if total ≤ reached then PaymentStatus.refunded
        else if 0 < reached then .partiallyRefunded else status) = .refunded ↔
          collectible ≤ reached) ∧
      (reached < collectible →
        (if total ≤ reached then PaymentStatus.refunded
          else if 0 < reached then .partiallyRefunded else status) = .partiallyRefunded) ↔
    if total ≤ reached then collectible ≤ reached
    else if 0 < reached then reached < collectible
    else status = if collectible = 0 then .refunded else .partiallyRefunded := by
  by_cases full : total ≤ reached
  · simp only [if_pos full, true_iff, reduceCtorEq, imp_false, not_lt]
    exact and_self_iff
  · by_cases some_ : 0 < reached
    · simp [full, some_]
    · have nothing : reached = 0 := by omega
      subst nothing
      by_cases worthless : collectible = 0
      · simp [full, worthless]
      · have positive : 0 < collectible := Nat.pos_of_ne_zero worthless
        simp only [full, some_, if_false, worthless, Nat.le_zero, iff_false, positive, forall_const]
        constructor
        · exact fun facts => facts.2
        · intro partly
          rw [partly]
          exact ⟨by decide, rfl⟩

namespace RefundState
variable {state : RefundState}

/-- Completing a refund adds it to the completed ones and updates the order by them. -/
theorem settle_completes [TextCase] {label : SettlementLabel} {refund : Refund}
    (completed : state.completes label = some refund) :
    ∃ now, (state.settle label).order =
        updateOrderPaymentStatus state.order (state.settle label).refunds now ∧
      (state.settle label).completed = state.completed + refund.amount := by
  cases label with
  | acceptPart inv replies aborts store orderId request now => cases completed
  | writeOrder order => cases completed
  | refund label =>
      cases label with
      | process refundId storeId userId service now =>
          simp only [completes] at completed
          split at completed
          · cases completed
          · rename_i entity processed
            split at completed
            · rename_i done
              cases completed
              rcases processRefund_opens processed with ⟨stored, present, pending, amount⟩
              have moved := state.refunds.total_modify
                (fun row => RefundRepository.update row refund) present completedPart
              rw [completedPart_of_open pending] at moved
              have counted : completedPart (RefundRepository.update stored refund) =
                  refund.amount := completedPart_of_completed done
              rw [counted, Nat.add_zero] at moved
              refine ⟨now, ?_, ?_⟩
              · simp only [settle, step, processed, if_pos done]
              · simp only [settle, step, processed, if_pos done]
                exact moved
            · cases completed
      | _ => cases completed

theorem concluded_iff [TextCase] (label : SettlementLabel) :
    state.Concluded label ↔ state.Agreeing label := by
  unfold Concluded Agreeing
  cases completed : state.completes label with
  | none => simp
  | some refund =>
      rcases settle_completes completed with ⟨now, order, reached⟩
      have status := updateOrderPaymentStatus_status state.order (state.settle label).refunds now
      have collectible := updateOrderPaymentStatus_collectible state.order
        (state.settle label).refunds now
      rw [← order] at status collectible
      have total : RefundRepository.getTotalRefundedForOrder (state.settle label).refunds false =
          state.completed + refund.amount := reached
      rw [total] at status
      simp only [Option.isSome_some, forall_const, Option.mem_def, Option.some.injEq, forall_eq',
        StatusTells, status, collectible, reached, TotalsAgree]
      exact givenStatus_tells_iff _ _ _ _

end RefundState

/-- Over every run of an order's refunds and of what else happens to it, the payment status tells
after each completed refund whether the refunds reach the collectible total exactly when the totals
agree on each. -/
theorem concluded_iff_agreeing [TextCase] (state : RefundState) (labels : List SettlementLabel) :
    Run.Guarded RefundState.settle RefundState.Concluded state labels ↔
      Run.Guarded RefundState.settle RefundState.Agreeing state labels := by
  apply Run.guarded_iff_guarded (I := fun _ => True)
  · exact fun _ _ _ _ => trivial
  · exact fun state label _ => state.concluded_iff label
  · trivial

/-- A delivered order of 100.00 for ten of one product. -/
def tenShirts : RefundState :=
  unrefunded
    { id := 5, storeId := 2, status := .delivered, paymentStatus := .paid, total := 10000
      lineItems := [{ productId := 1, quantity := 10, unitPrice := 1000, totalPrice := 10000 }] }
    (some ⟨2, 9, 7⟩) .empty

theorem three_shirts_pos : 1 ≤ 3 :=
  Nat.succ_pos 2

/-- Three shirts go back, and what was collected for the others is refunded in full. -/
def collectedRefunded : List SettlementLabel :=
  [.acceptPart ⟨.empty, .empty, .empty⟩ (fun _ => ⟨.stored, false⟩) false ⟨2, 9, 7⟩ 5
      { lines := [{
          orderLineIndex := 0
          returnedQuantity := 3
          returnedQuantity_pos := three_shirts_pos }]
        restock := false } 1,
    .refund (.readOrder 0 ⟨5, "full", "customer_request", none, none⟩ 2 9),
    .refund (.lockOrder 0),
    .refund (.insertRefund 0 41),
    .refund (.readRefund 0 41),
    .refund (.approve 0 2 9 2),
    .refund (.process 41 2 9 none 3)]

theorem collected_refunded_in_part : letI := TextCase.ascii
    ¬Run.Guarded RefundState.settle RefundState.Concluded tenShirts collectedRefunded := by
  let _ := TextCase.ascii
  intro concluded
  have last := concluded.2.2.2.2.2.2.1 (by decide +kernel)
  exact absurd last (by decide +kernel)

end Numu.Refunds
