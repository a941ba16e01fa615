import Mathlib.Data.List.Forall2
import Numu.Foundation.Outcome
import Numu.Foundation.Run
import Numu.Foundation.Counters
import Numu.Foundation.UuidText
import Numu.Refunds.Refund

/-! The returns of one order: what customers request and what merchants decide. -/

namespace Numu.Refunds
open Numu.Orders
open Numu.Outcome (bind_eq_ok orKeep)

def ReturnStatus.value : ReturnStatus → String
  | requested => "requested"
  | approved => "approved"
  | rejected => "rejected"
  | received => "received"
  | completed => "completed"
  | canceled => "canceled"

/-- `VALID_RETURN_TRANSITIONS`. -/
def validReturnTransitions : ReturnStatus → List ReturnStatus
  | .requested => [.approved, .rejected, .canceled]
  | .approved => [.received, .rejected]
  | .received => [.completed, .rejected]
  | .rejected => []
  | .completed => []
  | .canceled => []

inductive ReturnReason where
  | defective
  | wrongItem
  | notAsDescribed
  | sizeOrFit
  | noLongerNeeded
  | other
  deriving DecidableEq, Repr

structure ReturnLineItemRequest where
  orderLineIndex : Nat
  quantity : Nat
  reason : Option ReturnReason := none
  customerNote : Option String := none
  quantity_pos : 1 ≤ quantity

structure CreateReturnRequest where
  reason : ReturnReason := .other
  customerNote : Option String := none
  lineItems : List ReturnLineItemRequest
  lineItems_nonempty : lineItems ≠ []

structure ReturnLineItem where
  orderLineIndex : Nat
  productId : UUID
  variantId : Option UUID
  productName : String
  quantity : Nat
  unitPrice : Nat
  reason : Option ReturnReason
  customerNote : Option String
  quantity_pos : 0 < quantity

structure ReturnChange where
  fromStatus : ReturnStatus
  toStatus : ReturnStatus
  timestamp : Time
  actorId : Option UUID
  note : Option String

/-- A return with the fields that its refund does not read. -/
structure CustomerReturn extends OrderReturn where
  customerId : Option UUID := none
  lineItems : List ReturnLineItem := []
  reason : ReturnReason := .other
  merchantNote : Option String := none
  approvedAt : Option Time := none
  rejectedAt : Option Time := none
  receivedAt : Option Time := none
  canceledAt : Option Time := none
  approvedBy : Option UUID := none
  rejectedBy : Option UUID := none
  receivedBy : Option UUID := none
  currency : String := "EGP"
  statusHistory : List ReturnChange := []

namespace CustomerReturn

/-- `_validate_transition`, the write of the status and `_record_transition`. -/
def moveTo (ret : CustomerReturn) (newStatus : ReturnStatus) (actorId : Option UUID)
    (note : Option String) (now : Time) : Except String CustomerReturn :=
  if newStatus ∈ validReturnTransitions ret.status then
    .ok { ret with
      status := newStatus
      statusHistory := ret.statusHistory ++ [⟨ret.status, newStatus, now, actorId, note⟩] }
  else
    .error s!"Cannot transition return from {ret.status.value} to {newStatus.value}"

def approve (ret : CustomerReturn) (userId : UUID) (merchantNote : Option String) (now : Time) :
    Except String CustomerReturn := do
  let moved ← ret.moveTo .approved (some userId) merchantNote now
  return { moved with
    approvedBy := some userId
    approvedAt := some now
    merchantNote := if given merchantNote then merchantNote else moved.merchantNote }

def reject (ret : CustomerReturn) (userId : UUID) (reason : Option String) (now : Time) :
    Except String CustomerReturn := do
  let moved ← ret.moveTo .rejected (some userId) reason now
  return { moved with
    rejectedBy := some userId
    rejectedAt := some now
    merchantNote := if given reason then reason else moved.merchantNote }

def markReceived (ret : CustomerReturn) (userId : UUID) (note : Option String) (now : Time) :
    Except String CustomerReturn := do
  let moved ← ret.moveTo .received (some userId) note now
  return { moved with receivedBy := some userId, receivedAt := some now }

def cancel (ret : CustomerReturn) (customerId : UUID) (now : Time) :
    Except String CustomerReturn := do
  let moved ← ret.moveTo .canceled (some customerId) none now
  if ret.customerId.isSome ∧ ret.customerId ≠ some customerId then
    .error "Only the requesting customer can cancel a return"
  else return { moved with canceledAt := some now }

/-- A return that still claims its pieces. -/
def live (ret : CustomerReturn) : Bool :=
  ret.status ≠ .rejected ∧ ret.status ≠ .canceled

/-- The pieces it asks back of one line of the order. -/
def quantityOf (ret : CustomerReturn) (index : Nat) : Nat :=
  tally ReturnLineItem.orderLineIndex ReturnLineItem.quantity ret.lineItems index

end CustomerReturn

/-- One round of the loop of `create_return`. -/
def returnLine (order : Order) (reqLine : ReturnLineItemRequest) :
    Except RouteError ReturnLineItem :=
  match order.lineItems[reqLine.orderLineIndex]? with
  | none => .error (.http 400
      (s!"Line index {reqLine.orderLineIndex} is out of range for order " ++
        s!"{UuidText.writeUuid order.id} ({order.lineItems.length} lines)."))
  | some orderLine =>
      if orderLine.quantity < reqLine.quantity then
        .error (.http 400
          (s!"Cannot return {reqLine.quantity} of '{orderLine.productName}' — order has only " ++
            s!"{orderLine.quantity}."))
      else .ok {
        orderLineIndex := reqLine.orderLineIndex
        productId := orderLine.productId
        variantId := orderLine.variantId
        productName := orderLine.productName
        quantity := reqLine.quantity
        unitPrice := orderLine.unitPrice
        reason := reqLine.reason
        customerNote := reqLine.customerNote
        quantity_pos := reqLine.quantity_pos }

/-- `create_return` up to the insert. -/
def createReturn (order : Order) (store : Option Store) (customerId : UUID)
    (body : CreateReturnRequest) (returnId : UUID) (returnNumber : String) :
    Except RouteError CustomerReturn :=
  if order.customerId ≠ customerId then .error (.entityNotFound "Order" order.id)
  else match store with
  | none => .error (.entityNotFound "Store" order.storeId)
  | some store => do
      let returnLines ← body.lineItems.mapM (returnLine order)
      return {
        id := returnId
        tenantId := some store.tenantId
        storeId := store.id
        orderId := order.id
        customerId := some customerId
        returnNumber := returnNumber
        status := .requested
        reason := body.reason
        customerNote := body.customerNote
        lineItems := returnLines
        requestedAmount := (returnLines.map fun line => line.unitPrice * line.quantity).sum
        currency := order.currency }

/-- `_load_return`. -/
def loadReturn (ret : Option CustomerReturn) (returnId storeId : UUID) :
    Except RouteError CustomerReturn :=
  match ret with
  | none => .error (.entityNotFound "Return" returnId)
  | some ret => if ret.storeId ≠ storeId then .error (.entityNotFound "Return" returnId) else .ok ret

/-- `except ValueError as e: raise HTTPException(409, str(e))`. -/
def orConflict (result : Except String CustomerReturn) : Except RouteError CustomerReturn :=
  result.mapError (.http 409)

def approveReturn (ret : Option CustomerReturn) (returnId storeId userId : UUID)
    (merchantNote : Option String) (now : Time) : Except RouteError CustomerReturn := do
  let ret ← loadReturn ret returnId storeId
  orConflict (ret.approve userId merchantNote now)

def rejectReturn (ret : Option CustomerReturn) (returnId storeId userId : UUID)
    (merchantNote : String) (now : Time) : Except RouteError CustomerReturn := do
  let ret ← loadReturn ret returnId storeId
  orConflict (ret.reject userId (some merchantNote) now)

def markReturnReceived (ret : Option CustomerReturn) (returnId storeId userId : UUID)
    (merchantNote : Option String) (now : Time) : Except RouteError CustomerReturn := do
  let ret ← loadReturn ret returnId storeId
  orConflict (ret.markReceived userId merchantNote now)

/-- The return after `issue_return_refund` minted the refund `refundId`. -/
def linkReturnRefund (ret : Option CustomerReturn) (store : Option Store)
    (returnId storeId userId refundId : UUID) (body : IssueRefundRequest) :
    Except RouteError CustomerReturn := do
  let ret ← loadReturn ret returnId storeId
  let _ ← issueReturnRefund store (some ret.toOrderReturn) returnId body storeId userId
  return { ret with refundId := some refundId }

def cancelReturn (ret : Option CustomerReturn) (returnId customerId : UUID) (now : Time) :
    Except RouteError CustomerReturn :=
  match ret with
  | none => .error (.entityNotFound "Return" returnId)
  | some ret =>
      if ret.customerId ≠ some customerId then .error (.entityNotFound "Return" returnId)
      else orConflict (ret.cancel customerId now)

/-- An order and the rows of its returns. -/
structure ReturnDesk where
  order : Order
  returns : Table UUID CustomerReturn := .empty

inductive ReturnLabel where
  | request (returnId : UUID) (returnNumber : String) (store : Option Store) (customerId : UUID)
      (body : CreateReturnRequest)
  | approve (returnId storeId userId : UUID) (merchantNote : Option String) (now : Time)
  | reject (returnId storeId userId : UUID) (merchantNote : String) (now : Time)
  | markReceived (returnId storeId userId : UUID) (merchantNote : Option String) (now : Time)
  | issueRefund (returnId storeId userId refundId : UUID) (store : Option Store)
      (body : IssueRefundRequest)
  | cancel (returnId customerId : UUID) (now : Time)

namespace ReturnDesk

def fresh (desk : ReturnDesk) (returnId : UUID) : Bool :=
  returnId ∉ desk.returns.rows.map Prod.fst

/-- The insert of a return; a key that is taken rolls it back. -/
def insert (desk : ReturnDesk) (returnId : UUID) (ret : CustomerReturn) : ReturnDesk :=
  if desk.fresh returnId then { desk with returns := desk.returns.set returnId ret } else desk

/-- A route that reads a return and writes what it made of it. -/
def rewrite (desk : ReturnDesk) (returnId : UUID)
    (route : Option CustomerReturn → Except RouteError CustomerReturn) : ReturnDesk :=
  orKeep desk ((route (desk.returns.get? returnId)).map fun ret =>
    { desk with returns := desk.returns.set returnId ret })

def step (desk : ReturnDesk) : ReturnLabel → ReturnDesk
  | .request returnId returnNumber store customerId body =>
      orKeep desk ((createReturn desk.order store customerId body returnId returnNumber).map
        (desk.insert returnId))
  | .approve returnId storeId userId merchantNote now =>
      desk.rewrite returnId fun ret => approveReturn ret returnId storeId userId merchantNote now
  | .reject returnId storeId userId merchantNote now =>
      desk.rewrite returnId fun ret => rejectReturn ret returnId storeId userId merchantNote now
  | .markReceived returnId storeId userId merchantNote now =>
      desk.rewrite returnId fun ret =>
        markReturnReceived ret returnId storeId userId merchantNote now
  | .issueRefund returnId storeId userId refundId store body =>
      desk.rewrite returnId fun ret =>
        linkReturnRefund ret store returnId storeId userId refundId body
  | .cancel returnId customerId now =>
      desk.rewrite returnId fun ret => cancelReturn ret returnId customerId now

/-- The pieces of a line that live returns ask back. -/
def returned (desk : ReturnDesk) (index : Nat) : Nat :=
  desk.returns.total fun ret => if ret.live then ret.quantityOf index else 0

/-- No line is asked back beyond what was ordered of it. -/
def WithinOrdered (desk : ReturnDesk) : Prop :=
  ∀ index : Fin desk.order.lineItems.length,
    desk.returned index ≤ (desk.order.lineItems.get index).quantity

instance (desk : ReturnDesk) : Decidable desk.WithinOrdered :=
  inferInstanceAs (Decidable (∀ _ : Fin _, _))

/-- The pieces that a request asks back of one line, each time that it names it. -/
def asked (body : CreateReturnRequest) (index : Nat) : Nat :=
  tally ReturnLineItemRequest.orderLineIndex ReturnLineItemRequest.quantity body.lineItems index

/-- The checks of `create_return`, which look at each named line alone. -/
def Admits (desk : ReturnDesk) (returnId : UUID) (store : Option Store) (customerId : UUID)
    (body : CreateReturnRequest) : Prop :=
  desk.order.customerId = customerId ∧ store.isSome ∧ desk.fresh returnId ∧
    ∀ line ∈ body.lineItems, ∃ orderLine,
      desk.order.lineItems[line.orderLineIndex]? = some orderLine ∧
        line.quantity ≤ orderLine.quantity

/-- A request that passes the checks asks for no more than its line has left. -/
def Fits (desk : ReturnDesk) : ReturnLabel → Prop
  | .request returnId _ store customerId body =>
      desk.Admits returnId store customerId body →
        ∀ index : Fin desk.order.lineItems.length,
          desk.returned index + asked body index ≤ (desk.order.lineItems.get index).quantity
  | _ => True

end ReturnDesk

section Requests
variable {order : Order} {store : Option Store} {customerId returnId : UUID}
  {body : CreateReturnRequest} {returnNumber : String}

theorem returnLine_ok_iff {reqLine : ReturnLineItemRequest} :
    (∃ line, returnLine order reqLine = .ok line) ↔ ∃ orderLine,
      order.lineItems[reqLine.orderLineIndex]? = some orderLine ∧
        reqLine.quantity ≤ orderLine.quantity := by
  rw [returnLine]
  rcases order.lineItems[reqLine.orderLineIndex]? with _ | orderLine
  · simp
  · by_cases tooMany : orderLine.quantity < reqLine.quantity
    · simp [tooMany]
    · simp [tooMany, Nat.le_of_not_lt tooMany]

theorem returnLine_ok {reqLine : ReturnLineItemRequest} {line : ReturnLineItem}
    (ok : returnLine order reqLine = .ok line) :
    line.orderLineIndex = reqLine.orderLineIndex ∧ line.quantity = reqLine.quantity := by
  rw [returnLine] at ok
  split at ok
  · cases ok
  · split at ok
    · cases ok
    · cases ok
      exact ⟨rfl, rfl⟩

/-- The lines of a return are those of its request. -/
theorem tally_returnLines {requested : List ReturnLineItemRequest} {lines : List ReturnLineItem}
    (made : List.Forall₂ (fun reqLine line => returnLine order reqLine = .ok line) requested lines)
    (index : Nat) :
    tally ReturnLineItem.orderLineIndex ReturnLineItem.quantity lines index =
      tally ReturnLineItemRequest.orderLineIndex ReturnLineItemRequest.quantity requested
        index := by
  induction made with
  | nil => rfl
  | cons here _ ih =>
      rcases returnLine_ok here with ⟨place, quantity⟩
      rw [Tally.tally_cons, Tally.tally_cons, ih, place, quantity]

/-- A request is taken exactly if its order and store are there and each of its lines fits. -/
theorem createReturn_ok_iff :
    (∃ ret, createReturn order store customerId body returnId returnNumber = .ok ret) ↔
      order.customerId = customerId ∧ store.isSome ∧ ∀ line ∈ body.lineItems, ∃ orderLine,
        order.lineItems[line.orderLineIndex]? = some orderLine ∧
          line.quantity ≤ orderLine.quantity := by
  by_cases own : order.customerId = customerId
  · rcases store with _ | store
    · simp [createReturn, own]
    · constructor
      · rintro ⟨ret, ok⟩
        rw [createReturn.eq_def, if_neg (not_not.mpr own)] at ok
        rcases bind_eq_ok.mp ok with ⟨lines, made, -⟩
        refine ⟨own, rfl, fun line member => returnLine_ok_iff.mp ?_⟩
        rcases List.mem_iff_get.mp member with ⟨place, rfl⟩
        have each := Outcome.mapM_ok_forall₂ made
        exact ⟨_, (List.forall₂_iff_get.mp each).2 place place.2
          ((List.forall₂_iff_get.mp each).1 ▸ place.2)⟩
      · rintro ⟨-, -, fits⟩
        rcases Outcome.mapM_isOk fun line member => returnLine_ok_iff.mpr (fits line member)
          with ⟨lines, made⟩
        rw [createReturn.eq_def, if_neg (not_not.mpr own)]
        exact ⟨_, bind_eq_ok.mpr ⟨lines, made, rfl⟩⟩
  · simp [createReturn.eq_def, own]

theorem createReturn_ok {ret : CustomerReturn}
    (ok : createReturn order store customerId body returnId returnNumber = .ok ret) :
    ret.live = true ∧ ∀ index, ret.quantityOf index = ReturnDesk.asked body index := by
  rw [createReturn.eq_def] at ok
  split at ok
  · cases ok
  · rcases store with _ | store
    · cases ok
    · rcases bind_eq_ok.mp ok with ⟨lines, made, returned⟩
      cases returned
      exact ⟨rfl, tally_returnLines (Outcome.mapM_ok_forall₂ made)⟩

end Requests

/-- A return keeps its lines, and no closed return is opened again. -/
def Narrows (before after : CustomerReturn) : Prop :=
  after.lineItems = before.lineItems ∧ (after.live = true → before.live = true)

section Actions
variable {before after : CustomerReturn} {stored : Option CustomerReturn}
  {returnId storeId userId customerId refundId : UUID} {store : Option Store} {now : Time}

theorem CustomerReturn.moveTo_narrows {newStatus : ReturnStatus} {actorId : Option UUID}
    {note : Option String} (ok : before.moveTo newStatus actorId note now = .ok after) :
    Narrows before after := by
  rw [CustomerReturn.moveTo] at ok
  split at ok
  · rename_i permitted
    cases ok
    refine ⟨rfl, fun _ => ?_⟩
    rcases before with ⟨ret⟩
    rcases status : ret.status <;> simp_all [CustomerReturn.live, validReturnTransitions]
  · cases ok

theorem loadReturn_ok (ok : loadReturn stored returnId storeId = .ok before) :
    stored = some before := by
  rw [loadReturn.eq_def] at ok
  split at ok
  · cases ok
  · split at ok
    · cases ok
    · rw [Except.ok.inj ok]

theorem orConflict_ok {result : Except String CustomerReturn}
    (ok : orConflict result = .ok after) : result = .ok after := by
  cases result with
  | error text => cases ok
  | ok ret => rw [Except.ok.inj ok]

/-- A merchant's route narrows the return it loads when the entity's method does. -/
theorem loaded_narrows {act : CustomerReturn → Except String CustomerReturn}
    (narrows : ∀ {before after}, act before = .ok after → Narrows before after)
    (ok : (loadReturn stored returnId storeId >>= fun ret => orConflict (act ret)) = .ok after) :
    ∃ before, stored = some before ∧ Narrows before after := by
  rcases bind_eq_ok.mp ok with ⟨before, loaded, acted⟩
  exact ⟨before, loadReturn_ok loaded, narrows (orConflict_ok acted)⟩

theorem CustomerReturn.approve_narrows {merchantNote : Option String}
    (ok : before.approve userId merchantNote now = .ok after) : Narrows before after := by
  rcases bind_eq_ok.mp ok with ⟨moved, went, returned⟩
  have narrows := moveTo_narrows went
  cases returned
  exact narrows

theorem CustomerReturn.reject_narrows {reason : Option String}
    (ok : before.reject userId reason now = .ok after) : Narrows before after := by
  rcases bind_eq_ok.mp ok with ⟨moved, went, returned⟩
  have narrows := moveTo_narrows went
  cases returned
  exact narrows

theorem CustomerReturn.markReceived_narrows {note : Option String}
    (ok : before.markReceived userId note now = .ok after) : Narrows before after := by
  rcases bind_eq_ok.mp ok with ⟨moved, went, returned⟩
  have narrows := moveTo_narrows went
  cases returned
  exact narrows

theorem linkReturnRefund_ok {body : IssueRefundRequest}
    (ok : linkReturnRefund stored store returnId storeId userId refundId body = .ok after) :
    ∃ before, stored = some before ∧ Narrows before after := by
  rcases bind_eq_ok.mp ok with ⟨before, loaded, rest⟩
  rcases bind_eq_ok.mp rest with ⟨_, -, returned⟩
  cases returned
  exact ⟨before, loadReturn_ok loaded, rfl, id⟩

theorem cancelReturn_ok (ok : cancelReturn stored returnId customerId now = .ok after) :
    ∃ before, stored = some before ∧ Narrows before after := by
  rw [cancelReturn.eq_def] at ok
  split at ok
  · cases ok
  · rename_i before
    split at ok
    · cases ok
    · rcases bind_eq_ok.mp (orConflict_ok ok) with ⟨moved, went, rest⟩
      have narrows := CustomerReturn.moveTo_narrows went
      split at rest
      · cases rest
      · cases rest
        exact ⟨before, rfl, narrows⟩

end Actions

namespace ReturnDesk
variable {desk : ReturnDesk}

theorem step_order (desk : ReturnDesk) (label : ReturnLabel) : (desk.step label).order = desk.order := by
  have rewritten : ∀ returnId route, (desk.rewrite returnId route).order = desk.order := by
    intro returnId route
    rw [rewrite]
    cases route (desk.returns.get? returnId) <;> rfl
  cases label with
  | request returnId returnNumber store customerId body =>
      simp only [step]
      cases createReturn desk.order store customerId body returnId returnNumber with
      | error reason => rfl
      | ok ret =>
          simp only [Except.map, orKeep, insert]
          split <;> rfl
  | _ => exact rewritten _ _

/-- A route that narrows what it read asks nothing back. -/
theorem returned_rewrite {returnId : UUID}
    {route : Option CustomerReturn → Except RouteError CustomerReturn}
    (narrows : ∀ {stored after}, route stored = .ok after →
      ∃ before, stored = some before ∧ Narrows before after) (index : Nat) :
    (desk.rewrite returnId route).returned index ≤ desk.returned index := by
  rw [rewrite]
  rcases went : route (desk.returns.get? returnId) with _ | after
  · exact le_refl _
  rcases narrows went with ⟨before, present, lines, closed⟩
  have moved := Table.total_modify desk.returns (fun _ => after) present
    fun ret => if ret.live then ret.quantityOf index else 0
  have value : (if after.live then after.quantityOf index else 0) ≤
      if before.live then before.quantityOf index else 0 := by
    by_cases open_ : after.live = true
    · rw [if_pos open_, if_pos (closed open_), CustomerReturn.quantityOf,
        CustomerReturn.quantityOf, lines]
    · rw [if_neg open_]
      exact Nat.zero_le _
  rw [Table.modify_eq_set _ present] at moved
  simp only [Except.map, orKeep, returned]
  omega

theorem insert_returned {returnId : UUID} (fresh : desk.fresh returnId = true)
    {ret : CustomerReturn} (open_ : ret.live = true) (index : Nat) :
    (desk.insert returnId ret).returned index = desk.returned index + ret.quantityOf index := by
  have absent : returnId ∉ desk.returns.rows.map Prod.fst := by simpa [ReturnDesk.fresh] using fresh
  rw [insert, if_pos fresh, returned, Table.set, dif_pos absent, Table.total_insert, if_pos open_,
    returned]

/-- A request that passes the checks adds all that it asks for, and any other request nothing. -/
theorem returned_request (returnId : UUID) (returnNumber : String) (store : Option Store)
    (customerId : UUID) (body : CreateReturnRequest) :
    (desk.Admits returnId store customerId body ∧ ∀ index,
      (desk.step (.request returnId returnNumber store customerId body)).returned index =
        desk.returned index + asked body index) ∨
    (¬ desk.Admits returnId store customerId body ∧
      desk.step (.request returnId returnNumber store customerId body) = desk) := by
  have accepted : (∃ ret, createReturn desk.order store customerId body returnId returnNumber =
      .ok ret) ↔ _ := createReturn_ok_iff
  simp only [step]
  rcases went : createReturn desk.order store customerId body returnId returnNumber with _ | ret
  · refine .inr ⟨fun admits => ?_, rfl⟩
    rcases accepted.mpr ⟨admits.1, admits.2.1, admits.2.2.2⟩ with ⟨ret, ok⟩
    rw [went] at ok
    cases ok
  · rcases createReturn_ok went with ⟨open_, quantities⟩
    rcases accepted.mp ⟨ret, went⟩ with ⟨own, found, fits⟩
    by_cases fresh : desk.fresh returnId = true
    · refine .inl ⟨⟨own, found, fresh, fits⟩, fun index => ?_⟩
      rw [← quantities]
      exact insert_returned fresh open_ index
    · exact .inr ⟨fun admits => fresh admits.2.2.1, if_neg fresh⟩

/-- A step keeps the returns within what was ordered exactly if it fits. -/
theorem withinOrdered_step_iff (within : desk.WithinOrdered) (label : ReturnLabel) :
    (desk.step label).WithinOrdered ↔ desk.Fits label := by
  have unchanged {after : ReturnDesk} (same : after.order = desk.order)
      (below : ∀ index, after.returned index ≤ desk.returned index) : after.WithinOrdered := by
    rcases after with ⟨order, returns⟩
    cases same
    exact fun index => (below index).trans (within index)
  cases label with
  | request returnId returnNumber store customerId body =>
      rcases returned_request returnId returnNumber store customerId body
        with ⟨admits, adds⟩ | ⟨refused, same⟩
      · have order := desk.step_order (.request returnId returnNumber store customerId body)
        generalize desk.step (.request returnId returnNumber store customerId body) = after
          at adds order
        rcases after with ⟨_, returns⟩
        cases order
        constructor
        · intro kept _ index
          rw [← adds]
          exact kept index
        · intro fits index
          rw [adds]
          exact fits admits index
      · rw [same]
        exact iff_of_true within fun admits => absurd admits refused
  | approve returnId storeId userId merchantNote now =>
      exact iff_of_true (unchanged (desk.step_order _)
        (returned_rewrite (loaded_narrows CustomerReturn.approve_narrows))) trivial
  | reject returnId storeId userId merchantNote now =>
      exact iff_of_true (unchanged (desk.step_order _)
        (returned_rewrite (loaded_narrows CustomerReturn.reject_narrows))) trivial
  | markReceived returnId storeId userId merchantNote now =>
      exact iff_of_true (unchanged (desk.step_order _)
        (returned_rewrite (loaded_narrows CustomerReturn.markReceived_narrows))) trivial
  | issueRefund returnId storeId userId refundId store body =>
      exact iff_of_true (unchanged (desk.step_order _) (returned_rewrite linkReturnRefund_ok)) trivial
  | cancel returnId customerId now =>
      exact iff_of_true (unchanged (desk.step_order _) (returned_rewrite cancelReturn_ok)) trivial

/-- Over every sequence of requests and decisions, no line is asked back beyond what was ordered
of it exactly if each request that passes the checks fits beside the returns already there. -/
theorem returns_within_ordered_iff (within : desk.WithinOrdered) (labels : List ReturnLabel) :
    Run.Always step WithinOrdered desk labels ↔ Run.Guarded step Fits desk labels :=
  Run.always_iff_guarded (I := WithinOrdered)
    (fun _ label within fits => (withinOrdered_step_iff within label).mpr fits)
    (fun _ within => within)
    (fun _ label within kept => (withinOrdered_step_iff within label).mp kept) within labels

/-- An order of three pieces of one product. -/
def threePieces : ReturnDesk where
  order := { id := 5, storeId := 2, customerId := 8, lineItems := [{ productId := 41, quantity := 3 }] }

def askBack (returnId : UUID) (quantity : Nat) (positive : 1 ≤ quantity) : ReturnLabel :=
  .request returnId "RT-00000001" (some ⟨2, 9, 7⟩) 8
    { lineItems := [{ orderLineIndex := 0, quantity := quantity, quantity_pos := positive }]
      lineItems_nonempty := List.cons_ne_nil _ _ }

/-- Two pieces are asked back and refused, then all three. -/
theorem second_request_fits :
    Run.Always step WithinOrdered threePieces
      [askBack 31 2 (by decide), .reject 31 2 9 "worn" 20, askBack 32 3 (by decide)] := by
  apply (returns_within_ordered_iff (by decide) _).mpr
  refine ⟨fun _ => ?_, trivial, fun _ => ?_, trivial⟩
  · decide
  · decide

/-- All three pieces are asked back twice, and both returns are approved and received. -/
theorem six_of_three_received :
    ¬ Run.Always step WithinOrdered threePieces
      [askBack 31 3 (by decide), askBack 32 3 (by decide), .approve 31 2 9 none 20,
        .approve 32 2 9 none 21, .markReceived 31 2 9 none 30, .markReceived 32 2 9 none 31] := by
  intro always
  exact absurd always.last (by decide)

end ReturnDesk
end Numu.Refunds
