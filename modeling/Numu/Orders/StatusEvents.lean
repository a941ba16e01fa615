import Numu.Foundation.Json
import Numu.Orders.StatusHistory

/-!
# The announcement of a status change

What `UpdateOrderStatusUseCase` publishes after the repository update, against the status it
stored.
-/

namespace Numu.Orders
open Numu.Stock (Inventory Reply TextCase)
open Numu.Outcome (bind_eq_ok)

structure Customer where
  email : Option String := none
  phone : Option String := none
  fullName : String := ""
  metadata : Json.Fields := []

structure OrderStatusChangedEvent where
  orderId : UUID
  orderNumber : String
  storeId : UUID
  storeName : String
  customerId : UUID
  customerEmail : Option String
  customerPhone : Option String
  customerName : Option String
  previousStatus : String
  newStatus : String
  reason : Option String
  trackingNumber : Option String
  trackingUrl : Option String
  language : String
  emailPrefs : Json.Fields
  whatsappPrefs : Json.Fields

/-- The text of a field that has one. -/
def nonEmpty (text : Option String) : Option String :=
  if given text then text else none

/-- The event bus and the customers of the use case, and the store's own words. -/
structure Announcer where
  hasBus : Bool := true
  storeName : String := ""
  defaultLanguage : Option String := none
  /-- `customer_repository.get_by_id`, where the use case was given the repository. -/
  customerOf : Option (UUID → Except String (Option Customer)) := none

def documentOf : Json → Except String Json.Fields
  | .obj fields => .ok fields
  | _ => .error "not a dictionary"

/-- The notification preferences by e-mail and by WhatsApp. -/
def preferences (customer : Option Customer) : Except String (Json.Fields × Json.Fields) := do
  let metadata := (customer.map Customer.metadata).getD []
  let prefs ← documentOf (metadata.get "notification_preferences" (.obj []))
  let email ← documentOf (prefs.get "email" (.obj []))
  let whatsapp ← documentOf (prefs.get "whatsapp" (.obj []))
  return (email, whatsapp)

namespace Announcer
variable (announcer : Announcer)

def customer (customerId : UUID) : Except String (Option Customer) :=
  match announcer.customerOf with
  | none => .ok none
  | some read => read customerId

/-- What the event says of the customer. -/
def contact (customerId : UUID) :
    Except String (Option Customer × Json.Fields × Json.Fields) := do
  let customer ← announcer.customer customerId
  let prefs ← preferences customer
  return (customer, prefs)

/-- There is a bus, and the event for the customer can be put together. -/
def reaches (customerId : UUID) : Bool :=
  announcer.hasBus && (announcer.contact customerId).isOk

/-- `_publish_status_event`: a failure is logged and nothing is published. -/
def publishStatusEvent (order : Order) (oldStatus newStatus : OrderStatus)
    (reason : Option String) : Option OrderStatusChangedEvent :=
  if !announcer.hasBus then none
  else
    match announcer.contact order.customerId with
    | .error _ => none
    | .ok (customer, emailPrefs, whatsappPrefs) =>
        some {
          orderId := order.id
          orderNumber := order.orderNumber
          storeId := order.storeId
          storeName := announcer.storeName
          customerId := order.customerId
          customerEmail := nonEmpty (customer.bind Customer.email)
          customerPhone := nonEmpty (customer.bind Customer.phone)
          customerName := customer.map Customer.fullName
          previousStatus := oldStatus.value
          newStatus := newStatus.value
          reason
          trackingNumber := order.trackingNumber
          trackingUrl := order.trackingUrl
          language := (nonEmpty announcer.defaultLanguage).getD "en"
          emailPrefs
          whatsappPrefs }

/-- The event that `after_status_change` publishes. -/
def afterStatusChange (updatedOrder : Order) (oldStatus newStatus : OrderStatus)
    (reason : Option String) : Option OrderStatusChangedEvent :=
  if oldStatus.value = newStatus.value then none
  else announcer.publishStatusEvent updatedOrder oldStatus newStatus reason

/-- The stored order after a call, and the event the call published. -/
def executeAndAnnounce [TextCase] (inv : Inventory) (replies : Nat → Reply) (store : Option Store)
    (order : Order) (orderId : UUID) (dto : UpdateOrderStatusDTO) (storeId userId : UUID)
    (now : Time) : Order × Option OrderStatusChangedEvent :=
  match execute inv replies store (some order) orderId dto storeId userId now with
  | .error _ => (order, none)
  | .ok update =>
      (update.order,
        announcer.afterStatusChange update.order update.oldStatus update.newStatus dto.reason)

end Announcer

/-- An event is published exactly when the stored status changed, and names it before and after. -/
def AnnouncesChange (before : Order) (after : Order × Option OrderStatusChangedEvent) : Prop :=
  (after.2.isSome ↔ after.1.status ≠ before.status) ∧
    ∀ event ∈ after.2,
      event.previousStatus = before.status.value ∧ event.newStatus = after.1.status.value

/-- The call passes its checks and the order takes the new status. -/
def Accepted (store : Option Store) (order : Order) (dto : UpdateOrderStatusDTO)
    (storeId userId : UUID) (now : Time) (newStatus : OrderStatus) : Prop :=
  store.map Store.ownerId = some userId ∧ order.storeId = storeId ∧
    OrderStatus.ofValue dto.status = some newStatus ∧
    ∃ changed, applyStatus order newStatus dto now = .ok changed

theorem OrderStatus.value_inj {first second : OrderStatus} :
    first.value = second.value ↔ first = second := by
  constructor
  · intro same
    have parsed := OrderStatus.ofValue_value first
    rw [same, OrderStatus.ofValue_value] at parsed
    exact (Option.some.inj parsed).symm
  · exact congrArg OrderStatus.value

section Frames
variable {order after : Order} {now : Time}

/-- A transition moves an order along an edge and leaves its customer. -/
theorem transitionTo_moves {newStatus : OrderStatus} {reason source : Option String}
    (ok : order.transitionTo newStatus reason source now = .ok after) :
    after.status = newStatus ∧ after.customerId = order.customerId := by
  refine ⟨(transitionTo_ok ok).2.1, ?_⟩
  unfold Order.transitionTo at ok
  split at ok
  · cases ok
    unfold Order.touch Order.stampStatus
    split <;> first | rfl | (split <;> rfl)
  · cases ok

/-- What a transition is followed by leaves the status and the customer. -/
theorem transitionTo_then_moves {newStatus : OrderStatus} {reason source : Option String}
    {update : Order → Order}
    (ok : (order.transitionTo newStatus reason source now >>= fun moved => pure (update moved)) =
      .ok after)
    (keeps : ∀ moved, (update moved).status = moved.status ∧
      (update moved).customerId = moved.customerId) :
    after.status = newStatus ∧ after.customerId = order.customerId := by
  rcases bind_eq_ok.mp ok with ⟨moved, step, same⟩
  have moves := transitionTo_moves step
  cases same
  exact ⟨(keeps moved).1.trans moves.1, (keeps moved).2.trans moves.2⟩

/-- Every accepted request stores the status it names, but for a failed payment, which leaves it. -/
theorem applyStatus_moves {newStatus : OrderStatus} {dto : UpdateOrderStatusDTO}
    (ok : applyStatus order newStatus dto now = .ok after) :
    after.status = (if newStatus = .paymentFailed then order.status else newStatus) ∧
      after.customerId = order.customerId := by
  have direct (ok : setStatus order newStatus now = .ok after) :
      after.status = newStatus ∧ after.customerId = order.customerId := by
    unfold setStatus at ok
    split at ok
    · cases ok
    · cases ok
      exact ⟨rfl, rfl⟩
  cases newStatus with
  | confirmed =>
      simp only [applyStatus, Order.confirm] at ok
      split at ok
      · exact transitionTo_moves ok
      · cases ok
  | processing =>
      simp only [applyStatus, Order.startProcessing] at ok
      split at ok
      · exact transitionTo_moves ok
      · cases ok
  | shipped =>
      simp only [applyStatus, Order.ship] at ok
      split at ok
      · exact transitionTo_then_moves ok fun _ => ⟨rfl, rfl⟩
      · cases ok
  | delivered =>
      simp only [applyStatus, Order.deliver] at ok
      split at ok
      · exact transitionTo_moves ok
      · cases ok
  | cancelled =>
      simp only [applyStatus, Order.cancel] at ok
      split at ok
      · exact transitionTo_then_moves ok fun _ => ⟨rfl, rfl⟩
      · cases ok
  | returned =>
      simp only [applyStatus, Order.returnToOrigin] at ok
      exact transitionTo_then_moves ok fun _ => ⟨rfl, rfl⟩
  | refunded =>
      simp only [applyStatus, Order.refund] at ok
      split at ok
      · exact transitionTo_then_moves ok fun _ => ⟨rfl, rfl⟩
      · cases ok
  | paymentFailed =>
      cases ok
      exact ⟨rfl, rfl⟩
  | draft => exact direct ok
  | pendingDeposit => exact direct ok
  | awaitingPayment => exact direct ok
  | pending => exact direct ok

end Frames

section Calls
variable [TextCase] {inv : Inventory} {replies : Nat → Reply} {store : Option Store} {order : Order}
  {orderId : UUID} {dto : UpdateOrderStatusDTO} {storeId userId : UUID} {now : Time}

theorem restockClosed_customer (inv : Inventory) (replies : Nat → Reply) (order : Order)
    (newStatus : OrderStatus) (reason : Option String) (now : Time) :
    (restockClosed inv replies order newStatus reason now).order.customerId = order.customerId := by
  unfold restockClosed restockOrderStock Numu.Stock.restockOrder
  simp only
  split_ifs <;> rfl

/-- A call that returns was accepted, and it announces from the status it found to the one asked for. -/
theorem execute_moves {update : StatusUpdate}
    (ok : execute inv replies store (some order) orderId dto storeId userId now = .ok update) :
    Accepted store order dto storeId userId now update.newStatus ∧
      update.oldStatus = order.status ∧
      update.order.status =
        (if update.newStatus = .paymentFailed then order.status else update.newStatus) ∧
      update.order.customerId = order.customerId := by
  have accepted := execute_ok ok
  rcases accepted with ⟨found, newStatus, changed, owner, same, mine, parsed, applied, -⟩
  cases same
  cases store with
  | none => cases owner
  | some store =>
      have owned : store.ownerId = userId := by simpa using owner
      simp only [execute, owned, mine, parsed, applied, ne_eq, not_true, if_false] at ok
      cases ok
      have moves := applyStatus_moves applied
      have frame := restockClosed_frame inv replies changed newStatus dto.reason now
      refine ⟨⟨by simp [owned], mine, parsed, changed, applied⟩, rfl, ?_, ?_⟩
      · exact frame.1.trans moves.1
      · exact (restockClosed_customer inv replies changed newStatus dto.reason now).trans moves.2

omit [TextCase] in
/-- A call names one status, so it is accepted for one at most. -/
theorem Accepted.unique {first second : OrderStatus}
    (here : Accepted store order dto storeId userId now first)
    (there : Accepted store order dto storeId userId now second) : first = second := by
  rcases here with ⟨-, -, parsed, -⟩
  rcases there with ⟨-, -, parsed', -⟩
  exact Option.some.inj (parsed.symm.trans parsed')

/-- An accepted call returns. -/
theorem Accepted.returns {newStatus : OrderStatus}
    (accepted : Accepted store order dto storeId userId now newStatus) :
    ∃ update, execute inv replies store (some order) orderId dto storeId userId now =
      .ok update := by
  rcases accepted with ⟨owner, mine, parsed, changed, applied⟩
  cases store with
  | none => cases owner
  | some store =>
      have owned : store.ownerId = userId := by simpa using owner
      rcases execute_accepted orderId owned mine parsed applied inv replies with ⟨_, ok, -⟩
      exact ⟨_, ok⟩

end Calls

namespace Announcer
variable {announcer : Announcer}

theorem publishStatusEvent_isSome (order : Order) (oldStatus newStatus : OrderStatus)
    (reason : Option String) :
    (announcer.publishStatusEvent order oldStatus newStatus reason).isSome =
      announcer.reaches order.customerId := by
  unfold publishStatusEvent reaches
  cases announcer.hasBus with
  | false => rfl
  | true =>
      cases announcer.contact order.customerId with
      | error message => rfl
      | ok found => rfl

theorem publishStatusEvent_names {order : Order} {oldStatus newStatus : OrderStatus}
    {reason : Option String} {event : OrderStatusChangedEvent}
    (published : event ∈ announcer.publishStatusEvent order oldStatus newStatus reason) :
    event.previousStatus = oldStatus.value ∧ event.newStatus = newStatus.value := by
  rw [Option.mem_def, publishStatusEvent] at published
  split at published
  · cases published
  · split at published
    · cases published
    · cases published
      exact ⟨rfl, rfl⟩

/-- The call announces what it stored exactly if an accepted request for another status reaches the
bus unless it is for a failed payment, which stores no status and should not. -/
theorem announcesChange_iff [TextCase] (announcer : Announcer) (inv : Inventory)
    (replies : Nat → Reply) (store : Option Store) (order : Order) (orderId : UUID)
    (dto : UpdateOrderStatusDTO) (storeId userId : UUID) (now : Time) :
    AnnouncesChange order
        (announcer.executeAndAnnounce inv replies store order orderId dto storeId userId now) ↔
      ∀ newStatus, Accepted store order dto storeId userId now newStatus →
        newStatus ≠ order.status →
          (announcer.reaches order.customerId = true ↔ newStatus ≠ .paymentFailed) := by
  unfold executeAndAnnounce
  cases called : execute inv replies store (some order) orderId dto storeId userId now with
  | error problem =>
      refine iff_of_true ⟨by simp, by simp⟩ ?_
      intro newStatus accepted
      rcases accepted.returns with ⟨update, ok⟩
      rw [called] at ok
      cases ok
  | ok update =>
      rcases execute_moves called with ⟨accepted, old, status, customer⟩
      by_cases same : update.newStatus = order.status
      · -- Asked for the status it has: nothing is published and nothing changed.
        have silent : announcer.afterStatusChange update.order update.oldStatus update.newStatus
            dto.reason = none := by
          rw [afterStatusChange, if_pos (by rw [old, same])]
        have stays : update.order.status = order.status := by
          rw [status, same]
          split <;> rfl
        refine iff_of_true ⟨?_, ?_⟩ ?_
        · simp [silent, stays]
        · simp [silent]
        · intro newStatus other apart
          exact absurd ((other.unique accepted).trans same) apart
      · have announced : announcer.afterStatusChange update.order update.oldStatus update.newStatus
            dto.reason = announcer.publishStatusEvent update.order update.oldStatus
              update.newStatus dto.reason := by
          apply if_neg
          rw [old, OrderStatus.value_inj]
          exact Ne.symm same
        have reached : (announcer.publishStatusEvent update.order update.oldStatus
            update.newStatus dto.reason).isSome = announcer.reaches update.order.customerId :=
          publishStatusEvent_isSome _ _ _ _
        rw [customer] at reached
        have names {event : OrderStatusChangedEvent}
            (published : event ∈ announcer.publishStatusEvent update.order update.oldStatus
              update.newStatus dto.reason) :
            event.previousStatus = order.status.value ∧
              event.newStatus = update.newStatus.value := by
          rw [← old]
          exact publishStatusEvent_names published
        have asked : (∀ newStatus, Accepted store order dto storeId userId now newStatus →
            newStatus ≠ order.status →
              (announcer.reaches order.customerId = true ↔ newStatus ≠ .paymentFailed)) ↔
            (announcer.reaches order.customerId = true ↔ update.newStatus ≠ .paymentFailed) := by
          constructor
          · exact fun each => each update.newStatus accepted same
          · intro here newStatus other _
            rw [other.unique accepted]
            exact here
        simp only [announced, AnnouncesChange, asked, reached]
        by_cases failed : update.newStatus = .paymentFailed
        · -- The status stays, so the call is right only if nothing reaches the bus.
          rw [if_pos failed] at status
          simp only [status, failed, ne_eq, not_true]
          constructor
          · exact fun facts => facts.1
          · intro silent
            refine ⟨silent, ?_⟩
            intro event published
            have heard : announcer.reaches order.customerId = true := by
              rw [← reached, Option.isSome_iff_exists]
              exact ⟨event, failed ▸ published⟩
            exact absurd (silent.mp heard) id
        · rw [if_neg failed] at status
          simp only [status, failed, same, ne_eq, not_false_eq_true]
          constructor
          · exact fun facts => facts.1
          · exact fun heard => ⟨heard, fun event published => names published⟩

/-- A failed payment of a pending order is announced as a change of its status, which stays. -/
theorem failed_payment_announced : letI := TextCase.ascii
    ¬AnnouncesChange pendingOrder.order
      (Announcer.executeAndAnnounce {} pendingOrder.inventory (fun _ => ⟨.stored, false⟩) (some ⟨0, 1, 1⟩)
        pendingOrder.order 0 { status := "payment_failed" } 0 1 5) := by
  let _ := TextCase.ascii
  intro announces
  exact absurd (announces.1.mp rfl) (by decide)

end Announcer
end Numu.Orders
