import Mathlib.Data.Int.Basic
import Numu.Foundation.Calendar
import Numu.Orders.Order

/-!
# The overage of one store

The messages that a store has logged, its Shopify subscriptions, the sweep's turn for each of
them, and the usage records that the relay has made.
-/

namespace Numu.Overage
open Numu.Orders (Time)

/-- `PLAN_VERIFICATION_CAPS`. -/
def planVerificationCaps : List (String × Nat) :=
  [("starter", 450), ("growth", 5000), ("scale", 15000)]

def capOf (planId : String) : Option Nat := planVerificationCaps.lookup planId

/-- `OVERAGE_RATE_CENTS`. -/
def overageRateCents : Nat := 5

/-- `_DEFAULT_PERIOD_DAYS`, as a length of time. -/
def defaultPeriod : Nat := 30 * Calendar.dayLength

inductive Direction where
  | inbound
  | outbound
  deriving DecidableEq, Repr

/-- `message_logs`. -/
structure Message where
  createdAt : Time
  direction : Direction
  deriving DecidableEq, Repr

/-- `shopify_subscriptions`. -/
structure Subscription where
  shopifySubscriptionId : String
  status : String
  planId : String
  currentPeriodEnd : Option Time
  deriving DecidableEq, Repr

/-- The messages that a sweep counts, and how many of them are free. -/
structure Period where
  periodStart : Int
  periodEnd : Int
  cap : Nat
  deriving DecidableEq, Repr

namespace Period

def endingAt (periodEnd : Time) (cap : Nat) : Period where
  periodStart := periodEnd - defaultPeriod
  periodEnd := periodEnd
  cap := cap

def counts (period : Period) (message : Message) : Bool :=
  message.direction = .outbound && period.periodStart ≤ message.createdAt &&
    message.createdAt < period.periodEnd

def sentCount (period : Period) (messages : List Message) : Nat := messages.countP period.counts

def overage (period : Period) (messages : List Message) : Nat :=
  period.sentCount messages - period.cap

def amountCents (period : Period) (messages : List Message) : Nat :=
  period.overage messages * overageRateCents

/-- A message of the period that the cap did not cover when it was logged. -/
def bills (period : Period) (messages : List Message) (index : Nat) : Bool :=
  (messages[index]?).any period.counts && period.cap ≤ period.sentCount (messages.take index)

end Period

/-- What a post to the relay comes to. -/
inductive RelayAnswer where
  | recorded
  | configError
  | invalidPayload
  | unavailable
  deriving DecidableEq, Repr

/-- A usage record at Shopify; its key is the store's and the period's start. -/
structure UsageRecord where
  shopDomain : String
  period : Period
  amountCents : Nat
  deriving DecidableEq, Repr

namespace UsageRecord

def idempotencyKey (record : UsageRecord) : Int := record.period.periodStart

end UsageRecord

/-- A store; `behind` are the periods that a sweep will not look at again. -/
structure Store where
  /-- The domain of the active installation. -/
  shopifyDomain : Option String := none
  subscriptions : List Subscription := []
  messages : List Message := []
  records : List UsageRecord := []
  behind : List Period := []
  deriving DecidableEq, Repr

inductive StoreEvent where
  | install (shopifyDomain : Option String)
  /-- Billing sync. -/
  | sync (subscription : Subscription)
  | log (message : Message)
  /-- A sweep's turn for a subscription. -/
  | sweep (shopifySubscriptionId : String) (now : Time) (answer : RelayAnswer)
  deriving DecidableEq, Repr

namespace Subscription

/-- The cap of a subscription that is swept. -/
def sweptCap (subscription : Subscription) : Option Nat :=
  if subscription.status = "ACTIVE" then capOf subscription.planId else none

/-- The period of a subscription whose end is stored. -/
def storedPeriod (subscription : Subscription) : Option Period :=
  subscription.sweptCap.bind fun cap => subscription.currentPeriodEnd.map (Period.endingAt · cap)

end Subscription

namespace Store

/-- The relay makes one record for each key, with the amount first sent. -/
def postUsage (store : Store) (record : UsageRecord) : List UsageRecord :=
  if store.records.any (·.idempotencyKey = record.idempotencyKey) then store.records
  else store.records ++ [record]

/-- The period that a subscription leaves when it is written. -/
def leaves (old new : Subscription) : Option Period :=
  old.storedPeriod.filter fun period =>
    new.sweptCap = none || new.currentPeriodEnd.map Int.ofNat ≠ some period.periodEnd

/-- The upsert by the subscription's id. -/
def sync (store : Store) (subscription : Subscription) : Store :=
  match store.subscriptions.find?
      (·.shopifySubscriptionId = subscription.shopifySubscriptionId) with
  | some old =>
      { store with
        subscriptions := store.subscriptions.map fun row =>
          if row.shopifySubscriptionId = subscription.shopifySubscriptionId then subscription
          else row
        behind := store.behind ++ (leaves old subscription).toList }
  | none => { store with subscriptions := store.subscriptions ++ [subscription] }

/-- The body of the sweep's loop. -/
def bill (store : Store) (subscription : Subscription) (now : Time) (answer : RelayAnswer) : Store :=
  match subscription.sweptCap, store.shopifyDomain with
  | some cap, some domain =>
      let period := Period.endingAt (subscription.currentPeriodEnd.getD now) cap
      let swept : Store :=
        { store with
          behind :=
            if subscription.currentPeriodEnd = none then store.behind ++ [period]
            else store.behind }
      if period.sentCount store.messages ≤ cap then swept
      else
        match answer with
        | .recorded =>
            { swept with
              records := store.postUsage {
                shopDomain := domain
                period := period
                amountCents := period.amountCents store.messages } }
        | .configError | .invalidPayload | .unavailable => swept
  | _, _ => store

def sweep (store : Store) (shopifySubscriptionId : String) (now : Time) (answer : RelayAnswer) :
    Store :=
  match store.subscriptions.find? (·.shopifySubscriptionId = shopifySubscriptionId) with
  | some subscription => store.bill subscription now answer
  | none => store

def step (store : Store) : StoreEvent → Store
  | .install shopifyDomain => { store with shopifyDomain := shopifyDomain }
  | .sync subscription => store.sync subscription
  | .log message => { store with messages := store.messages ++ [message] }
  | .sweep shopifySubscriptionId now answer => store.sweep shopifySubscriptionId now answer

end Store
end Numu.Overage
