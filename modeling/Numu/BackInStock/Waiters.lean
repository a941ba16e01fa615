import Mathlib.Data.List.Basic
import Numu.Foundation.Calendar
import Numu.Orders.Order

/-!
# The waiters of one store

The rows of the waiting list, the send tasks in the broker, the sends that have read their
waiter and not yet written it, a restock check that has the store's lock, and the
retention runs that have read their rows.
-/

namespace Numu.BackInStock
open Numu.Orders (Time)

def seconds (count : Nat) : Nat := count * Calendar.secondLength

/-- `RESTOCK_WINDOW`, 24 hours. -/
def restockWindow : Nat := Calendar.dayLength

/-- `WAITING_TTL`, 180 days. -/
def waitingTtl : Nat := 180 * Calendar.dayLength

/-- `ERASE_AFTER`, 30 days. -/
def eraseAfter : Nat := 30 * Calendar.dayLength

/-- `STUCK_AFTER`, an hour. -/
def stuckAfter : Nat := seconds 3600

/-- `max_retries` of the send task. -/
def maxRetries : Nat := 2

inductive Channel where
  | whatsapp
  | email
  deriving DecidableEq, Repr

inductive WaiterStatus where
  | waiting
  | queued
  | notified
  | failed
  | unsubscribed
  | closed
  deriving DecidableEq, Repr

/-- `back_in_stock_waiters`; `stopped` says that the waiter has been unsubscribed or closed, and
`alertedAt` when its message went out. -/
structure Waiter where
  productId : Nat
  variantId : Option Nat
  channel : Channel
  contact : Option String
  status : WaiterStatus := .waiting
  createdAt : Time
  updatedAt : Time
  queuedAt : Option Time := none
  notifiedAt : Option Time := none
  messageId : Option String := none
  failReason : Option String := none
  stopped : Bool := false
  alertedAt : Option Time := none
  deriving DecidableEq, Repr

structure Variant where
  id : Nat
  trackInventory : Bool
  inventoryQuantity : Int
  deriving DecidableEq, Repr

/-- A product as a check finds it: whether its status sells, and its variants. -/
structure Offer where
  sellable : Bool
  variants : List Variant
  deriving DecidableEq, Repr

/-- `wa_cap` and `email_cap`. -/
structure Caps where
  whatsapp : Nat
  email : Nat
  deriving DecidableEq, Repr

def Caps.of (caps : Caps) : Channel → Nat
  | .whatsapp => caps.whatsapp
  | .email => caps.email

def startOfDay (now : Time) : Time := now - now % Calendar.dayLength

namespace Waiter

/-- A waiter as its sign-up creates it. -/
def create (productId : Nat) (variantId : Option Nat) (channel : Channel) (contact : String)
    (now : Time) : Waiter where
  productId := productId
  variantId := variantId
  channel := channel
  contact := some contact
  createdAt := now
  updatedAt := now

/-- Notified, or on its way, since an instant. -/
def alertedSince (waiter : Waiter) (since : Time) : Bool :=
  (waiter.status = .queued || waiter.status = .notified) &&
    (waiter.notifiedAt.orElse fun _ => waiter.queuedAt).any (since ≤ ·)

/-- The waiter counts against a channel's cap since an instant. -/
def counts (channel : Channel) (since : Time) (waiter : Waiter) : Bool :=
  waiter.channel = channel && waiter.alertedSince since

/-- Waiting or queued. -/
def isOpen (waiter : Waiter) : Bool := waiter.status = .waiting || waiter.status = .queued

/-- A stop, by the shopper or with the product, of a waiter that is open. -/
def stop (waiter : Waiter) (status : WaiterStatus) (now : Time) : Waiter :=
  if waiter.isOpen then { waiter with status := status, updatedAt := now, stopped := true }
  else waiter

/-- Back in line, with or without its time. -/
def putBack (waiter : Waiter) (queuedAt : Option Time) (now : Time) : Waiter :=
  { waiter with status := .waiting, queuedAt := queuedAt, updatedAt := now }

end Waiter

/-- `is_buyable`. -/
def isBuyable (offer : Offer) (variantId : Option Nat) : Bool :=
  offer.sellable &&
    (offer.variants.filter fun variant => variantId = none || variantId = some variant.id).any
      fun variant => !variant.trackInventory || 0 < variant.inventoryQuantity

/-- The units of a variant whose stock is tracked. -/
def unitsOf (offer : Offer) (variantId : Option Nat) : Option Int :=
  variantId.bind fun id =>
    (offer.variants.find? fun variant => variant.id = id).bind fun variant =>
      if variant.trackInventory then some variant.inventoryQuantity else none

/-- `restock_cap`. -/
def restockCap (units : Option Int) : Int := max (10 * units.getD 0) 20

/-- `sent_today`. -/
def sentToday (waiters : List Waiter) (channel : Channel) (now : Time) : Nat :=
  waiters.countP (Waiter.counts channel (startOfDay now))

/-- `alerted_since`, for one variant. -/
def alertedOf (waiters : List Waiter) (productId : Nat) (since : Time) (variantId : Option Nat) : Nat :=
  waiters.countP fun waiter =>
    waiter.productId = productId && waiter.variantId = variantId && waiter.alertedSince since

/-- The room that is left on each channel. -/
structure Room where
  whatsapp : Int
  email : Int
  deriving DecidableEq, Repr

namespace Room

def of (room : Room) : Channel → Int
  | .whatsapp => room.whatsapp
  | .email => room.email

def take (room : Room) : Channel → Room
  | .whatsapp => { room with whatsapp := room.whatsapp - 1 }
  | .email => { room with email := room.email - 1 }

end Room

/-- A restock check of a product that has the store's lock. -/
structure Check where
  asOf : Time
  productId : Nat
  offer : Offer
  room : Room
  /-- How many rows of the store are queued already. -/
  pending : Nat
  deriving DecidableEq, Repr

namespace Check

/-- `send_countdowns`, after the rows that are queued already. -/
def countdown (check : Check) (position : Nat) : Nat :=
  seconds (30 + (check.pending + position) * 6)

/-- The check queues a waiter: its variant is buyable, and there is room for it in the restock and
on its channel. -/
def queues (check : Check) (alerted : Option Nat → Nat) (queued : List (Option Nat)) (room : Room)
    (waiter : Waiter) : Bool :=
  waiter.productId = check.productId && waiter.status = .waiting &&
    isBuyable check.offer waiter.variantId &&
    0 < restockCap (unitsOf check.offer waiter.variantId) -
      (alerted waiter.variantId + queued.count waiter.variantId : Nat) &&
    0 < room.of waiter.channel

/-- The waiters after the check, in the order of their sign-up; rows that others have locked are
left out. -/
def fill (check : Check) (alerted : Option Nat → Nat) (locked : List Nat) :
    Nat → List (Option Nat) → Room → List Waiter → List Waiter
  | _, _, _, [] => []
  | index, queued, room, waiter :: rest =>
      if index ∉ locked ∧ check.queues alerted queued room waiter = true then
        { waiter with
          status := .queued
          queuedAt := some (check.asOf + check.countdown queued.length)
          updatedAt := check.asOf } ::
          check.fill alerted locked (index + 1) (queued ++ [waiter.variantId])
            (room.take waiter.channel) rest
      else waiter :: check.fill alerted locked (index + 1) queued room rest

end Check

/-- A send task in the broker. -/
structure SendTask where
  waiter : Nat
  retries : Nat := 0
  deriving DecidableEq, Repr

/-- What the provider, or the guard before it, answers. -/
inductive Outcome where
  | sent (messageId : String)
  | refused (reason : String)
  deriving DecidableEq, Repr

/-- A send that has read its waiter as queued; it has the waiter's advisory lock. -/
structure Sending where
  waiter : Nat
  retries : Nat
  readAt : Time
  outcome : Option Outcome := none
  deriving DecidableEq, Repr

/-- A retention run: the rows it is to close and those it may erase the contact of. -/
structure Retention where
  asOf : Time
  closing : List Nat
  erasing : List Nat
  deriving DecidableEq, Repr

structure Alert where
  channel : Channel
  at_ : Time
  deriving DecidableEq, Repr

structure Shop where
  caps : Caps
  waiters : List Waiter := []
  check : Option Check := none
  tasks : List SendTask := []
  sends : List Sending := []
  retentions : List Retention := []
  alerts : List Alert := []
  clock : Time := 0
  deriving DecidableEq, Repr

inductive ShopEvent where
  | signUp (productId : Nat) (variantId : Option Nat) (channel : Channel) (contact : String)
  /-- A restock check takes the store's lock and reads the room that is left. -/
  | checkBegin (productId : Nat) (offer : Offer) (whatsappUsable : Bool) (asOf : Time)
  | checkCommit (locked : List Nat)
  | checkAbort
  /-- A send task is taken and reads its waiter. -/
  | begin_ (index : Nat)
  /-- The app is not live, or the variant is sold out again. -/
  | putBack (index : Nat) (soldOut : Bool)
  | message (index : Nat) (outcome : Outcome)
  | finish (index : Nat)
  /-- The broker delivers a send's task again. -/
  | redeliver (index : Nat)
  | lose (index : Nat)
  | sweep (asOf : Time)
  | unsubscribe (contact : String)
  | closeProduct (productId : Nat)
  | retentionRead (asOf : Time)
  | retentionWrite (index : Nat)
  deriving DecidableEq, Repr

/-- `_STORE_REASONS`. -/
def storeReasons : List String := ["whatsapp_not_connected", "template_not_approved"]

/-- `_GUARD_REASONS`. -/
def guardReasons : List String :=
  ["opt_out", "no_opt_in", "invalid_phone", "no_phone", "template_not_approved",
    "whatsapp_not_connected", "merchant_setting_off"]

/-- A refusal that another try may change; every failure of an email is one. -/
def transient (channel : Channel) (reason : String) : Bool :=
  channel = .email || reason ∉ guardReasons

namespace Shop

def updateWaiter (shop : Shop) (index : Nat) (f : Waiter → Waiter) : List Waiter :=
  shop.waiters.modify index f

def signUp (shop : Shop) (productId : Nat) (variantId : Option Nat) (channel : Channel)
    (contact : String) (now : Time) : Shop :=
  { shop with waiters := shop.waiters ++ [.create productId variantId channel contact now] }

def checkBegin (shop : Shop) (productId : Nat) (offer : Offer) (whatsappUsable : Bool)
    (asOf : Time) : Shop :=
  if shop.check = none then
    { shop with
      check := some {
        asOf := asOf
        productId := productId
        offer := offer
        room := {
          whatsapp :=
            if whatsappUsable then shop.caps.whatsapp - sentToday shop.waiters .whatsapp asOf
            else 0
          email := shop.caps.email - sentToday shop.waiters .email asOf }
        pending := shop.waiters.countP (·.status = .queued) } }
  else shop

def checkCommit (shop : Shop) (locked : List Nat) : Shop :=
  match shop.check with
  | none => shop
  | some check =>
      let alerted := alertedOf shop.waiters check.productId (check.asOf - restockWindow)
      let filled := check.fill alerted locked 0 [] check.room shop.waiters
      let queued := (List.range shop.waiters.length).filter fun index =>
        (shop.waiters[index]?).any (·.status = .waiting) &&
          (filled[index]?).any (·.status = .queued)
      { shop with
        waiters := filled
        check := none
        tasks := shop.tasks ++ queued.map fun index => { waiter := index } }

/-- The advisory lock, and the first read of `_send`. -/
def beginSend (shop : Shop) (index : Nat) (now : Time) : Shop :=
  match shop.tasks[index]? with
  | none => shop
  | some task =>
      let taken : Shop := { shop with tasks := shop.tasks.eraseIdx index }
      if shop.sends.any (·.waiter = task.waiter) then taken
      else if (shop.waiters[task.waiter]?).any (·.status = .queued) then
        { taken with
          sends := shop.sends ++
            [{ waiter := task.waiter, retries := task.retries, readAt := now }] }
      else taken

def putBack (shop : Shop) (index : Nat) (soldOut : Bool) : Shop :=
  match shop.sends[index]? with
  | none => shop
  | some send =>
      if send.outcome = none then
        { shop with
          waiters := shop.updateWaiter send.waiter fun waiter =>
            waiter.putBack (if soldOut then none else waiter.queuedAt) send.readAt
          sends := shop.sends.eraseIdx index }
      else shop

/-- The message itself; what is sent is on its way, whatever is recorded of it. -/
def message (shop : Shop) (index : Nat) (outcome : Outcome) (now : Time) : Shop :=
  match shop.sends[index]? with
  | none => shop
  | some send =>
      if send.outcome = none then
        let answered : Shop :=
          { shop with sends := shop.sends.set index { send with outcome := some outcome } }
        match outcome, shop.waiters[send.waiter]? with
        | .sent _, some waiter =>
            { answered with
              waiters := shop.updateWaiter send.waiter fun waiter =>
                { waiter with alertedAt := some now }
              alerts := shop.alerts ++ [{ channel := waiter.channel, at_ := now }] }
        | _, _ => answered
      else shop

/-- The last write of `_send`, or the retry of its task. -/
def finish (shop : Shop) (index : Nat) (now : Time) : Shop :=
  match shop.sends[index]? with
  | none => shop
  | some send =>
      let ended : Shop := { shop with sends := shop.sends.eraseIdx index }
      match send.outcome with
      | none => shop
      | some (.sent messageId) =>
          { ended with
            waiters := shop.updateWaiter send.waiter fun waiter =>
              { waiter with
                status := .notified
                messageId := some messageId
                notifiedAt := some now
                updatedAt := now } }
      | some (.refused reason) =>
          if (shop.waiters[send.waiter]?).any (transient ·.channel reason) ∧
              send.retries < maxRetries then
            { ended with
              tasks := shop.tasks ++ [{ waiter := send.waiter, retries := send.retries + 1 }] }
          else if reason ∈ storeReasons then
            { ended with waiters := shop.updateWaiter send.waiter (·.putBack none now) }
          else
            { ended with
              waiters := shop.updateWaiter send.waiter fun waiter =>
                { waiter with
                  status := .failed
                  failReason := some (String.ofList (reason.toList.take 64))
                  updatedAt := now } }

def redeliver (shop : Shop) (index : Nat) : Shop :=
  match shop.sends[index]? with
  | none => shop
  | some send =>
      { shop with tasks := shop.tasks ++ [{ waiter := send.waiter, retries := send.retries }] }

/-- A queued row whose time is an hour past. -/
def stuck (asOf : Time) (waiter : Waiter) : Bool :=
  waiter.status = .queued && waiter.queuedAt.any (· + stuckAfter ≤ asOf)

def sweep (shop : Shop) (asOf : Time) : Shop :=
  { shop with
    waiters := shop.waiters.map fun waiter =>
      if stuck asOf waiter then waiter.putBack none asOf else waiter }

/-- `unsubscribe_contact`. -/
def unsubscribe (shop : Shop) (contact : String) (now : Time) : Shop :=
  { shop with
    waiters := shop.waiters.map fun waiter =>
      if waiter.contact = some contact then waiter.stop .unsubscribed now else waiter }

/-- `close_product`. -/
def closeProduct (shop : Shop) (productId : Nat) (now : Time) : Shop :=
  { shop with
    waiters := shop.waiters.map fun waiter =>
      if waiter.productId = productId then waiter.stop .closed now else waiter }

/-- The rows that a retention run reads, and `retention_actions` for each. -/
def retentionRead (shop : Shop) (asOf : Time) : Shop :=
  let rows := List.range shop.waiters.length
  { shop with
    retentions := shop.retentions ++ [{
      asOf := asOf
      closing := rows.filter fun index =>
        (shop.waiters[index]?).any fun waiter =>
          waiter.status = .waiting && waiter.createdAt + waitingTtl ≤ asOf
      erasing := rows.filter fun index =>
        (shop.waiters[index]?).any fun waiter =>
          !waiter.isOpen && waiter.contact.isSome && waiter.updatedAt + eraseAfter ≤ asOf }] }

def retentionWrite (shop : Shop) (index : Nat) : Shop :=
  match shop.retentions[index]? with
  | none => shop
  | some retention =>
      let closed := shop.waiters.mapIdx fun row waiter =>
        if row ∈ retention.closing then
          { waiter with status := .closed, updatedAt := retention.asOf, stopped := true }
        else waiter
      -- a contact that waits for another product stays
      let pending := closed.filterMap fun waiter => if waiter.isOpen then waiter.contact else none
      { shop with
        waiters := closed.mapIdx fun row waiter =>
          if row ∈ retention.erasing ∧ waiter.contact.all (· ∉ pending) then
            { waiter with contact := none }
          else waiter
        retentions := shop.retentions.eraseIdx index }

def act (shop : Shop) (now : Time) : ShopEvent → Shop
  | .signUp productId variantId channel contact =>
      shop.signUp productId variantId channel contact now
  | .checkBegin productId offer usable asOf => shop.checkBegin productId offer usable asOf
  | .checkCommit locked => shop.checkCommit locked
  | .checkAbort => { shop with check := none }
  | .begin_ index => shop.beginSend index now
  | .putBack index soldOut => shop.putBack index soldOut
  | .message index outcome => shop.message index outcome now
  | .finish index => shop.finish index now
  | .redeliver index => shop.redeliver index
  | .lose index => { shop with tasks := shop.tasks.eraseIdx index }
  | .sweep asOf => shop.sweep asOf
  | .unsubscribe contact => shop.unsubscribe contact now
  | .closeProduct productId => shop.closeProduct productId now
  | .retentionRead asOf => shop.retentionRead asOf
  | .retentionWrite index => shop.retentionWrite index

def step (shop : Shop) (label : Time × ShopEvent) : Shop :=
  { shop.act label.1 label.2 with clock := label.1 }

end Shop
end Numu.BackInStock
