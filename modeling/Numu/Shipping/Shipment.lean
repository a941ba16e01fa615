import Numu.Foundation.FloatText
import Numu.Invoices.TaxResolver
import Numu.Orders.Order
import Numu.Stock.StockService

/-!
The shipment entity, the carriers' vocabularies, and the two appliers of a carrier's status. `none`
stands for an exception, after which the caller stores nothing.
-/

namespace Numu.Shipping
open Numu.Orders (Time)
open Numu.Stock (TextCase)
open Numu.Invoices (UpperCase strip)

inductive ShipmentStatus where
  | pending
  | created
  | pickedUp
  | inTransit
  | outForDelivery
  | delivered
  | returned
  | cancelled
  | failed
  deriving DecidableEq, Repr

def ShipmentStatus.value : ShipmentStatus → String
  | pending => "pending"
  | created => "created"
  | pickedUp => "picked_up"
  | inTransit => "in_transit"
  | outForDelivery => "out_for_delivery"
  | delivered => "delivered"
  | returned => "returned"
  | cancelled => "cancelled"
  | failed => "failed"

/-- `TERMINAL_STATUSES`. -/
def terminalStatuses : List ShipmentStatus := [.delivered, .returned, .cancelled]

/-- A COD amount as a report gives it; a boolean is the integer it counts for. -/
inductive CodAmount where
  | int (n : Int)
  | float (x : FloatValue)
  | text (s : String)
  /-- A list or a dict. -/
  | other (truthy : Bool)
  deriving DecidableEq

namespace CodAmount

/-- `bool(cod_amount)`. -/
def truthy : CodAmount → Bool
  | int n => n ≠ 0
  | float x => x ≠ .finite 0
  | text s => s ≠ ""
  | other truthy => truthy

/-- `int` of a float. -/
def floatToInt : FloatValue → Option Int
  | .finite q => some (Binary64.truncate q)
  | _ => none

def floatTimesHundred : FloatValue → FloatValue
  | .finite q => FloatText.round (q < 0) |q * 100|
  | x => x

/-- `int(cod_amount * 100) if cod_amount > 1000 else int(cod_amount)`. -/
def cents : CodAmount → Option Int
  | int n => some (if 1000 < n then n * 100 else n)
  | float (.finite q) =>
      if 1000 < q then floatToInt (floatTimesHundred (.finite q)) else floatToInt (.finite q)
  | float _ => none
  | text _ => none
  | other _ => none

/-- `_to_float` of the parsers; an integer beyond the floats raises. -/
def toFloat : CodAmount → Option (Option FloatValue)
  | int n =>
      match FloatText.round (n < 0) |(n : ℚ)| with
      | .finite q => some (some (.finite q))
      | _ => none
  | float x => some (some x)
  | text s => some (if s = "" then none else FloatText.readFloat s)
  | other _ => some none

end CodAmount

structure ShipmentChange where
  fromStatus : ShipmentStatus
  toStatus : ShipmentStatus
  description : String
  timestamp : Time
  deriving DecidableEq

/-- The `cod_rejected` keys of the metadata. -/
structure CodRejection where
  reason : String
  timestamp : Time
  deriving DecidableEq

structure Shipment where
  carrier : String := "bosta"
  status : ShipmentStatus := .pending
  codAmount : Int := 0
  codCollected : Bool := false
  codCollectedAt : Option Time := none
  deliveryAttempts : Nat := 0
  statusHistory : List ShipmentChange := []
  codRejection : Option CodRejection := none
  shippedAt : Option Time := none
  deliveredAt : Option Time := none
  cancelledAt : Option Time := none
  deriving DecidableEq

namespace Shipment

def isTerminal (shipment : Shipment) : Bool := shipment.status ∈ terminalStatuses

def updateStatus (shipment : Shipment) (newStatus : ShipmentStatus) (description : String)
    (now : Time) : Shipment :=
  { shipment with
    status := newStatus
    statusHistory := shipment.statusHistory ++ [⟨shipment.status, newStatus, description, now⟩] }

def markPickedUp (shipment : Shipment) (now : Time) : Shipment :=
  { shipment.updateStatus .pickedUp "Picked up by carrier" now with shippedAt := some now }

def collectCod (shipment : Shipment) (codAmount : Int) (now : Time) : Shipment :=
  { shipment with codCollected := true, codCollectedAt := some now, codAmount := codAmount }

/-- `mark_delivered`, which the appliers call with `cod_collected=bool(cod_amount)`. -/
def markDelivered (shipment : Shipment) (codAmount : Option CodAmount) (now : Time) :
    Option Shipment :=
  let delivered :=
    { shipment.updateStatus .delivered "Delivered to customer" now with deliveredAt := some now }
  match codAmount with
  | none => some delivered
  | some amount =>
      if amount.truthy then amount.cents.map fun cents => delivered.collectCod cents now
      else some delivered

def markFailed (shipment : Shipment) (reason : String) (now : Time) : Shipment :=
  let attempted := { shipment with deliveryAttempts := shipment.deliveryAttempts + 1 }
  attempted.updateStatus .failed s!"Delivery failed: {reason}" now

def markReturned (shipment : Shipment) (now : Time) : Shipment :=
  { shipment.updateStatus .returned "Returned to sender" now with cancelledAt := some now }

def markCancelled (shipment : Shipment) (reason : String) (now : Time) : Shipment :=
  { shipment.updateStatus .cancelled s!"Cancelled: {reason}" now with cancelledAt := some now }

/-- What the callbacks record when a COD parcel is refused. -/
def rejectCod (shipment : Shipment) (reason : String) (now : Time) : Shipment :=
  if 0 < shipment.codAmount then { shipment with codRejection := some ⟨reason, now⟩ } else shipment

end Shipment

/-- `status_map` of each carrier in the registry. -/
def bostaStatusMap : List (String × ShipmentStatus) :=
  [("PENDING_PICKUP", .created), ("PICKED_UP", .pickedUp), ("IN_WAREHOUSE", .inTransit),
    ("IN_TRANSIT", .inTransit), ("OUT_FOR_DELIVERY", .outForDelivery), ("DELIVERED", .delivered),
    ("RETURNED", .returned), ("CANCELLED", .cancelled), ("DELIVERY_FAILED", .failed)]

def mylerzStatusMap : List (String × ShipmentStatus) :=
  [("PICKED_UP", .pickedUp), ("IN_TRANSIT", .inTransit), ("OUT_FOR_DELIVERY", .outForDelivery),
    ("DELIVERED", .delivered), ("RETURNED", .returned), ("FAILED", .failed),
    ("CANCELLED", .cancelled)]

def jtStatusMap : List (String × ShipmentStatus) :=
  [("1", .pickedUp), ("3", .inTransit), ("4", .inTransit), ("5", .outForDelivery),
    ("6", .inTransit), ("9", .inTransit), ("10", .delivered), ("11", .failed), ("13", .returned),
    ("14", .failed), ("PICKUP SCAN", .pickedUp), ("SENDING SCAN", .inTransit),
    ("STATION ARRIVAL", .inTransit), ("ARRIVAL SCAN", .inTransit),
    ("DELIVERY SCAN", .outForDelivery), ("SIGNING SCAN", .delivered), ("PROBLEM SCAN", .failed),
    ("PROBLEMATIC SCAN", .failed), ("RETURN SCAN", .failed), ("RETURN SIGNING SCAN", .returned),
    ("快件揽收", .pickedUp), ("发件扫描", .inTransit), ("到件扫描", .inTransit),
    ("入库扫描", .inTransit), ("出库扫描", .inTransit), ("出仓扫描", .outForDelivery),
    ("派件扫描", .outForDelivery), ("快件签收", .delivered), ("问题件扫描", .failed),
    ("退件扫描", .failed), ("退件签收", .returned)]

def statusMaps : List (String × List (String × ShipmentStatus)) :=
  [("bosta", bostaStatusMap), ("manual", []), ("mylerz", mylerzStatusMap), ("jt", jtStatusMap)]

/-- `map_status` of a carrier's registry entry. -/
def mapStatus [UpperCase] (statusMap : List (String × ShipmentStatus)) (raw : String) :
    Option ShipmentStatus :=
  if raw = "" then none else statusMap.lookup (UpperCase.upper (strip raw))

def mapCarrierStatus [UpperCase] [TextCase] (carrier raw : String) : Option ShipmentStatus :=
  if carrier = "" then none
  else
    (statusMaps.lookup (TextCase.lower (strip carrier))).bind fun statusMap =>
      mapStatus statusMap raw

/-- `text or default`. -/
def orElse (text fallback : String) : String := if text = "" then fallback else text

/-- `apply_carrier_status` once the word has a status. -/
def applyCarrierStatus (shipment : Shipment) (carrier rawStatus description : String)
    (codAmount : Option CodAmount) (failureReason : String) (status : ShipmentStatus)
    (now : Time) : Option Shipment :=
  let text := orElse description s!"{carrier} status: {rawStatus}"
  match status with
  | .delivered => shipment.markDelivered codAmount now
  | .pickedUp => some (shipment.markPickedUp now)
  | .failed => some (shipment.markFailed (orElse failureReason text) now)
  | .returned => some (shipment.markReturned now)
  | .cancelled => some (shipment.markCancelled (orElse failureReason "Cancelled by carrier") now)
  | .outForDelivery => some (shipment.updateStatus .outForDelivery "Out for delivery" now)
  | other => some (shipment.updateStatus other text now)

/-- `_update_shipment_status` of a carrier's own callback, whose word for a failed attempt is
`failedState`. -/
def updateShipmentStatus (statusMap : List (String × ShipmentStatus)) (failedState state : String)
    (shipment : Shipment) (codAmount : Option CodAmount) (failureReason description : String)
    (now : Time) : Option Shipment :=
  match statusMap.lookup state with
  | none => some shipment
  | some newStatus =>
      if state = "DELIVERED" then shipment.markDelivered codAmount now
      else if state = "PICKED_UP" then some (shipment.markPickedUp now)
      else if state = failedState then some (shipment.markFailed failureReason now)
      else if state = "RETURNED" then some (shipment.markReturned now)
      else if state = "CANCELLED" then
        some (shipment.markCancelled "Cancelled by carrier" now)
      else if state = "OUT_FOR_DELIVERY" then
        some (shipment.updateStatus .outForDelivery "Out for delivery" now)
      else some (shipment.updateStatus newStatus description now)

end Numu.Shipping
