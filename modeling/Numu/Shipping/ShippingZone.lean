import Mathlib.Data.List.Sort
import Mathlib.Data.String.Basic
import Numu.Foundation.Table
import Numu.Orders.Order

/-! Shipping zones, their rates and the repository of both. -/

namespace Numu.Shipping
open Numu.Orders (UUID)

structure ShippingZone where
  id : UUID
  storeId : UUID
  name : String
  nameAr : Option String := none
  estimatedDaysMin : Nat := 2
  estimatedDaysMax : Nat := 5
  codEnabled : Bool := true
  codFeeCents : Nat := 0
  isActive : Bool := true
  sortOrder : Int := 0
  deriving DecidableEq

/-- A row of `shipping_zone_governorates`. -/
structure ZoneGovernorate where
  zoneId : UUID
  governorateCode : String
  storeId : UUID
  deriving DecidableEq

structure WeightBand where
  maxWeightG : Option Nat := none
  amountCents : Nat
  perExtraKgCents : Option Nat := none
  deriving DecidableEq

inductive RateConfig where
  | flat (amountCents : Nat)
  | freeOver (amountCents freeWhenSubtotalGteCents : Nat)
  | weightBand (bands : List WeightBand) (nonempty : bands ≠ [])
  | carrierApi (carrier serviceCode : String)
  deriving DecidableEq

inductive RateType where
  | flat
  | freeOver
  | weightBand
  | carrierApi
  deriving DecidableEq, Repr

def RateConfig.type : RateConfig → RateType
  | .flat .. => .flat
  | .freeOver .. => .freeOver
  | .weightBand .. => .weightBand
  | .carrierApi .. => .carrierApi

/-- A rate, with its validated config. -/
structure ShippingRate where
  id : UUID
  zoneId : UUID
  label : String
  labelAr : Option String := none
  config : RateConfig
  isActive : Bool := true
  sortOrder : Int := 0
  deriving DecidableEq

def ShippingRate.rateType (rate : ShippingRate) : RateType :=
  rate.config.type

structure ShippingTables where
  zones : Table UUID ShippingZone := .empty
  governorates : List ZoneGovernorate := []
  rates : Table UUID ShippingRate := .empty

inductive ZoneError where
  /-- "Governorates already covered by another active zone: " and their list. -/
  | alreadyCovered (codes : List String)
  | zoneNotFound (zoneId : UUID)
  /-- The flush fails in the database. -/
  | database
  deriving DecidableEq

namespace ShippingZoneRepository

/-- `_check_governorate_conflicts`. -/
def checkGovernorateConflicts (tables : ShippingTables) (storeId : UUID)
    (governorateCodes : List String) (excludeZoneId : Option UUID) : List String :=
  if governorateCodes = [] then []
  else
    let rows := tables.governorates.filter fun row =>
      row.storeId = storeId && row.governorateCode ∈ governorateCodes &&
        (tables.zones.get? row.zoneId).any ShippingZone.isActive &&
          excludeZoneId ≠ some row.zoneId
    rows.map ZoneGovernorate.governorateCode

def memberships (zone : ShippingZone) (governorateCodes : List String) : List ZoneGovernorate :=
  governorateCodes.map fun code => ⟨zone.id, code, zone.storeId⟩

/-- The primary key and the column's width admit the rows. -/
def insertable (governorateCodes : List String) : Bool :=
  governorateCodes.Nodup && governorateCodes.all fun code => code.length ≤ 10

def createZone (tables : ShippingTables) (zone : ShippingZone) (governorateCodes : List String) :
    Except ZoneError ShippingTables :=
  let conflicts := checkGovernorateConflicts tables zone.storeId governorateCodes none
  if conflicts ≠ [] then .error (.alreadyCovered (conflicts.insertionSort (· ≤ ·)))
  else if (tables.zones.get? zone.id).isSome || !insertable governorateCodes then .error .database
  else
    .ok { tables with
      zones := tables.zones.set zone.id zone
      governorates := tables.governorates ++ memberships zone governorateCodes }

def getZone (tables : ShippingTables) (zoneId : UUID) : Option ShippingZone :=
  tables.zones.get? zoneId

/-- The entity's `governorate_codes`. -/
def governorateCodes (tables : ShippingTables) (zoneId : UUID) : List String :=
  (tables.governorates.filter fun row => row.zoneId = zoneId).map ZoneGovernorate.governorateCode

/-- The membership that an update leaves. -/
def replaced (tables : ShippingTables) (zone : ShippingZone) :
    Option (List String) → List ZoneGovernorate
  | none => tables.governorates
  | some codes =>
      (tables.governorates.filter fun row => row.zoneId ≠ zone.id) ++ memberships zone codes

/-- It looks for conflicts only where the codes are given and the zone is to be active. -/
def updateConflicts (tables : ShippingTables) (zone : ShippingZone) :
    Option (List String) → List String
  | none => []
  | some codes =>
      if zone.isActive then checkGovernorateConflicts tables zone.storeId codes (some zone.id)
      else []

def updateZone (tables : ShippingTables) (zone : ShippingZone)
    (governorateCodes : Option (List String)) : Except ZoneError ShippingTables :=
  if (tables.zones.get? zone.id).isNone then .error (.zoneNotFound zone.id)
  else
    let conflicts := updateConflicts tables zone governorateCodes
    if conflicts ≠ [] then .error (.alreadyCovered (conflicts.insertionSort (· ≤ ·)))
    else if governorateCodes.any fun codes => !insertable codes then .error .database
    else
      .ok { tables with
        zones := tables.zones.set zone.id zone
        governorates := replaced tables zone governorateCodes }

/-- A soft delete. -/
def deleteZone (tables : ShippingTables) (zoneId : UUID) : ShippingTables :=
  { tables with zones := tables.zones.modify zoneId fun zone => { zone with isActive := false } }

def getRate (tables : ShippingTables) (rateId : UUID) : Option ShippingRate :=
  tables.rates.get? rateId

def rateOrder (first second : ShippingRate) : Prop :=
  first.sortOrder < second.sortOrder ∨
    first.sortOrder = second.sortOrder ∧ first.label ≤ second.label

instance : DecidableRel rateOrder := fun _ _ =>
  inferInstanceAs (Decidable (_ ∨ _ ∧ _))

/-- The zone's active rates in their order. -/
def listRatesByZone (tables : ShippingTables) (zoneId : UUID) : List ShippingRate :=
  ((tables.rates.rows.map Prod.snd).filter fun rate =>
    rate.zoneId = zoneId && rate.isActive).insertionSort rateOrder

def coversGovernorate (tables : ShippingTables) (zoneId : UUID) (governorateCode : String) : Bool :=
  governorateCode ∈ governorateCodes tables zoneId

/-- One of the store's active zones that cover the governorate. -/
def getZoneForGovernorate (tables : ShippingTables) (storeId : UUID) (governorateCode : String) :
    Option ShippingZone :=
  (tables.zones.rows.find? fun row =>
    row.2.storeId = storeId && row.2.isActive &&
      coversGovernorate tables row.1 governorateCode).map Prod.snd

def hasActiveZones (tables : ShippingTables) (storeId : UUID) : Bool :=
  tables.zones.rows.any fun row => row.2.storeId = storeId && row.2.isActive

end ShippingZoneRepository
end Numu.Shipping
