import Numu.Shipping.ShippingZone

/-! The shipping resolver. -/

namespace Numu.Shipping
open Numu.Orders (UUID)
open ShippingZoneRepository

structure RateQuote where
  serviceCode : String
  amountCents : Nat
  currency : String := "EGP"
  daysMin : Nat := 2
  daysMax : Nat := 5
  codSupported : Bool := true
  deriving DecidableEq

/-- What a partner is asked. -/
structure RateQuery where
  storeId : UUID
  governorateCode : String
  subtotalCents : Int
  weightG : Int
  cod : Bool
  deriving DecidableEq

structure ResolvedOption where
  rateId : UUID
  zoneId : UUID
  label : String
  labelAr : Option String
  amountCents : Nat
  currency : String
  estimatedDaysMin : Nat
  estimatedDaysMax : Nat
  codSupported : Bool
  rateType : RateType
  deriving DecidableEq

structure FreeShippingProgress where
  currentCents : Int
  thresholdCents : Nat
  deriving DecidableEq

structure ResolverOutput where
  options : List ResolvedOption
  freeShippingProgress : Option FreeShippingProgress
  unavailableReason : Option String
  deriving DecidableEq

/-- The cart, as far as shipping depends on it. -/
structure ShippingCart where
  subtotalCents : Int
  weightG : Int
  codRequested : Bool := false
  deriving DecidableEq

structure ShippingResolver where
  currency : String := "EGP"
  /-- `cod_shield_allows`. -/
  codShieldAllows : UUID → Bool
  /-- The rates of a carrier's answer: none where the app is not installed, or is slow or wrong. -/
  partnerRates : String → RateQuery → List RateQuote

def defaultShippingRateId : UUID := 0x00000000000000000000000000005401#128
def defaultZoneId : UUID := 0x00000000000000000000000000005402#128
def defaultShippingLabel : String := "Standard Shipping"
def defaultShippingLabelAr : String := "الشحن العادي"

def isAppCarrier (slug : String) : Bool :=
  "app:".toList.isPrefixOf slug.toList

namespace ShippingResolver

/-- Finite bands come first, ascending. -/
def bandOrder (first second : WeightBand) : Bool :=
  match first.maxWeightG, second.maxWeightG with
  | some first, some second => first ≤ second
  | none, some _ => false
  | _, none => true

/-- The open-ended band charges each started kilogram over the last finite one. -/
def openBandAmount (band : WeightBand) (previousMax : Nat) (cartWeightG : Int) : Nat :=
  let overflowG := (cartWeightG - previousMax).toNat
  let extraKg := (overflowG + 999) / 1000
  band.amountCents + extraKg * band.perExtraKgCents.getD 0

def firstBand (cartWeightG : Int) : Nat → List WeightBand → Option Nat
  | _, [] => none
  | previousMax, band :: rest =>
      match band.maxWeightG with
      | none => some (openBandAmount band previousMax cartWeightG)
      | some limit =>
          if cartWeightG ≤ limit then some band.amountCents
          else firstBand cartWeightG limit rest

/-- Without a match the last band counts. -/
def evaluateWeightBand (bands : List WeightBand) (cartWeightG : Int) : Nat :=
  let sortedBands := bands.insertionSort fun first second => bandOrder first second
  (firstBand cartWeightG 0 sortedBands).getD
    ((sortedBands.getLast?.map WeightBand.amountCents).getD 0)

variable (resolver : ShippingResolver) (tables : ShippingTables)

/-- `quote_rates`: the carriers' answers by carrier and service. -/
def quoteRates (carriers : List String) (query : RateQuery) (carrier serviceCode : String) :
    Option RateQuote :=
  if carrier ∈ carriers then
    ((resolver.partnerRates carrier query).filter fun quote =>
      quote.serviceCode = serviceCode).getLast?
  else none

/-- The partner apps' rates among them. -/
def wanted (rates : List ShippingRate) : List (UUID × String × String) :=
  rates.filterMap fun rate =>
    match rate.config with
    | .carrierApi carrier serviceCode =>
        if isAppCarrier carrier then some (rate.id, carrier, serviceCode) else none
    | _ => none

/-- `_live_quotes`, by rate id. -/
def liveQuotes (storeId : UUID) (rates : List ShippingRate) (governorateCode : String)
    (cart : ShippingCart) : List (UUID × RateQuote) :=
  let query : RateQuery :=
    ⟨storeId, governorateCode, cart.subtotalCents, cart.weightG, cart.codRequested⟩
  let carriers := (wanted rates).map fun entry => entry.2.1
  (wanted rates).filterMap fun entry =>
    match resolver.quoteRates carriers query entry.2.1 entry.2.2 with
    | some quote => if quote.currency = resolver.currency then some (entry.1, quote) else none
    | none => none

/-- The zone's fee on cash on delivery, where the store may charge it. -/
def codSurcharge (storeId : UUID) (zone : ShippingZone) (cart : ShippingCart) : Nat :=
  if cart.codRequested && zone.codEnabled && 0 < zone.codFeeCents &&
      resolver.codShieldAllows storeId then zone.codFeeCents
  else 0

def pricedOption (storeId : UUID) (rate : ShippingRate) (zone : ShippingZone)
    (cart : ShippingCart) (amountCents : Nat) : ResolvedOption where
  rateId := rate.id
  zoneId := zone.id
  label := rate.label
  labelAr := rate.labelAr
  amountCents := amountCents + resolver.codSurcharge storeId zone cart
  currency := resolver.currency
  estimatedDaysMin := zone.estimatedDaysMin
  estimatedDaysMax := zone.estimatedDaysMax
  codSupported := zone.codEnabled
  rateType := rate.rateType

/-- `_evaluate_rate`. -/
def evaluateRate (storeId : UUID) (rate : ShippingRate) (zone : ShippingZone)
    (cart : ShippingCart) (quote : Option RateQuote) : Option ResolvedOption :=
  match rate.config with
  | .flat amountCents => some (resolver.pricedOption storeId rate zone cart amountCents)
  | .freeOver amountCents threshold =>
      some (resolver.pricedOption storeId rate zone cart
        (if cart.subtotalCents ≥ threshold then 0 else amountCents))
  | .weightBand bands _ =>
      some (resolver.pricedOption storeId rate zone cart (evaluateWeightBand bands cart.weightG))
  | .carrierApi _ _ =>
      match quote with
      | none => none
      | some quote =>
          if cart.codRequested && !quote.codSupported then none
          else
            some { resolver.pricedOption storeId rate zone cart quote.amountCents with
              estimatedDaysMin := quote.daysMin
              estimatedDaysMax := max quote.daysMin quote.daysMax
              codSupported := zone.codEnabled && quote.codSupported }

def codBlocked (zone : ShippingZone) (cart : ShippingCart) : Bool :=
  cart.codRequested && !zone.codEnabled

/-- The zone's rates with the options they give. -/
def evaluateRates (storeId : UUID) (rates : List ShippingRate) (zone : ShippingZone)
    (governorateCode : String) (cart : ShippingCart) : List (ShippingRate × ResolvedOption) :=
  let quotes := resolver.liveQuotes storeId rates governorateCode cart
  rates.filterMap fun rate =>
    if codBlocked zone cart then none
    else (resolver.evaluateRate storeId rate zone cart (quotes.lookup rate.id)).map fun option =>
      (rate, option)

/-- The thresholds of the free tiers among the offered rates. -/
def freeOverThresholds (evaluated : List (ShippingRate × ResolvedOption)) : List Nat :=
  evaluated.filterMap fun entry =>
    match entry.1.config with
    | .freeOver _ threshold => some threshold
    | _ => none

/-- `_default_ships_everywhere_option`. -/
def defaultOption : ResolvedOption where
  rateId := defaultShippingRateId
  zoneId := defaultZoneId
  label := defaultShippingLabel
  labelAr := some defaultShippingLabelAr
  amountCents := 0
  currency := resolver.currency
  estimatedDaysMin := 2
  estimatedDaysMax := 5
  codSupported := true
  rateType := .flat

def resolveOptions (storeId : UUID) (governorateCode : String) (cart : ShippingCart)
    (restrictToZones : Bool) : ResolverOutput :=
  let zone := getZoneForGovernorate tables storeId governorateCode
  let rates := (zone.map fun zone => listRatesByZone tables zone.id).getD []
  let evaluated := (zone.map fun zone =>
    resolver.evaluateRates storeId rates zone governorateCode cart).getD []
  let codBlockedByZone := zone.any fun zone => codBlocked zone cart
  let pricedByApp := rates.any fun rate => rate.rateType = .carrierApi
  let offered := evaluated.map Prod.snd
  let options :=
    if offered = [] ∧ restrictToZones = false ∧ codBlockedByZone = false ∧ pricedByApp = false then
      [resolver.defaultOption]
    else offered
  { options := options
    freeShippingProgress := (freeOverThresholds evaluated).min?.map fun threshold =>
      ⟨max 0 cart.subtotalCents, threshold⟩
    unavailableReason :=
      if options ≠ [] then none
      else if codBlockedByZone then some "cod_unavailable" else some "not_covered" }

/-- The rate by itself; its zone's store is not looked at. -/
def resolveOne (storeId rateId : UUID) (governorateCode : String) (cart : ShippingCart) :
    Option ResolvedOption := do
  let rate ← getRate tables rateId
  if !rate.isActive then none
  else
    let zone ← getZone tables rate.zoneId
    if !zone.isActive then none
    else if !coversGovernorate tables zone.id governorateCode then none
    else if codBlocked zone cart then none
    else
      let quotes := resolver.liveQuotes storeId [rate] governorateCode cart
      resolver.evaluateRate storeId rate zone cart (quotes.lookup rate.id)

end ShippingResolver
end Numu.Shipping
