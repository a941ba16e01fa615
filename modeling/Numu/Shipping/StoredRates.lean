import Numu.Foundation.Json
import Numu.Foundation.Outcome
import Numu.Shipping.ShippingResolver

/-! Rates as they are stored, with configs that may not validate, and the resolver over them. -/

namespace Numu.Shipping
open Numu.Orders (UUID)
open ShippingZoneRepository

/-- Validation by the four config models: what each of them makes of a payload. -/
structure ConfigModels where
  /-- `RateConfigFlat`. -/
  flat : Json.Fields → Option Nat
  /-- `RateConfigFreeOver`. -/
  freeOver : Json.Fields → Option (Nat × Nat)
  /-- `RateConfigWeightBand`. -/
  weightBand : Json.Fields → Option { bands : List WeightBand // bands ≠ [] }
  /-- `RateConfigCarrierApi`. -/
  carrierApi : Json.Fields → Option (String × String)

def RateType.value : RateType → String
  | .flat => "flat"
  | .freeOver => "free_over"
  | .weightBand => "weight_band"
  | .carrierApi => "carrier_api"

/-- `payload.setdefault("type", …)`. -/
def typedPayload (rateType : RateType) (config : Json.Fields) : Json.Fields :=
  if (config.lookup "type").isSome then config else config ++ [("type", .str rateType.value)]

/-- A config that names a type of its own is read as that type. -/
def parseRateConfig (models : ConfigModels) (rateType : RateType) (config : Json.Fields) :
    Option RateConfig :=
  let payload := typedPayload rateType config
  match payload.lookup "type" with
  | some (.str type) =>
      if type = RateType.flat.value then (models.flat payload).map .flat
      else if type = RateType.freeOver.value then
        (models.freeOver payload).map fun fields => .freeOver fields.1 fields.2
      else if type = RateType.weightBand.value then
        (models.weightBand payload).map fun bands => .weightBand bands.1 bands.2
      else if type = RateType.carrierApi.value then
        (models.carrierApi payload).map fun fields => .carrierApi fields.1 fields.2
      else none
  | _ => none

/-- A row of `shipping_rates`. -/
structure RateRow where
  id : UUID
  zoneId : UUID
  rateType : RateType
  label : String
  labelAr : Option String := none
  config : Json.Fields := []
  isActive : Bool := true
  sortOrder : Int := 0

structure StoredTables where
  zones : Table UUID ShippingZone
  governorates : List ZoneGovernorate
  rates : Table UUID RateRow
  /-- A row's id is its key. -/
  zones_keyed : ∀ row ∈ zones.rows, row.2.id = row.1

inductive RateFault where
  /-- A `ValidationError`, or the `ValueError` of an unknown type. -/
  | invalidConfig (rateId : UUID)
  /-- The config validates as another model than the rate's type names. -/
  | otherModel (rateId : UUID)
  deriving DecidableEq

namespace StoredTables
variable (tables : StoredTables)

/-- What the queries on zones and governorates read. -/
def coverage : ShippingTables where
  zones := tables.zones
  governorates := tables.governorates

def rowOrder (first second : RateRow) : Prop :=
  first.sortOrder < second.sortOrder ∨
    first.sortOrder = second.sortOrder ∧ first.label ≤ second.label

instance : DecidableRel rowOrder := fun _ _ =>
  inferInstanceAs (Decidable (_ ∨ _ ∧ _))

/-- `list_rates_by_zone`. -/
def listRowsByZone (zoneId : UUID) : List RateRow :=
  ((tables.rates.rows.map Prod.snd).filter fun row =>
    row.zoneId = zoneId && row.isActive).insertionSort rowOrder

def zoneOrder (first second : ShippingZone) : Prop :=
  first.sortOrder < second.sortOrder ∨
    first.sortOrder = second.sortOrder ∧ first.name ≤ second.name

instance : DecidableRel zoneOrder := fun _ _ =>
  inferInstanceAs (Decidable (_ ∨ _ ∧ _))

/-- The store's active zones, each with its active rates. -/
def getZonesWithRatesForStore (storeId : UUID) : List (ShippingZone × List RateRow) :=
  (((tables.zones.rows.map Prod.snd).filter fun zone =>
    zone.storeId = storeId && zone.isActive).insertionSort zoneOrder).map fun zone =>
      (zone, tables.listRowsByZone zone.id)

end StoredTables

namespace RateRow

def rate (row : RateRow) (config : RateConfig) : ShippingRate where
  id := row.id
  zoneId := row.zoneId
  label := row.label
  labelAr := row.labelAr
  config := config
  isActive := row.isActive
  sortOrder := row.sortOrder

def parsed (models : ConfigModels) (row : RateRow) : Except RateFault ShippingRate :=
  match parseRateConfig models row.rateType row.config with
  | some config => .ok (row.rate config)
  | none => .error (.invalidConfig row.id)

end RateRow

namespace ShippingResolver
variable (resolver : ShippingResolver) (models : ConfigModels) (tables : StoredTables)

/-- One round of the loop over a zone's rates: the option, with the threshold of a free tier. -/
def offerRow (storeId : UUID) (zone : ShippingZone) (cart : ShippingCart)
    (quotes : List (UUID × RateQuote)) (row : RateRow) :
    Except RateFault (Option (ResolvedOption × Option Nat)) :=
  if codBlocked zone cart then .ok none
  else do
    let rate ← row.parsed models
    match resolver.evaluateRate storeId rate zone cart (quotes.lookup row.id) with
    | none => .ok none
    | some option =>
        let offered := { option with rateType := row.rateType }
        if row.rateType = .freeOver then
          match rate.config with
          | .freeOver _ threshold => .ok (some (offered, some threshold))
          | _ => .error (.otherModel row.id)
        else .ok (some (offered, none))

/-- What is returned once the rates are evaluated. -/
def conclude (evaluated : List (ResolvedOption × Option Nat)) (cart : ShippingCart)
    (restrictToZones codBlockedByZone pricedByApp : Bool) : ResolverOutput :=
  let offered := evaluated.map Prod.fst
  let options :=
    if offered = [] ∧ restrictToZones = false ∧ codBlockedByZone = false ∧ pricedByApp = false then
      [resolver.defaultOption]
    else offered
  { options := options
    freeShippingProgress := (evaluated.filterMap Prod.snd).min?.map fun threshold =>
      ⟨max 0 cart.subtotalCents, threshold⟩
    unavailableReason :=
      if options ≠ [] then none
      else if codBlockedByZone then some "cod_unavailable" else some "not_covered" }

/-- `resolve_options`; the quotes are asked for before the loop, outside of its `try`. -/
def resolveStored (storeId : UUID) (governorateCode : String) (cart : ShippingCart)
    (restrictToZones : Bool) : Except RateFault ResolverOutput :=
  match getZoneForGovernorate tables.coverage storeId governorateCode with
  | none => .ok (resolver.conclude [] cart restrictToZones false false)
  | some zone => do
      let rows := tables.listRowsByZone zone.id
      let carriers ← (rows.filter fun row => row.rateType = .carrierApi).mapM (RateRow.parsed models)
      let quotes := resolver.liveQuotes storeId carriers governorateCode cart
      let rounds ← rows.mapM (resolver.offerRow models storeId zone cart quotes)
      .ok (resolver.conclude (rounds.filterMap id) cart restrictToZones (codBlocked zone cart)
        (rows.any fun row => row.rateType = .carrierApi))

/-! ### The advertised threshold -/

/-- The thresholds of a zone's free tiers; a config that does not parse counts as none. -/
def freeOver : List RateRow → Except RateFault (List Nat)
  | [] => .ok []
  | row :: rest =>
      if row.rateType ≠ .freeOver then freeOver rest
      else match parseRateConfig models row.rateType row.config with
      | none => freeOver rest
      | some (.freeOver _ threshold) => do
          let others ← freeOver rest
          .ok (threshold :: others)
      | some _ => .error (.otherModel row.id)

/-- Each priced zone's lowest threshold; none once a priced zone has no free tier. -/
def zoneThresholds : List (ShippingZone × List RateRow) → Except RateFault (Option (List Nat))
  | [] => .ok (some [])
  | (zone, rows) :: rest =>
      if rows.isEmpty || (governorateCodes tables.coverage zone.id).isEmpty then
        zoneThresholds rest
      else do
        let free ← freeOver models rows
        match free.min? with
        | none => .ok none
        | some lowest => do
            let others ← zoneThresholds rest
            .ok (others.map (lowest :: ·))

def freeShippingThresholdCents (storeId : UUID) : Except RateFault (Option Nat) := do
  let thresholds ← zoneThresholds models tables (tables.getZonesWithRatesForStore storeId)
  .ok (thresholds.bind List.max?)

/-! ### Stores all of whose configs validate -/

/-- The rates as the resolver sees them once their configs are read. -/
def readTables (config : RateRow → RateConfig) : ShippingTables where
  zones := tables.zones
  governorates := tables.governorates
  rates :=
    { rows := tables.rates.rows.map fun entry => (entry.1, entry.2.rate (config entry.2))
      nodup := by
        rw [List.map_map]
        exact tables.rates.nodup }

variable {resolver models tables} {config : RateRow → RateConfig}

theorem listRatesByZone_readTables (zoneId : UUID) :
    listRatesByZone (readTables tables config) zoneId =
      (tables.listRowsByZone zoneId).map fun row => row.rate (config row) := by
  rw [StoredTables.listRowsByZone, listRatesByZone]
  rw [List.map_insertionSort StoredTables.rowOrder rateOrder _ _ fun _ _ _ _ => Iff.rfl]
  congr 1
  rw [readTables, List.map_map, List.filter_map, List.filter_map, List.map_map]
  rfl

theorem wanted_carriers {rows : List RateRow}
    (typed : ∀ row ∈ rows, (config row).type = row.rateType) :
    wanted ((rows.filter fun row => row.rateType = .carrierApi).map fun row =>
      row.rate (config row)) = wanted (rows.map fun row => row.rate (config row)) := by
  induction rows with
  | nil => rfl
  | cons row rest ih =>
      have here := typed row List.mem_cons_self
      have later := ih fun other member => typed other (List.mem_cons_of_mem _ member)
      rw [wanted, wanted] at later ⊢
      by_cases carrier : row.rateType = .carrierApi
      · rw [List.filter_cons_of_pos (by simpa using carrier), List.map_cons, List.map_cons,
          List.filterMap_cons, List.filterMap_cons, later]
      · rw [List.filter_cons_of_neg (by simpa using carrier), List.map_cons, List.filterMap_cons,
          later]
        cases kind : config row with
        | carrierApi name code =>
            rw [kind] at here
            exact absurd here.symm carrier
        | _ => simp [RateRow.rate]

theorem evaluateRate_rateType {storeId : UUID} {rate : ShippingRate} {zone : ShippingZone}
    {cart : ShippingCart} {quote : Option RateQuote} {option : ResolvedOption}
    (priced : resolver.evaluateRate storeId rate zone cart quote = some option) :
    option.rateType = rate.rateType := by
  rw [evaluateRate.eq_def] at priced
  split at priced
  · cases priced
    rfl
  · cases priced
    rfl
  · cases priced
    rfl
  · split at priced
    · cases priced
    · split at priced
      · cases priced
      · cases priced
        rfl

/-- The threshold of a free tier. -/
def thresholdOf (rate : ShippingRate) : Option Nat :=
  match rate.config with
  | .freeOver _ threshold => some threshold
  | _ => none

/-- A row whose config validates under its own type gives the option its rate gives. -/
theorem offerRow_reads {row : RateRow}
    (reads : parseRateConfig models row.rateType row.config = some (config row))
    (typed : (config row).type = row.rateType) (storeId : UUID) (zone : ShippingZone)
    (cart : ShippingCart) (quotes : List (UUID × RateQuote)) :
    resolver.offerRow models storeId zone cart quotes row =
      .ok (if codBlocked zone cart then none
        else (resolver.evaluateRate storeId (row.rate (config row)) zone cart
          (quotes.lookup row.id)).map fun option =>
            (option, thresholdOf (row.rate (config row)))) := by
  have read : row.parsed models = .ok (row.rate (config row)) := by rw [RateRow.parsed, reads]
  rw [offerRow]
  split
  · rfl
  · rw [read]
    change (match resolver.evaluateRate storeId (row.rate (config row)) zone cart
      (quotes.lookup row.id) with | none => _ | some option => _) = _
    cases priced : resolver.evaluateRate storeId (row.rate (config row)) zone cart
        (quotes.lookup row.id) with
    | none => rfl
    | some option =>
        have type : option.rateType = row.rateType := (evaluateRate_rateType priced).trans typed
        have same : { option with rateType := row.rateType } = option := by rw [← type]
        simp only [same, Option.map_some, thresholdOf, RateRow.rate]
        cases kind : config row with
        | freeOver amount threshold =>
            have free : row.rateType = .freeOver := by rw [← typed, kind, RateConfig.type]
            rw [if_pos free]
        | _ =>
            have priced : row.rateType ≠ .freeOver := by
              rw [← typed, kind]
              simp [RateConfig.type]
            rw [if_neg priced]

theorem freeOverThresholds_eq (evaluated : List (ShippingRate × ResolvedOption)) :
    freeOverThresholds evaluated = evaluated.filterMap fun entry => thresholdOf entry.1 := rfl

/-- The rounds of the loop give the options with their rates' thresholds. -/
theorem rounds_eq (storeId : UUID) (zone : ShippingZone) (governorateCode : String)
    (cart : ShippingCart) (rows : List RateRow) :
    let rates := rows.map fun row => row.rate (config row)
    (rows.map fun row =>
        if codBlocked zone cart then none
        else (resolver.evaluateRate storeId (row.rate (config row)) zone cart
          ((resolver.liveQuotes storeId rates governorateCode cart).lookup row.id)).map
            fun option => (option, thresholdOf (row.rate (config row)))).filterMap id =
      (resolver.evaluateRates storeId rates zone governorateCode cart).map fun entry =>
        (entry.2, thresholdOf entry.1) := by
  intro rates
  rw [evaluateRates, List.filterMap_map, List.filterMap_map, List.map_filterMap]
  apply List.filterMap_congr
  intro row _
  simp only [Function.comp_apply, id_eq]
  split
  · rfl
  · rw [Option.map_map]
    rfl

/-- Where every config validates under its own type, nothing raises and the options are those of
the rates read. -/
theorem resolveStored_reads
    (reads : ∀ entry ∈ tables.rates.rows, parseRateConfig models entry.2.rateType entry.2.config
      = some (config entry.2) ∧ (config entry.2).type = entry.2.rateType)
    (storeId : UUID) (governorateCode : String) (cart : ShippingCart) (restrict : Bool) :
    resolver.resolveStored models tables storeId governorateCode cart restrict =
      .ok (resolver.resolveOptions (readTables tables config) storeId governorateCode cart
        restrict) := by
  have same : getZoneForGovernorate (readTables tables config) storeId governorateCode =
      getZoneForGovernorate tables.coverage storeId governorateCode := rfl
  rw [resolveStored, resolveOptions, same]
  cases getZoneForGovernorate tables.coverage storeId governorateCode with
  | none => rfl
  | some zone =>
      have each : ∀ row ∈ tables.listRowsByZone zone.id,
          parseRateConfig models row.rateType row.config = some (config row) ∧
            (config row).type = row.rateType := by
        intro row member
        rw [StoredTables.listRowsByZone, (List.perm_insertionSort _ _).mem_iff,
          List.mem_filter, List.mem_map] at member
        rcases member with ⟨⟨entry, listed, rfl⟩, -⟩
        exact reads entry listed
      simp only [Option.map_some, Option.getD_some, Option.any_some, listRatesByZone_readTables]
      generalize tables.listRowsByZone zone.id = rows at each
      have carriers : (rows.filter fun row => row.rateType = .carrierApi).mapM
          (RateRow.parsed models) = .ok ((rows.filter fun row =>
            row.rateType = .carrierApi).map fun row => row.rate (config row)) := by
        apply Outcome.mapM_eq_ok
        intro row member
        rw [RateRow.parsed, (each row (List.mem_of_mem_filter member)).1]
      have quotes : resolver.liveQuotes storeId ((rows.filter fun row =>
            row.rateType = .carrierApi).map fun row => row.rate (config row)) governorateCode cart =
          resolver.liveQuotes storeId (rows.map fun row => row.rate (config row)) governorateCode
            cart := by
        rw [liveQuotes, liveQuotes, wanted_carriers fun row member => (each row member).2]
      have rounds : rows.mapM (resolver.offerRow models storeId zone cart (resolver.liveQuotes
            storeId (rows.map fun row => row.rate (config row)) governorateCode cart)) = .ok _ :=
        Outcome.mapM_eq_ok fun row member =>
          offerRow_reads (each row member).1 (each row member).2 storeId zone cart _
      have byApp : (rows.any fun row => row.rateType = .carrierApi) =
          (rows.map fun row => row.rate (config row)).any fun rate =>
            rate.rateType = .carrierApi := by
        rw [List.any_map, Bool.eq_iff_iff, List.any_eq_true, List.any_eq_true]
        apply exists_congr
        intro row
        apply and_congr_right
        intro member
        rw [← (each row member).2]
        rfl
      rw [carriers]
      change (do
        let rounds ← rows.mapM (resolver.offerRow models storeId zone cart
          (resolver.liveQuotes storeId _ governorateCode cart))
        Except.ok (resolver.conclude (rounds.filterMap id) cart restrict (codBlocked zone cart) _))
          = _
      rw [quotes, rounds]
      change Except.ok (resolver.conclude (List.filterMap id _) cart restrict _ _) = _
      rw [rounds_eq, conclude, byApp]
      simp only [List.map_map, List.filterMap_map, freeOverThresholds_eq]
      rfl

end ShippingResolver
end Numu.Shipping
