import Numu.Shipping.Coverage
import Numu.Shipping.ShippingResolver

/-! A rate resolved by itself and among the options. -/

namespace Numu.Shipping
open Numu.Orders (UUID)
open ShippingZoneRepository

/-- Rows are stored under their own ids. -/
structure Stored (tables : ShippingTables) : Prop where
  zone : ∀ zoneId zone, tables.zones.get? zoneId = some zone → zone.id = zoneId
  rate : ∀ rateId rate, tables.rates.get? rateId = some rate → rate.id = rateId

section Queries
variable {tables : ShippingTables}

theorem mem_listRatesByZone (stored : Stored tables) {zoneId : UUID} {rate : ShippingRate} :
    rate ∈ listRatesByZone tables zoneId ↔
      getRate tables rate.id = some rate ∧ rate.zoneId = zoneId ∧ rate.isActive = true := by
  rw [listRatesByZone, (List.perm_insertionSort _ _).mem_iff, List.mem_filter, List.mem_map,
    Bool.and_eq_true, decide_eq_true_eq]
  constructor
  · intro facts
    rcases facts with ⟨⟨⟨key, row⟩, member, rfl⟩, mine, active⟩
    have found := (Table.get?_eq_some_iff ..).mpr member
    have key_ := stored.rate key row found
    subst key_
    exact ⟨found, mine, active⟩
  · intro facts
    rcases facts with ⟨found, mine, active⟩
    exact ⟨⟨(rate.id, rate), (Table.get?_eq_some_iff ..).mp found, rfl⟩, mine, active⟩

theorem listRatesByZone_nodup (stored : Stored tables) (zoneId : UUID) :
    ((listRatesByZone tables zoneId).map ShippingRate.id).Nodup := by
  have keys : (tables.rates.rows.map Prod.snd).map ShippingRate.id =
      tables.rates.rows.map Prod.fst := by
    rw [List.map_map]
    apply List.map_congr_left
    intro facts member
    rcases facts with ⟨key, row⟩
    exact stored.rate key row ((Table.get?_eq_some_iff ..).mpr member)
  have unique : ((tables.rates.rows.map Prod.snd).map ShippingRate.id).Nodup := by
    rw [keys]
    exact tables.rates.nodup
  rw [listRatesByZone, ((List.perm_insertionSort _ _).map _).nodup_iff]
  exact unique.sublist (List.filter_sublist.map _)

theorem getZoneForGovernorate_covers (stored : Stored tables) {storeId : UUID} {code : String}
    {zone : ShippingZone} (found : getZoneForGovernorate tables storeId code = some zone) :
    getZone tables zone.id = some zone ∧ zone.isActive = true ∧ zone.storeId = storeId ∧
      code ∈ governorateCodes tables zone.id := by
  rcases Option.map_eq_some_iff.mp found with ⟨⟨key, row⟩, hit, rfl⟩
  have present := (Table.get?_eq_some_iff ..).mpr (List.mem_of_find?_eq_some hit)
  have accepted := List.find?_some hit
  have key_ := stored.zone key row present
  subst key_
  simp only [coversGovernorate, Bool.and_eq_true, decide_eq_true_eq] at accepted
  exact ⟨present, accepted.1.2, accepted.1.1, accepted.2⟩

/-- A zone that covers the governorate is the one that is looked up, where there is one only. -/
theorem getZoneForGovernorate_unique (stored : Stored tables)
    (unambiguous : tables.Unambiguous) {storeId : UUID} {code : String} {zone : ShippingZone}
    (present : getZone tables zone.id = some zone) (active : zone.isActive = true)
    (store : zone.storeId = storeId) (covered : code ∈ governorateCodes tables zone.id) :
    getZoneForGovernorate tables storeId code = some zone := by
  cases found : getZoneForGovernorate tables storeId code with
  | none =>
      rw [getZoneForGovernorate, Option.map_eq_none_iff, List.find?_eq_none] at found
      have missed := found (zone.id, zone) ((Table.get?_eq_some_iff ..).mp present)
      simp [store, active, coversGovernorate, covered] at missed
  | some other =>
      rcases getZoneForGovernorate_covers stored found with ⟨present', active', store', covered'⟩
      have same := unambiguous storeId code other.id zone.id
        ⟨other, present', active', store', covered'⟩ ⟨zone, present, active, store, covered⟩
      rw [same, present] at present'
      exact present'.symm

end Queries

namespace ShippingResolver
variable (resolver : ShippingResolver) {tables : ShippingTables}

/-- The partner's quote for one rate. -/
def quoteOf (query : RateQuery) (rate : ShippingRate) : Option RateQuote :=
  match rate.config with
  | .carrierApi carrier serviceCode =>
      if isAppCarrier carrier then
        (((resolver.partnerRates carrier query).filter fun quote =>
          quote.serviceCode = serviceCode).getLast?).filter fun quote =>
            quote.currency = resolver.currency
      else none
  | _ => none

theorem lookup_absent {rates : List ShippingRate} (quote : ShippingRate → Option RateQuote)
    {key : UUID} (absent : key ∉ rates.map ShippingRate.id) :
    (rates.filterMap fun rate => (quote rate).map fun q => (rate.id, q)).lookup key = none := by
  induction rates with
  | nil => rfl
  | cons head rest ih =>
      rw [List.map_cons, List.mem_cons, not_or] at absent
      rcases absent with ⟨apart, later⟩
      cases quoted : quote head with
      | none => simpa [quoted] using ih later
      | some q =>
          have different : (key == head.id) = false := by simpa using apart
          simpa [quoted, List.lookup_cons, different] using ih later

theorem lookup_quotes {rates : List ShippingRate} {quote : ShippingRate → Option RateQuote}
    (unique : (rates.map ShippingRate.id).Nodup) {rate : ShippingRate} (member : rate ∈ rates) :
    (rates.filterMap fun rate => (quote rate).map fun q => (rate.id, q)).lookup rate.id =
      quote rate := by
  induction rates with
  | nil => cases member
  | cons head rest ih =>
      rw [List.map_cons, List.nodup_cons] at unique
      rcases unique with ⟨fresh, unique⟩
      rcases List.mem_cons.mp member with rfl | later
      · cases quoted : quote rate with
        | none => simpa [quoted] using lookup_absent quote fresh
        | some q => simp [quoted]
      · have apart : rate.id ≠ head.id := by
          intro same
          exact fresh (same ▸ List.mem_map_of_mem later)
        have different : (rate.id == head.id) = false := by simpa using apart
        cases quoted : quote head with
        | none => simpa [quoted] using ih unique later
        | some q => simpa [quoted, List.lookup_cons, different] using ih unique later

theorem quoteRates_listed {carriers : List String} {carrier : String} (listed : carrier ∈ carriers)
    (query : RateQuery) (serviceCode : String) :
    resolver.quoteRates carriers query carrier serviceCode =
      ((resolver.partnerRates carrier query).filter fun quote =>
        quote.serviceCode = serviceCode).getLast? := if_pos listed

/-- A rate's quote does not depend on the rates it is asked for with. -/
theorem liveQuotes_lookup (storeId : UUID) {rates : List ShippingRate}
    (unique : (rates.map ShippingRate.id).Nodup) {rate : ShippingRate} (member : rate ∈ rates)
    (governorateCode : String) (cart : ShippingCart) :
    (resolver.liveQuotes storeId rates governorateCode cart).lookup rate.id =
      resolver.quoteOf
        ⟨storeId, governorateCode, cart.subtotalCents, cart.weightG, cart.codRequested⟩ rate := by
  have alone : resolver.liveQuotes storeId rates governorateCode cart =
      rates.filterMap fun rate => (resolver.quoteOf
        ⟨storeId, governorateCode, cart.subtotalCents, cart.weightG, cart.codRequested⟩ rate).map
          fun q => (rate.id, q) := by
    rw [liveQuotes]
    have carriers : ∀ entry ∈ wanted rates,
        entry.2.1 ∈ (wanted rates).map fun entry => entry.2.1 :=
      fun entry listed => List.mem_map_of_mem (f := fun entry => entry.2.1) listed
    rw [List.filterMap_congr fun entry listed => by
      rw [quoteRates_listed resolver (carriers entry listed)]]
    rw [wanted, List.filterMap_filterMap]
    apply List.filterMap_congr
    intro rate _
    rw [quoteOf]
    cases rate.config with
    | carrierApi carrier serviceCode =>
        simp only
        split
        · simp only [Option.bind_some]
          cases ((resolver.partnerRates carrier _).filter fun quote =>
              quote.serviceCode = serviceCode).getLast? with
          | none => rfl
          | some quote =>
              by_cases same : quote.currency = resolver.currency
              · simp [same]
              · simp [same]
        · rfl
    | _ => rfl
  rw [alone]
  exact lookup_quotes unique member

theorem evaluateRate_ids {storeId : UUID} {rate : ShippingRate} {zone : ShippingZone}
    {cart : ShippingCart} {quote : Option RateQuote} {option : ResolvedOption}
    (priced : resolver.evaluateRate storeId rate zone cart quote = some option) :
    option.rateId = rate.id ∧ option.zoneId = zone.id := by
  rw [evaluateRate.eq_def] at priced
  split at priced
  · cases priced
    exact ⟨rfl, rfl⟩
  · cases priced
    exact ⟨rfl, rfl⟩
  · cases priced
    exact ⟨rfl, rfl⟩
  · split at priced
    · cases priced
    · split at priced
      · cases priced
      · cases priced
        exact ⟨rfl, rfl⟩

/-- The rate's price for the cart, whichever rates it is asked for with. -/
def priceOf (storeId : UUID) (rate : ShippingRate) (zone : ShippingZone) (governorateCode : String)
    (cart : ShippingCart) : Option ResolvedOption :=
  resolver.evaluateRate storeId rate zone cart (resolver.quoteOf
    ⟨storeId, governorateCode, cart.subtotalCents, cart.weightG, cart.codRequested⟩ rate)

/-- What is offered under a rate's id. -/
def Offered (tables : ShippingTables) (storeId rateId : UUID) (governorateCode : String)
    (cart : ShippingCart) (zone : ShippingZone) (option : ResolvedOption) : Prop :=
  ∃ rate, getRate tables rateId = some rate ∧ rate.isActive = true ∧ rate.zoneId = zone.id ∧
    codBlocked zone cart = false ∧
      resolver.priceOf storeId rate zone governorateCode cart = some option

theorem mem_evaluateRates (stored : Stored tables) {storeId : UUID} {zone : ShippingZone}
    {governorateCode : String} {cart : ShippingCart} {rateId : UUID} {option : ResolvedOption} :
    option ∈ (resolver.evaluateRates storeId (listRatesByZone tables zone.id) zone governorateCode
        cart).map Prod.snd ∧ option.rateId = rateId ↔
      resolver.Offered tables storeId rateId governorateCode cart zone option := by
  have unique := listRatesByZone_nodup stored zone.id
  rw [evaluateRates, List.mem_map]
  constructor
  · intro facts
    rcases facts with ⟨⟨⟨rate, priced⟩, member, rfl⟩, rfl⟩
    rcases List.mem_filterMap.mp member with ⟨row, listed, evaluated⟩
    split at evaluated
    · cases evaluated
    · rename_i open_
      rcases Option.map_eq_some_iff.mp evaluated with ⟨option, here, same⟩
      cases same
      rw [liveQuotes_lookup resolver storeId unique listed] at here
      rcases (mem_listRatesByZone stored).mp listed with ⟨found, mine, active⟩
      rw [(evaluateRate_ids resolver here).1]
      exact ⟨rate, found, active, mine, eq_false_of_ne_true open_, here⟩
  · intro facts
    rcases facts with ⟨rate, found, active, mine, open_, priced⟩
    have key := stored.rate rateId rate found
    subst key
    have listed := (mem_listRatesByZone stored).mpr ⟨found, mine, active⟩
    refine ⟨⟨(rate, option), ?_, rfl⟩, (evaluateRate_ids resolver priced).1⟩
    refine List.mem_filterMap.mpr ⟨rate, listed, ?_⟩
    rw [if_neg (by simp [open_]), liveQuotes_lookup resolver storeId unique listed]
    change (resolver.priceOf storeId rate zone governorateCode cart).map _ = _
    rw [priced, Option.map_some]

/-- Apart from the default, the options are the prices of the covering zone's rates. -/
theorem mem_options (stored : Stored tables) {storeId rateId : UUID} {governorateCode : String}
    {cart : ShippingCart} {restrict : Bool} (real : rateId ≠ defaultShippingRateId)
    {option : ResolvedOption} :
    option ∈ (resolver.resolveOptions tables storeId governorateCode cart restrict).options ∧
        option.rateId = rateId ↔
      ∃ zone, getZoneForGovernorate tables storeId governorateCode = some zone ∧
        resolver.Offered tables storeId rateId governorateCode cart zone option := by
  have offered : option ∈ (resolver.resolveOptions tables storeId governorateCode cart
        restrict).options ∧ option.rateId = rateId ↔
      option ∈ (((getZoneForGovernorate tables storeId governorateCode).map fun zone =>
        resolver.evaluateRates storeId ((((getZoneForGovernorate tables storeId
          governorateCode).map fun zone => listRatesByZone tables zone.id).getD [])) zone
            governorateCode cart).getD []).map Prod.snd ∧ option.rateId = rateId := by
    rw [resolveOptions]
    simp only
    split
    · rename_i empty
      rw [empty.1]
      constructor
      · intro facts
        rcases facts with ⟨member, same⟩
        rw [List.mem_singleton] at member
        subst member
        exact absurd same.symm real
      · intro facts
        rcases facts with ⟨member, -⟩
        cases member
    · exact Iff.rfl
  rw [offered]
  cases getZoneForGovernorate tables storeId governorateCode with
  | none =>
      constructor
      · intro facts
        rcases facts with ⟨member, -⟩
        cases member
      · intro facts
        rcases facts with ⟨zone, absent, -⟩
        cases absent
  | some zone =>
      simp only [Option.map_some, Option.getD_some]
      rw [mem_evaluateRates resolver stored]
      constructor
      · exact fun here => ⟨zone, rfl, here⟩
      · intro facts
        rcases facts with ⟨same, found, here⟩
        cases found
        exact here

/-- A rate by itself needs only that its own zone is active and covers the governorate. -/
theorem resolveOne_iff (stored : Stored tables) {storeId rateId : UUID} {governorateCode : String}
    {cart : ShippingCart} {option : ResolvedOption} :
    resolver.resolveOne tables storeId rateId governorateCode cart = some option ↔
      ∃ zone, getZone tables zone.id = some zone ∧ zone.isActive = true ∧
        governorateCode ∈ governorateCodes tables zone.id ∧
          resolver.Offered tables storeId rateId governorateCode cart zone option := by
  rw [resolveOne]
  constructor
  · intro resolved
    rcases Option.bind_eq_some_iff.mp resolved with ⟨rate, found, resolved⟩
    by_cases active : rate.isActive = true
    · rw [active] at resolved
      rcases Option.bind_eq_some_iff.mp resolved with ⟨zone, present, resolved⟩
      have key := stored.zone rate.zoneId zone present
      rw [← key] at present
      by_cases live : zone.isActive = true
      · by_cases covered : coversGovernorate tables zone.id governorateCode = true
        · by_cases blocked : codBlocked zone cart = true
          · simp [live, covered, blocked] at resolved
          · simp only [live, covered, blocked, Bool.not_true, Bool.false_eq_true, if_false]
              at resolved
            rw [liveQuotes_lookup resolver storeId (by simp) List.mem_cons_self] at resolved
            exact ⟨zone, present, live, of_decide_eq_true covered, rate, found, active, key.symm,
              eq_false_of_ne_true blocked, resolved⟩
        · simp [live, covered] at resolved
      · simp [live] at resolved
    · simp [active] at resolved
  · intro facts
    rcases facts with ⟨zone, present, live, covered, rate, found, active, mine, open_, priced⟩
    have listed : coversGovernorate tables zone.id governorateCode = true := decide_eq_true covered
    rw [← mine] at present
    rw [found]
    simp only [Option.bind_eq_bind, Option.bind_some, active, present, live, listed, open_,
      Bool.not_true, Bool.false_eq_true, if_false]
    rw [liveQuotes_lookup resolver storeId (by simp) List.mem_cons_self]
    exact priced

/-- `resolve_one` gives the option that `resolve_options` lists under the rate's id: for every
id but the default's that no other store's zone has. -/
theorem resolveOne_agrees (tables : ShippingTables) (stored : Stored tables)
    (unambiguous : tables.Unambiguous) (storeId rateId : UUID)
    (real : rateId ≠ defaultShippingRateId)
    (own : ∀ rate zone, getRate tables rateId = some rate →
      getZone tables rate.zoneId = some zone → zone.storeId = storeId)
    (governorateCode : String) (cart : ShippingCart) (restrict : Bool) (option : ResolvedOption) :
    resolver.resolveOne tables storeId rateId governorateCode cart = some option ↔
      option ∈ (resolver.resolveOptions tables storeId governorateCode cart restrict).options ∧
        option.rateId = rateId := by
  rw [resolveOne_iff resolver stored, mem_options resolver stored real]
  constructor
  · intro facts
    rcases facts with ⟨zone, present, active, covered, offered⟩
    rcases offered with ⟨rate, found, live, mine, open_, priced⟩
    have store := own rate zone found (mine ▸ present)
    exact ⟨zone, getZoneForGovernorate_unique stored unambiguous present active store covered,
      rate, found, live, mine, open_, priced⟩
  · intro facts
    rcases facts with ⟨zone, found, offered⟩
    rcases getZoneForGovernorate_covers stored found with ⟨present, active, -, covered⟩
    exact ⟨zone, present, active, covered, offered⟩

end ShippingResolver

/-- An express rate priced by an app, over the kilogram bands of the standard one. -/
def cairoRates : Table UUID ShippingRate :=
  (Table.empty.set 8
    { id := 8, zoneId := 1, label := "Standard",
      config := .weightBand [⟨none, 5000, some 1000⟩, ⟨some 1000, 4000, none⟩] (by decide) }).set 9
    { id := 9, zoneId := 1, label := "Express", config := .carrierApi "app:rider" "x" }

def cairoTables : ShippingTables where
  zones := Table.empty.set 1 (cairoZone 1)
  governorates := [⟨1, "EG-C", 3⟩]
  rates := cairoRates

def riderResolver : ShippingResolver where
  codShieldAllows := fun _ => true
  partnerRates := fun _ _ => [{ serviceCode := "x", amountCents := 7500 }]

theorem cairoTables_stored : Stored cairoTables := by
  constructor
  · intro zoneId zone found
    rw [cairoTables, Table.get?_set] at found
    split at found
    · rename_i here
      cases found
      exact here.symm
    · cases found
  · intro rateId rate found
    rw [cairoTables, cairoRates, Table.get?_set] at found
    split at found
    · rename_i here
      cases found
      exact here.symm
    · rw [Table.get?_set] at found
      split at found
      · rename_i here
        cases found
        exact here.symm
      · cases found

theorem cairoTables_unambiguous : cairoTables.Unambiguous := by
  have only (zoneId storeId : UUID) (code : String)
      (covers : cairoTables.Covers zoneId storeId code) : zoneId = 1 := by
    rcases covers with ⟨zone, found, -⟩
    rw [cairoTables, Table.get?_set] at found
    split at found
    · assumption
    · cases found
  intro storeId code first second coversFirst coversSecond
  rw [only _ _ _ coversFirst, only _ _ _ coversSecond]

namespace ShippingResolver

theorem resolveOne_agrees_express :
    ∃ option, riderResolver.resolveOne cairoTables 3 9 "EG-C" ⟨20000, 2500, false⟩ = some option ∧
      option ∈ (riderResolver.resolveOptions cairoTables 3 "EG-C" ⟨20000, 2500, false⟩
        false).options ∧ option.rateId = 9 := by
  have own : ∀ rate zone, getRate cairoTables 9 = some rate →
      getZone cairoTables rate.zoneId = some zone → zone.storeId = 3 := by
    intro rate zone found present
    cases found
    cases present
    rfl
  have law := resolveOne_agrees riderResolver cairoTables cairoTables_stored
    cairoTables_unambiguous 3 9 (by decide) own "EG-C" ⟨20000, 2500, false⟩ false
  have priced : (riderResolver.resolveOne cairoTables 3 9 "EG-C" ⟨20000, 2500, false⟩).isSome := by
    decide
  rcases Option.isSome_iff_exists.mp priced with ⟨option, resolved⟩
  exact ⟨option, resolved, (law option).mp resolved⟩

/-- A store without zones offers the default, which does not resolve by itself. -/
theorem default_not_resolved :
    ShippingTables.Unambiguous {} ∧
      ¬ ((∃ option, riderResolver.resolveOne {} 3 defaultShippingRateId "EG-C" ⟨20000, 0, false⟩ =
          some option) ↔
        ∃ option ∈ (riderResolver.resolveOptions {} 3 "EG-C" ⟨20000, 0, false⟩ false).options,
          option.rateId = defaultShippingRateId) := by
  constructor
  · intro _ _ _ _ facts
    rcases facts with ⟨_, absent, _⟩
    cases absent
  · intro agree
    rcases agree.mpr ⟨riderResolver.defaultOption, by decide, rfl⟩ with ⟨option, resolved⟩
    cases resolved

end ShippingResolver
end Numu.Shipping
