import Numu.Shipping.Agreement

/-! The shipping that checkout charges. -/

namespace Numu.Shipping
open Numu.Orders (UUID)
open ShippingZoneRepository

/-- The part of a checkout request that shipping reads. -/
structure ShippingRequest where
  selectedShippingRateId : Option UUID := none
  shippingMethod : Option String := none
  state : Option String := none
  city : Option String := none

structure StoreShipping where
  storeId : UUID
  /-- `settings.shipping.restrict_to_zones`. -/
  restrictToZones : Bool := false

structure ShippingCharge where
  shippingCostCents : Nat := 0
  resolvedZoneId : Option UUID := none
  resolvedRateId : Option UUID := none
  resolvedLabel : Option String := none
  deriving DecidableEq

def selectOption : String := "Please select a shipping option before placing your order."

def unresolvedGovernorate : String :=
  "Could not resolve the shipping address's governorate. Please select a supported governorate."

def rateUnavailable : String :=
  "The selected shipping rate is no longer available for this address."

def codUnavailable : String := "Cash on delivery isn't available in this area."

/-- `shipping_method or "Standard Shipping"`. -/
def ShippingRequest.defaultLabel (request : ShippingRequest) : String :=
  match request.shippingMethod with
  | none => "Standard Shipping"
  | some method => if method = "" then "Standard Shipping" else method

namespace ShippingResolver
variable (resolver : ShippingResolver) (resolveGovernorate : String → Option String)
  (tables : ShippingTables)

/-- The address's state, or else its city. -/
def destination (request : ShippingRequest) : Option String :=
  (request.state.bind resolveGovernorate).or (request.city.bind resolveGovernorate)

/-- A rate that is not the default is resolved again. -/
def chargeRate (store : StoreShipping) (request : ShippingRequest) (cart : ShippingCart)
    (rateId : UUID) : Except String ShippingCharge :=
  match destination resolveGovernorate request with
  | none => .error unresolvedGovernorate
  | some governorateCode =>
      match resolver.resolveOne tables store.storeId rateId governorateCode cart with
      | none => .error rateUnavailable
      | some resolution =>
          if cart.codRequested && !resolution.codSupported then .error codUnavailable
          else
            .ok { shippingCostCents := resolution.amountCents
                  resolvedZoneId := some resolution.zoneId
                  resolvedRateId := some resolution.rateId
                  resolvedLabel := some resolution.label }

/-- The shipping resolution of the checkout route. -/
def resolveShipping (store : StoreShipping) (request : ShippingRequest) (cart : ShippingCart) :
    Except String ShippingCharge :=
  match request.selectedShippingRateId with
  | none =>
      if hasActiveZones tables store.storeId || store.restrictToZones then .error selectOption
      else .ok { resolvedLabel := request.shippingMethod }
  | some rateId =>
      if store.restrictToZones = false ∧ rateId = defaultShippingRateId then
        .ok { resolvedLabel := some request.defaultLabel }
      else resolver.chargeRate resolveGovernorate tables store request cart rateId

/-- The accepted rate is one of the options for the store, the destination and the cart, and its
amount is charged. -/
def OffersCharge (store : StoreShipping) (request : ShippingRequest) (cart : ShippingCart) : Prop :=
  ∀ charge, resolver.resolveShipping resolveGovernorate tables store request cart = .ok charge →
    ∀ rateId, request.selectedShippingRateId = some rateId →
      ∃ governorateCode, destination resolveGovernorate request = some governorateCode ∧
        ∃ option ∈ (resolver.resolveOptions tables store.storeId governorateCode cart
          store.restrictToZones).options,
          option.rateId = rateId ∧ option.amountCents = charge.shippingCostCents

/-- No active zone of the store covers the governorate, or it takes the payment and has no
active rate. -/
def Unpriced (storeId : UUID) (governorateCode : String) (cart : ShippingCart) : Prop :=
  ∀ zone, getZoneForGovernorate tables storeId governorateCode = some zone →
    codBlocked zone cart = false ∧ listRatesByZone tables zone.id = []

/-- The default is asked for where nothing is priced, and another rate, where it applies, only
if its zone is the one that the store covers the destination with. -/
def FairlyAsked (store : StoreShipping) (request : ShippingRequest) (cart : ShippingCart) : Prop :=
  ∀ rateId, request.selectedShippingRateId = some rateId →
    if store.restrictToZones = false ∧ rateId = defaultShippingRateId then
      ∃ governorateCode, destination resolveGovernorate request = some governorateCode ∧
        Unpriced tables store.storeId governorateCode cart
    else
      ∀ rate zone governorateCode, destination resolveGovernorate request = some governorateCode →
        getRate tables rateId = some rate → rate.isActive = true →
        getZone tables rate.zoneId = some zone → zone.isActive = true →
        governorateCode ∈ governorateCodes tables zone.id → codBlocked zone cart = false →
        (resolver.priceOf store.storeId rate zone governorateCode cart).isSome →
          getZoneForGovernorate tables store.storeId governorateCode = some zone

section Default
variable {tables : ShippingTables} {storeId : UUID} {governorateCode : String} {cart : ShippingCart}

/-- Every rate but an app's applies to every cart. -/
theorem evaluateRate_isSome (storeId : UUID) {rate : ShippingRate} (own : rate.rateType ≠ .carrierApi)
    (zone : ShippingZone) (cart : ShippingCart) (quote : Option RateQuote) :
    (resolver.evaluateRate storeId rate zone cart quote).isSome := by
  rw [ShippingRate.rateType] at own
  rw [evaluateRate.eq_def]
  cases config : rate.config with
  | carrierApi carrier serviceCode =>
      rw [config] at own
      exact absurd rfl own
  | _ => rfl

/-- A zone that takes the payment and has a rate that no app prices offers something. -/
theorem evaluateRates_ne_nil {zone : ShippingZone} {rates : List ShippingRate}
    {rate : ShippingRate} (open_ : codBlocked zone cart = false) (listed : rate ∈ rates)
    (own : rate.rateType ≠ .carrierApi) :
    (resolver.evaluateRates storeId rates zone governorateCode cart).map Prod.snd ≠ [] := by
  intro empty
  rw [List.map_eq_nil_iff, evaluateRates, List.filterMap_eq_nil_iff] at empty
  have missed := empty rate listed
  rw [if_neg (by simp [open_]), Option.map_eq_none_iff] at missed
  have applies := resolver.evaluateRate_isSome storeId own zone cart
    ((resolver.liveQuotes storeId rates governorateCode cart).lookup rate.id)
  rw [missed] at applies
  cases applies

/-- The default is surfaced exactly where nothing is priced. -/
theorem default_offered_iff (stored : Stored tables)
    (fresh : getRate tables defaultShippingRateId = none) {restrict : Bool} :
    (∃ option ∈ (resolver.resolveOptions tables storeId governorateCode cart restrict).options,
        option.rateId = defaultShippingRateId) ↔
      restrict = false ∧ Unpriced tables storeId governorateCode cart := by
  rw [resolveOptions]
  simp only [Unpriced]
  cases found : getZoneForGovernorate tables storeId governorateCode with
  | none => cases restrict <;> simp [defaultOption]
  | some zone =>
      simp only [Option.map_some, Option.getD_some, Option.any_some, Option.some.injEq,
        forall_eq']
      constructor
      · intro facts
        rcases facts with ⟨option, member, same⟩
        split at member
        · rename_i surfaced
          rcases surfaced with ⟨nothing, open_, unblocked, unpriced⟩
          refine ⟨open_, unblocked, ?_⟩
          by_contra rates
          rcases List.exists_mem_of_ne_nil _ rates with ⟨rate, listed⟩
          have own : rate.rateType ≠ .carrierApi := by
            have missed := List.any_eq_false.mp unpriced rate listed
            simpa using missed
          exact resolver.evaluateRates_ne_nil unblocked listed own nothing
        · rcases (resolver.mem_evaluateRates stored).mp ⟨member, same⟩ with ⟨rate, here, -⟩
          rw [fresh] at here
          cases here
      · intro facts
        rcases facts with ⟨rfl, unblocked, rates⟩
        refine ⟨resolver.defaultOption, ?_, rfl⟩
        simp [rates, evaluateRates, unblocked]

end Default

section Charge
variable {tables : ShippingTables} {store : StoreShipping} {request : ShippingRequest}
  {cart : ShippingCart} {resolveGovernorate : String → Option String}

/-- An option for a cart paid on delivery supports it. -/
theorem priceOf_codSupported {rate : ShippingRate} {zone : ShippingZone} {governorateCode : String}
    {option : ResolvedOption} (open_ : codBlocked zone cart = false)
    (priced : resolver.priceOf store.storeId rate zone governorateCode cart = some option) :
    (cart.codRequested && !option.codSupported) = false := by
  rw [codBlocked] at open_
  rw [priceOf, evaluateRate.eq_def] at priced
  split at priced
  · cases priced
    exact open_
  · cases priced
    exact open_
  · cases priced
    exact open_
  · split at priced
    · cases priced
    · rename_i quote _
      split at priced
      · cases priced
      · rename_i supported
        cases priced
        cases requested : cart.codRequested with
        | false => rfl
        | true =>
            rw [requested] at open_ supported
            simp only [Bool.true_and, Bool.not_eq_true', Bool.not_eq_false] at open_ supported ⊢
            simp [open_, supported]

/-- A rate is accepted at its price, where it applies to the cart and the address. -/
theorem chargeRate_ok (stored : Stored tables) {rateId : UUID} {charge : ShippingCharge} :
    resolver.chargeRate resolveGovernorate tables store request cart rateId = .ok charge ↔
      ∃ governorateCode option, destination resolveGovernorate request = some governorateCode ∧
        resolver.resolveOne tables store.storeId rateId governorateCode cart = some option ∧
          charge = ⟨option.amountCents, some option.zoneId, some option.rateId,
            some option.label⟩ := by
  rw [chargeRate]
  cases destination resolveGovernorate request with
  | none =>
      constructor
      · intro equal
        cases equal
      · intro facts
        obtain ⟨_, _, absent, _⟩ := facts
        cases absent
  | some governorateCode =>
      simp only [Option.some.injEq, exists_and_left, exists_eq_left']
      cases resolved : resolver.resolveOne tables store.storeId rateId governorateCode cart with
      | none =>
          constructor
          · intro equal
            cases equal
          · intro facts
            obtain ⟨_, absent, _⟩ := facts
            cases absent
      | some option =>
          rcases (resolver.resolveOne_iff stored).mp resolved with
            ⟨zone, -, -, -, rate, -, -, -, open_, priced⟩
          simp only [resolver.priceOf_codSupported open_ priced, Bool.false_eq_true, if_false]
          constructor
          · intro equal
            cases equal
            exact ⟨option, rfl, rfl⟩
          · intro facts
            obtain ⟨_, equal, rfl⟩ := facts
            cases equal
            rfl

theorem offersCharge_default (stored : Stored tables)
    (fresh : getRate tables defaultShippingRateId = none)
    (asked : request.selectedShippingRateId = some defaultShippingRateId)
    (unrestricted : store.restrictToZones = false) :
    resolver.OffersCharge resolveGovernorate tables store request cart ↔
      ∃ governorateCode, destination resolveGovernorate request = some governorateCode ∧
        Unpriced tables store.storeId governorateCode cart := by
  have accepted : resolver.resolveShipping resolveGovernorate tables store request cart =
      .ok { resolvedLabel := some request.defaultLabel } := by
    rw [resolveShipping, asked]
    exact if_pos ⟨unrestricted, rfl⟩
  constructor
  · intro offers
    rcases offers _ accepted _ asked with ⟨governorateCode, here, option, member, same, -⟩
    exact ⟨governorateCode, here,
      ((resolver.default_offered_iff stored fresh).mp ⟨option, member, same⟩).2⟩
  · intro facts charge ok rateId selected
    rcases facts with ⟨governorateCode, here, unpriced⟩
    rw [accepted] at ok
    cases ok
    rw [asked] at selected
    cases selected
    refine ⟨governorateCode, here, resolver.defaultOption, ?_, rfl, rfl⟩
    rw [resolveOptions]
    simp only
    cases found : getZoneForGovernorate tables store.storeId governorateCode with
    | none => simp [unrestricted]
    | some zone =>
        rcases unpriced zone found with ⟨open_, rates⟩
        simp [unrestricted, rates, evaluateRates, open_]

theorem offersCharge_rate (stored : Stored tables)
    (fresh : getRate tables defaultShippingRateId = none) {rateId : UUID}
    (asked : request.selectedShippingRateId = some rateId)
    (other : ¬ (store.restrictToZones = false ∧ rateId = defaultShippingRateId)) :
    resolver.OffersCharge resolveGovernorate tables store request cart ↔
      ∀ rate zone governorateCode, destination resolveGovernorate request = some governorateCode →
        getRate tables rateId = some rate → rate.isActive = true →
        getZone tables rate.zoneId = some zone → zone.isActive = true →
        governorateCode ∈ governorateCodes tables zone.id → codBlocked zone cart = false →
        (resolver.priceOf store.storeId rate zone governorateCode cart).isSome →
          getZoneForGovernorate tables store.storeId governorateCode = some zone := by
  have resolved : resolver.resolveShipping resolveGovernorate tables store request cart =
      resolver.chargeRate resolveGovernorate tables store request cart rateId := by
    rw [resolveShipping, asked]
    exact if_neg other
  have real (rate : ShippingRate) (found : getRate tables rateId = some rate) :
      rateId ≠ defaultShippingRateId := by
    intro same
    rcases same with rfl
    rw [fresh] at found
    cases found
  constructor
  · intro offers rate zone governorateCode here found active present live covered open_ applies
    rcases Option.isSome_iff_exists.mp applies with ⟨option, priced⟩
    have key := stored.zone rate.zoneId zone present
    rw [← key] at present
    have single := (resolver.resolveOne_iff stored).mpr
      ⟨zone, present, live, covered, rate, found, active, key.symm, open_, priced⟩
    have charged := (resolver.chargeRate_ok stored).mpr ⟨governorateCode, option, here, single, rfl⟩
    rw [← resolved] at charged
    rcases offers _ charged _ asked with ⟨code, there, offered, member, same, -⟩
    rw [here] at there
    cases there
    rcases (resolver.mem_options stored (real rate found)).mp ⟨member, same⟩ with
      ⟨owner, covering, row, found', -, mine, -⟩
    rw [found] at found'
    cases found'
    have owned := (getZoneForGovernorate_covers stored covering).1
    rw [← mine, key.symm, present] at owned
    cases owned
    exact covering
  · intro fair charge ok id selected
    rw [asked] at selected
    cases selected
    rw [resolved] at ok
    rcases (resolver.chargeRate_ok stored).mp ok with ⟨governorateCode, option, here, single, rfl⟩
    rcases (resolver.resolveOne_iff stored).mp single with
      ⟨zone, present, live, covered, rate, found, active, mine, open_, priced⟩
    have covering := fair rate zone governorateCode here found active (mine ▸ present) live covered
      open_ (by rw [priced]; rfl)
    have member : option ∈ (resolver.resolveOptions tables store.storeId governorateCode cart
          store.restrictToZones).options ∧ option.rateId = rateId :=
      (resolver.mem_options stored (real rate found)).mpr
        ⟨zone, covering, rate, found, active, mine, open_, priced⟩
    exact ⟨governorateCode, here, option, member.1, member.2, rfl⟩

end Charge

/-- Checkout charges one of the resolver's options exactly where the default is asked for only if
nothing is priced, and another rate only if its zone is the store's for the destination. -/
theorem offersCharge_iff_fairlyAsked (resolveGovernorate : String → Option String)
    (tables : ShippingTables) (stored : Stored tables)
    (fresh : getRate tables defaultShippingRateId = none) (store : StoreShipping)
    (request : ShippingRequest) (cart : ShippingCart) :
    resolver.OffersCharge resolveGovernorate tables store request cart ↔
      resolver.FairlyAsked resolveGovernorate tables store request cart := by
  cases asked : request.selectedShippingRateId with
  | none =>
      constructor
      · intro _ rateId selected
        rw [asked] at selected
        cases selected
      · intro _ _ _ rateId selected
        rw [asked] at selected
        cases selected
  | some rateId =>
      have fair : resolver.FairlyAsked resolveGovernorate tables store request cart ↔ _ :=
        ⟨fun fairly => fairly rateId asked, fun fairly id selected => by
          rw [asked] at selected
          cases selected
          exact fairly⟩
      rw [fair]
      by_cases synthetic : store.restrictToZones = false ∧ rateId = defaultShippingRateId
      · rw [if_pos synthetic]
        rcases synthetic with ⟨unrestricted, rfl⟩
        exact resolver.offersCharge_default stored fresh asked unrestricted
      · rw [if_neg synthetic]
        exact resolver.offersCharge_rate stored fresh asked synthetic

/-- Express shipping to Cairo, from a store that covers it. -/
theorem offersCharge_iff_fairlyAsked_express :
    riderResolver.OffersCharge some cairoTables ⟨3, false⟩
        { selectedShippingRateId := some 9, state := some "EG-C" } ⟨20000, 2500, false⟩ ↔
      riderResolver.FairlyAsked some cairoTables ⟨3, false⟩
        { selectedShippingRateId := some 9, state := some "EG-C" } ⟨20000, 2500, false⟩ :=
  riderResolver.offersCharge_iff_fairlyAsked some cairoTables cairoTables_stored (by decide) _ _ _

/-- With the default's id Cairo is shipped to for nothing, and with another store's rate for its
price, where no option costs that. -/
theorem unoffered_charges :
    (∃ charge, riderResolver.resolveShipping some cairoTables ⟨3, false⟩
        { selectedShippingRateId := some defaultShippingRateId, state := some "EG-C" }
        ⟨20000, 2500, false⟩ = .ok charge ∧
      ∀ option ∈ (riderResolver.resolveOptions cairoTables 3 "EG-C" ⟨20000, 2500, false⟩
        false).options, option.amountCents ≠ charge.shippingCostCents) ∧
      ∃ charge, riderResolver.resolveShipping some cairoTables ⟨4, false⟩
          { selectedShippingRateId := some 8, state := some "EG-C" } ⟨20000, 2500, false⟩ =
            .ok charge ∧
        ∀ option ∈ (riderResolver.resolveOptions cairoTables 4 "EG-C" ⟨20000, 2500, false⟩
          false).options, option.amountCents ≠ charge.shippingCostCents :=
  ⟨⟨_, rfl, by decide⟩, ⟨_, rfl, by decide⟩⟩

/-- Without a rate nothing is charged, and then the default is offered everywhere. -/
theorem resolveShipping_none (resolveGovernorate : String → Option String)
    {tables : ShippingTables} {store : StoreShipping} {request : ShippingRequest}
    {cart : ShippingCart} {charge : ShippingCharge} (none_ : request.selectedShippingRateId = none)
    (ok : resolver.resolveShipping resolveGovernorate tables store request cart = .ok charge) :
    charge.shippingCostCents = 0 ∧ ∀ governorateCode,
      resolver.defaultOption ∈ (resolver.resolveOptions tables store.storeId governorateCode cart
        store.restrictToZones).options := by
  rw [resolveShipping, none_] at ok
  simp only at ok
  split at ok
  · cases ok
  · rename_i zoneless
    cases ok
    rw [Bool.or_eq_true, not_or, Bool.not_eq_true, Bool.not_eq_true] at zoneless
    rcases zoneless with ⟨none_active, unrestricted⟩
    refine ⟨rfl, fun governorateCode => ?_⟩
    have uncovered : getZoneForGovernorate tables store.storeId governorateCode = none := by
      rw [getZoneForGovernorate, Option.map_eq_none_iff, List.find?_eq_none]
      intro row member covers
      have inactive := List.any_eq_false.mp none_active row member
      rw [Bool.and_eq_true] at covers
      exact inactive covers.1
    simp [resolveOptions, uncovered, unrestricted]

end ShippingResolver
end Numu.Shipping
