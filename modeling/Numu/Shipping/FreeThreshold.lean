import Numu.Shipping.Agreement
import Numu.Shipping.StoredRates

/-! The advertised threshold of free shipping, against what a destination is offered. -/

namespace Numu.Shipping
open Numu.Orders (UUID)
open Outcome (bind_eq_ok)
open ShippingZoneRepository

/-- A rate that ships for free from the threshold on. -/
def RateRow.FreeFrom (models : ConfigModels) (row : RateRow) (threshold : Nat) : Prop :=
  row.rateType = .freeOver ∧
    ∃ amount, parseRateConfig models row.rateType row.config = some (.freeOver amount threshold)

namespace ShippingResolver
variable {resolver : ShippingResolver} {models : ConfigModels} {tables : StoredTables}

theorem freeFrom_of_freeOver {rows : List RateRow} {thresholds : List Nat}
    (ok : freeOver models rows = .ok thresholds) {threshold : Nat}
    (member : threshold ∈ thresholds) : ∃ row ∈ rows, row.FreeFrom models threshold := by
  induction rows generalizing thresholds with
  | nil =>
      cases ok
      cases member
  | cons row rest ih =>
      have later {others : List Nat} (found : freeOver models rest = .ok others)
          (inside : threshold ∈ others) : ∃ row' ∈ row :: rest, row'.FreeFrom models threshold := by
        rcases ih found inside with ⟨row', listed, free⟩
        exact ⟨row', List.mem_cons_of_mem _ listed, free⟩
      rw [freeOver] at ok
      split at ok
      · exact later ok member
      · rename_i typed
        split at ok
        · exact later ok member
        · rename_i amount first parsed
          rcases bind_eq_ok.mp ok with ⟨others, found, same⟩
          cases same
          rcases List.mem_cons.mp member with rfl | inside
          · exact ⟨row, List.mem_cons_self, not_not.mp typed, amount, parsed⟩
          · exact later found inside
        · cases ok

/-- Each zone that is priced and can be reached has a free tier from one of the thresholds on. -/
theorem free_tier_of_zoneThresholds {zones : List (ShippingZone × List RateRow)}
    {thresholds : List Nat} (ok : zoneThresholds models tables zones = .ok (some thresholds))
    {zone : ShippingZone} {rows : List RateRow} (listed : (zone, rows) ∈ zones) (priced : rows ≠ [])
    (reachable : governorateCodes tables.coverage zone.id ≠ []) :
    ∃ threshold ∈ thresholds, ∃ row ∈ rows, row.FreeFrom models threshold := by
  induction zones generalizing thresholds with
  | nil => cases listed
  | cons first rest ih =>
      rw [zoneThresholds] at ok
      split at ok
      · rename_i skipped
        rcases List.mem_cons.mp listed with rfl | later
        · simp [priced, reachable] at skipped
        · exact ih ok later
      · rcases bind_eq_ok.mp ok with ⟨free, found, ok⟩
        split at ok
        · cases ok
        · rename_i lowest isLowest
          rcases bind_eq_ok.mp ok with ⟨others, remaining, same⟩
          cases others with
          | none => cases same
          | some others =>
              cases same
              rcases List.mem_cons.mp listed with rfl | later
              · rcases freeFrom_of_freeOver found (List.min?_mem isLowest) with ⟨row, inside, free⟩
                exact ⟨lowest, List.mem_cons_self, row, inside, free⟩
              · rcases ih remaining later with ⟨threshold, inside, tier⟩
                exact ⟨threshold, List.mem_cons_of_mem _ inside, tier⟩

/-- Without cash on delivery, a free tier whose threshold is reached is offered for nothing. -/
theorem offerRow_free {storeId : UUID} {zone : ShippingZone} {cart : ShippingCart}
    (noCod : cart.codRequested = false) {row : RateRow} {threshold : Nat}
    (free : row.FreeFrom models threshold) (reached : (threshold : Int) ≤ cart.subtotalCents)
    (quotes : List (UUID × RateQuote)) :
    ∃ option, resolver.offerRow models storeId zone cart quotes row
        = .ok (some (option, some threshold)) ∧ option.amountCents = 0 := by
  rcases free with ⟨typed, amount, parsed⟩
  have unblocked : codBlocked zone cart = false := by simp [codBlocked, noCod]
  have uncharged : resolver.codSurcharge storeId zone cart = 0 := by simp [codSurcharge, noCod]
  have read : row.parsed models = .ok (row.rate (.freeOver amount threshold)) := by
    rw [RateRow.parsed, parsed]
  refine ⟨{ resolver.pricedOption storeId (row.rate (.freeOver amount threshold)) zone cart 0 with
    rateType := row.rateType }, ?_, ?_⟩
  · rw [offerRow, unblocked, read]
    simp [bind, Except.bind, evaluateRate, RateRow.rate, typed, reached]
  · simp [pricedOption, uncharged]

/-- An option that is evaluated is offered. -/
theorem conclude_offers {evaluated : List (ResolvedOption × Option Nat)} {cart : ShippingCart}
    {restrict blocked byApp : Bool} {option : ResolvedOption} {threshold : Option Nat}
    (member : (option, threshold) ∈ evaluated) :
    option ∈ (resolver.conclude evaluated cart restrict blocked byApp).options := by
  have offered : option ∈ evaluated.map Prod.fst :=
    List.mem_map.mpr ⟨(option, threshold), member, rfl⟩
  rw [conclude]
  simp only
  rw [if_neg]
  · exact offered
  · intro empty
    rw [empty.1] at offered
    cases offered

/-- Without a rate there is the free default, or nothing. -/
theorem conclude_nil (resolver : ShippingResolver) (cart : ShippingCart)
    (restrict blocked byApp : Bool) :
    (resolver.conclude [] cart restrict blocked byApp).options = [resolver.defaultOption] ∨
      (resolver.conclude [] cart restrict blocked byApp).options = [] := by
  rw [conclude]
  simp only
  split
  · exact Or.inl rfl
  · exact Or.inr rfl

end ShippingResolver

/-- A destination is offered an option for nothing. -/
def OffersFree (resolved : Except RateFault ResolverOutput) : Prop :=
  ∃ output, resolved = .ok output ∧ ∃ option ∈ output.options, option.amountCents = 0

/-- A destination is offered nothing: there is no option, or the call raises. -/
def OffersNothing (resolved : Except RateFault ResolverOutput) : Prop :=
  ∀ output, resolved = .ok output → output.options = []

namespace ShippingResolver
variable {resolver : ShippingResolver} {models : ConfigModels} {tables : StoredTables}

theorem conclude_nil_truthful {cart : ShippingCart} {restrict blocked byApp : Bool} :
    OffersFree (.ok (resolver.conclude [] cart restrict blocked byApp)) ∨
      OffersNothing (.ok (resolver.conclude [] cart restrict blocked byApp)) := by
  rcases conclude_nil resolver cart restrict blocked byApp with default_ | nothing
  · refine Or.inl ⟨_, rfl, resolver.defaultOption, ?_, rfl⟩
    rw [default_]
    exact List.mem_singleton_self _
  · refine Or.inr ?_
    intro output same
    cases same
    exact nothing

/-- The zone that is looked up for a governorate is among those the threshold is taken of. -/
theorem covering_zone_listed {storeId : UUID} {code : String} {zone : ShippingZone}
    (found : getZoneForGovernorate tables.coverage storeId code = some zone) :
    (zone, tables.listRowsByZone zone.id) ∈ tables.getZonesWithRatesForStore storeId ∧
      governorateCodes tables.coverage zone.id ≠ [] := by
  rcases Option.map_eq_some_iff.mp found with ⟨entry, hit, rfl⟩
  have present := List.mem_of_find?_eq_some hit
  have accepted := List.find?_some hit
  simp only [Bool.and_eq_true, decide_eq_true_eq] at accepted
  constructor
  · apply List.mem_map.mpr
    refine ⟨entry.2, ?_, rfl⟩
    rw [(List.perm_insertionSort _ _).mem_iff, List.mem_filter]
    exact ⟨List.mem_map_of_mem present, by simpa using accepted.1⟩
  · rw [tables.zones_keyed entry present]
    exact List.ne_nil_of_mem (of_decide_eq_true accepted.2)

/-- From the advertised threshold on, whoever does not pay on delivery is offered shipping for
nothing wherever anything is offered. -/
theorem freeShippingThreshold_truthful (resolver : ShippingResolver) (models : ConfigModels)
    (tables : StoredTables) (storeId : UUID) {threshold : Nat}
    (advertised : freeShippingThresholdCents models tables storeId = .ok (some threshold))
    (governorateCode : String) {cart : ShippingCart} (noCod : cart.codRequested = false)
    (reached : (threshold : Int) ≤ cart.subtotalCents) (restrict : Bool) :
    OffersFree (resolver.resolveStored models tables storeId governorateCode cart restrict) ∨
      OffersNothing
        (resolver.resolveStored models tables storeId governorateCode cart restrict) := by
  rw [resolveStored]
  cases found : getZoneForGovernorate tables.coverage storeId governorateCode with
  | none => exact conclude_nil_truthful
  | some zone =>
      simp only
      rcases covering_zone_listed found with ⟨listed, reachable⟩
      generalize tables.listRowsByZone zone.id = rows at listed
      rcases eq_or_ne rows [] with rfl | priced
      · exact conclude_nil_truthful
      · rcases bind_eq_ok.mp advertised with ⟨thresholds, ok, isMax⟩
        rcases Option.bind_eq_some_iff.mp (Except.ok.inj isMax) with ⟨lowests, rfl, highest⟩
        rcases free_tier_of_zoneThresholds ok listed priced reachable
          with ⟨lowest, member, row, inside, free⟩
        have below : lowest ≤ threshold := (List.max?_eq_some_iff.mp highest).2 lowest member
        refine Classical.or_iff_not_imp_right.mpr ?_
        intro something
        rw [OffersNothing, not_forall] at something
        rcases something with ⟨output, something⟩
        rcases Classical.not_imp.mp something with ⟨resolved, -⟩
        refine ⟨output, resolved, ?_⟩
        rcases bind_eq_ok.mp resolved with ⟨carriers, -, resolved⟩
        rcases bind_eq_ok.mp resolved with ⟨rounds, evaluated, concluded⟩
        cases concluded
        rcases Outcome.mapM_ok_mem evaluated inside with ⟨round, among, returned⟩
        rcases offerRow_free noCod free (by omega)
          (resolver.liveQuotes storeId carriers governorateCode cart) with ⟨option, gives, nothing⟩
        rw [gives, Except.ok.injEq] at returned
        subst returned
        exact ⟨option, conclude_offers (List.mem_filterMap.mpr ⟨_, among, rfl⟩), nothing⟩

end ShippingResolver

/-! ### A store that ships for free from 1500 on -/

def natField (fields : Json.Fields) (name : String) : Option Nat :=
  match fields.lookup name with
  | some (.int n) => if 0 ≤ n then some n.toNat else none
  | _ => none

/-- The models on payloads of whole numbers. -/
def numberModels : ConfigModels where
  flat := fun fields => natField fields "amount_cents"
  freeOver := fun fields => do
    let amount ← natField fields "amount_cents"
    let threshold ← natField fields "free_when_subtotal_gte_cents"
    some (amount, threshold)
  weightBand := fun _ => none
  carrierApi := fun _ => none

def cairoRow : RateRow where
  id := 8
  zoneId := 1
  rateType := .freeOver
  label := "Standard"
  config := [("amount_cents", .int 9000), ("free_when_subtotal_gte_cents", .int 150000)]

def cairoStored : StoredTables where
  zones := Table.empty.set 1 (cairoZone 1)
  governorates := [⟨1, "EG-C", 3⟩]
  rates := Table.empty.set 8 cairoRow
  zones_keyed := by decide

theorem freeShippingThreshold_truthful_cairo :
    OffersFree
        (riderResolver.resolveStored numberModels cairoStored 3 "EG-C" ⟨150000, 900, false⟩ true) ∨
      OffersNothing
        (riderResolver.resolveStored numberModels cairoStored 3 "EG-C" ⟨150000, 900, false⟩ true) :=
  ShippingResolver.freeShippingThreshold_truthful riderResolver numberModels cairoStored 3
    rfl "EG-C" rfl (le_refl _) true

end Numu.Shipping
