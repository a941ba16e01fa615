import Mathlib.Data.List.Sort
import Numu.Foundation.FloatText
import Numu.Stock.StockService

/-! The tax resolver of checkout: the rate of a destination and the VAT of each line. -/

namespace Numu.Invoices
open Numu.Stock (JsonScalar)
open Binary64 (nearest roundHalfEven trueDiv truncate)

/-- Python's `str.upper`, whose table of scripts is not spelt out here. -/
class UpperCase where
  upper : String → String

/-- Upper case of the ASCII letters alone. -/
@[reducible] def UpperCase.ascii : UpperCase := ⟨fun text => text.map Char.toUpper⟩

/-- `strip` of a text. -/
def strip (text : String) : String :=
  String.ofList (IntegerText.strip text.toList)

inductive Market where
  | egypt
  | saudiArabia
  deriving DecidableEq, Repr

def Market.defaultVatRate : Market → ℚ
  | .egypt => nearest (14 / 100)
  | .saudiArabia => nearest (15 / 100)

def getMarket [UpperCase] (country : Option String) : Market :=
  if UpperCase.upper (strip (country.getD "")) = "SA" then .saudiArabia else .egypt

/-- The keys of `settings["tax_settings"]`. -/
structure TaxSettings where
  enabled : JsonScalar := .null
  includedInPrice : Bool := false
  zoneOverrides : List (String × JsonScalar) := []
  defaultRate : Option JsonScalar := none

structure TaxLineInput where
  unitPriceCents : Nat
  quantity : Nat
  taxable : Bool := true
  deriving DecidableEq

def TaxLineInput.total (line : TaxLineInput) : Nat :=
  line.unitPriceCents * line.quantity

structure TaxLineBreakdown where
  lineIndex : Nat
  taxableAmountCents : Nat
  taxCents : Int
  rate : FloatValue
  deriving DecidableEq, Repr

structure ResolvedTax where
  taxToAddCents : Int := 0
  includedTaxCents : Int := 0
  rate : FloatValue := .finite 0
  inclusive : Bool := false
  breakdown : List TaxLineBreakdown := []
  deriving DecidableEq, Repr

structure TaxResolver where
  platformDefaultRate : ℚ

def taxResolverForCountry [UpperCase] (country : Option String) : TaxResolver :=
  ⟨(getMarket country).defaultVatRate⟩

namespace TaxResolver

/-- `val.strip().rstrip("%")`. -/
def cleaned (val : String) : String :=
  String.ofList ((IntegerText.strip val.toList).reverse.dropWhile (· = '%')).reverse

def toFloat : JsonScalar → Option FloatValue
  | .text val => FloatText.readFloat (cleaned val)
  | .int val => some (.finite (nearest val))
  | .real val => some (.finite val)
  | .bool val => some (.finite (if val then 1 else 0))
  | .null => none
  | .other => none

/-- Above 1 the number is a percentage. -/
def asFraction : FloatValue → FloatValue
  | .finite num =>
      let scaled := if 1 < num then nearest (num / 100) else num
      .finite (if scaled < 0 then 0 else scaled)
  | .infinite negative => if negative then .finite 0 else .infinite false
  | .nan => .nan

def coerceRate (val : JsonScalar) : FloatValue :=
  match toFloat val with
  | some num => asFraction num
  | none => .finite 0

def normalize [UpperCase] (code : String) : String :=
  strip (UpperCase.upper code)

def zoneOverride [UpperCase] (settings : TaxSettings) (destination : Option String) :
    Option JsonScalar :=
  match destination with
  | none => none
  | some governorate =>
      if governorate = "" then none
      else (settings.zoneOverrides.find? fun entry =>
        normalize entry.1 = normalize governorate).map Prod.snd

def resolveRate [UpperCase] (resolver : TaxResolver) (settings : TaxSettings)
    (destination : Option String) : FloatValue :=
  match zoneOverride settings destination with
  | some val => coerceRate val
  | none =>
      match settings.defaultRate with
      | some val => coerceRate val
      | none => .finite resolver.platformDefaultRate

/-- Python's `indices[:count]`, where a negative count drops from the end. -/
def sliceTo (indices : List Nat) (count : Int) : List Nat :=
  indices.take (if 0 ≤ count then count else indices.length + count).toNat

/-- The indices by residual, largest first; equal residuals keep their order. -/
def byResidual (residuals : List ℚ) : List Nat :=
  (List.range residuals.length).insertionSort fun i j => residuals.getD j 0 ≤ residuals.getD i 0

def allocateDiscount (lineTotals : List Nat) (discountCents : Int) : List Nat :=
  let gross := lineTotals.sum
  if discountCents ≤ 0 ∨ lineTotals = [] ∨ gross = 0 then lineTotals.map fun _ => 0
  else
    let raw := lineTotals.map fun total => trueDiv (total * discountCents.toNat) gross
    let floored := raw.map fun share => (truncate share).toNat
    let residuals := List.zipWith (fun share low => nearest (share - (low : ℚ))) raw floored
    let leftover := discountCents - floored.sum
    let topped := sliceTo (byResidual residuals) leftover
    floored.mapIdx fun i low => if i ∈ topped then low + 1 else low

/-- The tax of one line at a finite rate. -/
def lineTax (inclusive : Bool) (rate : ℚ) (taxable : Nat) : Int :=
  let product := nearest (nearest taxable * rate)
  if inclusive then roundHalfEven (nearest (product / nearest (1 + rate)))
  else roundHalfEven product

/-- `round` of a tax that is not finite: infinity over infinity and zero times infinity are NaN. -/
def nonFiniteTax (inclusive : Bool) (rate : FloatValue) (taxable : Nat) : String :=
  if inclusive ∨ rate = .nan ∨ taxable = 0 then "cannot convert float NaN to integer"
  else "cannot convert float infinity to integer"

def breakLine (inclusive : Bool) (rate : FloatValue) (index : Nat) (line : TaxLineInput)
    (discount : Nat) : Except String TaxLineBreakdown :=
  let taxable := line.total - discount
  if !line.taxable then .ok ⟨index, 0, 0, .finite 0⟩
  else
    match rate with
    | .finite value => .ok ⟨index, taxable, lineTax inclusive value taxable, rate⟩
    | _ => .error (nonFiniteTax inclusive rate taxable)

def breakLines (inclusive : Bool) (rate : FloatValue) (lines : List TaxLineInput)
    (discounts : List Nat) : Except String (List TaxLineBreakdown) :=
  (lines.zip discounts).zipIdx.mapM fun ((line, discount), index) =>
    breakLine inclusive rate index line discount

/-- `rate <= 0`, which NaN is not. -/
def isUntaxed : FloatValue → Bool
  | .finite rate => rate ≤ 0
  | .infinite negative => negative
  | .nan => false

def resolve [UpperCase] (resolver : TaxResolver) (settings : TaxSettings)
    (lineItems : List TaxLineInput) (discountAmountCents : Int) (destination : Option String)
    (forceInclusive : Bool) : Except String ResolvedTax :=
  if settings.enabled = .bool false then .ok {}
  else
    let rate := resolver.resolveRate settings destination
    if isUntaxed rate then .ok { rate }
    else
      let inclusive := forceInclusive || settings.includedInPrice
      let lineTotals := lineItems.map TaxLineInput.total
      let gross := lineTotals.sum
      if gross = 0 then .ok { rate, inclusive }
      else
        let discount := max 0 (min discountAmountCents gross)
        (breakLines inclusive rate lineItems (allocateDiscount lineTotals discount)).map
          fun breakdown =>
            let tax := (breakdown.map TaxLineBreakdown.taxCents).sum
            if inclusive then { includedTaxCents := tax, rate, inclusive, breakdown }
            else { taxToAddCents := tax, rate, inclusive, breakdown }

end TaxResolver

/-- 14% of 10000, the price including it, at the default rate. -/
example : letI := UpperCase.ascii
    ((taxResolverForCountry none).resolve {} [⟨5000, 2, true⟩] 0 none true).map
      ResolvedTax.includedTaxCents = .ok 1228 := by
  decide +kernel

end Numu.Invoices
