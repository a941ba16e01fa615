import Numu.Foundation.LargestRemainder
import Numu.Foundation.Outcome
import Numu.Foundation.Rounding
import Numu.Invoices.TaxResolver

/-!
# The shares of an order's discount

The tax resolver over an arithmetic, which is binary64 in the code and exact in the laws below: the
order's discount is divided by largest remainders, and each line is taxed by itself.
-/

namespace Numu.Invoices
open Binary64 (nearest roundHalfEven trueDiv truncate)

/-- The operations on numbers that the resolver rounds. -/
structure Arithmetic where
  quotient : Nat → Nat → ℚ
  rounded : ℚ → ℚ

namespace Arithmetic

def binary64 : Arithmetic := ⟨trueDiv, nearest⟩

def exact : Arithmetic := ⟨fun num den => num / den, id⟩

/-- Shares of a total keep their floor and whether they are whole. -/
def KeepsShares (arithmetic : Arithmetic) (gross : Nat) : Prop :=
  ∀ total ≤ gross, ∀ discount ≤ gross,
    let raw := arithmetic.quotient (total * discount) gross
    let low := total * discount / gross
    truncate raw = low ∧ (0 < arithmetic.rounded (raw - low) ↔ total * discount % gross ≠ 0)

theorem exact_keepsShares (gross : Nat) : exact.KeepsShares gross := by
  intro total _ discount _ raw low
  rcases Nat.eq_zero_or_pos gross with rfl | positive
  · have zero : total = 0 := by omega
    simp [raw, low, exact, zero, truncate]
  · have cast_pos : (0 : ℚ) < gross := by exact_mod_cast positive
    have floor : ⌊raw⌋ = (low : Int) := Rat.floor_natCast_div_natCast (total * discount) gross
    have nonneg : 0 ≤ raw := by
      simp only [raw, exact]
      positivity
    have split_ : raw - low = ((total * discount % gross : Nat) : ℚ) / gross := by
      have whole : ((gross * low + total * discount % gross : Nat) : ℚ) = (total * discount : Nat) :=
        congrArg Nat.cast (Nat.div_add_mod _ _)
      simp only [raw, exact]
      rw [← whole]
      push_cast
      field_simp
      ring
    refine ⟨(Binary64.truncate_of_nonneg nonneg).trans floor, ?_⟩
    change 0 < raw - low ↔ _
    rw [split_, div_pos_iff_of_pos_right cast_pos, Nat.cast_pos, Nat.pos_iff_ne_zero]

/-- A proper fraction stays between the whole numbers next to it while the numerator is exact. -/
theorem trueDiv_between {num den : Nat} (positive : 0 < den) (small : num < 2 ^ 53)
    (proper : num % den ≠ 0) :
    ((num / den : Nat) : ℚ) < trueDiv num den ∧ trueDiv num den < (num / den : Nat) + 1 := by
  have cast_pos : (0 : ℚ) < den := by exact_mod_cast positive
  have split_ : (den : ℚ) * (num / den : Nat) + (num % den : Nat) = num := by
    exact_mod_cast Nat.div_add_mod num den
  have least : (1 : ℚ) ≤ (num % den : Nat) := by exact_mod_cast Nat.pos_of_ne_zero proper
  have most : ((num % den : Nat) : ℚ) + 1 ≤ den := by exact_mod_cast Nat.mod_lt num positive
  have quotient : (num / den : ℚ) * den = num := by field_simp
  have error := abs_le.mp (Binary64.abs_trueDiv_sub_le num positive)
  have tiny : (num / den : ℚ) / 2 ^ 53 * den < 1 := by
    have bound : (num : ℚ) < 2 ^ 53 := by exact_mod_cast small
    calc
      _ = (num : ℚ) / 2 ^ 53 := by
        rw [div_mul_eq_mul_div, quotient]
      _ < 1 := by
        rw [div_lt_one (by positivity)]
        exact bound
  constructor <;> nlinarith

theorem binary64_keepsShares {gross : Nat} (small : gross < 2 ^ 26) :
    binary64.KeepsShares gross := by
  intro total total_le discount discount_le raw low
  have none_ : ¬0 < nearest 0 := by
    rw [Binary64.nearest_pos_iff le_rfl]
    exact lt_irrefl 0
  rcases Nat.eq_zero_or_pos gross with rfl | positive
  · have zero : total = 0 := by omega
    simpa [raw, low, binary64, zero, truncate, Binary64.trueDiv_zero] using none_
  have size : total * discount < 2 ^ 53 := by
    calc
      _ ≤ gross * gross := Nat.mul_le_mul total_le discount_le
      _ < 2 ^ 26 * 2 ^ 26 := Nat.mul_lt_mul'' small small
      _ < 2 ^ 53 := by norm_num
  by_cases whole : total * discount % gross = 0
  · have multiple : low * gross = total * discount := Nat.div_mul_cancel (Nat.dvd_of_mod_eq_zero whole)
    have exact_ : raw = low := by
      have fits : low < 2 ^ 53 := (Nat.div_le_self _ _).trans_lt size
      simp only [raw, binary64, ← multiple]
      exact Binary64.trueDiv_mul_self fits positive
    rw [exact_, sub_self]
    constructor
    · rw [Binary64.truncate_of_nonneg (Nat.cast_nonneg low), Int.floor_natCast]
    · exact iff_of_false none_ (not_not.mpr whole)
  · rcases trueDiv_between positive size whole with ⟨above, below⟩
    have nonneg : (0 : ℚ) ≤ raw := (Nat.cast_nonneg low).trans above.le
    constructor
    · rw [Binary64.truncate_of_nonneg nonneg]
      exact Int.floor_eq_iff.mpr ⟨above.le, below⟩
    · have apart : 0 < raw - low := sub_pos.mpr above
      exact iff_of_true ((Binary64.nearest_pos_iff apart.le).mpr apart) whole

end Arithmetic

namespace TaxResolver

def allocateWith (arithmetic : Arithmetic) (lineTotals : List Nat) (discountCents : Int) :
    List Nat :=
  let gross := lineTotals.sum
  if discountCents ≤ 0 ∨ lineTotals = [] ∨ gross = 0 then lineTotals.map fun _ => 0
  else
    let raw := lineTotals.map fun total => arithmetic.quotient (total * discountCents.toNat) gross
    let floored := raw.map fun share => (truncate share).toNat
    let residuals :=
      List.zipWith (fun share (low : Nat) => arithmetic.rounded (share - low)) raw floored
    let leftover := discountCents - floored.sum
    let topped := sliceTo (byResidual residuals) leftover
    floored.mapIdx fun i low => if i ∈ topped then low + 1 else low

theorem allocateDiscount_eq (lineTotals : List Nat) (discountCents : Int) :
    allocateDiscount lineTotals discountCents =
      allocateWith .binary64 lineTotals discountCents := by
  have lifted (raw : List ℚ) (floored : List Nat) :
      List.zipWith (fun share low => nearest (share - low)) raw (do return ((← floored) : ℚ)) =
        List.zipWith (fun share (low : Nat) => nearest (share - low)) raw floored := by
    rw [bind_pure_comp, List.map_eq_map, List.zipWith_map_right]
  simp only [allocateDiscount, lifted]
  rfl

def lineTaxWith (arithmetic : Arithmetic) (inclusive : Bool) (rate : ℚ) (taxable : Nat) : Int :=
  let product := arithmetic.rounded (arithmetic.rounded taxable * rate)
  if inclusive then
    roundHalfEven (arithmetic.rounded (product / arithmetic.rounded (1 + rate)))
  else roundHalfEven product

def breakLineWith (arithmetic : Arithmetic) (inclusive : Bool) (rate : FloatValue) (index : Nat)
    (line : TaxLineInput) (discount : Nat) : Except String TaxLineBreakdown :=
  let taxable := line.total - discount
  if !line.taxable then .ok ⟨index, 0, 0, .finite 0⟩
  else
    match rate with
    | .finite value => .ok ⟨index, taxable, lineTaxWith arithmetic inclusive value taxable, rate⟩
    | _ => .error (nonFiniteTax inclusive rate taxable)

/-- What the loop over the lines carries. -/
structure Tally where
  breakdown : List TaxLineBreakdown := []
  totalTaxCents : Int := 0
  totalIncludedCents : Int := 0

/-- One turn of the loop. -/
def tallyLine (arithmetic : Arithmetic) (inclusive : Bool) (rate : FloatValue) (tally : Tally)
    (entry : (TaxLineInput × Nat) × Nat) : Except String Tally := do
  let row ← breakLineWith arithmetic inclusive rate entry.2 entry.1.1 entry.1.2
  let breakdown := tally.breakdown ++ [row]
  if inclusive then
    return { tally with breakdown, totalIncludedCents := tally.totalIncludedCents + row.taxCents }
  else return { tally with breakdown, totalTaxCents := tally.totalTaxCents + row.taxCents }

def resolveWith [UpperCase] (arithmetic : Arithmetic) (resolver : TaxResolver)
    (settings : TaxSettings) (lineItems : List TaxLineInput) (discountAmountCents : Int)
    (destination : Option String) (forceInclusive : Bool) : Except String ResolvedTax :=
  if settings.enabled = .bool false then .ok {}
  else
    let rate := resolver.resolveRate settings destination
    if isUntaxed rate then .ok { rate }
    else
      let inclusive := forceInclusive || settings.includedInPrice
      let lineTotals := lineItems.map TaxLineInput.total
      let gross := lineTotals.sum
      if gross = 0 then .ok { rate, inclusive }
      else
        let discount := max 0 (min discountAmountCents gross)
        let shares := allocateWith arithmetic lineTotals discount
        ((lineItems.zip shares).zipIdx.foldlM (tallyLine arithmetic inclusive rate) {}).map
          fun tally => {
            taxToAddCents := tally.totalTaxCents
            includedTaxCents := tally.totalIncludedCents
            rate := rate
            inclusive := inclusive
            breakdown := tally.breakdown }

section Tally
variable {arithmetic : Arithmetic} {inclusive : Bool} {rate : FloatValue}

def taxes (rows : List TaxLineBreakdown) : Int := (rows.map TaxLineBreakdown.taxCents).sum

/-- The rows of the loop, without its sums. -/
def rowsWith (arithmetic : Arithmetic) (inclusive : Bool) (rate : FloatValue)
    (entries : List ((TaxLineInput × Nat) × Nat)) : Except String (List TaxLineBreakdown) :=
  entries.mapM fun entry => breakLineWith arithmetic inclusive rate entry.2 entry.1.1 entry.1.2

/-- What the loop carries after some more rows. -/
def Tally.after (inclusive : Bool) (tally : Tally) (rows : List TaxLineBreakdown) : Tally where
  breakdown := tally.breakdown ++ rows
  totalTaxCents := tally.totalTaxCents + if inclusive then 0 else taxes rows
  totalIncludedCents := tally.totalIncludedCents + if inclusive then taxes rows else 0

theorem tallyLine_eq (tally : Tally) (entry : (TaxLineInput × Nat) × Nat) :
    tallyLine arithmetic inclusive rate tally entry =
      (breakLineWith arithmetic inclusive rate entry.2 entry.1.1 entry.1.2).map fun row =>
        tally.after inclusive [row] := by
  rw [tallyLine]
  cases breakLineWith arithmetic inclusive rate entry.2 entry.1.1 entry.1.2 with
  | error message => rfl
  | ok row => cases inclusive <;> simp [bind, Except.bind, pure, Except.pure, Except.map, Tally.after, taxes]

theorem Tally.after_cons (tally : Tally) (row : TaxLineBreakdown) (rows : List TaxLineBreakdown) :
    (tally.after inclusive [row]).after inclusive rows = tally.after inclusive (row :: rows) := by
  cases inclusive <;> simp [Tally.after, taxes, add_assoc]

theorem foldlM_tallyLine (entries : List ((TaxLineInput × Nat) × Nat)) (tally : Tally) :
    entries.foldlM (tallyLine arithmetic inclusive rate) tally =
      (rowsWith arithmetic inclusive rate entries).map (tally.after inclusive) := by
  induction entries generalizing tally with
  | nil => cases inclusive <;> simp [rowsWith, Except.map, pure, Except.pure, Tally.after, taxes]
  | cons entry rest ih =>
      rw [List.foldlM_cons, tallyLine_eq, rowsWith, List.mapM_cons, ← rowsWith]
      cases breakLineWith arithmetic inclusive rate entry.2 entry.1.1 entry.1.2 with
      | error message => rfl
      | ok row =>
          change rest.foldlM _ (tally.after inclusive [row]) = _
          rw [ih]
          cases rowsWith arithmetic inclusive rate rest with
          | error message => rfl
          | ok rows => exact congrArg Except.ok (Tally.after_cons tally row rows)

end Tally

section Shares
variable {arithmetic : Arithmetic} {lineTotals : List Nat} {discount : Nat}

def residualsWith (arithmetic : Arithmetic) (lineTotals : List Nat) (discount : Nat) : List ℚ :=
  lineTotals.map fun total =>
    arithmetic.rounded (arithmetic.quotient (total * discount) lineTotals.sum -
      ((total * discount / lineTotals.sum : Nat) : ℚ))

theorem byResidual_perm (residuals : List ℚ) :
    (byResidual residuals).Perm (List.range residuals.length) :=
  List.perm_insertionSort _ _

theorem byResidual_descending (residuals : List ℚ) :
    (byResidual residuals).Pairwise fun i j => residuals.getD j 0 ≤ residuals.getD i 0 := by
  have total : Std.Total fun i j : Nat => residuals.getD j 0 ≤ residuals.getD i 0 :=
    ⟨fun i j => le_total (residuals.getD j 0) (residuals.getD i 0)⟩
  have trans_ : IsTrans Nat fun i j => residuals.getD j 0 ≤ residuals.getD i 0 :=
    ⟨fun _ _ _ first second => second.trans first⟩
  exact List.pairwise_insertionSort _ _

theorem byResidual_ranks (keeps : arithmetic.KeepsShares lineTotals.sum)
    (within : discount ≤ lineTotals.sum) :
    LargestRemainder.Ranks lineTotals discount lineTotals.sum
      (fun i => (residualsWith arithmetic lineTotals discount).getD i 0)
      (byResidual (residualsWith arithmetic lineTotals discount)) where
  perm := by
    have length : (residualsWith arithmetic lineTotals discount).length = lineTotals.length :=
      List.length_map _
    exact length ▸ byResidual_perm (residualsWith arithmetic lineTotals discount)
  descending := byResidual_descending _
  key_pos := by
    intro i bound
    have member := List.getElem_mem bound
    have kept := (keeps lineTotals[i] (List.single_le_sum (by simp) _ member) discount within).2
    have mapped : i < (residualsWith arithmetic lineTotals discount).length := by
      simpa [residualsWith] using bound
    rw [List.getD_eq_getElem _ _ mapped, List.getD_eq_getElem _ _ bound]
    simpa only [residualsWith, List.getElem_map] using kept

/-- The code's loop is the division by largest remainders. -/
theorem allocateWith_eq_shares (keeps : arithmetic.KeepsShares lineTotals.sum)
    (positive : 0 < discount) (within : discount ≤ lineTotals.sum) :
    allocateWith arithmetic lineTotals discount =
      LargestRemainder.shares lineTotals discount lineTotals.sum
        (byResidual (residualsWith arithmetic lineTotals discount)) := by
  have worth : 0 < lineTotals.sum := positive.trans_le within
  have listed : lineTotals ≠ [] := by
    rintro rfl
    exact absurd worth (by decide)
  have kept (total : Nat) (member : total ∈ lineTotals) :=
    keeps total (List.single_le_sum (by simp) _ member) discount within
  have low : ((lineTotals.map fun total =>
      arithmetic.quotient (total * discount) lineTotals.sum).map fun share =>
        (truncate share).toNat) = LargestRemainder.floors lineTotals discount lineTotals.sum := by
    rw [List.map_map]
    apply List.map_congr_left
    intro total member
    simp only [Function.comp_apply, (kept total member).1, Int.toNat_natCast]
  have residuals : List.zipWith (fun share (low : Nat) => arithmetic.rounded (share - low))
      (lineTotals.map fun total => arithmetic.quotient (total * discount) lineTotals.sum)
      (LargestRemainder.floors lineTotals discount lineTotals.sum) =
        residualsWith arithmetic lineTotals discount := by
    rw [LargestRemainder.floors, List.zipWith_map_left, List.zipWith_map_right, List.zipWith_self]
    rfl
  have less := LargestRemainder.floors_sum_le lineTotals discount worth rfl
  have leftover : (discount : Int) - (LargestRemainder.floors lineTotals discount lineTotals.sum).sum =
      (discount - (LargestRemainder.floors lineTotals discount lineTotals.sum).sum : Nat) := by
    omega
  have guard : ¬((discount : Int) ≤ 0 ∨ lineTotals = [] ∨ lineTotals.sum = 0) := by
    simp only [listed, false_or]
    omega
  simp only [allocateWith, if_neg guard, Int.toNat_natCast, low, residuals, leftover, sliceTo,
    Int.natCast_nonneg, if_true]
  rfl

/-- The shares are parts of their lines and add up to the discount. -/
theorem allocateWith_apportions (keeps : arithmetic.KeepsShares lineTotals.sum)
    {discountCents : Int} (within : discountCents ≤ lineTotals.sum) :
    List.Forall₂ (· ≤ ·) (allocateWith arithmetic lineTotals discountCents) lineTotals ∧
      ((allocateWith arithmetic lineTotals discountCents).sum : Int) = max 0 discountCents := by
  by_cases positive : 0 < discountCents
  · lift discountCents to Nat using positive.le
    have positive' : 0 < discountCents := by exact_mod_cast positive
    have within' : discountCents ≤ lineTotals.sum := by exact_mod_cast within
    have worth := positive'.trans_le within'
    have ranks := byResidual_ranks keeps within'
    rw [allocateWith_eq_shares keeps positive' within']
    constructor
    · exact ranks.shares_le worth rfl within'
    · rw [ranks.sum_shares worth rfl, max_eq_right positive.le]
  · have none_ : allocateWith arithmetic lineTotals discountCents = lineTotals.map fun _ => 0 := by
      rw [allocateWith, if_pos (Or.inl (not_lt.mp positive))]
    rw [none_, max_eq_left (not_lt.mp positive)]
    constructor
    · rw [List.forall₂_map_left_iff, List.forall₂_same]
      exact fun _ _ => Nat.zero_le _
    · simp

end Shares

/-- In binary64 this is the resolver itself. -/
theorem resolve_eq [UpperCase] (resolver : TaxResolver) (settings : TaxSettings)
    (lineItems : List TaxLineInput) (discountAmountCents : Int) (destination : Option String)
    (forceInclusive : Bool) :
    resolver.resolve settings lineItems discountAmountCents destination forceInclusive =
      resolveWith .binary64 resolver settings lineItems discountAmountCents destination
        forceInclusive := by
  have rows (inclusive : Bool) (rate : FloatValue) (discounts : List Nat) :
      breakLines inclusive rate lineItems discounts =
        rowsWith .binary64 inclusive rate (lineItems.zip discounts).zipIdx := rfl
  unfold resolve resolveWith
  simp only [foldlM_tallyLine, ← allocateDiscount_eq, rows]
  generalize (forceInclusive || settings.includedInPrice) = inclusive
  split_ifs with disabled untaxed worthless included
  · rfl
  · rfl
  · rfl
  all_goals
    cases rowsWith .binary64 inclusive (resolver.resolveRate settings destination) _ with
    | error message => rfl
    | ok found => simp [Except.map, Tally.after, taxes, included]

section Rows
variable {arithmetic : Arithmetic} {inclusive : Bool} {rate : FloatValue}

/-- The lines and their shares as the loop goes through them. -/
def entriesOf (lines : List TaxLineInput) (shares : List Nat) :
    List ((TaxLineInput × Nat) × Nat) :=
  (lines.zip shares).zipIdx

theorem breakLineWith_taxable {index : Nat} {line : TaxLineInput} {share : Nat}
    {row : TaxLineBreakdown} (taxable : line.taxable = true)
    (ok : breakLineWith arithmetic inclusive rate index line share = .ok row) :
    row.taxableAmountCents = line.total - share := by
  unfold breakLineWith at ok
  simp only [taxable, Bool.not_true, Bool.false_eq_true, if_false] at ok
  cases rate with
  | finite value =>
      cases ok
      rfl
  | infinite negative => cases ok
  | nan => cases ok

theorem rowsWith_taxable {entries : List ((TaxLineInput × Nat) × Nat)}
    {rows : List TaxLineBreakdown} (taxable : ∀ entry ∈ entries, entry.1.1.taxable = true)
    (ok : rowsWith arithmetic inclusive rate entries = .ok rows) :
    rows.map TaxLineBreakdown.taxableAmountCents =
      entries.map fun entry => entry.1.1.total - entry.1.2 := by
  have each := Outcome.mapM_ok_forall₂ ok
  clear ok
  induction each with
  | nil => rfl
  | cons here _ ih =>
      rw [List.map_cons, List.map_cons, breakLineWith_taxable (taxable _ List.mem_cons_self) here,
        ih fun entry member => taxable entry (List.mem_cons_of_mem _ member)]

theorem sum_rest {lines : List TaxLineInput} {shares : List Nat}
    (parts : List.Forall₂ (· ≤ ·) shares (lines.map TaxLineInput.total)) :
    ((lines.zip shares).map fun pair => pair.1.total - pair.2).sum + shares.sum =
      (lines.map TaxLineInput.total).sum := by
  induction lines generalizing shares with
  | nil =>
      cases parts
      rfl
  | cons line rest ih =>
      cases parts with
      | cons less parts =>
          have later := ih parts
          simp only [List.zip_cons_cons, List.map_cons, List.sum_cons]
          omega

/-- A row depends on the line and the share of its own place. -/
theorem rowsWith_getElem? {entries entries' : List ((TaxLineInput × Nat) × Nat)}
    {rows rows' : List TaxLineBreakdown}
    (ok : rowsWith arithmetic inclusive rate entries = .ok rows)
    (ok' : rowsWith arithmetic inclusive rate entries' = .ok rows') {place : Nat}
    (same : entries[place]? = entries'[place]?) : rows[place]? = rows'[place]? := by
  have each := congrArg (fun list => list[place]?) (Outcome.mapM_ok_map ok)
  have each' := congrArg (fun list => list[place]?) (Outcome.mapM_ok_map ok')
  simp only [List.getElem?_map] at each each'
  rw [same, each'] at each
  exact (Option.map_injective (fun _ _ => Except.ok.inj) each).symm

end Rows

def flipTaxable (lines : List TaxLineInput) (place : Nat) : List TaxLineInput :=
  lines.modify place fun line => { line with taxable := !line.taxable }

theorem flipTaxable_totals (lines : List TaxLineInput) (place : Nat) :
    (flipTaxable lines place).map TaxLineInput.total = lines.map TaxLineInput.total := by
  apply List.ext_getElem?
  intro other
  simp only [flipTaxable, List.getElem?_map, List.getElem?_modify]
  cases lines[other]? with
  | none => rfl
  | some line => by_cases here : place = other <;> simp [here, TaxLineInput.total]

theorem entriesOf_flipTaxable (lines : List TaxLineInput) (shares : List Nat) {place other : Nat}
    (apart : other ≠ place) :
    (entriesOf (flipTaxable lines place) shares)[other]? = (entriesOf lines shares)[other]? := by
  have kept : (flipTaxable lines place)[other]? = lines[other]? := by
    simp [flipTaxable, Ne.symm apart]
  simp only [entriesOf, List.getElem?_zipIdx, List.zip, List.getElem?_zipWith, kept]

section Resolution
variable [UpperCase] {arithmetic : Arithmetic} {resolver : TaxResolver} {settings : TaxSettings}
  {lines : List TaxLineInput} {discountAmountCents : Int} {destination : Option String}
  {forceInclusive : Bool} {resolved flipped : ResolvedTax}

/-- The discount that the lines share. -/
def sharedDiscount (lines : List TaxLineInput) (discountAmountCents : Int) : Int :=
  max 0 (min discountAmountCents (lines.map TaxLineInput.total).sum)

def sharesOf (arithmetic : Arithmetic) (lines : List TaxLineInput) (discountAmountCents : Int) :
    List Nat :=
  allocateWith arithmetic (lines.map TaxLineInput.total) (sharedDiscount lines discountAmountCents)

/-- The resolver leaves before the loop. -/
def Skips (resolver : TaxResolver) (settings : TaxSettings) (destination : Option String)
    (lines : List TaxLineInput) : Prop :=
  settings.enabled = .bool false ∨ isUntaxed (resolver.resolveRate settings destination) = true ∨
    (lines.map TaxLineInput.total).sum = 0

/-- The resolver gives no rows, or those of its lines. -/
theorem resolveWith_cases
    (ok : resolveWith arithmetic resolver settings lines discountAmountCents destination
      forceInclusive = .ok resolved) :
    (Skips resolver settings destination lines ∧ resolved.breakdown = [] ∧
      resolved.taxToAddCents = 0 ∧ resolved.includedTaxCents = 0) ∨
    (¬Skips resolver settings destination lines ∧
      rowsWith arithmetic (forceInclusive || settings.includedInPrice)
        (resolver.resolveRate settings destination)
        (entriesOf lines (sharesOf arithmetic lines discountAmountCents)) =
          .ok resolved.breakdown ∧
      taxes resolved.breakdown = resolved.taxToAddCents + resolved.includedTaxCents) := by
  unfold resolveWith at ok
  simp only [foldlM_tallyLine] at ok
  split_ifs at ok with disabled untaxed worthless
  · cases ok
    exact Or.inl ⟨Or.inl disabled, rfl, rfl, rfl⟩
  · cases ok
    exact Or.inl ⟨Or.inr (Or.inl untaxed), rfl, rfl, rfl⟩
  · cases ok
    exact Or.inl ⟨Or.inr (Or.inr worthless), rfl, rfl, rfl⟩
  · rcases Outcome.map_eq_ok.mp ok with ⟨tally, tallied, rfl⟩
    rcases Outcome.map_eq_ok.mp tallied with ⟨rows, found, rfl⟩
    refine Or.inr ⟨?_, found, ?_⟩
    · rintro (reason | reason | reason)
      · exact disabled reason
      · exact untaxed reason
      · exact worthless reason
    · simp only [Tally.after, List.nil_append, zero_add]
      split <;> simp

omit [UpperCase] in
/-- The rows of an order whose lines are all taxed come to what the discount leaves. -/
theorem rows_taxable_sum (taxable : ∀ line ∈ lines, line.taxable = true) {shares : List Nat}
    (parts : List.Forall₂ (· ≤ ·) shares (lines.map TaxLineInput.total)) {inclusive : Bool}
    {rate : FloatValue} {rows : List TaxLineBreakdown}
    (found : rowsWith arithmetic inclusive rate (entriesOf lines shares) = .ok rows) :
    ((rows.map TaxLineBreakdown.taxableAmountCents).sum : Int) =
      (lines.map TaxLineInput.total).sum - shares.sum := by
  have listed : ∀ entry ∈ entriesOf lines shares, entry.1.1.taxable = true := by
    intro entry member
    have pair : entry.1 ∈ lines.zip shares := List.fst_mem_of_mem_zipIdx member
    exact taxable entry.1.1 (List.of_mem_zip pair).1
  have amounts : (entriesOf lines shares).map (fun entry => entry.1.1.total - entry.1.2) =
      (lines.zip shares).map fun pair => pair.1.total - pair.2 := by
    calc
      _ = ((lines.zip shares).zipIdx.map Prod.fst).map fun pair => pair.1.total - pair.2 := by
        rw [List.map_map]
        rfl
      _ = (lines.zip shares).map fun pair => pair.1.total - pair.2 := by
        rw [List.zipIdx_map_fst]
  have rest := sum_rest parts
  rw [rowsWith_taxable listed found, amounts]
  omega

end Resolution

/-- What the resolver promises of an order: the shares of the discount, the sums of the rows of a
store that charges tax, and that a line's row is its own affair. -/
structure Apportions [UpperCase] (arithmetic : Arithmetic) (resolver : TaxResolver)
    (settings : TaxSettings) (lines : List TaxLineInput) (discountAmountCents : Int)
    (destination : Option String) (forceInclusive : Bool) : Prop where
  shares_le : List.Forall₂ (· ≤ ·) (sharesOf arithmetic lines discountAmountCents)
    (lines.map TaxLineInput.total)
  shares_sum : ((sharesOf arithmetic lines discountAmountCents).sum : Int) =
    sharedDiscount lines discountAmountCents
  taxes_sum : ∀ resolved, resolveWith arithmetic resolver settings lines discountAmountCents
      destination forceInclusive = .ok resolved →
    taxes resolved.breakdown = resolved.taxToAddCents + resolved.includedTaxCents
  taxable_sum : ∀ resolved, resolveWith arithmetic resolver settings lines discountAmountCents
      destination forceInclusive = .ok resolved →
    settings.enabled ≠ .bool false → isUntaxed (resolver.resolveRate settings destination) = false →
      (∀ line ∈ lines, line.taxable = true) →
        ((resolved.breakdown.map TaxLineBreakdown.taxableAmountCents).sum : Int) =
          (lines.map TaxLineInput.total).sum - sharedDiscount lines discountAmountCents
  others_kept : ∀ place resolved flipped,
    resolveWith arithmetic resolver settings lines discountAmountCents destination
      forceInclusive = .ok resolved →
    resolveWith arithmetic resolver settings (flipTaxable lines place) discountAmountCents
      destination forceInclusive = .ok flipped →
    ∀ other ≠ place, flipped.breakdown[other]? = resolved.breakdown[other]?

theorem resolveWith_apportions [UpperCase] {arithmetic : Arithmetic} {lines : List TaxLineInput}
    (keeps : arithmetic.KeepsShares (lines.map TaxLineInput.total).sum) (resolver : TaxResolver)
    (settings : TaxSettings) (discountAmountCents : Int) (destination : Option String)
    (forceInclusive : Bool) :
    Apportions arithmetic resolver settings lines discountAmountCents destination
      forceInclusive := by
  have within : sharedDiscount lines discountAmountCents ≤ (lines.map TaxLineInput.total).sum :=
    max_le (Int.natCast_nonneg _) (min_le_right _ _)
  have shares := allocateWith_apportions keeps within
  have parts : List.Forall₂ (· ≤ ·) (sharesOf arithmetic lines discountAmountCents)
      (lines.map TaxLineInput.total) := shares.1
  have sum : ((sharesOf arithmetic lines discountAmountCents).sum : Int) =
      sharedDiscount lines discountAmountCents :=
    shares.2.trans (max_eq_right (le_max_left _ _))
  refine ⟨parts, sum, ?_, ?_, ?_⟩
  · intro resolved ok
    rcases resolveWith_cases ok with ⟨-, rows, added, included⟩ | ⟨-, -, total⟩
    · rw [rows, added, included]
      rfl
    · exact total
  · intro resolved ok enabled taxed taxable
    rcases resolveWith_cases ok with ⟨skips, rows, -, -⟩ | ⟨-, found, -⟩
    · rcases skips with disabled | untaxed | worthless
      · exact absurd disabled enabled
      · rw [taxed] at untaxed
        exact absurd untaxed (by decide)
      · have nothing : sharedDiscount lines discountAmountCents = 0 := by
          rw [worthless] at within
          exact le_antisymm within (le_max_left _ _)
        rw [rows, worthless, nothing]
        rfl
    · rw [rows_taxable_sum taxable parts found, sum]
  · intro place resolved flipped ok ok' other apart
    have totals := flipTaxable_totals lines place
    have same : sharesOf arithmetic (flipTaxable lines place) discountAmountCents =
        sharesOf arithmetic lines discountAmountCents := by
      rw [sharesOf, sharesOf, sharedDiscount, sharedDiscount, totals]
    have skips_iff : Skips resolver settings destination (flipTaxable lines place) ↔
        Skips resolver settings destination lines := by
      rw [Skips, Skips, totals]
    rcases resolveWith_cases ok with ⟨skips, rows, -, -⟩ | ⟨goes, found, -⟩
    · rcases resolveWith_cases ok' with ⟨-, rows', -, -⟩ | ⟨goes', -, -⟩
      · rw [rows, rows']
      · exact absurd (skips_iff.mpr skips) goes'
    · rcases resolveWith_cases ok' with ⟨skips', -, -, -⟩ | ⟨-, found', -⟩
      · exact absurd (skips_iff.mp skips') goes
      · rw [same] at found'
        exact rowsWith_getElem? found' found (entriesOf_flipTaxable lines _ apart)

/-- The code's own floats divide the discounts of orders below 2²⁶ cents as well. -/
theorem resolve_apportions [UpperCase] {lines : List TaxLineInput}
    (small : (lines.map TaxLineInput.total).sum < 2 ^ 26) (resolver : TaxResolver)
    (settings : TaxSettings) (discountAmountCents : Int) (destination : Option String)
    (forceInclusive : Bool) :
    Apportions .binary64 resolver settings lines discountAmountCents destination forceInclusive :=
  resolveWith_apportions (Arithmetic.binary64_keepsShares small) resolver settings
    discountAmountCents destination forceInclusive

theorem resolve_apportions_thirds : letI := UpperCase.ascii
    Apportions .binary64 ⟨14 / 100⟩ {} [⟨333, 1, true⟩, ⟨333, 1, true⟩, ⟨334, 1, false⟩] 100 none
      true :=
  letI := UpperCase.ascii
  resolve_apportions (by decide) _ _ _ _ _

/-- In exact arithmetic every order's discount is divided so. -/
theorem exact_apportions [UpperCase] (resolver : TaxResolver) (settings : TaxSettings)
    (lines : List TaxLineInput) (discountAmountCents : Int) (destination : Option String)
    (forceInclusive : Bool) :
    Apportions .exact resolver settings lines discountAmountCents destination forceInclusive :=
  resolveWith_apportions (Arithmetic.exact_keepsShares _) resolver settings discountAmountCents
    destination forceInclusive

/-- A store that does not charge tax has no rows to add up. -/
theorem disabled_has_no_rows : letI := UpperCase.ascii
    ∃ resolved, resolveWith .exact ⟨14 / 100⟩ { enabled := .bool false } [⟨1000, 1, true⟩] 0 none
        true = .ok resolved ∧
      ((resolved.breakdown.map TaxLineBreakdown.taxableAmountCents).sum : Int) ≠
        (([⟨1000, 1, true⟩] : List TaxLineInput).map TaxLineInput.total).sum -
          sharedDiscount [⟨1000, 1, true⟩] 0 := by
  let _ := UpperCase.ascii
  exact ⟨{}, rfl, by decide⟩

end TaxResolver
end Numu.Invoices
