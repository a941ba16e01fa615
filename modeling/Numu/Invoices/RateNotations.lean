import Numu.Foundation.ExactFloats
import Numu.Foundation.Json
import Numu.Invoices.TaxResolver

/-!
# The notations of a tax rate

A rate of `p` percent can be written as the number, as a text with a percent sign or as the
fraction. The resolver tells them apart by their size alone.
-/

namespace Numu.Invoices
open Numu.Stock (JsonScalar)
open Binary64 (IsFloat nearest roundHalfEven)
open TaxResolver (asFraction coerceRate lineTax resolveRate zoneOverride)

/-- A decimal literal that Python reads as the float of `p`. -/
structure Spells (text : String) (p : ℚ) : Prop where
  plain : ∀ c ∈ text.toList, c.isDigit ∨ c = '.'
  reads : FloatText.readFloat text = some (.finite (nearest p))

/-- The ways to write a rate of `p` percent. -/
inductive Writing (p : ℚ) : JsonScalar → Prop where
  | number : Writing p (.real (nearest p))
  | whole (n : Int) (same : p = n) : Writing p (.int n)
  | percent (text : String) (spells : Spells text p) : Writing p (.text (text ++ "%"))
  | fraction : Writing p (.real (nearest (p / 100)))

/-- Where a store keeps a rate. -/
inductive RatePlace where
  | default
  | zone (code : String)

def TaxSettings.put (settings : TaxSettings) (place : RatePlace) (val : JsonScalar) :
    TaxSettings :=
  match place with
  | .default => { settings with defaultRate := some val }
  | .zone code => { settings with zoneOverrides := Json.assign settings.zoneOverrides code val }

def taxCharged (result : Except String ResolvedTax) : Except String (Int × Int) :=
  result.map fun resolved => (resolved.taxToAddCents, resolved.includedTaxCents)

/-- The two values tax every order alike, wherever the store keeps them. -/
def TaxAlike [UpperCase] (first second : JsonScalar) : Prop :=
  ∀ (resolver : TaxResolver) (settings : TaxSettings) (place : RatePlace)
    (lines : List TaxLineInput) (discountAmountCents : Int) (destination : Option String)
    (forceInclusive : Bool),
    taxCharged (resolver.resolve (settings.put place first) lines discountAmountCents destination
        forceInclusive) =
      taxCharged (resolver.resolve (settings.put place second) lines discountAmountCents
        destination forceInclusive)

def OneResult [UpperCase] (p : ℚ) : Prop :=
  ∀ first second, Writing p first → Writing p second → TaxAlike first second

theorem plain_not_space {c : Char} (plain : c.isDigit ∨ c = '.') :
    IntegerText.isSpace c = false := by
  rcases plain with digit | rfl
  · exact IntegerText.digit_not_space c digit
  · decide

theorem plain_not_percent {c : Char} (plain : c.isDigit ∨ c = '.') : c ≠ '%' := by
  rintro rfl
  exact absurd plain (by decide)

/-- The percent sign is stripped, and nothing is left of it. -/
theorem cleaned_percent {text : String} {p : ℚ} (spells : Spells text p) :
    TaxResolver.cleaned (text ++ "%") = text := by
  have chars : (text ++ "%").toList = text.toList ++ ['%'] := String.toList_append
  have clean : ∀ c ∈ text.toList ++ ['%'], IntegerText.isSpace c = false := by
    intro c member
    rcases List.mem_append.mp member with own | sign
    · exact plain_not_space (spells.plain c own)
    · rw [List.mem_singleton.mp sign]
      decide
  have kept : text.toList.reverse.dropWhile (fun c => decide (c = '%')) = text.toList.reverse := by
    cases ending : text.toList.reverse with
    | nil => rfl
    | cons c rest =>
        have member : c ∈ text.toList := by
          rw [← List.mem_reverse, ending]
          exact List.mem_cons_self
        exact List.dropWhile_cons_of_neg (by simpa using plain_not_percent (spells.plain c member))
  rw [TaxResolver.cleaned, chars, IntegerText.strip_eq_self _ clean, List.reverse_append,
    List.reverse_singleton, List.singleton_append, List.dropWhile_cons_of_pos (by decide), kept,
    List.reverse_reverse, String.ofList_toList]

/-- The rate that a positive number stands for. -/
def rateOf (num : ℚ) : ℚ := if 1 < num then nearest (num / 100) else num

theorem asFraction_pos {num : ℚ} (positive : 0 < num) :
    asFraction (.finite num) = .finite (rateOf num) := by
  have nonneg : ¬rateOf num < 0 := by
    unfold rateOf
    split_ifs
    · exact not_lt.mpr ((Binary64.nearest_pos_iff (by positivity)).mpr (by positivity)).le
    · exact not_lt.mpr positive.le
  exact congrArg FloatValue.finite (if_neg nonneg)

theorem nearest_pos {q : ℚ} (positive : 0 < q) : 0 < nearest q :=
  (Binary64.nearest_pos_iff positive.le).mpr positive

/-- What the resolver takes a notation for: the number, or the fraction. -/
theorem coerceRate_writing {p : ℚ} (positive : 0 < p) {val : JsonScalar} (writing : Writing p val) :
    coerceRate val = .finite (rateOf (nearest p)) ∨
      val = .real (nearest (p / 100)) ∧ coerceRate val = .finite (rateOf (nearest (p / 100))) := by
  have number := asFraction_pos (nearest_pos positive)
  cases writing with
  | number => exact Or.inl number
  | whole n same =>
      apply Or.inl
      rw [same] at number ⊢
      exact number
  | percent text spells =>
      apply Or.inl
      rw [coerceRate, TaxResolver.toFloat, cleaned_percent spells, spells.reads]
      exact number
  | fraction => exact Or.inr ⟨rfl, asFraction_pos (nearest_pos (by positivity))⟩

section Bounds
variable {p : ℚ}

theorem nearest_le (positive : 0 < p) : nearest p ≤ p + p / 2 ^ 53 := by
  have error := (abs_le.mp (Binary64.abs_nearest_sub_le p)).2
  rw [abs_of_pos positive] at error
  linarith

theorem le_nearest (positive : 0 < p) : p - p / 2 ^ 53 ≤ nearest p := by
  have error := (abs_le.mp (Binary64.abs_nearest_sub_le p)).1
  rw [abs_of_pos positive] at error
  linarith

/-- The number and the fraction of a percentage are told apart: the number is above 1, the fraction
is not, and the division by 100 rounds as the fraction is rounded. -/
def ToldApart (p : ℚ) : Prop :=
  1 < nearest p ∧ nearest (p / 100) ≤ 1 ∧ nearest (nearest p / 100) = nearest (p / 100)

instance (p : ℚ) : Decidable (ToldApart p) := inferInstanceAs (Decidable (_ ∧ _ ∧ _))

theorem rateOf_eq_iff (positive : 0 < p) :
    rateOf (nearest p) = rateOf (nearest (p / 100)) ↔ ToldApart p := by
  have part : 0 < p / 100 := by positivity
  have low := le_nearest positive
  have high := nearest_le part
  have number := nearest_pos positive
  have fraction := nearest_pos part
  unfold rateOf ToldApart
  by_cases above : 1 < nearest p
  · by_cases below : nearest (p / 100) ≤ 1
    · rw [if_pos above, if_neg (not_lt.mpr below)]
      simp only [above, below, true_and]
    · -- both are taken for percentages
      have scaled := le_nearest (show 0 < nearest p / 100 by positivity)
      have twice := nearest_le (show 0 < nearest (p / 100) / 100 by positivity)
      rw [if_pos above, if_pos (not_le.mp below)]
      refine iff_of_false ?_ fun apart => below apart.2.1
      intro same
      linarith
  · -- both are taken for fractions
    have below : ¬1 < nearest (p / 100) := by
      have most := not_lt.mp above
      intro past
      linarith
    rw [if_neg above, if_neg below]
    refine iff_of_false ?_ fun apart => above apart.1
    intro same
    linarith

theorem rateOf_pos (positive : 0 < p) : 0 < rateOf p := by
  unfold rateOf
  split_ifs
  · exact nearest_pos (by positivity)
  · exact positive

theorem rateOf_isFloat (positive : 0 < p) (float : IsFloat p) : IsFloat (rateOf p) := by
  unfold rateOf
  split_ifs
  · exact Binary64.nearest_isFloat (by positivity)
  · exact float

end Bounds

section Reading
variable {first second : JsonScalar}

/-- The lookup finds the same rate in the same place. -/
theorem find?_assign (same : coerceRate first = coerceRate second) (key : String)
    (wanted : String → Bool) (entries : List (String × JsonScalar)) :
    ((Json.assign entries key first).find? fun entry => wanted entry.1).map
        (fun entry => coerceRate entry.2) =
      ((Json.assign entries key second).find? fun entry => wanted entry.1).map
        (fun entry => coerceRate entry.2) := by
  induction entries with
  | nil =>
      simp only [Json.assign, List.find?_cons, List.find?_nil]
      cases wanted key <;> simp [same]
  | cons entry rest ih =>
      rcases entry with ⟨found, old⟩
      by_cases here : found = key
      · simp only [Json.assign, here, if_true, List.find?_cons]
        cases wanted key <;> simp [same]
      · simp only [Json.assign, here, if_false, List.find?_cons]
        cases wanted found <;> simp [ih]

theorem resolveRate_eq [UpperCase] (resolver : TaxResolver) (settings : TaxSettings)
    (destination : Option String) :
    resolver.resolveRate settings destination =
      ((zoneOverride settings destination).map coerceRate).getD
        ((settings.defaultRate.map coerceRate).getD (.finite resolver.platformDefaultRate)) := by
  unfold resolveRate
  cases zoneOverride settings destination <;> cases settings.defaultRate <;> rfl

theorem resolveRate_put [UpperCase] (same : coerceRate first = coerceRate second)
    (resolver : TaxResolver) (settings : TaxSettings) (place : RatePlace)
    (destination : Option String) :
    resolver.resolveRate (settings.put place first) destination =
      resolver.resolveRate (settings.put place second) destination := by
  rw [resolveRate_eq, resolveRate_eq]
  cases place with
  | default => simp only [TaxSettings.put, zoneOverride, Option.map_some, same]
  | zone code =>
      have overrides : (zoneOverride (settings.put (.zone code) first) destination).map coerceRate =
          (zoneOverride (settings.put (.zone code) second) destination).map coerceRate := by
        unfold zoneOverride
        cases destination with
        | none => rfl
        | some governorate =>
            by_cases blank : governorate = ""
            · simp only [blank, if_true]
            · simp only [blank, if_false, Option.map_map]
              exact find?_assign same code
                (fun name => TaxResolver.normalize name = TaxResolver.normalize governorate)
                settings.zoneOverrides
      rw [overrides]
      rfl

/-- Values that stand for one rate tax every order alike. -/
theorem taxAlike_of_coerceRate [UpperCase] (same : coerceRate first = coerceRate second) :
    TaxAlike first second := by
  intro resolver settings place lines discountAmountCents destination forceInclusive
  have rate := resolveRate_put same resolver settings place destination
  have enabled : (settings.put place first).enabled = (settings.put place second).enabled := by
    cases place <;> rfl
  have included : (settings.put place first).includedInPrice =
      (settings.put place second).includedInPrice := by
    cases place <;> rfl
  simp only [TaxResolver.resolve, rate, enabled, included]

/-- The tax of one exclusive line at a store's default rate. -/
theorem taxCharged_single [UpperCase] {val : JsonScalar} {rate : ℚ}
    (read : coerceRate val = .finite rate) (positive : 0 < rate) (resolver : TaxResolver)
    {amount : Nat} (worth : 0 < amount) :
    taxCharged (resolver.resolve (({} : TaxSettings).put .default val) [⟨amount, 1, true⟩] 0 none
      false) = .ok (lineTax false rate amount, 0) := by
  have resolved : resolver.resolveRate (({} : TaxSettings).put .default val) none =
      .finite rate := read
  have taxed : TaxResolver.isUntaxed (.finite rate) = false := by
    simpa [TaxResolver.isUntaxed] using positive
  have enabled : (({} : TaxSettings).put .default val).enabled ≠ .bool false := nofun
  have gross : ([⟨amount, 1, true⟩] : List TaxLineInput).map TaxLineInput.total = [amount] := by
    simp [TaxLineInput.total]
  have discount : max (0 : Int) (min 0 ([amount].sum : Nat)) = 0 := by simp
  have shares : TaxResolver.allocateDiscount [amount] 0 = [0] := by
    simp [TaxResolver.allocateDiscount]
  have rows : TaxResolver.breakLines false (.finite rate) [⟨amount, 1, true⟩] [0] =
      .ok [⟨0, amount, lineTax false rate amount, .finite rate⟩] := by
    simp [TaxResolver.breakLines, TaxResolver.breakLine, TaxLineInput.total, pure, Except.pure,
      bind, Except.bind]
  have included : (({} : TaxSettings).put .default val).includedInPrice = false := rfl
  simp only [TaxResolver.resolve, enabled, if_false, resolved, taxed, Bool.false_eq_true, gross,
    discount, shares, included, Bool.or_false, rows]
  rw [if_neg (by simpa using worth.ne')]
  simp [taxCharged, Except.map]

theorem lineTax_whole {rate : ℚ} (positive : 0 < rate) (float : IsFloat rate) {n whole : Nat}
    (same : 2 ^ n * rate = whole) : lineTax false rate (2 ^ n) = whole := by
  have amount : nearest ((2 ^ n : Nat) : ℚ) = 2 ^ n := by
    push_cast
    exact Binary64.nearest_exact (by positivity) (Binary64.isFloat_two_pow n)
  have product : nearest (2 ^ n * rate) = 2 ^ n * rate :=
    Binary64.nearest_exact (by positivity) (float.mul_two_pow n)
  simp only [lineTax, Bool.false_eq_true, if_false]
  rw [amount, product, same, Binary64.roundHalfEven_natCast]

/-- Two rates tax some power of two cents differently. -/
theorem eq_of_taxAlike [UpperCase] {left right : ℚ} (alike : TaxAlike first second)
    (read : coerceRate first = .finite left) (read' : coerceRate second = .finite right)
    (positive : 0 < left) (positive' : 0 < right) (float : IsFloat left)
    (float' : IsFloat right) : left = right := by
  rcases float.whole with ⟨least, whole⟩
  rcases float'.whole with ⟨least', whole'⟩
  let n := max least least'
  rcases whole n (le_max_left _ _) with ⟨tax, charged⟩
  rcases whole' n (le_max_right _ _) with ⟨tax', charged'⟩
  have same := alike ⟨0⟩ {} .default [⟨2 ^ n, 1, true⟩] 0 none false
  rw [taxCharged_single read positive _ (by positivity),
    taxCharged_single read' positive' _ (by positivity), lineTax_whole positive float charged,
    lineTax_whole positive' float' charged'] at same
  have taxes : tax = tax' := by
    simpa using Except.ok.inj same
  rw [taxes, ← charged'] at charged
  exact mul_left_cancel₀ (by positivity) charged

end Reading

/-- A rate has one result in every notation exactly where its number and its fraction are told
apart. -/
theorem oneResult_iff [UpperCase] {p : ℚ} (positive : 0 < p) : OneResult p ↔ ToldApart p := by
  have number := nearest_pos positive
  have fraction : 0 < nearest (p / 100) := nearest_pos (by positivity)
  have float := Binary64.nearest_isFloat positive.le
  have float' : IsFloat (nearest (p / 100)) := Binary64.nearest_isFloat (by positivity)
  rw [← rateOf_eq_iff positive]
  constructor
  · intro one
    exact eq_of_taxAlike (one _ _ .number .fraction) (asFraction_pos number)
      (asFraction_pos fraction) (rateOf_pos number) (rateOf_pos fraction)
      (rateOf_isFloat number float) (rateOf_isFloat fraction float')
  · intro same
    have read {val : JsonScalar} (writing : Writing p val) :
        coerceRate val = .finite (rateOf (nearest p)) := by
      rcases coerceRate_writing positive writing with found | ⟨-, found⟩
      · exact found
      · rw [found, same]
    intro first second writing writing'
    exact taxAlike_of_coerceRate ((read writing).trans (read writing').symm)

theorem fourteen_oneResult : letI := UpperCase.ascii
    OneResult 14 := by
  let _ := UpperCase.ascii
  exact (oneResult_iff (by norm_num)).mpr (by decide +kernel)

/-- One percent as a number is taken for the whole price. -/
theorem one_percent_is_whole : letI := UpperCase.ascii
    ¬OneResult 1 := by
  let _ := UpperCase.ascii
  intro one
  have same := one _ _ (.whole 1 rfl) .fraction ⟨0⟩ {} .default [⟨10000, 1, true⟩] 0 none false
  revert same
  decide +kernel

end Numu.Invoices
