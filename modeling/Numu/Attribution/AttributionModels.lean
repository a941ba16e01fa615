import Mathlib.Algebra.BigOperators.Group.List.Basic
import Numu.Orders.Order

/-!
The five attribution models. Each splits the revenue of one conversion over its touches, the oldest
first; floats are rationals rounded to binary64.
-/

namespace Numu.Attribution
open Numu.Orders (Time UUID)
open Numu.Binary64 (nearest roundHalfEven)

/-- `math.exp`, which the platform's mathematical library computes. -/
class ExpFunction where
  exp : ℚ → ℚ

inductive AttributionModel where
  | lastTouch
  | firstTouch
  | linear
  | timeDecay
  | positionBased
  deriving DecidableEq, Repr

structure Touch where
  ts : Time
  utmSource : Option String := none
  campaignId : Option UUID := none
  deriving DecidableEq

variable {τ : Type*}

/-- `sum` of floats, from left to right. -/
def floatSum (weights : List ℚ) : ℚ :=
  weights.foldl (fun total weight => nearest (total + weight)) 0

/-- `raw[-1] += drift`. -/
def addLast (drift : Int) : List Int → List Int
  | [] => []
  | [share] => [share + drift]
  | share :: next :: rest => share :: addLast drift (next :: rest)

/-- The rounded shares by the weights; the last one takes the drift. -/
def shares (weights : List ℚ) (revenueCents : Int) : List Int :=
  let totalWeight := floatSum weights
  let raw := weights.map fun weight =>
    roundHalfEven (nearest (nearest revenueCents * nearest (weight / totalWeight)))
  addLast (revenueCents - raw.sum) raw

/-- `_distribute`. Weights without a sum give way to even ones, whose sum is positive. -/
def distribute (touches : List τ) (weights : List ℚ) (revenueCents : Int) : List (τ × Int) :=
  if touches = [] ∨ revenueCents = 0 then touches.map fun touch => (touch, 0)
  else if floatSum weights ≤ 0 then
    touches.zip (shares (List.replicate touches.length 1) revenueCents)
  else touches.zip (shares weights revenueCents)

def lastTouchCredit (touches : List τ) (revenueCents : Int) : List (τ × Int) :=
  let weights := (List.replicate touches.length 0).set (touches.length - 1) 1
  distribute touches weights revenueCents

def firstTouchCredit (touches : List τ) (revenueCents : Int) : List (τ × Int) :=
  distribute touches ((List.replicate touches.length 0).set 0 1) revenueCents

def linearCredit (touches : List τ) (revenueCents : Int) : List (τ × Int) :=
  distribute touches (List.replicate touches.length 1) revenueCents

/-- The weight of a touch by the time from it to the conversion. -/
def decayWeight [ExpFunction] (conversionAt : Time) (halfLifeDays : ℚ) (touch : Touch) : ℚ :=
  let seconds := nearest (((conversionAt : Int) - touch.ts : Int) / 1000000)
  let deltaDays := max (nearest (seconds / 86400)) 0
  let ln2 := nearest (6931471805599453 / 10 ^ 16)
  ExpFunction.exp (nearest (nearest (-ln2 * deltaDays) / halfLifeDays))

def timeDecayCredit [ExpFunction] (touches : List Touch) (revenueCents : Int) (conversionAt : Time)
    (halfLifeDays : ℚ := 7) : List (Touch × Int) :=
  if halfLifeDays ≤ 0 then linearCredit touches revenueCents
  else distribute touches (touches.map (decayWeight conversionAt halfLifeDays)) revenueCents

def positionBasedCredit (touches : List τ) (revenueCents : Int)
    (firstWeight : ℚ := nearest (4 / 10)) (lastWeight : ℚ := nearest (4 / 10)) : List (τ × Int) :=
  if touches.length = 1 then distribute touches [1] revenueCents
  else
    let middleTotal := max 0 (nearest (nearest (1 - firstWeight) - lastWeight))
    let middleN := touches.length - 2
    let middleEach := if 0 < middleN then nearest (middleTotal / middleN) else 0
    let weights := ((List.replicate touches.length middleEach).set 0 firstWeight).set
      (touches.length - 1) lastWeight
    distribute touches weights revenueCents

/-- `attribute`. -/
def attributeCredit [ExpFunction] (model : AttributionModel) (touches : List Touch) (revenueCents : Int)
    (conversionAt : Option Time) : List (Touch × Int) :=
  match model with
  | .lastTouch => lastTouchCredit touches revenueCents
  | .firstTouch => firstTouchCredit touches revenueCents
  | .linear => linearCredit touches revenueCents
  | .timeDecay =>
      match conversionAt with
      | none => linearCredit touches revenueCents
      | some conversionAt => timeDecayCredit touches revenueCents conversionAt
  | .positionBased => positionBasedCredit touches revenueCents

theorem length_addLast (drift : Int) (raw : List Int) : (addLast drift raw).length = raw.length := by
  induction raw with
  | nil => rfl
  | cons share rest ih =>
      cases rest with
      | nil => rfl
      | cons next rest => simp only [addLast, List.length_cons, ih]

theorem sum_addLast (drift : Int) {raw : List Int} (some_ : raw ≠ []) :
    (addLast drift raw).sum = raw.sum + drift := by
  induction raw with
  | nil => exact absurd rfl some_
  | cons share rest ih =>
      cases rest with
      | nil => simp [addLast]
      | cons next rest =>
          rw [addLast, List.sum_cons, ih (List.cons_ne_nil _ _), ← add_assoc, ← List.sum_cons]

theorem length_shares (weights : List ℚ) (revenueCents : Int) :
    (shares weights revenueCents).length = weights.length := by
  simp [shares, length_addLast]

/-- The drift makes up for every rounding. -/
theorem sum_shares {weights : List ℚ} (some_ : weights ≠ []) (revenueCents : Int) :
    (shares weights revenueCents).sum = revenueCents := by
  rw [shares, sum_addLast _ (by simpa using some_)]
  exact add_sub_cancel _ _

theorem sum_zip_shares {touches : List τ} {weights : List ℚ} (some_ : touches ≠ [])
    (aligned : weights.length = touches.length) (revenueCents : Int) :
    ((touches.zip (shares weights revenueCents)).map Prod.snd).sum = revenueCents := by
  have weighted : weights ≠ [] := by
    intro nothing
    rw [nothing] at aligned
    exact some_ (List.eq_nil_of_length_eq_zero aligned.symm)
  rw [List.map_snd_zip (by rw [length_shares, aligned]), sum_shares weighted]

theorem sum_distribute {touches : List τ} {weights : List ℚ} (some_ : touches ≠ [])
    (aligned : weights.length = touches.length) (revenueCents : Int) :
    ((distribute touches weights revenueCents).map Prod.snd).sum = revenueCents := by
  unfold distribute
  split_ifs with idle even
  · rcases idle with nothing | free
    · exact absurd nothing some_
    · simp [free, Function.comp_def]
  · exact sum_zip_shares some_ (List.length_replicate) revenueCents
  · exact sum_zip_shares some_ aligned revenueCents

/-- Whatever the model, the credits of an order's touches add up to its revenue. -/
theorem sum_attributeCredit [ExpFunction] (model : AttributionModel) {touches : List Touch}
    (some_ : touches ≠ []) (revenueCents : Int) (conversionAt : Option Time) :
    ((attributeCredit model touches revenueCents conversionAt).map Prod.snd).sum = revenueCents := by
  have even : ((linearCredit touches revenueCents).map Prod.snd).sum = revenueCents :=
    sum_distribute some_ List.length_replicate revenueCents
  cases model with
  | lastTouch => exact sum_distribute some_ (by simp) revenueCents
  | firstTouch => exact sum_distribute some_ (by simp) revenueCents
  | linear => exact even
  | timeDecay =>
      cases conversionAt with
      | none => exact even
      | some conversionAt =>
          rw [attributeCredit, timeDecayCredit]
          split
          · exact even
          · exact sum_distribute some_ (by simp) revenueCents
  | positionBased =>
      rw [attributeCredit, positionBasedCredit]
      split
      · rename_i single
        exact sum_distribute some_ (by rw [single]; rfl) revenueCents
      · exact sum_distribute some_ (by simp) revenueCents

end Numu.Attribution
