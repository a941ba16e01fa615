import Mathlib.Algebra.Order.Floor.Ring
import Mathlib.Data.Rat.Floor
import Mathlib.Tactic.Linarith
import Mathlib.Tactic.NormNum
import Numu.Foundation.Rounding
import Numu.Shipping.Shipment

/-!
# The COD amount, to the carrier and back

The adapter books pounds, and a report of the delivery gives them back. Amounts are exact here:
`markDelivered_exact` says where the floats' appliers do the same.
-/

namespace Numu.Shipping.Exact
open Numu.Orders (Time)

/-- The `cod` of `create_shipment`'s payload, in pounds. -/
def bookedCod (codAmount : Option Int) : Option ℚ :=
  match codAmount with
  | some cents => if 0 < cents then some (cents / 100) else none
  | none => none

/-- `int(cod_amount * 100) if cod_amount > 1000 else int(cod_amount)`. -/
def cents (pounds : ℚ) : Int :=
  if 1000 < pounds then Binary64.truncate (pounds * 100) else Binary64.truncate pounds

def markDelivered (shipment : Shipment) (codCollected : Bool) (codAmount : Option ℚ) (now : Time) :
    Shipment :=
  let delivered :=
    { shipment.updateStatus .delivered "Delivered to customer" now with deliveredAt := some now }
  if codCollected then
    let collected := { delivered with codCollected := true, codCollectedAt := some now }
    match codAmount with
    | some pounds => { collected with codAmount := cents pounds }
    | none => collected
  else delivered

/-- `bool(cod_amount)`. -/
def truthy (codAmount : Option ℚ) : Bool := codAmount.any (· ≠ 0)

/-- `_update_shipment_status` of Bosta's callback. -/
def updateShipmentStatus (shipment : Shipment) (state : String) (codAmount : Option ℚ)
    (failureReason description : String) (now : Time) : Shipment :=
  match bostaStatusMap.lookup state with
  | none => shipment
  | some newStatus =>
      if state = "DELIVERED" then markDelivered shipment (truthy codAmount) codAmount now
      else if state = "PICKED_UP" then shipment.markPickedUp now
      else if state = "DELIVERY_FAILED" then shipment.markFailed failureReason now
      else if state = "RETURNED" then shipment.markReturned now
      else if state = "CANCELLED" then shipment.markCancelled "Cancelled by carrier" now
      else if state = "OUT_FOR_DELIVERY" then
        shipment.updateStatus .outForDelivery "Out for delivery" now
      else shipment.updateStatus newStatus description now

/-- `apply_carrier_status` once the word has a status. -/
def applyCarrierStatus (shipment : Shipment) (carrier rawStatus description : String)
    (codAmount : Option ℚ) (failureReason : String) (status : ShipmentStatus) (now : Time) :
    Shipment :=
  let text := orElse description s!"{carrier} status: {rawStatus}"
  match status with
  | .delivered => markDelivered shipment (truthy codAmount) codAmount now
  | .pickedUp => shipment.markPickedUp now
  | .failed => shipment.markFailed (orElse failureReason text) now
  | .returned => shipment.markReturned now
  | .cancelled => shipment.markCancelled (orElse failureReason "Cancelled by carrier") now
  | .outForDelivery => shipment.updateStatus .outForDelivery "Out for delivery" now
  | other => shipment.updateStatus other text now

/-- A report that a parcel has been delivered, by the path it comes in on. -/
inductive Report where
  | callback (failureReason description : String) (now : Time)
  | carrierStatus (carrier rawStatus description failureReason : String) (now : Time)
  deriving DecidableEq, Repr

def Report.apply (codAmount : Option ℚ) (shipment : Shipment) : Report → Shipment
  | .callback failureReason description now =>
      updateShipmentStatus shipment "DELIVERED" codAmount failureReason description now
  | .carrierStatus carrier rawStatus description failureReason now =>
      applyCarrierStatus shipment carrier rawStatus description codAmount failureReason .delivered
        now

section Floats

/-- A reported amount that stands for a number of pounds, and whose product is not rounded where
one is taken. -/
def Denotes (pounds : ℚ) : CodAmount → Prop
  | .int n => pounds = n
  | .float x =>
      x = .finite pounds ∧
        (1000 < pounds → CodAmount.floatTimesHundred x = .finite (pounds * 100))
  | .text _ | .other _ => False

variable {pounds : ℚ} {amount : CodAmount}

theorem truncate_intCast (n : Int) : Binary64.truncate (n : ℚ) = n := by
  rw [Binary64.truncate, Int.ceil_intCast, Int.floor_intCast, ite_self]

theorem cents_exact (denotes : Denotes pounds amount) : amount.cents = some (cents pounds) := by
  cases amount with
  | int n =>
      obtain rfl : pounds = n := denotes
      have product : (n : ℚ) * 100 = ((n * 100 : Int) : ℚ) := by push_cast; rfl
      have above : (1000 : ℚ) < n ↔ 1000 < n := by exact_mod_cast Iff.rfl
      rw [CodAmount.cents, cents, product, truncate_intCast, truncate_intCast]
      simp only [above]
  | float x =>
      obtain ⟨rfl, exact_⟩ : x = .finite pounds ∧ _ := denotes
      rw [CodAmount.cents, cents]
      by_cases above : 1000 < pounds
      · rw [if_pos above, if_pos above, exact_ above]
        rfl
      · rw [if_neg above, if_neg above]
        rfl
  | text s => exact denotes.elim
  | other truthy => exact denotes.elim

theorem truthy_exact (denotes : Denotes pounds amount) : amount.truthy = truthy (some pounds) := by
  cases amount with
  | int n =>
      obtain rfl : pounds = n := denotes
      simp [CodAmount.truthy, truthy]
  | float x =>
      obtain ⟨rfl, -⟩ : x = .finite pounds ∧ _ := denotes
      simp [CodAmount.truthy, truthy]
  | text s => exact denotes.elim
  | other truthy => exact denotes.elim

/-- Where no product is rounded, a delivery records what exact arithmetic gives. -/
theorem markDelivered_exact (denotes : Denotes pounds amount) (shipment : Shipment) (now : Time) :
    shipment.markDelivered (some amount) now =
      some (markDelivered shipment (truthy (some pounds)) (some pounds) now) := by
  rw [Shipment.markDelivered, markDelivered, ← truthy_exact denotes, cents_exact denotes]
  by_cases collected : amount.truthy = true
  · rw [if_pos collected, if_pos collected]
    rfl
  · rw [if_neg collected, if_neg collected]

end Floats

/-- Either path records the amount that `mark_delivered` makes of the pounds. -/
theorem Report.apply_codAmount {pounds : ℚ} (nonzero : pounds ≠ 0) (shipment : Shipment)
    (report : Report) : (report.apply (some pounds) shipment).codAmount = cents pounds := by
  have collected : truthy (some pounds) = true := by simpa [truthy] using nonzero
  have marked : ∀ now, (markDelivered shipment (truthy (some pounds)) (some pounds) now).codAmount =
      cents pounds := by
    intro now
    rw [markDelivered, collected]
    rfl
  cases report with
  | callback failureReason description now => exact marked now
  | carrierStatus carrier rawStatus description failureReason now => exact marked now

/-- Only an amount above a thousand pounds is taken for pounds. -/
theorem cents_booked_iff {booked : Int} (positive : 0 < booked) :
    cents (booked / 100) = booked ↔ 100000 < booked := by
  have cast_pos : (0 : ℚ) < booked := by exact_mod_cast positive
  have above : (1000 : ℚ) < booked / 100 ↔ 100000 < booked := by
    rw [lt_div_iff₀ (by norm_num)]
    norm_num
    exact_mod_cast Iff.rfl
  by_cases large : 100000 < booked
  · rw [cents, if_pos (above.mpr large), div_mul_cancel₀ _ (by norm_num), truncate_intCast]
    exact iff_of_true rfl large
  · rw [cents, if_neg (mt above.mp large), Binary64.truncate_of_nonneg (by positivity)]
    refine iff_of_false (fun same => ?_) large
    have below := Int.floor_le ((booked : ℚ) / 100)
    rw [same, le_div_iff₀ (by norm_num)] at below
    linarith

/-- However often a delivery is reported, the shipment's amount is the booked one again exactly
where that is more than a hundred thousand cents. -/
theorem cod_round_trip_iff (shipment : Shipment) {booked : Int} (positive : 0 < booked)
    (report : Report) (repeats : List Report) :
    ((report :: repeats).foldl (Report.apply (bookedCod (some booked))) shipment).codAmount =
      booked ↔ 100000 < booked := by
  have nonzero : (booked : ℚ) / 100 ≠ 0 := by
    have cast_pos : (0 : ℚ) < booked := by exact_mod_cast positive
    positivity
  have pounds : bookedCod (some booked) = some (booked / 100 : ℚ) := if_pos positive
  -- The last of the reports decides.
  have recorded : ∀ (reports : List Report) (before : Shipment),
      before.codAmount = cents (booked / 100) →
        (reports.foldl (Report.apply (some (booked / 100 : ℚ))) before).codAmount =
          cents (booked / 100) := by
    intro reports
    induction reports with
    | nil => exact fun _ here => here
    | cons next rest ih => exact fun before _ => ih _ (Report.apply_codAmount nonzero before next)
  rw [pounds, List.foldl_cons, recorded repeats _ (Report.apply_codAmount nonzero shipment report)]
  exact cents_booked_iff positive

theorem cod_round_trip_iff_fifteen_hundred :
    0 < 150000 ∧ ((([Report.callback "" "" 3, .carrierStatus "bosta" "DELIVERED" "" "" 4]).foldl
      (Report.apply (bookedCod (some 150000))) { codAmount := 150000 }).codAmount = 150000 ↔
        (100000 : Int) < 150000) :=
  ⟨by decide, cod_round_trip_iff { codAmount := 150000 } (by decide) (.callback "" "" 3)
    [.carrierStatus "bosta" "DELIVERED" "" "" 4]⟩

/-- Five hundred pounds come back as five hundred cents. -/
theorem five_hundred_pounds :
    ((Report.callback "" "Bosta state: DELIVERED" 3).apply (bookedCod (some 50000))
      { codAmount := 50000 }).codAmount = 500 ∧ (500 : Int) ≠ 50000 := by
  have pounds : bookedCod (some 50000) = some 500 := by
    rw [bookedCod, if_pos (by decide)]
    norm_num
  have whole : cents 500 = 500 := by
    rw [cents, if_neg (by norm_num)]
    exact truncate_intCast 500
  rw [pounds, Report.apply_codAmount (by norm_num), whole]
  exact ⟨rfl, by decide⟩

end Numu.Shipping.Exact
