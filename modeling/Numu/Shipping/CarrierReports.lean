import Mathlib.Logic.Function.Basic
import Numu.Foundation.Run
import Numu.Shipping.Shipment

/-!
The paths on which a carrier's report reaches a shipment. The callbacks, the common webhook and the
events that a shipping app pushes hold the row's lock from their read to their commit; the poll and
the imported sheet read it without one, and their update stores every column of the copy.
-/

namespace Numu.Shipping
open Numu.Orders (Time)
open Numu.Stock (TextCase)
open Numu.Invoices (UpperCase strip)

/-- The shipment's part of a carrier's own callback. -/
def carrierCallback (name : String) (statusMap : List (String × ShipmentStatus))
    (failedState : String) (onTheWay : List String) (shipment : Shipment) (state : String)
    (codAmount : Option CodAmount) (failureReason : String) (now : Time) : Option Shipment :=
  let rejected :=
    if state = "RETURNED" then shipment.rejectCod "Returned by carrier" now
    else if state = failedState then shipment.rejectCod failureReason now
    else shipment
  let description :=
    if state ∈ onTheWay then s!"{name} state: {state}" else s!"Unknown state: {state}"
  updateShipmentStatus statusMap failedState state rejected codAmount failureReason description now

def bostaCallback : Shipment → String → Option CodAmount → String → Time → Option Shipment :=
  carrierCallback "Bosta" bostaStatusMap "DELIVERY_FAILED" ["IN_WAREHOUSE", "IN_TRANSIT"]

def mylerzCallback : Shipment → String → Option CodAmount → String → Time → Option Shipment :=
  carrierCallback "Mylerz" mylerzStatusMap "FAILED" ["IN_TRANSIT"]

/-- The shipment's part of the webhook that serves every carrier. -/
def carrierWebhook [UpperCase] [TextCase] (carrier rawStatus description : String)
    (codAmount : Option FloatValue) (shipment : Shipment) (now : Time) : Option Shipment :=
  match mapCarrierStatus carrier rawStatus with
  | none => some shipment
  | some status =>
      applyCarrierStatus shipment (TextCase.lower (strip carrier)) rawStatus description
        (codAmount.map .float) "" status now

/-- What J&T's callback notes on the shipment before the status is applied. -/
def jtMarked (shipment : Shipment) (status : ShipmentStatus) (reason : String) (now : Time) :
    Shipment :=
  if shipment.codAmount = 0 then shipment
  else if status = .failed ∨ status = .returned then
    { shipment with codRejection := some ⟨reason, now⟩ }
  else if status = .delivered then
    { shipment with codCollected := true, codCollectedAt := some now }
  else shipment

def jtCallback [UpperCase] (rawStatus description : String) (shipment : Shipment) (now : Time) :
    Option Shipment :=
  match mapStatus jtStatusMap rawStatus with
  | none => some shipment
  | some status =>
      if shipment.status = status then some shipment
      else
        let reason := orElse description rawStatus
        applyCarrierStatus (jtMarked shipment status reason now) "jt" rawStatus description none
          reason status now

/-- What a shipping app's event notes on the shipment before the status is applied. -/
def appMarked (shipment : Shipment) (status : ShipmentStatus) (codCollected : Bool) (now : Time) :
    Shipment :=
  if status = .delivered ∧ codCollected then
    { shipment with
      codCollected := shipment.codAmount ≠ 0
      codCollectedAt := if shipment.codAmount ≠ 0 then some now else none }
  else shipment

/-- The shipment's part of an event that a shipping app pushes. -/
def pushCarrierEvent (carrier : String) (status : Option ShipmentStatus) (description : String)
    (codCollected : Bool) (shipment : Shipment) (now : Time) : Option Shipment :=
  if shipment.carrier ≠ carrier then none
  else
    match status with
    | none => some shipment
    | some newStatus =>
        if newStatus = shipment.status then some shipment
        -- `SHIPMENT_TERMINAL`
        else if shipment.isTerminal then none
        else
          applyCarrierStatus (appMarked shipment newStatus codCollected now) carrier
            newStatus.value description none description newStatus now

/-- `status_map` of the poll. -/
def syncStatusMap : List (String × ShipmentStatus) :=
  [("pending", .created), ("picked_up", .pickedUp), ("in_transit", .inTransit),
    ("out_for_delivery", .outForDelivery), ("delivered", .delivered), ("returned", .returned),
    ("cancelled", .cancelled), ("failed", .failed)]

def syncedStatus [UpperCase] [TextCase] (carrier tracked : String) : Option ShipmentStatus :=
  (syncStatusMap.lookup tracked).or (mapCarrierStatus carrier tracked)

/-- What the poll stores for a shipment on its list. -/
def syncShipment [UpperCase] [TextCase] (shipment : Shipment) (tracked : String) (now : Time) :
    Option Shipment :=
  match syncedStatus shipment.carrier tracked with
  | none => none
  | some newStatus =>
      if newStatus = shipment.status then none
      else
        applyCarrierStatus shipment shipment.carrier tracked
          s!"Synced from {shipment.carrier} API: {tracked}" none "" newStatus now

/-- `DEFAULT_STATUS_ALIASES`. -/
def defaultStatusAliases : List (String × ShipmentStatus) :=
  [("delivered", .delivered), ("done", .delivered), ("success", .delivered),
    ("تم التسليم", .delivered), ("تم", .delivered), ("out_for_delivery", .outForDelivery),
    ("out for delivery", .outForDelivery), ("جاري التوصيل", .outForDelivery),
    ("in_transit", .inTransit), ("in transit", .inTransit), ("في الطريق", .inTransit),
    ("picked_up", .pickedUp), ("picked up", .pickedUp), ("تم الاستلام", .pickedUp),
    ("returned", .returned), ("return", .returned), ("مرتجع", .returned), ("failed", .failed),
    ("failure", .failed), ("فشل", .failed), ("لم يتم التسليم", .failed), ("cancelled", .cancelled),
    ("canceled", .cancelled), ("ملغي", .cancelled)]

def ShipmentStatus.all : List ShipmentStatus :=
  [.pending, .created, .pickedUp, .inTransit, .outForDelivery, .delivered, .returned, .cancelled,
    .failed]

/-- `" ".join(text.split())`. -/
def spaced (text : String) : String :=
  " ".intercalate (((text.toList.splitOnP IntegerText.isSpace).filter (· ≠ [])).map String.ofList)

def resolveStatus [TextCase] (raw : String) : Option ShipmentStatus :=
  if raw = "" then none
  else
    let key := spaced (TextCase.lower (strip raw))
    (defaultStatusAliases.lookup key).or (ShipmentStatus.all.find? fun status => status.value = key)

/-- What a row of an imported sheet stores. -/
def applySheetRow [TextCase] (shipment : Shipment) (rawStatus note : String)
    (codAmount : Option CodAmount) (now : Time) : Option Shipment :=
  match resolveStatus (strip rawStatus) with
  | none => none
  | some resolved =>
      applyCarrierStatus shipment shipment.carrier (strip rawStatus) note codAmount "" resolved now

/-- A shipment and the copies of it that polls and imports hold. -/
structure ReportRun where
  row : Shipment
  copies : Nat → Option Shipment := fun _ => none

inductive ReportLabel where
  | bosta (state : String) (codAmount : Option CodAmount) (failureReason : String) (now : Time)
  | mylerz (state : String) (codAmount : Option CodAmount) (failureReason : String) (now : Time)
  | carrier (carrier rawStatus description : String) (codAmount : Option FloatValue) (now : Time)
  | jt (rawStatus description : String) (now : Time)
  | app (carrier : String) (status : Option ShipmentStatus) (description : String)
      (codCollected : Bool) (now : Time)
  /-- A poll lists the shipment if it is active. -/
  | list (task : Nat)
  | poll (task : Nat) (tracked : String) (now : Time)
  /-- An import looks the shipment up. -/
  | lookUp (task : Nat)
  | sheet (task : Nat) (rawStatus note : String) (codAmount : Option CodAmount) (now : Time)

namespace ReportRun

/-- A handler that raises or has nothing to apply stores nothing. -/
def stored (run : ReportRun) (after : Option Shipment) : ReportRun :=
  { run with row := after.getD run.row }

/-- The update of a task that held a copy. -/
def storedCopy (run : ReportRun) (task : Nat) (change : Shipment → Option Shipment) : ReportRun where
  row := ((run.copies task).bind change).getD run.row
  copies := Function.update run.copies task none

def step [UpperCase] [TextCase] (run : ReportRun) : ReportLabel → ReportRun
  | .bosta state codAmount failureReason now =>
      run.stored (bostaCallback run.row state codAmount failureReason now)
  | .mylerz state codAmount failureReason now =>
      run.stored (mylerzCallback run.row state codAmount failureReason now)
  | .carrier carrier rawStatus description codAmount now =>
      run.stored (carrierWebhook carrier rawStatus description codAmount run.row now)
  | .jt rawStatus description now => run.stored (jtCallback rawStatus description run.row now)
  | .app carrier status description codCollected now =>
      run.stored (pushCarrierEvent carrier status description codCollected run.row now)
  | .list task =>
      { run with
        copies := Function.update run.copies task (if run.row.isTerminal then none else some run.row) }
  | .poll task tracked now => run.storedCopy task fun copy => syncShipment copy tracked now
  | .lookUp task => { run with copies := Function.update run.copies task (some run.row) }
  | .sheet task rawStatus note codAmount now =>
      run.storedCopy task fun copy => applySheetRow copy rawStatus note codAmount now

/-- What a report enters: a status, on the copy that its handler holds and has marked. -/
structure Entry where
  copy : Shipment
  status : ShipmentStatus
  codAmount : Option CodAmount := none
  now : Time

/-- The status and the COD columns of a shipment. -/
structure Columns where
  status : ShipmentStatus
  codCollected : Bool
  codAmount : Int
  codCollectedAt : Option Time

namespace Entry

/-- The amount that a delivery collects. -/
def collects (entry : Entry) : Option CodAmount :=
  if entry.status = .delivered then entry.codAmount.filter CodAmount.truthy else none

/-- An amount collected is a number of cents. -/
def Readable (entry : Entry) : Prop := ∀ amount ∈ entry.collects, amount.cents ≠ none

/-- What the entry leaves. -/
def columns (entry : Entry) : Option Columns :=
  match entry.collects with
  | none =>
      some ⟨entry.status, entry.copy.codCollected, entry.copy.codAmount, entry.copy.codCollectedAt⟩
  | some amount => amount.cents.map fun cents => ⟨entry.status, true, cents, some entry.now⟩

end Entry

def columns (shipment : Shipment) : Columns :=
  ⟨shipment.status, shipment.codCollected, shipment.codAmount, shipment.codCollectedAt⟩

section Entering
variable {shipment copy : Shipment} {status : ShipmentStatus} {codAmount : Option CodAmount}
  {now : Time}

theorem markDelivered_columns :
    (copy.markDelivered codAmount now).map columns =
      Entry.columns ⟨copy, .delivered, codAmount, now⟩ := by
  cases codAmount with
  | none => rfl
  | some amount =>
      rw [Shipment.markDelivered, Entry.columns, Entry.collects, if_pos rfl]
      by_cases truthy : amount.truthy = true
      · simp only [truthy, if_true, Option.filter_some, Option.map_map]
        rfl
      · simp only [truthy, Bool.false_eq_true, if_false, Option.filter_some, Option.map_some]
        rfl

/-- Only a delivery touches the COD columns. -/
theorem entered_columns (other : status ≠ .delivered)
    (kept : columns shipment = { columns copy with status := status }) :
    (some shipment).map columns = Entry.columns ⟨copy, status, codAmount, now⟩ := by
  rw [Option.map_some, kept, Entry.columns, Entry.collects, if_neg other]
  rfl

theorem applyCarrierStatus_columns (copy : Shipment) (status : ShipmentStatus)
    (codAmount : Option CodAmount) (now : Time)
    (carrier rawStatus description failureReason : String) :
    (applyCarrierStatus copy carrier rawStatus description codAmount failureReason status now).map
        columns =
      Entry.columns ⟨copy, status, codAmount, now⟩ := by
  cases status with
  | delivered => exact markDelivered_columns
  | pickedUp => exact entered_columns (by decide) rfl
  | failed => exact entered_columns (by decide) rfl
  | returned => exact entered_columns (by decide) rfl
  | cancelled => exact entered_columns (by decide) rfl
  | outForDelivery => exact entered_columns (by decide) rfl
  | pending => exact entered_columns (by decide) rfl
  | created => exact entered_columns (by decide) rfl
  | inTransit => exact entered_columns (by decide) rfl

/-- The words that a carrier's callback asks for mean in its map what the callback does. -/
structure Named (statusMap : List (String × ShipmentStatus)) (failedState : String) : Prop where
  pickedUp : statusMap.lookup "PICKED_UP" = some .pickedUp
  failed : statusMap.lookup failedState = some .failed
  returned : statusMap.lookup "RETURNED" = some .returned
  cancelled : statusMap.lookup "CANCELLED" = some .cancelled
  outForDelivery : statusMap.lookup "OUT_FOR_DELIVERY" = some .outForDelivery
  delivered : ∀ state, statusMap.lookup state = some .delivered ↔ state = "DELIVERED"

theorem updateShipmentStatus_columns {statusMap : List (String × ShipmentStatus)}
    {failedState state : String} (named : Named statusMap failedState)
    (means : statusMap.lookup state = some status) (failureReason description : String) :
    (updateShipmentStatus statusMap failedState state copy codAmount failureReason description
        now).map columns =
      Entry.columns ⟨copy, status, codAmount, now⟩ := by
  rw [updateShipmentStatus, means]
  dsimp only
  split_ifs with delivered pickedUp failed returned cancelled outForDelivery
  · rw [(named.delivered state).mpr delivered, Option.some.injEq] at means
    rw [← means]
    exact markDelivered_columns
  · rw [pickedUp, named.pickedUp, Option.some.injEq] at means
    rw [← means]
    exact entered_columns (by decide) rfl
  · rw [failed, named.failed, Option.some.injEq] at means
    rw [← means]
    exact entered_columns (by decide) rfl
  · rw [returned, named.returned, Option.some.injEq] at means
    rw [← means]
    exact entered_columns (by decide) rfl
  · rw [cancelled, named.cancelled, Option.some.injEq] at means
    rw [← means]
    exact entered_columns (by decide) rfl
  · rw [outForDelivery, named.outForDelivery, Option.some.injEq] at means
    rw [← means]
    exact entered_columns (by decide) rfl
  · have other : status ≠ .delivered := by
      rintro rfl
      exact delivered ((named.delivered state).mp means)
    exact entered_columns other rfl

theorem columns_of_copy {other : Shipment} (same : columns copy = columns other) :
    Entry.columns ⟨copy, status, codAmount, now⟩ =
      Entry.columns ⟨other, status, codAmount, now⟩ := by
  rw [columns, columns, Columns.mk.injEq] at same
  rcases same with ⟨-, collected, amount, time⟩
  simp only [Entry.columns, Entry.collects, collected, amount, time]

theorem rejectCod_columns (reason : String) (now : Time) :
    columns (shipment.rejectCod reason now) = columns shipment := by
  unfold Shipment.rejectCod
  split <;> rfl

theorem carrierCallback_columns {statusMap : List (String × ShipmentStatus)}
    {failedState state : String} (named : Named statusMap failedState) (name : String)
    (onTheWay : List String) (failureReason : String) :
    (carrierCallback name statusMap failedState onTheWay shipment state codAmount failureReason
        now).map columns =
      match statusMap.lookup state with
      | none => some (columns shipment)
      | some status => Entry.columns ⟨shipment, status, codAmount, now⟩ := by
  have rejected :
      columns (if state = "RETURNED" then shipment.rejectCod "Returned by carrier" now
        else if state = failedState then shipment.rejectCod failureReason now else shipment) =
      columns shipment := by
    split_ifs
    · exact rejectCod_columns _ now
    · exact rejectCod_columns _ now
    · rfl
  cases means : statusMap.lookup state with
  | none =>
      rw [carrierCallback, updateShipmentStatus, means]
      exact congrArg some rejected
  | some status =>
      rw [carrierCallback, updateShipmentStatus_columns named means]
      exact columns_of_copy rejected

end Entering

theorem delivered_iff_of_listed {statusMap : List (String × ShipmentStatus)}
    (only : ∀ pair ∈ statusMap, pair.2 = .delivered → pair.1 = "DELIVERED")
    (has : statusMap.lookup "DELIVERED" = some .delivered) (state : String) :
    statusMap.lookup state = some .delivered ↔ state = "DELIVERED" := by
  constructor
  · intro means
    obtain ⟨before, after, split_, -⟩ := List.lookup_eq_some_iff.mp means
    have listed : (state, .delivered) ∈ statusMap := by simp [split_]
    exact only _ listed rfl
  · rintro rfl
    exact has

theorem bosta_named : Named bostaStatusMap "DELIVERY_FAILED" where
  pickedUp := by decide
  failed := by decide
  returned := by decide
  cancelled := by decide
  outForDelivery := by decide
  delivered := delivered_iff_of_listed (by decide) (by decide)

theorem mylerz_named : Named mylerzStatusMap "FAILED" where
  pickedUp := by decide
  failed := by decide
  returned := by decide
  cancelled := by decide
  outForDelivery := by decide
  delivered := delivered_iff_of_listed (by decide) (by decide)

theorem bostaCallback_columns (shipment : Shipment) (state : String)
    (codAmount : Option CodAmount) (failureReason : String) (now : Time) :
    (bostaCallback shipment state codAmount failureReason now).map columns =
      match bostaStatusMap.lookup state with
      | none => some (columns shipment)
      | some status => Entry.columns ⟨shipment, status, codAmount, now⟩ :=
  carrierCallback_columns bosta_named "Bosta" _ failureReason

/-- Only the amount of a delivery can raise. -/
theorem bostaCallback_isSome {state : String} (other : state ≠ "DELIVERED") (shipment : Shipment)
    (codAmount : Option CodAmount) (failureReason : String) (now : Time) :
    (bostaCallback shipment state codAmount failureReason now).isSome = true := by
  have columns := bostaCallback_columns shipment state codAmount failureReason now
  rw [← Option.isSome_map, columns]
  cases means : bostaStatusMap.lookup state with
  | none => rfl
  | some status =>
      have otherStatus : status ≠ .delivered := by
        rintro rfl
        exact other ((bosta_named.delivered state).mp means)
      simp [Entry.columns, Entry.collects, otherStatus]

theorem stored_columns (run : ReportRun) (after : Option Shipment) :
    columns (run.stored after).row = (after.map columns).getD (columns run.row) := by
  cases after with
  | none => rfl
  | some after => rfl

theorem storedCopy_columns (run : ReportRun) (task : Nat) (change : Shipment → Option Shipment) :
    columns (run.storedCopy task change).row =
      ((run.copies task).bind fun copy => (change copy).map columns).getD (columns run.row) := by
  rw [storedCopy]
  cases run.copies task with
  | none => rfl
  | some copy =>
      rw [Option.bind_some, Option.bind_some]
      cases change copy with
      | none => rfl
      | some after => rfl

section Reports
variable [UpperCase] [TextCase]

/-- What a report that is neither ignored nor refused enters. -/
def entry (run : ReportRun) : ReportLabel → Option Entry
  | .bosta state codAmount _ now =>
      (bostaStatusMap.lookup state).map fun status => ⟨run.row, status, codAmount, now⟩
  | .mylerz state codAmount _ now =>
      (mylerzStatusMap.lookup state).map fun status => ⟨run.row, status, codAmount, now⟩
  | .carrier carrier rawStatus _ codAmount now =>
      (mapCarrierStatus carrier rawStatus).map fun status =>
        ⟨run.row, status, codAmount.map .float, now⟩
  | .jt rawStatus description now =>
      (mapStatus jtStatusMap rawStatus).bind fun status =>
        if run.row.status = status then none
        else
          some ⟨jtMarked run.row status (orElse description rawStatus) now, status, none, now⟩
  | .app carrier status _ codCollected now =>
      if run.row.carrier ≠ carrier ∨ run.row.isTerminal then none
      else
        status.bind fun status =>
          if status = run.row.status then none
          else some ⟨appMarked run.row status codCollected now, status, none, now⟩
  | .poll task tracked now =>
      (run.copies task).bind fun copy =>
        (syncedStatus copy.carrier tracked).bind fun status =>
          if status = copy.status then none else some ⟨copy, status, none, now⟩
  | .sheet task rawStatus _ codAmount now =>
      (run.copies task).bind fun copy =>
        (resolveStatus (strip rawStatus)).map fun status => ⟨copy, status, codAmount, now⟩
  | .list _ | .lookUp _ => none

/-- What a report does to the status and the COD columns. -/
theorem step_columns (run : ReportRun) (label : ReportLabel) :
    columns (run.step label).row =
      (((run.entry label).bind Entry.columns).getD (columns run.row)) := by
  cases label with
  | bosta state codAmount failureReason now =>
      rw [step, stored_columns, bostaCallback_columns, entry]
      cases bostaStatusMap.lookup state with
      | none => rfl
      | some status => rfl
  | mylerz state codAmount failureReason now =>
      rw [step, stored_columns, mylerzCallback, carrierCallback_columns mylerz_named, entry]
      cases mylerzStatusMap.lookup state with
      | none => rfl
      | some status => rfl
  | carrier carrier rawStatus description codAmount now =>
      rw [step, stored_columns, carrierWebhook, entry]
      cases mapCarrierStatus carrier rawStatus with
      | none => rfl
      | some status =>
          rw [applyCarrierStatus_columns]
          rfl
  | jt rawStatus description now =>
      rw [step, stored_columns, jtCallback, entry]
      cases mapStatus jtStatusMap rawStatus with
      | none => rfl
      | some status =>
          dsimp only [Option.bind_some]
          split
          · rfl
          · rw [applyCarrierStatus_columns]
            rfl
  | app carrier status description codCollected now =>
      rw [step, stored_columns, pushCarrierEvent.eq_def, entry]
      by_cases foreign : run.row.carrier ≠ carrier
      · rw [if_pos foreign, if_pos (.inl foreign)]
        rfl
      · rw [if_neg foreign]
        cases status with
        | none => cases run.row.isTerminal <;> simp [foreign]
        | some status =>
            dsimp only [Option.bind_some]
            by_cases same : status = run.row.status
            · simp [same]
            · cases terminal : run.row.isTerminal with
              | true => simp [same]
              | false =>
                  rw [if_neg same, if_neg Bool.false_ne_true, applyCarrierStatus_columns]
                  simp [same, foreign]
  | poll task tracked now =>
      rw [step, storedCopy_columns, entry, Option.bind_assoc]
      congr 2
      funext copy
      rw [syncShipment]
      cases syncedStatus copy.carrier tracked with
      | none => rfl
      | some status =>
          dsimp only [Option.bind_some]
          split
          · rfl
          · exact applyCarrierStatus_columns ..
  | sheet task rawStatus note codAmount now =>
      rw [step, storedCopy_columns, entry, Option.bind_assoc]
      congr 2
      funext copy
      rw [applySheetRow]
      cases resolveStatus (strip rawStatus) with
      | none => rfl
      | some status => exact applyCarrierStatus_columns ..
  | list task => rfl
  | lookUp task => rfl

end Reports

/-- A finished shipment is entered as what it is, and what was collected for it is entered again. -/
structure Entry.Respects (entry : Entry) (row : Shipment) : Prop where
  status : row.isTerminal = true → entry.status = row.status
  collected : row.codCollected = true →
    ∀ amount ∈ entry.collects, amount.cents = some row.codAmount
  copied : row.codCollected = true → entry.collects = none →
    entry.copy.codCollected = true ∧ entry.copy.codAmount = row.codAmount

/-- The columns of a finished shipment, and those of a collected amount, stay. -/
def Finished (before after : Columns) : Prop :=
  (before.status ∈ terminalStatuses → after.status = before.status) ∧
    (before.codCollected = true →
      (after.codCollected, after.codAmount) = (before.codCollected, before.codAmount))

theorem respects_iff (entry : Entry) (row : Shipment) :
    Finished (columns row) (entry.columns.getD (columns row)) ↔
      (entry.Readable → entry.Respects row) := by
  have terminal : row.isTerminal = true ↔ row.status ∈ terminalStatuses := decide_eq_true_iff
  rw [Entry.columns]
  cases collects : entry.collects with
  | none =>
      have readable : entry.Readable := by simp [Entry.Readable, collects]
      constructor
      · intro finished _
        refine ⟨fun final => finished.1 (terminal.mp final), by simp [collects], fun paid _ => ?_⟩
        have same := Prod.mk.inj (finished.2 paid)
        exact ⟨same.1.trans paid, same.2⟩
      · intro respects
        refine ⟨fun final => (respects readable).status (terminal.mpr final), fun paid => ?_⟩
        have same := (respects readable).copied paid collects
        exact Prod.ext (same.1.trans paid.symm) same.2
  | some amount =>
      dsimp only
      cases cents : amount.cents with
      | none =>
          have unreadable : ¬ entry.Readable := by simp [Entry.Readable, collects, cents]
          simp [Finished, unreadable]
      | some n =>
          have readable : entry.Readable := by simp [Entry.Readable, collects, cents]
          rw [Option.map_some, Option.getD_some]
          constructor
          · intro finished _
            refine ⟨fun final => finished.1 (terminal.mp final), fun paid => ?_, by simp [collects]⟩
            have same : n = row.codAmount := (Prod.mk.inj (finished.2 paid)).2
            simp [collects, cents, same]
          · intro respects
            refine ⟨fun final => (respects readable).status (terminal.mpr final), fun paid => ?_⟩
            have same := (respects readable).collected paid amount collects
            rw [cents, Option.some.injEq] at same
            exact Prod.ext paid.symm same

section Runs
variable [UpperCase] [TextCase]

/-- A report that is entered respects what is finished. -/
def KeepsFinished (run : ReportRun) (label : ReportLabel) : Prop :=
  ∀ entry ∈ run.entry label, entry.Readable → entry.Respects run.row

theorem finished_step_iff (run : ReportRun) (label : ReportLabel) :
    Finished (columns run.row) (columns (run.step label).row) ↔ run.KeepsFinished label := by
  rw [step_columns, KeepsFinished]
  cases run.entry label with
  | none => simp [Finished]
  | some entry => simpa using respects_iff entry run.row

/-- Over every sequence of reports, a finished shipment stays finished and a collected amount stays
collected exactly if each report that is entered respects what is finished. -/
theorem finished_stays_iff (run : ReportRun) (labels : List ReportLabel) :
    Run.Settles step (fun status => status ∈ terminalStatuses) (fun run => run.row.status) run
          labels ∧
        Run.Settles step (fun cod => cod.1 = true)
          (fun run => (run.row.codCollected, run.row.codAmount)) run labels ↔
      Run.Guarded step KeepsFinished run labels := by
  have both : Run.Transitions step (fun s s' => Finished (columns s.row) (columns s'.row)) run
      labels ↔ Run.Guarded step KeepsFinished run labels :=
    Run.transitions_iff_guarded (I := fun _ => True) (fun _ _ _ => trivial)
      (fun run label _ => finished_step_iff run label) trivial labels
  rw [← both, Run.settles_iff_transitions, Run.settles_iff_transitions]
  constructor
  · exact fun kept => kept.1.and kept.2
  · intro kept
    constructor
    · exact kept.imp (I := fun _ => True) (fun _ _ _ _ => trivial)
        (fun _ _ _ finished => finished.1) trivial
    · exact kept.imp (I := fun _ => True) (fun _ _ _ _ => trivial)
        (fun _ _ _ finished => finished.2) trivial

end Runs

def parcelOut : Shipment where
  status := .outForDelivery
  codAmount := 800

/-- An event from before the delivery is sent again after it. -/
theorem late_event_reopens_parcel :
    ¬ (Run.Settles (@step UpperCase.ascii TextCase.ascii) (fun status => status ∈ terminalStatuses)
          (fun run => run.row.status) { row := parcelOut }
          [.bosta "DELIVERED" (some (.int 800)) "" 10, .bosta "OUT_FOR_DELIVERY" none "" 20] ∧
        Run.Settles (@step UpperCase.ascii TextCase.ascii) (fun cod => cod.1 = true)
          (fun run => (run.row.codCollected, run.row.codAmount)) { row := parcelOut }
          [.bosta "DELIVERED" (some (.int 800)) "" 10, .bosta "OUT_FOR_DELIVERY" none "" 20]) := by
  intro finished
  have delivered := finished.1 [.bosta "DELIVERED" (some (.int 800)) "" 10]
    [.bosta "OUT_FOR_DELIVERY" none "" 20] [] rfl (by decide)
  revert delivered
  decide

end ReportRun
end Numu.Shipping
