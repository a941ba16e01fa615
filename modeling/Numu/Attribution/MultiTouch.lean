import Mathlib.Data.List.Sort
import Numu.Attribution.AttributionModels
import Numu.Foundation.Table
import Numu.Invoices.TaxResolver
import Numu.Stock.StockService

/-!
The multi-touch report: the revenue of a window's orders, split over each customer's touches and
added up by channel and by campaign.
-/

namespace Numu.Attribution
open Numu.Orders (Time UUID)
open Numu.Binary64 (nearest roundHalfEven)
open Numu.Invoices (strip)
open Numu.Stock (TextCase)

def maxOrdersPerRun : Nat := 5000
def maxTouchesPerOrder : Nat := 50

/-- An order of the window that is not cancelled, refunded, returned or unpaid. -/
structure AttributedOrder where
  customerId : Option UUID
  total : Int
  createdAt : Time

/-- `_channel_label`. -/
def channelLabel [TextCase] (touch : Touch) : String :=
  let label := TextCase.lower (strip (touch.utmSource.getD ""))
  if label = "" then "direct" else label

/-- `_touches_at_or_before`: of too many touches, the most recent ones. -/
def touchesAtOrBefore (touches : List Touch) (cutoff : Time) (limit : Nat) : List Touch :=
  let filtered := touches.filter fun touch => touch.ts ≤ cutoff
  filtered.drop (filtered.length - limit)

/-- `credit[key] = credit.get(key, 0) + amount`. -/
def addCredit {κ : Type} [DecidableEq κ] (credit : Table κ Int) (key : κ) (amount : Int) :
    Table κ Int :=
  credit.set key ((credit.get? key).getD 0 + amount)

/-- What the loop over the orders has added up. -/
structure Credited where
  channelCredit : Table String Int := .empty
  campaignCredit : Table UUID Int := .empty
  totalRevenue : Int := 0
  attributedOrders : Nat := 0

section
variable [TextCase]

def creditTouch (credited : Credited) (credit : Touch × Int) : Credited :=
  if credit.2 = 0 then credited
  else
    { credited with
      channelCredit := addCredit credited.channelCredit (channelLabel credit.1) credit.2
      campaignCredit :=
        match credit.1.campaignId with
        | none => credited.campaignCredit
        | some campaignId => addCredit credited.campaignCredit campaignId credit.2 }

variable [ExpFunction]

/-- One round of the loop. `history` is what was fetched of each customer's touches. -/
def creditOrder (model : AttributionModel) (history : UUID → List Touch) (credited : Credited)
    (order : AttributedOrder) : Credited :=
  if order.total ≤ 0 then credited
  else
    let counted := { credited with
      totalRevenue := credited.totalRevenue + order.total
      attributedOrders := credited.attributedOrders + 1 }
    let customerTouches := (order.customerId.map history).getD []
    let touches := touchesAtOrBefore customerTouches order.createdAt maxTouchesPerOrder
    if touches = [] then
      { counted with channelCredit := addCredit counted.channelCredit "direct" order.total }
    else
      (attributeCredit model touches order.total (some order.createdAt)).foldl creditTouch counted

end

structure ChannelCredit where
  channel : String
  creditCents : Int
  creditPct : ℚ
  deriving DecidableEq

structure CampaignCredit where
  campaignId : UUID
  campaignName : String
  creditCents : Int
  creditPct : ℚ
  deriving DecidableEq

structure Report where
  model : AttributionModel
  totalOrders : Nat
  totalRevenueCents : Int
  byChannel : List ChannelCredit
  byCampaign : List CampaignCredit

/-- `round((part / total) * 100, 2)`. -/
def pct (part total : Int) : ℚ :=
  if 0 < total then
    let percent := nearest (nearest (part / total) * 100)
    nearest (roundHalfEven (percent * 100) / 100)
  else 0

/-- `AttributionWindowTooLargeError`. -/
def windowTooLarge : String :=
  s!"window contains > {maxOrdersPerRun} orders — narrow the date range and try again"

/-- `compute_multi_touch_attribution` on what its queries return. -/
def computeMultiTouchAttribution [TextCase] [ExpFunction] (orders : List AttributedOrder)
    (history : UUID → List Touch) (campaignNames : UUID → Option String)
    (model : AttributionModel) : Except String Report :=
  if maxOrdersPerRun < orders.length then .error windowTooLarge
  else
    let credited := orders.foldl (creditOrder model history) {}
    let channels := credited.channelCredit.rows.map fun row : String × Int =>
      (⟨row.1, row.2, pct row.2 credited.totalRevenue⟩ : ChannelCredit)
    let campaigns := credited.campaignCredit.rows.map fun row : UUID × Int =>
      (⟨row.1, (campaignNames row.1).getD "(unknown)", row.2, pct row.2 credited.totalRevenue⟩ :
        CampaignCredit)
    .ok {
      model := model
      totalOrders := credited.attributedOrders
      totalRevenueCents := credited.totalRevenue
      byChannel := channels.mergeSort fun first second => second.creditCents ≤ first.creditCents
      byCampaign := campaigns.mergeSort fun first second =>
        second.creditCents ≤ first.creditCents }

namespace Credited

/-- What the channels have been credited with. -/
def channelTotal (credited : Credited) : Int := credited.channelCredit.sumOf id

theorem sumOf_addCredit {κ : Type} [DecidableEq κ] (credit : Table κ Int) (key : κ) (amount : Int) :
    (addCredit credit key amount).sumOf id = credit.sumOf id + amount := by
  rw [addCredit]
  cases found : credit.get? key with
  | none =>
      rw [Table.sumOf_set_of_absent credit found]
      simp
  | some old =>
      have moved := Table.sumOf_set_of_present credit found (old + amount) id
      simp only [id_eq, Option.getD_some] at moved ⊢
      omega

section
variable [TextCase]

theorem creditTouch_channelTotal (credited : Credited) (credit : Touch × Int) :
    (creditTouch credited credit).channelTotal = credited.channelTotal + credit.2 := by
  unfold creditTouch
  split
  · rename_i nothing
    rw [nothing, add_zero]
  · exact sumOf_addCredit _ _ _

theorem creditTouches_channelTotal (credited : Credited) (credits : List (Touch × Int)) :
    (credits.foldl creditTouch credited).channelTotal =
      credited.channelTotal + (credits.map Prod.snd).sum := by
  induction credits generalizing credited with
  | nil => simp
  | cons credit rest ih =>
      rw [List.foldl_cons, ih, creditTouch_channelTotal, List.map_cons, List.sum_cons, add_assoc]

/-- The counters of the orders are not touched by the credits. -/
theorem creditTouches_counters (credited : Credited) (credits : List (Touch × Int)) :
    (credits.foldl creditTouch credited).totalRevenue = credited.totalRevenue ∧
      (credits.foldl creditTouch credited).attributedOrders = credited.attributedOrders := by
  induction credits generalizing credited with
  | nil => exact ⟨rfl, rfl⟩
  | cons credit rest ih =>
      rw [List.foldl_cons, (ih _).1, (ih _).2, creditTouch]
      split <;> exact ⟨rfl, rfl⟩

variable [ExpFunction]

theorem creditOrder_idle {order : AttributedOrder} (nothing : order.total ≤ 0)
    (model : AttributionModel) (history : UUID → List Touch) (credited : Credited) :
    creditOrder model history credited order = credited := by
  rw [creditOrder, if_pos nothing]

/-- A positive total is added to the channels and to the revenue alike. -/
theorem creditOrder_totals {order : AttributedOrder} (positive : 0 < order.total)
    (model : AttributionModel) (history : UUID → List Touch) (credited : Credited) :
    (creditOrder model history credited order).channelTotal =
        credited.channelTotal + order.total ∧
      (creditOrder model history credited order).totalRevenue =
        credited.totalRevenue + order.total ∧
      (creditOrder model history credited order).attributedOrders =
        credited.attributedOrders + 1 := by
  rw [creditOrder, if_neg (not_le.mpr positive)]
  dsimp only
  split
  · exact ⟨sumOf_addCredit _ _ _, rfl, rfl⟩
  · rename_i some_
    rw [creditTouches_channelTotal, sum_attributeCredit model some_,
      (creditTouches_counters _ _).1, (creditTouches_counters _ _).2]
    exact ⟨rfl, rfl, rfl⟩

/-- The revenue that a report is about. -/
def positiveTotals (orders : List AttributedOrder) : List Int :=
  (orders.map AttributedOrder.total).filter fun total => 0 < total

/-- After the loop, the channels and the revenue have grown by the positive totals. -/
theorem creditOrders_totals (model : AttributionModel) (history : UUID → List Touch)
    (credited : Credited) (orders : List AttributedOrder) :
    let after := orders.foldl (creditOrder model history) credited
    after.channelTotal = credited.channelTotal + (positiveTotals orders).sum ∧
      after.totalRevenue = credited.totalRevenue + (positiveTotals orders).sum ∧
      after.attributedOrders = credited.attributedOrders + (positiveTotals orders).length := by
  induction orders generalizing credited with
  | nil => simp [positiveTotals]
  | cons order rest ih =>
      rw [List.foldl_cons]
      by_cases positive : 0 < order.total
      · obtain ⟨channels, revenue, counted⟩ := creditOrder_totals positive model history credited
        obtain ⟨laterChannels, laterRevenue, laterCounted⟩ :=
          ih (creditOrder model history credited order)
        have front : positiveTotals (order :: rest) = order.total :: positiveTotals rest := by
          simp [positiveTotals, positive]
        rw [front, List.sum_cons, List.length_cons]
        dsimp only
        rw [laterChannels, laterRevenue, laterCounted, channels, revenue, counted]
        exact ⟨add_assoc _ _ _, add_assoc _ _ _, by omega⟩
      · have skipped : positiveTotals (order :: rest) = positiveTotals rest := by
          simp [positiveTotals, positive]
        rw [creditOrder_idle (not_lt.mp positive), skipped]
        exact ih credited

end
end Credited

/-- The figures of a report that the choice of the model is not about. -/
def Report.totals (report : Report) : Nat × Int × Int :=
  (report.totalOrders, report.totalRevenueCents,
    (report.byChannel.map ChannelCredit.creditCents).sum)

/-- Every report has the positive totals for its revenue, and the same sum for its channels. -/
theorem report_totals [TextCase] [ExpFunction] {orders : List AttributedOrder}
    {history : UUID → List Touch} {campaignNames : UUID → Option String}
    {model : AttributionModel} {report : Report}
    (ok : computeMultiTouchAttribution orders history campaignNames model = .ok report) :
    report.totals = ((Credited.positiveTotals orders).length, (Credited.positiveTotals orders).sum,
      (Credited.positiveTotals orders).sum) := by
  unfold computeMultiTouchAttribution at ok
  split at ok
  · cases ok
  · cases ok
    obtain ⟨channels, revenue, counted⟩ := Credited.creditOrders_totals model history {} orders
    have sorted := ((List.mergeSort_perm
      (((orders.foldl (creditOrder model history) {}).channelCredit.rows.map fun row =>
        (⟨row.1, row.2, pct row.2 (orders.foldl (creditOrder model history) {}).totalRevenue⟩ :
          ChannelCredit))) fun first second => second.creditCents ≤ first.creditCents).map
      ChannelCredit.creditCents).sum_eq
    rw [List.map_map] at sorted
    have start : Credited.channelTotal {} = 0 := rfl
    rw [start, zero_add] at channels
    rw [zero_add] at revenue counted
    rw [Report.totals]
    dsimp only
    rw [sorted, revenue, counted]
    exact congrArg _ (congrArg _ channels)

/-- For every set of orders, every history and every model: unless the window is refused, the
credits of the channels add up to the revenue, which is the sum of the positive totals, and any
other model reports the same totals. -/
theorem credits_conserve_revenue [TextCase] [ExpFunction] (orders : List AttributedOrder)
    (history : UUID → List Touch) (campaignNames : UUID → Option String)
    (model : AttributionModel) :
    match computeMultiTouchAttribution orders history campaignNames model with
    | .error _ => maxOrdersPerRun < orders.length
    | .ok report =>
        (report.byChannel.map ChannelCredit.creditCents).sum = report.totalRevenueCents ∧
          report.totalRevenueCents = ((orders.map AttributedOrder.total).filter (0 < ·)).sum ∧
          ∀ other, ∃ otherReport,
            computeMultiTouchAttribution orders history campaignNames other = .ok otherReport ∧
              otherReport.totals = report.totals := by
  cases computed : computeMultiTouchAttribution orders history campaignNames model with
  | error message =>
      unfold computeMultiTouchAttribution at computed
      split at computed
      · assumption
      · cases computed
  | ok report =>
      have totals := report_totals computed
      have parts := totals
      simp only [Report.totals, Prod.mk.injEq] at parts
      obtain ⟨-, revenue, channels⟩ := parts
      refine ⟨channels.trans revenue.symm, revenue, fun other => ?_⟩
      have within : ¬ maxOrdersPerRun < orders.length := by
        intro tooMany
        rw [computeMultiTouchAttribution, if_pos tooMany] at computed
        cases computed
      obtain ⟨otherReport, recomputed⟩ : ∃ otherReport,
          computeMultiTouchAttribution orders history campaignNames other = .ok otherReport := by
        rw [computeMultiTouchAttribution, if_neg within]
        exact ⟨_, rfl⟩
      exact ⟨otherReport, recomputed, (report_totals recomputed).trans totals.symm⟩

end Numu.Attribution
