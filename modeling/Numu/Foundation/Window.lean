import Mathlib.Algebra.Order.BigOperators.Group.List
import Mathlib.Algebra.Order.Group.Int
import Mathlib.Algebra.Ring.Int.Defs
import Mathlib.Data.List.Infix
import Mathlib.Data.List.ReduceOption
import Mathlib.Order.MinMax
import Mathlib.Order.WithBot

/-!
# Validity windows

A window is open from one instant until another; either may be missing. A set of
windows stays as it is until the next instant at which one of them opens or closes.
-/

namespace Numu

structure Window (τ : Type*) where
  opens : Option τ
  closes : Option τ

namespace Window
variable {τ : Type*}

def bounds (window : Window τ) : List τ := [window.opens, window.closes].reduceOption

theorem mem_bounds {window : Window τ} {bound : τ} :
    bound ∈ window.bounds ↔ window.opens = some bound ∨ window.closes = some bound := by
  rw [bounds, List.reduceOption_mem_iff]
  simp [eq_comm]

variable [LinearOrder τ]

def active (window : Window τ) (now : τ) : Bool :=
  window.opens.all (· ≤ now) && window.closes.all (now < ·)

/-- The first later instant at which a window opens or closes. -/
def nextChange (windows : List (Window τ)) (now : τ) : Option τ :=
  ((windows.flatMap bounds).filter (now < ·)).min?

/-- Nothing opens or closes from one instant until after another. -/
def Unchanged (windows : List (Window τ)) (now later : τ) : Prop :=
  now ≤ later ∧ ∀ next ∈ nextChange windows now, later < next

variable {windows : List (Window τ)} {window : Window τ} {now later : τ}

theorem Unchanged.bound_le_iff (unchanged : Unchanged windows now later) {bound : τ}
    (member : bound ∈ windows.flatMap bounds) : bound ≤ later ↔ bound ≤ now := by
  constructor
  · intro reached
    by_contra future
    have ahead : bound ∈ (windows.flatMap bounds).filter (now < ·) :=
      List.mem_filter.mpr ⟨member, decide_eq_true (not_le.mp future)⟩
    rcases first : nextChange windows now with _ | next
    · rw [nextChange, List.min?_eq_none_iff] at first
      rw [first] at ahead
      cases ahead
    · have least := (List.min?_eq_some_iff.mp first).2 bound ahead
      have before := unchanged.2 next first
      exact absurd (lt_of_lt_of_le before least) (not_lt.mpr reached)
  · exact fun past => le_trans past unchanged.1

/-- Each of the windows is open at the later instant if it is open now. -/
theorem Unchanged.active_eq (unchanged : Unchanged windows now later)
    (member : window ∈ windows) : window.active later = window.active now := by
  have same : ∀ bound ∈ window.bounds, (bound ≤ later ↔ bound ≤ now) := fun bound inside =>
    unchanged.bound_le_iff (List.mem_flatMap.mpr ⟨window, member, inside⟩)
  have opening : window.opens.all (· ≤ later) = window.opens.all (· ≤ now) := by
    cases opens : window.opens with
    | none => rfl
    | some bound => exact decide_eq_decide.mpr (same bound (mem_bounds.mpr (.inl opens)))
  have closing : window.closes.all (later < ·) = window.closes.all (now < ·) := by
    cases closes : window.closes with
    | none => rfl
    | some bound =>
        refine decide_eq_decide.mpr ?_
        rw [← not_le, ← not_le]
        exact not_congr (same bound (mem_bounds.mpr (.inr closes)))
  rw [active, active, opening, closing]

end Window
end Numu

/-!
# Sliding windows

Events happen at instants and have values. A cap bounds the values in every
window of one length, wherever it starts.
-/

namespace Numu.SlidingWindow

variable {ε : Type*} (time : ε → Nat) (value : ε → Int) (span : Nat)

/-- The events of the closed window that starts at an instant. -/
def window (events : List ε) (start : Nat) : List ε :=
  events.filter fun event => start ≤ time event && time event ≤ start + span

def windowSum (events : List ε) (start : Nat) : Int :=
  ((window time span events start).map value).sum

def Within (cap : Int) (events : List ε) : Prop :=
  ∀ start, windowSum time value span events start ≤ cap

variable {time value span} {events : List ε} {new : ε} {cap : Int}

theorem mem_window {event : ε} {start : Nat} :
    event ∈ window time span events start ↔
      event ∈ events ∧ start ≤ time event ∧ time event ≤ start + span := by
  simp [window]

/-- Events that all count for one are counted. -/
theorem windowSum_one (start : Nat) :
    windowSum time (fun _ => 1) span events start = (window time span events start).length := by
  simp [windowSum]

/-- A narrower selection of non-negative values has a smaller sum. -/
theorem sum_filter_le {p q : ε → Bool} (narrower : ∀ event ∈ events, p event → q event)
    (nonneg : ∀ event ∈ events, 0 ≤ value event) :
    ((events.filter p).map value).sum ≤ ((events.filter q).map value).sum := by
  induction events with
  | nil => simp
  | cons head rest ih =>
      have later := ih (fun event member => narrower event (List.mem_cons_of_mem _ member))
        (fun event member => nonneg event (List.mem_cons_of_mem _ member))
      have value_nonneg := nonneg head List.mem_cons_self
      have kept := narrower head List.mem_cons_self
      by_cases first : p head = true
      · rw [List.filter_cons_of_pos first, List.filter_cons_of_pos (kept first)]
        simp only [List.map_cons, List.sum_cons]
        omega
      · rw [List.filter_cons_of_neg first]
        by_cases second : q head = true
        · rw [List.filter_cons_of_pos second]
          simp only [List.map_cons, List.sum_cons]
          omega
        · rw [List.filter_cons_of_neg second]
          exact later

/-- Of the windows that reach an instant with nothing after it, the one that ends there holds
the most. -/
theorem windowSum_le_trailing {now start : Nat} (reaches : now ≤ start + span)
    (past : ∀ event ∈ events, time event ≤ now) (nonneg : ∀ event ∈ events, 0 ≤ value event) :
    windowSum time value span events start ≤ windowSum time value span events (now - span) := by
  apply sum_filter_le _ nonneg
  intro event member inside
  have before := past event member
  simp only [Bool.and_eq_true, decide_eq_true_eq] at inside ⊢
  omega

theorem windowSum_append (start : Nat) :
    windowSum time value span (events ++ [new]) start =
      windowSum time value span events start +
        if start ≤ time new ∧ time new ≤ start + span then value new else 0 := by
  simp only [windowSum, window, List.filter_append, List.map_append, List.sum_append]
  by_cases inside : start ≤ time new ∧ time new ≤ start + span
  · simp [inside]
  · have out : (decide (start ≤ time new) && decide (time new ≤ start + span)) = false := by
      simpa using inside
    rw [if_neg inside, List.filter_singleton, out]
    simp

/-- A new last event keeps the cap when the window that ends with it has room for it. -/
theorem within_append (within : Within time value span cap events)
    (past : ∀ event ∈ events, time event ≤ time new)
    (nonneg : ∀ event ∈ events, 0 ≤ value event)
    (room : windowSum time value span events (time new - span) + value new ≤ cap) :
    Within time value span cap (events ++ [new]) := by
  intro start
  rw [windowSum_append]
  split
  · rename_i inside
    have trailing : windowSum time value span events start ≤
        windowSum time value span events (time new - span) :=
      windowSum_le_trailing inside.2 past nonneg
    omega
  · have before := within start
    omega

end Numu.SlidingWindow

/-!
# Intervals with missing ends

The ends stand in the order with a bottom and a top: a missing lower end is the
bottom, an end that nothing reaches the top, and the other way round above.
-/

namespace Numu

structure Interval (α : Type*) where
  lo : WithBot (WithTop α)
  hi : WithBot (WithTop α)

namespace Interval

variable {α : Type*}

/-- An element among the ends. -/
def point (x : α) : WithBot (WithTop α) := ((x : WithTop α) : WithBot (WithTop α))

/-- An end is the bottom, an element or the top. -/
theorem end_cases (e : WithBot (WithTop α)) : e = ⊥ ∨ (∃ x, e = point x) ∨ e = ⊤ := by
  cases e with
  | bot => exact Or.inl rfl
  | coe e =>
      cases e with
      | top => exact Or.inr (Or.inr rfl)
      | coe x => exact Or.inr (Or.inl ⟨x, rfl⟩)

variable [LinearOrder α]

theorem point_le_point {x y : α} : point x ≤ point y ↔ x ≤ y := by
  rw [point, point, WithBot.coe_le_coe, WithTop.coe_le_coe]

def Holds (interval : Interval α) (x : α) : Prop :=
  interval.lo ≤ point x ∧ point x ≤ interval.hi

variable {inner outer : Interval α}

/-- Below an element of both intervals the inner one has no end of its own. -/
theorem lo_le_of_subset [NoMinOrder α] (subset : ∀ x, inner.Holds x → outer.Holds x) {x : α}
    (here : inner.Holds x) : outer.lo ≤ inner.lo := by
  rcases end_cases inner.lo with bottom | ⟨lowest, same⟩ | top
  · rcases end_cases outer.lo with bottom' | ⟨bound, same'⟩ | top'
    · rw [bottom']
      exact bot_le
    · rcases exists_lt bound with ⟨below, lower⟩
      have under : point below ≤ inner.hi := by
        have reach := (subset x here).1
        rw [same', point_le_point] at reach
        exact (point_le_point.mpr (lower.le.trans reach)).trans here.2
      have found := (subset below ⟨by rw [bottom]; exact bot_le, under⟩).1
      rw [same', point_le_point] at found
      exact absurd found (not_le.mpr lower)
    · have reach := (subset x here).1
      rw [top'] at reach
      exact absurd reach (not_le.mpr (WithBot.coe_lt_coe.mpr (WithTop.coe_lt_top x)))
  · have least : inner.Holds lowest := by
      refine ⟨same.le, ?_⟩
      have above := here.1
      rw [same] at above
      exact above.trans here.2
    rw [same]
    exact (subset lowest least).1
  · have reach := here.1
    rw [top] at reach
    exact absurd reach (not_le.mpr (WithBot.coe_lt_coe.mpr (WithTop.coe_lt_top x)))

theorem hi_le_of_subset [NoMaxOrder α] (subset : ∀ x, inner.Holds x → outer.Holds x) {x : α}
    (here : inner.Holds x) : inner.hi ≤ outer.hi := by
  rcases end_cases inner.hi with bottom | ⟨highest, same⟩ | top
  · rw [bottom]
    exact bot_le
  · have greatest : inner.Holds highest := by
      refine ⟨?_, same.ge⟩
      have under := here.2
      rw [same] at under
      exact here.1.trans under
    rw [same]
    exact (subset highest greatest).2
  · rcases end_cases outer.hi with bottom' | ⟨bound, same'⟩ | top'
    · have reach := (subset x here).2
      rw [bottom'] at reach
      exact absurd reach (not_le.mpr (WithBot.bot_lt_coe _))
    · rcases exists_gt bound with ⟨above, higher⟩
      have past : inner.lo ≤ point above := by
        have reach := (subset x here).2
        rw [same', point_le_point] at reach
        exact here.1.trans (point_le_point.mpr (reach.trans higher.le))
      have found := (subset above ⟨past, by rw [top]; exact le_top⟩).2
      rw [same', point_le_point] at found
      exact absurd found (not_le.mpr higher)
    · rw [top']
      exact le_top

/-- One interval lies within another exactly if it is empty, or its ends do. -/
theorem subset_iff [NoMinOrder α] [NoMaxOrder α] :
    (∀ x, inner.Holds x → outer.Holds x) ↔
      ((∃ x, inner.Holds x) → outer.lo ≤ inner.lo ∧ inner.hi ≤ outer.hi) := by
  constructor
  · rintro subset ⟨x, here⟩
    exact ⟨lo_le_of_subset subset here, hi_le_of_subset subset here⟩
  · intro ends x here
    rcases ends ⟨x, here⟩ with ⟨lower, upper⟩
    exact ⟨lower.trans here.1, here.2.trans upper⟩

end Interval
end Numu
