import Mathlib.Logic.Function.Basic
import Numu.Foundation.Calendar
import Numu.Foundation.Run
import Numu.Orders.Order

/-!
# Checkouts that present one idempotency key

A checkout reads the cached response of its key, and stores its own when it is done; the two steps of
different checkouts fall in any order. The key is the store's and not the shopper's.
-/

namespace Numu.Orders

/-- `IDEMPOTENCY_TTL_SECONDS`. -/
def idempotencyTtl : Time := 86400 * Calendar.secondLength

/-- The customer of a checkout. -/
structure Shopper where
  id : UUID
  phone : Option String
  hasRealEmail : Bool
  deriving DecidableEq

/-- `_is_contactless_guest`. -/
def Shopper.isContactlessGuest (customer : Shopper) : Bool :=
  customer.phone.getD "" = "" && !customer.hasRealEmail

/-- The cached value; one from before it was bound to its customer has no id. -/
structure Envelope (ρ : Type*) where
  customerId : Option UUID
  contactless : Bool
  response : ρ

variable {ρ : Type*}

/-- `_may_replay_checkout`. -/
def Envelope.mayReplayCheckout (cached : Envelope ρ) (customer : Shopper) : Bool :=
  match cached.customerId with
  | none => true
  | some id => id = customer.id || (cached.contactless && customer.isContactlessGuest)

def Shopper.envelope (customer : Shopper) (response : ρ) : Envelope ρ :=
  ⟨some customer.id, customer.isContactlessGuest, response⟩

inductive CheckoutPhase where
  | idle
  | ordering (customer : Shopper) (slotTaken : Bool)
  | done

/-- Has found the slot empty and is still running. -/
def CheckoutPhase.onEmpty : CheckoutPhase → Bool
  | .ordering _ false => true
  | _ => false

/-- The slot of the key, with the orders made and the replays given so far. -/
structure CheckoutSlot (ρ : Type*) where
  now : Time
  entry : Option (Envelope ρ × Time) := none
  phase : Nat → CheckoutPhase := fun _ => .idle
  ordered : List (Shopper × ρ) := []
  replayed : List (Shopper × ρ) := []

inductive CheckoutStep (ρ : Type*) where
  | wait (elapsed : Nat)
  | read (checkout : Nat) (customer : Shopper)
  | respond (checkout : Nat) (response : ρ)
  | fail (checkout : Nat)

namespace CheckoutSlot

def cached (slot : CheckoutSlot ρ) : Option (Envelope ρ) :=
  (slot.entry.filter fun entry => slot.now < entry.2).map Prod.fst

def moveTo (slot : CheckoutSlot ρ) (checkout : Nat) (phase : CheckoutPhase) : CheckoutSlot ρ :=
  { slot with phase := Function.update slot.phase checkout phase }

/-- A step that is not the next one of its checkout does nothing. -/
def step (slot : CheckoutSlot ρ) : CheckoutStep ρ → CheckoutSlot ρ
  | .wait elapsed => { slot with now := slot.now + elapsed }
  | .read checkout customer =>
      match slot.phase checkout, slot.cached with
      | .idle, none => slot.moveTo checkout (.ordering customer false)
      | .idle, some cached =>
          if cached.mayReplayCheckout customer then
            { slot.moveTo checkout .done with
              replayed := slot.replayed ++ [(customer, cached.response)] }
          else slot.moveTo checkout (.ordering customer true)
      | _, _ => slot
  | .respond checkout response =>
      match slot.phase checkout with
      | .ordering customer slotTaken =>
          { slot.moveTo checkout .done with
            ordered := slot.ordered ++ [(customer, response)]
            entry := if slotTaken then slot.entry
              else some (customer.envelope response, slot.now + idempotencyTtl) }
      | _ => slot
  | .fail checkout => slot.moveTo checkout .done

/-- A customer may see the response of an order: it is his own, or both came without a contact. -/
def MaySee (slot : CheckoutSlot ρ) (customer : Shopper) (response : ρ) : Prop :=
  ∃ buyer, (buyer, response) ∈ slot.ordered ∧
    (buyer.id = customer.id ∨ buyer.isContactlessGuest ∧ customer.isContactlessGuest)

def Confidential (slot : CheckoutSlot ρ) : Prop :=
  ∀ replay ∈ slot.replayed, slot.MaySee replay.1 replay.2

/-- Nobody is about to fill the slot. -/
def Settled (slot : CheckoutSlot ρ) : Prop :=
  ∀ checkout, (slot.phase checkout).onEmpty = false

/-- What is in the slot was bound to the customer who ordered. -/
structure Bound (slot : CheckoutSlot ρ) : Prop where
  confidential : slot.Confidential
  entry : ∀ entry ∈ slot.entry, ∃ buyer, (buyer, entry.1.response) ∈ slot.ordered ∧
    entry.1 = buyer.envelope entry.1.response

variable {slot : CheckoutSlot ρ}

theorem Bound.maySee (bound : slot.Bound) {cached : Envelope ρ} (found : slot.cached = some cached)
    {customer : Shopper} (may : cached.mayReplayCheckout customer = true) :
    slot.MaySee customer cached.response := by
  obtain ⟨⟨_, expiresAt⟩, live, rfl⟩ := Option.map_eq_some_iff.mp found
  obtain ⟨buyer, ordered, same⟩ := bound.entry _ (Option.filter_eq_some_iff.mp live).1
  refine ⟨buyer, ordered, ?_⟩
  rw [same] at may
  simpa [Envelope.mayReplayCheckout, Shopper.envelope] using may

theorem Bound.step (bound : slot.Bound) (a : CheckoutStep ρ) : (slot.step a).Bound := by
  cases a with
  | wait elapsed => exact ⟨bound.confidential, bound.entry⟩
  | fail checkout => exact ⟨bound.confidential, bound.entry⟩
  | read checkout customer =>
      rw [CheckoutSlot.step]
      split
      · exact ⟨bound.confidential, bound.entry⟩
      · rename_i cached _ found
        split
        · rename_i may
          refine ⟨fun replay member => ?_, bound.entry⟩
          rcases List.mem_append.mp member with earlier | new
          · exact bound.confidential replay earlier
          · rw [List.mem_singleton.mp new]
            exact bound.maySee found may
        · exact ⟨bound.confidential, bound.entry⟩
      · exact bound
  | respond checkout response =>
      rw [CheckoutSlot.step]
      split
      · rename_i customer slotTaken ordering
        have more : ∀ order ∈ slot.ordered, order ∈ slot.ordered ++ [(customer, response)] :=
          fun order member => List.mem_append_left _ member
        constructor
        · intro replay member
          obtain ⟨buyer, ordered, may⟩ := bound.confidential replay member
          exact ⟨buyer, more _ ordered, may⟩
        · intro entry here
          cases slotTaken with
          | true =>
              obtain ⟨buyer, ordered, same⟩ := bound.entry entry here
              exact ⟨buyer, more _ ordered, same⟩
          | false =>
              cases here
              exact ⟨customer, List.mem_append_right _ List.mem_cons_self, rfl⟩
      · exact bound

theorem Settled.move (settled : slot.Settled) (checkout : Nat) {phase : CheckoutPhase}
    (other : phase.onEmpty = false) : (slot.moveTo checkout phase).Settled := by
  intro i
  rcases eq_or_ne i checkout with rfl | elsewhere
  · exact (congrArg CheckoutPhase.onEmpty (Function.update_self _ _ _)).trans other
  · exact (congrArg CheckoutPhase.onEmpty (Function.update_of_ne elsewhere _ _)).trans (settled i)

/-- While an entry lives, whoever reads the slot finds it, and leaves it. -/
theorem Settled.step {entry : Envelope ρ × Time} (settled : slot.Settled)
    (here : slot.entry = some entry) (live : slot.now < entry.2) (a : CheckoutStep ρ) :
    (slot.step a).Settled ∧ (slot.step a).entry = some entry := by
  cases a with
  | wait elapsed => exact ⟨settled, here⟩
  | fail checkout => exact ⟨settled.move checkout rfl, here⟩
  | read checkout customer =>
      rw [CheckoutSlot.step]
      split
      · rename_i idle empty
        rw [cached, here, Option.filter_some, if_pos (decide_eq_true live)] at empty
        cases empty
      · split
        · exact ⟨settled.move checkout rfl, here⟩
        · exact ⟨settled.move checkout rfl, here⟩
      · exact ⟨settled, here⟩
  | respond checkout response =>
      rw [CheckoutSlot.step]
      split
      · rename_i customer slotTaken ordering
        cases slotTaken with
        | true => exact ⟨settled.move checkout rfl, here⟩
        | false => cases (settled checkout).symm.trans (congrArg CheckoutPhase.onEmpty ordering)
      · exact ⟨settled, here⟩

theorem now_le_step (slot : CheckoutSlot ρ) (a : CheckoutStep ρ) : slot.now ≤ (slot.step a).now := by
  cases a with
  | wait elapsed => exact Nat.le_add_right _ _
  | fail checkout => exact le_refl _
  | read checkout customer =>
      rw [CheckoutSlot.step]
      split
      · exact le_refl _
      · split <;> exact le_refl _
      · exact le_refl _
  | respond checkout response =>
      rw [CheckoutSlot.step]
      split <;> exact le_refl _

end CheckoutSlot

/-- Whatever checkouts present the key: each replay goes to whom its order is bound to, and a settled
entry stays for its whole life, whoever is refused or orders meanwhile. -/
theorem checkout_replays {slot : CheckoutSlot ρ} (bound : slot.Bound)
    (steps : List (CheckoutStep ρ)) :
    Run.Always CheckoutSlot.step CheckoutSlot.Confidential slot steps ∧
      ∀ entry ∈ slot.entry, slot.Settled → Run.Always CheckoutSlot.step
        (fun after => after.now < entry.2 → after.entry = some entry) slot steps := by
  constructor
  · exact (Run.always_of_invariant (fun _ a bound => bound.step a) bound steps).mono
      fun _ bound => bound.confidential
  · intro entry here settled
    have kept : ∀ (before : CheckoutSlot ρ) (a : CheckoutStep ρ),
        (before.now < entry.2 → before.Settled ∧ before.entry = some entry) →
        (before.step a).now < entry.2 →
          (before.step a).Settled ∧ (before.step a).entry = some entry := by
      intro before a earlier live
      have alive := lt_of_le_of_lt (before.now_le_step a) live
      exact (earlier alive).1.step (earlier alive).2 alive a
    exact (Run.always_of_invariant kept (fun _ => ⟨settled, here⟩) steps).mono
      fun after facts live => (facts live).2

/-- A guest without a contact, who retries as a new customer. -/
def guest : Shopper := ⟨1, none, false⟩

theorem checkout_replays_guest : Run.Always CheckoutSlot.step CheckoutSlot.Confidential
    { now := 0, entry := some (guest.envelope 7, idempotencyTtl), ordered := [(guest, 7)] }
    [.read 0 { guest with id := 2 }, .read 1 ⟨3, some "01001234567", false⟩, .respond 1 8,
      .read 2 { guest with id := 4 }] := by
  refine (checkout_replays ⟨fun replay member => ?_, fun entry here => ?_⟩ _).1
  · cases member
  · cases here
    exact ⟨guest, List.mem_cons_self, rfl⟩

end Numu.Orders
