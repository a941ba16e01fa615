import Numu.BackInStock.Waiters
import Numu.Foundation.Pointwise
import Numu.Foundation.Run

/-!
# A stop is final

Each step but one looks at the status that the waiter has. A send that puts its waiter back in
line goes by the status it read before the message.
-/

namespace Numu.BackInStock
open Numu.Orders (Time)

namespace Shop

/-- A waiter that has been stopped neither waits nor is queued. -/
def StaysStopped (shop : Shop) : Prop :=
  ∀ waiter ∈ shop.waiters, waiter.stopped = true → waiter.isOpen = false

instance (shop : Shop) : Decidable shop.StaysStopped :=
  inferInstanceAs (Decidable (∀ waiter ∈ shop.waiters, _ → _))

/-- A send is started only for a waiter that has not been stopped. -/
def StartsUnstopped (shop : Shop) (label : Time × ShopEvent) : Prop :=
  match label.2 with
  | .begin_ index =>
      (shop.step label).sends ≠ shop.sends →
        ∀ task ∈ shop.tasks[index]?, ∀ waiter ∈ shop.waiters[task.waiter]?, waiter.stopped = false
  | _ => True

/-- The refusal of a send that is about the store: its waiter is to go back in line. -/
def RefusedByStore (shop : Shop) (send : Sending) : Prop :=
  ∃ reason ∈ storeReasons, send.outcome = some (.refused reason) ∧
    ¬ ((shop.waiters[send.waiter]?).any (transient ·.channel reason) = true ∧
      send.retries < maxRetries)

instance (shop : Shop) (send : Sending) : Decidable (shop.RefusedByStore send) :=
  inferInstanceAs (Decidable (∃ reason ∈ storeReasons, _ ∧ ¬ (_ ∧ _)))

/-- A send that puts its waiter back in line finds that it has not been stopped. -/
def PutsBackUnstopped (shop : Shop) (label : Time × ShopEvent) : Prop :=
  match label.2 with
  | .putBack index _ =>
      ∀ send ∈ shop.sends[index]?, send.outcome = none →
        ∀ waiter ∈ shop.waiters[send.waiter]?, waiter.stopped = false
  | .finish index =>
      ∀ send ∈ shop.sends[index]?, shop.RefusedByStore send →
        ∀ waiter ∈ shop.waiters[send.waiter]?, waiter.stopped = false
  | _ => True

end Shop

namespace Shop
variable {shop : Shop} {now : Time}

/-- A row that a check queues has been waiting. -/
theorem mem_fill {check : Check} {alerted : Option Nat → Nat} {locked : List Nat}
    {waiters : List Waiter} {waiter : Waiter} (index : Nat) (queued : List (Option Nat))
    (room : Room) (mem : waiter ∈ check.fill alerted locked index queued room waiters) :
    waiter ∈ waiters ∨
      ∃ old ∈ waiters, old.status = .waiting ∧ waiter.stopped = old.stopped := by
  induction waiters generalizing index queued room with
  | nil => exact absurd mem List.not_mem_nil
  | cons head rest ih =>
      have later : ∀ {queued room}, waiter ∈ check.fill alerted locked (index + 1) queued room rest →
          waiter ∈ head :: rest ∨
            ∃ old ∈ head :: rest, old.status = .waiting ∧ waiter.stopped = old.stopped := by
        intro queued room behind
        rcases ih _ _ _ behind with kept | ⟨old, there, waits, same⟩
        · exact Or.inl (List.mem_cons_of_mem _ kept)
        · exact Or.inr ⟨old, List.mem_cons_of_mem _ there, waits, same⟩
      rw [Check.fill] at mem
      split at mem
      · rename_i queues
        rcases List.mem_cons.mp mem with first | behind
        · rw [first]
          refine Or.inr ⟨head, List.mem_cons_self, ?_, rfl⟩
          have queues := queues.2
          simp only [Check.queues, Bool.and_eq_true, decide_eq_true_eq] at queues
          exact queues.1.1.1.2
        · exact later behind
      · rcases List.mem_cons.mp mem with first | behind
        · exact Or.inl (first ▸ List.mem_cons_self)
        · exact later behind

/-- The waiters after a step that writes one of them. -/
theorem staysStopped_modify (stays : shop.StaysStopped) {index : Nat} {f : Waiter → Waiter}
    {after : Shop} (written : after.waiters = shop.updateWaiter index f)
    (keeps : ∀ waiter ∈ shop.waiters[index]?, (f waiter).stopped = true →
      (f waiter).isOpen = false) : after.StaysStopped := by
  intro waiter mem stopped
  rw [written] at mem
  rcases Pointwise.mem_modify mem with kept | ⟨old, found, rfl⟩
  · exact stays waiter kept stopped
  · exact keeps old found stopped

/-- The waiters after a step that writes each of them in its own way. -/
theorem staysStopped_map (stays : shop.StaysStopped) {f : Waiter → Waiter} {after : Shop}
    (written : after.waiters = shop.waiters.map f)
    (keeps : ∀ waiter, (waiter.stopped = true → waiter.isOpen = false) →
      (f waiter).stopped = true → (f waiter).isOpen = false) : after.StaysStopped := by
  intro waiter mem
  rw [written] at mem
  rcases List.mem_map.mp mem with ⟨old, there, rfl⟩
  exact keeps old (stays old there)

theorem stop_keeps {waiter : Waiter} {status : WaiterStatus}
    (stops : status = .unsubscribed ∨ status = .closed)
    (keeps : waiter.stopped = true → waiter.isOpen = false) :
    (waiter.stop status now).stopped = true → (waiter.stop status now).isOpen = false := by
  rw [Waiter.stop]
  split
  · intro _
    rcases stops with rfl | rfl <;> rfl
  · exact keeps

theorem finish_keeps (stays : shop.StaysStopped) {index : Nat}
    (unstopped : shop.PutsBackUnstopped (now, .finish index)) :
    (shop.finish index now).StaysStopped := by
  rw [finish.eq_def]
  split
  · exact stays
  · rename_i send found
    dsimp only
    split
    · exact stays
    · exact staysStopped_modify stays rfl fun _ _ _ => rfl
    · rename_i reason refused
      split
      · exact stays
      · rename_i final
        split
        · rename_i store
          refine staysStopped_modify stays rfl ?_
          intro waiter there stopped
          have free := unstopped send found ⟨reason, store, refused, final⟩ waiter there
          have stopped : waiter.stopped = true := stopped
          rw [free] at stopped
          cases stopped
        · exact staysStopped_modify stays rfl fun _ _ _ => rfl

theorem retentionWrite_keeps (stays : shop.StaysStopped) {index : Nat} :
    (shop.retentionWrite index).StaysStopped := by
  rw [retentionWrite.eq_def]
  split
  · exact stays
  · dsimp only
    intro waiter mem
    dsimp only at mem
    rcases List.mem_mapIdx.mp mem with ⟨row, within, rfl⟩
    rw [List.length_mapIdx] at within
    rw [List.getElem_mapIdx]
    have kept := stays shop.waiters[row] (List.getElem_mem within)
    split <;> split
    · exact fun _ => rfl
    · exact fun _ => rfl
    · exact kept
    · exact kept

/-- A stop stays as long as no send puts its waiter back. -/
theorem staysStopped_step (stays : shop.StaysStopped) {event : ShopEvent}
    (unstopped : shop.PutsBackUnstopped (now, event)) : (shop.step (now, event)).StaysStopped := by
  have acted : (shop.act now event).StaysStopped := by
    cases event with
    | signUp productId variantId channel contact =>
        intro waiter mem stopped
        rcases List.mem_append.mp mem with before | new
        · exact stays waiter before stopped
        · rw [List.mem_singleton.mp new] at stopped
          cases stopped
    | checkBegin productId offer usable asOf =>
        rw [act, checkBegin]
        split <;> exact stays
    | checkCommit locked =>
        rw [act, checkCommit.eq_def]
        split
        · exact stays
        · intro waiter mem stopped
          rcases mem_fill 0 [] _ mem with kept | ⟨old, there, waits, same⟩
          · exact stays waiter kept stopped
          · have closed := stays old there (same ▸ stopped)
            rw [Waiter.isOpen, waits] at closed
            cases closed
    | checkAbort => exact stays
    | begin_ index =>
        rw [act, beginSend.eq_def]
        split
        · exact stays
        · dsimp only
          split
          · exact stays
          · split <;> exact stays
    | putBack index soldOut =>
        rw [act, putBack.eq_def]
        split
        · exact stays
        · rename_i send found
          split
          · rename_i unsent
            refine staysStopped_modify stays rfl ?_
            intro waiter there stopped
            have free := unstopped send found unsent waiter there
            have stopped : waiter.stopped = true := stopped
            rw [free] at stopped
            cases stopped
          · exact stays
    | message index outcome =>
        rw [act, message.eq_def]
        split
        · exact stays
        · split
          · dsimp only
            split
            · rename_i there
              refine staysStopped_modify stays rfl ?_
              intro waiter found
              exact stays waiter (List.mem_of_getElem? found)
            · exact stays
          · exact stays
    | finish index => exact finish_keeps stays unstopped
    | redeliver index =>
        rw [act, redeliver.eq_def]
        split <;> exact stays
    | lose index => exact stays
    | sweep asOf =>
        refine staysStopped_map stays rfl ?_
        intro waiter keeps
        split
        · rename_i due
          intro stopped
          have closed := keeps stopped
          rw [stuck, Bool.and_eq_true, decide_eq_true_eq] at due
          rw [Waiter.isOpen, due.1] at closed
          cases closed
        · exact keeps
    | unsubscribe contact =>
        refine staysStopped_map stays rfl ?_
        intro waiter keeps
        split
        · exact stop_keeps (Or.inl rfl) keeps
        · exact keeps
    | closeProduct productId =>
        refine staysStopped_map stays rfl ?_
        intro waiter keeps
        split
        · exact stop_keeps (Or.inr rfl) keeps
        · exact keeps
    | retentionRead asOf => exact stays
    | retentionWrite index => exact retentionWrite_keeps stays
  exact acted

/-- A send that puts a stopped waiter back in line breaks the stop at once. -/
theorem putsBackUnstopped_of_step {event : ShopEvent}
    (stays : (shop.step (now, event)).StaysStopped) : shop.PutsBackUnstopped (now, event) := by
  have acted : (shop.act now event).StaysStopped := stays
  cases event with
  | putBack index soldOut =>
      intro send found unsent waiter there
      by_contra stopped
      have found : shop.sends[index]? = some send := found
      have there : shop.waiters[send.waiter]? = some waiter := there
      rw [act, putBack.eq_def, found] at acted
      dsimp only at acted
      rw [if_pos unsent] at acted
      have closed := acted _ (Pointwise.mem_modify_self there) (Bool.eq_true_of_not_eq_false stopped)
      cases closed
  | finish index =>
      rintro send found ⟨reason, store, refused, final⟩ waiter there
      by_contra stopped
      have found : shop.sends[index]? = some send := found
      have there : shop.waiters[send.waiter]? = some waiter := there
      rw [act, finish.eq_def, found] at acted
      dsimp only at acted
      rw [refused] at acted
      dsimp only at acted
      rw [if_neg final, if_pos store] at acted
      have closed := acted _ (Pointwise.mem_modify_self there) (Bool.eq_true_of_not_eq_false stopped)
      cases closed
  | signUp | checkBegin | checkCommit | checkAbort | begin_ | message | redeliver | lose | sweep
  | unsubscribe | closeProduct | retentionRead | retentionWrite => trivial

/-- A send is started for a waiter that is queued. -/
theorem startsUnstopped (stays : shop.StaysStopped) (label : Time × ShopEvent) :
    shop.StartsUnstopped label := by
  rcases label with ⟨now, event⟩
  cases event with
  | begin_ index =>
      intro starts task found waiter there
      have found : shop.tasks[index]? = some task := found
      have there : shop.waiters[task.waiter]? = some waiter := there
      have begun : (shop.step (now, .begin_ index)).sends = (shop.beginSend index now).sends := rfl
      rw [begun, beginSend.eq_def, found] at starts
      dsimp only at starts
      split at starts
      · exact absurd rfl starts
      · split at starts
        · rename_i queued
          rw [there, Option.any_some, decide_eq_true_eq] at queued
          by_contra stopped
          have closed := stays waiter (List.mem_of_getElem? there)
            (Bool.eq_true_of_not_eq_false stopped)
          rw [Waiter.isOpen, queued] at closed
          cases closed
        · exact absurd rfl starts
  | signUp | checkBegin | checkCommit | checkAbort | putBack | message | finish | redeliver | lose
  | sweep | unsubscribe | closeProduct | retentionRead | retentionWrite => trivial

/-- Stopping is final, and no send is started after it, in exactly the runs in which no send puts a
stopped waiter back in line. -/
theorem stopping_is_final_iff {start : Shop} {labels : List (Time × ShopEvent)}
    (unstopped : start.StaysStopped) :
    Run.Always step StaysStopped start labels ∧ Run.Guarded step StartsUnstopped start labels ↔
      Run.Guarded step PutsBackUnstopped start labels := by
  have keeps : ∀ shop label, StaysStopped shop → PutsBackUnstopped shop label →
      StaysStopped (shop.step label) := fun _ _ stays guard => staysStopped_step stays guard
  have always : Run.Always step StaysStopped start labels ↔
      Run.Guarded step PutsBackUnstopped start labels := by
    apply Run.always_iff_guarded keeps _ _ unstopped
    · exact fun _ stays => stays
    · exact fun _ _ _ after => putsBackUnstopped_of_step after
  constructor
  · exact fun facts => always.mp facts.1
  · intro guarded
    refine ⟨always.mpr guarded, ?_⟩
    exact Run.Guarded.imp keeps (fun _ label stays _ => startsUnstopped stays label) unstopped guarded

def defaultCaps : Caps := { whatsapp := 200, email := 1000 }

/-- One shopper waits for a product, and a check has queued the alert. -/
def queuedAlert : List (Time × ShopEvent) :=
  [(0, .signUp 1 none .email "a@b.eg"),
    (1, .checkBegin 1 { sellable := true, variants := [⟨1, true, 5⟩] } true 1),
    (1, .checkCommit [])]

/-- A shopper stops while the alert is queued: its send finds that, and none starts. -/
theorem stopped_alert_is_not_sent :
    Run.Always step StaysStopped { caps := defaultCaps }
        (queuedAlert ++ [(2, .unsubscribe "a@b.eg"), (seconds 31, .begin_ 0)]) ∧
      Run.Guarded step StartsUnstopped { caps := defaultCaps }
        (queuedAlert ++ [(2, .unsubscribe "a@b.eg"), (seconds 31, .begin_ 0)]) ↔
    Run.Guarded step PutsBackUnstopped { caps := defaultCaps }
        (queuedAlert ++ [(2, .unsubscribe "a@b.eg"), (seconds 31, .begin_ 0)]) :=
  stopping_is_final_iff (by decide)

/-- A shopper stops between a send's read and its write: the variant is sold out again, and the
waiter is back in line. -/
theorem stopped_waiter_is_put_back :
    ¬ (Run.Always step StaysStopped { caps := defaultCaps }
        (queuedAlert ++ [(seconds 31, .begin_ 0), (seconds 31, .unsubscribe "a@b.eg"),
          (seconds 32, .putBack 0 true)]) ∧
      Run.Guarded step StartsUnstopped { caps := defaultCaps }
        (queuedAlert ++ [(seconds 31, .begin_ 0), (seconds 31, .unsubscribe "a@b.eg"),
          (seconds 32, .putBack 0 true)])) := by
  rintro ⟨stays, -⟩
  exact absurd stays (by decide +kernel)

end Shop
end Numu.BackInStock
