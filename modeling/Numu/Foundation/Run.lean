import Mathlib.Data.List.Basic

/-!
# Runs of a step function

A run applies a list of labels one after another. `Guarded` says that each label
was admissible in the state it met, `Always` that a property held in every state
the run went through.
-/

namespace Numu.Run

variable {σ α : Type*}

def run (step : σ → α → σ) (s : σ) (labels : List α) : σ :=
  labels.foldl step s

def Guarded (step : σ → α → σ) (G : σ → α → Prop) : σ → List α → Prop
  | _, [] => True
  | s, a :: rest => G s a ∧ Guarded step G (step s a) rest

def Always (step : σ → α → σ) (P : σ → Prop) : σ → List α → Prop
  | s, [] => P s
  | s, a :: rest => P s ∧ Always step P (step s a) rest

section Decidability
variable (step : σ → α → σ)

instance decidableGuarded (G : σ → α → Prop) [∀ s a, Decidable (G s a)] :
    ∀ s labels, Decidable (Guarded step G s labels)
  | _, [] => isTrue trivial
  | s, a :: rest =>
      have := decidableGuarded G (step s a) rest
      inferInstanceAs (Decidable (_ ∧ _))

instance decidableAlways (P : σ → Prop) [∀ s, Decidable (P s)] :
    ∀ s labels, Decidable (Always step P s labels)
  | s, [] => inferInstanceAs (Decidable (P s))
  | s, a :: rest =>
      have := decidableAlways P (step s a) rest
      inferInstanceAs (Decidable (_ ∧ _))

end Decidability

/-- Each transition of the run relates the state before it to the state after it by `R`. -/
def Transitions (step : σ → α → σ) (R : σ → σ → Prop) : σ → List α → Prop :=
  Guarded step fun s a => R s (step s a)

variable {step : σ → α → σ} {G : σ → α → Prop} {I P : σ → Prop}

@[simp] theorem run_nil (s : σ) : run step s [] = s := rfl

@[simp] theorem run_cons (s : σ) (a : α) (rest : List α) :
    run step s (a :: rest) = run step (step s a) rest := rfl

theorem run_append (s : σ) (first second : List α) :
    run step s (first ++ second) = run step (run step s first) second := by
  simp [run, List.foldl_append]

theorem Always.head {s : σ} {labels : List α} (always : Always step P s labels) : P s := by
  cases labels with
  | nil => exact always
  | cons a rest => exact always.1

theorem Always.last {s : σ} {labels : List α} (always : Always step P s labels) :
    P (run step s labels) := by
  induction labels generalizing s with
  | nil => exact always
  | cons a rest ih => exact ih always.2

theorem Always.mono {Q : σ → Prop} (weaken : ∀ s, P s → Q s) {s : σ} {labels : List α}
    (always : Always step P s labels) : Always step Q s labels := by
  induction labels generalizing s with
  | nil => exact weaken s always
  | cons a rest ih => exact ⟨weaken s always.1, ih always.2⟩

/-- What always holds holds after each prefix of the run. -/
theorem always_iff_prefixes {s : σ} {labels : List α} :
    Always step P s labels ↔
      ∀ before rest, labels = before ++ rest → P (run step s before) := by
  induction labels generalizing s with
  | nil =>
      constructor
      · intro here before rest split_
        rw [(List.append_eq_nil_iff.mp split_.symm).1]
        exact here
      · exact fun prefixes => prefixes [] [] rfl
  | cons a later ih =>
      constructor
      · intro facts before rest split_
        rcases facts with ⟨here, always⟩
        cases before with
        | nil => exact here
        | cons b before =>
            rw [List.cons_append, List.cons.injEq] at split_
            rcases split_ with ⟨rfl, split_⟩
            exact ih.mp always before rest split_
      · intro prefixes
        refine ⟨prefixes [] _ rfl, ih.mpr fun before rest split_ => ?_⟩
        exact prefixes (a :: before) rest (by rw [split_, List.cons_append])

/-- An invariant that admissible steps keep holds all along a guarded run. -/
theorem always_of_guarded (hstep : ∀ s a, I s → G s a → I (step s a))
    {s : σ} {labels : List α} (initial : I s) (guarded : Guarded step G s labels) :
    Always step I s labels := by
  induction labels generalizing s with
  | nil => exact initial
  | cons a rest ih => exact ⟨initial, ih (hstep s a initial guarded.1) guarded.2⟩

theorem always_of_invariant (hstep : ∀ s a, I s → I (step s a)) {s : σ} (initial : I s)
    (labels : List α) : Always step I s labels := by
  induction labels generalizing s with
  | nil => exact initial
  | cons a rest ih => exact ⟨initial, ih (hstep s a initial)⟩

/-- Labels that are admissible in every state. -/
theorem Guarded.of_forall {s : σ} {labels : List α} (admissible : ∀ a ∈ labels, ∀ s, G s a) :
    Guarded step G s labels := by
  induction labels generalizing s with
  | nil => trivial
  | cons a rest ih =>
      have later := fun b mem => admissible b (List.mem_cons_of_mem a mem)
      exact ⟨admissible a List.mem_cons_self s, ih later⟩

theorem Guarded.and {H : σ → α → Prop} {s : σ} {labels : List α}
    (first : Guarded step G s labels) (second : Guarded step H s labels) :
    Guarded step (fun s a => G s a ∧ H s a) s labels := by
  induction labels generalizing s with
  | nil => trivial
  | cons a rest ih => exact ⟨⟨first.1, second.1⟩, ih first.2 second.2⟩

/-- What the invariant and the guard force of a step holds of every step of a guarded run. -/
theorem Guarded.imp {H : σ → α → Prop} (hstep : ∀ s a, I s → G s a → I (step s a))
    (forced : ∀ s a, I s → G s a → H s a) {s : σ} {labels : List α} (initial : I s)
    (guarded : Guarded step G s labels) : Guarded step H s labels := by
  induction labels generalizing s with
  | nil => trivial
  | cons a rest ih =>
      exact ⟨forced s a initial guarded.1, ih (hstep s a initial guarded.1) guarded.2⟩

/-- When a step out of the invariant breaks `P` at once exactly if its guard
fails, the runs on which `P` holds throughout are the guarded ones. -/
theorem always_iff_guarded (hstep : ∀ s a, I s → G s a → I (step s a))
    (sound : ∀ s, I s → P s) (tight : ∀ s a, I s → P (step s a) → G s a)
    {s : σ} (initial : I s) (labels : List α) :
    Always step P s labels ↔ Guarded step G s labels := by
  constructor
  · intro always
    induction labels generalizing s with
    | nil => trivial
    | cons a rest ih =>
        have admitted : G s a := tight s a initial always.2.head
        exact ⟨admitted, ih (hstep s a initial admitted) always.2⟩
  · intro guarded
    exact (always_of_guarded hstep initial guarded).mono sound

/-- The same among the runs whose steps another guard admits. -/
theorem always_iff_guarded_among {O : σ → α → Prop}
    (hstep : ∀ s a, I s → O s a → G s a → I (step s a)) (sound : ∀ s, I s → P s)
    (tight : ∀ s a, I s → O s a → P (step s a) → G s a) {s : σ} {labels : List α}
    (initial : I s) (admitted : Guarded step O s labels) :
    Always step P s labels ↔ Guarded step G s labels := by
  induction labels generalizing s with
  | nil => exact iff_of_true (sound s initial) trivial
  | cons a rest ih =>
      constructor
      · intro always
        have kept : G s a := tight s a initial admitted.1 always.2.head
        exact ⟨kept, (ih (hstep s a initial admitted.1 kept) admitted.2).mp always.2⟩
      · intro guarded
        have later := ih (hstep s a initial admitted.1 guarded.1) admitted.2
        exact ⟨sound s initial, later.mpr guarded.2⟩

/-- What holds of a step in the invariant exactly if its guard does holds along a run exactly if
the run is guarded. -/
theorem guarded_iff_guarded {H : σ → α → Prop} (hstep : ∀ s a, I s → G s a → I (step s a))
    (exact_ : ∀ s a, I s → (H s a ↔ G s a)) {s : σ} (initial : I s) (labels : List α) :
    Guarded step H s labels ↔ Guarded step G s labels := by
  induction labels generalizing s with
  | nil => exact Iff.rfl
  | cons a rest ih =>
      constructor
      · intro facts
        have admitted := (exact_ s a initial).mp facts.1
        exact ⟨admitted, (ih (hstep s a initial admitted)).mp facts.2⟩
      · intro guarded
        exact ⟨(exact_ s a initial).mpr guarded.1, (ih (hstep s a initial guarded.1)).mpr guarded.2⟩

/-- In a run whose steps are admitted by one guard, two others that agree on such steps in the
invariant hold along it together. -/
theorem guarded_congr {O H : σ → α → Prop} (hstep : ∀ s a, I s → O s a → I (step s a))
    (exact_ : ∀ s a, I s → O s a → (H s a ↔ G s a)) {s : σ} {labels : List α} (initial : I s)
    (admitted : Guarded step O s labels) : Guarded step H s labels ↔ Guarded step G s labels := by
  induction labels generalizing s with
  | nil => exact Iff.rfl
  | cons a rest ih =>
      have later := ih (hstep s a initial admitted.1) admitted.2
      exact and_congr (exact_ s a initial admitted.1) later

/-- Where every state is in the invariant, a relation that holds of a transition exactly if
its guard does holds along a run exactly if the run is guarded. -/
theorem transitions_iff_guarded {R : σ → σ → Prop} (hstep : ∀ s a, I s → I (step s a))
    (exact_ : ∀ s a, I s → (R s (step s a) ↔ G s a)) {s : σ} (initial : I s) (labels : List α) :
    Transitions step R s labels ↔ Guarded step G s labels := by
  induction labels generalizing s with
  | nil => exact Iff.rfl
  | cons a rest ih => exact and_congr (exact_ s a initial) (ih (hstep s a initial))

section Settled
variable {β : Type*} {settled : β → Prop} {view : σ → β}

/-- Wherever the view is settled, it stays what it is. -/
def Settles (step : σ → α → σ) (settled : β → Prop) (view : σ → β) (s : σ) (labels : List α) :
    Prop :=
  ∀ before later rest, labels = before ++ (later ++ rest) → settled (view (run step s before)) →
    view (run step s (before ++ later)) = view (run step s before)

theorem Transitions.keeps {s : σ} {later rest : List α}
    (kept : Transitions step (fun s s' => settled (view s) → view s' = view s) s (later ++ rest))
    (here : settled (view s)) : view (run step s later) = view s := by
  induction later generalizing s with
  | nil => rfl
  | cons a later ih =>
      have same : view (step s a) = view s := kept.1 here
      rw [run_cons, ih kept.2 (same ▸ here), same]

/-- A view that each transition leaves once it is settled is settled for good. -/
theorem settles_iff_transitions {s : σ} {labels : List α} :
    Settles step settled view s labels ↔
      Transitions step (fun s s' => settled (view s) → view s' = view s) s labels := by
  constructor
  · intro settles
    induction labels generalizing s with
    | nil => trivial
    | cons a labels ih =>
        refine ⟨settles [] [a] labels rfl, ih fun before later rest split_ => ?_⟩
        exact settles (a :: before) later rest (by rw [split_, List.cons_append])
  · intro kept before later rest split_ here
    induction before generalizing s labels with
    | nil =>
        rw [List.nil_append] at split_
        subst split_
        exact Transitions.keeps kept here
    | cons a before ih =>
        subst split_
        exact ih kept.2 rfl here

/-- A view that every step leaves once it is settled is settled in every run. -/
theorem settles_of_step (hstep : ∀ s a, settled (view s) → view (step s a) = view s)
    (s : σ) (labels : List α) : Settles step settled view s labels := by
  apply settles_iff_transitions.mpr
  induction labels generalizing s with
  | nil => trivial
  | cons a rest ih => exact ⟨hstep s a, ih (step s a)⟩

end Settled

end Numu.Run

/-! Two step functions driven by the same labels. -/

namespace Numu.Lockstep
open Numu.Run

variable {σ τ α β : Type*} {f : σ → α → σ} {g : τ → α → τ} {view : σ → β} {other : τ → β}
  {s : σ} {t : τ} {a : α} {labels rest : List α}

/-- The two runs show the same after each prefix of the labels. -/
def Agree (f : σ → α → σ) (g : τ → α → τ) (view : σ → β) (other : τ → β) (s : σ) (t : τ)
    (labels : List α) : Prop :=
  ∀ before rest, labels = before ++ rest → view (run f s before) = other (run g t before)

theorem Agree.start (agree : Agree f g view other s t labels) : view s = other t :=
  agree [] labels rfl

theorem agree_nil : Agree f g view other s t [] ↔ view s = other t := by
  constructor
  · exact Agree.start
  · intro same before rest split_
    rw [(List.append_eq_nil_iff.mp split_.symm).1]
    exact same

theorem agree_cons : Agree f g view other s t (a :: rest) ↔
    view s = other t ∧ Agree f g view other (f s a) (g t a) rest := by
  constructor
  · intro agree
    refine ⟨agree.start, fun before later split_ => ?_⟩
    exact agree (a :: before) later (by rw [split_, List.cons_append])
  · rintro ⟨same, agree⟩ before later split_
    cases before with
    | nil => exact same
    | cons b before =>
        rw [List.cons_append, List.cons.injEq] at split_
        rcases split_ with ⟨rfl, split_⟩
        exact agree before later split_

/-- Where a step out of equal views leaves equal views exactly if its guard holds, the runs that
agree are the guarded ones. -/
theorem agree_iff_guarded {G : τ → α → Prop}
    (exact_ : ∀ s t a, view s = other t → (view (f s a) = other (g t a) ↔ G t a))
    (same : view s = other t) (labels : List α) :
    Agree f g view other s t labels ↔ Guarded g G t labels := by
  induction labels generalizing s t with
  | nil => exact iff_of_true (agree_nil.mpr same) trivial
  | cons a rest ih =>
      rw [agree_cons]
      constructor
      · rintro ⟨-, agree⟩
        exact ⟨(exact_ s t a same).mp agree.start, (ih agree.start).mp agree⟩
      · rintro ⟨admitted, guarded⟩
        exact ⟨same, (ih ((exact_ s t a same).mpr admitted)).mpr guarded⟩

end Numu.Lockstep
