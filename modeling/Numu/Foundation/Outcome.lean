import Mathlib.Data.List.Basic

/-! Computations that return a value or raise. -/

namespace Numu.Outcome

universe u

variable {ε : Type*} {α β : Type u}

theorem bind_eq_ok {x : Except ε α} {f : α → Except ε β} {b : β} :
    x >>= f = .ok b ↔ ∃ a, x = .ok a ∧ f a = .ok b := by
  cases x with
  | error e => simp [bind, Except.bind]
  | ok a => simp [bind, Except.bind]

theorem map_eq_ok {x : Except ε α} {f : α → β} {b : β} :
    x.map f = .ok b ↔ ∃ a, x = .ok a ∧ f a = b := by
  cases x with
  | error e => simp [Except.map]
  | ok a => simp [Except.map]

/-- The state after a call that leaves everything as it was when it raises. -/
def orKeep (before : α) : Except ε α → α
  | .ok after => after
  | .error _ => before

/-- What a call keeps on success, it keeps on failure as well. -/
theorem orKeep_of_ok {R : α → α → Prop} {before : α} (refl : R before before)
    {result : Except ε α} (ok : ∀ after, result = .ok after → R before after) :
    R before (orKeep before result) := by
  cases result with
  | error e => exact refl
  | ok after => exact ok after rfl

/-- What holds before a call and after it returns holds when it raises as well. -/
theorem orKeep_keeps {P : α → Prop} {before : α} (initial : P before) {result : Except ε α}
    (ok : ∀ after, result = .ok after → P after) : P (orKeep before result) :=
  orKeep_of_ok (R := fun _ after => P after) initial ok

/-- A loop whose every call returns a value returns their list. -/
theorem mapM_isOk {f : α → Except ε β} {items : List α}
    (each : ∀ item ∈ items, ∃ value, f item = .ok value) : ∃ values, items.mapM f = .ok values := by
  induction items with
  | nil => exact ⟨[], rfl⟩
  | cons head rest ih =>
      rcases each head List.mem_cons_self with ⟨value, here⟩
      rcases ih fun item member => each item (List.mem_cons_of_mem _ member) with ⟨values, there⟩
      refine ⟨value :: values, ?_⟩
      rw [List.mapM_cons]
      exact bind_eq_ok.mpr ⟨value, here, bind_eq_ok.mpr ⟨values, there, rfl⟩⟩

/-- A loop whose calls all return returns what they return. -/
theorem mapM_eq_ok {f : α → Except ε β} {g : α → β} {items : List α}
    (each : ∀ item ∈ items, f item = .ok (g item)) : items.mapM f = .ok (items.map g) := by
  induction items with
  | nil => rfl
  | cons head rest ih =>
      have here := each head List.mem_cons_self
      have there := ih fun item member => each item (List.mem_cons_of_mem _ member)
      rw [List.mapM_cons]
      exact bind_eq_ok.mpr ⟨g head, here, bind_eq_ok.mpr ⟨rest.map g, there, rfl⟩⟩

theorem mapM_ok_mem {f : α → Except ε β} {items : List α} {values : List β} {item : α}
    (ok : items.mapM f = .ok values) (mem : item ∈ items) : ∃ value ∈ values, f item = .ok value := by
  induction items generalizing values with
  | nil => cases mem
  | cons head rest ih =>
      rw [List.mapM_cons] at ok
      rcases bind_eq_ok.mp ok with ⟨value, here, ok⟩
      rcases bind_eq_ok.mp ok with ⟨others, there, built⟩
      cases built
      rcases List.mem_cons.mp mem with rfl | later
      · exact ⟨value, List.mem_cons_self, here⟩
      · rcases ih there later with ⟨found, member, same⟩
        exact ⟨found, List.mem_cons_of_mem _ member, same⟩

theorem mapM_ok_of_mem {f : α → Except ε β} {items : List α} {values : List β} {value : β}
    (ok : items.mapM f = .ok values) (mem : value ∈ values) : ∃ item ∈ items, f item = .ok value := by
  induction items generalizing values with
  | nil =>
      cases ok
      cases mem
  | cons head rest ih =>
      rw [List.mapM_cons] at ok
      rcases bind_eq_ok.mp ok with ⟨found, here, ok⟩
      rcases bind_eq_ok.mp ok with ⟨others, there, built⟩
      cases built
      rcases List.mem_cons.mp mem with rfl | later
      · exact ⟨head, List.mem_cons_self, here⟩
      · rcases ih there later with ⟨item, member, same⟩
        exact ⟨item, List.mem_cons_of_mem _ member, same⟩

/-- A loop that returns a list has returned each of its values. -/
theorem mapM_ok_forall₂ {f : α → Except ε β} {items : List α} {values : List β}
    (ok : items.mapM f = .ok values) :
    List.Forall₂ (fun item value => f item = .ok value) items values := by
  induction items generalizing values with
  | nil =>
      cases ok
      exact .nil
  | cons head rest ih =>
      rw [List.mapM_cons] at ok
      rcases bind_eq_ok.mp ok with ⟨value, here, later⟩
      rcases bind_eq_ok.mp later with ⟨others, there, returned⟩
      cases returned
      exact .cons here (ih there)

theorem mapM_ok_map {f : α → Except ε β} {items : List α} {values : List β}
    (ok : items.mapM f = .ok values) : items.map f = values.map .ok := by
  have each := mapM_ok_forall₂ ok
  clear ok
  induction each with
  | nil => rfl
  | cons here _ ih => rw [List.map_cons, List.map_cons, here, ih]

section Partial
variable {γ : Type u} {f : α → Option β} {items : List α}

theorem mapM_some {g : α → β} (each : ∀ item ∈ items, f item = some (g item)) :
    items.mapM f = some (items.map g) := by
  induction items with
  | nil => rfl
  | cons head rest ih =>
      rw [List.mapM_cons, each head List.mem_cons_self,
        ih fun item member => each item (List.mem_cons_of_mem _ member)]
      rfl

theorem mapM_isSome (each : ∀ item ∈ items, (f item).isSome) : (items.mapM f).isSome := by
  induction items with
  | nil => rfl
  | cons head rest ih =>
      obtain ⟨value, here⟩ := Option.isSome_iff_exists.mp (each head List.mem_cons_self)
      obtain ⟨values, there⟩ := Option.isSome_iff_exists.mp
        (ih fun item member => each item (List.mem_cons_of_mem _ member))
      rw [List.mapM_cons, here, there]
      rfl

theorem mapM_some_mem {values : List β} {item : α} (ok : items.mapM f = some values)
    (mem : item ∈ items) : ∃ value ∈ values, f item = some value := by
  induction items generalizing values with
  | nil => cases mem
  | cons head rest ih =>
      rw [List.mapM_cons] at ok
      obtain ⟨value, here, ok⟩ := Option.bind_eq_some_iff.mp ok
      obtain ⟨later, there, made⟩ := Option.bind_eq_some_iff.mp ok
      cases made
      rcases List.mem_cons.mp mem with rfl | inside
      · exact ⟨value, List.mem_cons_self, here⟩
      · obtain ⟨other, member, found⟩ := ih there inside
        exact ⟨other, List.mem_cons_of_mem _ member, found⟩

/-- Where all values are of one form, so is the list of them. -/
theorem mapM_some_image {h : γ → β} (image : ∀ item value, f item = some value → ∃ c, value = h c)
    {values : List β} (ok : items.mapM f = some values) :
    ∃ sources : List γ, values = sources.map h ∧ sources.length = items.length := by
  induction items generalizing values with
  | nil =>
      cases ok
      exact ⟨[], rfl, rfl⟩
  | cons head rest ih =>
      rw [List.mapM_cons] at ok
      obtain ⟨value, here, ok⟩ := Option.bind_eq_some_iff.mp ok
      obtain ⟨later, there, made⟩ := Option.bind_eq_some_iff.mp ok
      cases made
      obtain ⟨c, rfl⟩ := image head value here
      obtain ⟨sources, rfl, length⟩ := ih there
      exact ⟨c :: sources, rfl, congrArg (· + 1) length⟩

end Partial

/-- A loop that returns keeps what each of its rounds keeps, with the rounds still to come. -/
theorem foldlM_ok_rest {P : β → List α → Prop} {f : β → α → Except ε β} {items : List α}
    (each : ∀ before item rest after, P before (item :: rest) → f before item = .ok after →
      P after rest)
    {before after : β} (ok : items.foldlM f before = .ok after) (initial : P before items) :
    P after [] := by
  induction items generalizing before with
  | nil =>
      cases ok
      exact initial
  | cons item rest ih =>
      rw [List.foldlM_cons] at ok
      obtain ⟨mid, first, later⟩ := bind_eq_ok.mp ok
      exact ih later (each before item rest mid initial first)

theorem foldlM_ok {P : β → Prop} {f : β → α → Except ε β} {items : List α}
    (each : ∀ before item after, P before → f before item = .ok after → P after)
    {before after : β} (ok : items.foldlM f before = .ok after) (initial : P before) : P after :=
  foldlM_ok_rest (P := fun state _ => P state)
    (fun before item _ after => each before item after) ok initial

/-- What holds of the value of a call that returns one. -/
def IfOk (P : α → Prop) : Except ε α → Prop
  | .ok value => P value
  | .error _ => True

instance decidableIfOk (P : α → Prop) [DecidablePred P] : DecidablePred (IfOk (ε := ε) P)
  | .ok value => inferInstanceAs (Decidable (P value))
  | .error _ => isTrue trivial

section Session
variable {σ : Type u} {ε : Type u} {x : EStateM ε σ α} {f : α → EStateM ε σ β} {s after : σ}

/-- A sequence that starts by reading the state. -/
theorem session_get {f : σ → EStateM ε σ β} : (get >>= f) s = f s s := rfl

/-- A sequence returns exactly when both calls do. -/
theorem session_ok {b : β} :
    (x >>= f) s = .ok b after ↔ ∃ a mid, x s = .ok a mid ∧ f a mid = .ok b after := by
  change EStateM.bind x f s = _ ↔ _
  rw [EStateM.bind]
  cases x s with
  | ok a mid => simp
  | error e mid => simp

/-- A sequence raises where its first call does, or else where the second does. -/
theorem session_error {e : ε} :
    (x >>= f) s = .error e after ↔
      x s = .error e after ∨ ∃ a mid, x s = .ok a mid ∧ f a mid = .error e after := by
  change EStateM.bind x f s = _ ↔ _
  rw [EStateM.bind]
  cases x s with
  | ok a mid => simp
  | error e mid => simp

end Session

end Numu.Outcome
