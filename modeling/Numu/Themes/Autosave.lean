import Mathlib.Data.List.DropRight
import Mathlib.Data.List.Nodup
import Mathlib.Logic.Function.Basic
import Numu.Foundation.Calendar
import Numu.Foundation.Run
import Numu.Orders.Order

/-!
# Autosaves of a theme draft

Each call reads the active theme, compares the etag it was sent with and later writes the draft; the
steps of different calls fall in any order.
-/

namespace Numu.Themes.Autosave
open Numu.IntegerText (isSpace strip)
open Numu.Orders (Time)

/-- `AUTOSAVE_RETENTION`. -/
def autosaveRetention : Nat := 20

/-- `_etag_from` of the `updated_at` column. -/
def etagFrom (updatedAt : Time) : String := Calendar.isoformat updatedAt

/-- `_normalize_etag`. -/
def normalizeEtag (value : String) : String :=
  let v := strip value.toList
  let v := if "W/".toList.isPrefixOf v then strip (v.drop 2) else v
  let v := if 2 ≤ v.length ∧ v.head? = some '"' ∧ v.getLast? = some '"' then v.tail.dropLast else v
  String.ofList v

/-- What drafts are made of: `validate` is `ThemeSettingsV3` with its transforms clamped, `legacy`
the mapper to the old settings and `same` Python's equality. -/
structure DraftFormat (π δ γ : Type*) where
  validate : π → Option δ
  legacy : δ → γ
  same : δ → δ → Bool

/-- The columns of a theme's row that an autosave reads and writes. -/
structure StoreTheme (δ γ : Type*) where
  draftCustomizationV3 : δ
  draftCustomization : γ
  updatedAt : Time

structure AutosaveCall (π : Type*) where
  payload : π
  expectedEtag : Option String
  /-- When its transaction began, which is what `now()` gives all through it. -/
  startedAt : Time

/-- Where a call is: it has yet to read, it has checked a payload against the row that it read, or
it is over. -/
inductive AutosavePhase (δ γ : Type*) where
  | waiting
  | checked (v3 : δ) (read : StoreTheme δ γ)
  | saved (v3 : δ)
  | stale (currentEtag : String)
  | invalid

/-- A write of a call over the row that was there. -/
structure Save (δ γ : Type*) where
  call : Nat
  replaced : StoreTheme δ γ

structure Editing (π δ γ : Type*) where
  storeTheme : StoreTheme δ γ
  calls : Nat → AutosaveCall π
  phase : Nat → AutosavePhase δ γ := fun _ => .waiting
  autosaves : List δ := []
  /-- What was written so far; no step reads it. -/
  saves : List (Save δ γ) := []

inductive AutosaveStep where
  | read (call : Nat)
  | write (call : Nat)
  deriving DecidableEq, Repr

section Steps
variable {π δ γ : Type*}

/-- The etag of the row is not the one that was expected. -/
def stale (expectedEtag : Option String) (current : StoreTheme δ γ) : Bool :=
  expectedEtag.any fun etag => normalizeEtag (etagFrom current.updatedAt) ≠ normalizeEtag etag

variable (format : DraftFormat π δ γ)

/-- `autosave_draft` up to its write. -/
def readPhase (call : AutosaveCall π) (current : StoreTheme δ γ) : AutosavePhase δ γ :=
  if stale call.expectedEtag current then .stale (etagFrom current.updatedAt)
  else
    match format.validate call.payload with
    | none => .invalid
    | some v3 => .checked v3 current

namespace Editing

/-- The check of a call against the row that is there. -/
def check (editing : Editing π δ γ) (i : Nat) : Editing π δ γ :=
  { editing with
    phase := Function.update editing.phase i
      (readPhase format (editing.calls i) editing.storeTheme) }

/-- The rest of a call that was checked: the row is updated whatever it has become. -/
def save (editing : Editing π δ γ) (i : Nat) (v3 : δ) (read : StoreTheme δ γ) : Editing π δ γ :=
  { editing with
    storeTheme :=
      { draftCustomizationV3 := v3
        draftCustomization := format.legacy v3
        updatedAt := (editing.calls i).startedAt }
    phase := Function.update editing.phase i (.saved v3)
    autosaves :=
      if format.same read.draftCustomizationV3 v3 then editing.autosaves
      else (editing.autosaves ++ [v3]).rtake autosaveRetention
    saves := editing.saves ++ [⟨i, editing.storeTheme⟩] }

/-- A step that is not the next one of its call does nothing. -/
def step (editing : Editing π δ γ) : AutosaveStep → Editing π δ γ
  | .read i =>
      match editing.phase i with
      | .waiting => editing.check format i
      | _ => editing
  | .write i =>
      match editing.phase i with
      | .checked v3 read => editing.save format i v3 read
      | _ => editing

def Saved (editing : Editing π δ γ) (i : Nat) : Prop := ∃ v3, editing.phase i = .saved v3

/-- At most one call succeeds with an etag, and each that carried one was applied to the draft that
its etag names. -/
structure Safe (editing : Editing π δ γ) : Prop where
  once : ∀ i j etag etag', editing.Saved i → editing.Saved j →
    (editing.calls i).expectedEtag = some etag → (editing.calls j).expectedEtag = some etag' →
      normalizeEtag etag = normalizeEtag etag' → i = j
  applied : ∀ i, editing.Saved i → ∃ save ∈ editing.saves, save.call = i ∧
    ∀ etag ∈ (editing.calls i).expectedEtag,
      normalizeEtag (etagFrom save.replaced.updatedAt) = normalizeEtag etag

/-- The instants that the row has had. -/
def instants (editing : Editing π δ γ) : List Time :=
  editing.saves.map (fun save => save.replaced.updatedAt) ++ [editing.storeTheme.updatedAt]

/-- The transaction of a write began at an instant that the row never had. -/
def Fresh (editing : Editing π δ γ) : AutosaveStep → Prop
  | .read _ => True
  | .write i =>
      match editing.phase i with
      | .checked _ _ => (editing.calls i).startedAt ∉ editing.instants
      | _ => True

/-- A write of a call with an etag finds the row as the call read it. -/
def Undisturbed (editing : Editing π δ γ) : AutosaveStep → Prop
  | .read _ => True
  | .write i =>
      match editing.phase i with
      | .checked _ read =>
          (editing.calls i).expectedEtag ≠ none →
            editing.storeTheme.updatedAt = read.updatedAt
      | _ => True

/-- No call has begun. -/
structure Opened (editing : Editing π δ γ) : Prop where
  phase : editing.phase = fun _ => .waiting
  saves : editing.saves = []

/-- Every save is of a call that ended with it and replaced what that call's etag names, and no
instant of the row comes twice. -/
structure Consistent (editing : Editing π δ γ) : Prop where
  distinct : editing.instants.Nodup
  checked : ∀ i v3 read, editing.phase i = .checked v3 read →
    stale (editing.calls i).expectedEtag read = false
  written : ∀ i, editing.Saved i → ∃ save ∈ editing.saves, save.call = i
  own : ∀ save ∈ editing.saves, editing.Saved save.call
  applied : ∀ save ∈ editing.saves, ∀ etag ∈ (editing.calls save.call).expectedEtag,
    normalizeEtag (etagFrom save.replaced.updatedAt) = normalizeEtag etag

end Editing

end Steps

/-! ## Etags -/

theorem normalizeEtag_of_plain {value : String}
    (plain : ∀ c ∈ value.toList, isSpace c = false ∧ c ≠ 'W' ∧ c ≠ '"') :
    normalizeEtag value = value := by
  have bare : strip value.toList = value.toList :=
    Numu.IntegerText.strip_eq_self _ fun c member => (plain c member).1
  have strong : "W/".toList.isPrefixOf value.toList = false := by
    cases chars : value.toList with
    | nil => rfl
    | cons c rest =>
        have other : c ≠ 'W' := (plain c (by rw [chars]; exact List.mem_cons_self)).2.1
        simp [List.isPrefixOf, other.symm]
  have unquoted : value.toList.head? ≠ some '"' := by
    intro quoted
    exact (plain '"' (List.mem_of_mem_head? quoted)).2.2 rfl
  simp only [normalizeEtag, bare, strong, unquoted, Bool.false_eq_true, if_false, false_and,
    and_false, String.ofList_toList]

theorem normalizeEtag_etagFrom (updatedAt : Time) :
    normalizeEtag (etagFrom updatedAt) = etagFrom updatedAt := by
  apply normalizeEtag_of_plain
  intro c member
  rcases Calendar.isoformat_chars updatedAt c member with digit | mark
  · refine ⟨Numu.IntegerText.digit_not_space c digit, ?_, ?_⟩ <;> rintro rfl <;> cases digit
  · have marks : ∀ d ∈ ['-', 'T', ':', '.', '+'], isSpace d = false ∧ d ≠ 'W' ∧ d ≠ '"' :=
      Numu.IntegerText.forall_mem_of_all (by decide)
    exact marks c mark

theorem normalizeEtag_etagFrom_injective {first second : Time}
    (same : normalizeEtag (etagFrom first) = normalizeEtag (etagFrom second)) :
    first = second := by
  rw [normalizeEtag_etagFrom, normalizeEtag_etagFrom] at same
  exact Calendar.isoformat_injective same

section Proofs
variable {π δ γ : Type*} {format : DraftFormat π δ γ} {editing : Editing π δ γ}

theorem stale_eq_false {expectedEtag : Option String} {current : StoreTheme δ γ} :
    stale expectedEtag current = false ↔
      ∀ etag ∈ expectedEtag,
        normalizeEtag (etagFrom current.updatedAt) = normalizeEtag etag := by
  cases expectedEtag <;> simp [stale]

/-- The etag that was given out with a row is stale exactly if the row was updated since. -/
theorem stale_etagFrom (updatedAt : Time) (current : StoreTheme δ γ) :
    stale (some (etagFrom updatedAt)) current = decide (current.updatedAt ≠ updatedAt) := by
  rw [stale, Option.any_some]
  apply decide_eq_decide.mpr
  exact not_congr ⟨normalizeEtag_etagFrom_injective, fun same => by rw [same]⟩

/-- A call that goes on to its write was not stale. -/
theorem readPhase_checked {call : AutosaveCall π} {current read : StoreTheme δ γ} {v3 : δ}
    (phase : readPhase format call current = .checked v3 read) :
    stale call.expectedEtag read = false := by
  unfold readPhase at phase
  split at phase
  · cases phase
  · rename_i fresh
    split at phase
    · cases phase
    · cases phase
      exact Bool.eq_false_iff.mpr fresh

theorem readPhase_not_saved (call : AutosaveCall π) (current : StoreTheme δ γ) (v3 : δ) :
    readPhase format call current ≠ .saved v3 := by
  unfold readPhase
  split
  · nofun
  · split <;> nofun

namespace Editing

theorem check_phase_self (i : Nat) :
    (editing.check format i).phase i = readPhase format (editing.calls i) editing.storeTheme :=
  Function.update_self i _ _

theorem check_phase_of_ne {i j : Nat} (other : j ≠ i) :
    (editing.check format i).phase j = editing.phase j :=
  Function.update_of_ne other _ _

theorem save_phase_self (i : Nat) (v3 : δ) (read : StoreTheme δ γ) :
    (editing.save format i v3 read).phase i = .saved v3 :=
  Function.update_self i _ _

theorem save_phase_of_ne {i j : Nat} (other : j ≠ i) (v3 : δ) (read : StoreTheme δ γ) :
    (editing.save format i v3 read).phase j = editing.phase j :=
  Function.update_of_ne other _ _

/-- A step does nothing, checks a waiting call or saves a checked one. -/
theorem step_cases (format : DraftFormat π δ γ) (editing : Editing π δ γ) (a : AutosaveStep) :
    (editing.step format a = editing ∧ editing.Undisturbed a) ∨
    (∃ i, a = .read i ∧ editing.phase i = .waiting ∧
      editing.step format a = editing.check format i) ∨
    (∃ i v3 read, a = .write i ∧ editing.phase i = .checked v3 read ∧
      editing.step format a = editing.save format i v3 read) := by
  cases a with
  | read i =>
      cases phase : editing.phase i with
      | waiting => exact .inr (.inl ⟨i, rfl, phase, by simp only [step, phase]⟩)
      | _ => exact .inl ⟨by simp only [step, phase], trivial⟩
  | write i =>
      cases phase : editing.phase i with
      | checked v3 read => exact .inr (.inr ⟨i, v3, read, rfl, phase, by simp only [step, phase]⟩)
      | _ => exact .inl ⟨by simp only [step, phase], by simp only [Undisturbed, phase]⟩

theorem Opened.consistent (opened : editing.Opened) : editing.Consistent where
  distinct := by
    rw [instants, opened.saves]
    exact List.nodup_singleton _
  checked i v3 read phase := by
    rw [opened.phase] at phase
    cases phase
  written i saved := by
    obtain ⟨v3, phase⟩ := saved
    rw [opened.phase] at phase
    cases phase
  own save member := by
    rw [opened.saves] at member
    cases member
  applied save member := by
    rw [opened.saves] at member
    cases member

/-- Two saves whose instants are written alike are one. -/
theorem Consistent.save_unique (consistent : editing.Consistent) {first second : Save δ γ}
    (member : first ∈ editing.saves) (member' : second ∈ editing.saves)
    (same : normalizeEtag (etagFrom first.replaced.updatedAt) =
      normalizeEtag (etagFrom second.replaced.updatedAt)) : first = second := by
  have distinct : (editing.saves.map fun save => save.replaced.updatedAt).Nodup :=
    (List.nodup_append.mp consistent.distinct).1
  exact List.inj_on_of_nodup_map distinct member member' (normalizeEtag_etagFrom_injective same)

theorem Consistent.safe (consistent : editing.Consistent) : editing.Safe where
  once i j etag etag' saved saved' expected expected' same := by
    obtain ⟨save, member, rfl⟩ := consistent.written i saved
    obtain ⟨save', member', rfl⟩ := consistent.written j saved'
    have names := consistent.applied save member etag expected
    have names' := consistent.applied save' member' etag' expected'
    rw [consistent.save_unique member member' (names.trans (same.trans names'.symm))]
  applied i saved := by
    obtain ⟨save, member, rfl⟩ := consistent.written i saved
    exact ⟨save, member, rfl, consistent.applied save member⟩

theorem Consistent.check (consistent : editing.Consistent) {i : Nat}
    (waiting : editing.phase i = .waiting) : (editing.check format i).Consistent := by
  refine ⟨consistent.distinct, ?_, ?_, ?_, consistent.applied⟩
  · intro j v3 read phase
    by_cases same : j = i
    · subst same
      rw [check_phase_self] at phase
      exact readPhase_checked phase
    · rw [check_phase_of_ne same] at phase
      exact consistent.checked j v3 read phase
  · rintro j ⟨v3, phase⟩
    by_cases same : j = i
    · subst same
      rw [check_phase_self] at phase
      exact absurd phase (readPhase_not_saved _ _ _)
    · rw [check_phase_of_ne same] at phase
      exact consistent.written j ⟨v3, phase⟩
  · intro save member
    obtain ⟨v3, phase⟩ := consistent.own save member
    have other : save.call ≠ i := by
      intro same
      rw [same, waiting] at phase
      cases phase
    exact ⟨v3, by rw [check_phase_of_ne other, phase]⟩

theorem Consistent.save (consistent : editing.Consistent) {i : Nat} {v3 : δ}
    {read : StoreTheme δ γ} (phase : editing.phase i = .checked v3 read)
    (fresh : editing.Fresh (.write i)) (undisturbed : editing.Undisturbed (.write i)) :
    (editing.save format i v3 read).Consistent := by
  simp only [Fresh, phase] at fresh
  simp only [Undisturbed, phase] at undisturbed
  refine ⟨?_, ?_, ?_, ?_, ?_⟩
  · -- The instant of the row that was replaced joins the others, and the new one is none of them.
    have instants_ : (editing.save format i v3 read).instants =
        editing.instants ++ [(editing.calls i).startedAt] := by
      simp only [instants, Editing.save, List.map_append, List.map_cons, List.map_nil]
    rw [instants_]
    refine List.nodup_append.mpr ⟨consistent.distinct, List.nodup_singleton _, ?_⟩
    rintro instant member _ here rfl
    exact fresh (List.mem_singleton.mp here ▸ member)
  · intro j w now checked
    by_cases same : j = i
    · subst same
      rw [save_phase_self] at checked
      cases checked
    · rw [save_phase_of_ne same] at checked
      exact consistent.checked j w now checked
  · rintro j ⟨w, saved⟩
    by_cases same : j = i
    · exact ⟨_, List.mem_append_right _ (List.mem_singleton.mpr rfl), same.symm⟩
    · rw [save_phase_of_ne same] at saved
      obtain ⟨save, member, call⟩ := consistent.written j ⟨w, saved⟩
      exact ⟨save, List.mem_append_left _ member, call⟩
  · intro save member
    by_cases same : save.call = i
    · exact ⟨v3, by rw [same, save_phase_self]⟩
    · rcases List.mem_append.mp member with old | new
      · obtain ⟨w, saved⟩ := consistent.own save old
        exact ⟨w, by rw [save_phase_of_ne same, saved]⟩
      · rw [List.mem_singleton.mp new] at same
        exact absurd rfl same
  · intro save member etag expected
    rcases List.mem_append.mp member with old | new
    · exact consistent.applied save old etag expected
    · rw [List.mem_singleton.mp new] at expected ⊢
      have carried : (editing.calls i).expectedEtag ≠ none := by
        intro missing
        rw [Editing.save, missing] at expected
        cases expected
      rw [undisturbed carried]
      exact stale_eq_false.mp (consistent.checked i v3 read phase) etag expected

theorem Consistent.step (a : AutosaveStep) (consistent : editing.Consistent)
    (fresh : editing.Fresh a) (undisturbed : editing.Undisturbed a) :
    (editing.step format a).Consistent := by
  rcases step_cases format editing a with
    ⟨same, -⟩ | ⟨i, rfl, waiting, next⟩ | ⟨i, v3, read, rfl, phase, next⟩
  · rw [same]
    exact consistent
  · rw [next]
    exact consistent.check waiting
  · rw [next]
    exact consistent.save phase fresh undisturbed

/-- A write after which everything is safe found the row that its call read. -/
theorem Consistent.undisturbed_of_safe (a : AutosaveStep) (consistent : editing.Consistent)
    (safe : (editing.step format a).Safe) : editing.Undisturbed a := by
  rcases step_cases format editing a with
    ⟨-, undisturbed⟩ | ⟨i, rfl, -, -⟩ | ⟨i, v3, read, rfl, phase, next⟩
  · exact undisturbed
  · trivial
  · simp only [Undisturbed, phase]
    intro carried
    obtain ⟨etag, expected⟩ := Option.ne_none_iff_exists'.mp carried
    rw [next] at safe
    obtain ⟨save, member, call, names⟩ := safe.applied i ⟨v3, save_phase_self i v3 read⟩
    rcases List.mem_append.mp member with old | new
    · -- Calls that were saved before are over.
      obtain ⟨w, saved⟩ := consistent.own save old
      rw [call, phase] at saved
      cases saved
    · rw [List.mem_singleton.mp new] at names
      have current := names etag expected
      have known := stale_eq_false.mp (consistent.checked i v3 read phase) etag expected
      exact normalizeEtag_etagFrom_injective (current.trans known.symm)

end Editing

open Editing in
/-- Where no instant of the row comes twice, autosaves are safe exactly as long as each write with
an etag finds the row as its call read it. -/
theorem autosaves_safe_iff (format : DraftFormat π δ γ) {start : Editing π δ γ}
    (opened : start.Opened) {steps : List AutosaveStep}
    (fresh : Run.Guarded (Editing.step format) Fresh start steps) :
    Run.Always (Editing.step format) Safe start steps ↔
      Run.Guarded (Editing.step format) Undisturbed start steps :=
  Run.always_iff_guarded_among (fun _ a consistent => consistent.step a)
    (fun _ consistent => consistent.safe)
    (fun _ a consistent _ safe => consistent.undisturbed_of_safe a safe) opened.consistent fresh

end Proofs

/-! ## Two tabs -/

/-- Drafts that are texts. -/
def textDrafts : DraftFormat String String String where
  validate := some
  legacy := id
  same := fun first second => first == second

/-- Two tabs that loaded the same draft, which was saved at `saved`. -/
def twoTabs (saved : Time) : Editing String String String where
  storeTheme := ⟨"hero", "hero", saved⟩
  calls := fun i =>
    { payload := if i = 0 then "hero, banner" else "hero, footer"
      expectedEtag := some (etagFrom saved)
      startedAt := saved + 1 + i }

theorem twoTabs_opened (saved : Time) : (twoTabs saved).Opened := ⟨rfl, rfl⟩

/-- One tab after the other: the second is told that its draft is stale. -/
theorem tabs_in_turn_safe :
    Run.Always (Editing.step textDrafts) Editing.Safe (twoTabs 7)
      [.read 0, .write 0, .read 1, .write 1] := by
  refine (autosaves_safe_iff textDrafts (twoTabs_opened 7) ?_).mpr ?_
  · simp [Run.Guarded, Editing.Fresh, Editing.instants, Editing.step, Editing.check, Editing.save,
      readPhase, stale_etagFrom, twoTabs, textDrafts]
  · simp [Run.Guarded, Editing.Undisturbed, Editing.step, Editing.check, Editing.save,
      readPhase, stale_etagFrom, twoTabs, textDrafts]

/-- Both tabs read before either writes: both succeed with one etag, and the draft of the first is
lost. -/
theorem second_tab_clobbers :
    (twoTabs 7).Opened ∧
    Run.Guarded (Editing.step textDrafts) Editing.Fresh (twoTabs 7)
      [.read 0, .read 1, .write 0, .write 1] ∧
    ¬ Run.Always (Editing.step textDrafts) Editing.Safe (twoTabs 7)
      [.read 0, .read 1, .write 0, .write 1] := by
  refine ⟨twoTabs_opened 7, ?_, ?_⟩
  · simp [Run.Guarded, Editing.Fresh, Editing.instants, Editing.step, Editing.check, Editing.save,
      readPhase, stale_etagFrom, twoTabs, textDrafts]
  · intro always
    have both : ∀ i ∈ [0, 1],
        Editing.Saved (Run.run (Editing.step textDrafts) (twoTabs 7)
          [.read 0, .read 1, .write 0, .write 1]) i ∧
        ((Run.run (Editing.step textDrafts) (twoTabs 7)
          [.read 0, .read 1, .write 0, .write 1]).calls i).expectedEtag = some (etagFrom 7) := by
      simp [Editing.Saved, Editing.step, Editing.check, Editing.save, readPhase, stale_etagFrom,
        twoTabs, textDrafts]
    obtain ⟨first, etag⟩ := both 0 (by decide)
    obtain ⟨second, etag'⟩ := both 1 (by decide)
    exact absurd (always.last.once 0 1 _ _ first second etag etag' rfl) (by decide)

end Numu.Themes.Autosave
