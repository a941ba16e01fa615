import Numu.Auth.RefreshToken
import Numu.Foundation.Pointwise
import Numu.Foundation.Run

/-!
# One pair for each token

A call reads whether the token has been used, and marks it later; the pair is remembered later
still. What a second call is given depends on where it lands.
-/

namespace Numu.Auth
open Numu.Orders (Time)

namespace Session

/-- The end of the grace window, where the token was consumed at an instant. -/
def graceEnd (session : Session) (consumed : Time) : Time :=
  consumed + seconds session.settings.refreshRotationGraceSeconds.toNat

/-- The call came before the grace window had ended. -/
def InGrace (session : Session) (call : Call) : Prop :=
  ∃ consumed ∈ session.consumedAt, call.presentedAt < session.graceEnd consumed

instance (session : Session) (call : Call) : Decidable (session.InGrace call) :=
  inferInstanceAs (Decidable (∃ consumed ∈ session.consumedAt, _))

/-- The call came after the grace window had ended. -/
def PastGrace (session : Session) (call : Call) : Prop :=
  ∃ consumed ∈ session.consumedAt, session.graceEnd consumed ≤ call.presentedAt

instance (session : Session) (call : Call) : Decidable (session.PastGrace call) :=
  inferInstanceAs (Decidable (∃ consumed ∈ session.consumedAt, _))

/-- The call came in the grace window. -/
def InWindow (session : Session) (call : Call) : Prop :=
  call.afterUse = true ∧ session.InGrace call

instance (session : Session) (call : Call) : Decidable (session.InWindow call) :=
  inferInstanceAs (Decidable (_ ∧ _))

/-- One pair at most is issued for the token, each pair given out is that one, a call in the grace
window that ends is given it, and only calls after the window revoke the family. -/
structure RotatesOnce (session : Session) : Prop where
  once : session.minted.length ≤ 1
  given : ∀ call ∈ session.calls, ∀ pair, call.stage = .done (.ok pair) → pair ∈ session.minted
  graced : ∀ call ∈ session.calls, session.InWindow call →
    ∀ error, call.stage ≠ .done (.error error)
  revoked : ∀ call ∈ session.revocations, session.PastGrace call

/-- A call marks the token used before any other has; one that comes before the window's end finds
the token unexpired, its family not revoked, the token's mark and, if it asks for it, the pair. -/
def InTurn (session : Session) (label : Time × SessionEvent) : Prop :=
  match label.2 with
  | .present =>
      ∀ consumed ∈ session.consumedAt, label.1 < session.graceEnd consumed →
        label.1 < seconds session.token.exp
  | .checkFamily index =>
      ∀ call ∈ session.calls[index]?, call.stage = .checkFamily → session.InWindow call →
        session.keys.isFamilyRevoked label.1 = false
  | .checkUsed index =>
      ∀ call ∈ session.calls[index]?, call.stage = .checkUsed → session.InWindow call →
        session.keys.isUsed label.1 = true
  | .readRotation index =>
      ∀ call ∈ session.calls[index]?, call.stage = .readRotation → session.InGrace call →
        session.keys.getRotation label.1 ≠ none
  | .markUsed index =>
      ∀ call ∈ session.calls[index]?, call.stage = .markUsed → session.consumedAt = none
  | _ => True

instance : ∀ (session : Session) (label : Time × SessionEvent), Decidable (session.InTurn label)
  | session, (_, .present) => inferInstanceAs (Decidable (∀ consumed ∈ session.consumedAt, _ → _))
  | session, (_, .checkFamily index) | session, (_, .checkUsed index)
  | session, (_, .readRotation index) =>
      inferInstanceAs (Decidable (∀ call ∈ session.calls[index]?, _ → _ → _))
  | session, (_, .markUsed index) =>
      inferInstanceAs (Decidable (∀ call ∈ session.calls[index]?, _ → _))
  | _, (_, .checkRevoked _) | _, (_, .revokeFamily _) | _, (_, .loadUser ..) | _, (_, .mint ..)
  | _, (_, .remember _) => inferInstanceAs (Decidable True)

/-- The token can be used: it is a refresh token, and its user's sessions stand. -/
def Accepts (session : Session) : Prop :=
  session.token.tokenType = "refresh" ∧ session.keys.isRevoked session.token.iat = false

end Session

/-- What a call at each stage has found. -/
def Stage.Sound (session : Session) (call : Call) : Stage → Prop
  | .checkRevoked => session.token.tokenType = "refresh"
  | .checkFamily | .checkUsed => session.Accepts
  | .readRotation => session.Accepts ∧ session.consumedAt ≠ none
  | .revokeFamily => session.PastGrace call
  | .loadUser | .markUsed => session.Accepts ∧ ¬ session.InWindow call
  | .mint => session.consumedAt ≠ none ∧ ¬ session.InWindow call
  | .remember pair => pair ∈ session.minted ∧ ¬ session.InWindow call
  | .done (.ok pair) => pair ∈ session.minted
  | .done (.error _) => ¬ session.InWindow call

/-- A call between two steps. -/
structure Call.Sound (session : Session) (call : Call) : Prop where
  unused : session.consumedAt = none → call.afterUse = false
  stage : call.stage.Sound session call

namespace Session

/-- What a run has kept of its token. -/
structure Rotating (session : Session) : Prop where
  jti : truthy session.token.jti = true
  calls : ∀ call ∈ session.calls, call.Sound session
  accepts : session.consumedAt ≠ none → session.Accepts
  used : session.keys.used ≠ none → session.consumedAt ≠ none
  recorded : ∀ rotated ∈ session.keys.rotated, rotated.1 ∈ session.minted
  budget : session.minted.length + session.calls.countP (·.stage = .mint) ≤ 1
  unminted : session.consumedAt = none → session.minted = []
  revoked : ∀ call ∈ session.revocations, session.PastGrace call

theorem Rotating.rotatesOnce {session : Session} (rotating : Rotating session) :
    RotatesOnce session where
  once := Nat.le_of_add_right_le rotating.budget
  given := by
    intro call mem pair ended
    have stage := (rotating.calls call mem).stage
    rw [ended] at stage
    exact stage
  graced := by
    intro call mem window error ended
    have stage := (rotating.calls call mem).stage
    rw [ended] at stage
    exact stage window
  revoked := rotating.revoked

namespace Rotating
variable {session after : Session} {now : Time} {index : Nat}

/-- What the other calls go by: nothing of it is taken back. -/
structure Grows (session after : Session) : Prop where
  token : after.token = session.token
  settings : after.settings = session.settings
  revokedAt : after.keys.revokedAt = session.keys.revokedAt
  minted : session.minted ⊆ after.minted
  consumedAt : session.consumedAt = none ∨ after.consumedAt = session.consumedAt

namespace Grows

theorem accepts (grows : Grows session after) (accepts : session.Accepts) : after.Accepts := by
  rw [Accepts, Keys.isRevoked, grows.token, grows.revokedAt]
  exact accepts

theorem consumed (grows : Grows session after) (consumed : session.consumedAt ≠ none) :
    after.consumedAt ≠ none := by
  rcases grows.consumedAt with missing | same
  · exact absurd missing consumed
  · rw [same]
    exact consumed

theorem pastGrace (grows : Grows session after) {call : Call} (past : session.PastGrace call) :
    after.PastGrace call := by
  rcases past with ⟨consumed, there, past⟩
  rcases grows.consumedAt with missing | same
  · rw [missing] at there
    cases there
  · refine ⟨consumed, same.symm ▸ there, ?_⟩
    rw [graceEnd, grows.settings]
    exact past

theorem notInWindow (grows : Grows session after) {call : Call}
    (unused : session.consumedAt = none → call.afterUse = false)
    (outside : ¬ session.InWindow call) : ¬ after.InWindow call := by
  rintro ⟨afterUse, consumed, there, early⟩
  rcases grows.consumedAt with missing | same
  · rw [unused missing] at afterUse
    cases afterUse
  · rw [graceEnd, grows.settings] at early
    exact outside ⟨afterUse, consumed, same ▸ there, early⟩

theorem sound (grows : Grows session after) {call : Call} (sound : call.Sound session) :
    call.Sound after where
  unused := by
    intro missing
    apply sound.unused
    by_contra consumed
    exact grows.consumed consumed missing
  stage := by
    have stage := sound.stage
    have outside : ¬ session.InWindow call → ¬ after.InWindow call := grows.notInWindow sound.unused
    revert stage
    cases call.stage with
    | checkRevoked => exact (congrArg TokenPayload.tokenType grows.token).trans
    | checkFamily | checkUsed => exact grows.accepts
    | readRotation => exact fun found => ⟨grows.accepts found.1, grows.consumed found.2⟩
    | revokeFamily => exact grows.pastGrace
    | loadUser | markUsed => exact fun found => ⟨grows.accepts found.1, outside found.2⟩
    | mint => exact fun found => ⟨grows.consumed found.1, outside found.2⟩
    | remember pair => exact fun found => ⟨grows.minted found.1, outside found.2⟩
    | done result =>
        cases result with
        | ok pair => exact fun given => grows.minted given
        | error error => exact outside

end Grows

/-- The calls when one of them goes on. -/
theorem calls_goTo (rotating : Rotating session) (grows : Grows session after) {call : Call}
    {stage : Stage} (found : session.calls[index]? = some call)
    (calls : after.calls = session.goTo index stage) (sound : stage.Sound after call) :
    ∀ other ∈ after.calls, other.Sound after := by
  intro other mem
  rw [calls] at mem
  rcases Pointwise.mem_modify mem with before | ⟨old, there, rfl⟩
  · exact grows.sound (rotating.calls other before)
  · rw [found] at there
    cases there
    have before := grows.sound (rotating.calls call (List.mem_of_getElem? found))
    refine ⟨before.unused, ?_⟩
    cases stage <;> exact sound

theorem minting_goTo {call : Call} (stage : Stage) (found : session.calls[index]? = some call) :
    (session.goTo index stage).countP (·.stage = .mint) + (if call.stage = .mint then 1 else 0) =
      session.calls.countP (·.stage = .mint) + if stage = .mint then 1 else 0 := by
  have counted := Pointwise.countP_modify (p := fun call => decide (call.stage = .mint))
    (f := fun call => { call with stage := stage }) found
  rw [goTo]
  simpa only [decide_eq_true_eq] using counted

/-- A call goes on, and nothing else changes. -/
theorem goes (rotating : Rotating session) {call : Call} {stage : Stage}
    (found : session.calls[index]? = some call) (sound : stage.Sound session call)
    (mints : stage ≠ .mint) : Rotating { session with calls := session.goTo index stage } where
  jti := rotating.jti
  calls := rotating.calls_goTo ⟨rfl, rfl, rfl, List.Subset.refl _, Or.inr rfl⟩ found rfl
    (by cases stage <;> exact sound)
  accepts := rotating.accepts
  used := rotating.used
  recorded := rotating.recorded
  budget := by
    have budget := rotating.budget
    have counted := minting_goTo stage found
    rw [if_neg mints] at counted
    dsimp only
    omega
  unminted := rotating.unminted
  revoked := rotating.revoked

/-- What a call at a stage has found. -/
theorem soundAt (rotating : Rotating session) {call : Call} {stage : Stage}
    (found : session.calls[index]? = some call) (at_ : call.stage = stage) :
    stage.Sound session call := by
  have sound := (rotating.calls call (List.mem_of_getElem? found)).stage
  rw [at_] at sound
  cases stage <;> exact sound

theorem PastGrace.notInWindow {call : Call} (past : session.PastGrace call) :
    ¬ session.InWindow call := by
  rcases past with ⟨consumed, there, past⟩
  rintro ⟨-, other, also, early⟩
  rw [Option.mem_def.mp there] at also
  cases also
  exact absurd early (Nat.not_lt.mpr past)

theorem present (rotating : Rotating session) (inTurn : session.InTurn (now, .present)) :
    Rotating (session.present now) where
  jti := rotating.jti
  calls := by
    intro call mem
    rcases List.mem_append.mp mem with before | new
    · refine Grows.sound ?_ (rotating.calls call before)
      exact ⟨rfl, rfl, rfl, List.Subset.refl _, Or.inr rfl⟩
    · rw [List.mem_singleton.mp new]
      constructor
      · intro missing
        have missing : session.consumedAt = none := missing
        exact congrArg Option.isSome missing
      · dsimp only
        split
        · rename_i expired
          rintro ⟨-, consumed, there, early⟩
          exact absurd (inTurn consumed there early) (Nat.not_lt.mpr expired)
        · split
          · rename_i other
            rintro ⟨-, consumed, there, -⟩
            exact other (rotating.accepts (Option.ne_none_iff_exists'.mpr ⟨consumed, there⟩)).1
          · rename_i refreshes
            exact not_not.mp refreshes
  accepts := rotating.accepts
  used := rotating.used
  recorded := rotating.recorded
  budget := by
    have none_ : ∀ stage : Stage, stage = (if seconds session.token.exp ≤ now then
        .done (.error .tokenExpired)
        else if session.token.tokenType ≠ "refresh" then .done (.error .invalidToken)
        else .checkRevoked) → stage ≠ .mint := by
      rintro stage rfl
      split
      · exact Stage.noConfusion
      · split <;> exact Stage.noConfusion
    rw [Session.present, List.countP_append, List.countP_singleton,
      decide_eq_false (none_ _ rfl)]
    exact rotating.budget
  unminted := rotating.unminted
  revoked := rotating.revoked

theorem checkRevoked (rotating : Rotating session) : Rotating (session.checkRevoked index) := by
  rw [Session.checkRevoked]
  split
  · rename_i there
    rcases there with ⟨call, found, at_⟩
    have refreshes := rotating.soundAt found at_
    split
    · rename_i revoked
      refine rotating.goes found ?_ Stage.noConfusion
      rintro ⟨-, consumed, there, -⟩
      have accepts := rotating.accepts (Option.ne_none_iff_exists'.mpr ⟨consumed, there⟩)
      rw [accepts.2] at revoked
      cases revoked
    · rename_i stands
      exact rotating.goes found ⟨refreshes, Bool.eq_false_of_not_eq_true stands⟩ Stage.noConfusion
  · exact rotating

theorem checkFamily (rotating : Rotating session) (inTurn : session.InTurn (now, .checkFamily index)) :
    Rotating (session.checkFamily index now) := by
  rw [Session.checkFamily]
  split
  · rename_i there
    rcases there with ⟨call, found, at_⟩
    split
    · rename_i revoked
      refine rotating.goes found ?_ Stage.noConfusion
      intro window
      rw [inTurn call found at_ window, Bool.and_false] at revoked
      cases revoked
    · have accepts : session.Accepts := rotating.soundAt found at_
      exact rotating.goes found accepts Stage.noConfusion
  · exact rotating

theorem checkUsed (rotating : Rotating session) (inTurn : session.InTurn (now, .checkUsed index)) :
    Rotating (session.checkUsed index now) := by
  rw [Session.checkUsed, rotating.jti, Bool.true_and]
  split
  · rename_i there
    rcases there with ⟨call, found, at_⟩
    have accepts := rotating.soundAt found at_
    split
    · rename_i used
      refine rotating.goes found ⟨accepts, rotating.used ?_⟩ Stage.noConfusion
      intro missing
      rw [Keys.isUsed, missing] at used
      cases used
    · rename_i unused
      exact rotating.goes found ⟨accepts, fun window => unused (inTurn call found at_ window)⟩
        Stage.noConfusion
  · exact rotating

theorem readRotation (rotating : Rotating session)
    (inTurn : session.InTurn (now, .readRotation index)) :
    Rotating (session.readRotation index now) := by
  rw [Session.readRotation]
  split
  · rename_i there
    rcases there with ⟨call, found, at_⟩
    split
    · rename_i graced read
      refine rotating.goes found ?_ Stage.noConfusion
      rw [Keys.getRotation, Option.map_eq_some_iff] at read
      rcases read with ⟨rotated, live, rfl⟩
      exact rotating.recorded rotated (Option.filter_eq_some_iff.mp live).1
    · rename_i missing
      refine rotating.goes found ?_ Stage.noConfusion
      rcases Option.ne_none_iff_exists'.mp (rotating.soundAt found at_).2 with ⟨consumed, there⟩
      refine ⟨consumed, there, ?_⟩
      by_contra early
      exact inTurn call found at_ ⟨consumed, there, Nat.lt_of_not_le early⟩ missing
  · exact rotating

theorem revokeFamily (rotating : Rotating session) : Rotating (session.revokeFamily index now) := by
  rw [Session.revokeFamily]
  split
  · rename_i there
    rcases there with ⟨call, found, at_⟩
    have past : session.PastGrace call := rotating.soundAt found at_
    have refused : Rotating
        { session with calls := session.goTo index (.done (.error .invalidToken)) } :=
      rotating.goes found (PastGrace.notInWindow past) Stage.noConfusion
    dsimp only
    split
    · refine ⟨refused.jti, ?_, refused.accepts, refused.used, refused.recorded, refused.budget,
        refused.unminted, ?_⟩
      · intro other mem
        refine Grows.sound ?_ (refused.calls other mem)
        exact ⟨rfl, rfl, rfl, List.Subset.refl _, Or.inr rfl⟩
      · intro other mem
        rcases List.mem_append.mp mem with before | new
        · exact rotating.revoked other before
        · rw [found] at new
          rw [List.mem_singleton.mp new]
          exact past
    · exact refused
  · exact rotating

theorem loadUser (rotating : Rotating session) {found_ : Bool} :
    Rotating (session.loadUser index found_) := by
  rw [Session.loadUser]
  split
  · rename_i there
    rcases there with ⟨call, found, at_⟩
    have unused := rotating.soundAt found at_
    split
    · exact rotating.goes found unused Stage.noConfusion
    · exact rotating.goes found unused.2 Stage.noConfusion
  · exact rotating

theorem markUsed (rotating : Rotating session) (inTurn : session.InTurn (now, .markUsed index)) :
    Rotating (session.markUsed index now) := by
  rw [Session.markUsed, rotating.jti, if_pos rfl]
  split
  · rename_i there
    rcases there with ⟨call, found, at_⟩
    have first : session.consumedAt = none := inTurn call found at_
    have unused := (rotating.calls call (List.mem_of_getElem? found)).unused first
    have accepts := (rotating.soundAt found at_).1
    rw [first]
    have grows : Grows session {
        session with
        keys := session.keys.markUsed session.token.exp now
        calls := session.goTo index .mint
        consumedAt := some now } := ⟨rfl, rfl, rfl, List.Subset.refl _, Or.inl first⟩
    refine ⟨rotating.jti, ?_, fun _ => accepts, fun _ => Option.some_ne_none _, rotating.recorded,
      ?_, nofun, fun other mem => grows.pastGrace (rotating.revoked other mem)⟩
    · refine rotating.calls_goTo grows found rfl ⟨Option.some_ne_none _, ?_⟩
      rintro ⟨afterUse, -⟩
      rw [unused] at afterUse
      cases afterUse
    · have none_ : session.calls.countP (·.stage = .mint) = 0 := by
        rw [List.countP_eq_zero]
        intro other mem minting
        have sound := (rotating.calls other mem).stage
        rw [of_decide_eq_true minting] at sound
        exact sound.1 first
      have counted := minting_goTo .mint found
      dsimp only
      rw [rotating.unminted first, List.length_nil]
      rw [none_, at_] at counted
      rw [if_neg Stage.noConfusion, if_pos rfl] at counted
      omega
  · exact rotating

theorem mint (rotating : Rotating session) {pair : TokenPair} :
    Rotating (session.mint index pair) := by
  rw [Session.mint]
  split
  · rename_i there
    rcases there with ⟨call, found, at_⟩
    have sound := rotating.soundAt found at_
    have grows : Grows session {
        session with
        calls := session.goTo index (.remember pair)
        minted := session.minted ++ [pair] } :=
      ⟨rfl, rfl, rfl, List.subset_append_left _ _, Or.inr rfl⟩
    refine ⟨rotating.jti, ?_, rotating.accepts, rotating.used, ?_, ?_,
      fun missing => absurd missing sound.1, rotating.revoked⟩
    · refine rotating.calls_goTo grows found rfl ⟨List.mem_append_right _ ?_, sound.2⟩
      exact List.mem_singleton_self pair
    · exact fun rotated there => List.mem_append_left _ (rotating.recorded rotated there)
    · have budget := rotating.budget
      have counted := minting_goTo (.remember pair) found
      rw [if_pos at_, if_neg Stage.noConfusion] at counted
      dsimp only
      rw [List.length_append, List.length_singleton]
      omega
  · exact rotating

theorem remember (rotating : Rotating session) : Rotating (session.remember index now) := by
  rw [Session.remember.eq_def]
  split
  · rename_i presentedAt afterUse pair found
    have sound := rotating.soundAt found rfl
    have done : Rotating { session with calls := session.goTo index (.done (.ok pair)) } :=
      rotating.goes found sound.1 Stage.noConfusion
    rw [rotating.jti, if_pos rfl, Keys.rememberRotation]
    split
    · exact done
    · refine ⟨done.jti, ?_, done.accepts, done.used, ?_, done.budget, done.unminted, done.revoked⟩
      · intro other mem
        refine Grows.sound ?_ (done.calls other mem)
        exact ⟨rfl, rfl, rfl, List.Subset.refl _, Or.inr rfl⟩
      · rintro rotated ⟨⟩
        exact sound.1
  · exact rotating

theorem step (rotating : Rotating session) {event : SessionEvent}
    (inTurn : session.InTurn (now, event)) : Rotating (session.step (now, event)) := by
  cases event with
  | present => exact rotating.present inTurn
  | checkRevoked index => exact rotating.checkRevoked
  | checkFamily index => exact rotating.checkFamily inTurn
  | checkUsed index => exact rotating.checkUsed inTurn
  | readRotation index => exact rotating.readRotation inTurn
  | revokeFamily index => exact rotating.revokeFamily
  | loadUser index found => exact rotating.loadUser
  | markUsed index => exact rotating.markUsed inTurn
  | mint index pair => exact rotating.mint
  | remember index => exact rotating.remember

end Rotating

/-- No call has presented the token yet; its family and its user's sessions may stand or not. -/
def unused (settings : Settings) (token : TokenPayload) (familyRevoked : Option Time)
    (revokedAt : Option Nat) : Session where
  settings := settings
  token := token
  keys := { familyRevoked := familyRevoked, revokedAt := revokedAt }

theorem rotating_unused {settings : Settings} {token : TokenPayload} {familyRevoked : Option Time}
    {revokedAt : Option Nat} (jti : truthy token.jti = true) :
    Rotating (unused settings token familyRevoked revokedAt) where
  jti := jti
  calls := fun _ mem => absurd mem List.not_mem_nil
  accepts := fun consumed => absurd rfl consumed
  used := fun used => absurd rfl used
  recorded := fun _ there => absurd there (Option.not_mem_none _)
  budget := Nat.zero_le 1
  unminted := fun _ => rfl
  revoked := fun _ mem => absurd mem List.not_mem_nil

/-- One pair for a token, for whatever calls present it and however their operations fall, as long
as each marks, reads and asks in its turn. -/
theorem rotates_once {settings : Settings} {token : TokenPayload} {familyRevoked : Option Time}
    {revokedAt : Option Nat} {labels : List (Time × SessionEvent)}
    (jti : truthy token.jti = true)
    (inTurn : Run.Guarded step InTurn (unused settings token familyRevoked revokedAt) labels) :
    Run.Always step RotatesOnce (unused settings token familyRevoked revokedAt) labels := by
  have keeps : ∀ session label, Rotating session → InTurn session label →
      Rotating (session.step label) := fun _ _ rotating guard => rotating.step guard
  have always := Run.always_of_guarded keeps (rotating_unused jti) inTurn
  exact always.mono fun _ rotating => rotating.rotatesOnce

def monthToken : TokenPayload where
  exp := 2592000
  tokenType := "refresh"
  iat := 0
  jti := some "j1"
  familyId := some "f1"

/-- A call up to its mark. -/
def upToMark (second index : Nat) : List (Time × SessionEvent) :=
  [(seconds second, .present), (seconds second, .checkRevoked index),
    (seconds second, .checkFamily index), (seconds second, .checkUsed index),
    (seconds second, .loadUser index true)]

def rotate (second index : Nat) (pair : TokenPair) : List (Time × SessionEvent) :=
  [(seconds second, .markUsed index), (seconds second, .mint index pair),
    (seconds second, .remember index)]

/-- A call that finds the token used. -/
def again (second index : Nat) : List (Time × SessionEvent) :=
  [(seconds second, .present), (seconds second, .checkRevoked index),
    (seconds second, .checkFamily index), (seconds second, .checkUsed index),
    (seconds second, .readRotation index), (seconds second, .revokeFamily index)]

/-- A second tab ten seconds later is given the same pair, and a replay two minutes later revokes
the family. -/
theorem second_tab_and_replay :
    Run.Always step RotatesOnce (unused {} monthToken none none)
      (upToMark 1 0 ++ rotate 1 0 ⟨"a1", "r1"⟩ ++ again 11 1 ++ again 121 2) :=
  rotates_once (by decide) (by decide +kernel)

/-- Two tabs ask at once, both before either has marked the token: two pairs. -/
theorem racing_tabs_mint_two_pairs :
    ¬ Run.Always step RotatesOnce (unused {} monthToken none none)
      (upToMark 1 0 ++ upToMark 1 1 ++ rotate 1 0 ⟨"a1", "r1"⟩ ++ rotate 1 1 ⟨"a2", "r2"⟩) := by
  intro always
  have once := always.last.once
  exact absurd once (by decide +kernel)

end Session
end Numu.Auth
