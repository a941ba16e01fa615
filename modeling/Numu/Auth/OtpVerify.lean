import Numu.Foundation.Pointwise
import Numu.Foundation.Run
import Numu.Orders.Order

/-!
# Verifying one one-time code

The calls of `verify_otp_row` on one row of `otp_codes`. A call reads the row, spends an attempt
by one conditional `UPDATE`, and judges the submitted code with what it has read; any number of
calls take these steps in any order.
-/

namespace Numu.Auth.Otp
open Numu.Orders (Time)

/-- A `datetime` by its wall clock, in microseconds, and its offset where it has one. -/
structure Datetime where
  wall : Int
  utcoffset : Option Int
  deriving DecidableEq, Repr

/-- `value if value.tzinfo else value.replace(tzinfo=UTC)`. -/
def Datetime.aware (value : Datetime) : Datetime :=
  match value.utcoffset with
  | some _ => value
  | none => { value with utcoffset := some 0 }

def Datetime.instant (value : Datetime) : Int := value.wall - value.utcoffset.getD 0

inductive OtpError where
  /-- `OTP hash salt is required (PLATFORM_SECRET_SALT)`. -/
  | saltRequired
  /-- `compare_digest` takes no strings but ASCII ones. -/
  | notAscii
  deriving DecidableEq, Repr

inductive OtpVerdict where
  | verified
  | wrongCode
  | locked
  | expired
  | unknown
  deriving DecidableEq, Repr

structure OtpVerifyResult where
  verdict : OtpVerdict
  attemptsLeft : Int := 0
  deriving DecidableEq, Repr

/-- The columns of an `otp_codes` row that a verification goes by. -/
structure OtpCode where
  codeHash : String
  expiresAt : Datetime
  attemptsLeft : Int
  verifiedAt : Option Time
  deriving DecidableEq, Repr

/-- What a call came to, and whether it had its code compared with the stored hash. -/
structure Judgement where
  compared : Bool := false
  result : Except OtpError OtpVerifyResult

section Evaluate
/- HMAC-SHA256 of a message under a key, in hexadecimal. -/
variable (hmac : String → String → String)

def hashCode (code salt : String) : Except OtpError String :=
  if salt = "" then .error .saltRequired else .ok (hmac salt code)

/-- `hmac.compare_digest`. -/
def compareDigest (a b : String) : Except OtpError Bool :=
  if a.toList.all (·.toNat < 128) && b.toList.all (·.toNat < 128) then .ok (a == b)
  else .error .notAscii

def codesMatch (submitted storedHash salt : String) : Except OtpError Bool := do
  compareDigest (← hashCode hmac submitted salt) storedHash

def evaluateVerify (submittedCode storedHash salt : String) (expiresAt : Datetime)
    (attemptsLeft : Int) (verifiedAt : Option Time) (now : Int) : Judgement :=
  -- Expiry first: a verified row would otherwise verify again forever.
  if expiresAt.instant ≤ now then { result := .ok { verdict := .expired } }
  else if verifiedAt.isSome then { result := .ok { verdict := .verified, attemptsLeft } }
  else if attemptsLeft ≤ 0 then { result := .ok { verdict := .locked } }
  else
    { compared := true
      result := do
        if ← codesMatch hmac submittedCode storedHash salt then
          return { verdict := .verified, attemptsLeft }
        else return { verdict := .wrongCode, attemptsLeft := attemptsLeft - 1 } }

theorem evaluateVerify_compared {submittedCode storedHash salt : String} {expiresAt : Datetime}
    {attemptsLeft : Int} {verifiedAt : Option Time} {now : Int}
    (compared : (evaluateVerify hmac submittedCode storedHash salt expiresAt attemptsLeft verifiedAt
      now).compared = true) : verifiedAt = none ∧ 0 < attemptsLeft := by
  rw [evaluateVerify] at compared
  split at compared
  · cases compared
  · split at compared
    · cases compared
    · rename_i unverified
      split at compared
      · cases compared
      · rename_i enough
        exact ⟨by simpa using unverified, by omega⟩

/-- A verdict is `VERIFIED` for a row that was so when it was read, or for a code that matches. -/
theorem evaluateVerify_verified {submittedCode storedHash salt : String} {expiresAt : Datetime}
    {attemptsLeft : Int} {verifiedAt : Option Time} {now : Int} {result : OtpVerifyResult}
    (judged : (evaluateVerify hmac submittedCode storedHash salt expiresAt attemptsLeft verifiedAt
      now).result = .ok result) (verified : result.verdict = .verified) :
    now < expiresAt.instant ∧ (verifiedAt = none →
      (evaluateVerify hmac submittedCode storedHash salt expiresAt attemptsLeft verifiedAt
        now).compared = true ∧ codesMatch hmac submittedCode storedHash salt = .ok true) := by
  by_cases ended : expiresAt.instant ≤ now
  · rw [evaluateVerify, if_pos ended] at judged
    cases judged
    cases verified
  refine ⟨by omega, fun unverified => ?_⟩
  subst unverified
  have open_ : ¬ (none : Option Time).isSome = true := nofun
  by_cases spent : attemptsLeft ≤ 0
  · rw [evaluateVerify, if_neg ended, if_neg open_, if_pos spent] at judged
    cases judged
    cases verified
  rw [evaluateVerify, if_neg ended, if_neg open_, if_neg spent] at judged ⊢
  refine ⟨rfl, ?_⟩
  cases matched : codesMatch hmac submittedCode storedHash salt with
  | error error =>
      simp only [matched] at judged
      cases judged
  | ok agrees =>
      cases agrees with
      | true => rfl
      | false =>
          simp only [matched] at judged
          cases judged
          cases verified

end Evaluate

/-- `UPDATE … SET attempts_left = attempts_left - 1 WHERE … attempts_left > 0 RETURNING
attempts_left`. -/
def spendAttempt (row : OtpCode) : OtpCode × Option Int :=
  if 0 < row.attemptsLeft then
    ({ row with attemptsLeft := row.attemptsLeft - 1 }, some (row.attemptsLeft - 1))
  else (row, none)

/-- The operation that a call does next. -/
inductive Stage where
  | spend
  | judge (attemptsLeft : Int)
  | done (now : Int) (judgement : Judgement)

/-- A call of `verify_otp_row`, with the row as the call read it. -/
structure Call where
  submittedCode : String
  salt : String
  otp : OtpCode
  stage : Stage

/-- The row, and the calls that have come in. -/
structure Session where
  row : OtpCode
  calls : List Call := []

/-- What happens next: a call reads the row, a call does its next operation, or somebody marks the
row verified. -/
inductive Event where
  | read (submittedCode salt : String)
  | spend (index : Nat)
  | judge (index : Nat) (now : Int)
  | mark (now : Time)

namespace Session
variable (hmac : String → String → String)

def read (session : Session) (submittedCode salt : String) : Session :=
  let otp := session.row
  let stage := if otp.verifiedAt.isNone then .spend else .judge otp.attemptsLeft
  { session with calls := session.calls ++ [{ submittedCode, salt, otp, stage }] }

def goTo (session : Session) (index : Nat) (stage : Stage) : List Call :=
  session.calls.modify index fun call => { call with stage := stage }

def spend (session : Session) (index : Nat) : Session :=
  match session.calls[index]? with
  | some { stage := .spend, .. } =>
      let (row, spent) := spendAttempt session.row
      -- The count before this attempt.
      { row, calls := session.goTo index (.judge (spent.elim 0 (· + 1))) }
  | _ => session

def judge (session : Session) (index : Nat) (now : Int) : Session :=
  match session.calls[index]? with
  | some { stage := .judge attemptsLeft, submittedCode, salt, otp } =>
      let judgement := evaluateVerify hmac submittedCode otp.codeHash salt otp.expiresAt.aware
        attemptsLeft otp.verifiedAt now
      { session with calls := session.goTo index (.done now judgement) }
  | _ => session

def mark (session : Session) (now : Time) : Session :=
  { session with row := { session.row with verifiedAt := some now } }

def step (session : Session) : Event → Session
  | .read submittedCode salt => session.read submittedCode salt
  | .spend index => session.spend index
  | .judge index now => session.judge hmac index now
  | .mark now => session.mark now

end Session

/-- The call has had its code compared with the stored hash. -/
def Call.compared (call : Call) : Bool :=
  match call.stage with
  | .done _ judgement => judgement.compared
  | _ => false

/-- The codes that calls have had compared with the stored hash. -/
def Session.comparedCodes (session : Session) : List String :=
  (session.calls.filter Call.compared).map (·.submittedCode)

end Numu.Auth.Otp

/-!
# At most as many guesses as attempts

An attempt is taken from the row before the code it pays for is compared, so what the row has
left and what the calls hold never come to more than the row began with.
-/

namespace Numu.Auth.Otp
open Numu.Orders (Time)

variable (hmac : String → String → String)

/-- The call has an attempt in hand, or has used one on a comparison. -/
def Call.holdsAttempt (call : Call) : Bool :=
  match call.stage with
  | .spend => false
  | .judge attemptsLeft => call.otp.verifiedAt.isNone && decide (0 < attemptsLeft)
  | .done _ judgement => judgement.compared

theorem Call.holdsAttempt_of_compared {call : Call} (compared : call.compared = true) :
    call.holdsAttempt = true := by
  rcases call with ⟨submittedCode, salt, otp, stage⟩
  cases stage with
  | spend => cases compared
  | judge attemptsLeft => cases compared
  | done now judgement => exact compared

/-- The attempts that a call holds. -/
def Call.held (call : Call) : Nat := if call.holdsAttempt then 1 else 0

/-- A call that has ended was judged by `evaluateVerify`, with the row it had read. -/
structure Call.Sound (initial : OtpCode) (call : Call) : Prop where
  codeHash : call.otp.codeHash = initial.codeHash
  expiresAt : call.otp.expiresAt = initial.expiresAt
  judged : ∀ now judgement, call.stage = .done now judgement →
    ∃ attemptsLeft, judgement = evaluateVerify hmac call.submittedCode call.otp.codeHash call.salt
      call.otp.expiresAt.aware attemptsLeft call.otp.verifiedAt now

/-- The call answered `VERIFIED` only before the row's expiry, and after its own code had been
compared with the stored hash and had matched. -/
def Call.VerifiedByMatch (row : OtpCode) (call : Call) : Prop :=
  ∀ now judgement result, call.stage = .done now judgement → judgement.result = .ok result →
    result.verdict = .verified →
      now < row.expiresAt.aware.instant ∧ judgement.compared = true ∧
        codesMatch hmac call.submittedCode row.codeHash call.salt = .ok true

/-- Somebody marks the row verified. -/
def Event.isMark : Event → Bool
  | .mark _ => true
  | _ => false

theorem Call.Sound.verifiedByMatch {initial : OtpCode} {call : Call}
    (sound : call.Sound hmac initial) (unverified : call.otp.verifiedAt = none) :
    call.VerifiedByMatch hmac initial := by
  intro now judgement result ended answered verified
  obtain ⟨attemptsLeft, rfl⟩ := sound.judged now judgement ended
  obtain ⟨unexpired, matched⟩ := evaluateVerify_verified hmac answered verified
  rw [sound.expiresAt] at unexpired
  rw [← sound.codeHash]
  exact ⟨unexpired, matched unverified⟩

namespace Session

/-- What a run keeps of its row and of its calls. -/
structure Budgeted (initial : OtpCode) (session : Session) : Prop where
  codeHash : session.row.codeHash = initial.codeHash
  expiresAt : session.row.expiresAt = initial.expiresAt
  calls : ∀ call ∈ session.calls, call.Sound hmac initial
  budget : session.row.attemptsLeft.toNat + session.calls.countP Call.holdsAttempt ≤
    initial.attemptsLeft.toNat

/-- Nobody has marked the row verified, and no call has read it so. -/
structure Unmarked (session : Session) : Prop where
  row : session.row.verifiedAt = none
  calls : ∀ call ∈ session.calls, call.otp.verifiedAt = none

variable {hmac} {initial : OtpCode} {session : Session}

/-- A call that goes on keeps what it has read. -/
theorem mem_goTo {index : Nat} {stage : Stage} {call : Call}
    (mem : call ∈ session.goTo index stage) :
    call ∈ session.calls ∨
      ∃ old, session.calls[index]? = some old ∧ call = { old with stage := stage } :=
  Pointwise.mem_modify mem

/-- A call that goes on holds no more than it did and the row has paid. -/
theorem budget_goTo {index : Nat} {stage : Stage} {old : Call} {row : OtpCode} {limit : Nat}
    (found : session.calls[index]? = some old)
    (paid : row.attemptsLeft.toNat + Call.held { old with stage := stage } ≤
      session.row.attemptsLeft.toNat + old.held)
    (budget : session.row.attemptsLeft.toNat + session.calls.countP Call.holdsAttempt ≤ limit) :
    row.attemptsLeft.toNat + (session.goTo index stage).countP Call.holdsAttempt ≤ limit := by
  have counted : (session.goTo index stage).countP Call.holdsAttempt + old.held =
      session.calls.countP Call.holdsAttempt + Call.held { old with stage := stage } :=
    Pointwise.countP_modify (f := fun call => { call with stage := stage }) found
  omega

/-- A step that leaves a call's stage undecided keeps the call sound. -/
theorem sound_goTo {index : Nat} {stage : Stage} (sound : ∀ call ∈ session.calls, call.Sound hmac initial)
    (judged : ∀ call, session.calls[index]? = some call → ∀ now judgement,
      stage = .done now judgement →
        ∃ attemptsLeft, judgement = evaluateVerify hmac call.submittedCode call.otp.codeHash call.salt
          call.otp.expiresAt.aware attemptsLeft call.otp.verifiedAt now) :
    ∀ call ∈ session.goTo index stage, call.Sound hmac initial := by
  intro call mem
  rcases mem_goTo mem with there | ⟨old, found, rfl⟩
  · exact sound call there
  · have before := sound old (List.mem_of_getElem? found)
    exact ⟨before.codeHash, before.expiresAt, judged old found⟩

theorem Budgeted.read (budgeted : Budgeted hmac initial session) (submittedCode salt : String) :
    Budgeted hmac initial (session.read submittedCode salt) where
  codeHash := budgeted.codeHash
  expiresAt := budgeted.expiresAt
  calls := by
    intro call mem
    rcases List.mem_append.mp mem with there | new
    · exact budgeted.calls call there
    · rw [List.mem_singleton.mp new]
      refine ⟨budgeted.codeHash, budgeted.expiresAt, fun now judgement ended => ?_⟩
      dsimp only at ended
      split at ended <;> cases ended
  budget := by
    have none_ : ∀ stage, stage = (if session.row.verifiedAt.isNone then Stage.spend
        else .judge session.row.attemptsLeft) →
          Call.holdsAttempt ⟨submittedCode, salt, session.row, stage⟩ = false := by
      rintro stage rfl
      by_cases unverified : session.row.verifiedAt.isNone = true
      · rw [if_pos unverified]
        rfl
      · rw [if_neg unverified]
        simp [Call.holdsAttempt, unverified]
    have counted : (session.read submittedCode salt).calls.countP Call.holdsAttempt =
        session.calls.countP Call.holdsAttempt := by
      rw [Session.read, List.countP_append, List.countP_singleton, none_ _ rfl]
      rfl
    rw [counted]
    exact budgeted.budget

/-- The attempt that the row gives is the one that the call holds. -/
theorem spendAttempt_held (row : OtpCode) (submittedCode salt : String) (otp : OtpCode) :
    (spendAttempt row).1.attemptsLeft.toNat +
        Call.held ⟨submittedCode, salt, otp, .judge ((spendAttempt row).2.elim 0 (· + 1))⟩ ≤
      row.attemptsLeft.toNat := by
  by_cases enough : 0 < row.attemptsLeft
  · rw [spendAttempt, if_pos enough, Call.held]
    dsimp only
    split <;> omega
  · rw [spendAttempt, if_neg enough]
    simp [Call.held, Call.holdsAttempt]

theorem spendAttempt_keeps (row : OtpCode) :
    (spendAttempt row).1.codeHash = row.codeHash ∧ (spendAttempt row).1.expiresAt = row.expiresAt ∧
      (spendAttempt row).1.verifiedAt = row.verifiedAt := by
  rw [spendAttempt]
  split
  · exact ⟨rfl, rfl, rfl⟩
  · exact ⟨rfl, rfl, rfl⟩

theorem Budgeted.spend (budgeted : Budgeted hmac initial session) (index : Nat) :
    Budgeted hmac initial (session.spend index) := by
  rw [Session.spend]
  split
  case h_2 => exact budgeted
  case h_1 submittedCode salt otp found =>
    obtain ⟨codeHash, expiresAt, -⟩ := spendAttempt_keeps session.row
    have budget := budget_goTo found (spendAttempt_held session.row submittedCode salt otp)
      budgeted.budget
    refine ⟨codeHash.trans budgeted.codeHash, expiresAt.trans budgeted.expiresAt, ?_, budget⟩
    exact sound_goTo budgeted.calls fun _ _ _ _ ended => by cases ended

/-- A comparison is paid for by the attempt that the call has in hand. -/
theorem evaluateVerify_held (hmac : String → String → String) (submittedCode salt : String)
    (otp : OtpCode) (attemptsLeft now : Int) :
    Call.held ⟨submittedCode, salt, otp, .done now (evaluateVerify hmac submittedCode otp.codeHash salt
        otp.expiresAt.aware attemptsLeft otp.verifiedAt now)⟩ ≤
      Call.held ⟨submittedCode, salt, otp, .judge attemptsLeft⟩ := by
  rw [Call.held]
  split
  case isFalse => exact Nat.zero_le _
  case isTrue compared =>
    obtain ⟨unverified, enough⟩ := evaluateVerify_compared hmac compared
    simp [Call.held, Call.holdsAttempt, unverified, enough]

theorem Budgeted.judge (budgeted : Budgeted hmac initial session) (index : Nat) (now : Int) :
    Budgeted hmac initial (session.judge hmac index now) := by
  rw [Session.judge]
  split
  case h_2 => exact budgeted
  case h_1 submittedCode salt otp attemptsLeft found =>
    have held := evaluateVerify_held hmac submittedCode salt otp attemptsLeft now
    have budget := budget_goTo found (Nat.add_le_add_left held _) budgeted.budget
    refine ⟨budgeted.codeHash, budgeted.expiresAt, sound_goTo budgeted.calls ?_, budget⟩
    intro call there at_ judgement ended
    cases ended
    cases found.symm.trans there
    exact ⟨attemptsLeft, rfl⟩

theorem Budgeted.step (budgeted : Budgeted hmac initial session) (event : Event) :
    Budgeted hmac initial (session.step hmac event) := by
  cases event with
  | read submittedCode salt => exact budgeted.read submittedCode salt
  | spend index => exact budgeted.spend index
  | judge index now => exact budgeted.judge index now
  | mark now => exact ⟨budgeted.codeHash, budgeted.expiresAt, budgeted.calls, budgeted.budget⟩

theorem Budgeted.start (initial : OtpCode) : Budgeted hmac initial { row := initial } :=
  ⟨rfl, rfl, fun _ mem => absurd mem List.not_mem_nil, Nat.le_refl _⟩

/-- The codes compared are among those that an attempt was held for. -/
theorem Budgeted.comparedCodes_length (budgeted : Budgeted hmac initial session) :
    session.comparedCodes.length ≤ initial.attemptsLeft.toNat := by
  have fewer : session.calls.countP Call.compared ≤ session.calls.countP Call.holdsAttempt :=
    List.countP_mono_left fun _ _ compared => Call.holdsAttempt_of_compared compared
  have budget := budgeted.budget
  rw [comparedCodes, List.length_map, ← List.countP_eq_length_filter]
  omega

theorem Unmarked.start {row : OtpCode} (unverified : row.verifiedAt = none) :
    Unmarked { row := row } :=
  ⟨unverified, fun _ mem => absurd mem List.not_mem_nil⟩

theorem Unmarked.goTo (unmarked : Unmarked session) (index : Nat) (stage : Stage) :
    ∀ call ∈ session.goTo index stage, call.otp.verifiedAt = none := by
  intro call mem
  rcases mem_goTo mem with there | ⟨old, found, rfl⟩
  · exact unmarked.calls call there
  · exact unmarked.calls old (List.mem_of_getElem? found)

theorem Unmarked.step (unmarked : Unmarked session) {event : Event} (quiet : event.isMark = false) :
    Unmarked (session.step hmac event) := by
  cases event with
  | read submittedCode salt =>
      refine ⟨unmarked.row, fun call mem => ?_⟩
      rcases List.mem_append.mp mem with there | new
      · exact unmarked.calls call there
      · rw [List.mem_singleton.mp new]
        exact unmarked.row
  | spend index =>
      rw [Session.step, Session.spend]
      split
      · obtain ⟨-, -, verifiedAt⟩ := spendAttempt_keeps session.row
        exact ⟨verifiedAt.trans unmarked.row, unmarked.goTo _ _⟩
      · exact unmarked
  | judge index now =>
      rw [Session.step, Session.judge]
      split
      · exact ⟨unmarked.row, unmarked.goTo _ _⟩
      · exact unmarked
  | mark now => cases quiet

end Session

/-- In whatever order calls read the row, spend and judge, no more codes are compared with its hash
than it had attempts; where nobody marks it verified, a call answers `VERIFIED` only before its
expiry, and for a code of its own that was compared and matched. -/
theorem guesses_bounded (row : OtpCode) (events : List Event) :
    let session := Run.run (Session.step hmac) { row := row } events
    session.comparedCodes.length ≤ row.attemptsLeft.toNat ∧
      (row.verifiedAt = none → (∀ event ∈ events, event.isMark = false) →
        ∀ call ∈ session.calls, call.VerifiedByMatch hmac row) := by
  intro session
  have budgeted : Session.Budgeted hmac row session :=
    (Run.always_of_invariant (fun _ event here => here.step event) (.start row) events).last
  refine ⟨budgeted.comparedCodes_length, fun unverified quiet call mem => ?_⟩
  have unmarked : session.Unmarked :=
    (Run.always_of_guarded (fun _ _ here => here.step) (.start unverified)
      (.of_forall fun event mem _ => quiet event mem)).last
  exact (budgeted.calls call mem).verifiedByMatch hmac (unmarked.calls call mem)

/-- Two calls share one attempt: the second is not compared. -/
theorem guesses_bounded_shared :
    let row : OtpCode := ⟨"0042", ⟨600, none⟩, 1, none⟩
    let session := Run.run (Session.step fun _ code => code) { row := row }
      [.read "0042" "pepper", .read "0007" "pepper", .spend 0, .spend 1, .judge 1 5, .judge 0 7]
    session.comparedCodes.length ≤ 1 ∧
      ∀ call ∈ session.calls, call.VerifiedByMatch (fun _ code => code) row :=
  have bounded := guesses_bounded (fun _ code => code) ⟨"0042", ⟨600, none⟩, 1, none⟩
    [.read "0042" "pepper", .read "0007" "pepper", .spend 0, .spend 1, .judge 1 5, .judge 0 7]
  ⟨bounded.1, bounded.2 rfl (by decide)⟩

end Numu.Auth.Otp
