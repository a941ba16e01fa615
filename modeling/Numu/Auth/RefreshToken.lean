import Numu.Foundation.Calendar
import Numu.Orders.Order

/-!
# Refreshing with one refresh token

The calls of `RefreshTokenUseCase.execute` that present one token, taken operation by
operation, over the Redis keys of that token, its family and its user. The clock is in
microseconds, the claims of the token in seconds.
-/

namespace Numu.Auth
open Numu.Orders (Time)

def seconds (count : Nat) : Nat := count * Calendar.secondLength

/-- The claims of a refresh token that a refresh goes by. -/
structure TokenPayload where
  exp : Nat
  tokenType : String
  iat : Nat
  jti : Option String
  familyId : Option String
  deriving DecidableEq, Repr

/-- `TokenDTO`. -/
structure TokenPair where
  accessToken : String
  refreshToken : String
  deriving DecidableEq, Repr

inductive RefreshError where
  | tokenExpired
  | invalidToken
  | userNotFound
  deriving DecidableEq, Repr

structure Settings where
  refreshTokenExpireDays : Nat := 30
  refreshRotationGraceSeconds : Int := 60
  deriving DecidableEq, Repr

/-- The values of a Redis key, and when the key expires. -/
structure Keys where
  /-- `refresh_jti_used` of the token. -/
  used : Option Time := none
  /-- `refresh_rotated` of the token. -/
  rotated : Option (TokenPair × Time) := none
  /-- `refresh_family_revoked` of its family. -/
  familyRevoked : Option Time := none
  /-- `token_revoked_at` of its user. -/
  revokedAt : Option Nat := none
  deriving DecidableEq, Repr

/-- A claim that is there and not empty. -/
def truthy (claim : Option String) : Bool := claim.any (· ≠ "")

namespace Keys

/-- `is_revoked`, of all sessions of the user. -/
def isRevoked (keys : Keys) (iat : Nat) : Bool := keys.revokedAt.any (iat < ·)

def isFamilyRevoked (keys : Keys) (now : Time) : Bool := keys.familyRevoked.any (now < ·)

def isUsed (keys : Keys) (now : Time) : Bool := keys.used.any (now < ·)

def getRotation (keys : Keys) (now : Time) : Option TokenPair :=
  (keys.rotated.filter fun rotated => now < rotated.2).map (·.1)

def revokeFamily (keys : Keys) (ttl : Nat) (now : Time) : Keys :=
  { keys with familyRevoked := some (now + seconds (max ttl 60)) }

/-- Until the token would have expired, and a minute at least. -/
def markUsed (keys : Keys) (tokenExp : Nat) (now : Time) : Keys :=
  { keys with used := some (now + seconds (max (tokenExp - now / Calendar.secondLength) 60)) }

def rememberRotation (keys : Keys) (pair : TokenPair) (ttl : Int) (now : Time) : Keys :=
  if ttl ≤ 0 then keys
  else { keys with rotated := some (pair, now + seconds ttl.toNat) }

end Keys

/-- The operation that a call does next. -/
inductive Stage where
  | checkRevoked
  | checkFamily
  | checkUsed
  | readRotation
  | revokeFamily
  | loadUser
  | markUsed
  | mint
  | remember (pair : TokenPair)
  | done (result : Except RefreshError TokenPair)
  deriving DecidableEq, Repr

/-- A call of `execute`; `afterUse` says that the token had been consumed when the call came. -/
structure Call where
  presentedAt : Time
  afterUse : Bool
  stage : Stage
  deriving DecidableEq, Repr

/-- The calls with one token; `consumedAt` is when the first of them consumed it, `minted` are the
pairs issued for it, and `revocations` the calls that revoked its family. -/
structure Session where
  settings : Settings
  token : TokenPayload
  keys : Keys
  calls : List Call := []
  consumedAt : Option Time := none
  minted : List TokenPair := []
  revocations : List Call := []
  deriving DecidableEq, Repr

inductive SessionEvent where
  | present
  | checkRevoked (index : Nat)
  | checkFamily (index : Nat)
  | checkUsed (index : Nat)
  | readRotation (index : Nat)
  | revokeFamily (index : Nat)
  | loadUser (index : Nat) (found : Bool)
  | markUsed (index : Nat)
  | mint (index : Nat) (pair : TokenPair)
  | remember (index : Nat)
  deriving DecidableEq, Repr

namespace Session

/-- The token comes in, and is verified. -/
def present (session : Session) (now : Time) : Session :=
  let stage :=
    if seconds session.token.exp ≤ now then .done (.error .tokenExpired)
    else if session.token.tokenType ≠ "refresh" then .done (.error .invalidToken)
    else .checkRevoked
  { session with
    calls := session.calls ++
      [{ presentedAt := now, afterUse := session.consumedAt.isSome, stage := stage }] }

def atStage (session : Session) (index : Nat) (stage : Stage) : Prop :=
  ∃ call ∈ session.calls[index]?, call.stage = stage

instance (session : Session) (index : Nat) (stage : Stage) :
    Decidable (session.atStage index stage) :=
  inferInstanceAs (Decidable (∃ call ∈ session.calls[index]?, _))

def goTo (session : Session) (index : Nat) (stage : Stage) : List Call :=
  session.calls.modify index fun call => { call with stage := stage }

def checkRevoked (session : Session) (index : Nat) : Session :=
  if session.atStage index .checkRevoked then
    if session.keys.isRevoked session.token.iat then
      { session with calls := session.goTo index (.done (.error .invalidToken)) }
    else { session with calls := session.goTo index .checkFamily }
  else session

def checkFamily (session : Session) (index : Nat) (now : Time) : Session :=
  if session.atStage index .checkFamily then
    if truthy session.token.familyId && session.keys.isFamilyRevoked now then
      { session with calls := session.goTo index (.done (.error .invalidToken)) }
    else { session with calls := session.goTo index .checkUsed }
  else session

def checkUsed (session : Session) (index : Nat) (now : Time) : Session :=
  if session.atStage index .checkUsed then
    if truthy session.token.jti && session.keys.isUsed now then
      { session with calls := session.goTo index .readRotation }
    else { session with calls := session.goTo index .loadUser }
  else session

def readRotation (session : Session) (index : Nat) (now : Time) : Session :=
  if session.atStage index .readRotation then
    match session.keys.getRotation now with
    | some graced => { session with calls := session.goTo index (.done (.ok graced)) }
    | none => { session with calls := session.goTo index .revokeFamily }
  else session

/-- A replay: the whole family goes. -/
def revokeFamily (session : Session) (index : Nat) (now : Time) : Session :=
  if session.atStage index .revokeFamily then
    let refused : Session :=
      { session with calls := session.goTo index (.done (.error .invalidToken)) }
    if truthy session.token.familyId then
      { refused with
        keys := session.keys.revokeFamily (session.settings.refreshTokenExpireDays * 86400) now
        revocations := session.revocations ++ session.calls[index]?.toList }
    else refused
  else session

def loadUser (session : Session) (index : Nat) (found : Bool) : Session :=
  if session.atStage index .loadUser then
    if found then { session with calls := session.goTo index .markUsed }
    else { session with calls := session.goTo index (.done (.error .userNotFound)) }
  else session

def markUsed (session : Session) (index : Nat) (now : Time) : Session :=
  if session.atStage index .markUsed then
    { session with
      keys :=
        if truthy session.token.jti then session.keys.markUsed session.token.exp now
        else session.keys
      calls := session.goTo index .mint
      consumedAt := session.consumedAt.orElse fun _ => some now }
  else session

/-- The pair is issued; its times and its `jti` are new. -/
def mint (session : Session) (index : Nat) (pair : TokenPair) : Session :=
  if session.atStage index .mint then
    { session with
      calls := session.goTo index (.remember pair)
      minted := session.minted ++ [pair] }
  else session

def remember (session : Session) (index : Nat) (now : Time) : Session :=
  match session.calls[index]? with
  | some { stage := .remember pair, .. } =>
      { session with
        keys :=
          if truthy session.token.jti then
            session.keys.rememberRotation pair session.settings.refreshRotationGraceSeconds now
          else session.keys
        calls := session.goTo index (.done (.ok pair)) }
  | _ => session

def step (session : Session) (label : Time × SessionEvent) : Session :=
  match label.2 with
  | .present => session.present label.1
  | .checkRevoked index => session.checkRevoked index
  | .checkFamily index => session.checkFamily index label.1
  | .checkUsed index => session.checkUsed index label.1
  | .readRotation index => session.readRotation index label.1
  | .revokeFamily index => session.revokeFamily index label.1
  | .loadUser index found => session.loadUser index found
  | .markUsed index => session.markUsed index label.1
  | .mint index pair => session.mint index pair
  | .remember index => session.remember index label.1

end Session
end Numu.Auth
