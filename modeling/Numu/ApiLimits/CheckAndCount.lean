import Mathlib.Data.List.MinMax
import Numu.Foundation.Calendar
import Numu.Foundation.Counters
import Numu.Foundation.UuidText
import Numu.Orders.Order

/-! The rate limits and the monthly quota of the public API: every window in one script. -/

namespace Numu.ApiLimits
open Numu.Orders (UUID Time)

/-- Python's case mappings. -/
class LetterCase where
  lower : String → String
  upper : String → String

/-- The case of the ASCII letters alone. -/
@[reducible] def LetterCase.ascii : LetterCase :=
  ⟨fun text => text.map Char.toLower, fun text => text.map Char.toUpper⟩

inductive Category where
  | lightRead
  | standardWrite
  | heavy
  | bulk
  deriving DecidableEq, Repr

def Category.name : Category → String
  | .lightRead => "light_read"
  | .standardWrite => "standard_write"
  | .heavy => "heavy"
  | .bulk => "bulk"

def heavySegments : List String :=
  ["analytics", "reports", "report", "export", "exports", "insights"]

def bulkSegments : List String := ["bulk", "import", "imports", "batch"]

def readMethods : List String := ["GET", "HEAD", "OPTIONS"]

def categoryFor [LetterCase] (path method : String) : Category :=
  let segments := ((path.toList.splitOn '/').filter fun s => s ≠ []).map fun s =>
    LetterCase.lower (String.ofList s)
  if (segments.any fun s => s ∈ bulkSegments) ||
      segments.any fun s => "bulk".toList.isPrefixOf s.toList then .bulk
  else if segments.any fun s => s ∈ heavySegments then .heavy
  else if LetterCase.upper method ∈ readMethods then .lightRead
  else .standardWrite

def categoryLimit (category : Category) (perMinute : Option Nat) : Option Nat :=
  perMinute.map fun perMinute =>
    match category with
    | .standardWrite => max 1 (perMinute / 2)
    | .heavy => min 10 perMinute
    | .bulk => min 2 perMinute
    | .lightRead => perMinute

/-- A merchant's allowance; `none` means unlimited. -/
structure ApiPolicy where
  perMinute : Option Nat
  perSecond : Option Nat
  monthlyQuota : Option Nat
  deriving DecidableEq, Repr

structure ApiRequest where
  tokenId : UUID
  path : String
  method : String
  now : Time
  /-- What `month_usage_from_db` answers if it is asked, or 0 when it fails. -/
  monthUsage : Nat := 0
  deriving DecidableEq

/-- `int(now.timestamp())`. -/
def ApiRequest.second (request : ApiRequest) : Nat := request.now / Calendar.secondLength

def ApiRequest.minute (request : ApiRequest) : Nat := request.second / 60

def ApiRequest.month (request : ApiRequest) : Nat := Calendar.month request.now

def ApiRequest.category [LetterCase] (request : ApiRequest) : Category :=
  categoryFor request.path request.method

/-- What a counter counts. -/
inductive WindowId where
  | second (tenantId : UUID) (second : Nat)
  | minute (tenantId : UUID) (minute : Nat)
  | key (tokenId : UUID) (minute : Nat)
  | category (tenantId : UUID) (category : Category) (minute : Nat)
  | quota (tenantId : UUID) (month : Nat)
  deriving DecidableEq

/-- `month_key`. -/
def monthKey (month : Nat) : List Char :=
  Calendar.padded 4 (Calendar.yearOf month) ++ '-' ::
    Calendar.padded 2 (Calendar.monthOfYear month)

/-- The Redis keys. -/
def WindowId.text : WindowId → List Char
  | .second tenantId index => "api:rl:s:".toList ++
      ((UuidText.writeUuid tenantId).toList ++ ':' :: Nat.toDigits 10 index)
  | .minute tenantId index => "api:rl:m:".toList ++
      ((UuidText.writeUuid tenantId).toList ++ ':' :: Nat.toDigits 10 index)
  | .key tokenId index => "api:rl:k:".toList ++
      ((UuidText.writeUuid tokenId).toList ++ ':' :: Nat.toDigits 10 index)
  | .category tenantId cost index => "api:rl:c:".toList ++
      ((UuidText.writeUuid tenantId).toList ++ ':' ::
        (cost.name.toList ++ ':' :: Nat.toDigits 10 index))
  | .quota tenantId index => "api:quota:".toList ++
      ((UuidText.writeUuid tenantId).toList ++ ':' :: monthKey index)

/-- One counter of a request: its Redis key, its limit and its time to live in seconds. -/
structure Window where
  key : List Char
  limit : Option Nat
  ttl : Nat
  deriving DecidableEq, Repr

/-- The seconds from an instant to the next month, rounded down. -/
def secondsLeft (now : Time) : Nat :=
  (Calendar.startOf (Calendar.month now + 1) - now) / Calendar.secondLength

/-- `_windows` but for the last. -/
def rateWindows [LetterCase] (tenantId : UUID) (policy : ApiPolicy) (request : ApiRequest) :
    List Window :=
  [{ key := (WindowId.second tenantId request.second).text, limit := policy.perSecond, ttl := 2 },
   { key := (WindowId.minute tenantId request.minute).text, limit := policy.perMinute, ttl := 70 },
   { key := (WindowId.key request.tokenId request.minute).text, limit := policy.perMinute,
     ttl := 70 },
   { key := (WindowId.category tenantId request.category request.minute).text
     limit := categoryLimit request.category policy.perMinute
     ttl := 70 }]

/-- The last of `_windows`: the month's. -/
def quotaWindow (tenantId : UUID) (policy : ApiPolicy) (request : ApiRequest) : Window where
  key := (WindowId.quota tenantId request.month).text
  limit := policy.monthlyQuota
  ttl := secondsLeft request.now + 7 * 86400

def windows [LetterCase] (tenantId : UUID) (policy : ApiPolicy) (request : ApiRequest) :
    List Window :=
  rateWindows tenantId policy request ++ [quotaWindow tenantId policy request]

abbrev Redis := Table (List Char) Counter

/-- What the script returns. -/
inductive ScriptResult where
  /-- The quota counter is missing. -/
  | missing
  /-- A window, from 0, is full. -/
  | full (index current : Nat)
  | counted (counts : List Nat)
  deriving DecidableEq, Repr

namespace Redis

/-- What a full window holds. -/
def current? (redis : Redis) (now : Time) (window : Window) : Option Nat :=
  window.limit.bind fun limit =>
    let current := Counter.read redis now window.key
    if limit ≤ current then some current else none

def count (redis : Redis) (now : Time) (window : Window) : Redis :=
  Counter.increment redis now window.key (window.ttl * Calendar.secondLength)

/-- The counters and the counts after counting in each window. -/
def countAll (redis : Redis) (now : Time) : List Window → Redis × List Nat
  | [] => (redis, [])
  | window :: rest =>
      let (counted, counts) := countAll (redis.count now window) now rest
      (counted, (Counter.read redis now window.key + 1) :: counts)

/-- The script: all windows or none. -/
def evalScript (redis : Redis) (now : Time) (windows : List Window) : Redis × ScriptResult :=
  if windows.getLast?.any fun quota => (Counter.find? redis now quota.key).isNone then
    (redis, .missing)
  else
    match windows.zipIdx.findSome? fun entry =>
        (redis.current? now entry.1).map fun current => (entry.2, current) with
    | some (index, current) => (redis, .full index current)
    | none =>
        let (counted, counts) := redis.countAll now windows
        (counted, .counted counts)

/-- `_seed_quota`. -/
def seedQuota (redis : Redis) (now : Time) (quota : Window) (used : Nat) : Redis :=
  Counter.seed redis now quota.key used (quota.ttl * Calendar.secondLength)

end Redis

inductive LimitCode where
  | rateLimited
  | quotaExceeded
  deriving DecidableEq, Repr

structure LimitDecision where
  allowed : Bool
  code : Option LimitCode := none
  limit : Option Nat := none
  remaining : Option Int := none
  reset : Option Nat := none
  retryAfter : Option Nat := none
  quotaLimit : Option Nat := none
  quotaRemaining : Option Int := none
  deriving DecidableEq, Repr

/-- The minute window with the least left, as limit and count. -/
def tightest (windows : List Window) (counts : List Nat) : Option (Nat × Nat) :=
  -- The order of the integers, whatever else is imported.
  letI : Preorder Int := Int.instLinearOrder.toPartialOrder.toPreorder
  List.argmin (fun window => (window.1 : Int) - window.2)
    ((((windows.zip counts).drop 1).take 3).filterMap fun entry =>
      entry.1.limit.map fun limit => (limit, entry.2))

/-- The decision on what the script returned. -/
def decision (policy : ApiPolicy) (windows : List Window) (now : Time) : ScriptResult → LimitDecision
  | .counted counts =>
      let second := now / Calendar.secondLength
      let closest := tightest windows counts
      { allowed := true
        limit := closest.map Prod.fst
        remaining := closest.map fun window => (window.1 : Int) - window.2
        reset := some ((second / 60 + 1) * 60)
        quotaLimit := policy.monthlyQuota
        quotaRemaining := policy.monthlyQuota.map fun quota => (quota : Int) - counts.getD 4 0 }
  | .full index _ =>
      if index = windows.length - 1 then
        { allowed := false
          code := some .quotaExceeded
          retryAfter := some (secondsLeft now)
          quotaLimit := policy.monthlyQuota
          quotaRemaining := some 0 }
      else blocked windows now index
  | .missing => blocked windows now (windows.length - 2)
where
  blocked (windows : List Window) (now : Time) (index : Nat) : LimitDecision :=
    let second := now / Calendar.secondLength
    let retry := if index = 0 then 1 else max 1 ((second / 60 + 1) * 60 - second)
    { allowed := false
      code := some .rateLimited
      limit := (windows[index]?).bind Window.limit
      remaining := some 0
      reset := some (second + retry)
      retryAfter := some retry }

/-- `check_and_count` while Redis answers. -/
def checkAndCount [LetterCase] (tenantId : UUID) (policy : ApiPolicy) (redis : Redis)
    (request : ApiRequest) : Redis × LimitDecision :=
  let windows := windows tenantId policy request
  let quota := quotaWindow tenantId policy request
  match redis.evalScript request.now windows with
  | (_, .missing) =>
      let seeded := redis.seedQuota request.now quota request.monthUsage
      let (counted, result) := seeded.evalScript request.now windows
      (counted, decision policy windows request.now result)
  | (counted, result) => (counted, decision policy windows request.now result)

end Numu.ApiLimits
