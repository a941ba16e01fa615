import Numu.ApiLimits.CheckAndCount
import Numu.Foundation.Binary64
import Numu.Foundation.Counters
import Numu.Foundation.Separated
import Numu.Foundation.SerialNumbers

/-!
# The usage of the public API

Each request of a token is counted in a hash of its tenant and its day; the fields of a hash read
back as one row for a token, a method and a route.
-/

namespace Numu.ApiLimits
open Numu.Orders (Time)

def usageTtl : Nat := 3 * 86400

def separator : Char := '|'

inductive Metric where
  | requests
  | latencyMsSum
  | errors4xx
  | errors5xx
  | throttled
  deriving DecidableEq, Repr

/-- The key of `_METRICS`. -/
def Metric.suffix : Metric → String
  | .requests => "n"
  | .latencyMsSum => "ms"
  | .errors4xx => "4xx"
  | .errors5xx => "5xx"
  | .throttled => "429"

def Metric.all : List Metric := [.requests, .latencyMsSum, .errors4xx, .errors5xx, .throttled]

def Metric.read (suffix : String) : Option Metric :=
  Metric.all.find? fun metric => metric.suffix = suffix

structure UsageCall where
  tenantId : String
  tokenId : String
  method : String
  route : String
  status : Int
  ms : ℚ
  now : Time

/-- `strftime("%Y%m%d")`. -/
def dayText (date : Nat × Nat) : List Char :=
  Calendar.padded 4 (Calendar.yearOf date.1) ++ Calendar.padded 2 (Calendar.monthOfYear date.1) ++
    Calendar.padded 2 (date.2 + 1)

def usageKey (tenantId : String) (date : Nat × Nat) : String :=
  "api:usage:" ++ tenantId ++ ":" ++ String.ofList (dayText date)

structure UsageKey where
  tokenId : String
  method : String
  route : String
  deriving DecidableEq, Repr

/-- The parts of a field with the separator between them. -/
def UsageKey.text (key : UsageKey) : String :=
  key.tokenId ++ String.singleton separator ++ key.method ++ String.singleton separator ++ key.route

def fieldText (base : String) (metric : Metric) : String :=
  base ++ String.singleton separator ++ metric.suffix

/-- What a status counts as beside a request. -/
def errorMetric (status : Int) : Option Metric :=
  if status = 429 then some .throttled
  else if 400 ≤ status ∧ status < 500 then some .errors4xx
  else if status ≥ 500 then some .errors5xx
  else none

/-- The hashes of the counters, how long they are kept and which are to be flushed. -/
structure UsageBuffer where
  hashes : Table String (Table String Int) := .empty
  ttls : Table String Nat := .empty
  dirty : List String := []

namespace UsageBuffer

def hash (buffer : UsageBuffer) (key : String) : Table String Int :=
  (buffer.hashes.get? key).getD .empty

def hincrby (buffer : UsageBuffer) (key field : String) (amount : Int) : UsageBuffer :=
  { buffer with hashes := buffer.hashes.set key (Counters.bump (buffer.hash key) field amount) }

def expire (buffer : UsageBuffer) (key : String) (ttl : Nat) : UsageBuffer :=
  { buffer with ttls := buffer.ttls.set key ttl }

def sadd (buffer : UsageBuffer) (key : String) : UsageBuffer :=
  { buffer with dirty := if key ∈ buffer.dirty then buffer.dirty else buffer.dirty ++ [key] }

/-- The fields of a hash with their values, as text. -/
def hgetall (buffer : UsageBuffer) (key : String) : List (String × String) :=
  (buffer.hash key).rows.map fun entry => (entry.1, IntegerText.writeInt entry.2)

end UsageBuffer

/-- What a call is counted under. -/
def UsageCall.base [LetterCase] (call : UsageCall) : String :=
  UsageKey.text
    { tokenId := call.tokenId
      method := LetterCase.upper call.method
      route := String.ofList (call.route.toList.take 200) }

def queueUsage [LetterCase] (buffer : UsageBuffer) (call : UsageCall) : UsageBuffer :=
  let key := usageKey call.tenantId (Calendar.monthAndDay call.now)
  let buffer := buffer.hincrby key (fieldText call.base .requests) 1
  let buffer := buffer.hincrby key (fieldText call.base .latencyMsSum) (Binary64.truncate call.ms)
  let buffer :=
    match errorMetric call.status with
    | some metric => buffer.hincrby key (fieldText call.base metric) 1
    | none => buffer
  (buffer.expire key usageTtl).sadd key

structure UsageRow where
  requests : Int := 0
  latencyMsSum : Int := 0
  errors4xx : Int := 0
  errors5xx : Int := 0
  throttled : Int := 0
  deriving DecidableEq, Repr

namespace UsageRow

def get (row : UsageRow) : Metric → Int
  | .requests => row.requests
  | .latencyMsSum => row.latencyMsSum
  | .errors4xx => row.errors4xx
  | .errors5xx => row.errors5xx
  | .throttled => row.throttled

def put (row : UsageRow) (metric : Metric) (value : Int) : UsageRow :=
  match metric with
  | .requests => { row with requests := value }
  | .latencyMsSum => { row with latencyMsSum := value }
  | .errors4xx => { row with errors4xx := value }
  | .errors5xx => { row with errors5xx := value }
  | .throttled => { row with throttled := value }

end UsageRow

/-- The key that a text reads as. -/
def readKey (base : List Char) : Option UsageKey :=
  match Separated.split separator 2 base with
  | [tokenId, method, route] =>
      some ⟨String.ofList tokenId, String.ofList method, String.ofList route⟩
  | _ => none

/-- The key and the metric of a field; other fields are skipped. -/
def readField (field : String) : Option (UsageKey × Metric) :=
  match Separated.rsplitOnce separator field.toList with
  | [base, suffix] =>
      (readKey base).bind fun key =>
        (Metric.read (String.ofList suffix)).map fun metric => (key, metric)
  | _ => none

/-- One round of the loop; a value that is no integer raises. -/
def parseField (rows : Table UsageKey UsageRow) (entry : String × String) :
    Option (Table UsageKey UsageRow) :=
  match readField entry.1 with
  | none => some rows
  | some (key, metric) =>
      (IntegerText.readInt entry.2).map fun value =>
        rows.set key (((rows.get? key).getD {}).put metric value)

def parseUsage (raw : List (String × String)) : Option (Table UsageKey UsageRow) :=
  raw.foldlM parseField .empty

end Numu.ApiLimits
