import Mathlib.Data.List.Sort
import Mathlib.Data.String.Basic
import Numu.Foundation.FloatRepr
import Numu.Foundation.LastWrite

/-!
# Documents as text

`loads` and `dumps` are Python's `json.loads(text)` and `json.dumps(value, ensure_ascii=False,
sort_keys=True)`. A lone surrogate, which no string here can hold, is read as U+FFFD.
-/

namespace Numu

/-- What a JSON document can hold in Python. -/
inductive PyValue where
  | none
  | bool (value : Bool)
  | int (value : Int)
  | float (value : PyFloat)
  | str (text : String)
  | list (items : List PyValue)
  | dict (fields : List (String × PyValue))

namespace JsonText
open IntegerText (readLimited writeInt Writable)
open PyFloat (Literal readFloat)

/-- `json.JSONDecodeError`, or another `ValueError` that `int` raises. -/
inductive LoadsError where
  | decode
  | value
  deriving DecidableEq

def isWhite (c : Char) : Bool := c ∈ [' ', '\t', '\n', '\r']

def skip (text : List Char) : List Char := text.dropWhile isWhite

/-! ## Numbers -/

def scanWhole : List Char → Option (List Char × List Char)
  | [] => none
  | c :: rest =>
      if c = '0' then some (['0'], rest)
      else if c.isDigit then some (c :: rest.takeWhile Char.isDigit, rest.dropWhile Char.isDigit)
      else none

/-- The digits of a fraction; a point without digits is left where it is. -/
def scanFraction : List Char → List Char × List Char
  | [] => ([], [])
  | c :: rest =>
      if c = '.' ∧ rest.takeWhile Char.isDigit ≠ [] then
        (rest.takeWhile Char.isDigit, rest.dropWhile Char.isDigit)
      else ([], c :: rest)

def spanExponentSign : List Char → List Char × List Char
  | [] => ([], [])
  | c :: rest => if c = '+' ∨ c = '-' then ([c], rest) else ([], c :: rest)

def scanExponent : List Char → List Char × List Char
  | [] => ([], [])
  | c :: rest =>
      let signed := spanExponentSign rest
      if (c = 'e' ∨ c = 'E') ∧ signed.2.takeWhile Char.isDigit ≠ [] then
        (c :: (signed.1 ++ signed.2.takeWhile Char.isDigit), signed.2.dropWhile Char.isDigit)
      else ([], c :: rest)

def spanMinus : List Char → List Char × List Char
  | [] => ([], [])
  | c :: rest => if c = '-' then (['-'], rest) else ([], c :: rest)

def scanNumber (text : List Char) : Except LoadsError (PyValue × List Char) :=
  let (minus, unsigned) := spanMinus text
  match scanWhole unsigned with
  | none => .error .decode
  | some (whole, afterWhole) =>
      let (fraction, afterFraction) := scanFraction afterWhole
      let (exponent, rest) := scanExponent afterFraction
      if fraction = [] ∧ exponent = [] then
        match readLimited (minus ++ whole) with
        | none => .error .value
        | some n => .ok (.int n, rest)
      else
        match readFloat (minus ++ (whole ++ (Literal.fractionText fraction ++ exponent))) with
        | none => .error .value
        | some x => .ok (.float x, rest)

def constants : List (List Char × PyValue) := [
  (['n', 'u', 'l', 'l'], .none),
  (['t', 'r', 'u', 'e'], .bool true),
  (['f', 'a', 'l', 's', 'e'], .bool false),
  (['N', 'a', 'N'], .float .nan),
  (['I', 'n', 'f', 'i', 'n', 'i', 't', 'y'], .float (.infinite false)),
  (['-', 'I', 'n', 'f', 'i', 'n', 'i', 't', 'y'], .float (.infinite true))]

def scanPlain (text : List Char) : Except LoadsError (PyValue × List Char) :=
  match constants.find? fun constant => constant.1.isPrefixOf text with
  | some constant => .ok (constant.2, text.drop constant.1.length)
  | none => scanNumber text

/-! ## Strings -/

def hexValue (c : Char) : Option Nat :=
  if '0' ≤ c ∧ c ≤ '9' then some (c.toNat - '0'.toNat)
  else if 'a' ≤ c ∧ c ≤ 'f' then some (c.toNat - 'a'.toNat + 10)
  else if 'A' ≤ c ∧ c ≤ 'F' then some (c.toNat - 'A'.toNat + 10)
  else none

def hexFour : List Char → Option (Nat × List Char)
  | a :: b :: c :: d :: rest => do
      let a ← hexValue a
      let b ← hexValue b
      let c ← hexValue c
      let d ← hexValue d
      return (((a * 16 + b) * 16 + c) * 16 + d, rest)
  | _ => none

/-- The character of a code point; a surrogate has none. -/
def scalar (code : Nat) : Char := if code.isValidChar then Char.ofNat code else '\ufffd'

def isHigh (code : Nat) : Bool := 0xd800 ≤ code && code < 0xdc00

def isLow (code : Nat) : Bool := 0xdc00 ≤ code && code < 0xe000

/-- The second half of a surrogate pair. -/
def readLow : List Char → Option (Nat × List Char)
  | '\\' :: 'u' :: rest => (hexFour rest).filter fun low => isLow low.1
  | _ => none

def readUnicode (text : List Char) : Option (Char × List Char) := do
  let (code, rest) ← hexFour text
  if isHigh code then
    match readLow rest with
    | some (low, after) =>
        return (scalar (0x10000 + (code - 0xd800) * 0x400 + (low - 0xdc00)), after)
    | none => return (scalar code, rest)
  else return (scalar code, rest)

def readEscape : List Char → Option (Char × List Char)
  | [] => none
  | c :: rest =>
      match c with
      | '"' => some ('"', rest)
      | '\\' => some ('\\', rest)
      | '/' => some ('/', rest)
      | 'b' => some ('\x08', rest)
      | 'f' => some ('\x0c', rest)
      | 'n' => some ('\n', rest)
      | 'r' => some ('\r', rest)
      | 't' => some ('\t', rest)
      | 'u' => readUnicode rest
      | _ => none

/-- A string up to its closing quote; control characters have to be escaped. -/
def scanString : Nat → List Char → Except LoadsError (List Char × List Char)
  | 0, _ => .error .decode
  | _ + 1, [] => .error .decode
  | fuel + 1, c :: rest =>
      if c = '"' then .ok ([], rest)
      else if c = '\\' then
        match readEscape rest with
        | none => .error .decode
        | some (d, after) => (scanString fuel after).map fun scanned => (d :: scanned.1, scanned.2)
      else if c.toNat < 0x20 then .error .decode
      else (scanString fuel rest).map fun scanned => (c :: scanned.1, scanned.2)

def hexDigit (n : Nat) : Char := Nat.digitChar n

def escape (c : Char) : List Char :=
  if c = '"' then ['\\', '"']
  else if c = '\\' then ['\\', '\\']
  else if c = '\n' then ['\\', 'n']
  else if c = '\r' then ['\\', 'r']
  else if c = '\t' then ['\\', 't']
  else if c = '\x0c' then ['\\', 'f']
  else if c = '\x08' then ['\\', 'b']
  else if c.toNat < 0x20 then ['\\', 'u', '0', '0', hexDigit (c.toNat / 16), hexDigit (c.toNat % 16)]
  else [c]

def quote (text : String) : List Char := '"' :: (text.toList.flatMap escape ++ ['"'])

/-! ## Documents -/

mutual

def scanValue : Nat → List Char → Except LoadsError (PyValue × List Char)
  | 0, _ => .error .decode
  | _ + 1, [] => .error .decode
  | fuel + 1, c :: rest =>
      if c = '"' then
        (scanString (rest.length + 1) rest).map fun scanned =>
          (.str (String.ofList scanned.1), scanned.2)
      else if c = '[' then
        match skip rest with
        | ']' :: after => .ok (.list [], after)
        | text => scanItems fuel [] text
      else if c = '{' then
        match skip rest with
        | '}' :: after => .ok (.dict [], after)
        | text => scanFields fuel [] text
      else scanPlain (c :: rest)

def scanItems : Nat → List PyValue → List Char → Except LoadsError (PyValue × List Char)
  | 0, _, _ => .error .decode
  | fuel + 1, items, text => do
      let (item, rest) ← scanValue fuel text
      match skip rest with
      | ']' :: after => .ok (.list (items ++ [item]), after)
      | ',' :: after => scanItems fuel (items ++ [item]) (skip after)
      | _ => .error .decode

def scanFields : Nat → List (String × PyValue) → List Char → Except LoadsError (PyValue × List Char)
  | 0, _, _ => .error .decode
  | fuel + 1, fields, text =>
      match text with
      | '"' :: text => do
          let (key, rest) ← scanString (text.length + 1) text
          match skip rest with
          | ':' :: rest => do
              let (value, rest) ← scanValue fuel (skip rest)
              let fields := Json.assign fields (String.ofList key) value
              match skip rest with
              | '}' :: after => .ok (.dict fields, after)
              | ',' :: after => scanFields fuel fields (skip after)
              | _ => .error .decode
          | _ => .error .decode
      | _ => .error .decode

end

/-- `json.loads`; a text that begins with a byte order mark is no document. -/
def loads (text : List Char) : Except LoadsError PyValue :=
  if ['\ufeff'].isPrefixOf text then .error .decode
  else do
    let (value, rest) ← scanValue (2 * text.length + 2) (skip text)
    if skip rest = [] then .ok value else .error .decode

def floatText : PyFloat → List Char
  | .infinite negative =>
      (if negative then ['-'] else []) ++ ['I', 'n', 'f', 'i', 'n', 'i', 't', 'y']
  | .nan => ['N', 'a', 'N']
  | .finite negative magnitude => (PyFloat.finite negative magnitude).write

mutual

/-- The text of a document with its fields in the order in which they stand. -/
def write : PyValue → List Char
  | .none => ['n', 'u', 'l', 'l']
  | .bool true => ['t', 'r', 'u', 'e']
  | .bool false => ['f', 'a', 'l', 's', 'e']
  | .int value => (writeInt value).toList
  | .float value => floatText value
  | .str text => quote text
  | .list [] => ['[', ']']
  | .list (item :: items) => '[' :: (write item ++ writeItems items)
  | .dict [] => ['\x7b', '\x7d']
  | .dict ((key, value) :: fields) =>
      '\x7b' :: (quote key ++ (':' :: ' ' :: (write value ++ writeFields fields)))

def writeItems : List PyValue → List Char
  | [] => [']']
  | item :: items => ',' :: ' ' :: (write item ++ writeItems items)

def writeFields : List (String × PyValue) → List Char
  | [] => ['\x7d']
  | (key, value) :: fields =>
      ',' :: ' ' :: (quote key ++ (':' :: ' ' :: (write value ++ writeFields fields)))

end

/-- The order of the items of an object, by their keys. -/
def KeyLe (first second : String × PyValue) : Prop := first.1 ≤ second.1

instance : DecidableRel KeyLe := fun first second => inferInstanceAs (Decidable (first.1 ≤ second.1))

mutual

/-- The document with the keys of each object in order. -/
def sorted : PyValue → PyValue
  | .list items => .list (sortedItems items)
  | .dict fields => .dict ((sortedFields fields).insertionSort KeyLe)
  | value => value

def sortedItems : List PyValue → List PyValue
  | [] => []
  | item :: items => sorted item :: sortedItems items

def sortedFields : List (String × PyValue) → List (String × PyValue)
  | [] => []
  | (key, value) :: fields => (key, sorted value) :: sortedFields fields

end

mutual

/-- Every integer of the document can be written. -/
def writable : PyValue → Bool
  | .int value => Writable value
  | .list items => writableItems items
  | .dict fields => writableFields fields
  | _ => true

def writableItems : List PyValue → Bool
  | [] => true
  | item :: items => writable item && writableItems items

def writableFields : List (String × PyValue) → Bool
  | [] => true
  | (_, value) :: fields => writable value && writableFields fields

end

/-- `json.dumps`; nothing where it raises. -/
def dumps (value : PyValue) : Option (List Char) :=
  if writable value then some (write (sorted value)) else none

mutual

/-- Floats are binary64 numbers, and the keys of an object are distinct. -/
def Sound : PyValue → Prop
  | .float value => value.Valid
  | .list items => SoundItems items
  | .dict fields => (fields.map Prod.fst).Nodup ∧ SoundFields fields
  | _ => True

def SoundItems : List PyValue → Prop
  | [] => True
  | item :: items => Sound item ∧ SoundItems items

def SoundFields : List (String × PyValue) → Prop
  | [] => True
  | (_, value) :: fields => Sound value ∧ SoundFields fields

end

end JsonText
end Numu
