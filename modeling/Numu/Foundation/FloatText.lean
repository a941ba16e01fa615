import Mathlib.Data.Int.Log
import Numu.Foundation.Binary64
import Numu.Foundation.IntegerText

/-!
# Floats as text

`readFloat` accepts what Python's `float(text)` accepts: a decimal literal with an
optional fraction and exponent, or one of the names of infinity and NaN.
-/

namespace Numu

/-- A binary64 value; the sign of zero is not kept. -/
inductive FloatValue where
  | finite (value : ℚ)
  | infinite (negative : Bool)
  | nan
  deriving DecidableEq, Repr

namespace FloatText
open IntegerText (decimalValue strip)

/-- The digits that follow a first one, with single underscores between them, and the rest. -/
def spanMore : List Char → List Nat × List Char
  | [] => ([], [])
  | '_' :: c :: rest =>
      match decimalValue c with
      | none => ([], '_' :: c :: rest)
      | some digit =>
          let (digits, after) := spanMore rest
          (digit :: digits, after)
  | c :: rest =>
      match decimalValue c with
      | none => ([], c :: rest)
      | some digit =>
          let (digits, after) := spanMore rest
          (digit :: digits, after)

def spanDigits : List Char → List Nat × List Char
  | [] => ([], [])
  | c :: rest =>
      match decimalValue c with
      | none => ([], c :: rest)
      | some digit =>
          let (digits, after) := spanMore rest
          (digit :: digits, after)

def ofDigits (digits : List Nat) : Nat :=
  digits.foldl (fun acc digit => 10 * acc + digit) 0

def spanSign : List Char → Bool × List Char
  | '-' :: rest => (true, rest)
  | '+' :: rest => (false, rest)
  | text => (false, text)

def spanFraction : List Char → List Nat × List Char
  | '.' :: rest => spanDigits rest
  | text => ([], text)

/-- The exponent must reach the end of the text. -/
def readExponent : List Char → Option Int
  | [] => some 0
  | c :: rest =>
      if c.toLower ≠ 'e' then none
      else
        let (negative, unsigned) := spanSign rest
        match spanDigits unsigned with
        | ([], _) => none
        | (digits, []) => some (if negative then -(ofDigits digits : Int) else ofDigits digits)
        | (_, _ :: _) => none

/-- The values from here on round to infinity. -/
def overflow : ℚ := 2 ^ 1024 - 2 ^ 970

def round (negative : Bool) (value : ℚ) : FloatValue :=
  if overflow ≤ value then .infinite negative
  else .finite (if negative then -Binary64.nearest value else Binary64.nearest value)

def readNumber (negative : Bool) (text : List Char) : Option FloatValue :=
  let (whole, afterWhole) := spanDigits text
  let (fraction, afterFraction) := spanFraction afterWhole
  if whole ++ fraction = [] then none
  else
    (readExponent afterFraction).map fun (exponent : Int) =>
      round negative (ofDigits (whole ++ fraction) * (10 : ℚ) ^ (exponent - fraction.length))

def readFloat (text : String) : Option FloatValue :=
  let (negative, unsigned) := spanSign (strip text.toList)
  let name := String.ofList (unsigned.map Char.toLower)
  if name = "inf" ∨ name = "infinity" then some (.infinite negative)
  else if name = "nan" then some .nan
  else readNumber negative unsigned

example : readFloat " 1_4.50e-1 " = some (.finite (Binary64.nearest (145 / 100))) := by
  decide +kernel

example : readFloat "1__4" = none := by decide +kernel

end FloatText
end Numu

/-!
# Decimals as text

`readDecimal` accepts the finite literals of Python's `Decimal(text)`. `shortest` is the decimal
that Python writes for a float, the shortest that reads back as it.
-/

namespace Numu.DecimalText
open FloatText (ofDigits readExponent spanDigits spanFraction spanSign)

/-- The decimals of `digits` significant digits next to `q`, the nearer one first. -/
def neighbours (q : ℚ) (digits : Nat) : List ℚ :=
  let unit : ℚ := 10 ^ (Int.log 10 |q| + 1 - digits)
  let low := ⌊q / unit⌋
  if q / unit - low ≤ 1 / 2 then [low * unit, (low + 1) * unit]
  else [(low + 1) * unit, low * unit]

/-- `Decimal(str(q))` of a float; 17 digits always read back. -/
def shortest (q : ℚ) : ℚ :=
  let readsBack := ((List.range 17).flatMap fun n => neighbours q (n + 1)).find? fun decimal =>
    Binary64.nearest decimal = q
  readsBack.getD q

example : shortest (Binary64.nearest (1 / 10)) = 1 / 10 := by decide +kernel

def readDecimal (text : String) : Option ℚ :=
  let chars := (IntegerText.strip text.toList).filter (· ≠ '_')
  let (negative, unsigned) := spanSign chars
  let (whole, afterWhole) := spanDigits unsigned
  let (fraction, afterFraction) := spanFraction afterWhole
  if whole ++ fraction = [] then none
  else
    (readExponent afterFraction).map fun (exponent : Int) =>
      let size := ofDigits (whole ++ fraction) * (10 : ℚ) ^ (exponent - fraction.length)
      if negative then -size else size

end Numu.DecimalText
