import Mathlib.Data.Rat.Floor

/-!
# Binary64 division and rounding

`trueDiv a b` is Python's `a / b` on integers, the nearest binary64 number to the
exact quotient; `roundHalfEven` is Python's `round` on a float.
-/

namespace Numu.Binary64

def divHalfEven (num den : Nat) : Nat :=
  let quotient := num / den
  let twice := 2 * (num % den)
  if twice < den then quotient
  else if den < twice then quotient + 1
  else if quotient % 2 = 0 then quotient
  else quotient + 1

/-- Exponent of the last of the 53 significand bits of `num / den`. -/
def lastBit (num den : Nat) : Int :=
  let e : Int := Nat.log2 num - Nat.log2 den
  if num * 2 ^ (-e).toNat < den * 2 ^ e.toNat then e - 53 else e - 52

def trueDiv (num den : Nat) : ℚ :=
  if num = 0 then 0
  else
    let shift := lastBit num den
    let significand := divHalfEven (num * 2 ^ (-shift).toNat) (den * 2 ^ shift.toNat)
    mkRat (significand * 2 ^ shift.toNat) (2 ^ (-shift).toNat)

def nearest (q : ℚ) : ℚ :=
  if q < 0 then -trueDiv q.num.natAbs q.den else trueDiv q.num.natAbs q.den

/-- Python's `int` of a float. -/
def truncate (q : ℚ) : Int :=
  if q < 0 then ⌈q⌉ else ⌊q⌋

def roundHalfEven (q : ℚ) : Int :=
  let low := ⌊q⌋
  let part := q - low
  if part < 1 / 2 then low
  else if 1 / 2 < part then low + 1
  else if low % 2 = 0 then low
  else low + 1

example : roundHalfEven (trueDiv 5 2) = 2 := by decide +kernel

example : trueDiv 1 10 = mkRat 3602879701896397 36028797018963968 := by decide +kernel

end Numu.Binary64
