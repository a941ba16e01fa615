import Mathlib.Algebra.Ring.Int.Defs
import Numu.Foundation.Table

/-!
# Rescaling a table of amounts

Each amount is replaced by the floor of its proportional part of a new total. What the floors leave
goes to the first of the largest.
-/

namespace Numu.Table

section Lookups
variable {κ M : Type*} [DecidableEq κ] [AddCommMonoid M]

end Lookups

section Rescaling
variable {κ : Type*}

/-- The first entry that no other exceeds. -/
def firstLargest (best : κ × Int) : List (κ × Int) → κ × Int
  | [] => best
  | next :: rest => if best.2 < next.2 then firstLargest next rest else firstLargest best rest

variable [DecidableEq κ]

def addToLargest (table : Table κ Int) (amount : Int) : Table κ Int :=
  match table.rows with
  | [] => table
  | first :: rest => table.modify (firstLargest first rest).1 fun value => value + amount

/-- The amounts of a table that sums up to `whole`, rescaled to `total`. -/
def rescale (table : Table κ Int) (whole total : Int) : Table κ Int :=
  let scaled := table.updateAll fun value => value * total / whole
  let remainder := total - scaled.sumOf fun value => value
  if remainder = 0 then scaled else scaled.addToLargest remainder

end Rescaling

end Numu.Table
