/-!
# Finite doubles

A finite double is a sign and a place in the ordered list of the non-negative finite doubles.
Each one is a whole number of units of `2 ^ (-1074)`, so order, equality and wholeness are
questions about integers, and no rounding happens in answering them.
-/

namespace JsonSchema

/-- A finite double: a sign, and the place of its absolute value counted from zero upwards. -/
structure Binary64 where
  negative : Bool
  rank : Nat
  rank_lt : rank < 0x7FF0000000000000 := by decide
  deriving DecidableEq, Repr

namespace Binary64

/-- The number of units in the number one. -/
def unitsPerOne : Nat := Nat.pow 2 1074

/-- The fraction field of the absolute value. -/
def fraction (x : Binary64) : Nat := x.rank % 0x10000000000000

/-- The exponent field of the absolute value. -/
def exponentField (x : Binary64) : Nat := x.rank / 0x10000000000000

/-- The whole significand: the hidden bit is there except in the lowest exponent. -/
def significand (x : Binary64) : Nat :=
  if x.exponentField = 0 then x.fraction else 0x10000000000000 + x.fraction

/-- The power of two, in units, that the significand counts. -/
def scale (x : Binary64) : Nat := x.exponentField - 1

/-- The absolute value in units. -/
def magnitude (x : Binary64) : Nat := x.significand * Nat.pow 2 x.scale

/-- The exact value in units. -/
def units (x : Binary64) : Int :=
  if x.negative then -(x.magnitude : Int) else x.magnitude

/-- Positive zero. -/
def zero : Binary64 := ⟨false, 0, by decide⟩

instance : Inhabited Binary64 := ⟨zero⟩

/-- A double without a fractional part. -/
def isWhole (x : Binary64) : Bool := x.units % (unitsPerOne : Int) == 0

/-- The order of the exact values; the two zeros are equal. -/
def compare (x y : Binary64) : Ordering := Ord.compare x.units y.units

end Binary64
end JsonSchema
