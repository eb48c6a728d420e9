import JsonSchema.Binary64.Basic

/-!
# Rounding to the nearest double

A quotient of natural numbers, measured in units, goes to the nearest double, a tie to the one
with an even significand. Past the largest finite double there is no answer. Whole numbers,
decimal literals, sums and quotients of doubles are all rounded by this one rule.
-/

namespace JsonSchema.Binary64

/-- The nearest whole number to `num / den`, a tie going to the even one. -/
def roundHalfEven (num den : Nat) : Nat :=
  let q := num / den
  let r := num % den
  if 2 * r < den then q
  else if den < 2 * r then q + 1
  else if q % 2 = 0 then q else q + 1

/-- The place of the double nearest to `num / den` units.

With `shift` binary digits dropped the quotient has at most 53 left, and the rounded significand
added to `shift` whole binades is the place, also when rounding carries into the next binade. -/
def nearestRank (num den : Nat) : Nat :=
  let shift := (num / den).log2 - 52
  shift * 0x10000000000000 + roundHalfEven num (den * Nat.pow 2 shift)

/-- The double nearest to `num / den` units, if it is finite. -/
def ofRatio (negative : Bool) (num den : Nat) : Option Binary64 :=
  if h : nearestRank num den < 0x7FF0000000000000 then some ⟨negative, nearestRank num den, h⟩
  else none

/-- The double nearest to a whole number. Every stored whole number is in range. -/
def ofInt (n : Int) : Binary64 :=
  (ofRatio (n < 0) (n.natAbs * unitsPerOne) 1).getD zero

/-- The rounded sum, if it is finite. Zero is negative only as the sum of negative zeros. -/
def add (x y : Binary64) : Option Binary64 :=
  let sum := x.units + y.units
  ofRatio (if sum = 0 then x.negative && y.negative else sum < 0) sum.natAbs 1

/-- The rounded quotient, if the divisor is not zero and the quotient is finite. -/
def divide (x y : Binary64) : Option Binary64 :=
  if y.magnitude = 0 then none
  else ofRatio (x.negative != y.negative) (x.magnitude * unitsPerOne) y.magnitude

/-- The whole number nearest to the absolute value, a tie going away from zero. -/
def nearestWhole (x : Binary64) : Nat :=
  (2 * x.magnitude + unitsPerOne) / (2 * unitsPerOne)

/-- The distance in units from the absolute value to the nearest whole number. -/
def distanceToWhole (x : Binary64) : Nat :=
  ((x.magnitude : Int) - (x.nearestWhole * unitsPerOne : Nat)).natAbs

/-- Whole up to one part in `2 ^ 52` of the value, or of one where the value is smaller. -/
def isNearlyWhole (x : Binary64) : Bool :=
  x.distanceToWhole * 0x10000000000000 ≤ max x.magnitude unitsPerOne

/-- The double nearest to `digits * 10 ^ exponent`, if it is finite.

A decimal whose leading digit stands far above or below the range of doubles is settled by its
size, so that no large power is formed. -/
def ofDecimal (negative : Bool) (digits : Nat) (exponent : Int) : Option Binary64 :=
  let leading := exponent + (Nat.toDigits 10 digits).length
  if digits = 0 ∨ leading < -400 then some { zero with negative }
  else if 400 < leading then none
  else if 0 ≤ exponent then ofRatio negative (digits * Nat.pow 10 exponent.toNat * unitsPerOne) 1
  else ofRatio negative (digits * unitsPerOne) (Nat.pow 10 (-exponent).toNat)

end JsonSchema.Binary64
