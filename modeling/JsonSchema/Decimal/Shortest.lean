import JsonSchema.Binary64.Basic

/-!
# The shortest decimal that reads back

A positive double owns the interval of reals that round to it. Of all decimals in that interval
the shortest is taken, and of several that are equally short the nearest. On the grid of decimals
with `n` digits only the two neighbours of the value can be nearest, so at most seventeen grids
with two candidates each are looked at, all in whole numbers.
-/

namespace JsonSchema

/-- The number `digits * 10 ^ exponent`. -/
structure Decimal where
  digits : Nat
  exponent : Int
  deriving DecidableEq, Repr

/-- Where an exact tie between two shortest decimals goes. -/
inductive Tie
  | toEven
  | up
  deriving DecidableEq, Repr

/-- The nearest whole number to `num / den`, a tie going where it is sent. -/
def Tie.round (tie : Tie) (num den : Nat) : Nat :=
  let below := num / den
  let rest := num % den
  if 2 * rest < den then below
  else if den < 2 * rest then below + 1
  else match tie with
    | .toEven => if below % 2 = 0 then below else below + 1
    | .up => below + 1

namespace Decimal

/-- Drops final zeros from the digits, counting them in the exponent. -/
def trim : Nat → Nat → Int → Decimal
  | 0, digits, exponent => ⟨digits, exponent⟩
  | fuel + 1, digits, exponent =>
    if digits % 10 = 0 then trim fuel (digits / 10) (exponent + 1) else ⟨digits, exponent⟩

/-- A positive rational with the interval of reals that are written alike: `low`, `value` and
`high` over the common denominator `den`, the ends belonging to it or not. -/
structure Target where
  value : Nat
  low : Nat
  high : Nat
  den : Nat
  closed : Bool

namespace Target

/-- The reals that round to a double, in quarters of a unit so that the ends are whole. Just above
a power of two the neighbour below is only half as far. -/
def ofBinary64 (x : Binary64) : Target :=
  let step := Nat.pow 2 x.scale
  let value := 4 * x.significand * step
  let below := if x.fraction = 0 ∧ 1 < x.exponentField then step else 2 * step
  { value, low := value - below, high := value + 2 * step
    den := 4 * Binary64.unitsPerOne, closed := x.significand % 2 = 0 }

/-- Whether `n * num / den'` lies in the interval, given as `n * num` over `den'`. -/
def contains (t : Target) (num den' : Nat) : Bool :=
  let point := num * t.den
  if t.closed then t.low * den' ≤ point && point ≤ t.high * den'
  else t.low * den' < point && point < t.high * den'

/-- The least `j` below the fuel with `10 ^ j` times the value at least one. -/
def leadingZeros (t : Target) : Nat → Nat → Nat
  | 0, j => j
  | fuel + 1, j => if t.den ≤ t.value * Nat.pow 10 j then j else leadingZeros t fuel (j + 1)

/-- The decimal exponent of the leading digit of the value. -/
def leadingExponent (t : Target) : Int :=
  if t.den ≤ t.value then ((Nat.toDigits 10 (t.value / t.den)).length : Int) - 1
  else -(t.leadingZeros 400 1 : Int)

/-- The best decimal on the grid of multiples of `10 ^ exponent`, if one is in the interval. -/
def onGrid (t : Target) (tie : Tie) (exponent : Int) : Option Nat :=
  let up := Nat.pow 10 exponent.toNat
  let down := Nat.pow 10 (-exponent).toNat
  let scaled := t.value * down
  let unit := t.den * up
  let below := scaled / unit
  let nearer := tie.round scaled unit
  let other := if nearer = below then below + 1 else below
  if t.contains (nearer * up) down then some nearer
  else if t.contains (other * up) down then some other
  else none

/-- Searches grids of ever more digits. -/
def search (t : Target) (tie : Tie) : Nat → Int → Decimal
  | 0, exponent =>
    ⟨t.value * Nat.pow 10 (-exponent).toNat / (t.den * Nat.pow 10 exponent.toNat), exponent⟩
  | fuel + 1, exponent =>
    match t.onGrid tie exponent with
    | some digits => trim 400 digits exponent
    | none => search t tie fuel (exponent - 1)

end Target

/-- The shortest decimal for the absolute value of a double that is not zero. -/
def shortest (tie : Tie) (x : Binary64) : Decimal :=
  let t := Target.ofBinary64 x
  t.search tie 18 t.leadingExponent

end Decimal
end JsonSchema
