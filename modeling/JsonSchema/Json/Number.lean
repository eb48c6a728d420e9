import JsonSchema.Binary64.Rounding

/-!
# JSON numbers

A number is kept either as a whole number that fits in 64 bits, signed or not, or as a finite
double. Two whole numbers are compared and divided exactly. As soon as a double takes part, the
other operand is rounded to a double first.
-/

namespace JsonSchema

/-- The whole numbers that are kept as such: those of 64 bits, signed or unsigned. -/
def FitsWord (n : Int) : Prop := -0x8000000000000000 ≤ n ∧ n < 0x10000000000000000

instance (n : Int) : Decidable (FitsWord n) := inferInstanceAs (Decidable (_ ∧ _))

/-- A JSON number as it is kept. -/
inductive Number
  | integer (value : Int) (fits : FitsWord value)
  | float (value : Binary64)
  deriving DecidableEq

namespace Number

/-- A small natural number. -/
def ofNat (n : Nat) (fits : FitsWord n := by decide) : Number := .integer n fits

instance : Inhabited Number := ⟨ofNat 0⟩

/-- A count. One beyond 64 bits is rounded to a double. -/
def ofCount (n : Nat) : Number :=
  if h : FitsWord n then .integer n h else .float (.ofInt n)

/-- The number as a double, rounded to nearest. -/
def toBinary64 : Number → Binary64
  | .integer n _ => .ofInt n
  | .float x => x

/-- A number without a fractional part, however it is kept. -/
def isInteger : Number → Bool
  | .integer _ _ => true
  | .float x => x.isWhole

/-- Numeric order: exact between whole numbers, between doubles otherwise. -/
def compare : Number → Number → Ordering
  | .integer m _, .integer n _ => Ord.compare m n
  | a, b => a.toBinary64.compare b.toBinary64

/-- Divisibility: exact between whole numbers, otherwise of the rounded quotient, which may miss a
whole number by one part in `2 ^ 52`. Nothing is a multiple of zero. -/
def isMultipleOf : Number → Number → Bool
  | .integer m _, .integer d _ => d != 0 && Int.tmod m d == 0
  | a, d => match a.toBinary64.divide d.toBinary64 with
    | some quotient => quotient.isNearlyWhole
    | none => false

/-- The same number kept in the same form; the two zeros of the doubles are the same. -/
def identical : Number → Number → Bool
  | .integer m _, .integer n _ => m == n
  | .float x, .float y => x.compare y == .eq
  | _, _ => false

/-- The same numeric value, in whichever form. -/
def equivalent (a b : Number) : Bool := a.compare b == .eq

/-- The count that a number writes, if it is whole and not negative. A double may be as large as
`2 ^ 64`, which counts as the largest word. -/
def count? : Number → Option Nat
  | .integer n _ => if 0 ≤ n then some n.toNat else none
  | .float x =>
    let whole := x.units / (Binary64.unitsPerOne : Int)
    if x.isWhole ∧ 0 ≤ whole ∧ whole ≤ 0x10000000000000000 then
      some (min whole.toNat 0xFFFFFFFFFFFFFFFF)
    else none

/-- A number above zero. -/
def isPositive : Number → Bool
  | .integer n _ => 0 < n
  | .float x => 0 < x.units

/-- The number that a decimal literal stands for. Without fraction and exponent it is a whole
number if it fits, except that a negated zero is the negative zero; all else is a double. There is
no number for a literal beyond the doubles. -/
def ofLiteral (negative : Bool) (digits : Nat) (exponent : Int) (isWhole : Bool) : Option Number :=
  let n : Int := if negative then -digits else digits
  if h : isWhole ∧ FitsWord n ∧ ¬(negative ∧ digits = 0) then some (.integer n h.2.1)
  else (Binary64.ofDecimal negative digits exponent).map .float

end Number
end JsonSchema
