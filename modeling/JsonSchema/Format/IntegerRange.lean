import JsonSchema.Decimal.Layout
import JsonSchema.Format.Basic

/-!
# Ranges of whole numbers

A number is in a range if its value is a whole number between the limits, however the number is
kept. Whole numbers are compared with the limits themselves, doubles with the limits as doubles.
-/

namespace JsonSchema.Format

/-- A range of whole numbers with its name. -/
structure IntegerRange where
  name : String
  min : Int
  max : Int

namespace IntegerRange

/-- Signed words of 32 bits. -/
def int32 : IntegerRange := ⟨"int32", -0x80000000, 0x7FFFFFFF⟩

/-- Signed words of 64 bits. -/
def int64 : IntegerRange := ⟨"int64", -0x8000000000000000, 0x7FFFFFFFFFFFFFFF⟩

/-- The refusal of a number that is not in the range. -/
def outside (r : IntegerRange) (text : String) : Verdict :=
  .invalid (some (s!"{text} is outside the {r.name} range " ++ s!"[{r.min}, {r.max}]"))

/-- The double that doubles of the range have to be below: the upper limit and one more, each step
rounded. There is none past the largest double. -/
def upperDouble (r : IntegerRange) : Option Binary64 := (Binary64.ofInt r.max).add (.ofInt 1)

/-- Whether a double lies between the limits as doubles. -/
def spans (r : IntegerRange) (x : Binary64) : Bool :=
  x.compare (.ofInt r.min) != .lt && r.upperDouble.all fun upper => x.compare upper == .lt

/-- The verdict on a number. -/
def check (r : IntegerRange) : Number → Verdict
  | .integer n _ => if r.min ≤ n ∧ n ≤ r.max then .valid else r.outside (toString n)
  | .float x =>
    let text := Decimal.Layout.plain.text x
    if !x.isWhole then .invalid (some (text ++ " is not a whole number"))
    else if r.spans x then .valid
    else r.outside text

end IntegerRange
end JsonSchema.Format
