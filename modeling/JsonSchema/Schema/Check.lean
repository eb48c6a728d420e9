import JsonSchema.Format.Basic
import JsonSchema.Json.TypeName
import JsonSchema.Regex.Search
import JsonSchema.Schema.Keyword

/-!
# Checks

A check is the assertion of a single keyword about a single value, without any schema inside it.
Each is about values of certain types and accepts all others.
-/

namespace JsonSchema

/-- The assertion of a single keyword. -/
inductive Check
  | type (expected : List TypeName)
  | enum (options : List Value)
  | const (expected : Value)
  | format (f : Format)
  | bound (b : Bound) (limit : Number)
  | multipleOf (divisor : Number)
  /-- A limit on the characters of a string. -/
  | length (s : Side) (limit : Nat)
  | pattern (source : String) (regex : Regex Regex.Atom)
  /-- A limit on the items of an array. -/
  | itemCount (s : Side) (limit : Nat)

namespace Check

/-- Whether a value passes a check. -/
def holds : Check → Value → Bool
  | type expected, v => expected.any (·.admits v)
  | enum options, v => options.any (·.equivalent v)
  | const expected, v => expected.equivalent v
  | format f, v => (f.check v).isValid
  | bound b limit, .number n => b.admits (n.compare limit)
  | multipleOf divisor, .number n => n.isMultipleOf divisor
  | length side limit, .string s => side.admits s.length limit
  | pattern _ regex, .string s => regex.isMatch s
  | itemCount side limit, .array items => side.admits items.length limit
  | _, _ => true

end Check
end JsonSchema
