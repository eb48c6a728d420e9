import JsonSchema.Json.Text
import JsonSchema.Schema.Check

/-!
# Failures

What failed, with all that is needed to say so. The wording is kept apart, so that others can be
used in its place.
-/

namespace JsonSchema

/-- What failed. -/
inductive Failure
  | falseSchema
  | type (expected : List TypeName) (actual : TypeName)
  | enum (options : List Value)
  | const (expected : Value)
  | format (name : String) (detail : Option String)
  | bound (b : Bound) (limit : Number)
  | multipleOf (divisor : Number)
  | length (s : Side) (limit : Nat)
  | pattern (source : String)
  | itemCount (s : Side) (limit : Nat)
  | required (property : String)
  | not
  | anyOf
  | oneOfNone
  | oneOfSeveral (matched : List Nat)

/-- The failure of a check on a value. -/
def Check.failure : Check → Value → Failure
  | .type expected, v => .type expected (TypeName.of v)
  | .enum options, _ => .enum options
  | .const expected, _ => .const expected
  | .format f, v => .format f.name (match f.check v with
    | .invalid detail => detail
    | .valid => none)
  | .bound b limit, _ => .bound b limit
  | .multipleOf divisor, _ => .multipleOf divisor
  | .length s limit, _ => .length s limit
  | .pattern source _, _ => .pattern source
  | .itemCount s limit, _ => .itemCount s limit

/-- The name of a bound. -/
def Bound.text : Bound → String
  | minimum => "minimum"
  | maximum => "maximum"
  | exclusiveMinimum => "exclusiveMinimum"
  | exclusiveMaximum => "exclusiveMaximum"

namespace Failure

/-- The short name of what failed. -/
def code : Failure → String
  | falseSchema => "falseSchema"
  | type _ _ => "type"
  | enum _ => "enum"
  | const _ => "const"
  | format _ _ => "format"
  | bound b _ => b.text
  | multipleOf _ => "multipleOf"
  | length .min _ => "minLength"
  | length .max _ => "maxLength"
  | pattern _ => "pattern"
  | itemCount .min _ => "minItems"
  | itemCount .max _ => "maxItems"
  | required _ => "required"
  | not => "not"
  | anyOf => "anyOf"
  | oneOfNone => "oneOfNotValid"
  | oneOfSeveral _ => "oneOfMultipleValid"

/-- A count and the noun that goes with it. -/
def counted (n : Nat) (noun : String) : String :=
  toString n ++ " " ++ noun ++ (if n = 1 then "" else "s")

/-- The failure of a value in English. -/
def message (f : Failure) (v : Value) : String :=
  match f with
  | falseSchema => s!"False schema does not allow {v.text}"
  | type expected _ =>
    s!"{v.text} is not of type " ++
      String.intercalate " or " (expected.map fun t => "\"" ++ t.text ++ "\"")
  | enum options => s!"{v.text} is not one of {Value.text (.array options)}"
  | const expected => s!"{expected.text} was expected"
  | format name detail =>
    s!"{v.text} is not a " ++ "\"" ++ name ++ "\"" ++ (match detail with
      | some d => ": " ++ d
      | none => "")
  | bound .minimum limit => s!"{v.text} is less than the minimum of {limit.text}"
  | bound .maximum limit => s!"{v.text} is greater than the maximum of {limit.text}"
  | bound .exclusiveMinimum limit =>
    s!"{v.text} is less than or equal to the minimum of {limit.text}"
  | bound .exclusiveMaximum limit =>
    s!"{v.text} is greater than or equal to the maximum of {limit.text}"
  | multipleOf divisor => s!"{v.text} is not a multiple of {divisor.text}"
  | length .min limit => s!"{v.text} is shorter than " ++ counted limit "character"
  | length .max limit => s!"{v.text} is longer than " ++ counted limit "character"
  | pattern source => s!"{v.text} does not match " ++ "\"" ++ source ++ "\""
  | itemCount .min limit => s!"{v.text} has fewer than " ++ counted limit "item"
  | itemCount .max limit => s!"{v.text} has more than " ++ counted limit "item"
  | required property => "\"" ++ property ++ "\" is a required property"
  | not => s!"{v.text} should not be valid under the negated schema"
  | anyOf => s!"{v.text} is not valid under any of the given schemas"
  | oneOfNone => s!"{v.text} is not valid under any of the given schemas"
  | oneOfSeveral matched =>
    s!"{v.text} is valid under more than one of the given schemas (branches " ++
      String.intercalate ", " (matched.map toString) ++ ")"

/-- What is particular about the failure, as members of an object. -/
def details : Failure → List (String × Value)
  | type expected actual =>
    [("expected", .array (expected.map fun t => .string t.text)), ("actual", .string actual.text)]
  | enum options => [("options", .array options)]
  | const expected => [("expected", expected)]
  | format name detail => ("format", .string name) :: (match detail with
    | some d => [("detail", .string d)]
    | none => [])
  | bound _ limit => [("limit", .number limit)]
  | multipleOf divisor => [("multipleOf", .number divisor)]
  | length _ limit => [("limit", .number (.ofCount limit))]
  | pattern source => [("pattern", .string source)]
  | itemCount _ limit => [("limit", .number (.ofCount limit))]
  | required property => [("property", .string property)]
  | oneOfSeveral matched => [("matched", .array (matched.map fun i => .number (.ofCount i)))]
  | _ => []

/-- The failure as members of an object: its short name and what is particular about it. -/
def members (f : Failure) : List (String × Value) := ("kind", .string f.code) :: f.details

end Failure

/-- A wording for failures. -/
abbrev Wording := Failure → Value → String

end JsonSchema
