/-!
# Keywords

The names that mean something in a schema.
-/

namespace JsonSchema

/-- Which end of a range a limit closes. -/
inductive Side
  | min
  | max
  deriving DecidableEq, Repr

namespace Side

/-- Whether a count is on the right side of a limit. -/
def admits : Side → Nat → Nat → Bool
  | min, actual, limit => limit ≤ actual
  | max, actual, limit => actual ≤ limit

end Side

/-- The bounds on numbers. -/
inductive Bound
  | minimum
  | maximum
  | exclusiveMinimum
  | exclusiveMaximum
  deriving DecidableEq, Repr

/-- Whether a number that compares so to the limit is within the bound. -/
def Bound.admits : Bound → Ordering → Bool
  | minimum, o => o != .lt
  | maximum, o => o != .gt
  | exclusiveMinimum, o => o == .gt
  | exclusiveMaximum, o => o == .lt

/-- The keywords, other than those that only inform. -/
inductive Keyword
  | ref
  | type
  | enum
  | const
  | format
  | bound (b : Bound)
  | multipleOf
  | length (s : Side)
  | pattern
  | itemCount (s : Side)
  | items
  | required
  | properties
  | allOf
  | anyOf
  | oneOf
  | not
  | condition
  /-- The branch for values that meet the condition, or else for those that do not. -/
  | branch (met : Bool)
  /-- A keyword that only informs. -/
  | informative
  deriving DecidableEq, Repr

namespace Keyword

/-- The names of the keywords that only inform. -/
def informativeNames : List String :=
  ["$id", "$schema", "$anchor", "$defs", "definitions", "$comment", "title", "description",
    "default", "examples"]

/-- The names of the other keywords. -/
def names : List (String × Keyword) :=
  [("$ref", ref), ("type", type), ("enum", enum), ("const", const), ("format", format),
    ("minimum", bound .minimum), ("maximum", bound .maximum),
    ("exclusiveMinimum", bound .exclusiveMinimum), ("exclusiveMaximum", bound .exclusiveMaximum),
    ("multipleOf", multipleOf), ("minLength", length .min), ("maxLength", length .max),
    ("pattern", pattern), ("minItems", itemCount .min), ("maxItems", itemCount .max),
    ("items", items), ("required", required), ("properties", properties), ("allOf", allOf),
    ("anyOf", anyOf), ("oneOf", oneOf), ("not", not), ("if", condition), ("then", branch true),
    ("else", branch false)]

/-- The keyword with a given name. -/
def ofName? (name : String) : Option Keyword :=
  match names.lookup name with
  | some k => some k
  | none => if informativeNames.contains name then some informative else none

end Keyword
end JsonSchema
