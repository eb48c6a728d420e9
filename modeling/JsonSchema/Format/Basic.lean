import JsonSchema.Json.Value

/-!
# Formats

A format is a named check of a value. It may say more about a value that it refuses.
-/

namespace JsonSchema

namespace Format

/-- The outcome of a check. -/
inductive Verdict
  | valid
  | invalid (detail : Option String)
  deriving DecidableEq, Repr

/-- Whether the check is passed. -/
def Verdict.isValid : Verdict → Bool
  | valid => true
  | invalid _ => false

/-- The outcome of a check that has no more to say. -/
def Verdict.ofBool (b : Bool) : Verdict := if b then valid else invalid none

end Format

/-- A named check of a value. -/
structure Format where
  name : String
  check : Value → Format.Verdict

namespace Format

/-- A format for strings; it says nothing about other values. -/
def ofPredicate (name : String) (p : String → Bool) : Format where
  name
  check
    | .string s => .ofBool (p s)
    | _ => .valid

/-- A format for numbers; it says nothing about other values. -/
def ofNumberCheck (name : String) (f : Number → Verdict) : Format where
  name
  check
    | .number n => f n
    | _ => .valid

end Format
end JsonSchema
