import JsonSchema.Json.Value

/-!
# Type names

The closed set of names that the `type` keyword may use. A whole number is an `integer` however it
is kept, and every number is a `number`.
-/

namespace JsonSchema

/-- A name that the `type` keyword may use. -/
inductive TypeName
  | null
  | boolean
  | integer
  | number
  | string
  | array
  | object
  deriving DecidableEq, Repr

namespace TypeName

/-- All type names, in their usual order. -/
def all : List TypeName := [.null, .boolean, .integer, .number, .string, .array, .object]

/-- The name as it is written. -/
def text : TypeName → String
  | .null => "null"
  | .boolean => "boolean"
  | .integer => "integer"
  | .number => "number"
  | .string => "string"
  | .array => "array"
  | .object => "object"

/-- The type with a given name. -/
def ofText? (name : String) : Option TypeName := all.find? (·.text == name)

/-- What is said of a name that is no type name. -/
def unknownMessage (name : String) : String := "unknown type name '" ++ name ++ "'"

/-- The most specific type of a value. -/
def of : Value → TypeName
  | .null => .null
  | .bool _ => .boolean
  | .number n => if n.isInteger then .integer else .number
  | .string _ => .string
  | .array _ => .array
  | .object _ => .object

/-- Whether a value has the type. -/
def admits : TypeName → Value → Bool
  | .number, .number _ => true
  | t, v => of v == t

end TypeName
end JsonSchema
