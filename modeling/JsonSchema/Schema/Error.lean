import JsonSchema.Json.TypeName
import JsonSchema.Registry.Error
import JsonSchema.Schema.Location

/-!
# Why a schema does not compile
-/

namespace JsonSchema

/-- What is wrong with the value of a keyword. -/
inductive KeywordFault
  | notString
  | notNumber
  | notPositive
  | notCount
  | notArray
  | notTypeName
  | notTypeNames
  | unknownType (name : String)
  | notStrings
  | notProperties
  | notItems
  | notSchemas
  | unresolvable (id : String) (e : UrlError)
  | idleCycle
  | missingTarget
  deriving DecidableEq, Repr

/-- The wording of the fault. -/
def KeywordFault.message : KeywordFault → String
  | notString => "expected a string"
  | notNumber => "expected a number"
  | notPositive => "expected a number strictly greater than 0"
  | notCount => "expected a non-negative integer"
  | notArray => "expected an array"
  | notTypeName => "expected a type name"
  | notTypeNames => "expected a type name or a non-empty array of type names"
  | unknownType name => TypeName.unknownMessage name
  | notStrings => "expected an array of strings"
  | notProperties => "expected an object of schemas"
  | notItems => "expected a schema or an array of schemas"
  | notSchemas => "expected a non-empty array of schemas"
  | unresolvable id e => s!"cannot resolve '{id}': {e.message}"
  | idleCycle => "reference cycle does not consume any input"
  | missingTarget => "reference target was never compiled"

/-- What is wrong with a schema. -/
inductive SchemaError
  /-- A schema is neither a boolean nor an object. -/
  | notSchema (location : SchemaLocation) (found : TypeName)
  /-- A keyword does not take its value. -/
  | invalidKeyword (location : SchemaLocation) (keyword : String) (fault : KeywordFault)
  /-- No such keyword is known. -/
  | unknownKeyword (location : SchemaLocation) (keyword : String)
  /-- A pattern is no regular expression. -/
  | invalidRegex (location : SchemaLocation) (pattern : String)
  deriving DecidableEq, Repr

/-- The wording of the error. -/
def SchemaError.message : SchemaError → String
  | notSchema l found =>
    s!"schema at '{l.absolute}' must be a boolean or an object, found {found.text}"
  | invalidKeyword l keyword fault => s!"invalid '{keyword}' at '{l.absolute}': {fault.message}"
  | unknownKeyword l keyword => s!"unknown keyword '{keyword}' at '{l.absolute}'"
  | invalidRegex l pattern => s!"invalid regular expression '{pattern}' at '{l.absolute}': "

/-- Why a schema does not compile. -/
inductive CompileError
  | resolution (e : ResolutionError)
  | schema (e : SchemaError)
  deriving DecidableEq, Repr

/-- The wording of the error. -/
def CompileError.message : CompileError → String
  | resolution e => "resolution error: " ++ e.message
  | schema e => "schema error: " ++ e.message

end JsonSchema
