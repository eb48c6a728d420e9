import JsonSchema.Registry.Reference
import JsonSchema.Schema.Compile

/-!
# What a schema means

The meaning of a schema is read off its text, with no compilation: a schema object is the
conjunction of its keywords, and a reference stands for the schema that it leads to. A judgement is
absent where the text is malformed, or where references have been followed too often.
-/

namespace JsonSchema

/-- What the text of a schema refers to: formats by their names, and targets of references at a
base. -/
structure Surroundings where
  format? : String → Option Format
  target? : Url → String → Option Target

namespace Meaning

/-- The base inside a schema object. -/
def innerBase (base : Url) (members : List (String × Value)) : Option Url :=
  match members.lookup "$id" with
  | some (.string id) =>
    if Declarations.isFragmentOnly id then some base
    else (base.join id).toOption.map Url.withoutFragment
  | _ => some base

/-! ## Keywords without schemas -/

/-- The type that a value names. -/
def typeNamed (name : Value) : Option TypeName := name.string?.bind TypeName.ofText?

/-- A value is of the type that is named, or of one of several. -/
def judgeType (k x : Value) : Option Bool :=
  match k with
  | .array (name :: names) =>
    ((name :: names).mapM typeNamed).map fun types => types.any (·.admits x)
  | name => (typeNamed name).map (·.admits x)

/-- A value is equal to one of the options. -/
def judgeEnum (k x : Value) : Option Bool :=
  match k with
  | .array options => some (options.any (·.equivalent x))
  | _ => none

/-- A value passes the check of a format, if there is a format of that name. -/
def judgeFormat (E : Surroundings) (k x : Value) : Option Bool :=
  match k with
  | .string name => some ((E.format? name).all fun f => (f.check x).isValid)
  | _ => none

/-- A number compares to the limit as it should. -/
def judgeBound (admits : Ordering → Bool) (k x : Value) : Option Bool :=
  match k, x with
  | .number limit, .number n => some (admits (n.compare limit))
  | .number _, _ => some true
  | _, _ => none

/-- A number is a multiple of the divisor. -/
def judgeMultipleOf (k x : Value) : Option Bool :=
  match k, x with
  | .number divisor, .number n => some (n.isMultipleOf divisor)
  | .number _, _ => some true
  | _, _ => none

/-- The characters of a string. -/
def stringSize? : Value → Option Nat
  | .string s => some s.length
  | _ => none

/-- The items of an array. -/
def arraySize? : Value → Option Nat
  | .array items => some items.length
  | _ => none

/-- The limit that a value writes. -/
def limit? : Value → Option Nat
  | .number n => n.count?
  | _ => none

/-- What a value has of a size is within the limit. -/
def judgeSize (size? : Value → Option Nat) (admits : Nat → Nat → Bool) (k x : Value) :
    Option Bool :=
  (limit? k).map fun limit => (size? x).all (admits · limit)

/-- A string matches the pattern. -/
def judgePattern (k x : Value) : Option Bool :=
  match k with
  | .string source => (Regex.parse? source).map fun regex => x.string?.all regex.isMatch
  | _ => none

/-- An object has a member under each of the names. -/
def judgeRequired (k x : Value) : Option Bool :=
  match k with
  | .array names => (names.mapM Value.string?).map fun names =>
      match x with
      | .object members => names.all fun name => (members.lookup name).isSome
      | _ => true
  | _ => none

/-! ## Keywords with schemas -/

/-- The judgements on some parts, taken together. -/
def judgeParts {α : Type} (combine : List Bool → Bool) (judge : α → Option Bool)
    (parts : List α) : Option Bool :=
  (parts.mapM judge).map combine

/-- All of the judgements hold. -/
def conjunction (judgements : List Bool) : Bool := judgements.all id

/-- Some judgement holds. -/
def disjunction (judgements : List Bool) : Bool := judgements.any id

/-- Exactly one of the judgements holds. -/
def exactlyOne (judgements : List Bool) : Bool := judgements.countP id == 1

variable (judge : Value → Value → Option Bool)

/-- The member that a schema is for conforms to it, where the value has the member. -/
def judgeMember (x : Value) (schema : String × Value) : Option Bool :=
  match x.get? schema.1 with
  | some child => judge schema.2 child
  | none => some true

/-- The members of an object that have a schema conform to it. -/
def judgeProperties (k x : Value) : Option Bool :=
  match k with
  | .object schemas => judgeParts conjunction (judgeMember judge x) schemas
  | _ => none

/-- The items of an array conform: each to the schema for its position, or all to one. -/
def judgeItems (k x : Value) : Option Bool :=
  match k, x with
  | .array schemas, .array items =>
    judgeParts conjunction (fun (schema, item) => judge schema item) (schemas.zip items)
  | schema, .array items => judgeParts conjunction (judge schema) items
  | _, _ => some true

/-- The branches that a value conforms to are as many as they should be. -/
def judgeBranches (combine : List Bool → Bool) (k x : Value) : Option Bool :=
  match k with
  | .array (schema :: schemas) => judgeParts combine (judge · x) (schema :: schemas)
  | _ => none

/-- A value conforms to a branch that may be absent. -/
def judgeBranch (schema : Option Value) (x : Value) : Option Bool :=
  match schema with
  | some schema => judge schema x
  | none => some true

/-- A value that meets the condition conforms to one branch, any other to the other. Without
branches the condition says nothing. -/
def judgeCondition (members : List (String × Value)) (k x : Value) : Option Bool :=
  match members.lookup "then", members.lookup "else" with
  | none, none => some true
  | met, unmet => (judge k x).bind fun holds =>
    if holds then judgeBranch judge met x else judgeBranch judge unmet x

end Meaning

open Meaning

/-- The judgement of a keyword among the members of a schema object. -/
def judgeKeyword (E : Surroundings) (judge : Url → Value → Value → Option Bool) (base : Url)
    (members : List (String × Value)) (name : String) (k x : Value) : Option Bool :=
  match name with
  | "$ref" => (k.string?.bind (E.target? base)).bind fun t => judge t.base t.contents x
  | "type" => judgeType k x
  | "enum" => judgeEnum k x
  | "const" => some (k.equivalent x)
  | "format" => judgeFormat E k x
  | "minimum" => judgeBound (· != .lt) k x
  | "maximum" => judgeBound (· != .gt) k x
  | "exclusiveMinimum" => judgeBound (· == .gt) k x
  | "exclusiveMaximum" => judgeBound (· == .lt) k x
  | "multipleOf" => judgeMultipleOf k x
  | "minLength" => judgeSize stringSize? (fun size limit => limit ≤ size) k x
  | "maxLength" => judgeSize stringSize? (fun size limit => size ≤ limit) k x
  | "pattern" => judgePattern k x
  | "minItems" => judgeSize arraySize? (fun size limit => limit ≤ size) k x
  | "maxItems" => judgeSize arraySize? (fun size limit => size ≤ limit) k x
  | "items" => judgeItems (judge base) k x
  | "required" => judgeRequired k x
  | "properties" => judgeProperties (judge base) k x
  | "allOf" => judgeBranches (judge base) conjunction k x
  | "anyOf" => judgeBranches (judge base) disjunction k x
  | "oneOf" => judgeBranches (judge base) exactlyOne k x
  | "not" => (judge base k x).map (!·)
  | "if" => judgeCondition (judge base) members k x
  | _ => some true

/-- The judgement of a schema at a base on a value. -/
def judge (E : Surroundings) : Nat → Url → Value → Value → Option Bool
  | 0, _, _, _ => none
  | fuel + 1, base, schema, x => match schema with
    | .bool b => some b
    | .object members => (innerBase base members).bind fun inner =>
      judgeParts conjunction
        (fun (name, k) => judgeKeyword E (judge E fuel) inner members name k x) members
    | _ => none

end JsonSchema
