import JsonSchema.Schema.Check
import JsonSchema.Schema.Location

/-!
# Compiled schemas

A compiled schema is a list of trees in numbered slots. The root schema is in slot 0, and every
target of a reference has a slot of its own, so a reference holds no more than a number and schemas
may refer to each other in any way.
-/

namespace JsonSchema

/-- A compiled schema or keyword, with the place it was compiled from. -/
inductive Node
  /-- A schema that is `true` or `false`. -/
  | boolean (location : SchemaLocation) (accepts : Bool)
  /-- A schema object: all its keywords have to accept. -/
  | keywords (location : SchemaLocation) (children : List Node)
  /-- A reference to the schema in a slot. -/
  | reference (location : SchemaLocation) (slot : Nat)
  | check (location : SchemaLocation) (c : Check)
  | required (location : SchemaLocation) (names : List String)
  | properties (location : SchemaLocation) (members : List (String × Node))
  /-- One schema for all items of an array. -/
  | uniformItems (location : SchemaLocation) (schema : Node)
  /-- A schema for each of the first items of an array. -/
  | positionalItems (location : SchemaLocation) (schemas : List Node)
  | allOf (location : SchemaLocation) (branches : List Node)
  | anyOf (location : SchemaLocation) (branches : List Node)
  | oneOf (location : SchemaLocation) (branches : List Node)
  | not (location : SchemaLocation) (negated : Node)
  | conditional (location : SchemaLocation) (condition : Node) (met unmet : Option Node)

namespace Node

instance : Inhabited Node := ⟨boolean default true⟩

/-- Where a node was compiled from. -/
def location : Node → SchemaLocation
  | boolean l _ => l
  | keywords l _ => l
  | reference l _ => l
  | check l _ => l
  | required l _ => l
  | properties l _ => l
  | uniformItems l _ => l
  | positionalItems l _ => l
  | allOf l _ => l
  | anyOf l _ => l
  | oneOf l _ => l
  | not l _ => l
  | conditional l _ _ _ => l

mutual

/-- The longest way down a tree, in nodes. -/
def height : Node → Nat
  | keywords _ children => 1 + heights children
  | properties _ members => 1 + memberHeights members
  | uniformItems _ schema => 1 + height schema
  | positionalItems _ schemas => 1 + heights schemas
  | allOf _ branches => 1 + heights branches
  | anyOf _ branches => 1 + heights branches
  | oneOf _ branches => 1 + heights branches
  | not _ negated => 1 + height negated
  | conditional _ condition met unmet =>
    1 + max (height condition) (max (branchHeight met) (branchHeight unmet))
  | _ => 1

/-- The longest way down some trees. -/
def heights : List Node → Nat
  | [] => 0
  | n :: rest => max (height n) (heights rest)

/-- The longest way down the trees of members. -/
def memberHeights : List (String × Node) → Nat
  | [] => 0
  | (_, n) :: rest => max (height n) (memberHeights rest)

/-- The longest way down a branch that may be absent. -/
def branchHeight : Option Node → Nat
  | none => 0
  | some n => height n

end

mutual

/-- The references of a tree that are followed with the very value that reaches it, and not with a
part of it: those outside properties and items. -/
def inPlaceReferences : Node → List (SchemaLocation × Nat)
  | reference l slot => [(l, slot)]
  | keywords _ children => inPlaceReferencesOf children
  | allOf _ branches => inPlaceReferencesOf branches
  | anyOf _ branches => inPlaceReferencesOf branches
  | oneOf _ branches => inPlaceReferencesOf branches
  | not _ negated => inPlaceReferences negated
  | conditional _ condition met unmet =>
    inPlaceReferences condition ++ branchReferences met ++ branchReferences unmet
  | _ => []

/-- The references of some trees. -/
def inPlaceReferencesOf : List Node → List (SchemaLocation × Nat)
  | [] => []
  | n :: rest => inPlaceReferences n ++ inPlaceReferencesOf rest

/-- The references of a branch that may be absent. -/
def branchReferences : Option Node → List (SchemaLocation × Nat)
  | none => []
  | some n => inPlaceReferences n

end

end Node
end JsonSchema
