import JsonSchema.Schema.Node

/-!
# Evaluation

Whether a value is accepted by a node among compiled slots. References are followed by slot, so
the recursion is bounded by a number of steps, which `Node.steps` computes from the value and the
slots: between two steps into the value, a chain of references visits each slot at most once, as
long as the slots have no cycle.
-/

namespace JsonSchema

namespace Value

mutual

/-- How many values are nested in each other, the outermost one included. -/
def depth : Value → Nat
  | .array items => 1 + itemDepth items
  | .object members => 1 + memberDepth members
  | _ => 1

/-- The greatest depth of some items. -/
def itemDepth : List Value → Nat
  | [] => 0
  | v :: rest => max (depth v) (itemDepth rest)

/-- The greatest depth of some members. -/
def memberDepth : List (String × Value) → Nat
  | [] => 0
  | (_, v) :: rest => max (depth v) (memberDepth rest)

end

/-- The names of a list that an object has no member under. Other values lack nothing. -/
def missing (v : Value) (names : List String) : List String :=
  match v with
  | .object members => names.filter fun name => (members.lookup name).isNone
  | _ => []

end Value

namespace Node

/-- The parts of a value that nodes for properties are about: the members that are there. -/
def presentMembers (nodes : List (String × Node)) (v : Value) : List (String × Node × Value) :=
  nodes.filterMap fun (name, node) => (v.get? name).map fun child => (name, node, child)

/-- The items of an array that have a node for their position. -/
def positionedItems (nodes : List Node) (v : Value) : List ((Node × Value) × Nat) :=
  match v with
  | .array items => (nodes.zip items).zipIdx
  | _ => []

/-- The items of an array. -/
def allItems (v : Value) : List (Value × Nat) :=
  match v with
  | .array items => items.zipIdx
  | _ => []

/-- Whether a node accepts a value, where `call` answers for the nodes that it asks in turn. -/
def acceptsStep (slots : List Node) (call : Node → Value → Bool) (node : Node) (v : Value) : Bool :=
  match node with
  | boolean _ b => b
  | keywords _ children => children.all fun n => call n v
  | reference _ slot => (slots[slot]?).all fun n => call n v
  | check _ c => c.holds v
  | required _ names => (v.missing names).isEmpty
  | properties _ members => (presentMembers members v).all fun (_, n, child) => call n child
  | uniformItems _ n => (allItems v).all fun (child, _) => call n child
  | positionalItems _ nodes => (positionedItems nodes v).all fun ((n, child), _) => call n child
  | allOf _ branches => branches.all fun n => call n v
  | anyOf _ branches => branches.any fun n => call n v
  | oneOf _ branches => branches.countP (fun n => call n v) == 1
  | not _ n => !call n v
  | conditional _ condition met unmet =>
    let branch := if call condition v then met else unmet
    branch.all fun n => call n v

/-- Whether a node accepts a value, given that evaluation ends in `fuel` steps. -/
def accepts (slots : List Node) : Nat → Node → Value → Bool
  | 0, _, _ => true
  | fuel + 1, node, v => acceptsStep slots (accepts slots fuel) node v

/-- How many steps evaluation of a value takes at most. -/
def steps (slots : List Node) (node : Node) (v : Value) : Nat :=
  v.depth * (node.height + (slots.length + 1) * heights slots + 1)

end Node
end JsonSchema
