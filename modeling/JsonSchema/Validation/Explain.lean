import JsonSchema.Validation.Evaluate
import JsonSchema.Validation.Failure

/-!
# Explanation

A failing evaluation is explained by a tree that follows the schema: keyword sets, properties, items
and references only group what failed in them, other nodes say what failed. Behind a reference,
locations are those of the target, and are moved to where the reference was followed.
-/

namespace JsonSchema

/-- What failed, and the value that did. -/
structure Finding where
  failure : Failure
  value : Value

/-- A node of an explanation. -/
inductive ErrorTree
  | node (location : SchemaLocation) (keywordLocation instanceLocation : Pointer)
      (finding : Option Finding) (children : List ErrorTree)

namespace ErrorTree

/-- Where the failing schema or keyword was compiled from. -/
def location : ErrorTree → SchemaLocation
  | node l _ _ _ _ => l

/-- The way through the schemas, references included, to where the failure was. -/
def keywordLocation : ErrorTree → Pointer
  | node _ k _ _ _ => k

/-- Where the failing value is. -/
def instanceLocation : ErrorTree → Pointer
  | node _ _ i _ _ => i

/-- What failed here, if not only something below did. -/
def finding : ErrorTree → Option Finding
  | node _ _ _ f _ => f

/-- What failed below. -/
def children : ErrorTree → List ErrorTree
  | node _ _ _ _ cs => cs

/-- A tree that says what failed. -/
def leaf (l : SchemaLocation) (path : Pointer) (v : Value) (f : Failure) : ErrorTree :=
  node l l.pointer path (some ⟨f, v⟩) []

/-- A tree that only groups others. -/
def group (l : SchemaLocation) (path : Pointer) (children : List ErrorTree) : ErrorTree :=
  node l l.pointer path none children

mutual

/-- Moves the keyword locations below one pointer to below another. -/
def rebase (source destination : Pointer) : ErrorTree → ErrorTree
  | node l k i f children =>
    let k := match k.below source with
      | some rest => destination ++ rest
      | none => k
    node l k i f (rebaseAll source destination children)

/-- Moves the keyword locations of some trees. -/
def rebaseAll (source destination : Pointer) : List ErrorTree → List ErrorTree
  | [] => []
  | t :: rest => rebase source destination t :: rebaseAll source destination rest

end

end ErrorTree

namespace Node

/-- The explanation of the last of some branches. -/
def explainLast (explain : Node → ErrorTree) (branches : List Node) : List ErrorTree :=
  (branches.getLast?.map explain).toList

/-- Why a node does not accept a value that is found at a path, where `call` and `why` answer for
the nodes that it asks in turn. -/
def explainStep (slots : List Node) (call : Node → Value → Bool)
    (why : Node → Value → Pointer → ErrorTree) (n : Node) (v : Value) (path : Pointer) :
    ErrorTree :=
  let fails (n : Node) (v : Value) : Bool := !call n v
  match n with
  | boolean l _ => .leaf l path v .falseSchema
  | keywords l children => .group l path ((children.filter (fails · v)).map fun n => why n v path)
  | reference l slot => match slots[slot]? with
    | some target => .group l path [(why target v path).rebase target.location.pointer l.pointer]
    | none => .group l path []
  | check l c => .leaf l path v (c.failure v)
  | required l names => match v.missing names with
    | [name] => .leaf l path v (.required name)
    | missing => .group l path (missing.map fun name => .leaf l path v (.required name))
  | properties l members => .group l path
    (((presentMembers members v).filter fun (_, n, child) => fails n child).map
      fun (name, n, child) => why n child (path.key name))
  | uniformItems l n => .group l path
    (((allItems v).filter fun (child, _) => fails n child).map
      fun (child, i) => why n child (path.index i))
  | positionalItems l nodes => .group l path
    (((positionedItems nodes v).filter fun ((n, child), _) => fails n child).map
      fun ((n, child), i) => why n child (path.index i))
  | allOf l branches => .group l path ((branches.filter (fails · v)).map fun n => why n v path)
  | anyOf l branches => .node l l.pointer path (some ⟨.anyOf, v⟩)
    (explainLast (fun n => why n v path) branches)
  | oneOf l branches =>
    match (branches.zipIdx.filter fun (n, _) => !fails n v).map Prod.snd with
    | [] => .node l l.pointer path (some ⟨.oneOfNone, v⟩)
      (explainLast (fun n => why n v path) branches)
    | matched => .leaf l path v (.oneOfSeveral matched)
  | not l _ => .leaf l path v .not
  | conditional l condition met unmet =>
    let branch := if fails condition v then unmet else met
    .group l path (branch.map fun n => why n v path).toList

/-- Why a node does not accept a value that is found at a path, given that evaluation ends in
`fuel` steps. -/
def explain (slots : List Node) : Nat → Node → Value → Pointer → ErrorTree
  | 0, n, _, path => .group n.location path []
  | fuel + 1, n, v, path => explainStep slots (accepts slots fuel) (explain slots fuel) n v path

end Node
end JsonSchema
