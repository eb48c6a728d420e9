import JsonSchema.Json.Value
import JsonSchema.Registry.Error
import JsonSchema.Url.Resolve

/-!
# What a document declares

A schema names itself with `$id`, which is also the base of the references inside it, and parts of
it by `$anchor` or by an `$id` that is only a fragment. Declarations are found anywhere in a
document except inside the keywords that hold data.
-/

namespace JsonSchema

/-- A position in a document. -/
structure Place where
  document : Url
  pointer : Pointer
  deriving DecidableEq, Repr

/-- What a document declares: the URLs of its resources and the names inside them. -/
structure Declarations where
  resources : List (Url × Place) := []
  anchors : List ((Url × String) × Place) := []

namespace Declarations

/-- The declarations of both. -/
def append (a b : Declarations) : Declarations :=
  ⟨a.resources ++ b.resources, a.anchors ++ b.anchors⟩

instance : Append Declarations := ⟨append⟩

/-- Keywords whose values are data: nothing is declared in them. -/
def isDataKeyword (key : String) : Bool := ["enum", "const", "default", "examples"].contains key

/-- The URL of an `$id` at a base. -/
def joinId (base : Url) (id : String) : Except ResolutionError Url :=
  match base.join id with
  | .ok url => .ok url
  | .error e => .error (.invalidReference base id (.url e))

/-- An `$id` that is only a fragment names a part and leaves the base alone. -/
def isFragmentOnly (id : String) : Bool := id.toList.head? == some '#'

/-- What an `$id` declares, and the base inside its object. -/
def ofId (base : Url) (place : Place) (id : String) : Except ResolutionError (Url × Declarations) :=
  match joinId base id with
  | .error e => .error e
  | .ok url =>
    let inner := if isFragmentOnly id then base else url.withoutFragment
    let name := url.fragment.getD ""
    let isName := name != "" && name.toList.head? != some '/'
    .ok (inner,
      { resources := if isFragmentOnly id then [] else [(inner, place)]
        anchors := if isName then [((inner, name), place)] else [] })

/-- What the object at a place declares of itself, and the base inside it. -/
def ofObject (base : Url) (place : Place) (members : List (String × Value)) :
    Except ResolutionError (Url × Declarations) := do
  let (inner, named) ← match members.lookup "$id" with
    | some (.string id) => ofId base place id
    | _ => .ok (base, {})
  let anchored : Declarations := match members.lookup "$anchor" with
    | some (.string name) => { anchors := [((inner, name), place)] }
    | _ => {}
  return (inner, named ++ anchored)

mutual

/-- What a value at a place declares. -/
def ofValue (base : Url) (place : Place) : Value → Except ResolutionError Declarations
  | .object members => do
    let (inner, own) ← ofObject base place members
    return own ++ (← ofMembers inner place members)
  | .array items => ofItems base place 0 items
  | _ => .ok {}

/-- What the members of an object declare. -/
def ofMembers (base : Url) (place : Place) :
    List (String × Value) → Except ResolutionError Declarations
  | [] => .ok {}
  | (key, v) :: rest => do
    let first ← if isDataKeyword key then .ok {}
      else ofValue base { place with pointer := place.pointer.key key } v
    return first ++ (← ofMembers base place rest)

/-- What the items of an array declare, counted from an index. -/
def ofItems (base : Url) (place : Place) (i : Nat) :
    List Value → Except ResolutionError Declarations
  | [] => .ok {}
  | v :: rest => do
    let first ← ofValue base { place with pointer := place.pointer.index i } v
    return first ++ (← ofItems base place (i + 1) rest)

end

end Declarations
end JsonSchema
