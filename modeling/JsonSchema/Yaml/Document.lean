import JsonSchema.Yaml.Json
import JsonSchema.Yaml.Node
import JsonSchema.Yaml.Scalar

/-!
# Documents of YAML

Anchors are numbered in the order they are written, by how many names there are so far, and an
alias stands for the last node with the number of its name. What an alias stands for is copied, up
to a limit on the number of copies and on the depth of the result.
-/

namespace JsonSchema

namespace Yaml.Node

/-- The numbers of names. -/
abbrev Numbers := List (String × Nat)

/-- Gives a name the next number. -/
def Numbers.add (numbers : Numbers) (name : String) : Numbers :=
  (name, numbers.length) :: numbers.filter (·.1 != name)

/-- The number of an anchor, if there is one. -/
def numberAnchor (anchor : Option String) : StateT Numbers Option (Option Nat) :=
  match anchor with
  | none => pure none
  | some name => modifyGet fun numbers => (some numbers.length, numbers.add name)

mutual

/-- A node with numbers for names. There is none if an alias has no anchor before it. -/
def link : Node String → StateT Numbers Option (Node Nat)
  | aliasOf name => do
    let numbers ← get
    match numbers.lookup name with
    | some n => return .aliasOf n
    | none => failure
  | scalar anchor tag text isPlain => do
    return .scalar (← numberAnchor anchor) tag text isPlain
  | sequence anchor tag items => do
    let n ← numberAnchor anchor
    return .sequence n tag (← linkItems items)
  | mapping anchor tag entries => do
    let n ← numberAnchor anchor
    return .mapping n tag (← linkEntries entries)

/-- Some nodes with numbers for names. -/
def linkItems : List (Node String) → StateT Numbers Option (List (Node Nat))
  | [] => return []
  | x :: xs => do
    let y ← link x
    return y :: (← linkItems xs)

/-- Some entries with numbers for names. -/
def linkEntries :
    List (Node String × Node String) → StateT Numbers Option (List (Node Nat × Node Nat))
  | [] => return []
  | (k, v) :: rest => do
    let k ← link k
    let v ← link v
    return (k, v) :: (← linkEntries rest)

end

mutual

/-- The nodes with anchors, in the order they begin. -/
def anchored : Node Nat → List (Nat × Node Nat)
  | aliasOf _ => []
  | scalar anchor tag text isPlain =>
    anchor.toList.map fun n => (n, scalar anchor tag text isPlain)
  | sequence anchor tag items =>
    anchor.toList.map (fun n => (n, sequence anchor tag items)) ++ anchoredItems items
  | mapping anchor tag entries =>
    anchor.toList.map (fun n => (n, mapping anchor tag entries)) ++ anchoredEntries entries

/-- The nodes with anchors among some nodes. -/
def anchoredItems : List (Node Nat) → List (Nat × Node Nat)
  | [] => []
  | x :: xs => anchored x ++ anchoredItems xs

/-- The nodes with anchors among some entries. -/
def anchoredEntries : List (Node Nat × Node Nat) → List (Nat × Node Nat)
  | [] => []
  | (k, v) :: rest => anchored k ++ anchored v ++ anchoredEntries rest

end

mutual

/-- The size of a node: collections count at both ends. -/
def size : Node Nat → Nat
  | aliasOf _ => 1
  | scalar _ _ _ _ => 1
  | sequence _ _ items => 2 + sizes items
  | mapping _ _ entries => 2 + entrySizes entries

/-- The size of some nodes. -/
def sizes : List (Node Nat) → Nat
  | [] => 0
  | x :: xs => size x + sizes xs

/-- The size of some entries. -/
def entrySizes : List (Node Nat × Node Nat) → Nat
  | [] => 0
  | (k, v) :: rest => size k + size v + entrySizes rest

end

/-- A tag of one's own, behind its exclamation mark. -/
def ownTag? (tag : Option String) : Option String :=
  match tag.map String.toList with
  | some ('!' :: rest) => some (String.ofList rest)
  | _ => none

/-- A value with a tag of its own, which must not be empty. -/
def withOwnTag (tag : Option String) (v : Yaml) : Option Yaml :=
  match tag with
  | none => some v
  | some "" => none
  | some t => some (.tagged t v)

/-- The value of a scalar, whose tag counts only if it is not taken care of. -/
def scalarValue? (tag : Option String) (text : String) (isPlain : Bool) : Option Yaml :=
  match tag with
  | some t => ofTagged? t text
  | none => if isPlain then ofPlain? text else some (.string text)

/-- The greatest depth of a value. -/
def maxDepth : Nat := 128

/-- Counts a copy, if the limit allows for it. -/
def countCopy (limit : Nat) : StateT Nat Option Unit := do
  let copies ← get
  if copies < limit then set (copies + 1) else failure

/-- The value of a node among nodes with anchors. Copies are counted, and collections are nested
up to a depth. A tag that is taken care of already does not count, nor do those on the keys of a
mapping with such a tag. -/
def value (table : List (Nat × Node Nat)) (limit : Nat) :
    Nat → Nat → Bool → Node Nat → StateT Nat Option Yaml
  | 0, _, _, _ => failure
  | fuel + 1, depth, isTagged, node => match node with
    | aliasOf n => do
      countCopy limit
      match table.lookup n with
      | some target => value table limit fuel depth false target
      | none => failure
    | scalar _ tag text isPlain => do
      let own := if isTagged then none else ownTag? tag
      let rest := if isTagged ∨ own.isSome then none else tag
      withOwnTag own (← scalarValue? rest text isPlain)
    | sequence _ tag items => do
      if depth = 0 then failure
      let own := if isTagged then none else ownTag? tag
      let items ← items.mapM fun x => value table limit fuel (depth - 1) false x
      withOwnTag own (.sequence items)
    | mapping _ tag entries => do
      if depth = 0 then failure
      let own := if isTagged then none else ownTag? tag
      let entries ← entries.foldlM (fun done (k, v) => do
        let k ← value table limit fuel (depth - 1) (isTagged || own.isSome) k
        if hasKey done k then failure
        let v ← value table limit fuel (depth - 1) false v
        return done ++ [(k, v)]) []
      withOwnTag own (.mapping entries)

/-- The value of a document. -/
def value? (node : Node String) : Option Yaml := do
  let (node, _) ← node.link.run []
  let table := node.anchored.reverse
  let (v, _) ← (node.value table (100 * node.size) (3 * maxDepth) maxDepth false).run 0
  return v

end Yaml.Node

namespace Yaml

/-- The value of a text that holds one document. -/
def ofText? (text : String) : Option Yaml :=
  ((Token.ofText? text).bind Node.ofTokens?).bind Node.value?

/-- The JSON value of a text that holds one document. -/
def textToJson (text : String) : Except YamlError Value :=
  match ofText? text with
  | some v => v.toJson
  | none => .error .invalid

end Yaml
end JsonSchema
