import JsonSchema.Yaml.Token

/-!
# Nodes of YAML

The tokens of a document make up a tree of nodes. A node may have an anchor, by which aliases refer
to it, and a tag. A node that is left out is an empty plain scalar.
-/

namespace JsonSchema.Yaml

/-- A node with anchors of any kind. -/
inductive Node (α : Type)
  | aliasOf (anchor : α)
  | scalar (anchor : Option α) (tag : Option String) (text : String) (isPlain : Bool)
  | sequence (anchor : Option α) (tag : Option String) (items : List (Node α))
  | mapping (anchor : Option α) (tag : Option String) (entries : List (Node α × Node α))

namespace Node

/-- A node that is left out. -/
def empty : Node String := .scalar none none "" true

instance : Inhabited (Node String) := ⟨empty⟩

/-- Tag handles with what they stand for. -/
abbrev Handles := List (String × String)

/-- The handles that are always there. -/
def ownHandles : Handles := [("!", "!"), ("!!", "tag:yaml.org,2002:")]

/-- A tag in full. -/
def fullTag? (handles : Handles) (handle suffix : String) : Option String :=
  if handle = "" then some suffix else (handles.lookup handle).map (· ++ suffix)

/-- Reads a tag, if there is one. -/
def readTag (handles : Handles) : List Token → Option (Option String × List Token)
  | .tag handle suffix :: ts => (fullTag? handles handle suffix).map fun tag => (some tag, ts)
  | ts => some (none, ts)

/-- Reads an anchor and a tag, in any order. -/
def readProperties (handles : Handles) :
    List Token → Option (Option String × Option String × List Token)
  | .anchor name :: ts => (readTag handles ts).map fun (tag, ts) => (some name, tag, ts)
  | ts => do
    let (tag, ts) ← readTag handles ts
    match tag, ts with
    | some _, .anchor name :: ts => return (some name, tag, ts)
    | _, _ => return (none, tag, ts)

/-- Tokens that no node begins with inside a mapping of a block. -/
def endsEntry : List Token → Bool
  | .key :: _ | .value :: _ | .blockEnd :: _ => true
  | _ => false

/-- Tokens that no node begins with inside a flow collection. -/
def endsFlowEntry (finish : Token) : List Token → Bool
  | .flowEntry :: _ => true
  | t :: _ => t = finish
  | [] => false

/-- A node with nothing but properties, of which there must be one. -/
def bare (anchor tag : Option String) : Option (Node String) :=
  if anchor.isSome ∨ tag.isSome then some (.scalar anchor tag "" true) else none

mutual

/-- Reads a node. Blocks are allowed in some places only, and sequences without indentation only
as values of mappings. -/
def read (handles : Handles) : Nat → Bool → Bool → List Token → Option (Node String × List Token)
  | 0, _, _, _ => none
  | fuel + 1, inBlock, indentless, tokens => match tokens with
    | .aliasOf name :: ts => some (.aliasOf name, ts)
    | _ => do
      let (anchor, tag, ts) ← readProperties handles tokens
      match ts with
      | .blockEntry :: _ =>
        if indentless then
          let (items, ts) ← readIndentless handles fuel ts
          return (.sequence anchor tag items, ts)
        else
          return (← bare anchor tag, ts)
      | .scalar text isPlain :: ts =>
        return (.scalar anchor (tag.filter (· ≠ "!")) text isPlain, ts)
      | .flowSequenceStart :: ts =>
        let (items, ts) ← readFlowSequence handles fuel true ts
        return (.sequence anchor tag items, ts)
      | .flowMappingStart :: ts =>
        let (entries, ts) ← readFlowMapping handles fuel true ts
        return (.mapping anchor tag entries, ts)
      | .blockSequenceStart :: ts' =>
        if inBlock then
          let (items, ts) ← readSequence handles fuel ts'
          return (.sequence anchor tag items, ts)
        else
          return (← bare anchor tag, ts)
      | .blockMappingStart :: ts' =>
        if inBlock then
          let (entries, ts) ← readMapping handles fuel ts'
          return (.mapping anchor tag entries, ts)
        else
          return (← bare anchor tag, ts)
      | _ => return (← bare anchor tag, ts)

/-- Reads the entries of a block sequence up to its end. -/
def readSequence (handles : Handles) : Nat → List Token → Option (List (Node String) × List Token)
  | 0, _ => none
  | fuel + 1, tokens => match tokens with
    | .blockEnd :: ts => some ([], ts)
    | .blockEntry :: ts => do
      let (item, ts) ← match ts with
        | .blockEntry :: _ | .blockEnd :: _ => some (empty, ts)
        | _ => read handles fuel true false ts
      let (items, ts) ← readSequence handles fuel ts
      return (item :: items, ts)
    | _ => none

/-- Reads the entries of a sequence that is not indented. -/
def readIndentless (handles : Handles) : Nat → List Token → Option (List (Node String) × List Token)
  | 0, _ => none
  | fuel + 1, tokens => match tokens with
    | .blockEntry :: ts => do
      let (item, ts) ← match ts with
        | .blockEntry :: _ => some (empty, ts)
        | _ => if endsEntry ts then some (empty, ts) else read handles fuel true false ts
      let (items, ts) ← readIndentless handles fuel ts
      return (item :: items, ts)
    | _ => some ([], tokens)

/-- Reads the entries of a block mapping up to its end. -/
def readMapping (handles : Handles) :
    Nat → List Token → Option (List (Node String × Node String) × List Token)
  | 0, _ => none
  | fuel + 1, tokens => match tokens with
    | .blockEnd :: ts => some ([], ts)
    | .key :: ts => do
      let (key, ts) ← if endsEntry ts then some (empty, ts) else read handles fuel true true ts
      let (value, ts) ← match ts with
        | .value :: ts => if endsEntry ts then some (empty, ts) else read handles fuel true true ts
        | _ => some (empty, ts)
      let (entries, ts) ← readMapping handles fuel ts
      return ((key, value) :: entries, ts)
    | _ => none

/-- Reads the value of an entry in a flow collection. -/
def readFlowValue (handles : Handles) (finish : Token) :
    Nat → List Token → Option (Node String × List Token)
  | 0, _ => none
  | fuel + 1, tokens => match tokens with
    | .value :: ts =>
      if endsFlowEntry finish ts then some (empty, ts) else read handles fuel false false ts
    | _ => some (empty, tokens)

/-- Reads the entries of a flow sequence up to its end. An entry may be a mapping of a single
key; where that key is left out, the token in its place is passed over. -/
def readFlowSequence (handles : Handles) :
    Nat → Bool → List Token → Option (List (Node String) × List Token)
  | 0, _, _ => none
  | fuel + 1, first, tokens => match tokens with
    | .flowSequenceEnd :: ts => some ([], ts)
    | _ => do
      let ts ← match first, tokens with
        | true, ts => some ts
        | false, .flowEntry :: ts => some ts
        | false, _ => none
      match ts with
      | .flowSequenceEnd :: ts => return ([], ts)
      | .key :: ts =>
        let (key, ts) ← match ts with
          | .value :: ts | .flowEntry :: ts | .flowSequenceEnd :: ts => some (empty, ts)
          | _ => read handles fuel false false ts
        let (value, ts) ← readFlowValue handles .flowSequenceEnd fuel ts
        let (items, ts) ← readFlowSequence handles fuel false ts
        return (.mapping none none [(key, value)] :: items, ts)
      | _ =>
        let (item, ts) ← read handles fuel false false ts
        let (items, ts) ← readFlowSequence handles fuel false ts
        return (item :: items, ts)

/-- Reads the entries of a flow mapping up to its end. -/
def readFlowMapping (handles : Handles) :
    Nat → Bool → List Token → Option (List (Node String × Node String) × List Token)
  | 0, _, _ => none
  | fuel + 1, first, tokens => match tokens with
    | .flowMappingEnd :: ts => some ([], ts)
    | _ => do
      let ts ← match first, tokens with
        | true, ts => some ts
        | false, .flowEntry :: ts => some ts
        | false, _ => none
      match ts with
      | .flowMappingEnd :: ts => return ([], ts)
      | .key :: ts =>
        let (key, ts) ← match ts with
          | .value :: _ => some (empty, ts)
          | _ =>
            if endsFlowEntry .flowMappingEnd ts then some (empty, ts)
            else read handles fuel false false ts
        let (value, ts) ← readFlowValue handles .flowMappingEnd fuel ts
        let (entries, ts) ← readFlowMapping handles fuel false ts
        return ((key, value) :: entries, ts)
      | _ =>
        let (key, ts) ← read handles fuel false false ts
        let (entries, ts) ← readFlowMapping handles fuel false ts
        return ((key, empty) :: entries, ts)

end

/-! ## Documents -/

/-- Reads directives: at most one version, which must be known, and handles that differ. -/
def readDirectives (version : Bool) (handles : Handles) : List Token → Option (Handles × List Token)
  | .version major minor :: ts =>
    if version ∨ major ≠ 1 ∨ (minor ≠ 1 ∧ minor ≠ 2) then none
    else readDirectives true handles ts
  | .tagDirective handle beginning :: ts =>
    if (handles.lookup handle).isSome then none
    else readDirectives version (handles ++ [(handle, beginning)]) ts
  | ts => some (handles, ts)

/-- Tokens that begin or end a document. -/
def endsDocument : List Token → Bool
  | [] | .version _ _ :: _ | .tagDirective _ _ :: _ | .documentStart :: _ | .documentEnd :: _ =>
    true
  | _ => false

/-- Whether nothing but ends of documents is left. -/
def isFinished (ts : List Token) : Bool := ts.all (· == .documentEnd)

/-- The node of the only document of a text; a text without any has an empty node. -/
def ofTokens? (tokens : List Token) : Option (Node String) := do
  let fuel := 2 * tokens.length + 4
  let (node, ts) ← match tokens with
    | [] => some (empty, [])
    | .version _ _ :: _ | .tagDirective _ _ :: _ | .documentStart :: _ => do
      let (handles, ts) ← readDirectives false [] tokens
      match ts with
      | .documentStart :: ts =>
        if endsDocument ts then some (empty, ts)
        else read (handles ++ ownHandles) fuel true false ts
      | _ => none
    | _ => read ownHandles fuel true false tokens
  if isFinished ts then some node else none

end Node
end JsonSchema.Yaml
