import JsonSchema.Url.Percent
import JsonSchema.Yaml.Text

/-!
# Tokens of YAML

The structure of a block shows in its columns, and is made explicit by tokens that open and close
blocks. Whether something is a key shows only at the colon behind it, so the place where it began
is remembered, and the tokens that open the key are put in there.
-/

namespace JsonSchema.Yaml

/-- A token. -/
inductive Token
  | version (major minor : Nat)
  | tagDirective (handle beginning : String)
  | documentStart
  | documentEnd
  | blockSequenceStart
  | blockMappingStart
  | blockEnd
  | flowSequenceStart
  | flowSequenceEnd
  | flowMappingStart
  | flowMappingEnd
  | blockEntry
  | flowEntry
  | key
  | value
  | aliasOf (name : String)
  | anchor (name : String)
  | tag (handle suffix : String)
  | scalar (text : String) (isPlain : Bool)
  deriving DecidableEq, Repr

/-- Where something began that may turn out to be a key. -/
structure KeyMark where
  /-- The number of tokens before it. -/
  token : Nat
  /-- Whether nothing but a key can stand there. -/
  required : Bool
  index : Nat
  line : Nat
  column : Nat

/-- The tokens so far and what the next one depends on. -/
structure Scan where
  cursor : Cursor
  tokens : Array Token := #[]
  /-- What may be a key, for each open flow collection and last for the blocks around them. -/
  keys : List (Option KeyMark) := [none]
  /-- The columns of the open blocks, innermost first. -/
  indents : List Nat := []
  /-- Whether a key may begin here. -/
  keyAllowed : Bool := true

namespace Scan

/-- Whether a flow collection is open. -/
def inFlow (s : Scan) : Bool := 1 < s.keys.length

/-- Adds a token. -/
def push (s : Scan) (t : Token) : Scan := { s with tokens := s.tokens.push t }

/-- Adds a token that is as long as some characters. -/
def pushSkip (s : Scan) (t : Token) (n : Nat := 1) : Scan :=
  { s.push t with cursor := s.cursor.skip n }

/-! ## Keys -/

/-- Gives up on a key. It is an error if there had to be one. -/
def dropKey (s : Scan) : Option Scan :=
  match s.keys with
  | some k :: rest => if k.required then none else some { s with keys := none :: rest }
  | _ => some s

/-- Remembers that a key may begin here. -/
def markKey (s : Scan) : Option Scan :=
  if s.keyAllowed then do
    let c := s.cursor
    let required := !s.inFlow && s.indents.head? == some c.column
    let mark : KeyMark := ⟨s.tokens.size, required, c.index, c.line, c.column⟩
    let s ← s.dropKey
    return { s with keys := some mark :: s.keys.drop 1 }
  else some s

/-- Whether the place of a key is too far back: a key is on one line and not longer than 1024
characters. -/
def isStale (c : Cursor) (k : KeyMark) : Bool := k.line < c.line || k.index + 1024 < c.index

/-- Gives up on all keys that are too far back. -/
def dropStaleKeys (s : Scan) : Option Scan := do
  let keys ← s.keys.mapM fun
    | some k =>
      if isStale s.cursor k then if k.required then none else some none else some (some k)
    | none => some none
  return { s with keys }

/-! ## Blocks -/

/-- Opens a block at a column, if it is further to the right than the open ones. Its token stands
behind some tokens. -/
def openBlock (s : Scan) (column : Nat) (token : Nat) (start : Token) : Scan :=
  if s.inFlow ∨ s.indents.head?.any (column ≤ ·) then s
  else { s with indents := column :: s.indents, tokens := s.tokens.insertIdxIfInBounds token start }

/-- Closes the blocks that are further to the right than a column, or all of them. -/
def closeBlocks (s : Scan) (column : Option Nat) : Scan :=
  if s.inFlow then s
  else
    let closed := s.indents.takeWhile fun i => column.all (· < i)
    { s with
      indents := s.indents.drop closed.length
      tokens := s.tokens ++ closed.map fun _ => Token.blockEnd }

/-! ## Between tokens -/

/-- Passes blanks, comments and line ends. In blocks, a new line may begin with a key, and a tab
must not stand where one may begin. -/
def skipToToken : Nat → Scan → Scan
  | 0, s => s
  | fuel + 1, s =>
    let c := s.cursor
    let c := if c.column = 0 ∧ c.sees '\ufeff' then c.skip else c
    let c := c.skipWhile fun x => x = ' ' || (x = '\t' && (s.inFlow || !s.keyAllowed))
    let c := c.skipComment
    match c.passBreak? with
    | some (_, c) =>
      skipToToken fuel { s with cursor := c, keyAllowed := s.keyAllowed || !s.inFlow }
    | none => { s with cursor := c }

/-! ## Directives -/

/-- Reads a number of a version, which has at most nine digits. -/
def readVersionNumber (c : Cursor) : Option (Nat × Cursor) :=
  let (ds, c) := c.takeWhile isDigit
  if ds.isEmpty ∨ 9 < ds.length then none else some (digitsValue ds, c)

/-- Reads a tag handle. One that is not closed by an exclamation mark is only the beginning of a
tag, unless it is no more than that mark. -/
def readHandle (directive : Bool) (c : Cursor) : Option (List Char × Cursor) :=
  if ¬c.sees '!' then none
  else
    let (name, c) := c.skip.takeWhile isNameChar
    if c.sees '!' then some ('!' :: name ++ ['!'], c.skip)
    else if directive ∧ ¬name.isEmpty then none
    else some ('!' :: name, c)

/-- A character of a tag. -/
def isTagChar (verbatim : Bool) (x : Char) : Bool :=
  isNameChar x || ";/?:@&=+$.%!~*'()".toList.contains x || (verbatim && ",[]".toList.contains x)

/-- Reads the bytes of an escaped character. -/
def readEscapedBytes : Nat → Cursor → Option (List UInt8 × Cursor)
  | 0, c => some ([], c)
  | count + 1, c => match c.rest with
    | '%' :: a :: b :: _ => do
      let byte := (16 * (← hexValue? a) + (← hexValue? b)).toUInt8
      let (bytes, c) ← readEscapedBytes count (c.skip 3)
      return (byte :: bytes, c)
    | _ => none

/-- The number of bytes that a character takes, by the first of them. -/
def byteCount? (first : Nat) : Option Nat :=
  if first < 0x80 then some 1
  else if 0xC0 ≤ first ∧ first < 0xE0 then some 2
  else if 0xE0 ≤ first ∧ first < 0xF0 then some 3
  else if 0xF0 ≤ first ∧ first < 0xF8 then some 4
  else none

/-- Reads an escaped character. -/
def readEscapedChar (c : Cursor) : Option (List UInt8 × Cursor) := do
  let (first, _) ← readEscapedBytes 1 c
  let count ← byteCount? (first.headD 0).toNat
  let (bytes, c) ← readEscapedBytes count c
  if (bytes.drop 1).all fun b => 0x80 ≤ b && b < 0xC0 then some (bytes, c) else none

/-- Reads the bytes of a tag. -/
def readTagBytes (verbatim : Bool) : Nat → Cursor → Option (List UInt8 × Cursor)
  | 0, _ => none
  | fuel + 1, c => match c.peek with
    | none => some ([], c)
    | some x =>
      if ¬isTagChar verbatim x then some ([], c)
      else do
        let (bytes, c) ← if x = '%' then readEscapedChar c
          else some (String.utf8EncodeChar x, c.skip)
        let (rest, c) ← readTagBytes verbatim fuel c
        return (bytes ++ rest, c)

/-- Reads a tag, or the rest of one behind a beginning, as text. A handle alone is no tag. -/
def readTagText (verbatim : Bool) (beginning : List Char) (c : Cursor) :
    Option (String × Cursor) := do
  let (bytes, c) ← readTagBytes verbatim (c.rest.length + 1) c
  if beginning.isEmpty ∧ bytes.isEmpty then none
  let bytes := Percent.utf8 (beginning.drop 1) ++ bytes
  return ((Percent.ofUtf8? bytes).getD "\ufffd", c)

/-- Reads the rest of a directive. -/
def readDirective (c : Cursor) : Option (Token × Cursor) := do
  let (name, c) := c.takeWhile isNameChar
  if ¬c.atSpace then none
  let blank (c : Cursor) : Cursor := c.skipWhile isBlank
  if name = "YAML".toList then
    let (major, c) ← readVersionNumber (blank c)
    if ¬c.sees '.' then none
    let (minor, c) ← readVersionNumber c.skip
    return (.version major minor, ← c.endLine?)
  else if name = "TAG".toList then
    let (handle, c) ← readHandle true (blank c)
    if ¬(c.peek).any isBlank then none
    let (beginning, c) ← readTagText true [] (blank c)
    if ¬c.atSpace then none
    return (.tagDirective (String.ofList handle) beginning, ← c.endLine?)
  else none

/-! ## Properties of nodes -/

/-- Reads the name of an anchor or an alias. -/
def readName (c : Cursor) : Option (String × Cursor) :=
  let (name, c) := c.takeWhile isNameChar
  if name.isEmpty ∨ ¬(c.atSpace ∨ (c.peek).any "?:,]\x7d%@`".toList.contains) then none
  else some (String.ofList name, c)

/-- Reads a tag in one of its forms. -/
def readTag (inFlow : Bool) (c : Cursor) : Option (Token × Cursor) := do
  let (token, c) ← if c.sees '<' 1 then do
      let (text, c) ← readTagText true [] (c.skip 2)
      if ¬c.sees '>' then none
      some (Token.tag "" text, c.skip)
    else do
      let (handle, c) ← readHandle false c
      if 1 < handle.length ∧ handle.getLast? = some '!' then
        let (text, c) ← readTagText false [] c
        some (Token.tag (String.ofList handle) text, c)
      else
        let (text, c) ← readTagText false handle c
        some (if text = "" then Token.tag "" "!" else Token.tag "!" text, c)
  if (inFlow ∧ c.sees ',') ∨ c.atSpace then some (token, c) else none

/-! ## Single tokens -/

/-- Begins or ends a document, or takes up a directive. -/
def atTop (s : Scan) : Option Scan := do
  let s ← (s.closeBlocks none).dropKey
  return { s with keyAllowed := false }

/-- Opens a flow collection. -/
def openFlow (s : Scan) (start : Token) : Option Scan := do
  let s ← s.markKey
  return { s.pushSkip start with keys := none :: s.keys, keyAllowed := true }

/-- Closes a flow collection. -/
def closeFlow (s : Scan) (finish : Token) : Option Scan := do
  let s ← s.dropKey
  let keys := if s.inFlow then s.keys.drop 1 else s.keys
  return { s.pushSkip finish with keys, keyAllowed := false }

/-- The comma of a flow collection. -/
def flowEntry (s : Scan) : Option Scan := do
  let s ← s.dropKey
  return { s.pushSkip .flowEntry with keyAllowed := true }

/-- Opens a block here, where it may begin. -/
def openBlockHere (s : Scan) (start : Token) : Option Scan :=
  if s.inFlow then some s
  else if s.keyAllowed then some (s.openBlock s.cursor.column s.tokens.size start)
  else none

/-- The dash of a block sequence. -/
def blockEntry (s : Scan) : Option Scan := do
  let s ← s.openBlockHere .blockSequenceStart
  let s ← s.dropKey
  return { s.pushSkip .blockEntry with keyAllowed := true }

/-- The question mark of a key. -/
def explicitKey (s : Scan) : Option Scan := do
  let s ← s.openBlockHere .blockMappingStart
  let s ← s.dropKey
  return { s.pushSkip .key with keyAllowed := !s.inFlow }

/-- The colon of a value. What was remembered as a possible key is one. -/
def value (s : Scan) : Option Scan :=
  match s.keys with
  | some k :: rest =>
    let s := { s with tokens := s.tokens.insertIdxIfInBounds k.token .key }
    let s := s.openBlock k.column k.token .blockMappingStart
    some { s.pushSkip .value with keys := none :: rest, keyAllowed := false }
  | _ => do
    let s ← s.openBlockHere .blockMappingStart
    return { s.pushSkip .value with keyAllowed := !s.inFlow }

/-- Something that may be a key and that no other key may follow at once. -/
def keyLike (s : Scan) (read : Cursor → Option (Token × Cursor)) : Option Scan := do
  let s ← s.markKey
  let (t, c) ← read s.cursor
  return { s.push t with cursor := c, keyAllowed := false }

/-- An anchor or an alias behind its mark. -/
def named (s : Scan) (make : String → Token) : Option Scan :=
  s.keyLike fun c => (readName c.skip).map fun (name, c) => (make name, c)

/-- A quoted scalar. -/
def quoted (s : Scan) (single : Bool) : Option Scan :=
  s.keyLike fun c => (readQuoted single (c.rest.length + 1) [] c.skip).map fun (text, c) =>
    (.scalar (String.ofList text) false, c)

/-- A block scalar. -/
def block (s : Scan) (literal : Bool) : Option Scan := do
  let s ← s.dropKey
  let (text, c) ← readBlock literal s.indents.head? s.cursor.skip
  return { s.push (.scalar (String.ofList text) false) with cursor := c, keyAllowed := true }

/-- A plain scalar. If a line ended behind it, a key may follow. -/
def plain (s : Scan) : Option Scan := do
  let s ← s.markKey
  let indent := match s.indents.head? with
    | some n => n + 1
    | none => 0
  let (text, broken, c) ← readPlain s.inFlow indent (s.cursor.rest.length + 1) [] {} s.cursor
  return { s.push (.scalar (String.ofList text) true) with cursor := c, keyAllowed := broken }

/-- Whether a plain scalar may begin with a character. -/
def startsPlain (s : Scan) (x : Char) : Bool :=
  if x = '-' then !(s.cursor.peek 1).any isBlank
  else if x = '?' ∨ x = ':' then !s.inFlow && !s.cursor.atSpace 1
  else !(isBlank x || isBreak x || ",[]\x7b\x7d#&*!|>'\"%@`".toList.contains x)

/-- Takes up the next token, which begins with a given character. -/
def next (s : Scan) (x : Char) : Option Scan :=
  let c := s.cursor
  let stands := s.inFlow || c.atSpace 1
  if c.column = 0 ∧ x = '%' then do
    let s ← s.atTop
    let (t, c) ← readDirective c.skip
    return { s.push t with cursor := c }
  else if c.atMark '-' then s.atTop.map (·.pushSkip .documentStart 3)
  else if c.atMark '.' then s.atTop.map (·.pushSkip .documentEnd 3)
  else if x = '[' then s.openFlow .flowSequenceStart
  else if x = '\x7b' then s.openFlow .flowMappingStart
  else if x = ']' then s.closeFlow .flowSequenceEnd
  else if x = '\x7d' then s.closeFlow .flowMappingEnd
  else if x = ',' then s.flowEntry
  else if x = '-' ∧ c.atSpace 1 then s.blockEntry
  else if x = '?' ∧ stands then s.explicitKey
  else if x = ':' ∧ stands then s.value
  else if x = '*' then s.named .aliasOf
  else if x = '&' then s.named .anchor
  else if x = '!' then s.keyLike (readTag s.inFlow)
  else if x = '|' ∧ ¬s.inFlow then s.block true
  else if x = '>' ∧ ¬s.inFlow then s.block false
  else if x = '\'' then s.quoted true
  else if x = '"' then s.quoted false
  else if s.startsPlain x then s.plain
  else none

/-- Takes up all tokens. -/
def run : Nat → Scan → Option (List Token)
  | 0, _ => none
  | fuel + 1, s => do
    let s := s.skipToToken (s.cursor.rest.length + 1)
    let s ← s.dropStaleKeys
    let s := s.closeBlocks (some s.cursor.column)
    match s.cursor.peek with
    | none => do
      let s ← (s.closeBlocks none).dropKey
      return s.tokens.toList
    | some x => run fuel (← s.next x)

end Scan

/-- The tokens of a text. -/
def Token.ofText? (text : String) : Option (List Token) :=
  let cs := text.toList
  if cs.all isAllowed then Scan.run (cs.length + 1) { cursor := { rest := cs } } else none

end JsonSchema.Yaml
