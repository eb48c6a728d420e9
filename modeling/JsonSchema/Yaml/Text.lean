import JsonSchema.Text.Digits
import JsonSchema.Yaml.Cursor

/-!
# The text of scalars

Plain and quoted scalars go over several lines, and a line break between two words counts as a
space, or as the empty lines behind it. Block scalars keep their lines or fold them.
-/

namespace JsonSchema.Yaml

/-! ## Gaps between words -/

/-- What stands between two words: blanks, or line breaks. -/
structure Gap where
  blanks : List Char := []
  /-- Whether a line ended. -/
  broken : Bool := false
  first : Option Char := none
  later : List Char := []

namespace Gap

/-- What a gap counts as. A single line feed is a space, and more of them lose the first. -/
def text (g : Gap) : List Char :=
  if g.broken then
    match g.first with
    | some '\n' => if g.later.isEmpty then [' '] else g.later
    | some x => x :: g.later
    | none => g.later
  else g.blanks

/-- Reads on in a gap. Where tabs must not stand in front of a column, there may be no such tab
after a line break. -/
def read (tabColumn : Nat) : Nat → Gap → Cursor → Option (Gap × Cursor)
  | 0, _, _ => none
  | fuel + 1, g, c => match c.peek with
    | none => some (g, c)
    | some x =>
      if isBlank x then
        if g.broken ∧ c.column < tabColumn ∧ x = '\t' then none
        else read tabColumn fuel (if g.broken then g else { g with blanks := g.blanks ++ [x] })
          c.skip
      else match c.passBreak? with
        | none => some (g, c)
        | some (b, c) =>
          read tabColumn fuel
            (if g.broken then { g with later := g.later ++ [b] }
              else { blanks := [], broken := true, first := some b, later := [] }) c

end Gap

/-! ## Plain scalars -/

/-- A word of a plain scalar: up to a blank, or to what ends the scalar. In a flow collection a
colon must not stand before a delimiter. -/
def plainWord (inFlow : Bool) : List Char → Option (List Char)
  | [] => some []
  | x :: rest =>
    if isBlank x ∨ isBreak x then some []
    else if inFlow ∧ x = ':' ∧ rest.head?.any [',', '?', '[', ']', '\x7b', '\x7d'].contains then
      none
    else if x = ':' ∧ rest.head?.all (fun y => isBlank y || isBreak y) then some []
    else if inFlow ∧ [',', '[', ']', '\x7b', '\x7d'].contains x then some []
    else (plainWord inFlow rest).map (x :: ·)

/-- Reads a plain scalar, given what was read of it and the gap behind that. Gives its text, where
it ends, and whether a line ended behind it. -/
def readPlain (inFlow : Bool) (indent : Nat) :
    Nat → List Char → Gap → Cursor → Option (List Char × Bool × Cursor)
  | 0, _, _, _ => none
  | fuel + 1, done, gap, c =>
    if c.atDocumentMark ∨ c.sees '#' then some (done, gap.broken, c)
    else match plainWord inFlow c.rest with
      | none => none
      | some word =>
        let c := c.skip word.length
        let (done, gap) := if word.isEmpty then (done, gap) else (done ++ gap.text ++ word, {})
        if ¬c.atSpace ∨ c.rest.isEmpty then some (done, gap.broken, c)
        else match gap.read indent (c.rest.length + 1) c with
          | none => none
          | some (gap, c) =>
            if ¬inFlow ∧ c.column < indent then some (done, gap.broken, c)
            else readPlain inFlow indent fuel done gap c

/-! ## Quoted scalars -/

/-- The character of an escape that stands for one. -/
def escaped? : Char → Option Char
  | '0' => some '\x00'
  | 'a' => some '\x07'
  | 'b' => some '\x08'
  | 't' => some '\t'
  | '\t' => some '\t'
  | 'n' => some '\n'
  | 'v' => some '\x0b'
  | 'f' => some '\x0c'
  | 'r' => some '\r'
  | 'e' => some '\x1b'
  | ' ' => some ' '
  | '"' => some '"'
  | '/' => some '/'
  | '\\' => some '\\'
  | 'N' => some '\x85'
  | '_' => some '\xa0'
  | 'L' => some '\u2028'
  | 'P' => some '\u2029'
  | _ => none

/-- The number of hexadecimal digits behind an escape that needs some. -/
def escapeLength? : Char → Option Nat
  | 'x' => some 2
  | 'u' => some 4
  | 'U' => some 8
  | _ => none

/-- Reads an escape behind its backslash. -/
def readEscape (c : Cursor) : Option (Char × Cursor) := do
  let x ← c.peek
  match escapeLength? x with
  | none => (escaped? x).map (·, c.skip)
  | some n =>
    let ds := (c.rest.drop 1).take n
    if ds.length < n then none else (charOfHex? ds).map (·, c.skip (n + 1))

/-- Reads a word in quotes, given what was read of it, last character first: up to a blank, a line
break or the closing quote. Also tells whether it ended in an escaped line break. -/
def quotedWord (single : Bool) : Nat → List Char → Cursor → Option (List Char × Bool × Cursor)
  | 0, _, _ => none
  | fuel + 1, done, c => match c.peek with
    | none => some (done.reverse, false, c)
    | some x =>
      if isBlank x ∨ isBreak x then some (done.reverse, false, c)
      else if single then
        if x ≠ '\'' then quotedWord single fuel (x :: done) c.skip
        else if c.sees '\'' 1 then quotedWord single fuel (x :: done) (c.skip 2)
        else some (done.reverse, false, c)
      else if x = '"' then some (done.reverse, false, c)
      else if x = '\\' then
        match c.skip.passBreak? with
        | some (_, c) => some (done.reverse, true, c)
        | none => match readEscape c.skip with
          | some (y, c) => quotedWord single fuel (y :: done) c
          | none => none
      else quotedWord single fuel (x :: done) c.skip

/-- Reads a quoted scalar behind its opening quote, given what was read of it. -/
def readQuoted (single : Bool) : Nat → List Char → Cursor → Option (List Char × Cursor)
  | 0, _, _ => none
  | fuel + 1, done, c =>
    if c.atDocumentMark ∨ c.rest.isEmpty then none
    else match quotedWord single (c.rest.length + 1) [] c with
      | none => none
      | some (word, broken, c) =>
        let done := done ++ word
        if c.sees (if single then '\'' else '"') then some (done, c.skip)
        else match Gap.read 0 (c.rest.length + 1) { broken } c with
          | none => none
          | some (gap, c) => readQuoted single fuel (done ++ gap.text) c

/-! ## Block scalars -/

/-- What becomes of the line breaks at the end of a block scalar. -/
inductive Chomping
  | strip
  | clip
  | keep
  deriving DecidableEq, Repr

/-- The chomping that a character asks for. -/
def chomping? : Option Char → Option Chomping
  | some '+' => some .keep
  | some '-' => some .strip
  | _ => none

/-- Reads a digit that says how far a block scalar is indented, if there is one. -/
def readIndentDigit (c : Cursor) : Option (Option Nat × Cursor) :=
  match c.peek with
  | some x =>
    if x = '0' then none
    else if isDigit x then some (some (x.toNat - 48), c.skip)
    else some (none, c)
  | none => some (none, c)

/-- Reads what stands between the indicator of a block scalar and the end of its line. -/
def readBlockHeader (c : Cursor) : Option (Chomping × Option Nat × Cursor) := do
  match chomping? c.peek with
  | some chomping =>
    let (indent, c) ← readIndentDigit c.skip
    return (chomping, indent, ← c.endLine?)
  | none =>
    let (indent, c) ← readIndentDigit c
    match indent, chomping? c.peek with
    | some _, some chomping => return (chomping, indent, ← c.skip.endLine?)
    | _, _ => return (.clip, indent, ← c.endLine?)

/-- Passes indentation and empty lines, given the breaks so far and the greatest column of them. If
the indentation is not known yet, it is found out. A tab must not stand in the indentation. -/
def readEmptyLines (indent : Option Nat) :
    Nat → List Char → Nat → Cursor → Option (List Char × Nat × Cursor)
  | 0, _, _, _ => none
  | fuel + 1, breaks, widest, c =>
    let spaces := (c.rest.takeWhile (· = ' ')).length
    let c := c.skip (match indent with
      | some n => min spaces (n - c.column)
      | none => spaces)
    let widest := max widest c.column
    if indent.all (c.column < ·) ∧ c.sees '\t' then none
    else match c.passBreak? with
      | some (b, c) => readEmptyLines indent fuel (breaks ++ [b]) widest c
      | none => some (breaks, widest, c)

/-- Reads the lines of a block scalar. Given are what was read so far, the break behind it, the
breaks of empty lines behind that, and whether the last line began with a blank. -/
def readBlockLines (literal : Bool) (indent : Nat) :
    Nat → List Char → Option Char → List Char → Bool → Cursor →
    Option (List Char × Option Char × List Char × Cursor)
  | 0, _, _, _, _, _ => none
  | fuel + 1, done, last, empty, wasBlank, c =>
    if c.column ≠ indent ∨ c.rest.isEmpty then some (done, last, empty, c)
    else
      let blank := (c.peek).any isBlank
      let folds := ¬literal ∧ last = some '\n' ∧ ¬wasBlank ∧ ¬blank
      let joint := if folds then if empty.isEmpty then [' '] else [] else last.toList
      let (line, c) := c.takeWhile (!isBreak ·)
      let (last, c) := match c.passBreak? with
        | some (b, c) => (some b, c)
        | none => (none, c)
      match readEmptyLines (some indent) (c.rest.length + 1) [] 0 c with
      | none => none
      | some (next, _, c) =>
        readBlockLines literal indent fuel (done ++ joint ++ empty ++ line) last next blank c

/-- Reads a block scalar behind its indicator, inside a block that is indented by some columns, if
at all. -/
def readBlock (literal : Bool) (outer : Option Nat) (c : Cursor) :
    Option (List Char × Cursor) := do
  let (chomping, increment, c) ← readBlockHeader c
  let given := increment.map (outer.getD 0 + ·)
  let (empty, widest, c) ← readEmptyLines given (c.rest.length + 1) [] 0 c
  let least := match outer with
    | some n => n + 1
    | none => 1
  let indent := given.getD (max widest least)
  let (text, last, empty, c) ←
    readBlockLines literal indent (c.rest.length + 1) [] none empty false c
  let ending := match chomping with
    | .strip => []
    | .clip => last.toList
    | .keep => last.toList ++ empty
  return (text ++ ending, c)

end JsonSchema.Yaml
