/-!
# A place in a YAML text

A cursor is what is left of a text, with the place it has reached: lines and columns decide about
structure. All line breaks count as one character, a carriage return with a line feed included.
-/

namespace JsonSchema.Yaml

/-- A place in a text. -/
structure Cursor where
  rest : List Char
  index : Nat := 0
  line : Nat := 0
  column : Nat := 0

/-- A line break. -/
def isBreak (c : Char) : Bool :=
  c = '\n' || c = '\r' || c = '\x85' || c = '\u2028' || c = '\u2029'

/-- A space or a tab. -/
def isBlank (c : Char) : Bool := c = ' ' || c = '\t'

/-- A character of a name. -/
def isNameChar (c : Char) : Bool :=
  ('0' ≤ c && c ≤ '9') || ('a' ≤ c && c ≤ 'z') || ('A' ≤ c && c ≤ 'Z') || c = '_' || c = '-'

/-- The characters that a text may hold. -/
def isAllowed (c : Char) : Bool :=
  let n := c.toNat
  c = '\t' || c = '\n' || c = '\r' || n = 0x85 || (0x20 ≤ n && n ≤ 0x7E) ||
    (0xA0 ≤ n && n ≤ 0xFFFD) || 0x10000 ≤ n

namespace Cursor

/-- The character some places ahead. -/
def peek (c : Cursor) (ahead : Nat := 0) : Option Char := c.rest[ahead]?

/-- Whether a character is some places ahead. -/
def sees (c : Cursor) (x : Char) (ahead : Nat := 0) : Bool := c.peek ahead == some x

/-- Whether a blank or the end of a line is some places ahead. -/
def atSpace (c : Cursor) (ahead : Nat := 0) : Bool :=
  (c.peek ahead).all fun x => isBlank x || isBreak x

/-- Passes some characters of a line. -/
def skip (c : Cursor) (n : Nat := 1) : Cursor :=
  { c with rest := c.rest.drop n, index := c.index + n, column := c.column + n }

/-- Reads characters of a line as long as they pass a test. -/
def takeWhile (c : Cursor) (p : Char → Bool) : List Char × Cursor :=
  let taken := c.rest.takeWhile p
  (taken, c.skip taken.length)

/-- Passes characters of a line as long as they pass a test. -/
def skipWhile (c : Cursor) (p : Char → Bool) : Cursor := (c.takeWhile p).2

/-- Passes a line break, if there is one, and gives what it counts as. -/
def passBreak? (c : Cursor) : Option (Char × Cursor) :=
  let next (n : Nat) : Cursor :=
    { rest := c.rest.drop n, index := c.index + n, line := c.line + 1, column := 0 }
  match c.rest with
  | '\r' :: '\n' :: _ => some ('\n', next 2)
  | x :: _ =>
    if x = '\u2028' ∨ x = '\u2029' then some (x, next 1)
    else if isBreak x then some ('\n', next 1)
    else none
  | [] => none

/-- Passes a comment up to the end of its line. -/
def skipComment (c : Cursor) : Cursor := if c.sees '#' then c.skipWhile (!isBreak ·) else c

/-- Passes blanks, a comment and the end of the line, if nothing else is left of it. -/
def endLine? (c : Cursor) : Option Cursor :=
  let c := (c.skipWhile isBlank).skipComment
  match c.passBreak? with
  | some (_, c) => some c
  | none => if c.rest.isEmpty then some c else none

/-- Whether a mark that separates documents is here: three of a character at the start of a
line. -/
def atMark (c : Cursor) (x : Char) : Bool :=
  c.column = 0 && c.sees x && c.sees x 1 && c.sees x 2 && c.atSpace 3

/-- Whether a document begins or ends here. -/
def atDocumentMark (c : Cursor) : Bool := c.atMark '-' || c.atMark '.'

end Cursor
end JsonSchema.Yaml
