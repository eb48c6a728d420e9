import JsonSchema.Regex.Basic
import JsonSchema.Regex.Class
import JsonSchema.Text.Digits

/-!
# Escapes in expressions

A backslash gives a character back its own meaning, or stands with what follows it for a character,
a class or a place. In extended mode white space and comments may stand between the parts of an
escape.
-/

namespace JsonSchema.Regex

/-- The flags in effect. -/
structure Flags where
  ignoreCase : Bool := false
  multiLine : Bool := false
  dotAll : Bool := false
  crlf : Bool := false
  unicode : Bool := true
  extended : Bool := false

/-! ## Characters -/

/-- White space of any kind. -/
def isBlank (c : Char) : Bool := Unicode.whiteSpace.contains c

/-- Skips white space and comments to the end of their line. -/
def skipBlank (inComment : Bool) : List Char → List Char
  | [] => []
  | c :: rest =>
    if inComment then skipBlank (c != '\n') rest
    else if isBlank c then skipBlank false rest
    else if c = '#' then skipBlank true rest
    else c :: rest

/-- Skips what does not count in extended mode. -/
def skip (extended : Bool) (cs : List Char) : List Char :=
  if extended then skipBlank false cs else cs

/-- The next character to be seen behind a hyphen. In extended mode white space and the start of
one comment are passed over. -/
def peekBehind (extended : Bool) (cs : List Char) : Option Char :=
  if extended then
    match cs.dropWhile isBlank with
    | '#' :: rest => (rest.dropWhile isBlank).head? <|> cs.head?
    | rest => rest.head? <|> cs.head?
  else cs.head?

/-- Characters with a meaning of their own. -/
def isMeta (c : Char) : Bool :=
  ['\\', '.', '+', '*', '?', '(', ')', '|', '[', ']', '\x7b', '\x7d', '^', '$', '#', '&', '-',
    '~'].contains c

/-- Characters that a backslash makes stand for themselves: those with a meaning, and all of ASCII
but letters, digits and angle brackets. -/
def isEscapable (c : Char) : Bool :=
  isMeta c || (c.toNat < 0x80 && !c.isAlphanum && c != '<' && c != '>')

/-! ## Escapes -/

/-- What an escape or a single character stands for. -/
inductive Primitive
  /-- A character; written with two hexadecimal digits it is a byte outside Unicode mode. -/
  | literal (c : Char) (asByte : Bool)
  | class (set : CodeSet)
  | look (l : Look)

/-- Reads a fixed number of hexadecimal digits. -/
def fixedHex (extended : Bool) : Nat → List Char → Option (List Char × List Char)
  | 0, cs => some ([], cs)
  | n + 1, cs => match cs with
    | c :: rest =>
      if isHexDigit c then
        (fixedHex extended n (skip extended rest)).map fun (ds, rest) => (c :: ds, rest)
      else none
    | [] => none

/-- Reads hexadecimal digits up to the closing brace. -/
def bracedHex (extended : Bool) : Nat → List Char → Option (List Char × List Char)
  | 0, _ => none
  | fuel + 1, cs => match cs with
    | '\x7d' :: rest => some ([], skip extended rest)
    | c :: rest =>
      if isHexDigit c then
        (bracedHex extended fuel (skip extended rest)).map fun (ds, rest) => (c :: ds, rest)
      else none
    | [] => none

/-- Reads a character given by its number, after the letter that says how many digits it has. -/
def hexEscape (extended : Bool) (digits : Nat) (cs : List Char) :
    Option (Primitive × List Char) :=
  match skip extended cs with
  | '\x7b' :: rest => do
    let (ds, rest) ← bracedHex extended (cs.length + 1) (skip extended rest)
    if ds.isEmpty then none else some (.literal (← charOfHex? ds) false, rest)
  | rest => do
    let (ds, rest) ← fixedHex extended digits rest
    some (.literal (← charOfHex? ds) (digits = 2), rest)

/-- Reads a name up to the closing brace. -/
def bracedName (extended : Bool) : Nat → List Char → Option (List Char × List Char)
  | 0, _ => none
  | fuel + 1, cs => match cs with
    | '\x7d' :: rest => some ([], rest)
    | c :: rest =>
      (bracedName extended fuel (skip extended rest)).map fun (name, rest) => (c :: name, rest)
    | [] => none

/-- The text before the first occurrence of a separator, and the text after it. -/
def splitAt? (separator : List Char) : List Char → Option (List Char × List Char)
  | [] => none
  | c :: rest =>
    if separator.isPrefixOf (c :: rest) then some ([], (c :: rest).drop separator.length)
    else (splitAt? separator rest).map fun (a, b) => (c :: a, b)

/-- The set that a property in braces stands for. -/
def propertySet? (name : List Char) : Option CodeSet :=
  match splitAt? ['!', '='] name <|> splitAt? [':'] name <|> splitAt? ['='] name with
  | some (property, value) =>
    Unicode.valued? (String.ofList property) (String.ofList value)
  | none => Unicode.named? (String.ofList name)

/-- A set closed under case if case is ignored, then complemented if it is negated. -/
def foldAndNegate (flags : Flags) (negated : Bool) (s : CodeSet) : CodeSet :=
  let folded := if flags.ignoreCase then s.foldCase else s
  if negated then folded.complement else folded

/-- A class outside Unicode mode, which may not be negated, because then it would hold bytes that
are no characters. -/
def foldAscii? (flags : Flags) (negated : Bool) (s : CodeSet) : Option CodeSet :=
  if negated then none else some (if flags.ignoreCase then s.foldAsciiCase else s)

/-- A class in the mode that is in effect. -/
def finishClass? (flags : Flags) (negated : Bool) (s : CodeSet) : Option CodeSet :=
  if flags.unicode then some (foldAndNegate flags negated s) else foldAscii? flags negated s

/-- Reads a property class after its letter. -/
def propertyEscape (flags : Flags) (negated : Bool) (cs : List Char) :
    Option (Primitive × List Char) := do
  let (name, rest) ← match skip flags.extended cs with
    | '\x7b' :: rest => bracedName flags.extended (cs.length + 1) (skip flags.extended rest)
    | '\\' :: _ => none
    | c :: rest => some ([c], skip flags.extended rest)
    | [] => none
  if flags.unicode then
    some (.class (foldAndNegate flags negated (← propertySet? name)), rest)
  else none

/-- Reads the letters of a named boundary. -/
def boundaryName (extended : Bool) : Nat → List Char → List Char × List Char
  | 0, cs => ([], cs)
  | fuel + 1, cs => match cs with
    | c :: rest =>
      if c.isAlpha || c = '-' then
        let (name, rest) := boundaryName extended fuel (skip extended rest)
        (c :: name, rest)
      else ([], cs)
    | [] => ([], [])

/-- Reads what may follow the escape of a word boundary: the name of a special one in braces. A
brace that begins a count is left alone. -/
def wordBoundary (flags : Flags) (word : CodeSet) (cs : List Char) :
    Option (Primitive × List Char) :=
  match cs with
  | '\x7b' :: rest =>
    match skip flags.extended rest with
    | [] => none
    | c :: inner =>
      if c.isAlpha || c = '-' then
        match boundaryName flags.extended (inner.length + 1) (c :: inner) with
        | (name, '\x7d' :: rest) =>
          match String.ofList name with
          | "start" => some (.look (.wordStart word), rest)
          | "end" => some (.look (.wordEnd word), rest)
          | "start-half" => some (.look (.wordStartHalf word), rest)
          | "end-half" => some (.look (.wordEndHalf word), rest)
          | _ => none
        | _ => none
      else some (.look (.wordBoundary word), cs)
  | _ => some (.look (.wordBoundary word), cs)

/-- The word characters in the mode that is in effect. -/
def Flags.word (flags : Flags) : CodeSet :=
  if flags.unicode then Unicode.wordCharacters else asciiWord

/-- Reads an escape after its backslash. -/
def escape (flags : Flags) : List Char → Option (Primitive × List Char)
  | [] => none
  | c :: rest =>
    if '0' ≤ c ∧ c ≤ '9' then none
    else match c with
      | 'x' => hexEscape flags.extended 2 rest
      | 'u' => hexEscape flags.extended 4 rest
      | 'U' => hexEscape flags.extended 8 rest
      | 'p' => propertyEscape flags false rest
      | 'P' => propertyEscape flags true rest
      | 'd' | 's' | 'w' => (letterClass? flags.unicode c).map fun s => (.class s, rest)
      | 'D' | 'S' | 'W' =>
        if flags.unicode then
          (letterClass? true c.toLower).map fun s => (.class s.complement, rest)
        else none
      | 'a' => some (.literal '\x07' false, rest)
      | 'f' => some (.literal '\x0c' false, rest)
      | 't' => some (.literal '\t' false, rest)
      | 'n' => some (.literal '\n' false, rest)
      | 'r' => some (.literal '\r' false, rest)
      | 'v' => some (.literal '\x0b' false, rest)
      | 'A' => some (.look .textStart, rest)
      | 'z' => some (.look .textEnd, rest)
      | 'b' => wordBoundary flags flags.word rest
      | 'B' => some (.look (.noWordBoundary flags.word), rest)
      | '<' => some (.look (.wordStart flags.word), rest)
      | '>' => some (.look (.wordEnd flags.word), rest)
      | _ => if isEscapable c then some (.literal c false, rest) else none

end JsonSchema.Regex
