import JsonSchema.Regex.Bracket
import JsonSchema.Regex.Size

/-!
# Reading expressions

One pass from left to right reads an expression and builds it at once, with the flags that hold at
each point. Flags that are set within a group end with it. In extended mode white space and
comments are skipped between the parts. A text is refused for a malformed part, for a class that
could match part of a character, for nesting deeper than 250, and for a size beyond ten megabytes.
-/

namespace JsonSchema.Regex

/-- A part that has been read: what it matches, how deeply it is nested, and whether it can be
repeated, which a setting of flags cannot. -/
structure Part where
  regex : Regex Atom
  depth : Nat
  repeatable : Bool := true

/-- The rest of the text with the flags and the capture names so far. -/
structure Cursor where
  rest : List Char
  flags : Flags
  names : List String

/-! ## Flags and repetition -/

/-- Sets or clears one flag. -/
def Flags.put (flags : Flags) (on : Bool) : Char → Option Flags
  | 'i' => some { flags with ignoreCase := on }
  | 'm' => some { flags with multiLine := on }
  | 's' => some { flags with dotAll := on }
  | 'R' => some { flags with crlf := on }
  | 'u' => some { flags with unicode := on }
  | 'x' => some { flags with extended := on }
  | 'U' => some flags
  | _ => none

/-- Reads flags up to the colon or parenthesis that ends them. No flag may come twice, there may be
one hyphen, and it may not come last. -/
def flagItems (flags : Flags) (seen : List Char) :
    List Char → Option (Flags × List Char × List Char)
  | [] => none
  | c :: rest =>
    if c = ':' ∨ c = ')' then
      if seen.head? = some '-' then none else some (flags, seen, c :: rest)
    else if seen.contains c then none
    else if c = '-' then flagItems flags (c :: seen) rest
    else match flags.put (!seen.contains '-') c with
      | some flags => flagItems flags (c :: seen) rest
      | none => none

/-- Reads decimal digits. -/
def digitRun (extended : Bool) : Nat → List Char → List Char × List Char
  | 0, cs => ([], cs)
  | fuel + 1, cs => match cs with
    | c :: rest =>
      if isDigit c then
        let (ds, rest) := digitRun extended fuel (skip extended rest)
        (c :: ds, rest)
      else ([], cs)
    | [] => ([], [])

/-- Reads a decimal number, with white space around it. Above 32 bits there is none. -/
def decimal (extended : Bool) (cs : List Char) : Option Nat × List Char :=
  let (ds, rest) := digitRun extended cs.length (cs.dropWhile isBlank)
  let n := digitsValue ds
  let rest := skip extended (rest.dropWhile isBlank)
  (if ds.isEmpty ∨ 0x100000000 ≤ n then none else some n, rest)

/-- Reads a count after its opening brace: one number, a lower limit, or both limits. -/
def counts (extended : Bool) (cs : List Char) : Option (Nat × Option Nat × List Char) := do
  let (min, rest) := decimal extended (skip extended cs)
  let min ← min
  match rest with
  | '\x7d' :: rest => some (min, some min, rest)
  | ',' :: rest =>
    match skip extended rest with
    | '\x7d' :: rest => some (min, none, rest)
    | rest =>
      let (max, rest) := decimal extended rest
      let max ← max
      match rest with
      | '\x7d' :: rest => if min ≤ max then some (min, some max, rest) else none
      | _ => none
  | _ => none

/-- Repeats the last part read. -/
def repeatLast (min : Nat) (max : Option Nat) : List Part → Option (List Part)
  | part :: parts =>
    if part.repeatable then
      some (⟨.rep part.regex min max, part.depth + 1, true⟩ :: parts)
    else none
  | [] => none

/-- Drops the question mark that makes a repetition lazy, which does not matter here. -/
def dropLazy : List Char → List Char
  | '?' :: rest => rest
  | rest => rest

/-! ## Sequences, choices and groups -/

/-- A sequence of parts, given last part first. -/
def sequence (parts : List Part) : Part :=
  match parts with
  | [] => ⟨.empty, 0, true⟩
  | [part] => part
  | _ => ⟨.seqs (parts.reverse.map (·.regex)), 1 + (parts.map (·.depth)).foldl max 0, true⟩

/-- A choice of branches, given last branch first. -/
def choice (branches : List Part) : Part :=
  match branches with
  | [branch] => branch
  | _ => ⟨.alts (branches.reverse.map (·.regex)), 1 + (branches.map (·.depth)).foldl max 0, true⟩

/-- A literal character with the flags in effect. -/
def literalAtom? (flags : Flags) (c : Char) (asByte : Bool) : Option Atom :=
  if flags.unicode then
    some (.oneOf (if flags.ignoreCase then (CodeSet.single c).foldCase else .single c))
  else if asByte ∧ 0x80 ≤ c.toNat then none
  else some (.oneOf (if flags.ignoreCase then (CodeSet.single c).foldAsciiCase else .single c))

/-- A single character or escape as an atom. -/
def Primitive.atom? (flags : Flags) : Primitive → Option Atom
  | .literal c asByte => literalAtom? flags c asByte
  | .class s => some (.oneOf s)
  | .look l => some (.look l)

/-- What the dot matches. -/
def dotAtom? (flags : Flags) : Option Atom :=
  if !flags.unicode then none
  else if flags.dotAll then some (.oneOf .all)
  else if flags.crlf then some (.oneOf (CodeSet.mk [(0x0A, 0x0A), (0x0D, 0x0D)]).complement)
  else some (.oneOf (CodeSet.single '\n').complement)

/-- Where a caret holds. -/
def Flags.lineStart (flags : Flags) : Look :=
  if flags.multiLine then (if flags.crlf then .lineStartCrlf else .lineStart) else .textStart

/-- Where a dollar sign holds. -/
def Flags.lineEnd (flags : Flags) : Look :=
  if flags.multiLine then (if flags.crlf then .lineEndCrlf else .lineEnd) else .textEnd

/-- How a group begins: it sets flags for what follows, or it encloses a part of the expression. -/
inductive Opening
  | setFlags (flags : Flags)
  | enclose (flags : Flags) (names : List String)

/-- The set of letters, of which capture names are made. -/
def alphabetic : CodeSet := (Unicode.propertyNamed? "alphabetic").getD .empty

/-- The set of all numbers, which may follow in a capture name. -/
def numeric : CodeSet := Unicode.category "N"

/-- A character that a capture name may begin or go on with. -/
def isNameChar (first : Bool) (c : Char) : Bool :=
  c = '_' || alphabetic.contains c ||
    (!first && (c = '.' || c = '[' || c = ']' || numeric.contains c))

/-- Reads a capture name up to the angle bracket. It may not have been used before. -/
def captureName (names : List String) (cs : List Char) : Option (List String × List Char) :=
  match cs.span (· ≠ '>') with
  | (name, '>' :: rest) =>
    match name with
    | [] => none
    | first :: others =>
      let text := String.ofList name
      if isNameChar true first && others.all (isNameChar false) && !names.contains text then
        some (text :: names, rest)
      else none
  | _ => none

/-- Reads how a group begins, after its parenthesis. Looking around is not supported. -/
def opening (c : Cursor) : Option (Opening × List Char) :=
  match skip c.flags.extended c.rest with
  | '?' :: '=' :: _ => none
  | '?' :: '!' :: _ => none
  | '?' :: '<' :: '=' :: _ => none
  | '?' :: '<' :: '!' :: _ => none
  | '?' :: 'P' :: '<' :: rest =>
    (captureName c.names rest).map fun (names, rest) => (.enclose c.flags names, rest)
  | '?' :: '<' :: rest =>
    (captureName c.names rest).map fun (names, rest) => (.enclose c.flags names, rest)
  | '?' :: rest =>
    match flagItems c.flags [] rest with
    | some (flags, _, ':' :: rest) => some (.enclose flags c.names, rest)
    | some (flags, seen, ')' :: rest) =>
      if seen.isEmpty then none else some (.setFlags flags, rest)
    | _ => none
  | rest => some (.enclose c.flags c.names, rest)

/-- Reads a choice up to its end, which is the end of the text or a closing parenthesis. The parts
of the current branch and the branches before it are given last one first. -/
def branches : Nat → List Part → List Part → Cursor → Option (Part × Cursor)
  | 0, _, _, _ => none
  | fuel + 1, parts, done, c =>
    let cs := skip c.flags.extended c.rest
    let finish : Part × Cursor := (choice (sequence parts :: done), { c with rest := cs })
    let add (part : Part) (rest : List Char) : Option (Part × Cursor) :=
      branches fuel (part :: parts) done { c with rest }
    let repeated (min : Nat) (max : Option Nat) (rest : List Char) : Option (Part × Cursor) :=
      (repeatLast min max parts).bind fun parts =>
        branches fuel parts done { c with rest := dropLazy rest }
    match cs with
    | [] => some finish
    | ')' :: _ => some finish
    | '|' :: rest => branches fuel [] (sequence parts :: done) { c with rest }
    | '(' :: rest =>
      match opening { c with rest } with
      | none => none
      | some (.setFlags flags, rest) =>
        branches fuel (⟨.empty, 0, false⟩ :: parts) done { c with rest, flags }
      | some (.enclose flags names, rest) =>
        match branches fuel [] [] { rest, flags, names } with
        | some (inner, { rest := ')' :: rest, flags := _, names }) =>
          branches fuel (⟨inner.regex, inner.depth + 1, true⟩ :: parts) done { c with rest, names }
        | _ => none
    | '[' :: rest =>
      match bracketed c.flags rest with
      | some (item, rest) => add ⟨.atom (.oneOf item.set), item.depth, true⟩ rest
      | none => none
    | '?' :: rest => repeated 0 (some 1) rest
    | '*' :: rest => repeated 0 none rest
    | '+' :: rest => repeated 1 none rest
    | '\x7b' :: rest =>
      match counts c.flags.extended rest with
      | some (min, max, rest) => repeated min max (skip c.flags.extended rest)
      | none => none
    | '.' :: rest => (dotAtom? c.flags).bind fun a => add ⟨.atom a, 0, true⟩ rest
    | '^' :: rest => add ⟨.atom (.look c.flags.lineStart), 0, true⟩ rest
    | '$' :: rest => add ⟨.atom (.look c.flags.lineEnd), 0, true⟩ rest
    | '\\' :: rest =>
      match escape c.flags rest with
      | some (p, rest) => (p.atom? c.flags).bind fun a => add ⟨.atom a, 0, true⟩ rest
      | none => none
    | char :: rest =>
      (literalAtom? c.flags char false).bind fun a => add ⟨.atom a, 0, true⟩ rest

/-- The deepest nesting that is accepted. -/
def maxDepth : Nat := 250

/-- Whether an expression that has been read is within the limits. -/
def Part.isWithinLimits (part : Part) : Bool :=
  part.depth ≤ maxDepth && part.regex.size ≤ maxSize

/-- The expression that a text writes. -/
def parse? (text : String) : Option (Regex Atom) :=
  let cs := text.toList
  match branches (2 * cs.length + 2) [] [] { rest := cs, flags := {}, names := [] } with
  | some (part, c) => if c.rest.isEmpty && part.isWithinLimits then some part.regex else none
  | none => none

end JsonSchema.Regex
