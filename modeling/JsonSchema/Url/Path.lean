import JsonSchema.Url.Basic

/-!
# Paths of URLs

A path is read segment by segment onto what is already written of it. A segment of one dot is left
out and one of two dots takes the segment before it away, also where a dot is escaped. In `file`
URLs a drive letter at the front takes the place of the host.
-/

namespace JsonSchema.Url

/-- What the scheme says about the rest of a URL. -/
inductive SchemeKind
  /-- Names a file, with drive letters. -/
  | file
  /-- Needs a host, and takes a backslash for a slash. -/
  | network
  /-- Any other scheme. -/
  | plain
  deriving DecidableEq, Repr

namespace SchemeKind

/-- The kind of a scheme. -/
def ofScheme (scheme : String) : SchemeKind :=
  if scheme = "file" then file
  else if ["http", "https", "ws", "wss", "ftp"].contains scheme then network
  else plain

/-- Whether the rules for well-known schemes hold. -/
def isSpecial (k : SchemeKind) : Bool := k ≠ plain

/-- The characters that separate segments. -/
def isSlash (k : SchemeKind) (c : Char) : Bool := c = '/' || (c = '\\' && k.isSpecial)

end SchemeKind

/-- A letter of the English alphabet. -/
def isLetter (c : Char) : Bool := ('a' ≤ c && c ≤ 'z') || ('A' ≤ c && c ≤ 'Z')

/-- A letter and a colon or a bar. -/
def isDriveLetter : List Char → Bool
  | [a, b] => isLetter a && (b = ':' || b = '|')
  | _ => false

/-- A letter and a colon. -/
def isNormalDriveLetter : List Char → Bool
  | [a, b] => isLetter a && b = ':'
  | _ => false

/-- Whether the first segment of a text is a drive letter. -/
def startsWithDrive : List Char → Bool
  | [a, b] => isDriveLetter [a, b]
  | a :: b :: c :: _ => isDriveLetter [a, b] && (c = '/' || c = '\\' || c = '?' || c = '#')
  | _ => false

/-- A path as far as it is written, last character first, and whether a drive letter was met at its
front. -/
structure PathState where
  written : List Char
  drive : Bool := false

namespace PathState

/-- The last segment, in reading order. -/
def lastSegment (written : List Char) : List Char := (written.takeWhile (· ≠ '/')).reverse

/-- The path up to its last slash; a drive letter at the end of a file path stays. -/
def dropLast (kind : SchemeKind) (written : List Char) : List Char :=
  if kind = .file ∧ isNormalDriveLetter (lastSegment written) then written
  else written.dropWhile (· ≠ '/')

/-- Whether the segment before a final slash may be taken away: there is one, and it is no drive
letter. -/
def isRemovable (beforeSlash : List Char) : Bool :=
  beforeSlash.contains '/' && !startsWithDrive (lastSegment beforeSlash)

/-- One step up. -/
def up (kind : SchemeKind) (closed : Bool) (written : List Char) : List Char :=
  let base := match written with
    | '/' :: before => if isRemovable before then before else written
    | _ => written
  let base := dropLast kind base
  if closed ∧ base.head? ≠ some '/' then '/' :: base else base

/-- The spellings of a single dot. -/
def isDot (segment : List Char) : Bool :=
  segment = ['.'] || segment = ['%', '2', 'e'] || segment = ['%', '2', 'E']

/-- The spellings of two dots. -/
def isTwoDots (segment : List Char) : Bool :=
  (List.range (segment.length + 1)).any fun i => isDot (segment.take i) && isDot (segment.drop i)

/-- Adds a segment; it is closed if a slash follows it. -/
def add (kind : SchemeKind) (s : PathState) (segment : List Char) (closed : Bool) : PathState :=
  let before := if kind = .file ∧ segment ≠ [] ∧ s.written.length = 3 ∧
      isNormalDriveLetter (lastSegment s.written) then '/' :: s.written else s.written
  let slash := if closed then ['/'] else []
  if isTwoDots segment then { s with written := up kind closed before }
  else if isDot segment then
    { s with written := if before.head? = some '/' then before else '/' :: before }
  else if kind = .file ∧ before = ['/'] ∧ isDriveLetter segment then
    ⟨slash ++ ':' :: segment.take 1 ++ before, true⟩
  else { s with written := slash ++ (Percent.encode Percent.path segment).reverse ++ before }

/-- Reads a path up to a query or a fragment, given what stands before it and, last character
first, the segment so far. -/
def read (kind : SchemeKind) (s : PathState) (segment : List Char) :
    List Char → PathState × List Char
  | [] => (s.add kind segment.reverse false, [])
  | c :: rest =>
    if kind.isSlash c then read kind (s.add kind segment.reverse true) [] rest
    else if c = '?' ∨ c = '#' then (s.add kind segment.reverse false, c :: rest)
    else read kind s (c :: segment) rest

/-- The text of a path. A file path begins with exactly one slash. -/
def text (kind : SchemeKind) (s : PathState) : String :=
  let cs := s.written.reverse
  String.ofList (if kind = .file then '/' :: cs.dropWhile (· = '/') else cs)

end PathState

/-- Reads a path behind what is written of it. Also gives what follows, and whether a drive letter
was met. -/
def readPath (kind : SchemeKind) (start : List Char) (cs : List Char) :
    String × Bool × List Char :=
  let (s, rest) := PathState.read kind ⟨start.reverse, false⟩ [] cs
  (s.text kind, s.drive, rest)

end JsonSchema.Url
