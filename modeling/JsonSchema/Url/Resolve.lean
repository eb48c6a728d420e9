import JsonSchema.Url.Host
import JsonSchema.Url.Path

/-!
# Reading URLs, alone or against a base

A text with a scheme is a URL of its own; one without is relative to a base and keeps as much of
the base as it does not say itself.
-/

namespace JsonSchema.Url

/-- Reading ends in a value or in the reason why the text is no URL. -/
abbrev Reading := Except UrlError

/-- The text as it is read: without blanks around it and without tabs and line ends. -/
def significant (s : String) : List Char :=
  let isBlank (c : Char) : Bool := c.toNat ≤ 0x20
  let inner := ((s.toList.dropWhile isBlank).reverse.dropWhile isBlank).reverse
  inner.filter fun c => c ≠ '\t' && c ≠ '\n' && c ≠ '\r'

/-- A character of a scheme. -/
def isSchemeChar (c : Char) : Bool :=
  isLetter c || ('0' ≤ c && c ≤ '9') || c = '+' || c = '-' || c = '.'

/-- The scheme in lower case, and what follows its colon. -/
def splitScheme (cs : List Char) : Option (String × List Char) :=
  let name := cs.takeWhile isSchemeChar
  match name, cs.drop name.length with
  | first :: _, ':' :: rest =>
    if isLetter first then some (String.ofList (name.map Char.toLower), rest) else none
  | _, _ => none

/-! ## Query and fragment -/

/-- The fragment behind its number sign. -/
def readFragment (cs : List Char) : String := String.ofList (Percent.encode Percent.fragment cs)

/-- Reads what follows the path of a URL. -/
def readEnd (u : Url) (cs : List Char) : Url :=
  let reserved := if (SchemeKind.ofScheme u.scheme).isSpecial then Percent.specialQuery
    else Percent.query
  match cs with
  | '?' :: rest =>
    let query := rest.takeWhile (· ≠ '#')
    let u := { u with query := some (String.ofList (Percent.encode reserved query)) }
    match rest.drop query.length with
    | '#' :: rest => { u with fragment := some (readFragment rest) }
    | _ => u
  | '#' :: rest => { u with fragment := some (readFragment rest) }
  | _ => u

/-! ## Authority -/

/-- The characters that end an authority. -/
def endsAuthority (kind : SchemeKind) (c : Char) : Bool := kind.isSlash c || c = '?' || c = '#'

/-- The credentials of an authority and what follows them. Credentials that are empty must not be
all there is. -/
def readCredentials (kind : SchemeKind) (cs : List Char) : Reading (Authority × List Char) :=
  let authority := cs.takeWhile (!endsAuthority kind ·)
  match authority.reverse.dropWhile (· ≠ '@') with
  | [] => .ok ({}, cs)
  | [_] =>
    let rest := cs.drop 1
    if rest.head?.any (endsAuthority kind) then .error .emptyHost else .ok ({}, rest)
  | _ :: before =>
    let info := before.reverse
    let username := info.takeWhile (· ≠ ':')
    let password := info.drop (username.length + 1)
    let encoded (cs : List Char) : String := String.ofList (Percent.encode Percent.userInfo cs)
    .ok ({ username := encoded username
           password := if password.isEmpty then none else some (encoded password) },
      cs.drop (info.length + 1))

/-- The characters of a host: a colon in brackets belongs to it. -/
def hostText (kind : SchemeKind) (inside : Bool) : List Char → List Char
  | [] => []
  | c :: rest =>
    if endsAuthority kind c || (c = ':' && !inside) then []
    else c :: hostText kind (c = '[' || (inside && c ≠ ']')) rest

/-- The port that a scheme has where none is given. -/
def defaultPort (scheme : String) : Option Nat :=
  [("http", 80), ("https", 443), ("ws", 80), ("wss", 443), ("ftp", 21)].lookup scheme

/-- Reads a port, given the digits so far. -/
def readPort (value : Option Nat) : List Char → Reading (Option Nat × List Char)
  | [] => .ok (value, [])
  | c :: rest =>
    if '0' ≤ c ∧ c ≤ '9' then
      let n := 10 * value.getD 0 + (c.toNat - 48)
      if 65535 < n then .error .invalidPort else readPort (some n) rest
    else if c = '/' ∨ c = '\\' ∨ c = '?' ∨ c = '#' then .ok (value, c :: rest)
    else .error .invalidPort

/-- Reads the port behind a host, if there is one. -/
def readHostPort (cs : List Char) : Reading (Option Nat × List Char) :=
  match cs with
  | ':' :: rest => readPort none rest
  | _ => .ok (none, cs)

/-- Reads the name of a host. -/
def readHost (kind : SchemeKind) (name : List Char) : Reading String :=
  if kind.isSpecial then specialHost name else opaqueHost name

/-- A URL with an authority, read from its path on. Where hosts mean nothing there may be no
path. -/
def readBehindAuthority (scheme : String) (authority : Authority) (cs : List Char) : Url :=
  let kind := SchemeKind.ofScheme scheme
  if ¬kind.isSpecial ∧ cs.head?.all (fun c => c = '?' || c = '#') then
    readEnd { scheme, authority := some authority } cs
  else
    let cs := if cs.head?.any kind.isSlash then cs.drop 1 else cs
    let (path, _, rest) := readPath kind ['/'] cs
    readEnd { scheme, authority := some authority, path } rest

/-- Reads a URL from behind the slashes in front of its authority. -/
def readAuthority (scheme : String) (cs : List Char) : Reading Url := do
  let kind := SchemeKind.ofScheme scheme
  let (credentials, cs) ← readCredentials kind cs
  let name := hostText kind false cs
  let cs := cs.drop name.length
  if kind = .network ∧ name = [] then .error .emptyHost
  let host ← readHost kind name
  if host = "" ∧ cs.head? = some ':' then .error .emptyHost
  let (port, cs) ← readHostPort cs
  let port := if port = defaultPort scheme then none else port
  let hasCredentials := credentials.username ≠ "" ∨ credentials.password.isSome
  if host = "" ∧ hasCredentials then .error .emptyHost
  return readBehindAuthority scheme { credentials with host, port } cs

/-! ## Files -/

/-- The host of a file URL; the local one is not written. -/
def fileHost (name : List Char) : Reading String := do
  if name = [] then return ""
  let host ← specialHost name
  return if host = "localhost" then "" else host

/-- A file URL with a host, read from its path on. -/
def fileUrl (host : String) (start : List Char) (cs : List Char) : Url :=
  let (path, _, rest) := readPath .file start cs
  readEnd { scheme := "file", authority := some { host }, path } rest

/-- Reads a file URL from behind its two slashes. A drive letter there begins the path, and one at
the front of the path takes the place of the host. -/
def readFileAuthority (cs : List Char) : Reading Url := do
  let name := cs.takeWhile fun c => c ≠ '/' && c ≠ '\\' && c ≠ '?' && c ≠ '#'
  if isDriveLetter name then return fileUrl "" ['/'] cs
  let host ← fileHost name
  let cs := cs.drop name.length
  let cs := if cs.head?.any SchemeKind.file.isSlash then cs.drop 1 else cs
  let (path, drive, rest) := readPath .file ['/'] cs
  return readEnd
    { scheme := "file", authority := some { host := if drive then "" else host }, path } rest

/-- The host of a URL, empty if there is none. -/
def host (u : Url) : String := (u.authority.map Authority.host).getD ""

/-- The first segment of the path. -/
def firstSegment (u : Url) : List Char := (u.path.toList.drop 1).takeWhile (· ≠ '/')

/-- Reads a relative path against the path of a base. -/
def readBelow (base : Url) (cs : List Char) : Url :=
  let kind := SchemeKind.ofScheme base.scheme
  let start := (PathState.dropLast kind base.path.toList.reverse).reverse
  let (path, _, rest) := readPath kind (if start = [] then ['/'] else start) cs
  readEnd { base with path, query := none, fragment := none } rest

/-- Reads a file URL behind its scheme, or a reference against a file URL. -/
def readFile (base : Option Url) (cs : List Char) : Reading Url :=
  let isSlash := SchemeKind.file.isSlash
  match cs with
  | a :: b :: rest =>
    if isSlash a ∧ isSlash b then readFileAuthority rest
    else if isSlash a then .ok (rooted (b :: rest))
    else relative
  | [a] => if isSlash a then .ok (rooted []) else relative
  | [] => relative
where
  /-- A single slash keeps the host of the base, or its drive letter. -/
  rooted (rest : List Char) : Url :=
    match base with
    | some b =>
      if startsWithDrive rest then fileUrl "" [] ('/' :: rest)
      else if isNormalDriveLetter b.firstSegment then
        fileUrl "" ('/' :: b.firstSegment) ('/' :: rest)
      else fileUrl b.host [] ('/' :: rest)
    | none => fileUrl "" [] ('/' :: rest)
  /-- Without a slash in front. -/
  relative : Reading Url :=
    match base with
    | none => .ok (fileUrl "" ['/'] cs)
    | some b => match cs with
      | [] => .ok { b with fragment := none }
      | '?' :: _ => .ok (readEnd { b with query := none, fragment := none } cs)
      | '#' :: rest => .ok { b with fragment := some (readFragment rest) }
      | _ => if startsWithDrive cs then .ok (fileUrl "" ['/'] cs) else .ok (readBelow b cs)

/-! ## Reading -/

/-- Reads a reference against a base that is no file. -/
def readRelative (base : Url) (cs : List Char) : Reading Url :=
  match cs with
  | [] => .ok { base with fragment := none }
  | '?' :: _ => .ok (readEnd { base with query := none, fragment := none } cs)
  | '#' :: rest => .ok { base with fragment := some (readFragment rest) }
  | '/' :: '/' :: rest => readAuthority base.scheme rest
  | c :: rest =>
    let isEitherSlash (c : Char) : Bool := c = '/' || c = '\\'
    if isEitherSlash c ∧ rest.head?.any isEitherSlash then
      readAuthority base.scheme (cs.dropWhile isEitherSlash)
    else if isEitherSlash c then
      let (path, _, rest) := readPath (.ofScheme base.scheme) ['/'] rest
      .ok (readEnd { base with path, query := none, fragment := none } rest)
    else .ok (readBelow base cs)

/-- Reads a URL behind its scheme. -/
def readAbsolute (base : Option Url) (scheme : String) (cs : List Char) : Reading Url :=
  match SchemeKind.ofScheme scheme with
  | .file => readFile (base.filter fun b => b.scheme = "file") cs
  | .network =>
    let rest := cs.dropWhile SchemeKind.network.isSlash
    match base.filter fun b => b.scheme = scheme with
    | some b => if cs.length < rest.length + 2 then readRelative b cs
      else readAuthority scheme rest
    | none => readAuthority scheme rest
  | .plain => match cs with
    | '/' :: '/' :: rest => readAuthority scheme rest
    | '/' :: rest =>
      let (path, _, rest) := readPath .plain ['/'] rest
      .ok (readEnd { scheme, path } rest)
    | _ =>
      let path := cs.takeWhile fun c => c ≠ '?' && c ≠ '#'
      .ok (readEnd { scheme, path := String.ofList (Percent.encode Percent.control path) }
        (cs.drop path.length))

/-- Reads a text, against a base if there is one. -/
def read (base : Option Url) (s : String) : Reading Url :=
  let cs := significant s
  match splitScheme cs, base with
  | some (scheme, rest), _ => readAbsolute base scheme rest
  | none, none => .error .relativeWithoutBase
  | none, some b => match cs with
    | '#' :: rest => .ok { b with fragment := some (readFragment rest) }
    | _ =>
      if b.isOpaque then .error .relativeWithOpaqueBase
      else if b.scheme = "file" then readFile base cs
      else readRelative b cs

/-- The URL with a given text. -/
def parse (s : String) : Reading Url := read none s

/-- The URL that a reference stands for at a base. -/
def join (base : Url) (reference : String) : Reading Url := read (some base) reference

end JsonSchema.Url
