import JsonSchema.Address.Ipv6
import JsonSchema.Idna.Domain
import JsonSchema.Url.Error
import JsonSchema.Url.Percent

/-!
# Hosts

A host is an IPv6 address in brackets, an IPv4 address in any of the forms that are customary in
URLs, a domain name, or, in a URL whose scheme says nothing about hosts, any text without
delimiters. Each has one normal form.
-/

namespace JsonSchema.Url

/-! ## IPv4 -/

/-- Splits a text at full stops. -/
def dottedParts : List Char → List (List Char)
  | [] => [[]]
  | '.' :: rest => [] :: dottedParts rest
  | c :: rest => match dottedParts rest with
    | [] => [[c]]
    | p :: ps => (c :: p) :: ps

/-- The number of digits of a radix. -/
def numberIn (radix : Nat) (ds : List Char) : Option Nat :=
  ds.foldl (fun acc c => do
    let n ← acc
    let d ← hexValue? c
    if d < radix then some (radix * n + d) else none) (some 0)

/-- A number of an IPv4 address: decimal, octal after a zero, or hexadecimal after `0x`. -/
def ipv4Number : List Char → Option Nat
  | [] => none
  | '0' :: 'x' :: ds => numberIn 16 ds
  | '0' :: 'X' :: ds => numberIn 16 ds
  | '0' :: d :: ds => numberIn 8 (d :: ds)
  | ds => numberIn 10 ds

/-- The parts of a host without an empty one at the end. -/
def hostParts (host : List Char) : List (List Char) :=
  match (dottedParts host).reverse with
  | [] :: rest => rest.reverse
  | parts => parts.reverse

/-- Whether the last part of a host is a number, so that the host must be an IPv4 address. -/
def endsInNumber (host : List Char) : Bool :=
  match (dottedParts host).reverse with
  | [] :: last :: _ => isNumber last
  | [[]] => false
  | last :: _ => isNumber last
  | [] => false
where
  isNumber (part : List Char) : Bool :=
    (!part.isEmpty && part.all fun c => '0' ≤ c && c ≤ '9') || (ipv4Number part).isSome

/-- The address that the numbers of a host make up: all but the last are bytes, and the last fills
what is left. -/
def ipv4Address (host : List Char) : Option Nat := do
  let numbers ← (hostParts host).mapM ipv4Number
  let last ← numbers.getLast?
  let front := numbers.dropLast
  if 4 < numbers.length ∨ Nat.pow 256 (4 - front.length) ≤ last ∨ front.any (255 < ·) then none
  else some ((front.zipIdx.foldl (fun n (b, i) => n + b * Nat.pow 256 (3 - i)) 0) + last)

/-- The dotted form of an address. -/
def ipv4Text (n : Nat) : String :=
  String.intercalate "." ([n / 0x1000000, n / 0x10000 % 256, n / 256 % 256, n % 256].map toString)

/-! ## IPv6 -/

/-- Reads up to `count` hexadecimal digits. -/
def hexRun : Nat → Nat → List Char → Nat × List Char
  | 0, value, cs => (value, cs)
  | count + 1, value, cs => match cs with
    | c :: rest => match hexValue? c with
      | some d => hexRun count (16 * value + d) rest
      | none => (value, cs)
    | [] => (value, [])

/-- Reads a byte in decimal without a leading zero, given what was read of it. -/
def ipv6Byte (value : Option Nat) : List Char → Option (Nat × List Char)
  | [] => value.map (·, [])
  | c :: rest =>
    if '0' ≤ c ∧ c ≤ '9' then
      let d := c.toNat - 48
      match value with
      | none => ipv6Byte (some d) rest
      | some 0 => none
      | some n => if 255 < 10 * n + d then none else ipv6Byte (some (10 * n + d)) rest
    else value.map (·, c :: rest)

/-- Reads the four bytes of an IPv4 address that ends an IPv6 address. -/
def ipv6Tail (cs : List Char) : Option (List Nat) := do
  let (a, rest) ← ipv6Byte none cs
  let (b, rest) ← ipv6Byte none (← dot rest)
  let (c, rest) ← ipv6Byte none (← dot rest)
  let (d, rest) ← ipv6Byte none (← dot rest)
  if rest.isEmpty then some [256 * a + b, 256 * c + d] else none
where
  dot : List Char → Option (List Char)
    | '.' :: rest => some rest
    | _ => none

/-- Reads the pieces of an address: those so far, last first, and how many stand before the
compressed run. -/
def ipv6Pieces : Nat → List Nat → Option Nat → List Char → Option (List Nat × Option Nat)
  | 0, _, _, _ => none
  | _ + 1, pieces, compress, [] => some (pieces.reverse, compress)
  | fuel + 1, pieces, compress, c :: rest =>
    if 8 ≤ pieces.length then none
    else if c = ':' then
      if compress.isSome then none
      else ipv6Pieces fuel (0 :: pieces) (some (pieces.length + 1)) rest
    else
      let (value, after) := hexRun 4 0 (c :: rest)
      match after with
      | '.' :: _ =>
        if after.length = (c :: rest).length ∨ 6 < pieces.length then none
        else (ipv6Tail (c :: rest)).map fun tail => (pieces.reverse ++ tail, compress)
      | ':' :: [] => none
      | ':' :: more => ipv6Pieces fuel (value :: pieces) compress more
      | [] => some ((value :: pieces).reverse, compress)
      | _ => none

/-- The eight pieces of an address. -/
def ipv6Address (cs : List Char) : Option (List Nat) := do
  let start ← match cs with
    | ':' :: ':' :: rest => some (rest, [0], some 1)
    | ':' :: _ => none
    | _ => some (cs, [], none)
  let (rest, pieces, compress) := start
  let (pieces, compress) ← ipv6Pieces (cs.length + 1) pieces compress rest
  match compress with
  | some front =>
    let back := pieces.drop front
    some (pieces.take front ++ List.replicate (8 - pieces.length) 0 ++ back)
  | none => if pieces.length = 8 then some pieces else none

/-- The start and length of the first longest run of zeros that is at least two long. -/
def longestZeros : List Nat → Nat → Nat × Nat → Nat × Nat
  | [], _, best => best
  | p :: ps, i, best =>
    let run := ((p :: ps).takeWhile (· = 0)).length
    longestZeros ps (i + 1) (if best.2 < run ∧ 2 ≤ run then (i, run) else best)

/-- The pieces in hexadecimal between colons. -/
def hexPieces (ps : List Nat) : String :=
  String.intercalate ":" (ps.map fun p => String.ofList (Nat.toDigits 16 p))

/-- The shortest text of an address. -/
def ipv6Text (pieces : List Nat) : String :=
  let (start, length) := longestZeros pieces 0 (0, 0)
  if length = 0 then hexPieces pieces
  else hexPieces (pieces.take start) ++ "::" ++ hexPieces (pieces.drop (start + length))

/-- A host in brackets. -/
def bracketedHost (cs : List Char) : Except UrlError String :=
  match cs.reverse with
  | ']' :: inner =>
    match ipv6Address inner.reverse with
    | some pieces => .ok ("[" ++ ipv6Text pieces ++ "]")
    | none => .error .invalidIpv6
  | _ => .error .invalidIpv6

/-! ## Hosts of both kinds -/

/-- Characters that no host may hold. -/
def isForbiddenInHost (c : Char) : Bool :=
  ['\x00', '\t', '\n', '\r', ' ', '#', '/', ':', '<', '>', '?', '@', '[', '\\', ']', '^',
    '|'].contains c

/-- The host of a URL whose scheme says nothing about hosts. -/
def opaqueHost (cs : List Char) : Except UrlError String :=
  match cs with
  | '[' :: rest => bracketedHost rest
  | _ =>
    if cs.any isForbiddenInHost then .error .invalidDomainCharacter
    else .ok (String.ofList (Percent.encode Percent.control cs))

/-- The host of a URL with a special scheme: escapes are undone, and the name is brought into
ASCII. -/
def specialHost (cs : List Char) : Except UrlError String :=
  match cs with
  | '[' :: rest => bracketedHost rest
  | _ =>
    let name := (Percent.ofUtf8? (Percent.decodeBytes (Percent.utf8 cs))).bind fun s =>
      Idna.toAscii s.toList
    match name with
    | none => .error .invalidInternationalName
    | some [] => .error .emptyHost
    | some host =>
      if endsInNumber host then
        match ipv4Address host with
        | some n => .ok (ipv4Text n)
        | none => .error .invalidIpv4
      else .ok (String.ofList host)

end JsonSchema.Url
