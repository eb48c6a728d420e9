import JsonSchema.Address.Ipv6

/-!
# Host names and mail addresses

A mail address is a local part, an at sign and a domain. The local part is a sequence of atoms
with full stops between them, or anything in quotes; the domain is a host name, or an address in
brackets. Lengths are counted in bytes.
-/

namespace JsonSchema.Format

/-- A letter or a digit of ASCII. -/
def isAlphanumeric (c : Char) : Bool :=
  ('0' ≤ c && c ≤ '9') || ('a' ≤ c && c ≤ 'z') || ('A' ≤ c && c ≤ 'Z')

/-- The stretches between the full stops. -/
def dotted : List Char → List (List Char)
  | [] => [[]]
  | '.' :: rest => [] :: dotted rest
  | c :: rest => match dotted rest with
    | [] => [[c]]
    | p :: ps => (c :: p) :: ps

/-- The length of a text in bytes. -/
def byteLength (cs : List Char) : Nat := cs.foldr (fun c n => c.utf8Size + n) 0

/-! ## Host names -/

/-- A label of a host name: letters, digits and hyphens, no hyphen at its ends. -/
def isLabel (cs : List Char) : Bool :=
  !cs.isEmpty && cs.length ≤ 63 && cs.head? != some '-' && cs.getLast? != some '-' &&
    cs.all fun c => isAlphanumeric c || c = '-'

/-- Whether a text is a host name. -/
def isHostnameText (cs : List Char) : Bool :=
  !cs.isEmpty && cs.length ≤ 253 && (dotted cs).all isLabel

/-- Whether a text is a host name. -/
def isHostname (s : String) : Bool := isHostnameText s.toList

/-! ## Mail addresses -/

/-- A character of an atom. -/
def isAtomChar (c : Char) : Bool :=
  isAlphanumeric c || "!#$%&'*+/=?^_`\x7b|\x7d~-".toList.contains c

/-- A control character of ASCII. -/
def isAsciiControl (c : Char) : Bool := c.toNat < 0x20 || c.toNat = 0x7F

/-- What stands between the quotes: a backslash takes the next character with it. -/
def isQuotedContent : List Char → Bool
  | [] => true
  | '\\' :: _ :: rest => isQuotedContent rest
  | c :: rest => c ≠ '\\' && c ≠ '"' && !isAsciiControl c && isQuotedContent rest

/-- The inside of a text between two given characters. -/
def inside? (first last : Char) (cs : List Char) : Option (List Char) :=
  match cs with
  | c :: rest => if c = first ∧ rest.getLast? = some last then some rest.dropLast else none
  | [] => none

/-- The part before the at sign. -/
def isLocalPart (cs : List Char) : Bool :=
  !cs.isEmpty && byteLength cs ≤ 64 &&
    match inside? '"' '"' cs with
    | some content => isQuotedContent content
    | none => (dotted cs).all fun atom => !atom.isEmpty && atom.all isAtomChar

/-- The part behind the at sign. -/
def isMailDomain (cs : List Char) : Bool :=
  match inside? '[' ']' cs with
  | some ('I' :: 'P' :: 'v' :: '6' :: ':' :: address) => Address.isIpv6 (String.ofList address)
  | some address => Address.isIpv4 (String.ofList address)
  | none => isHostnameText cs

/-- Splits a text at its last at sign. -/
def splitAtSign? (cs : List Char) : Option (List Char × List Char) :=
  let domain := (cs.reverse.takeWhile (· ≠ '@')).reverse
  if domain.length = cs.length then none
  else some (cs.take (cs.length - domain.length - 1), domain)

/-- Whether a text is a mail address. -/
def isEmail (s : String) : Bool :=
  match splitAtSign? s.toList with
  | some (localPart, domain) => isLocalPart localPart && isMailDomain domain
  | none => false

end JsonSchema.Format
