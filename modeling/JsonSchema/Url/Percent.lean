import JsonSchema.Text.Digits

/-!
# Percent-encoding

Each part of a URL reserves some characters; those, and all beyond ASCII, are written as the bytes
of their UTF-8 form, each as a percent sign and two hexadecimal digits.
-/

namespace JsonSchema.Percent

/-- An upper-case hexadecimal digit. -/
def hexDigit (n : Nat) : Char :=
  if n < 10 then Char.ofNat (48 + n) else Char.ofNat (55 + n)

/-- A byte as it is written. -/
def escapeByte (b : UInt8) : List Char :=
  ['%', hexDigit (b.toNat / 16), hexDigit (b.toNat % 16)]

/-- A character as it is written when it is reserved. -/
def escapeChar (c : Char) : List Char := (String.utf8EncodeChar c).flatMap escapeByte

/-- Text with the reserved characters escaped. -/
def encode (reserved : Char → Bool) (cs : List Char) : List Char :=
  cs.flatMap fun c => if reserved c then escapeChar c else [c]

/-- Control characters and everything beyond ASCII. -/
def control (c : Char) : Bool := c.toNat < 0x20 || 0x7F ≤ c.toNat

/-- Reserved in a fragment. -/
def fragment (c : Char) : Bool :=
  control c || c = ' ' || c = '"' || c = '<' || c = '>' || c = '`'

/-- Reserved in a query. -/
def query (c : Char) : Bool :=
  control c || c = ' ' || c = '"' || c = '#' || c = '<' || c = '>'

/-- Reserved in the query of a special URL. -/
def specialQuery (c : Char) : Bool := query c || c = '\''

/-- Reserved in a path. -/
def path (c : Char) : Bool :=
  fragment c || c = '#' || c = '?' || c = '\x7b' || c = '\x7d'

/-- Reserved in a user name or a password. -/
def userInfo (c : Char) : Bool :=
  path c || c = '/' || c = ':' || c = ';' || c = '=' || c = '@' || c = '[' || c = '\\' ||
    c = ']' || c = '^' || c = '|'

/-! ## Decoding -/

/-- The value of a byte that is a hexadecimal digit. -/
def byteHexValue? (b : UInt8) : Option Nat := hexValue? (Char.ofNat b.toNat)

/-- Replaces each percent sign before two hexadecimal digits by the byte that they write. -/
def decodeBytes : List UInt8 → List UInt8
  | 0x25 :: a :: b :: rest =>
    match byteHexValue? a, byteHexValue? b with
    | some x, some y => (16 * x + y).toUInt8 :: decodeBytes rest
    | _, _ => 0x25 :: decodeBytes (a :: b :: rest)
  | b :: rest => b :: decodeBytes rest
  | [] => []

/-- The bytes of a text in UTF-8. -/
def utf8 (cs : List Char) : List UInt8 := cs.flatMap String.utf8EncodeChar

/-- The text with given bytes, if they are UTF-8. -/
def ofUtf8? (bytes : List UInt8) : Option String := String.fromUTF8? ⟨bytes.toArray⟩

end JsonSchema.Percent
