/-!
# Digits
-/

namespace JsonSchema

/-- A decimal digit of ASCII. -/
def isDigit (c : Char) : Bool := '0' ≤ c && c ≤ '9'

/-- The number that decimal digits write. -/
def digitsValue (ds : List Char) : Nat := ds.foldl (fun n c => 10 * n + (c.toNat - 48)) 0

/-- The digits at the front of a text. -/
def digitsOf (cs : List Char) : List Char := cs.takeWhile isDigit

/-- The value of a hexadecimal digit. -/
def hexValue? (c : Char) : Option Nat :=
  if '0' ≤ c ∧ c ≤ '9' then some (c.toNat - 48)
  else if 'a' ≤ c ∧ c ≤ 'f' then some (c.toNat - 87)
  else if 'A' ≤ c ∧ c ≤ 'F' then some (c.toNat - 55)
  else none

/-- A hexadecimal digit. -/
def isHexDigit (c : Char) : Bool := (hexValue? c).isSome

/-- The number that hexadecimal digits write. -/
def hexNumber? (ds : List Char) : Option Nat :=
  ds.foldl (fun n c => do return 16 * (← n) + (← hexValue? c)) (some 0)

/-- The character whose code point hexadecimal digits write, unless there is none. -/
def charOfHex? (ds : List Char) : Option Char :=
  (hexNumber? ds).bind fun n => if n.isValidChar then some (Char.ofNat n) else none

end JsonSchema
