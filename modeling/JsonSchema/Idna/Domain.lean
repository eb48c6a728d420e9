import JsonSchema.Idna.Label
import JsonSchema.Idna.Punycode

/-!
# Domain names in ASCII

An international domain name is mapped, its labels are checked, and each label beyond ASCII is
written in Punycode behind `xn--`. A label that is already written so is read back and checked in
the same way.
-/

namespace JsonSchema.Idna

/-- Characters that no domain name may hold. -/
def isForbidden (n : Nat) : Bool :=
  n ≤ 0x20 || n = 0x7F || ("%#/:<>?@[\\]^|".toList.map Char.toNat).contains n

/-- Splits a name at its full stops. -/
def labels : List Nat → List (List Nat)
  | [] => [[]]
  | n :: rest =>
    if n = 0x2E then [] :: labels rest
    else match labels rest with
      | [] => [[n]]
      | l :: ls => (n :: l) :: ls

/-- A label in Unicode: one in Punycode is read, and must be what a writer would have written. -/
def readLabel (label : List Nat) : Option (List Nat) :=
  match label with
  | 0x78 :: 0x6E :: 0x2D :: 0x2D :: rest => do
    let cs ← Punycode.decode (rest.map Char.ofNat)
    let decoded := cs.map Char.toNat
    if decoded.all (· < 0x80) then none
    else if decoded.all kept.has && Unicode.composition decoded = decoded then some decoded
    else none
  | _ => some label

/-- A checked label in ASCII. -/
def writeLabel (label : List Nat) : List Char :=
  let cs := label.map Char.ofNat
  if label.all (· < 0x80) then cs else "xn--".toList ++ Punycode.encode cs

/-- The name in ASCII, if it is a valid one. -/
def toAscii (name : List Char) : Option (List Char) := do
  let mapped ← mapName (name.map Char.toNat)
  let ls ← (labels mapped).mapM readLabel
  let whole := ls.flatten
  if whole.any isForbidden then none
  else if !ls.all (fun l => l.all (· < 0x80) || labelOk l) then none
  else if needsDirection whole && !ls.all directionOk then none
  else some (['.'].intercalate (ls.map writeLabel))

end JsonSchema.Idna
