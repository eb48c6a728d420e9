import JsonSchema.Text.Digits

/-!
# IPv4 addresses

The dotted form: four decimal numbers below 256, none with a leading zero. URLs also take other
forms, which are read in `Url.Host`.
-/

namespace JsonSchema.Address

/-- Reads a decimal octet from the front of a text: all the digits there, which must be three at
most, without a leading zero, and below 256. -/
def readOctet (cs : List Char) : Option (Nat × List Char) :=
  let ds := digitsOf cs
  let n := digitsValue ds
  if ds.isEmpty ∨ 3 < ds.length ∨ (1 < ds.length ∧ ds.head? = some '0') ∨ 256 ≤ n then none
  else some (n, cs.drop ds.length)

/-- Reads `count` octets with full stops between them. -/
def readOctets : Nat → List Char → Option (List Nat × List Char)
  | 0, cs => some ([], cs)
  | 1, cs => (readOctet cs).map fun (n, rest) => ([n], rest)
  | count + 2, cs => do
    let (n, rest) ← readOctet cs
    match rest with
    | '.' :: rest =>
      let (ns, rest) ← readOctets (count + 1) rest
      some (n :: ns, rest)
    | _ => none

/-- Reads an address from the front of a text. -/
def readIpv4 (cs : List Char) : Option (List Nat × List Char) := readOctets 4 cs

/-- Whether a text is an address. -/
def isIpv4 (s : String) : Bool :=
  match readIpv4 s.toList with
  | some (_, []) => true
  | _ => false

end JsonSchema.Address
