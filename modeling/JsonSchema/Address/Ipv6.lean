import JsonSchema.Address.Ipv4

/-!
# IPv6 addresses

Eight groups of up to four hexadecimal digits between colons. One run of groups may be left out
between two colons, and the last two groups may be an IPv4 address.
-/

namespace JsonSchema.Address

/-- Reads a group of one to four hexadecimal digits; a fifth refuses it. -/
def readGroup (cs : List Char) : Option (List Char) :=
  let ds := cs.takeWhile isHexDigit
  if ds.isEmpty ∨ 4 < ds.length then none else some (cs.drop ds.length)

/-- Passes the colon in front of every group but the first. -/
def passSeparator (first : Bool) (cs : List Char) : Option (List Char) :=
  if first then some cs
  else match cs with
    | ':' :: rest => some rest
    | _ => none

/-- Reads up to `limit` groups: how many there are, whether they end in an IPv4 address, which
counts for two and needs room for two, and the rest. -/
def readGroups (limit : Nat) : Nat → List Char → Nat × Bool × List Char
  | 0, cs => (limit, false, cs)
  | left + 1, cs =>
    let i := limit - (left + 1)
    let address := if left = 0 then none
      else (passSeparator (i = 0) cs).bind fun rest => (readIpv4 rest).map (·.2)
    match address with
    | some rest => (i + 2, true, rest)
    | none =>
      match (passSeparator (i = 0) cs).bind readGroup with
      | some rest => readGroups limit left rest
      | none => (i, false, cs)

/-- Whether a text is an address. -/
def isIpv6 (s : String) : Bool :=
  match readGroups 8 8 s.toList with
  | (8, _, rest) => rest.isEmpty
  | (_, true, _) => false
  | (head, false, ':' :: ':' :: rest) =>
    let limit := 7 - head
    (readGroups limit limit rest).2.2.isEmpty
  | _ => false

end JsonSchema.Address
