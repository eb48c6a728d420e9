import JsonSchema.Json.Value
import JsonSchema.Text.Digits

/-!
# Reading JSON text

A text is read into a value whose members stand in the order they were written and whose numbers
keep their form. A key that is written twice keeps its first place and its last value.
-/

namespace JsonSchema

namespace Value

/-- Sets the member under a key: in its place if it is there, else at the end. -/
def setMember (key : String) (v : Value) : List (String × Value) → List (String × Value)
  | [] => [(key, v)]
  | (k, w) :: rest => if k = key then (k, v) :: rest else (k, w) :: setMember key v rest

/-! ## Scalars -/

/-- Passes the blanks between tokens. -/
def skipBlanks : List Char → List Char
  | c :: rest => if c = ' ' ∨ c = '\n' ∨ c = '\r' ∨ c = '\t' then skipBlanks rest else c :: rest
  | [] => []

/-- The character of a short escape. -/
def shortEscape? : Char → Option Char
  | '"' => some '"'
  | '\\' => some '\\'
  | '/' => some '/'
  | 'b' => some '\x08'
  | 'f' => some '\x0c'
  | 'n' => some '\n'
  | 'r' => some '\r'
  | 't' => some '\t'
  | _ => none

/-- Adds a code unit to what was read of a string, last character first, and to the first half of
a surrogate pair if one is waiting for the second. -/
def addUnit (done : List Char) (high : Option Nat) (unit : Nat) :
    Option (List Char × Option Nat) :=
  match high with
  | some h =>
    if 0xDC00 ≤ unit ∧ unit < 0xE000 then
      some (Char.ofNat (0x10000 + (h - 0xD800) * 0x400 + (unit - 0xDC00)) :: done, none)
    else none
  | none =>
    if 0xD800 ≤ unit ∧ unit < 0xDC00 then some (done, some unit)
    else if 0xDC00 ≤ unit ∧ unit < 0xE000 then none
    else some (Char.ofNat unit :: done, none)

/-- Reads a string behind its first quote, given what was read of it. -/
def readString (done : List Char) (high : Option Nat) : List Char → Option (String × List Char)
  | [] => none
  | '\\' :: 'u' :: a :: b :: c :: d :: rest =>
    match (hexNumber? [a, b, c, d]).bind (addUnit done high) with
    | some (done, high) => readString done high rest
    | none => none
  | '\\' :: c :: rest =>
    match high, shortEscape? c with
    | none, some d => readString (d :: done) none rest
    | _, _ => none
  | c :: rest =>
    if high.isSome ∨ c.toNat < 0x20 ∨ c = '\\' then none
    else if c = '"' then some (String.ofList done.reverse, rest)
    else readString (c :: done) none rest

/-- Reads the exponent of a number, if there is one. -/
def readExponent (cs : List Char) : Option (Option Int × List Char) :=
  match cs with
  | c :: rest =>
    if c = 'e' ∨ c = 'E' then
      let (negative, rest) := match rest with
        | '-' :: rest => (true, rest)
        | '+' :: rest => (false, rest)
        | rest => (false, rest)
      let ds := digitsOf rest
      let n : Int := digitsValue ds
      if ds.isEmpty then none else some (some (if negative then -n else n), rest.drop ds.length)
    else some (none, cs)
  | [] => some (none, [])

/-- Reads a number. -/
def readNumber (cs : List Char) : Option (Number × List Char) := do
  let (negative, cs) := match cs with
    | '-' :: rest => (true, rest)
    | _ => (false, cs)
  let whole := digitsOf cs
  if whole.isEmpty ∨ (1 < whole.length ∧ whole.head? = some '0') then none
  let cs := cs.drop whole.length
  let (fraction, cs) ← match cs with
    | '.' :: rest =>
      let ds := digitsOf rest
      if ds.isEmpty then none else some (ds, rest.drop ds.length)
    | _ => some ([], cs)
  let (exponent, cs) ← readExponent cs
  let n ← Number.ofLiteral negative (digitsValue (whole ++ fraction))
    (exponent.getD 0 - fraction.length) (fraction.isEmpty && exponent.isNone)
  return (n, cs)

/-! ## Values -/

mutual

/-- Reads a value. -/
def readValue : Nat → List Char → Option (Value × List Char)
  | 0, _ => none
  | fuel + 1, cs => match skipBlanks cs with
    | '"' :: rest => (readString [] none rest).map fun (s, rest) => (.string s, rest)
    | '[' :: rest => match skipBlanks rest with
      | ']' :: rest => some (.array [], rest)
      | rest => readItems fuel [] rest
    | '\x7b' :: rest => match skipBlanks rest with
      | '\x7d' :: rest => some (.object [], rest)
      | rest => readMembers fuel [] rest
    | 'n' :: 'u' :: 'l' :: 'l' :: rest => some (.null, rest)
    | 't' :: 'r' :: 'u' :: 'e' :: rest => some (.bool true, rest)
    | 'f' :: 'a' :: 'l' :: 's' :: 'e' :: rest => some (.bool false, rest)
    | rest => (readNumber rest).map fun (n, rest) => (.number n, rest)

/-- Reads the items of an array, given those before, last first. -/
def readItems : Nat → List Value → List Char → Option (Value × List Char)
  | 0, _, _ => none
  | fuel + 1, done, cs => match readValue fuel cs with
    | none => none
    | some (v, rest) => match skipBlanks rest with
      | ',' :: rest => readItems fuel (v :: done) rest
      | ']' :: rest => some (.array (v :: done).reverse, rest)
      | _ => none

/-- Reads the members of an object, given those before. -/
def readMembers : Nat → List (String × Value) → List Char → Option (Value × List Char)
  | 0, _, _ => none
  | fuel + 1, done, cs => match skipBlanks cs with
    | '"' :: rest => match readString [] none rest with
      | none => none
      | some (key, rest) => match skipBlanks rest with
        | ':' :: rest => match readValue fuel rest with
          | none => none
          | some (v, rest) => match skipBlanks rest with
            | ',' :: rest => readMembers fuel (setMember key v done) rest
            | '\x7d' :: rest => some (.object (setMember key v done), rest)
            | _ => none
        | _ => none
    | _ => none

end

/-- The value with a given text. -/
def ofText? (s : String) : Option Value :=
  let cs := s.toList
  match readValue (cs.length + 1) cs with
  | some (v, rest) => if (skipBlanks rest).isEmpty then some v else none
  | none => none

end Value
end JsonSchema
