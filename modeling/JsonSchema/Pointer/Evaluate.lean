import JsonSchema.Json.Value
import JsonSchema.Pointer.Basic
import JsonSchema.Text.Digits

/-!
# Following a pointer

A token selects the member of an object under it, or the element of an array if it is the index
written in the only way there is: decimal digits without a leading zero. There is no bound on the
digits, as an index that is too large for a word is beyond the end of every array.
-/

namespace JsonSchema

/-- The array index that a token writes. -/
def Pointer.indexOf? (token : String) : Option Nat :=
  let ds := token.toList
  if ds = [] ∨ (ds.head? = some '0' ∧ 1 < ds.length) ∨ ¬ds.all isDigit then none
  else some (digitsValue ds)

/-- The array index that a token writes where a plus sign and leading zeros are let pass. -/
def Pointer.laxIndexOf? (token : String) : Option Nat :=
  let ds := match token.toList with
    | '+' :: ds => ds
    | ds => ds
  if ds = [] ∨ ¬ds.all isDigit then none else some (digitsValue ds)

namespace Value

/-- The value one step down. -/
def child? (v : Value) (token : String) : Option Value :=
  match v with
  | .object members => members.lookup token
  | .array items => (Pointer.indexOf? token).bind (items[·]?)
  | _ => none

/-- The value one step down, with an index written in any of the lax ways. -/
def laxChild? (v : Value) (token : String) : Option Value :=
  match v with
  | .object members => members.lookup token
  | .array items => (Pointer.laxIndexOf? token).bind (items[·]?)
  | _ => none

/-- The value that a path of tokens leads to. -/
def follow? : Value → List String → Option Value
  | v, [] => some v
  | v, t :: ts => (v.child? t).bind (follow? · ts)

/-- The value at a pointer. -/
def at? (v : Value) (p : Pointer) : Option Value := v.follow? p.tokens

end Value
end JsonSchema
