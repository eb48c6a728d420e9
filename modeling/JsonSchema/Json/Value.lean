import JsonSchema.Json.Number

/-!
# JSON values

Objects keep their members in the order they were written, because that order shows in reports.
Equality of values never depends on it.
-/

namespace JsonSchema

/-- A JSON value. -/
inductive Value
  | null
  | bool (b : Bool)
  | number (n : Number)
  | string (s : String)
  | array (items : List Value)
  | object (members : List (String × Value))

namespace Value

instance : Inhabited Value := ⟨.null⟩

/-- The member of an object under a key. -/
def get? : Value → String → Option Value
  | .object members, key => members.lookup key
  | _, _ => none

/-- The text of a string. -/
def string? : Value → Option String
  | .string s => some s
  | _ => none

mutual

/-- Equality up to the order of object members, with the given comparison of numbers. Objects have
equally many members, and each member of the first has its counterpart in the second. -/
def agree (same : Number → Number → Bool) : Value → Value → Bool
  | .null, .null => true
  | .bool a, .bool b => a == b
  | .number a, .number b => same a b
  | .string a, .string b => a == b
  | .array xs, .array ys => agreeItems same xs ys
  | .object xs, .object ys => xs.length == ys.length && agreeMembers same xs ys
  | _, _ => false

/-- Arrays agree item by item. -/
def agreeItems (same : Number → Number → Bool) : List Value → List Value → Bool
  | [], [] => true
  | x :: xs, y :: ys => agree same x y && agreeItems same xs ys
  | _, _ => false

/-- Each member agrees with the one under its key. -/
def agreeMembers (same : Number → Number → Bool) :
    List (String × Value) → List (String × Value) → Bool
  | [], _ => true
  | (key, x) :: xs, ys =>
    (match ys.lookup key with
      | some y => agree same x y
      | none => false) && agreeMembers same xs ys

end

/-- The same value, numbers kept in the same form. -/
def identical : Value → Value → Bool := agree Number.identical

/-- The same value for `enum` and `const`: `1` and `1.0` are one number. -/
def equivalent : Value → Value → Bool := agree Number.equivalent

mutual

/-- No object in the value has a key twice. -/
def WellFormed : Value → Prop
  | .array items => WellFormedItems items
  | .object members => (members.map Prod.fst).Nodup ∧ WellFormedMembers members
  | _ => True

/-- Every item is well formed. -/
def WellFormedItems : List Value → Prop
  | [] => True
  | x :: xs => WellFormed x ∧ WellFormedItems xs

/-- Every member is well formed. -/
def WellFormedMembers : List (String × Value) → Prop
  | [] => True
  | (_, x) :: xs => WellFormed x ∧ WellFormedMembers xs

end

mutual

/-- The number of positions in a value, the value itself among them. -/
def positions : Value → Nat
  | .array items => 1 + itemPositions items
  | .object members => 1 + memberPositions members
  | _ => 1

/-- The positions in the items of an array. -/
def itemPositions : List Value → Nat
  | [] => 0
  | x :: xs => positions x + itemPositions xs

/-- The positions in the members of an object. -/
def memberPositions : List (String × Value) → Nat
  | [] => 0
  | (_, x) :: xs => positions x + memberPositions xs

end

end Value
end JsonSchema
