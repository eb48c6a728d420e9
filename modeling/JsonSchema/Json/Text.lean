import JsonSchema.Decimal.Layout
import JsonSchema.Json.Value

/-!
# Compact JSON text

The text of a value without blanks. A string escapes the quote, the backslash and the characters
below U+0020, those with a short escape by it; everything else stands for itself.
-/

namespace JsonSchema

/-- The lower-case hexadecimal digit of a value below sixteen. -/
def hexDigit (n : Nat) : Char := Nat.digitChar n

/-- A character inside a string literal. -/
def escapeChar (c : Char) : List Char :=
  match c with
  | '"' => ['\\', '"']
  | '\\' => ['\\', '\\']
  | '\x08' => ['\\', 'b']
  | '\x0c' => ['\\', 'f']
  | '\n' => ['\\', 'n']
  | '\r' => ['\\', 'r']
  | '\t' => ['\\', 't']
  | c => if c.toNat < 0x20 then
      ['\\', 'u', '0', '0', hexDigit (c.toNat / 16), hexDigit (c.toNat % 16)]
    else [c]

/-- A string literal. -/
def quoted (s : String) : String :=
  String.ofList ('"' :: s.toList.flatMap escapeChar ++ ['"'])

/-- The text of a number. -/
def Number.text : Number → String
  | .integer n _ => toString n
  | .float x => Decimal.Layout.json.text x

namespace Value

mutual

/-- The compact text of a value. -/
def text : Value → String
  | .null => "null"
  | .bool true => "true"
  | .bool false => "false"
  | .number n => n.text
  | .string s => quoted s
  | .array items => "[" ++ String.intercalate "," (itemTexts items) ++ "]"
  | .object members => "\x7b" ++ String.intercalate "," (memberTexts members) ++ "\x7d"

/-- The texts of the items of an array. -/
def itemTexts : List Value → List String
  | [] => []
  | x :: xs => text x :: itemTexts xs

/-- The texts of the members of an object. -/
def memberTexts : List (String × Value) → List String
  | [] => []
  | (key, x) :: xs => (quoted key ++ ":" ++ text x) :: memberTexts xs

end

end Value
end JsonSchema
