import JsonSchema.Json.Reader
import JsonSchema.Yaml.Basic

/-!
# YAML as JSON

The part of YAML that JSON can express: tags are dropped, scalar keys become strings, and there is
no place for numbers that are not finite or for other keys. Two keys that become one string leave
the value of the later one in the place of the earlier one.
-/

namespace JsonSchema

/-- Why a YAML text has no JSON value. -/
inductive YamlError
  /-- The text is no YAML. -/
  | invalid
  /-- A number is not finite. -/
  | notFinite (x : NonFinite)
  /-- A key is no scalar, or is null or tagged. -/
  | unsupportedKey (key : Yaml)

/-- The wording of the error. -/
def YamlError.message (e : YamlError) : String :=
  "yaml conversion error: " ++ match e with
    | invalid => "invalid YAML: "
    | notFinite x => s!"cannot represent float {x.text} in JSON"
    | unsupportedKey key => "unsupported YAML map key type: " ++ key.described

namespace Yaml

/-- A key as a string. -/
def keyText : Yaml → Except YamlError String
  | string s => .ok s
  | number n => .ok (numberText n)
  | nonFinite x => .ok x.yamlText
  | bool b => .ok (toString b)
  | other => .error (.unsupportedKey other)

mutual

/-- The JSON value of a YAML value. -/
def toJson : Yaml → Except YamlError Value
  | null => .ok .null
  | bool b => .ok (.bool b)
  | number n => .ok (.number n)
  | nonFinite x => .error (.notFinite x)
  | string s => .ok (.string s)
  | sequence items => (itemsToJson items).map .array
  | mapping entries => (entriesToJson [] entries).map .object
  | tagged _ content => toJson content

/-- The JSON values of some YAML values. -/
def itemsToJson : List Yaml → Except YamlError (List Value)
  | [] => .ok []
  | x :: xs => do
    let v ← toJson x
    return v :: (← itemsToJson xs)

/-- The members that entries become, after those that are there already. -/
def entriesToJson (done : List (String × Value)) :
    List (Yaml × Yaml) → Except YamlError (List (String × Value))
  | [] => .ok done
  | (key, x) :: rest => do
    let k ← keyText key
    let v ← toJson x
    entriesToJson (Value.setMember k v done) rest

end

end Yaml
end JsonSchema
