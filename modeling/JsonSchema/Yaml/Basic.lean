import JsonSchema.Decimal.Layout
import JsonSchema.Json.Number
import JsonSchema.Text.Visible

/-!
# YAML values

Beside what JSON knows there are numbers that are not finite, mappings with keys of any kind, and
tags. Entries of a mapping stand in the order they were written; equality does not depend on it.
-/

namespace JsonSchema

/-- A number that is not finite. -/
inductive NonFinite
  | infinity (negative : Bool)
  | nan
  deriving DecidableEq, Repr

namespace NonFinite

/-- The number in running text. -/
def text : NonFinite → String
  | infinity negative => if negative then "-inf" else "inf"
  | nan => "NaN"

/-- The number in YAML. -/
def yamlText : NonFinite → String
  | infinity negative => if negative then "-.inf" else ".inf"
  | nan => ".nan"

end NonFinite

/-- A YAML value. -/
inductive Yaml
  | null
  | bool (b : Bool)
  | number (n : Number)
  | nonFinite (x : NonFinite)
  | string (s : String)
  | sequence (items : List Yaml)
  | mapping (entries : List (Yaml × Yaml))
  | tagged (tag : String) (content : Yaml)

namespace Yaml

instance : Inhabited Yaml := ⟨.null⟩

/-- A tag without the exclamation mark in front of it. -/
def bareTag (tag : String) : String :=
  match tag.toList with
  | '!' :: c :: rest => String.ofList (c :: rest)
  | _ => tag

mutual

/-- Whether two values are the same. Numbers have to be kept in the same form. -/
def same : Yaml → Yaml → Bool
  | null, null => true
  | bool a, bool b => a == b
  | number a, number b => a.identical b
  | nonFinite a, nonFinite b => a == b
  | string a, string b => a == b
  | sequence xs, sequence ys => sameItems xs ys
  | mapping xs, mapping ys => xs.length == ys.length && sameEntries xs ys
  | tagged t a, tagged u b => bareTag t == bareTag u && same a b
  | _, _ => false

/-- Whether two lists are the same, item by item. -/
def sameItems : List Yaml → List Yaml → Bool
  | [], [] => true
  | x :: xs, y :: ys => same x y && sameItems xs ys
  | _, _ => false

/-- Whether the first entry under each key of the first list has the same value in the second. -/
def sameEntries : List (Yaml × Yaml) → List (Yaml × Yaml) → Bool
  | [], _ => true
  | (k, v) :: rest, ys =>
    (match ys.find? fun entry => same k entry.1 with
      | some (_, w) => same v w
      | none => false) && sameEntries rest ys

end

/-- Whether a mapping has a key. -/
def hasKey (entries : List (Yaml × Yaml)) (key : Yaml) : Bool := entries.any fun e => same e.1 key

/-- Sets the value under a key: in its place if it is there, else at the end. -/
def setEntry (key value : Yaml) : List (Yaml × Yaml) → List (Yaml × Yaml)
  | [] => [(key, value)]
  | (k, v) :: rest => if same k key then (k, value) :: rest else (k, v) :: setEntry key value rest

/-- The text of a number as a key. -/
def numberText : Number → String
  | .integer n _ => toString n
  | .float x => Decimal.Layout.yaml.text x

mutual

/-- A value with its kind, for messages. -/
def described : Yaml → String
  | null => "Null"
  | bool b => "Bool(" ++ toString b ++ ")"
  | number n => "Number(" ++ numberText n ++ ")"
  | nonFinite x => "Number(" ++ x.yamlText ++ ")"
  | string s => "String(" ++ visible s ++ ")"
  | sequence items => "Sequence [" ++ String.intercalate ", " (describedItems items) ++ "]"
  | mapping entries =>
    "Mapping \x7b" ++ String.intercalate ", " (describedEntries entries) ++ "\x7d"
  | tagged tag content =>
    "TaggedValue \x7b tag: !" ++ bareTag tag ++ ", value: " ++ described content ++ " \x7d"

/-- The items of a sequence, for messages. -/
def describedItems : List Yaml → List String
  | [] => []
  | x :: xs => described x :: describedItems xs

/-- The entries of a mapping, for messages; scalar keys stand alone. -/
def describedEntries : List (Yaml × Yaml) → List String
  | [] => []
  | (key, value) :: rest =>
    let k := match key with
      | bool b => toString b
      | number n => numberText n
      | nonFinite x => x.yamlText
      | string s => visible s
      | other => described other
    (k ++ ": " ++ described value) :: describedEntries rest

end

end Yaml
end JsonSchema
