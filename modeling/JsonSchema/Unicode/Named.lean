import JsonSchema.Unicode.Age
import JsonSchema.Unicode.Blank
import JsonSchema.Unicode.GeneralCategory
import JsonSchema.Unicode.Property
import JsonSchema.Unicode.Script
import JsonSchema.Unicode.ScriptExtensions
import JsonSchema.Unicode.Segmentation

/-!
# Sets of code points by name

Properties and their values are looked up under loosely matched names: case, spaces, hyphens,
underscores and a leading `is` do not count. A bare name is a yes-or-no property, a general
category or a script, in this order.
-/

namespace JsonSchema.Unicode

/-- A name without what does not count in it. -/
def normalizeName (name : String) : String :=
  let cs := name.toList
  let (hasIs, body) := match cs with
    | a :: b :: rest =>
      if (a = 'i' ∨ a = 'I') ∧ (b = 's' ∨ b = 'S') then (true, rest) else (false, cs)
    | _ => (false, cs)
  let kept := (body.filter fun c =>
    c ≠ ' ' && c ≠ '_' && c ≠ '-' && c.toNat < 0x80).map Char.toLower
  if hasIs ∧ kept = ['c'] then "isc" else String.ofList kept

/-- The runs in a table under one of the names of an entry. -/
def lookup? (table : List (String × String)) (name : String) : Option CodeSet :=
  (table.find? fun entry => (entry.1.splitOn " ").contains name).map fun entry =>
    CodeSet.ofRuns entry.2

/-- The abbreviations of the general categories and of their groups, with their other names. -/
def categoryNames : List (String × String) := [
  ("lu", "Lu"), ("uppercaseletter", "Lu"), ("ll", "Ll"), ("lowercaseletter", "Ll"),
  ("lt", "Lt"), ("titlecaseletter", "Lt"), ("lc", "LC"), ("casedletter", "LC"),
  ("lm", "Lm"), ("modifierletter", "Lm"), ("lo", "Lo"), ("otherletter", "Lo"),
  ("l", "L"), ("letter", "L"),
  ("mn", "Mn"), ("nonspacingmark", "Mn"), ("mc", "Mc"), ("spacingmark", "Mc"),
  ("me", "Me"), ("enclosingmark", "Me"), ("m", "M"), ("mark", "M"), ("combiningmark", "M"),
  ("nd", "Nd"), ("decimalnumber", "Nd"), ("digit", "Nd"), ("nl", "Nl"), ("letternumber", "Nl"),
  ("no", "No"), ("othernumber", "No"), ("n", "N"), ("number", "N"),
  ("pc", "Pc"), ("connectorpunctuation", "Pc"), ("pd", "Pd"), ("dashpunctuation", "Pd"),
  ("ps", "Ps"), ("openpunctuation", "Ps"), ("pe", "Pe"), ("closepunctuation", "Pe"),
  ("pi", "Pi"), ("initialpunctuation", "Pi"), ("pf", "Pf"), ("finalpunctuation", "Pf"),
  ("po", "Po"), ("otherpunctuation", "Po"), ("p", "P"), ("punctuation", "P"), ("punct", "P"),
  ("sm", "Sm"), ("mathsymbol", "Sm"), ("sc", "Sc"), ("currencysymbol", "Sc"),
  ("sk", "Sk"), ("modifiersymbol", "Sk"), ("so", "So"), ("othersymbol", "So"),
  ("s", "S"), ("symbol", "S"),
  ("zs", "Zs"), ("spaceseparator", "Zs"), ("zl", "Zl"), ("lineseparator", "Zl"),
  ("zp", "Zp"), ("paragraphseparator", "Zp"), ("z", "Z"), ("separator", "Z"),
  ("cc", "Cc"), ("control", "Cc"), ("cntrl", "Cc"), ("cf", "Cf"), ("format", "Cf"),
  ("co", "Co"), ("privateuse", "Co"), ("cn", "Cn"), ("unassigned", "Cn"),
  ("c", "C"), ("other", "C")]

/-- The code points of a category, or of all categories of a group. -/
def category (abbreviation : String) : CodeSet :=
  let member (name : String) : Bool := match abbreviation with
    | "LC" => name = "Lu" || name = "Ll" || name = "Lt"
    | _ => name = abbreviation || String.ofList (name.toList.take 1) = abbreviation
  let listed := (generalCategories.filter fun entry => member entry.1).map fun entry =>
    CodeSet.ofRuns entry.2
  CodeSet.unions (if member "Nd" then decimalNumber :: listed else listed)

/-- The set of a general category by name. -/
def categoryNamed? (name : String) : Option CodeSet :=
  match name with
  | "any" => some CodeSet.all
  | "assigned" => some (category "Cn").complement
  | "ascii" => some (CodeSet.range 0 0x7F)
  | _ => (categoryNames.lookup name).map category

/-- The set of a yes-or-no property by name. -/
def propertyNamed? (name : String) : Option CodeSet :=
  if name = "whitespace" ∨ name = "wspace" ∨ name = "space" then some whiteSpace
  else lookup? properties name

/-- The set that a bare name stands for. The short names of three properties that are no sets are
left to the general categories. -/
def named? (name : String) : Option CodeSet :=
  let n := normalizeName name
  let property := if n = "cf" ∨ n = "sc" ∨ n = "lc" then none else propertyNamed? n
  property <|> categoryNamed? n <|> lookup? scripts n

/-- The script with what its extension adds and takes away. -/
def scriptExtension? (name : String) : Option CodeSet := do
  let entry ← scripts.find? fun entry => (entry.1.splitOn " ").contains name
  let base := CodeSet.ofRuns entry.2
  let key := (entry.1.splitOn " ").headD ""
  match scriptExtensions.find? fun e => e.1 = key with
  | some (_, added, removed) => some ((base.union (.ofRuns added)).diff (.ofRuns removed))
  | none => some base

/-- All code points assigned up to a version. -/
def assignedBy? (version : String) : Option CodeSet := do
  let i ← ages.findIdx? fun entry => (entry.1.splitOn " ").contains version
  some (CodeSet.unions ((ages.take (i + 1)).map fun entry => .ofRuns entry.2))

/-- The set of the code points whose property has a value. -/
def valued? (property value : String) : Option CodeSet :=
  let v := normalizeName value
  match normalizeName property with
  | "gc" | "generalcategory" => categoryNamed? v
  | "sc" | "script" => lookup? scripts v
  | "scx" | "scriptextensions" => scriptExtension? v
  | "age" => assignedBy? v
  | "gcb" | "graphemeclusterbreak" => lookup? graphemeBreaks v
  | "wb" | "wordbreak" => lookup? wordBreaks v
  | "sb" | "sentencebreak" => lookup? sentenceBreaks v
  | _ => none

/-- The characters of words: letters, marks, decimal digits, connectors and joiners. -/
def wordCharacters : CodeSet :=
  CodeSet.unions [(propertyNamed? "alphabetic").getD .empty, category "M", decimalNumber,
    category "Pc", (propertyNamed? "joincontrol").getD .empty]

end JsonSchema.Unicode
