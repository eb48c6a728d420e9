import JsonSchema.Validation.Explain

/-!
# Reports

A report lists what failed, or shows it as a tree. Both are read off one explanation, in the order
of the schema.
-/

namespace JsonSchema

/-- A failure with its places. -/
structure Entry where
  keywordLocation : Pointer
  location : SchemaLocation
  instanceLocation : Pointer
  finding : Finding

namespace ErrorTree

mutual

/-- The failures of a tree, each before those below it. -/
def entries : ErrorTree → List Entry
  | node l k i (some f) children => ⟨k, l, i, f⟩ :: allEntries children
  | node _ _ _ none children => allEntries children

/-- The failures of some trees. -/
def allEntries : List ErrorTree → List Entry
  | [] => []
  | t :: rest => entries t ++ allEntries rest

end

end ErrorTree

/-- The outcome of validation; there is a tree if the value failed. -/
structure Report where
  tree : Option ErrorTree

namespace Report

/-- The failures, in the order of the schema. -/
def entries (r : Report) : List Entry := (r.tree.map ErrorTree.entries).getD []

/-- Whether nothing failed. -/
def isEmpty (r : Report) : Bool := r.entries.isEmpty

/-- The failure that is blamed. -/
def first (r : Report) : Option Entry := r.entries.head?

end Report

/-- The failure in a given wording. -/
def Entry.message (e : Entry) (wording : Wording) : String :=
  wording e.finding.failure e.finding.value

/-- A failure on one line. -/
def Entry.line (e : Entry) : String :=
  let place := if e.instanceLocation.isRoot then "(root)" else e.instanceLocation.text
  "  " ++ place ++ ": " ++ e.message Failure.message

/-- The failures on one line each. -/
def Report.text (r : Report) : String := String.intercalate "\n" (r.entries.map Entry.line)

end JsonSchema
