import JsonSchema.Validation.Report

/-!
# Output of reports

The two standard shapes: a flat list of failures, and the tree they were found in.
-/

namespace JsonSchema

/-- A failure in the flat output. -/
structure BasicUnit where
  keywordLocation : Pointer
  absoluteKeywordLocation : String
  instanceLocation : Pointer
  error : String
  failure : Failure

/-- The flat output. -/
structure BasicOutput where
  valid : Bool
  errors : List BasicUnit

/-- A node of the tree in the nested output. -/
inductive DetailedUnit
  | node (keywordLocation : Pointer) (absoluteKeywordLocation : String) (instanceLocation : Pointer)
      (error : Option (String × Failure)) (errors : List DetailedUnit)

/-- The nested output. -/
structure DetailedOutput where
  valid : Bool
  errors : List DetailedUnit

/-- A failure in the flat output. -/
def Entry.unit (wording : Wording) (e : Entry) : BasicUnit where
  keywordLocation := e.keywordLocation
  absoluteKeywordLocation := e.location.absolute
  instanceLocation := e.instanceLocation
  error := e.message wording
  failure := e.finding.failure

namespace ErrorTree

mutual

/-- A tree in the nested output. -/
def unit (wording : Wording) : ErrorTree → DetailedUnit
  | node l k i f children =>
    .node k l.absolute i (f.map fun f => (wording f.failure f.value, f.failure))
      (units wording children)

/-- Some trees in the nested output. -/
def units (wording : Wording) : List ErrorTree → List DetailedUnit
  | [] => []
  | t :: rest => unit wording t :: units wording rest

end

end ErrorTree

namespace Report

/-- The flat output of a report. -/
def basic (r : Report) (wording : Wording) : BasicOutput :=
  ⟨r.isEmpty, r.entries.map (Entry.unit wording)⟩

/-- The nested output of a report. -/
def detailed (r : Report) (wording : Wording) : DetailedOutput :=
  ⟨r.isEmpty, (r.tree.map (ErrorTree.unit wording)).toList⟩

end Report

/-! ## As values -/

/-- The members that all units have. -/
def locationMembers (keywordLocation : Pointer) (absolute : String) (instanceLocation : Pointer) :
    List (String × Value) :=
  [("keywordLocation", .string keywordLocation.text), ("absoluteKeywordLocation", .string absolute),
    ("instanceLocation", .string instanceLocation.text)]

/-- A member that is left out of an object if its array is empty. -/
def errorsMember (errors : List Value) : List (String × Value) :=
  if errors.isEmpty then [] else [("errors", .array errors)]

/-- A unit as a value. -/
def BasicUnit.value (u : BasicUnit) : Value :=
  .object (locationMembers u.keywordLocation u.absoluteKeywordLocation u.instanceLocation ++
    ("error", .string u.error) :: u.failure.members)

/-- The flat output as a value. -/
def BasicOutput.value (o : BasicOutput) : Value :=
  .object (("valid", .bool o.valid) :: errorsMember (o.errors.map BasicUnit.value))

namespace DetailedUnit

mutual

/-- A unit as a value. -/
def value : DetailedUnit → Value
  | node k a i error errors =>
    let own := match error with
      | some (message, failure) => ("error", .string message) :: failure.members
      | none => []
    .object (locationMembers k a i ++ own ++ errorsMember (values errors))

/-- Some units as values. -/
def values : List DetailedUnit → List Value
  | [] => []
  | u :: rest => value u :: values rest

end

end DetailedUnit

/-- The nested output as a value. -/
def DetailedOutput.value (o : DetailedOutput) : Value :=
  .object (("valid", .bool o.valid) :: errorsMember (DetailedUnit.values o.errors))

end JsonSchema
