import JsonSchema.Proofs.Meaning.Keywords
import JsonSchema.Validation.Report

/-!
# The checks that a schema makes

The checks of a schema on a value are read off its text in the order in which they are declared,
with no compilation and whether they pass or not. Keyword sets, `allOf`, properties, items,
references and conditions make the checks of the schemas inside them. All other keywords check
something themselves, and so does a `false` schema.
-/

namespace JsonSchema

open Compile Meaning

/-- A check that a schema makes of a value, and why the value fails it, if it does. -/
structure LeafCheck where
  /-- The way through the schemas, references included, to the check. -/
  keywordLocation : Pointer
  location : SchemaLocation
  instanceLocation : Pointer
  value : Value
  failure : Option Failure
  /-- What is reported below a failure. -/
  below : List Entry

namespace LeafCheck

/-- The entry of a check that fails, and the entries below it. -/
def reported (check : LeafCheck) : Option (Entry × List Entry) :=
  check.failure.map fun f =>
    (⟨check.keywordLocation, check.location, check.instanceLocation, ⟨f, check.value⟩⟩, check.below)

/-- All entries of a check that fails. -/
def entries (check : LeafCheck) : List Entry := check.reported.toList.flatMap fun p => p.1 :: p.2

end LeafCheck

/-- Where a schema is applied: its context and the way to it, and the value with its path. -/
structure Visit where
  context : Context
  way : Pointer
  value : Value
  path : Pointer

namespace Visit

/-- The schema under a key is applied to the same value. -/
def key (here : Visit) (name : String) : Visit :=
  { here with context := here.context.key name, way := here.way.key name }

/-- The schema at an index is applied to the same value. -/
def index (here : Visit) (i : Nat) : Visit :=
  { here with context := here.context.index i, way := here.way.index i }

/-- The same schema is applied to a child of the value. -/
def child (here : Visit) (token : String) (value : Value) : Visit :=
  { here with value := value, path := here.path.key token }

@[simp] theorem value_key (here : Visit) (name : String) : (here.key name).value = here.value := rfl

@[simp] theorem path_key (here : Visit) (name : String) : (here.key name).path = here.path := rfl

@[simp] theorem context_key (here : Visit) (name : String) :
    (here.key name).context = here.context.key name := rfl

@[simp] theorem value_index (here : Visit) (i : Nat) : (here.index i).value = here.value := rfl

@[simp] theorem path_index (here : Visit) (i : Nat) : (here.index i).path = here.path := rfl

@[simp] theorem context_index (here : Visit) (i : Nat) :
    (here.index i).context = here.context.index i := rfl

@[simp] theorem value_child (here : Visit) (token : String) (v : Value) :
    (here.child token v).value = v := rfl

@[simp] theorem path_child (here : Visit) (token : String) (v : Value) :
    (here.child token v).path = here.path.key token := rfl

@[simp] theorem context_child (here : Visit) (token : String) (v : Value) :
    (here.child token v).context = here.context := rfl

/-- A check that is made here. -/
def leaf (here : Visit) (failure : Option Failure) (below : List Entry) : LeafCheck :=
  ⟨here.way, here.context.location, here.path, here.value, failure, below⟩

@[simp] theorem reported_leaf (here : Visit) (failure : Option Failure) (below : List Entry) :
    (here.leaf failure below).reported = failure.map fun f =>
      (⟨here.way, here.context.location, here.path, ⟨f, here.value⟩⟩, below) := rfl

end Visit

/-- An object has no member under a name. -/
def Value.lacks (v : Value) (name : String) : Bool :=
  match v with
  | .object members => (members.lookup name).isNone
  | _ => false

section Keywords

variable (leaves : Visit → Value → List LeafCheck)

/-- The checks of schemas in an array that apply to the same value. -/
def branchLeaves (here : Visit) (schemas : List Value) : List LeafCheck :=
  schemas.zipIdx.flatMap fun p => leaves (here.index p.2) p.1

/-- What the last of some schemas reports. -/
def lastEntries (here : Visit) (schemas : List Value) : List Entry :=
  (schemas.zipIdx.getLast?.toList.flatMap fun p => leaves (here.index p.2) p.1).flatMap
    LeafCheck.entries

/-- The checks of the schemas of members that the value has. -/
def propertyLeaves (here : Visit) (schemas : List (String × Value)) : List LeafCheck :=
  schemas.flatMap fun m => (here.value.get? m.1).toList.flatMap fun child =>
    leaves ((here.key m.1).child m.1 child) m.2

/-- The checks of items: each by the schema for its position, or all by one. -/
def itemLeaves (here : Visit) (k : Value) : List LeafCheck :=
  match k, here.value with
  | .array schemas, .array items => (schemas.zip items).zipIdx.flatMap fun p =>
    leaves ((here.index p.2).child (toString p.2) p.1.2) p.1.1
  | schema, .array items => items.zipIdx.flatMap fun p =>
    leaves (here.child (toString p.2) p.1) schema
  | _, _ => []

/-- The indexes of the schemas that a value conforms to. -/
def conforming (judge : Value → Option Bool) (schemas : List Value) : List Nat :=
  (schemas.zipIdx.filter fun p => judge p.1 == some true).map Prod.snd

/-- The checks that a keyword among the members of a schema object makes. The branch of a condition
stands where the condition does. -/
def keywordLeaves (settings : Settings) (E : Surroundings)
    (judge : Url → Value → Value → Option Bool) (parent : Visit) (members : List (String × Value))
    (name : String) (k : Value) : List LeafCheck :=
  let here := parent.key name
  let base := parent.context.base
  let x := parent.value
  let check (failure : Failure) (below : List Entry) : List LeafCheck :=
    let holds := judgeKeyword E judge base members name k x == some true
    [here.leaf (if holds then none else some failure) below]
  match Keyword.ofName? name with
  | none | some .informative | some (.branch _) => []
  | some .ref => (k.string?.bind (E.target? base)).toList.flatMap fun t =>
    leaves { here with context := targetContext t } t.contents
  | some .required => ((readNames k).toOption.getD []).map fun property =>
    here.leaf (if x.lacks property then some (.required property) else none) []
  | some .properties => match k with
    | .object schemas => propertyLeaves leaves here schemas
    | _ => []
  | some .items => itemLeaves leaves here k
  | some .allOf => match k with
    | .array schemas => branchLeaves leaves here schemas
    | _ => []
  | some .anyOf => match k with
    | .array schemas => check .anyOf (lastEntries leaves here schemas)
    | _ => []
  | some .oneOf => match k with
    | .array schemas => match conforming (judge base · x) schemas with
      | [] => check .oneOfNone (lastEntries leaves here schemas)
      | matched => check (.oneOfSeveral matched) []
    | _ => []
  | some .not => check .not []
  | some .condition =>
    let branch := if judge base k x == some true then "then" else "else"
    (members.lookup branch).toList.flatMap (leaves (parent.key branch))
  | some .pattern => match k with
    | .string source => check (.pattern source) []
    | _ => []
  | some keyword => match readCheck settings keyword k with
    | .ok (some c) => check (c.failure x) []
    | _ => []

/-- A keyword that is a check makes this check. -/
theorem keywordLeaves_of_check {settings : Settings} {E : Surroundings}
    {judge : Url → Value → Value → Option Bool} {here : Visit} {members : List (String × Value)}
    {name : String} {k : Value} {keyword : Keyword} {check : Option Check}
    (h : Keyword.ofName? name = some keyword) (hk : keyword.isCheck = true)
    (hcheck : readCheck settings keyword k = .ok check) :
    keywordLeaves leaves settings E judge here members name k = check.toList.map fun c =>
      (here.key name).leaf (if judgeKeyword E judge here.context.base members name k here.value ==
        some true then none else some (c.failure here.value)) [] := by
  cases keyword with
  | type | enum | const | format | bound _ | multipleOf | length _ | itemCount _ =>
      cases check <;> simp [keywordLeaves, h, hcheck]
  | _ => simp [Keyword.isCheck] at hk

end Keywords

/-- The checks that a schema makes of a value, member by member and in the order of the members. -/
def leaves (settings : Settings) (E : Surroundings) : Nat → Visit → Value → List LeafCheck
  | 0, _, _ => []
  | fuel + 1, here, schema => match schema with
    | .bool b => [here.leaf (if b then none else some .falseSchema) []]
    | .object members => match here.context.inside members with
      | .ok inner => members.flatMap fun m =>
        keywordLeaves (leaves settings E fuel) settings E (judge E fuel)
          { here with context := inner } members m.1 m.2
      | .error _ => []
    | _ => []

namespace ErrorTree

mutual

/-- The failures of a tree that are not below others, each with those below it. -/
def outermost : ErrorTree → List (Entry × List Entry)
  | node l k i (some f) children => [(⟨k, l, i, f⟩, allEntries children)]
  | node _ _ _ none children => allOutermost children

/-- The outermost failures of some trees. -/
def allOutermost : List ErrorTree → List (Entry × List Entry)
  | [] => []
  | t :: rest => outermost t ++ allOutermost rest

end

theorem allOutermost_eq_flatMap (trees : List ErrorTree) :
    allOutermost trees = trees.flatMap outermost := by
  induction trees with
  | nil => rfl
  | cons t trees ih => rw [allOutermost, ih, List.flatMap_cons]

mutual

/-- The entries of a tree are its outermost ones, each followed by those below it. -/
theorem entries_eq_flatMap : ∀ t : ErrorTree,
    t.entries = t.outermost.flatMap fun p => p.1 :: p.2
  | .node l k i (some f) children => by
    simp [entries, outermost]
  | .node l k i none children => by
    rw [entries, outermost, allEntries_eq_flatMap children]

theorem allEntries_eq_flatMap : ∀ trees : List ErrorTree,
    allEntries trees = (allOutermost trees).flatMap fun p => p.1 :: p.2
  | [] => rfl
  | t :: rest => by
    rw [allEntries, allOutermost, List.flatMap_append, entries_eq_flatMap t,
      allEntries_eq_flatMap rest]

end

end ErrorTree

/-- Checks report all their entries in their order. -/
theorem flatMap_reported (checks : List LeafCheck) :
    (checks.filterMap LeafCheck.reported).flatMap (fun p => p.1 :: p.2) =
      checks.flatMap LeafCheck.entries := by
  induction checks with
  | nil => rfl
  | cons check checks ih =>
      cases h : check.reported with
      | none => simp [h, ih, LeafCheck.entries]
      | some p => simp [h, ih, LeafCheck.entries]

end JsonSchema
