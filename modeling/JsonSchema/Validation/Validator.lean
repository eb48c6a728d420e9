import JsonSchema.Schema.Compile
import JsonSchema.Text.Visible
import JsonSchema.Validation.Output

/-!
# Validators

Options say how a schema is built into a validator, which then answers for any number of values.
A registry may be shared by several validators.
-/

namespace JsonSchema

/-- A compiled schema. -/
structure Validator where
  document : Url
  slots : List Node

namespace Validator

/-- The root schema. -/
def root (v : Validator) : Node := v.slots.headD default

/-- Whether a value conforms. -/
def isValid (v : Validator) (x : Value) : Bool :=
  v.root.accepts v.slots (v.root.steps v.slots x) x

/-- Passes a value that conforms, and says what is wrong with any other. -/
def validate (v : Validator) (x : Value) : Except Report Unit :=
  if v.isValid x then .ok ()
  else .error ⟨some (v.root.explain v.slots (v.root.steps v.slots x) x .root)⟩

/-- What is wrong with a value; there is no tree if it conforms. -/
def report (v : Validator) (x : Value) : Report :=
  match v.validate x with
  | .ok () => ⟨none⟩
  | .error r => r

end Validator

/-- How schemas are built into validators. -/
structure Options where
  /-- The base of a schema without an absolute `$id`. It has no fragment. -/
  baseUri : Option Url := none
  baseUri_bare : ∀ uri ∈ baseUri, uri.withoutFragment = uri := by nofun
  /-- Where documents are had from; not asked if a registry is shared. -/
  store : Option Store := none
  /-- Documents that are put into the registry first. -/
  documents : List (Url × Value) := []
  /-- Formats beside the built-in ones. -/
  formats : List Format := []
  validateFormats : Bool := true
  /-- Whether unknown keywords are refused. -/
  strict : Bool := false

namespace Options

/-- With another base; its fragment does not count. -/
def withBaseUri (o : Options) (uri : Url) : Options :=
  { o with
    baseUri := some uri.withoutFragment
    baseUri_bare := by rintro _ ⟨⟩; exact uri.withoutFragment_withoutFragment }

/-- With another document in front. -/
def withDocument (o : Options) (uri : Url) (contents : Value) : Options :=
  { o with documents := o.documents ++ [(uri, contents)] }

/-- With a format, in place of one of the same name. -/
def withFormat (o : Options) (f : Format) : Options :=
  { o with formats := o.formats.filter (·.name != f.name) ++ [f] }

/-- The options on one line. -/
def summary (o : Options) : String :=
  let base := match o.baseUri with
    | some uri => "Some(" ++ uri.text ++ ")"
    | none => "None"
  let names := (o.formats.map Format.name).mergeSort fun a b => decide (a ≤ b)
  let formats := "[" ++ String.intercalate ", " (names.map visible) ++ "]"
  s!"ValidationOptions \x7b base_uri: {base}, has_retriever: {o.store.isSome}, registry: None, " ++
    s!"documents: {o.documents.length}, formats: {formats}, " ++
    s!"validate_formats: {o.validateFormats}, strict: {o.strict} \x7d"

/-- What compilation needs of the options. -/
def settings (o : Options) (retriever : Retriever) : Compile.Settings :=
  { retriever, formats := o.formats, validateFormats := o.validateFormats, strict := o.strict }

/-- Puts documents into a registry, up to the first that is malformed. -/
def insertAll (r : Registry) : List (Url × Value) → Except ResolutionError Unit × Registry
  | [] => (.ok (), r)
  | (uri, contents) :: rest => match r.insert uri contents with
    | (.ok _, r) => insertAll r rest
    | (.error e, r) => (.error e, r)

/-- The URL of a schema: its `$id`, or else the base. -/
def documentUri (base : Url) (schema : Value) : Except ResolutionError Url :=
  match schema.get? "$id" with
  | some (.string id) => (Declarations.joinId base id).map Url.withoutFragment
  | _ => .ok base

/-- How many steps compilation takes at most: each position of the documents that can be reached
is compiled at most once. -/
def compileSteps (store : Store) (r : Registry) (schema : Value) : Nat :=
  let known := r.documents.foldl (fun n d => n + d.contents.positions) schema.positions
  let positions := store.documents.foldl (fun n d => n + d.2.positions) known
  8 * (positions + 2) * (positions + 2)

/-- Compiles the schema of a document that is in a registry, in so many steps. -/
def compileRoot (settings : Compile.Settings) (steps : Nat) (uri base : Url) (schema : Value)
    (r : Registry) : Except CompileError Validator × Registry :=
  let (result, s) := (Compile.compileTarget settings steps ⟨uri, .root, base, schema⟩).run ⟨r, []⟩
  match result with
  | .error e => (.error e, s.registry)
  | .ok _ => match s.slots.mapM Compile.Slot.node with
    | none => (.error (Compile.missingTarget uri), s.registry)
    | some slots => match Cycle.find? slots with
      | some l => (.error (.schema (.invalidKeyword l "$ref" .idleCycle)), s.registry)
      | none => (.ok ⟨uri, slots⟩, s.registry)

/-- Builds a validator in a registry that asks a retriever for documents. What the registry learns
stays in it, also if the schema turns out to be malformed. A retriever may lead on for ever, so the
steps of compilation are given, and may depend on the registry in which it begins. -/
def buildWith (o : Options) (retriever : Retriever) (steps : Registry → Nat) (r : Registry)
    (schema : Value) : Except CompileError Validator × Registry :=
  match insertAll r o.documents with
  | (.error e, r) => (.error (.resolution e), r)
  | (.ok (), r) =>
    let base := o.baseUri.getD Url.ownBase
    match documentUri base schema with
    | .error e => (.error (.resolution e), r)
    | .ok uri => match r.insertAt uri base schema with
      | (.error e, r) => (.error (.resolution e), r)
      | (.ok root, r) =>
        if root.contents.identical schema then
          compileRoot (o.settings retriever) (steps r) uri base schema r
        else (.error (.resolution (.conflict uri)), r)

/-- Builds a validator in a registry that asks a store for documents, in as many steps as suffice
for all of them. -/
def buildIn (o : Options) (store : Store) (r : Registry) (schema : Value) :
    Except CompileError Validator × Registry :=
  o.buildWith store (compileSteps store · schema) r schema

/-- Builds a validator with a registry of its own. -/
def build (o : Options) (schema : Value) : Except CompileError Validator × Registry :=
  o.buildIn (o.store.getD {}) {} schema

end Options

/-- Whether a value conforms to a schema, with default options. -/
def isValid (schema v : Value) : Except CompileError Bool :=
  (Options.build {} schema).1.map (·.isValid v)

end JsonSchema
