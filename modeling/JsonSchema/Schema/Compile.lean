import JsonSchema.Format.Builtin
import JsonSchema.Registry.Reference
import JsonSchema.Schema.Cycle
import JsonSchema.Schema.Error

/-!
# Compiling schemas

A schema is compiled keyword by keyword, in the order they are written. The target of a reference
is compiled into a slot of its own, which is taken before its contents are compiled, so that a
reference back to it finds the slot. What a registry learns on the way stays in it, also when the
schema turns out to be malformed.
-/

namespace JsonSchema

namespace Compile

/-- What compilation needs to know. -/
structure Settings where
  retriever : Retriever := {}
  formats : List Format := []
  validateFormats : Bool := true
  strict : Bool := false

/-- A slot that was taken for a schema, and the schema once it is compiled. -/
structure Slot where
  place : Place
  node : Option Node

/-- What compilation works on. -/
structure State where
  registry : Registry
  slots : List Slot := []

/-- Steps of compilation. -/
abbrev Compilation := ExceptT CompileError (StateM State)

/-- Where compilation is, and the base of references there. -/
structure Context where
  place : Place
  base : Url

namespace Context

/-- The place as a location. -/
def location (c : Context) : SchemaLocation := ⟨c.place.document, c.place.pointer⟩

/-- The context of a member. -/
def key (c : Context) (k : String) : Context :=
  { c with place := { c.place with pointer := c.place.pointer.key k } }

/-- The context of an item. -/
def index (c : Context) (i : Nat) : Context :=
  { c with place := { c.place with pointer := c.place.pointer.index i } }

/-- The error of a keyword that does not take its value. -/
def invalid (c : Context) (keyword : String) (fault : KeywordFault) : CompileError :=
  .schema (.invalidKeyword c.location keyword fault)

/-- The context inside a schema object: its `$id` sets the base. -/
def inside (c : Context) (members : List (String × Value)) : Except CompileError Context :=
  match members.lookup "$id" with
  | none => .ok c
  | some (.string id) =>
    if Declarations.isFragmentOnly id then .ok c
    else match c.base.join id with
      | .ok url => .ok { c with base := url.withoutFragment }
      | .error e => .error ((c.key "$id").invalid "$id" (.unresolvable id e))
  | some _ => .error ((c.key "$id").invalid "$id" .notString)

end Context

/-! ## Keywords without schemas -/

/-- The type with a name. -/
def readTypeName : Value → Except KeywordFault TypeName
  | .string name => match TypeName.ofText? name with
    | some t => .ok t
    | none => .error (.unknownType name)
  | _ => .error .notTypeName

/-- The types of the `type` keyword. -/
def readTypes : Value → Except KeywordFault (List TypeName)
  | .string name => (readTypeName (.string name)).map ([·])
  | .array (name :: names) => (name :: names).mapM readTypeName
  | _ => .error .notTypeNames

/-- The number of a bound. -/
def readNumber : Value → Except KeywordFault Number
  | .number n => .ok n
  | _ => .error .notNumber

/-- The divisor of `multipleOf`. -/
def readDivisor : Value → Except KeywordFault Number
  | .number n => if n.isPositive then .ok n else .error .notPositive
  | _ => .error .notPositive

/-- The limit of a length or a count. -/
def readCount : Value → Except KeywordFault Nat
  | .number n => match n.count? with
    | some k => .ok k
    | none => .error .notCount
  | _ => .error .notCount

/-- The options of `enum`. -/
def readOptions : Value → Except KeywordFault (List Value)
  | .array options => .ok options
  | _ => .error .notArray

/-- A string. -/
def readString : Value → Except KeywordFault String
  | .string s => .ok s
  | _ => .error .notString

/-- The names of `required`. -/
def readNames : Value → Except KeywordFault (List String)
  | .array names => names.mapM fun
    | .string s => .ok s
    | _ => .error .notStrings
  | _ => .error .notStrings

/-- The format with a name: one of the settings, or else a built-in one. -/
def Settings.format? (s : Settings) (name : String) : Option Format :=
  match s.formats.find? (·.name == name) with
  | some f => some f
  | none => Format.builtin? name

/-- The check of a keyword that holds no schema; an unknown format checks nothing. -/
def readCheck (s : Settings) (k : Keyword) (v : Value) : Except KeywordFault (Option Check) :=
  match k with
  | .type => (readTypes v).map fun ts => some (.type ts)
  | .enum => (readOptions v).map fun options => some (.enum options)
  | .const => .ok (some (.const v))
  | .format => (readString v).map fun name =>
    if s.validateFormats then (s.format? name).map .format else none
  | .bound b => (readNumber v).map fun n => some (.bound b n)
  | .multipleOf => (readDivisor v).map fun n => some (.multipleOf n)
  | .length side => (readCount v).map fun n => some (.length side n)
  | .itemCount side => (readCount v).map fun n => some (.itemCount side n)
  | _ => .ok none

/-- Takes a fault at a keyword for an error. -/
def orInvalid {α : Type} (c : Context) (keyword : String) (r : Except KeywordFault α) :
    Compilation α :=
  match r with
  | .ok a => pure a
  | .error fault => throw (c.invalid keyword fault)

/-- The regular expression of a pattern. -/
def readPattern (c : Context) (v : Value) : Compilation Node := do
  let source ← orInvalid c "pattern" (readString v)
  match Regex.parse? source with
  | some r => return .check c.location (.pattern source r)
  | none => throw (.schema (.invalidRegex c.location source))

/-! ## Slots -/

/-- The error of a target that has no schema. -/
def missingTarget (document : Url) : CompileError :=
  .schema (.invalidKeyword ⟨document, .root⟩ "$ref" .missingTarget)

/-- The slot that was taken for a place. -/
def State.slotOf? (s : State) (place : Place) : Option Nat := s.slots.findIdx? (·.place == place)

/-- Takes a new slot. -/
def takeSlot (place : Place) : Compilation Nat := do
  modifyGet fun s => (s.slots.length, { s with slots := s.slots ++ [⟨place, none⟩] })

/-- Fills a slot. -/
def fillSlot (i : Nat) (node : Node) : Compilation Unit :=
  modify fun s => { s with slots := s.slots.modify i fun slot => { slot with node := some node } }

/-- Follows a reference; the registry keeps what it learns. -/
def follow (settings : Settings) (base : Url) (reference : String) : Compilation Target := do
  let result ← modifyGet fun s =>
    let (result, registry) := s.registry.resolve settings.retriever base reference
    (result, { s with registry })
  match result with
  | .ok t => return t
  | .error e => throw (.resolution e)

/-! ## Schemas -/

mutual

/-- Compiles the schema of a value. -/
def compile (settings : Settings) : Nat → Context → Value → Compilation Node
  | 0, c, _ => throw (missingTarget c.place.document)
  | fuel + 1, c, v => match v with
    | .bool b => return .boolean c.location b
    | .object members => do
      let c ← MonadExcept.ofExcept (c.inside members)
      match members.lookup "$anchor" with
      | none | some (.string _) => pure ()
      | some _ => throw ((c.key "$anchor").invalid "$anchor" .notString)
      let nodes ← members.mapM fun (name, v) => compileMember settings fuel c members name v
      return .keywords c.location (nodes.filterMap id)
    | other => throw (.schema (.notSchema c.location (TypeName.of other)))

/-- Compiles a member of a schema object. -/
def compileMember (settings : Settings) : Nat → Context → List (String × Value) → String → Value →
    Compilation (Option Node)
  | 0, c, _, _, _ => throw (missingTarget c.place.document)
  | fuel + 1, c, members, name, v => do
    let here := c.key name
    match Keyword.ofName? name with
    | none =>
      if settings.strict then throw (.schema (.unknownKeyword here.location name)) else return none
    | some .informative => return none
    | some .ref => do
      let reference ← orInvalid here name (readString v)
      let t ← follow settings here.base reference
      let slot ← compileTarget settings fuel t
      return some (.reference here.location slot)
    | some .pattern => some <$> readPattern here v
    | some .required => do
      let names ← orInvalid here name (readNames v)
      return some (.required here.location names)
    | some .properties => match v with
      | .object properties => do
        let nodes ← properties.mapM fun (k, v) => do
          return (k, ← compile settings fuel (here.key k) v)
        return some (.properties here.location nodes)
      | _ => throw (here.invalid name .notProperties)
    | some .items => match v with
      | .array schemas =>
        some <$> .positionalItems here.location <$> compileItems settings fuel here 0 schemas
      | .bool _ | .object _ =>
        some <$> .uniformItems here.location <$> compile settings fuel here v
      | _ => throw (here.invalid name .notItems)
    | some .allOf => some <$> .allOf here.location <$> compileBranches settings fuel here name v
    | some .anyOf => some <$> .anyOf here.location <$> compileBranches settings fuel here name v
    | some .oneOf => some <$> .oneOf here.location <$> compileBranches settings fuel here name v
    | some .not => some <$> .not here.location <$> compile settings fuel here v
    | some .condition => do
      let condition ← compile settings fuel here v
      let met ← compileBranch settings fuel c members "then"
      let unmet ← compileBranch settings fuel c members "else"
      return if met.isNone ∧ unmet.isNone then none
        else some (.conditional here.location condition met unmet)
    | some (.branch _) => do
      if (members.lookup "if").isNone then
        let _ ← compile settings fuel here v
      return none
    | some k => do
      let check ← orInvalid here name (readCheck settings k v)
      return check.map (.check here.location)

/-- Compiles a branch of a conditional, if it is there. -/
def compileBranch (settings : Settings) : Nat → Context → List (String × Value) → String →
    Compilation (Option Node)
  | 0, c, _, _ => throw (missingTarget c.place.document)
  | fuel + 1, c, members, name => match members.lookup name with
    | some v => some <$> compile settings fuel (c.key name) v
    | none => return none

/-- Compiles the schemas of an array that must not be empty. -/
def compileBranches (settings : Settings) : Nat → Context → String → Value →
    Compilation (List Node)
  | 0, c, _, _ => throw (missingTarget c.place.document)
  | fuel + 1, c, name, v => match v with
    | .array (schema :: schemas) => compileItems settings fuel c 0 (schema :: schemas)
    | _ => throw (c.invalid name .notSchemas)

/-- Compiles the schemas of an array, counted from an index. -/
def compileItems (settings : Settings) : Nat → Context → Nat → List Value →
    Compilation (List Node)
  | _, _, _, [] => return []
  | 0, c, _, _ :: _ => throw (missingTarget c.place.document)
  | fuel + 1, c, i, v :: rest => do
    let node ← compile settings fuel (c.index i) v
    return node :: (← compileItems settings fuel c (i + 1) rest)

/-- The slot of a target, which is compiled if it has none yet. -/
def compileTarget (settings : Settings) : Nat → Target → Compilation Nat
  | 0, t => throw (missingTarget t.document)
  | fuel + 1, t => do
    let place : Place := ⟨t.document, t.pointer⟩
    match (← get).slotOf? place with
    | some slot => return slot
    | none =>
      let slot ← takeSlot place
      let node ← compile settings fuel ⟨place, t.base⟩ t.contents
      fillSlot slot node
      return slot

end

end Compile
end JsonSchema
