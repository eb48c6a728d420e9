import JsonSchema.Proofs.Meaning.Judgement
import JsonSchema.Proofs.Registry.Resolution
import Mathlib.Data.List.Forall2
import Mathlib.Data.List.Nodup

/-!
# Compiled forms

Which nodes are the compiled form of a schema, where it was compiled among other slots. A reference
holds the slot that was taken for its target; what is in that slot does not matter here.
-/

namespace JsonSchema

/-- The keywords that are checks on their own. -/
def Keyword.isCheck : Keyword → Bool
  | type | enum | const | format | bound _ | multipleOf | length _ | itemCount _ => true
  | _ => false

theorem Keyword.mem_names {name : String} {k : Keyword} (h : ofName? name = some k)
    (hk : k ≠ .informative) : (name, k) ∈ names := by
  unfold ofName? at h
  split at h
  · rename_i hfound
    cases h
    exact mem_of_lookup hfound
  · split at h
    · cases h
      exact absurd rfl hk
    · cases h

/-- A keyword with a meaning has one name. -/
theorem Keyword.name_eq {name name' : String} {k : Keyword} (h : ofName? name = some k)
    (hk : (name', k) ∈ names) : name = name' := by
  have hdistinct : (names.map Prod.snd).Nodup := by decide
  have hinformative : k ≠ .informative := by
    rintro rfl
    simp [names] at hk
  have hpair := List.inj_on_of_nodup_map hdistinct (mem_names h hinformative) hk rfl
  exact congrArg Prod.fst hpair

namespace Compile

open Meaning

theorem eq_string_of_readString {v : Value} {text : String} (h : readString v = .ok text) :
    v = .string text := by
  cases v with
  | string s => simpa [readString] using h
  | _ => simp [readString] at h

/-- The places that slots were taken for. -/
def State.places (s : State) : List Place := s.slots.map Slot.place

/-- Where the target of a reference is compiled. -/
def targetContext (t : Target) : Context := ⟨t.place, t.base⟩

mutual

/-- A node is the compiled form of a schema where it stands. -/
inductive Compiled (settings : Settings) (s : State) : Context → Value → Node → Prop
  | boolean {c b} : Compiled settings s c (.bool b) (.boolean c.location b)
  | object {c inner members nodes} (hinside : c.inside members = .ok inner)
      (hanchor : ∀ v, members.lookup "$anchor" = some v → ∃ name, v = .string name)
      (hlength : members.length = nodes.length)
      (hmembers : ∀ p ∈ members.zip nodes,
        CompiledMember settings s inner members p.1.1 p.1.2 p.2) :
      Compiled settings s c (.object members) (.keywords inner.location (nodes.filterMap id))

/-- A node is the compiled form of a member of a schema object. Some members have none. -/
inductive CompiledMember (settings : Settings) (s : State) :
    Context → List (String × Value) → String → Value → Option Node → Prop
  | unknown {c members name v} (h : Keyword.ofName? name = none)
      (hstrict : settings.strict = false) :
      CompiledMember settings s c members name v none
  | informative {c members name v} (h : Keyword.ofName? name = some .informative) :
      CompiledMember settings s c members name v none
  | reference {c members name r t slot} (h : Keyword.ofName? name = some .ref)
      (hleads : s.registry.Leads c.base r t) (hslot : s.places[slot]? = some t.place) :
      CompiledMember settings s c members name (.string r)
        (some (.reference (c.key name).location slot))
  | check {c members name v k check} (h : Keyword.ofName? name = some k)
      (hk : k.isCheck = true) (hcheck : readCheck settings k v = .ok check) :
      CompiledMember settings s c members name v (check.map (.check (c.key name).location))
  | pattern {c members name source regex} (h : Keyword.ofName? name = some .pattern)
      (hregex : Regex.parse? source = some regex) :
      CompiledMember settings s c members name (.string source)
        (some (.check (c.key name).location (.pattern source regex)))
  | required {c members name v names} (h : Keyword.ofName? name = some .required)
      (hnames : readNames v = .ok names) :
      CompiledMember settings s c members name v (some (.required (c.key name).location names))
  | properties {c members name schemas nodes} (h : Keyword.ofName? name = some .properties)
      (hnames : schemas.map Prod.fst = nodes.map Prod.fst)
      (hnodes : ∀ p ∈ schemas.zip nodes,
        Compiled settings s ((c.key name).key p.1.1) p.1.2 p.2.2) :
      CompiledMember settings s c members name (.object schemas)
        (some (.properties (c.key name).location nodes))
  | uniformItems {c members name v n} (h : Keyword.ofName? name = some .items)
      (hv : ∀ schemas, v ≠ .array schemas) (hn : Compiled settings s (c.key name) v n) :
      CompiledMember settings s c members name v (some (.uniformItems (c.key name).location n))
  | positionalItems {c members name schemas nodes} (h : Keyword.ofName? name = some .items)
      (hlength : schemas.length = nodes.length)
      (hnodes : ∀ (i : Nat) schema n, schemas[i]? = some schema → nodes[i]? = some n →
        Compiled settings s ((c.key name).index i) schema n) :
      CompiledMember settings s c members name (.array schemas)
        (some (.positionalItems (c.key name).location nodes))
  | allOf {c members name schema schemas nodes} (h : Keyword.ofName? name = some .allOf)
      (hlength : (schema :: schemas).length = nodes.length)
      (hnodes : ∀ (i : Nat) branch n, (schema :: schemas)[i]? = some branch →
        nodes[i]? = some n → Compiled settings s ((c.key name).index i) branch n) :
      CompiledMember settings s c members name (.array (schema :: schemas))
        (some (.allOf (c.key name).location nodes))
  | anyOf {c members name schema schemas nodes} (h : Keyword.ofName? name = some .anyOf)
      (hlength : (schema :: schemas).length = nodes.length)
      (hnodes : ∀ (i : Nat) branch n, (schema :: schemas)[i]? = some branch →
        nodes[i]? = some n → Compiled settings s ((c.key name).index i) branch n) :
      CompiledMember settings s c members name (.array (schema :: schemas))
        (some (.anyOf (c.key name).location nodes))
  | oneOf {c members name schema schemas nodes} (h : Keyword.ofName? name = some .oneOf)
      (hlength : (schema :: schemas).length = nodes.length)
      (hnodes : ∀ (i : Nat) branch n, (schema :: schemas)[i]? = some branch →
        nodes[i]? = some n → Compiled settings s ((c.key name).index i) branch n) :
      CompiledMember settings s c members name (.array (schema :: schemas))
        (some (.oneOf (c.key name).location nodes))
  | not {c members name v n} (h : Keyword.ofName? name = some .not)
      (hn : Compiled settings s (c.key name) v n) :
      CompiledMember settings s c members name v (some (.not (c.key name).location n))
  | conditional {c members name v n met unmet} (h : Keyword.ofName? name = some .condition)
      (hn : Compiled settings s (c.key name) v n)
      (hmet : (members.lookup "then").isSome = met.isSome)
      (hmetNode : ∀ schema n, members.lookup "then" = some schema → met = some n →
        Compiled settings s (c.key "then") schema n)
      (hunmet : (members.lookup "else").isSome = unmet.isSome)
      (hunmetNode : ∀ schema n, members.lookup "else" = some schema → unmet = some n →
        Compiled settings s (c.key "else") schema n)
      (hsome : met.isSome ∨ unmet.isSome) :
      CompiledMember settings s c members name v
        (some (.conditional (c.key name).location n met unmet))
  /-- A condition without branches. -/
  | idleCondition {c members name v n} (h : Keyword.ofName? name = some .condition)
      (hn : Compiled settings s (c.key name) v n) (hmet : members.lookup "then" = none)
      (hunmet : members.lookup "else" = none) :
      CompiledMember settings s c members name v none
  /-- A branch is compiled with its condition. -/
  | branch {c members name v met} (h : Keyword.ofName? name = some (.branch met))
      (hcondition : (members.lookup "if").isSome) :
      CompiledMember settings s c members name v none
  /-- A branch without a condition is compiled for its own sake. -/
  | idleBranch {c members name v n met} (h : Keyword.ofName? name = some (.branch met))
      (hcondition : members.lookup "if" = none) (hn : Compiled settings s (c.key name) v n) :
      CompiledMember settings s c members name v none

end

end Compile
end JsonSchema
