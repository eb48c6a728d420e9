import JsonSchema.Proofs.Compilation.Compiled
import JsonSchema.Proofs.Evaluation.Call
import JsonSchema.Proofs.Value.Position

/-!
# Schemas inside schemas

Where the schemas in the value of a keyword stand, and that compiled forms keep to it: each of these
schemas has a node, and every node that is asked for, references apart, is one of these.
-/

namespace JsonSchema

/-- A schema stands in the value of a keyword, at a path from there. -/
inductive Keyword.HoldsAt : Keyword → Value → List String → Value → Prop
  | property {name schema schemas} (h : (name, schema) ∈ schemas) :
      HoldsAt .properties (.object schemas) [name] schema
  | items {schema} (h : ∀ schemas, schema ≠ .array schemas) : HoldsAt .items schema [] schema
  | item {i : Nat} {schema schemas} (h : schemas[i]? = some schema) :
      HoldsAt .items (.array schemas) [toString i] schema
  | allOf {i : Nat} {schema schemas} (h : schemas[i]? = some schema) :
      HoldsAt .allOf (.array schemas) [toString i] schema
  | anyOf {i : Nat} {schema schemas} (h : schemas[i]? = some schema) :
      HoldsAt .anyOf (.array schemas) [toString i] schema
  | oneOf {i : Nat} {schema schemas} (h : schemas[i]? = some schema) :
      HoldsAt .oneOf (.array schemas) [toString i] schema
  | not {schema} : HoldsAt .not schema [] schema
  | condition {schema} : HoldsAt .condition schema [] schema
  | branch {met schema} : HoldsAt (.branch met) schema [] schema

/-- The schemas in the value of a keyword are asked about the very value that reaches the object. A
condition without branches has no effect, and neither has a branch without a condition. -/
def Keyword.AppliesInPlace (members : List (String × Value)) : Keyword → Prop
  | allOf | anyOf | oneOf | not => True
  | condition => (members.lookup "then").isSome ∨ (members.lookup "else").isSome
  | branch _ => (members.lookup "if").isSome
  | _ => False

namespace Compile

variable {settings : Settings} {s : State} {slots : List Node}
variable {c inner : Context} {members : List (String × Value)}

namespace Context

/-- The context at the end of a path. -/
def along (c : Context) (path : List String) : Context :=
  { c with place := { c.place with pointer := c.place.pointer ++ ⟨path⟩ } }

@[simp] theorem along_nil (c : Context) : c.along [] = c := by
  simp [along, Pointer.append_eq]

@[simp] theorem base_key (c : Context) (k : String) : (c.key k).base = c.base := rfl

/-- An `$id` sets the base and keeps the place. -/
theorem place_of_inside (h : c.inside members = .ok inner) : inner.place = c.place := by
  unfold inside at h
  split at h
  · cases h
    rfl
  · split at h
    · cases h
      rfl
    · split at h <;> cases h
      rfl
  · cases h

end Context

/-! ## Nodes of schemas -/

theorem Compiled.location_eq {v : Value} {n : Node} (h : Compiled settings s c v n) :
    n.location = c.location := by
  cases h with
  | boolean => rfl
  | object hinside => simp [Node.location, Context.location, Context.place_of_inside hinside]

theorem CompiledMember.location_eq {name : String} {v : Value} {n : Node}
    (h : CompiledMember settings s c members name v (some n)) :
    n.location = (c.key name).location := by
  generalize hnode : some n = node at h
  cases h with
  | check =>
      obtain ⟨check, -, rfl⟩ := Option.map_eq_some_iff.mp hnode.symm
      rfl
  | _ =>
      cases hnode
      try rfl

/-- Each member of a compiled schema object is compiled, and its node is asked in place. -/
theorem Compiled.exists_member_inPlace {n : Node} (h : Compiled settings s c (.object members) n)
    (hinside : c.inside members = .ok inner) {name : String} {v : Value}
    (hv : (name, v) ∈ members) : ∃ node, CompiledMember settings s inner members name v node ∧
      ∀ asked, node = some asked → Node.InPlace n asked := by
  cases h with
  | @object _ inner' _ nodes hinside' _ hlength hmembers =>
      obtain rfl : inner = inner' := Except.ok.inj (hinside.symm.trans hinside')
      obtain ⟨node, hmem⟩ := exists_mem_zip hlength hv
      refine ⟨node, hmembers ((name, v), node) hmem, ?_⟩
      rintro asked rfl
      exact .keyword (List.mem_filterMap.mpr ⟨_, (List.of_mem_zip hmem).2, rfl⟩)

theorem Compiled.exists_member {n : Node} (h : Compiled settings s c (.object members) n)
    (hinside : c.inside members = .ok inner) {name : String} {v : Value}
    (hv : (name, v) ∈ members) : ∃ node, CompiledMember settings s inner members name v node := by
  obtain ⟨node, hmember, -⟩ := h.exists_member_inPlace hinside hv
  exact ⟨node, hmember⟩

theorem exists_compiled_of_getElem? {schemas : List Value} {nodes : List Node}
    (hlength : schemas.length = nodes.length)
    (hnodes : ∀ (i : Nat) schema n, schemas[i]? = some schema → nodes[i]? = some n →
      Compiled settings s (c.index i) schema n) {i : Nat} {schema : Value}
    (h : schemas[i]? = some schema) : ∃ n ∈ nodes, Compiled settings s (c.index i) schema n := by
  have hlt : i < nodes.length := hlength ▸ (List.getElem?_eq_some_iff.mp h).1
  exact ⟨nodes[i], List.getElem_mem hlt, hnodes i schema _ h (List.getElem?_eq_getElem hlt)⟩

theorem exists_compiled_of_pairs {schemas : List (String × Value)} {nodes : List (String × Node)}
    (hnames : schemas.map Prod.fst = nodes.map Prod.fst)
    (hnodes : ∀ p ∈ schemas.zip nodes, Compiled settings s (c.key p.1.1) p.1.2 p.2.2)
    {name : String} {schema : Value} (h : (name, schema) ∈ schemas) :
    ∃ n, Compiled settings s (c.key name) schema n := by
  have hlength : schemas.length = nodes.length := by simpa using congrArg List.length hnames
  obtain ⟨node, hmem⟩ := exists_mem_zip hlength h
  exact ⟨node.2, hnodes ((name, schema), node) hmem⟩

/-- A branch is compiled with its condition if there is one. -/
theorem CompiledMember.exists_branch {v : Value} {name : String} {condition : Value}
    {node : Option Node} (h : CompiledMember settings s c members "if" condition node)
    (hv : members.lookup name = some v) (hname : name = "then" ∨ name = "else") :
    ∃ asked n, node = some asked ∧ Node.InPlace asked n ∧ Compiled settings s (c.key name) v n := by
  have hif : Keyword.ofName? "if" = some .condition := by decide
  cases h with
  | @conditional _ _ _ _ _ met unmet h hn hmet hmetNode hunmet hunmetNode hsome =>
      rcases hname with rfl | rfl
      · obtain ⟨n, rfl⟩ := Option.isSome_iff_exists.mp (hmet ▸ Option.isSome_of_eq_some hv)
        exact ⟨_, n, rfl, .met, hmetNode v n hv rfl⟩
      · obtain ⟨n, rfl⟩ := Option.isSome_iff_exists.mp (hunmet ▸ Option.isSome_of_eq_some hv)
        exact ⟨_, n, rfl, .unmet, hunmetNode v n hv rfl⟩
  | idleCondition h hn hmet hunmet =>
      rcases hname with rfl | rfl
      · cases hmet.symm.trans hv
      · cases hunmet.symm.trans hv
  | check h hk => cases hif.symm.trans h; cases hk
  | unknown h | informative h | reference h | pattern h | required h | properties h
  | uniformItems h | positionalItems h | allOf h | anyOf h | oneOf h | not h | branch h
  | idleBranch h => cases hif.symm.trans h

/-- Schemas directly inside a compiled schema object are compiled where they stand, and those that
apply in place are asked in place. -/
theorem Compiled.exists_inside_inPlace {n : Node} (h : Compiled settings s c (.object members) n)
    (hinside : c.inside members = .ok inner) {name : String} {k : Keyword} {v schema : Value}
    {path : List String} (hv : members.lookup name = some v)
    (hname : Keyword.ofName? name = some k) (hschema : k.HoldsAt v path schema) :
    ∃ n', Compiled settings s ((inner.key name).along path) schema n' ∧
      (k.AppliesInPlace members → ∃ asked, Node.InPlace n asked ∧ Node.InPlace asked n') := by
  obtain ⟨node, hmember, hnode⟩ := h.exists_member_inPlace hinside (mem_of_lookup hv)
  cases hmember with
  | unknown h | informative h | reference h | pattern h | required h =>
      cases hname.symm.trans h
      try cases hschema
  | check h hk =>
      cases hname.symm.trans h
      cases hschema <;> cases hk
  | properties h hnames hnodes =>
      cases hname.symm.trans h
      cases hschema with
      | property hmem =>
          obtain ⟨n', hn'⟩ := exists_compiled_of_pairs hnames hnodes hmem
          exact ⟨n', hn', nofun⟩
  | uniformItems h hk hn =>
      cases hname.symm.trans h
      cases hschema with
      | items => exact ⟨_, by simpa using hn, nofun⟩
      | item => exact absurd rfl (hk _)
  | positionalItems h hlength hnodes =>
      cases hname.symm.trans h
      cases hschema with
      | items hk => exact absurd rfl (hk _)
      | item hi =>
          obtain ⟨n', -, hn'⟩ := exists_compiled_of_getElem? hlength hnodes hi
          exact ⟨n', hn', nofun⟩
  | allOf h hlength hnodes | anyOf h hlength hnodes | oneOf h hlength hnodes =>
      cases hname.symm.trans h
      cases hschema
      obtain ⟨n', hmem, hn'⟩ := exists_compiled_of_getElem? hlength hnodes ‹_›
      exact ⟨n', hn', fun _ => ⟨_, hnode _ rfl, by constructor; exact hmem⟩⟩
  | not h hn =>
      cases hname.symm.trans h
      cases hschema
      exact ⟨_, by simpa using hn, fun _ => ⟨_, hnode _ rfl, .negated⟩⟩
  | conditional h hn =>
      cases hname.symm.trans h
      cases hschema
      exact ⟨_, by simpa using hn, fun _ => ⟨_, hnode _ rfl, .condition⟩⟩
  | idleCondition h hn hmet hunmet =>
      cases hname.symm.trans h
      cases hschema
      refine ⟨_, by simpa using hn, fun happlies => ?_⟩
      simp [Keyword.AppliesInPlace, hmet, hunmet] at happlies
  | idleBranch h hcondition hn =>
      cases hname.symm.trans h
      cases hschema
      refine ⟨_, by simpa using hn, fun happlies => ?_⟩
      simp [Keyword.AppliesInPlace, hcondition] at happlies
  | @branch _ _ _ _ met h hcondition =>
      cases hname.symm.trans h
      cases hschema
      obtain ⟨condition, hif⟩ := Option.isSome_iff_exists.mp hcondition
      obtain ⟨node, hmember, hnode⟩ :=
        Compiled.exists_member_inPlace ‹_› hinside (mem_of_lookup hif)
      have hbranch : name = "then" ∨ name = "else" := by
        cases met with
        | true => exact .inl (Keyword.name_eq hname (by decide))
        | false => exact .inr (Keyword.name_eq hname (by decide))
      obtain ⟨asked, n', rfl, hasked, hn'⟩ := hmember.exists_branch hv hbranch
      exact ⟨n', by simpa using hn', fun _ => ⟨asked, hnode asked rfl, hasked⟩⟩

theorem Compiled.exists_inside {n : Node} (h : Compiled settings s c (.object members) n)
    (hinside : c.inside members = .ok inner) {name : String} {k : Keyword} {v schema : Value}
    {path : List String} (hv : members.lookup name = some v)
    (hname : Keyword.ofName? name = some k) (hschema : k.HoldsAt v path schema) :
    ∃ n, Compiled settings s ((inner.key name).along path) schema n := by
  obtain ⟨n', hn', -⟩ := h.exists_inside_inPlace hinside hv hname hschema
  exact ⟨n', hn'⟩

/-- A compiled reference leads to a target that has a slot, and holds that slot. -/
theorem CompiledMember.exists_target {reference : String} {node : Option Node}
    (h : CompiledMember settings s c members "$ref" (.string reference) node) :
    ∃ t, s.registry.Leads c.base reference t ∧ ∃ slot : Nat, s.places[slot]? = some t.place ∧
      node = some (.reference (c.key "$ref").location slot) := by
  have hname : Keyword.ofName? "$ref" = some .ref := by decide
  cases h with
  | reference h hleads hslot => exact ⟨_, hleads, _, hslot, rfl⟩
  | check h hk => cases hname.symm.trans h; cases hk
  | unknown h | informative h | pattern h | required h | uniformItems h | not h
  | conditional h | idleCondition h | branch h | idleBranch h => cases hname.symm.trans h

/-! ## Schemas of nodes -/

/-- A node at an index is the compiled form of the schema at that index. -/
theorem exists_schema_of_getElem? {schemas : List Value} {nodes : List Node}
    (hlength : schemas.length = nodes.length)
    (hnodes : ∀ (i : Nat) schema n, schemas[i]? = some schema → nodes[i]? = some n →
      Compiled settings s (c.index i) schema n) {i : Nat} {n : Node} (h : nodes[i]? = some n) :
    ∃ schema, schemas[i]? = some schema ∧ Compiled settings s (c.index i) schema n := by
  have hlt : i < schemas.length := hlength ▸ (List.getElem?_eq_some_iff.mp h).1
  have hschema := List.getElem?_eq_getElem hlt
  exact ⟨_, hschema, hnodes i _ n hschema h⟩

/-- A node is the compiled form of a schema in the value of a member. -/
def InMember (settings : Settings) (s : State) (c : Context) (members : List (String × Value))
    (P : Keyword → Prop) (n : Node) : Prop :=
  ∃ name k v path schema, (name, v) ∈ members ∧ Keyword.ofName? name = some k ∧ P k ∧
    k.HoldsAt v path schema ∧ Compiled settings s ((c.key name).along path) schema n

/-- A node that the node of a member asks in place is the compiled form of a schema inside the
object that applies in place. -/
theorem CompiledMember.inMember_inPlace {name : String} {v : Value} {n n' : Node}
    (h : CompiledMember settings s c members name v (some n)) (hmem : (name, v) ∈ members)
    (hasked : Node.InPlace n n') :
    InMember settings s c members (Keyword.AppliesInPlace members) n' := by
  generalize hnode : some n = node at h
  cases h with
  | unknown | informative | idleCondition | branch | idleBranch => cases hnode
  | check _ _ _ =>
      obtain ⟨check, -, rfl⟩ := Option.map_eq_some_iff.mp hnode.symm
      cases hasked
  | reference | pattern | required | properties | uniformItems | positionalItems =>
      cases hnode
      cases hasked
  | allOf h hlength hnodes | anyOf h hlength hnodes | oneOf h hlength hnodes =>
      cases hnode
      cases hasked
      obtain ⟨i, hn'⟩ := List.mem_iff_getElem?.mp ‹n' ∈ _›
      obtain ⟨schema, hschema, hcompiled⟩ := exists_schema_of_getElem? hlength hnodes hn'
      exact ⟨_, _, _, _, schema, hmem, h, trivial, by constructor; exact hschema, hcompiled⟩
  | not h hn =>
      cases hnode
      cases hasked
      exact ⟨_, _, _, [], v, hmem, h, trivial, .not, by simpa using hn⟩
  | @conditional _ _ _ _ _ met unmet h hn hmet hmetNode hunmet hunmetNode hsome =>
      cases hnode
      obtain rfl : name = "if" := Keyword.name_eq h (by decide)
      obtain ⟨condition, hif⟩ := exists_lookup (List.mem_map.mpr ⟨_, hmem, rfl⟩)
      cases hasked with
      | condition =>
          have happlies : Keyword.condition.AppliesInPlace members := by
            simpa [Keyword.AppliesInPlace, hmet, hunmet] using hsome
          exact ⟨_, _, _, [], v, hmem, h, happlies, .condition, by simpa using hn⟩
      | met =>
          obtain ⟨schema, hschema⟩ := Option.isSome_iff_exists.mp (hmet.trans rfl)
          exact ⟨_, _, _, [], schema, mem_of_lookup hschema, rfl, Option.isSome_of_eq_some hif,
            .branch, by simpa using hmetNode schema n' hschema rfl⟩
      | unmet =>
          obtain ⟨schema, hschema⟩ := Option.isSome_iff_exists.mp (hunmet.trans rfl)
          exact ⟨_, _, _, [], schema, mem_of_lookup hschema, rfl, Option.isSome_of_eq_some hif,
            .branch, by simpa using hunmetNode schema n' hschema rfl⟩

/-- A node that the node of a member asks is the compiled form of a schema inside the object, unless
a reference is followed. -/
theorem CompiledMember.exists_schema {name : String} {v : Value} {n n' : Node} {x x' : Value}
    (h : CompiledMember settings s c members name v (some n)) (hmem : (name, v) ∈ members)
    (hcall : Node.Call slots (n, x) (n', x')) :
    (∃ l slot, n = .reference l slot) ∨ InMember settings s c members (fun _ => True) n' := by
  cases hcall with
  | inPlace hasked =>
      obtain ⟨name', k, v', path, schema, hmem', hname, -, hschema, hcompiled⟩ :=
        h.inMember_inPlace hmem hasked
      exact .inr ⟨name', k, v', path, schema, hmem', hname, trivial, hschema, hcompiled⟩
  | follow => exact .inl ⟨_, _, rfl⟩
  | @property l properties key _ _ _ hm =>
      generalize hnode : some (Node.properties l properties) = node at h
      cases h with
      | check =>
          obtain ⟨check, -, hcheck⟩ := Option.map_eq_some_iff.mp hnode.symm
          cases hcheck
      | properties h hnames hnodes =>
          cases hnode
          obtain ⟨i, hi⟩ := List.mem_iff_getElem?.mp (Node.mem_presentMembers.mp hm).1
          have hname := congrArg (·[i]?) hnames
          simp only [List.getElem?_map, hi, Option.map_some, Option.map_eq_some_iff] at hname
          obtain ⟨⟨key, schema⟩, hschema, rfl⟩ := hname
          have hcompiled := hnodes ((key, schema), (key, n'))
            (mem_zip_iff_getElem?.mpr ⟨i, hschema, hi⟩)
          exact .inr ⟨_, _, _, _, schema, hmem, h, trivial,
            .property (List.mem_of_getElem? hschema), hcompiled⟩
      | _ => cases hnode
  | @uniformItem l _ _ _ _ hm =>
      generalize hnode : some (Node.uniformItems l n') = node at h
      cases h with
      | check =>
          obtain ⟨check, -, hcheck⟩ := Option.map_eq_some_iff.mp hnode.symm
          cases hcheck
      | uniformItems h hv hn =>
          cases hnode
          exact .inr ⟨_, _, _, [], v, hmem, h, trivial, .items hv, by simpa using hn⟩
      | _ => cases hnode
  | @positionalItem l nodes _ _ _ _ hm =>
      generalize hnode : some (Node.positionalItems l nodes) = node at h
      cases h with
      | check =>
          obtain ⟨check, -, hcheck⟩ := Option.map_eq_some_iff.mp hnode.symm
          cases hcheck
      | positionalItems h hlength hnodes =>
          cases hnode
          obtain ⟨-, -, hn', -⟩ := Node.mem_positionedItems.mp hm
          obtain ⟨schema, hschema, hcompiled⟩ := exists_schema_of_getElem? hlength hnodes hn'
          exact .inr ⟨_, _, _, _, schema, hmem, h, trivial, .item hschema, hcompiled⟩
      | _ => cases hnode

/-- A property of schemas where they stand, which goes on to the schemas inside them. -/
def Inherited (P : Context → Value → Prop) : Prop :=
  ∀ c inner members name k v path schema, P c (.object members) → c.inside members = .ok inner →
    (name, v) ∈ members → Keyword.ofName? name = some k → k.HoldsAt v path schema →
      P ((inner.key name).along path) schema

/-- A property of schemas where they stand, which goes on to the schemas that apply in place. -/
def InheritedInPlace (P : Context → Value → Prop) : Prop :=
  ∀ c inner members name k v path schema, P c (.object members) → c.inside members = .ok inner →
    (name, v) ∈ members → Keyword.ofName? name = some k → k.AppliesInPlace members →
      k.HoldsAt v path schema → P ((inner.key name).along path) schema

theorem Inherited.inPlace {P : Context → Value → Prop} (h : Inherited P) : InheritedInPlace P :=
  fun _ _ _ _ _ _ _ _ hP hinside hmem hname _ hschema => h _ _ _ _ _ _ _ _ hP hinside hmem hname
    hschema

/-- A node is the compiled form of a schema with a property, or of a member of one. -/
inductive Sited (settings : Settings) (s : State) (P : Context → Value → Prop) : Node → Prop
  | schema {c v n} (hP : P c v) (h : Compiled settings s c v n) : Sited settings s P n
  | member {c inner members name v n} (hP : P c (.object members))
      (hinside : c.inside members = .ok inner) (hmem : (name, v) ∈ members)
      (h : CompiledMember settings s inner members name v (some n)) : Sited settings s P n

theorem inherited_below (root : Pointer) :
    Inherited fun c _ => ∃ rest, c.place.pointer = root ++ rest := by
  rintro c inner members name k v path schema ⟨rest, hrest⟩ hinside - - -
  refine ⟨rest.key name ++ ⟨path⟩, ?_⟩
  simp [Context.along, Context.key, Context.place_of_inside hinside, hrest, Pointer.key,
    Pointer.append_eq]

/-- What is inherited in place goes on to the nodes that are asked in place. -/
theorem Sited.of_inPlace {P : Context → Value → Prop} (hP : InheritedInPlace P) {n n' : Node}
    (h : Sited settings s P n) (hasked : Node.InPlace n n') : Sited settings s P n' := by
  cases h with
  | @member c inner members name v _ hPc hinside hmem h =>
      obtain ⟨name', k, v', path, schema, hmem', hname, happlies, hschema, hcompiled⟩ :=
        h.inMember_inPlace hmem hasked
      exact .schema (hP _ _ _ _ _ _ _ _ hPc hinside hmem' hname happlies hschema) hcompiled
  | schema hPc h =>
      cases h with
      | boolean => cases hasked
      | @object c inner members nodes hinside _ hlength hmembers =>
          cases hasked with
          | keyword hn =>
              obtain ⟨node, hnode, rfl⟩ := List.mem_filterMap.mp hn
              obtain ⟨i, hi⟩ := List.mem_iff_getElem?.mp hnode
              have hlt : i < members.length := hlength ▸ (List.getElem?_eq_some_iff.mp hi).1
              have hmember := List.getElem?_eq_getElem hlt
              exact .member hPc hinside (List.mem_of_getElem? hmember)
                (hmembers (members[i], some n') (mem_zip_iff_getElem?.mpr ⟨i, hmember, hi⟩))

/-- An inherited property goes on to the nodes that are asked, until a reference is followed. -/
theorem Sited.of_call {P : Context → Value → Prop} (hP : Inherited P) {n n' : Node} {x x' : Value}
    (h : Sited settings s P n) (hcall : Node.Call slots (n, x) (n', x')) :
    (∃ l slot, n = .reference l slot) ∨ Sited settings s P n' := by
  cases h with
  | @member c inner members name v _ hPc hinside hmem h =>
      refine (h.exists_schema hmem hcall).imp_right ?_
      rintro ⟨name', k, v', path, schema, hmem', hname, -, hschema, hcompiled⟩
      exact .schema (hP _ _ _ _ _ _ _ _ hPc hinside hmem' hname hschema) hcompiled
  | schema hPc h =>
      -- The node of a schema is asked in place only.
      cases hcall with
      | inPlace hasked => exact .inr ((Sited.schema hPc h).of_inPlace hP.inPlace hasked)
      | follow | property | uniformItem | positionalItem => cases h

end Compile
end JsonSchema
