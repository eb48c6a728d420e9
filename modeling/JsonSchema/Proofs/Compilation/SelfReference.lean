import JsonSchema.Proofs.Compilation.Build
import JsonSchema.Proofs.Compilation.Inside
import JsonSchema.Proofs.Registry.OwnReference

/-!
# References of a schema to itself

References that compilation comes to inside a schema are resolved in the registry that it leaves.
Those that are only a fragment lead into the document of the schema exactly if that document was the
first to declare what they name: an earlier document that embeds a schema with the same `$id` is not
a conflict, and takes them over.
-/

namespace JsonSchema

open Compile Meaning

/-! ## Occurrences of references -/

/-- A schema stands directly in the value of a keyword. -/
inductive Keyword.Holds : Keyword → Value → Value → Prop
  | property {name schema schemas} (h : (name, schema) ∈ schemas) :
      Holds .properties (.object schemas) schema
  | items {schema} (h : ∀ schemas, schema ≠ .array schemas) : Holds .items schema schema
  | item {schema schemas} (h : schema ∈ schemas) : Holds .items (.array schemas) schema
  | allOf {schema schemas} (h : schema ∈ schemas) : Holds .allOf (.array schemas) schema
  | anyOf {schema schemas} (h : schema ∈ schemas) : Holds .anyOf (.array schemas) schema
  | oneOf {schema schemas} (h : schema ∈ schemas) : Holds .oneOf (.array schemas) schema
  | not {schema} : Holds .not schema schema
  | condition {schema} : Holds .condition schema schema
  | branch {met schema} : Holds (.branch met) schema schema

/-- A reference occurs in a schema at a base, with the base that is in effect where it stands. -/
inductive Occurs : Url → Value → Url → String → Prop
  | here {base inner members reference} (hbase : innerBase base members = some inner)
      (h : members.lookup "$ref" = some (.string reference)) :
      Occurs base (.object members) inner reference
  | inside {base inner effective members name keyword v schema reference}
      (hbase : innerBase base members = some inner) (hv : members.lookup name = some v)
      (hname : Keyword.ofName? name = some keyword) (hschema : keyword.Holds v schema)
      (h : Occurs inner schema effective reference) :
      Occurs base (.object members) effective reference

theorem Keyword.Holds.exists_path {k : Keyword} {v schema : Value} (h : k.Holds v schema) :
    ∃ path, k.HoldsAt v path schema := by
  have hitem {schemas : List Value} (h : schema ∈ schemas) : ∃ i : Nat, schemas[i]? = some schema :=
    List.mem_iff_getElem?.mp h
  cases h with
  | property h => exact ⟨_, .property h⟩
  | items h => exact ⟨_, .items h⟩
  | item h => exact (hitem h).imp' _ fun _ => .item
  | allOf h => exact (hitem h).imp' _ fun _ => .allOf
  | anyOf h => exact (hitem h).imp' _ fun _ => .anyOf
  | oneOf h => exact (hitem h).imp' _ fun _ => .oneOf
  | not => exact ⟨_, .not⟩
  | condition => exact ⟨_, .condition⟩
  | branch => exact ⟨_, .branch⟩

namespace Compile

variable {settings : Settings} {s : State}

/-- Where a schema was compiled, its object has set a base. -/
theorem Compiled.exists_inner {c : Context} {base : Url} {members : List (String × Value)}
    {n : Node} (h : Compiled settings s c (.object members) n)
    (hbase : innerBase c.base members = some base) :
    ∃ inner, c.inside members = .ok inner ∧ inner.base = base := by
  cases h with
  | @object _ inner _ _ hinside =>
      have hinner := Context.innerBase_of_inside hinside
      exact ⟨inner, hinside, Option.some.inj (hinner.symm.trans hbase)⟩

/-- Every reference that occurs in a compiled schema was followed to a target. -/
theorem Compiled.exists_leads {c : Context} {effective : Url} {schema : Value} {n : Node}
    (h : Compiled settings s c schema n) {reference : String}
    (hoccurs : Occurs c.base schema effective reference) :
    ∃ t, s.registry.Leads effective reference t := by
  generalize hbase : c.base = base at hoccurs
  induction hoccurs generalizing c n with
  | here hinner href =>
      subst hbase
      obtain ⟨inner, hinside, rfl⟩ := h.exists_inner hinner
      obtain ⟨node, hmember⟩ := h.exists_member hinside (mem_of_lookup href)
      obtain ⟨t, hleads, -⟩ := hmember.exists_target
      exact ⟨t, hleads⟩
  | inside hinner hv hname hschema _ ih =>
      subst hbase
      obtain ⟨inner, hinside, rfl⟩ := h.exists_inner hinner
      obtain ⟨path, hpath⟩ := hschema.exists_path
      obtain ⟨n', hn'⟩ := h.exists_inside hinside hv hname hpath
      exact ih hn' rfl

end Compile

/-! ## Whose target it is -/

namespace Options

variable {r r' : Registry} {o : Options} {store : Store} {schema : Value} {v : Validator}

/-- A successful build keeps a document under the URL of the schema, with the same contents. -/
theorem Builds.exists_document (h : Builds o store schema r v r') (hr : r.WellIndexed) :
    ∃ d ∈ r'.documents, d.uri = v.document ∧ d.contents.identical schema = true := by
  obtain ⟨s, rfl, -, hlinked⟩ := h.exists_linked hr
  have hget := h.get?_root store
  rw [h.buildIn_eq, Registry.get?, h.withoutFragment_uri] at hget
  refine ⟨h.root, List.mem_of_find?_eq_some hget, ?_, h.identical⟩
  rw [hlinked.document]
  simpa using List.find?_some hget

/-- After a successful build, the references of the schema to itself are resolved. They lead into
its document exactly if that document is the first to declare what they name. -/
theorem self_reference_iff (hr : r.Reachable) (h : o.buildIn store r schema = (.ok v, r')) :
    ∃ before d after, r'.documents = before ++ d :: after ∧ d.uri = v.document ∧
      d.contents.identical schema = true ∧
      ∀ reference, Declarations.isFragmentOnly reference = true →
        (Occurs o.base schema v.document reference → ∃ t, r'.Leads v.document reference t) ∧
        ∀ t, r'.Leads v.document reference t →
          (t.document = v.document ↔ d.DeclaresFirst before (Url.ownFragment reference)) := by
  obtain ⟨hbuilds⟩ := exists_builds h
  obtain ⟨d, hd, huri, hidentical⟩ := hbuilds.exists_document hr.wellIndexed
  obtain ⟨before, after, hdocuments⟩ := List.append_of_mem hd
  have hindexed : r'.WellIndexed := by
    have hevolves := o.evolves_buildIn (r := r) store schema
    rw [h] at hevolves
    exact hevolves.wellIndexed hr.wellIndexed
  refine ⟨before, d, after, hdocuments, huri, hidentical, fun reference hown => ⟨?_, ?_⟩⟩
  · obtain ⟨s, rfl, -, hlinked⟩ := hbuilds.exists_linked hr.wellIndexed
    obtain ⟨node, rest, -, hnode, -⟩ := hlinked.root
    exact hnode.exists_leads
  · intro t ht
    rw [← huri] at ht ⊢
    exact Registry.document_eq_iff_declaresFirst hindexed hdocuments hown ht

/-! ## A document that takes references over -/

/-- A document with a schema of its own under the URL `/root`. -/
def library : Value := .object [("$defs", .object [("x", .object [("$id", .string "/root"),
  ("$defs", .object [("n", .object [("type", .string "string")])])])])]

/-- A schema that refers to a definition of its own. -/
def selfReferring : Value := .object [("$id", .string "/root"), ("$ref", .string "#/$defs/n"),
  ("$defs", .object [("n", .object [("type", .string "integer")])])]

/-- The URL of the document. -/
def libraryUri : Url := { Url.ownBase with path := "/lib" }

/-- The URL of the schema. -/
def selfReferringUri : Url := { Url.ownBase with path := "/root" }

/-- The registry that holds the document. -/
def libraryRegistry : Registry := (Registry.insert {} libraryUri library).2

theorem occurs_selfReferring :
    Occurs (base {}) selfReferring selfReferringUri "#/$defs/n" :=
  .here (by decide +kernel) rfl

set_option maxRecDepth 10000 in
/-- The document that was there first takes over what the schema says of itself. -/
theorem exists_captured_reference :
    ∃ (r : Registry) (o : Options) (store : Store) (schema : Value) (v : Validator) (r' : Registry)
      (reference : String) (t : Target), r.Reachable ∧ o.buildIn store r schema = (.ok v, r') ∧
        Declarations.isFragmentOnly reference = true ∧
        Occurs o.base schema v.document reference ∧ r'.Leads v.document reference t ∧
        t.document ≠ v.document := by
  have hr : libraryRegistry.Reachable := .insert libraryUri library .empty
  obtain ⟨v, r', h, hv⟩ := exists_build_of_document {} {} libraryRegistry selfReferring
    selfReferringUri (by decide +kernel)
  have htarget : ((buildIn {} {} libraryRegistry selfReferring).2.resolve {} selfReferringUri
      "#/$defs/n").1.toOption.map Target.document = some libraryUri := by decide +kernel
  obtain ⟨hbuilds⟩ := exists_builds h
  obtain ⟨s, rfl, -, hlinked⟩ := hbuilds.exists_linked hr.wellIndexed
  obtain ⟨node, rest, -, hnode, -⟩ := hlinked.root
  obtain ⟨t, ht⟩ := hnode.exists_leads occurs_selfReferring
  have hdocument : t.document = libraryUri := by
    rw [h, ht {}] at htarget
    simpa [Except.toOption] using htarget
  refine ⟨libraryRegistry, {}, {}, selfReferring, v, s.registry, "#/$defs/n", t, hr, h, by decide,
    hv ▸ occurs_selfReferring, hv ▸ ht, ?_⟩
  rw [hdocument, hv]
  decide

set_option maxRecDepth 10000 in
theorem self_reference_selfReferring : ∃ v r' t,
    Registry.Reachable {} ∧ buildIn {} {} {} selfReferring = (.ok v, r') ∧
      r'.Leads v.document "#/$defs/n" t ∧ t.document = v.document := by
  obtain ⟨v, r', h, hv⟩ := exists_build_of_document {} {} {} selfReferring selfReferringUri
    (by decide +kernel)
  have hlength : (buildIn {} {} {} selfReferring).2.documents.length = 1 := by decide +kernel
  obtain ⟨before, d, after, hdocuments, -, -, hreferences⟩ := self_reference_iff .empty h
  obtain ⟨hresolved, hiff⟩ := hreferences "#/$defs/n" (by decide)
  obtain ⟨t, ht⟩ := hresolved (hv ▸ occurs_selfReferring)
  have hbefore : before = [] := by
    rw [h, hdocuments] at hlength
    exact List.eq_nil_of_length_eq_zero (by simp at hlength; omega)
  have hfirst : d.DeclaresFirst before (Url.ownFragment "#/$defs/n") := by
    rw [Document.DeclaresFirst, if_pos (by decide +kernel), hbefore]
    simp
  exact ⟨v, r', t, .empty, h, ht, (hiff t ht).mpr hfirst⟩

end Options
end JsonSchema
