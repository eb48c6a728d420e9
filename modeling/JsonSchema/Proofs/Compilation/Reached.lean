import JsonSchema.Proofs.Compilation.Inside
import JsonSchema.Proofs.Registry.Soundness

/-!
# What compilation comes to

The positions that compilation comes to from a schema: the schemas inside a schema object, each with
the base that is in effect there, and the targets of references. All of them are positions of
documents that are kept, and what is compiled is what stands there.
-/

namespace JsonSchema

open Compile

variable {r : Registry}

/-- A value stands at a place of a document that is kept, up to the order of its members. -/
def Registry.Shows (r : Registry) (place : Place) (v : Value) : Prop :=
  ∃ d stored, r.get? place.document = some d ∧ d.contents.at? place.pointer = some stored ∧
    stored.identical v = true ∧ stored.WellFormed ∧ v.WellFormed

theorem Registry.Shows.wellFormed {place : Place} {v : Value} (h : r.Shows place v) :
    v.WellFormed := by
  obtain ⟨-, -, -, -, -, -, hv⟩ := h
  exact hv

theorem Registry.Shows.along {place : Place} {v w : Value} (h : r.Shows place v)
    {path : List String} (hw : v.follow? path = some w) :
    r.Shows { place with pointer := place.pointer ++ ⟨path⟩ } w := by
  obtain ⟨d, stored, hd, hat, hidentical, hstored, hv⟩ := h
  obtain ⟨stored', hstored', hidentical'⟩ := Value.identical_follow? hidentical hstored hw
  exact ⟨d, stored', hd, (Value.at?_append hat).trans hstored', hidentical',
    hstored.of_follow? hstored', hv.of_follow? hw⟩

/-- The target of a reference stands at its place. -/
theorem Registry.shows_of_leads (hr : r.WellIndexed) (hwf : r.WellFormed) {base : Url}
    {reference : String} {t : Target} (h : r.Leads base reference t) :
    r.Shows t.place t.contents := by
  obtain ⟨⟨d, hd, hat, -⟩, -⟩ := Registry.leads_of_resolve hr (h {})
  have hcontents := (hwf d (List.mem_of_find?_eq_some hd)).of_follow? hat
  exact ⟨d, t.contents, hd, hat, Value.identical_refl hcontents, hcontents, hcontents⟩

/-- A schema in the value of a keyword is what its path leads to. -/
theorem Keyword.HoldsAt.follow? {k : Keyword} {v schema : Value} {path : List String}
    (h : k.HoldsAt v path schema) (hv : v.WellFormed) : v.follow? path = some schema := by
  cases h with
  | property h => exact Value.follow?_singleton.trans (hv.lookup h)
  | item h | allOf h | anyOf h | oneOf h =>
      exact Value.follow?_singleton.trans (Value.child?_toString h)
  | items | not | condition | branch => rfl

namespace Compile

variable {maps : Value → Prop} {c₀ c : Context} {schema₀ v : Value}

/-- Compilation that begins with a schema comes to another one. Its slots are memoized, so a
reference to the schema that it began with leads nowhere new. Schemas are come to through such maps
of properties as are allowed. -/
inductive Reached (r : Registry) (maps : Value → Prop) (c₀ : Context) (schema₀ : Value) :
    Context → Value → Prop
  | root : Reached r maps c₀ schema₀ c₀ schema₀
  | inside {c inner members name k v path schema}
      (h : Reached r maps c₀ schema₀ c (.object members)) (hinside : c.inside members = .ok inner)
      (hmem : (name, v) ∈ members) (hname : Keyword.ofName? name = some k)
      (hschema : k.HoldsAt v path schema) (hmap : k = .properties → maps v) :
      Reached r maps c₀ schema₀ ((inner.key name).along path) schema
  | follow {c inner members reference t}
      (h : Reached r maps c₀ schema₀ c (.object members)) (hinside : c.inside members = .ok inner)
      (hmem : ("$ref", .string reference) ∈ members)
      (hleads : r.Leads inner.base reference t) (hplace : t.place ≠ c₀.place) :
      Reached r maps c₀ schema₀ (targetContext t) t.contents

/-- With no restriction on maps, what is inside is come to. -/
theorem inherited_reached : Inherited (Reached r (fun _ => True) c₀ schema₀) :=
  fun _ _ _ _ _ _ _ _ h hinside hmem hname hschema =>
    .inside h hinside hmem hname hschema fun _ => trivial

theorem Reached.shows (hr : r.WellIndexed) (hwf : r.WellFormed)
    (hroot : r.Shows c₀.place schema₀) (h : Reached r maps c₀ schema₀ c v) :
    r.Shows c.place v := by
  induction h with
  | root => exact hroot
  | @inside c inner members name k v path schema _ hinside hmem hname hschema _ ih =>
      have hmembers := ih.wellFormed
      have hmember : (Value.object members).follow? [name] = some v :=
        Value.follow?_singleton.trans (hmembers.lookup hmem)
      have hpath : (Value.object members).follow? ([name] ++ path) = some schema :=
        (Value.follow?_append_of_eq hmember).trans (hschema.follow? (hmembers.of_mem hmem))
      simpa [Context.along, Context.key, Context.place_of_inside hinside, Pointer.key,
        Pointer.append_eq] using ih.along hpath
  | follow _ _ _ hleads _ _ => exact Registry.shows_of_leads hr hwf hleads

/-- What compilation comes to in a successful build is compiled. -/
theorem Reached.exists_compiled {settings : Settings} {s : State} {uri base : Url}
    {schema x : Value} {validator : Validator}
    (hlinked : Options.Linked settings uri base schema validator s)
    (hr : s.registry.WellIndexed) (hwf : s.registry.WellFormed)
    (hroot : s.registry.Shows ⟨uri, .root⟩ schema)
    (h : Reached s.registry maps ⟨⟨uri, .root⟩, base⟩ schema c x) :
    ∃ n, Compiled settings s c x n := by
  induction h with
  | root => exact ⟨_, hlinked.root_eq⟩
  | inside h hinside hmem hname hschema _ ih =>
      obtain ⟨n, hn⟩ := ih
      have hmembers := (h.shows hr hwf hroot).wellFormed
      exact hn.exists_inside hinside (hmembers.lookup hmem) hname hschema
  | @follow c inner members reference t _ hinside hmem hleads hplace ih =>
      obtain ⟨n, hn⟩ := ih
      obtain ⟨node, hmember⟩ := hn.exists_member hinside hmem
      obtain ⟨t', hleads', slot, hslot, -⟩ := hmember.exists_target
      obtain rfl := hleads.unique hleads'
      obtain ⟨c', x', n', hplace', hschema, -, hn'⟩ := hlinked.exists_node hslot
      cases hschema with
      | root => exact absurd hplace'.symm hplace
      | @target t' ht' _ =>
          obtain rfl := ht'.unique (Registry.leads_of_resolve hr (hleads {})).1 hplace'
          exact ⟨n', hn'⟩

/-- In a successful build, no map of properties has a string under `$id`: this is no schema. -/
theorem Reached.unnamed {settings : Settings} {s : State} {uri base : Url} {schema x : Value}
    {validator : Validator} (hlinked : Options.Linked settings uri base schema validator s)
    (hr : s.registry.WellIndexed) (hwf : s.registry.WellFormed)
    (hroot : s.registry.Shows ⟨uri, .root⟩ schema)
    (h : Reached s.registry maps ⟨⟨uri, .root⟩, base⟩ schema c x) :
    Reached s.registry Value.Unnamed ⟨⟨uri, .root⟩, base⟩ schema c x := by
  induction h with
  | root => exact .root
  | @inside c inner members name k v path schema h hinside hmem hname hschema _ ih =>
      refine .inside ih hinside hmem hname hschema ?_
      rintro rfl id hid
      obtain ⟨schemas, rfl⟩ : ∃ schemas, v = .object schemas := by
        cases hschema
        exact ⟨_, rfl⟩
      obtain ⟨n, hn⟩ := h.exists_compiled hlinked hr hwf hroot
      have hmembers := (h.shows hr hwf hroot).wellFormed
      obtain ⟨n', hn'⟩ := hn.exists_inside hinside (hmembers.lookup hmem) hname
        (.property (mem_of_lookup hid))
      cases hn'
  | follow _ hinside hmem hleads hplace ih => exact .follow ih hinside hmem hleads hplace

end Compile

/-- Compilation begins with what the document of the schema holds. -/
theorem Options.Enters.shows_root {o : Options} {schema : Value} (h : Options.Enters o schema r)
    {store : Store} (hwf : (o.buildIn store r schema).2.WellFormed) (hschema : schema.WellFormed) :
    (o.buildIn store r schema).2.Shows ⟨h.uri, .root⟩ schema := by
  have hget := h.get?_root store
  exact ⟨h.root, h.root.contents, hget, rfl, h.identical, hwf _ (List.mem_of_find?_eq_some hget),
    hschema⟩

end JsonSchema
