import JsonSchema.Proofs.Compilation.Acceptance
import JsonSchema.Proofs.Compilation.Documents
import JsonSchema.Proofs.Meaning.Counterparts
import JsonSchema.Proofs.Registry.Lone

/-!
# Builds of schemas that say the same

Two schemas are built with nothing around them. If at each position that is visited in the one, the
other one has a schema that says the same, and references lead to the same positions in both, then
what is visited in the other one has its counterpart in the one. So the other one is accepted as
well, and judges all values alike.
-/

namespace JsonSchema

open Compile Meaning Relation

/-! ## One document -/

namespace Options

variable {o : Options} {schema : Value}

/-- A build with nothing around the schema leaves a registry with its document and no other. -/
theorem Enters.single (h : Enters o schema {}) (hdocuments : o.documents = [])
    (hstore : o.store = none) (hschema : schema.WellFormed) :
    (o.build schema).2.Single ⟨h.uri, o.base, schema⟩ := by
  obtain ⟨steps, hbuild⟩ : ∃ steps, o.build schema = compileRoot (o.settings (o.store.getD {}))
      steps h.uri o.base schema h.inserted := ⟨_, h.buildIn_eq _⟩
  have hevolves : Registry.Evolves {} (o.build schema).2 := evolves_buildIn o _ schema
  have hindexed := hevolves.wellIndexed Registry.wellIndexed_empty
  have hgrows : Registry.Grows h.inserted (o.build schema).2 := h.grows_buildIn _
  obtain ⟨-, hinserted⟩ := Registry.add_ok (h.add_eq hdocuments)
  have hempty (uri : Url) (contents : Value) :
      (o.settings (o.store.getD {})).retriever.find? uri = some contents →
        (⟨uri, uri, contents⟩ : Document) = ⟨h.uri, o.base, schema⟩ := by
    simp [settings, hstore, Store.retriever, Store.find?]
  have hsame := forall_compileRoot (r := h.inserted) (P := (· = ⟨h.uri, o.base, schema⟩)) steps
    h.uri o.base schema (by simp [hinserted]) hempty
  rw [← hbuild] at hsame
  have hone : (o.build schema).2.documents = [⟨h.uri, o.base, schema⟩] := by
    obtain ⟨rest, hrest⟩ := hgrows.documents
    have hdistinct := hindexed.distinct
    rw [hinserted, List.nil_append] at hrest
    rw [← hrest] at hsame hdistinct ⊢
    cases rest with
    | nil => rfl
    | cons e rest =>
        rw [hsame e (by simp)] at hdistinct
        simp at hdistinct
  have hwf : (o.build schema).2.WellFormed := by
    rw [Registry.WellFormed, hone]
    exact List.forall_mem_singleton.mpr hschema
  have hdeclared := hevolves.declared
  rw [hone, List.forall_mem_singleton] at hdeclared
  exact ⟨hone, hindexed, hevolves.sound hwf, o.withoutFragment_base, hschema, hdeclared⟩

end Options

/-! ## Positions -/

/-- Where compilation of a document begins. -/
def Document.start (d : Document) : Context := ⟨⟨d.uri, .root⟩, d.base⟩

namespace Compile

variable {r r' : Registry} {d d' : Document} {c inner : Context} {v v' : Value}
variable {members members' : List (String × Value)}

/-- What is visited stands at its place. -/
theorem Visited.at?_eq (h : Visited {} r d.start d.contents c v) (hr : r.Single d) :
    c.place.document = d.uri ∧ d.contents.at? c.place.pointer = some v := by
  induction h with
  | root => exact ⟨rfl, rfl⟩
  | @inside c inner members name k v path schema _ hinside hmem _ hschema ih =>
      obtain ⟨hdocument, hat⟩ := ih
      have hplace := Context.place_of_inside hinside
      have hobject := hr.wellRead.contents.of_follow? hat
      have hmember : (Value.object members).follow? [name] = some v :=
        Value.follow?_singleton.trans (hobject.lookup hmem)
      have hpath : (Value.object members).at? ⟨[name] ++ path⟩ = some schema :=
        (Value.follow?_append_of_eq hmember).trans (hschema.follow? (hobject.of_mem hmem))
      refine ⟨by simpa [Context.along, Context.key, hplace] using hdocument, ?_⟩
      have hwhole := (Value.at?_append hat).trans hpath
      simpa [Context.along, Context.key, hplace, Pointer.key, Pointer.append_eq] using hwhole
  | follow _ _ _ hfollows _ =>
      obtain ⟨-, -, -, -, -, hdocument, hat, -⟩ := hr.follows_iff.mp hfollows
      exact ⟨hdocument, hat⟩

/-- A schema that is visited, and the value at its position in another document. -/
structure Counterpart (r : Registry) (d d' : Document) (c : Context) (v v' : Value) : Prop where
  visited : Visited {} r d.start d.contents c v
  position : d'.contents.at? c.place.pointer = some v'

/-- Wherever a document is visited, another document under the same URL says the same, and it
declares alike what references ask for. -/
structure Counterparts (r r' : Registry) (d d' : Document) : Prop where
  single : r.Single d
  single' : r'.Single d'
  uri : d'.uri = d.uri
  base : d'.base = d.base
  admissible : ∀ c v, Visited {} r d.start d.contents c v → Admissible {} r c v
  same : ∀ c v, Visited {} r d.start d.contents c v →
    ∃ v', d'.contents.at? c.place.pointer = some v' ∧ v.SaysSame v'
  declared : ∀ c inner members text t, Visited {} r d.start d.contents c (.object members) →
    c.inside members = .ok inner → ("$ref", .string text) ∈ members →
      r.Follows {} inner.base text t →
        Registry.DeclaresAlike d d' inner.base text ∧
          d'.baseAt t.pointer = d.baseAt t.pointer ∧ (d'.contents.at? t.pointer).isSome

end Compile

/-! ## Keywords that say the same -/

section SaysSame

variable {k : Keyword} {v v' schema : Value} {name : String}
variable {members members' : List (String × Value)}

theorem Value.SameLength.symm (h : v.SameLength v') : v'.SameLength v := by
  obtain ⟨items, items', hv, hv', hlength⟩ := h
  exact ⟨items', items, hv', hv, hlength.symm⟩

theorem Keyword.SaysSame.symm (h : k.SaysSame v v') : k.SaysSame v' v := by
  cases k with
  | enum | const => exact fun x => (h x).symm
  | properties =>
      obtain ⟨schemas, schemas', hv, hv', hnames⟩ := h
      exact ⟨schemas', schemas, hv', hv, fun name => (hnames name).symm⟩
  | items => exact h.imp Value.SameLength.symm And.symm
  | allOf | anyOf | oneOf => exact Value.SameLength.symm h
  | not | condition | branch _ | informative => trivial
  | _ => exact Eq.symm h

/-- Where the one holds a schema, the other does so too. -/
theorem Keyword.HoldsAt.exists_same {path : List String} (h : k.HoldsAt v path schema)
    (hv : k.SaysSame v v') : ∃ schema', k.HoldsAt v' path schema' := by
  have hitem {items : List Value} {i : Nat} (hi : items[i]? = some schema)
      (hlength : (Value.array items).SameLength v') :
      ∃ items' schema', v' = .array items' ∧ items'[i]? = some schema' := by
    obtain ⟨_, items', ⟨⟩, rfl, hlength⟩ := hlength
    have hlt : i < items'.length := hlength ▸ (List.getElem?_eq_some_iff.mp hi).1
    exact ⟨items', items'[i], rfl, List.getElem?_eq_getElem hlt⟩
  cases h with
  | property hmem =>
      obtain ⟨_, schemas', ⟨⟩, rfl, hnames⟩ := hv
      obtain ⟨⟨_, schema'⟩, hmem', rfl⟩ :=
        List.mem_map.mp ((hnames _).mp (List.mem_map_of_mem hmem))
      exact ⟨schema', .property hmem'⟩
  | items hne =>
      rcases hv with ⟨items, -, hv, -⟩ | ⟨-, hv'⟩
      · exact absurd hv (hne items)
      · exact ⟨v', .items hv'⟩
  | item hi =>
      rcases hv with hv | ⟨hv, -⟩
      · obtain ⟨items', schema', rfl, hi'⟩ := hitem hi hv
        exact ⟨schema', .item hi'⟩
      · exact absurd rfl (hv _)
  | allOf hi =>
      obtain ⟨items', schema', rfl, hi'⟩ := hitem hi hv
      exact ⟨schema', .allOf hi'⟩
  | anyOf hi =>
      obtain ⟨items', schema', rfl, hi'⟩ := hitem hi hv
      exact ⟨schema', .anyOf hi'⟩
  | oneOf hi =>
      obtain ⟨items', schema', rfl, hi'⟩ := hitem hi hv
      exact ⟨schema', .oneOf hi'⟩
  | not => exact ⟨v', .not⟩
  | condition => exact ⟨v', .condition⟩
  | branch => exact ⟨v', .branch⟩

theorem Value.IsSchema.of_saysSame (h : v.IsSchema) (hv : v.SaysSame v') : v'.IsSchema := by
  rcases h with ⟨b, rfl⟩ | ⟨members, rfl⟩
  · exact .inl ⟨b, hv⟩
  · obtain ⟨members', hv', -⟩ := hv
    exact .inr ⟨members', hv'⟩

/-- Where a keyword takes the one, it takes the other, if the whole of it is a schema in both or in
none. -/
theorem Keyword.Takes.of_saysSame (h : k.Takes v) (hv : k.SaysSame v v')
    (hinside : k.HoldsAt v [] v → k.HoldsAt v' [] v' → v.SaysSame v') : k.Takes v' := by
  have hlist (htakes : ∃ schemas, v = .array schemas ∧ schemas ≠ []) (hlength : v.SameLength v') :
      ∃ schemas, v' = .array schemas ∧ schemas ≠ [] := by
    obtain ⟨schemas, rfl, hne⟩ := htakes
    obtain ⟨_, items', ⟨⟩, rfl, hlength⟩ := hlength
    refine ⟨items', rfl, ?_⟩
    rwa [← List.length_pos_iff, ← hlength, List.length_pos_iff]
  cases k with
  | enum =>
      obtain ⟨options, rfl⟩ := h
      have hjudged := hv .null
      cases v' with
      | array options' => exact ⟨options', rfl⟩
      | _ => cases hjudged
  | properties =>
      obtain ⟨-, schemas', -, rfl, -⟩ := hv
      exact ⟨schemas', rfl⟩
  | items =>
      rcases hv with ⟨-, items', -, rfl, -⟩ | ⟨hne, hne'⟩
      · exact .inr ⟨items', rfl⟩
      · have hschema : v.IsSchema := h.resolve_right fun ⟨schemas, hv⟩ => hne schemas hv
        exact .inl (hschema.of_saysSame (hinside (.items hne) (.items hne')))
  | allOf | anyOf | oneOf => exact hlist h hv
  | not => exact Value.IsSchema.of_saysSame h (hinside .not .not)
  | condition => exact Value.IsSchema.of_saysSame h (hinside .condition .condition)
  | branch met => exact Value.IsSchema.of_saysSame h (hinside .branch .branch)
  | const | informative => trivial
  | _ =>
      obtain rfl : v = v' := hv
      exact h

namespace SameKeywords

variable (h : SameKeywords members members')

include h

/-- A keyword of the one is a keyword of the other, and says the same there. -/
theorem exists_member (hwf : (Value.object members).WellFormed) (hmem : (name, v) ∈ members)
    (hname : Keyword.ofName? name = some k) (hk : k ≠ .informative) :
    ∃ v', (name, v') ∈ members' ∧ k.SaysSame v v' := by
  have hsame := h.keyword name k hname hk
  rw [hwf.lookup hmem] at hsame
  generalize hlookup : members'.lookup name = found at hsame
  cases hsame with
  | some hsame => exact ⟨_, mem_of_lookup hlookup, hsame⟩

theorem exists_member' (hwf : (Value.object members').WellFormed) (hmem : (name, v') ∈ members')
    (hname : Keyword.ofName? name = some k) (hk : k ≠ .informative) :
    ∃ v, (name, v) ∈ members ∧ k.SaysSame v v' := by
  have hsame := h.keyword name k hname hk
  rw [hwf.lookup hmem] at hsame
  generalize hlookup : members.lookup name = found at hsame
  cases hsame with
  | some hsame => exact ⟨_, mem_of_lookup hlookup, hsame⟩

theorem isSome_lookup (name : String) (k : Keyword) (hname : Keyword.ofName? name = some k)
    (hk : k ≠ .informative) :
    (members.lookup name).isSome = (members'.lookup name).isSome := by
  have hsame := h.keyword name k hname hk
  generalize members.lookup name = found at hsame ⊢
  generalize members'.lookup name = found' at hsame ⊢
  cases hsame <;> rfl

theorem appliesInPlace (happlies : k.AppliesInPlace members') : k.AppliesInPlace members := by
  have hthen := h.isSome_lookup "then" (.branch true) rfl nofun
  have helse := h.isSome_lookup "else" (.branch false) rfl nofun
  have hif := h.isSome_lookup "if" .condition rfl nofun
  cases k with
  | condition =>
      rw [Keyword.AppliesInPlace, hthen, helse]
      exact happlies
  | branch met =>
      rw [Keyword.AppliesInPlace, hif]
      exact happlies
  | _ => exact happlies

theorem inside_eq (c : Context) : c.inside members' = c.inside members := by
  unfold Context.inside
  rw [h.id]

end SameKeywords
end SaysSame

namespace Compile

variable {r r' : Registry} {d d' : Document} {c inner : Context} {v v' : Value}
variable {members members' : List (String × Value)}

namespace Counterparts

variable (H : Counterparts r r' d d')

include H

theorem start_eq : d'.start = d.start := by
  rw [Document.start, Document.start, H.uri, H.base]

theorem saysSame (h : Counterpart r d d' c v v') : v.SaysSame v' := by
  obtain ⟨w, hw, hsame⟩ := H.same c v h.visited
  obtain rfl := Option.some.inj (hw.symm.trans h.position)
  exact hsame

theorem exists_members (h : Counterpart r d d' c v (.object members')) :
    ∃ members, v = .object members ∧ SameKeywords members members' := by
  have hsame := H.saysSame h
  cases v with
  | object members =>
      obtain ⟨_, ⟨⟩, hmembers⟩ := hsame
      exact ⟨members, rfl, hmembers⟩
  | bool b => cases hsame
  | _ => cases hsame

/-- The counterpart of what stands in an object stands in its counterpart. -/
theorem child (h : Counterpart r d d' c (.object members) (.object members'))
    (hinside : c.inside members = .ok inner) {name : String} {k : Keyword}
    {x x' schema schema' : Value} {path : List String} (hmem : (name, x) ∈ members)
    (hmem' : (name, x') ∈ members') (hname : Keyword.ofName? name = some k)
    (hschema : k.HoldsAt x path schema) (hschema' : k.HoldsAt x' path schema') :
    Counterpart r d d' ((inner.key name).along path) schema schema' := by
  refine ⟨.inside h.visited hinside hmem hname hschema, ?_⟩
  have hobject := H.single'.wellRead.contents.of_follow? h.position
  have hmember : (Value.object members').follow? [name] = some x' :=
    Value.follow?_singleton.trans (hobject.lookup hmem')
  have hpath : (Value.object members').at? ⟨[name] ++ path⟩ = some schema' :=
    (Value.follow?_append_of_eq hmember).trans (hschema'.follow? (hobject.of_mem hmem'))
  have hwhole := (Value.at?_append h.position).trans hpath
  simpa [Context.along, Context.key, Context.place_of_inside hinside, Pointer.key,
    Pointer.append_eq] using hwhole

/-- A reference is followed to the counterpart of its target. -/
theorem follow (h : Counterpart r d d' c (.object members) (.object members'))
    (hinside : c.inside members = .ok inner) {text : String} {t : Target}
    (hmem : ("$ref", .string text) ∈ members) (hfollows : r.Follows {} inner.base text t) :
    ∃ w, r'.Follows {} inner.base text { t with contents := w } ∧
      Counterpart r d d' (targetContext t) t.contents w := by
  obtain ⟨hdeclared, hbase, hsome⟩ :=
    H.declared c inner members text t h.visited hinside hmem hfollows
  obtain ⟨w, hw⟩ := Option.isSome_iff_exists.mp hsome
  exact ⟨w, hfollows.transfer H.single H.single' H.uri hdeclared hw hbase,
    .follow h.visited hinside hmem hfollows, hw⟩

theorem wellFormed (h : Counterpart r d d' c v v') : v.WellFormed :=
  H.single.wellRead.contents.of_follow? (h.visited.at?_eq H.single).2

theorem wellFormed' (h : Counterpart r d d' c v v') : v'.WellFormed :=
  H.single'.wellRead.contents.of_follow? h.position

/-- Where a reference of the one leads, that of the other does too. -/
theorem exists_follows (h : Counterpart r d d' c (.object members) (.object members'))
    (hinside : c.inside members = .ok inner) {text : String}
    (hmem : ("$ref", .string text) ∈ members) :
    ∃ t w, r.Follows {} inner.base text t ∧ r'.Follows {} inner.base text { t with contents := w } ∧
      Counterpart r d d' (targetContext t) t.contents w := by
  have hfit : Fit {} r c members := H.admissible c _ h.visited
  obtain ⟨t, hfollows⟩ := hfit.resolves inner text hinside hmem
  obtain ⟨w, hfollows', htarget⟩ := H.follow h hinside hmem hfollows
  exact ⟨t, w, hfollows, hfollows', htarget⟩

/-- One step in the other document: what stands inside an object there is the counterpart of what
stands inside the object of the one. -/
theorem exists_child (h : Counterpart r d d' c (.object members) (.object members'))
    (hsame : SameKeywords members members') (hinside : c.inside members = .ok inner)
    {name : String} {k : Keyword} {x' schema' : Value} {path : List String}
    (hmem' : (name, x') ∈ members') (hname : Keyword.ofName? name = some k)
    (hschema' : k.HoldsAt x' path schema') :
    ∃ x schema, (name, x) ∈ members ∧ k.HoldsAt x path schema ∧
      Counterpart r d d' ((inner.key name).along path) schema schema' := by
  have hk : k ≠ .informative := by
    rintro rfl
    cases hschema'
  obtain ⟨x, hmem, hx⟩ := hsame.exists_member' (H.wellFormed' h) hmem' hname hk
  obtain ⟨schema, hschema⟩ := hschema'.exists_same hx.symm
  exact ⟨x, schema, hmem, hschema, H.child h hinside hmem hmem' hname hschema hschema'⟩

/-- What is visited in the other document is the counterpart of what is visited in the one. -/
theorem exists_counterpart (hvisited : Visited {} r' d'.start d'.contents c v') :
    ∃ v, Counterpart r d d' c v v' := by
  induction hvisited with
  | root =>
      rw [H.start_eq]
      exact ⟨d.contents, .root, rfl⟩
  | inside _ hinside' hmem' hname hschema' ih =>
      obtain ⟨_, h⟩ := ih
      obtain ⟨members, rfl, hsame⟩ := H.exists_members h
      obtain ⟨_, schema, -, -, hchild⟩ :=
        H.exists_child h hsame (hsame.inside_eq _ ▸ hinside') hmem' hname hschema'
      exact ⟨schema, hchild⟩
  | @follow c inner members' text t _ hinside' hmem' hfollows' ih =>
      obtain ⟨_, h⟩ := ih
      obtain ⟨members, rfl, hsame⟩ := H.exists_members h
      have hinside : c.inside members = .ok inner := hsame.inside_eq c ▸ hinside'
      obtain ⟨_, hmem, rfl⟩ := hsame.exists_member' (k := .ref) (H.wellFormed' h) hmem' rfl nofun
      obtain ⟨t₀, w, -, hfollows, htarget⟩ := H.exists_follows h hinside hmem
      obtain rfl := hfollows.unique hfollows'
      exact ⟨t₀.contents, htarget⟩

/-- So it can be compiled as well. -/
theorem admissible_of_counterpart (h : Counterpart r d d' c v v') : Admissible {} r' c v' := by
  have hsays := H.saysSame h
  have hadmissible := H.admissible c v h.visited
  cases v with
  | bool b =>
      obtain rfl : v' = .bool b := hsays
      trivial
  | object members =>
      obtain ⟨members', rfl, hsame⟩ := hsays
      have hfit : Fit {} r c members := hadmissible
      obtain ⟨inner, hinside⟩ := exists_inside_iff.mpr hfit.id
      show Fit {} r' c members'
      constructor
      · intro id hid
        exact hfit.id id (hsame.id ▸ hid)
      · intro name hname
        exact hfit.anchor name (hsame.anchor ▸ hname)
      · intro name x' k hmem' hname
        by_cases hk : k = .informative
        · rw [hk]
          trivial
        · obtain ⟨x, hmem, hx⟩ := hsame.exists_member' (H.wellFormed' h) hmem' hname hk
          refine (hfit.takes name x k hmem hname).of_saysSame hx fun hschema hschema' => ?_
          exact H.saysSame (H.child h hinside hmem hmem' hname hschema hschema')
      · intro inner' text hinside' hmem'
        obtain rfl : inner = inner' :=
          Except.ok.inj (hinside.symm.trans (hsame.inside_eq c ▸ hinside'))
        obtain ⟨_, hmem, rfl⟩ := hsame.exists_member' (k := .ref) (H.wellFormed' h) hmem' rfl nofun
        obtain ⟨t, w, -, hfollows, -⟩ := H.exists_follows h hinside hmem
        exact ⟨_, hfollows⟩
      · intro hstrict
        cases hstrict
  | _ => cases hadmissible

theorem admissible' (hvisited : Visited {} r' d'.start d'.contents c v') :
    Admissible {} r' c v' := by
  obtain ⟨v, h⟩ := H.exists_counterpart hvisited
  exact H.admissible_of_counterpart h

/-- What is visited in the one has a counterpart that is visited in the other. -/
theorem exists_visited (hvisited : Visited {} r d.start d.contents c v) :
    ∃ v', Counterpart r d d' c v v' ∧ Visited {} r' d'.start d'.contents c v' := by
  induction hvisited with
  | root => exact ⟨d'.contents, ⟨.root, rfl⟩, H.start_eq ▸ .root⟩
  | @inside c inner members name k v path schema _ hinside hmem hname hschema ih =>
      obtain ⟨v', h, hvisited'⟩ := ih
      obtain ⟨members', rfl, hsame⟩ := H.saysSame h
      have hk : k ≠ .informative := by
        rintro rfl
        cases hschema
      obtain ⟨x', hmem', hx⟩ := hsame.exists_member (H.wellFormed h) hmem hname hk
      obtain ⟨schema', hschema'⟩ := hschema.exists_same hx
      exact ⟨schema', H.child h hinside hmem hmem' hname hschema hschema',
        .inside hvisited' ((hsame.inside_eq _).trans hinside) hmem' hname hschema'⟩
  | follow _ hinside hmem hfollows ih =>
      obtain ⟨v', h, hvisited'⟩ := ih
      obtain ⟨members', rfl, hsame⟩ := H.saysSame h
      obtain ⟨_, hmem', rfl⟩ := hsame.exists_member (k := .ref) (H.wellFormed h) hmem rfl nofun
      obtain ⟨w, hfollows', htarget⟩ := H.follow h hinside hmem hfollows
      exact ⟨w, htarget, .follow hvisited' ((hsame.inside_eq _).trans hinside) hmem' hfollows'⟩

/-- References lead to the same places in both. -/
theorem exists_referred_iff {place : Place} :
    (∃ t, Referred {} r d.start d.contents t ∧ t.place = place) ↔
      ∃ t, Referred {} r' d'.start d'.contents t ∧ t.place = place := by
  constructor
  · rintro ⟨t, ⟨c, inner, members, text, hvisited, hinside, hmem, hfollows⟩, rfl⟩
    obtain ⟨v', h, hvisited'⟩ := H.exists_visited hvisited
    obtain ⟨members', rfl, hsame⟩ := H.saysSame h
    obtain ⟨_, hmem', rfl⟩ := hsame.exists_member (k := .ref) (H.wellFormed h) hmem rfl nofun
    obtain ⟨w, hfollows', -⟩ := H.follow h hinside hmem hfollows
    exact ⟨_, ⟨c, inner, members', text, hvisited', (hsame.inside_eq c).trans hinside, hmem',
      hfollows'⟩, rfl⟩
  · rintro ⟨t, ⟨c, inner, members', text, hvisited', hinside', hmem', hfollows'⟩, rfl⟩
    obtain ⟨_, h⟩ := H.exists_counterpart hvisited'
    obtain ⟨members, rfl, hsame⟩ := H.exists_members h
    have hinside : c.inside members = .ok inner := hsame.inside_eq c ▸ hinside'
    obtain ⟨_, hmem, rfl⟩ := hsame.exists_member' (k := .ref) (H.wellFormed' h) hmem' rfl nofun
    obtain ⟨t₀, w, hfollows₀, hfollows, -⟩ := H.exists_follows h hinside hmem
    obtain rfl := hfollows.unique hfollows'
    exact ⟨t₀, ⟨c, inner, members, text, h.visited, hinside, hmem, hfollows₀⟩, rfl⟩

/-! ## Applications in place -/

/-- What the counterpart of a schema applies is the counterpart of what the schema applies. -/
theorem exists_applies {p q : Context × Value} (h : Counterpart r d d' p.1 v p.2)
    (happlies : Applies {} r' p q) :
    ∃ w, Counterpart r d d' q.1 w q.2 ∧ Applies {} r (p.1, v) (q.1, w) := by
  cases happlies with
  | @keyword c inner members' name k x' path schema' hinside' hmem' hname happlies hschema' =>
      obtain ⟨members, rfl, hsame⟩ := H.exists_members h
      have hinside : c.inside members = .ok inner := hsame.inside_eq c ▸ hinside'
      obtain ⟨x, schema, hmem, hschema, hchild⟩ :=
        H.exists_child h hsame hinside hmem' hname hschema'
      exact ⟨schema, hchild,
        .keyword hinside hmem hname (hsame.appliesInPlace happlies) hschema⟩
  | @reference c inner members' text t hinside' hmem' hfollows' =>
      obtain ⟨members, rfl, hsame⟩ := H.exists_members h
      have hinside : c.inside members = .ok inner := hsame.inside_eq c ▸ hinside'
      obtain ⟨_, hmem, rfl⟩ := hsame.exists_member' (k := .ref) (H.wellFormed' h) hmem' rfl nofun
      obtain ⟨t₀, w, hfollows₀, hfollows, htarget⟩ := H.exists_follows h hinside hmem
      obtain rfl := hfollows.unique hfollows'
      exact ⟨t₀.contents, htarget, .reference hinside hmem hfollows₀⟩

theorem exists_transGen {p q : Context × Value} (h : Counterpart r d d' p.1 v p.2)
    (happlies : TransGen (Applies {} r') p q) :
    ∃ w, Counterpart r d d' q.1 w q.2 ∧ TransGen (Applies {} r) (p.1, v) (q.1, w) := by
  induction happlies with
  | single happlies =>
      obtain ⟨w, hw, hstep⟩ := H.exists_applies h happlies
      exact ⟨w, hw, .single hstep⟩
  | tail _ happlies ih =>
      obtain ⟨w, hw, hsteps⟩ := ih
      obtain ⟨w', hw', hstep⟩ := H.exists_applies hw happlies
      exact ⟨w', hw', hsteps.tail hstep⟩

/-- If no schema of the one applies itself, none of the other does: there is one schema at a
place. -/
theorem acyclic' (hacyclic : ∀ c v, Visited {} r d.start d.contents c v →
      ¬TransGen (Applies {} r) (c, v) (c, v))
    (hvisited : Visited {} r' d'.start d'.contents c v') :
    ¬TransGen (Applies {} r') (c, v') (c, v') := by
  intro happlies
  obtain ⟨v, h⟩ := H.exists_counterpart hvisited
  obtain ⟨w, hw, hsteps⟩ := H.exists_transGen (p := (c, v')) h happlies
  have hat := (h.visited.at?_eq H.single).2
  have hat' := (hw.visited.at?_eq H.single).2
  obtain rfl : v = w := Option.some.inj (hat.symm.trans hat')
  exact hacyclic c v h.visited hsteps

end Counterparts
end Compile
end JsonSchema
