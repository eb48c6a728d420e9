import JsonSchema.Proofs.Compilation.Reached

/-!
# Three walks with one base

The base at a position is found by the walk that looks for declarations, by the walk to the target
of a reference, and on the way of compilation. Wherever compilation comes, it has the base that the
other two find there, if the `$id` of the schema leads to its URL from the base that its document is
kept with. A document that was put into the registry before is kept with its own URL as the base; a
relative `$id` is then resolved twice, and the walks part.
-/

namespace JsonSchema

open Compile

/-- The `$id` of a document leads from the base before it to the URL of the document. -/
def Document.NamesItself (d : Document) : Prop := baseInside d.base d.contents = .ok d.uri

/-- The base of a context is the one that other walks find at its place. -/
structure Registry.BaseAgrees (r : Registry) (c : Context) : Prop where
  /-- The walk to the target of a reference. -/
  pointed : ∃ d, r.get? c.place.document = some d ∧ d.baseAt c.place.pointer = .ok c.base
  /-- The walk that looks for declarations, where it comes to the place. -/
  scanned : ∀ d b v, r.get? c.place.document = some d →
    Declarations.Scanned d.base ⟨d.uri, .root⟩ d.contents b c.place v → b = c.base
  /-- As the target of a reference, what stands there is compiled in the same context. -/
  target : ∀ t, r.IsTarget t → t.place = c.place → targetContext t = c

namespace Registry

variable {r : Registry} {c : Context}

theorem baseAgrees_of_baseAt (hr : r.WellIndexed) (hwf : r.WellFormed) {d : Document}
    (hd : r.get? c.place.document = some d) (hbase : d.baseAt c.place.pointer = .ok c.base) :
    r.BaseAgrees c := by
  refine ⟨⟨d, hd, hbase⟩, ?_, ?_⟩
  · intro d' b v hd' hscanned
    obtain rfl : d = d' := Option.some.inj (hd.symm.trans hd')
    have hmem := List.mem_of_find?_eq_some hd
    obtain ⟨-, -, hbase', -⟩ := hscanned.baseAt (hr.bareBase d hmem) (hwf d hmem)
    exact Except.ok.inj (hbase'.symm.trans hbase)
  · rintro t ⟨d', hd', -, hbase'⟩ hplace
    obtain ⟨place, base⟩ := c
    subst hplace
    obtain rfl : d = d' := Option.some.inj (hd.symm.trans hd')
    exact congrArg (Context.mk t.place) (Except.ok.inj (hbase'.symm.trans hbase))

end Registry

/-- Down to a schema in the value of a keyword, the base stays as it is. -/
theorem Keyword.HoldsAt.along {k : Keyword} {v schema : Value} {path : List String}
    (h : k.HoldsAt v path schema) (hv : v.WellFormed) (hmap : k = .properties → v.Unnamed)
    (base : Url) : Document.Along base v path base schema := by
  cases h with
  | property hmem =>
      exact .cons (Document.baseInside_of_unnamed (hmap rfl) base) (Value.child?_of_mem hv hmem)
        (.refl _ _)
  | item h | allOf h | anyOf h | oneOf h =>
      exact .cons (Document.baseInside_of_unnamed (Value.unnamed_array _) base)
        (Value.child?_toString h) (.refl _ _)
  | items | not | condition | branch => exact .refl _ _

namespace Compile

variable {r : Registry} {c₀ c inner : Context} {schema₀ v x : Value}
variable {members : List (String × Value)}

/-- Compilation sets the base inside an object as the walk to a pointer does. -/
theorem Context.baseInside_of_inside (hbare : c.base.withoutFragment = c.base)
    (h : c.inside members = .ok inner) :
    Document.baseInside c.base (.object members) = .ok inner.base := by
  unfold inside at h
  unfold Document.baseInside
  simp only [Value.get?]
  split at h
  · rename_i hid
    cases h
    simp [hid]
  · rename_i id hid
    simp only [hid]
    split at h
    · rename_i hfragment
      cases h
      rw [Declarations.joinId_eq_ok.mpr (Url.join_of_isFragmentOnly c.base hfragment)]
      exact congrArg Except.ok hbare
    · split at h
      · rename_i url hjoin
        cases h
        rw [Declarations.joinId_eq_ok.mpr hjoin]
        rfl
      · cases h
  · cases h

/-- A schema inside an object has the base of the object, wherever the object stands. -/
theorem baseAt_inside {d : Document} {p : Pointer} {b base : Url} {stored schema : Value}
    {name : String} {k : Keyword} {path : List String}
    (halong : Document.Along d.base d.contents p.tokens b stored)
    (hidentical : stored.identical (.object members) = true) (hstored : stored.WellFormed)
    (hmembers : (Value.object members).WellFormed)
    (hbase : Document.baseInside b (.object members) = .ok base) (hmem : (name, v) ∈ members)
    (hschema : k.HoldsAt v path schema) (hmap : k = .properties → v.Unnamed) :
    d.baseAt (p ++ ⟨name :: path⟩) = .ok base := by
  have hinside : Document.Along b (.object members) (name :: path) base schema :=
    .cons hbase (Value.child?_of_mem hmembers hmem)
      (hschema.along (hmembers.of_mem hmem) hmap base)
  obtain ⟨y, hy, -⟩ := hinside.of_identical hidentical hstored
  exact (Document.along_iff.mp (halong.append hy)).2

/-- Conversely, the base there is that of the object. -/
theorem baseInside_of_baseAt {d : Document} {base : Url} {schema : Value} {name : String}
    {k : Keyword} {path : List String} (hidentical : d.contents.identical (.object members) = true)
    (hcontents : d.contents.WellFormed) (hmembers : (Value.object members).WellFormed)
    (hmem : (name, v) ∈ members) (hschema : k.HoldsAt v path schema)
    (hmap : k = .properties → v.Unnamed) (hbase : d.baseAt (.root ++ ⟨name :: path⟩) = .ok base) :
    Document.baseInside d.base d.contents = .ok base := by
  cases hinside : Document.baseInside d.base d.contents with
  | error e => simp [Document.baseAt, Document.baseAlong, hinside] at hbase
  | ok inner =>
      have hobject := (Document.baseInside_of_identical hidentical hcontents d.base).symm
      have hthere := baseAt_inside (.refl d.base d.contents) hidentical hcontents hmembers
        (hobject.trans hinside) hmem hschema hmap
      exact hthere.symm.trans hbase

theorem Context.along_key_of_inside (hinside : c.inside members = .ok inner) (name : String)
    (path : List String) : (inner.key name).along path =
      ⟨{ c.place with pointer := c.place.pointer ++ ⟨name :: path⟩ }, inner.base⟩ := by
  simp [along, key, place_of_inside hinside, Pointer.key, Pointer.append_eq]

/-- Wherever compilation comes from a schema, it has the base that is found on the way there from
the root of the document, if this is so inside the schema itself. -/
theorem Reached.baseAt (hr : r.WellIndexed) (hwf : r.WellFormed) {d : Document}
    (hd : r.get? c₀.place.document = some d) (hpointer : c₀.place.pointer = .root)
    (hidentical : d.contents.identical schema₀ = true) (hschema₀ : schema₀.WellFormed)
    (hnames : ∀ members inner, schema₀ = .object members → c₀.inside members = .ok inner →
      Document.baseInside d.base schema₀ = .ok inner.base)
    (h : Reached r Value.Unnamed c₀ schema₀ c x) : (c = c₀ ∧ x = schema₀) ∨
      c.place ≠ c₀.place ∧ ∃ d, r.get? c.place.document = some d ∧
        d.baseAt c.place.pointer = .ok c.base := by
  have hcontents := hwf d (List.mem_of_find?_eq_some hd)
  have hroot : r.Shows c₀.place schema₀ := by
    refine ⟨d, d.contents, hd, ?_, hidentical, hcontents, hschema₀⟩
    rw [hpointer]
    rfl
  induction h with
  | root => exact .inl ⟨rfl, rfl⟩
  | @inside c inner members name k v path schema h hinside hmem hname hschema hmap ih =>
      rw [Context.along_key_of_inside hinside]
      refine .inr ⟨fun heq => ?_, ?_⟩
      · have hroot := (congrArg Place.pointer heq).trans hpointer
        simpa using congrArg Pointer.tokens hroot
      · rcases ih with ⟨rfl, rfl⟩ | ⟨hplace, d', hd', hbase⟩
        · refine ⟨d, hd, ?_⟩
          refine baseAt_inside ?_ hidentical hcontents hschema₀ (hnames members inner rfl hinside)
            hmem hschema hmap
          rw [hpointer]
          exact .refl _ _
        · obtain ⟨d'', stored, hd'', hat, hidentical', hstored, hmembers⟩ := h.shows hr hwf hroot
          obtain rfl : d' = d'' := Option.some.inj (hd'.symm.trans hd'')
          have halong := Document.along_iff.mpr ⟨hat, hbase⟩
          have hbare := halong.withoutFragment (hr.bareBase d' (List.mem_of_find?_eq_some hd'))
          have hinner := Context.baseInside_of_inside hbare hinside
          refine ⟨d', hd', ?_⟩
          exact baseAt_inside halong hidentical' hstored hmembers hinner hmem hschema hmap
  | @follow c inner members reference t _ _ _ hleads hplace =>
      obtain ⟨⟨d', hd', -, hbase⟩, -⟩ := Registry.leads_of_resolve hr (hleads {})
      exact .inr ⟨hplace, d', hd', hbase⟩

end Compile

namespace Options

variable {r r' : Registry} {o : Options} {store : Store} {schema : Value}

/-- Where the compilation of the schema begins. -/
def Enters.context (h : Enters o schema r) : Context := ⟨⟨h.uri, .root⟩, o.base⟩

/-- A document that is put into the registry by the build names itself. -/
theorem Enters.namesItself_of_fresh (h : Enters o schema r) (hfresh : h.before.get? h.uri = none) :
    h.root.NamesItself := by
  have hinsert := h.insertAt_eq
  rw [Registry.insertAt, hfresh] at hinsert
  obtain ⟨hroot, -⟩ := Registry.add_ok hinsert
  rw [Document.NamesItself, hroot, withoutFragment_base, h.withoutFragment_uri]
  exact h.baseInside_eq

/-- The base inside the schema is its URL. -/
theorem Enters.base_of_inside (h : Enters o schema r) {members : List (String × Value)}
    {inner : Context} (hschema : schema = .object members)
    (hinside : h.context.inside members = .ok inner) : inner.base = h.uri := by
  have hbase := Context.baseInside_of_inside o.withoutFragment_base hinside
  rw [← hschema] at hbase
  exact Except.ok.inj (hbase.symm.trans h.baseInside_eq)

/-- How the bases of compilation and those of the registry that is left compare. -/
structure Enters.Bases (h : Enters o schema r) (store : Store) (r' : Registry) : Prop where
  kept : r'.get? h.uri = some h.root
  /-- A document that was not there before the build names itself. -/
  fresh : h.before.get? h.uri = none → h.root.NamesItself
  /-- If the document names itself, the bases agree wherever compilation comes. -/
  agree : h.root.NamesItself → ∀ c x, Reached r' Value.Unnamed h.context schema c x →
    c.place ≠ h.context.place → r'.BaseAgrees c
  /-- Also inside the schema itself, to which references come back. -/
  root : h.root.NamesItself → ∀ members inner, schema = .object members →
    h.context.inside members = .ok inner →
      Document.baseInside h.root.base h.root.contents = .ok inner.base
  /-- Nothing else is come to in a build that succeeds. -/
  succeeds : ∀ v, o.buildIn store r schema = (.ok v, r') → ∀ c x,
    Reached r' (fun _ => True) h.context schema c x →
      Reached r' Value.Unnamed h.context schema c x
  /-- Directly inside the schema, the bases agree only if the document names itself. -/
  onlyIf : ∀ members inner name k v path sub, schema = .object members →
    h.context.inside members = .ok inner → (name, v) ∈ members → Keyword.ofName? name = some k →
      k.HoldsAt v path sub → (k = .properties → v.Unnamed) →
        r'.BaseAgrees ((inner.key name).along path) → h.root.NamesItself

/-- The walks have the same bases exactly if the document of the schema names itself. -/
theorem bases_of_buildIn (hr : r.Reachable) (hschema : schema.WellFormed) (h : Enters o schema r)
    (hwf : (o.buildIn store r schema).2.WellFormed) :
    h.Bases store (o.buildIn store r schema).2 := by
  have hindexed := (hr.buildIn o store schema).wellIndexed
  have hget := h.get?_root store
  have hcontents := hwf _ (List.mem_of_find?_eq_some hget)
  have hshows := h.shows_root hwf hschema
  refine ⟨hget, h.namesItself_of_fresh, ?_, ?_, ?_, ?_⟩
  · intro hnames c x hreached hplace
    have hinside : ∀ members inner, schema = .object members →
        h.context.inside members = .ok inner →
          Document.baseInside h.root.base schema = .ok inner.base := by
      intro members inner hmembers hinner
      rw [h.base_of_inside hmembers hinner, ← h.uri_root, ← hnames]
      exact (Document.baseInside_of_identical h.identical hcontents _).symm
    rcases hreached.baseAt hindexed hwf hget rfl h.identical hschema hinside with
      ⟨rfl, -⟩ | ⟨-, d, hd, hbase⟩
    · exact absurd rfl hplace
    · exact Registry.baseAgrees_of_baseAt hindexed hwf hd hbase
  · intro hnames members inner hmembers hinner
    rw [h.base_of_inside hmembers hinner, ← h.uri_root]
    exact hnames
  · intro v hv c x hreached
    obtain ⟨s, hs, -, hlinked⟩ :=
      Builds.exists_linked ⟨h, (h.buildIn_eq store).symm.trans hv⟩ hr.wellIndexed
    rw [← hs] at hreached hindexed hwf hshows ⊢
    exact hreached.unnamed hlinked hindexed hwf hshows
  · rintro members inner name k v path sub rfl hinner hmem hname hsub hmap ⟨⟨d, hd, hbase⟩, -, -⟩
    rw [Context.along_key_of_inside hinner] at hd hbase
    obtain rfl : h.root = d := Option.some.inj (hget.symm.trans hd)
    rw [Document.NamesItself, h.uri_root, ← h.base_of_inside rfl hinner]
    exact baseInside_of_baseAt h.identical hcontents hschema hmem hsub hmap hbase

/-! ## A document that was there before -/

/-- A schema with a relative `$id`. -/
def person : Value := .object [("$id", .string "schemas/person.json"),
  ("properties", .object [("name", .object [("type", .string "string")])])]

/-- The URL of the schema. -/
def personUri : Url := { Url.ownBase with path := "/schemas/person.json" }

/-- The URL that the `$id` leads to when it is resolved twice. -/
def personUriTwice : Url := { Url.ownBase with path := "/schemas/schemas/person.json" }

/-- Where the schema of a name is compiled. -/
def personName : Context := ⟨⟨personUri, ⟨["properties", "name"]⟩⟩, personUri⟩

/-- The registry that holds the schema under its URL. -/
def personRegistry : Registry := (Registry.insert {} personUri person).2

theorem reached_personName (r : Registry) :
    Reached r Value.Unnamed ⟨⟨personUri, .root⟩, base {}⟩ person personName
      (.object [("type", .string "string")]) := by
  have hjoin : (base {}).join "schemas/person.json" = .ok personUri := by decide +kernel
  have hfragment : Declarations.isFragmentOnly "schemas/person.json" = false := by decide
  have hinside : (Context.mk ⟨personUri, .root⟩ (base {})).inside
      [("$id", .string "schemas/person.json"),
        ("properties", .object [("name", .object [("type", .string "string")])])] =
      .ok ⟨⟨personUri, .root⟩, personUri⟩ := by
    simp only [Context.inside, List.lookup_cons, beq_self_eq_true, hfragment, hjoin]
    rfl
  have hproperty : Keyword.HoldsAt .properties
      (.object [("name", .object [("type", .string "string")])]) ["name"]
      (.object [("type", .string "string")]) := .property List.mem_cons_self
  exact .inside .root hinside (List.mem_cons_of_mem _ List.mem_cons_self) rfl hproperty
    fun _ => by simp [Value.Unnamed, Value.get?, List.lookup_cons]

set_option maxRecDepth 10000 in
/-- A schema that was put into the registry under its URL has its own URL as its base there. The
relative `$id` is resolved again on the way to a pointer, but not in compilation. -/
theorem exists_bases_apart : ∃ (r : Registry) (o : Options) (store : Store) (schema : Value)
    (v : Validator) (r' : Registry) (c : Context) (x : Value) (d : Document) (b : Url),
    r.Reachable ∧ o.buildIn store r schema = (.ok v, r') ∧
      Reached r' Value.Unnamed ⟨⟨v.document, .root⟩, o.base⟩ schema c x ∧
      c.place ≠ ⟨v.document, .root⟩ ∧ r'.get? c.place.document = some d ∧
      d.baseAt c.place.pointer = .ok b ∧ b ≠ c.base := by
  obtain ⟨v, r', h, hv⟩ := exists_build_of_document {} {} personRegistry person personUri
    (by decide +kernel)
  have hbase : ((buildIn {} {} personRegistry person).2.get? personUri).bind
      (fun d => (d.baseAt personName.place.pointer).toOption) =
        some personUriTwice := by decide +kernel
  rw [h] at hbase
  obtain ⟨d, hd, hbase⟩ := Option.bind_eq_some_iff.mp hbase
  refine ⟨personRegistry, {}, {}, person, v, r', personName, _, d, personUriTwice,
    .insert personUri person .empty, h, hv ▸ reached_personName r', ?_, hd, ?_, by decide⟩
  · rw [hv]
    decide
  · cases hat : d.baseAt personName.place.pointer with
    | error e => simp [hat, Except.toOption] at hbase
    | ok b => exact congrArg Except.ok (by simpa [hat, Except.toOption] using hbase)

set_option maxRecDepth 10000 in
theorem bases_of_buildIn_person : ∃ h : Enters {} person {},
    Registry.Reachable {} ∧ person.WellFormed ∧
      h.before.get? h.uri = none ∧ (buildIn {} {} {} person).2.WellFormed ∧
      (buildIn {} {} {} person).2.BaseAgrees personName := by
  obtain ⟨v, r', hbuild, hv⟩ := exists_build_of_document {} {} {} person personUri
    (by decide +kernel)
  obtain ⟨hbuilds⟩ := exists_builds hbuild
  have hwf : (buildIn {} {} {} person).2.WellFormed := by decide +kernel
  have hperson : person.WellFormed := by decide +kernel
  have hbefore : hbuilds.before = {} := by
    have hall := hbuilds.insertAll_eq
    simpa [insertAll] using hall.symm
  have hfresh : hbuilds.before.get? hbuilds.uri = none := by
    rw [hbefore]
    rfl
  have huri : hbuilds.uri = personUri := by
    have huri : documentUri (base {}) person = .ok personUri := by decide +kernel
    exact Except.ok.inj (hbuilds.documentUri_eq.symm.trans huri)
  have hbases : hbuilds.toEnters.Bases {} (buildIn {} {} {} person).2 :=
    bases_of_buildIn .empty hperson _ hwf
  refine ⟨hbuilds.toEnters, .empty, hperson, hfresh, hwf,
    hbases.agree (hbases.fresh hfresh) personName (.object [("type", .string "string")]) ?_ ?_⟩
  · rw [Enters.context, huri]
    exact reached_personName _
  · rw [Enters.context, huri]
    decide

end Options
end JsonSchema
