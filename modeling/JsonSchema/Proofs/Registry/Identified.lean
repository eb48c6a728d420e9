import JsonSchema.Proofs.Registry.Single

/-!
# Schemas that identify themselves

The compiler takes for a schema what stands under certain keywords. The walk for declarations does
not know schemas: it goes everywhere but below the data keywords, and takes the name of a property
or a definition for a keyword, too. So what a schema declares by `$id` or `$anchor` is found exactly
if no property and no definition that the schema is in has the name of a data keyword.
-/

namespace JsonSchema

/-- A schema stands in another one at a path through keywords that hold schemas. The names are those
of the properties and definitions on the way. -/
inductive SchemaAt : Value → List String → List String → Value → Prop
  | here {v} : SchemaAt v [] [] v
  | named {members schemas keyword name schema path names w}
      (hkeyword : keyword ∈ ["properties", "$defs", "definitions"])
      (hv : members.lookup keyword = some (.object schemas))
      (hname : schemas.lookup name = some schema) (h : SchemaAt schema path names w) :
      SchemaAt (.object members) (keyword :: name :: path) (name :: names) w
  | listed {members schemas keyword schema path names w} {i : Nat}
      (hkeyword : keyword ∈ ["items", "allOf", "anyOf", "oneOf"])
      (hv : members.lookup keyword = some (.array schemas)) (hi : schemas[i]? = some schema)
      (h : SchemaAt schema path names w) :
      SchemaAt (.object members) (keyword :: toString i :: path) names w
  | direct {members keyword schema path names w}
      (hkeyword : keyword ∈ ["items", "not", "if", "then", "else"])
      (hv : members.lookup keyword = some schema) (h : SchemaAt schema path names w) :
      SchemaAt (.object members) (keyword :: path) names w

namespace SchemaAt

variable {v w : Value} {path names : List String}

theorem follow? (h : SchemaAt v path names w) : v.follow? path = some w := by
  induction h with
  | here => rfl
  | @named members schemas keyword name schema path names w _ hv hname _ ih =>
      rw [Value.follow?_cons (v := .object members) hv, ← ih]
      exact Value.follow?_cons (v := .object schemas) hname
  | @listed members schemas keyword schema path names w i _ hv hi _ ih =>
      rw [Value.follow?_cons (v := .object members) hv, ← ih]
      exact Value.follow?_cons (Value.child?_toString hi)
  | @direct members keyword schema path names w _ hv _ ih =>
      rw [Value.follow?_cons (v := .object members) hv, ih]

/-- The walk for declarations comes to a schema unless a name on the way is a data keyword. -/
theorem visited_iff (h : SchemaAt v path names w) :
    Pointer.Visited ⟨path⟩ ↔ ∀ name ∈ names, Declarations.isDataKeyword name = false := by
  have hnamed : ∀ keyword ∈ ["properties", "$defs", "definitions"],
      Declarations.isDataKeyword keyword = false := by decide
  have hlisted : ∀ keyword ∈ ["items", "allOf", "anyOf", "oneOf"],
      Declarations.isDataKeyword keyword = false := by decide
  have hdirect : ∀ keyword ∈ ["items", "not", "if", "then", "else"],
      Declarations.isDataKeyword keyword = false := by decide
  induction h with
  | here => simp [Pointer.Visited]
  | named hkeyword _ _ _ ih =>
      rw [Pointer.visited_cons, Pointer.visited_cons, List.forall_mem_cons]
      exact (and_iff_right (hnamed _ hkeyword)).trans (and_congr_right fun _ => ih)
  | @listed _ _ _ _ _ _ _ i hkeyword _ _ _ ih =>
      rw [Pointer.visited_cons, Pointer.visited_cons, and_iff_right (hlisted _ hkeyword)]
      exact (and_iff_right (Declarations.isDataKeyword_toString i)).trans ih
  | direct hkeyword _ _ ih =>
      rw [Pointer.visited_cons]
      exact (and_iff_right (hdirect _ hkeyword)).trans ih

end SchemaAt

/-! ## Names -/

theorem range_of_isAlphanum {c : Char} (h : c.isAlphanum) : 0x30 ≤ c.toNat ∧ c.toNat ≤ 0x7A := by
  have hle (n : UInt32) : n ≤ c.val ↔ n.toNat ≤ c.toNat := UInt32.le_iff_toNat_le
  have hge (n : UInt32) : c.val ≤ n ↔ c.toNat ≤ n.toNat := UInt32.le_iff_toNat_le
  have h : (decide ('A'.val ≤ c.val ∧ c.val ≤ 'Z'.val) || ('a'.val ≤ c.val && c.val ≤ 'z'.val) ||
      ('0'.val ≤ c.val && c.val ≤ '9'.val)) = true := h
  have hbounds : 'A'.val.toNat = 0x41 ∧ 'Z'.val.toNat = 0x5A ∧ 'a'.val.toNat = 0x61 ∧
      'z'.val.toNat = 0x7A ∧ '0'.val.toNat = 0x30 ∧ '9'.val.toNat = 0x39 := by decide
  simp only [Bool.or_eq_true, Bool.and_eq_true, decide_eq_true_eq, hle, hge] at h
  omega

/-- Letters and digits need no escape. -/
theorem fragment_of_isAlphanum {c : Char} (h : c.isAlphanum) : Percent.fragment c = false := by
  obtain ⟨hlow, hhigh⟩ := range_of_isAlphanum h
  refine Percent.fragment_of_range (by omega) (by omega) fun hc => ?_
  simp only [List.mem_cons, List.not_mem_nil, or_false] at hc
  obtain rfl | rfl | rfl | rfl := hc <;> exact absurd h (by decide)

/-- A name of letters and digits is no pointer. -/
theorem isPointerFragment_of_isAlphanum {name : String} (hne : name ≠ "")
    (h : ∀ c ∈ name.toList, c.isAlphanum) : isPointerFragment name = false := by
  unfold isPointerFragment
  split
  · exact absurd (by simpa using ‹name.toList = []›) hne
  · rename_i hslash
    have hmem : '/' ∈ name.toList := by simp [hslash]
    exact absurd (h '/' hmem) (by decide)
  · rfl

namespace Registry

variable {r : Registry} {d : Document} {uri : Url} {contents : Value} {p : Pointer}
variable {members : List (String × Value)} {condition : Prop}

/-- An object is found by what it declares of itself exactly if a condition is met. -/
structure FindsIff (r : Registry) (d : Document) (p : Pointer) (members : List (String × Value))
    (condition : Prop) : Prop where
  /-- There is a base at the object and one inside it, and its `$id` joins to a URL. -/
  bases : condition → ∃ base inner, d.baseAt p = .ok base ∧
    Document.baseInside base (.object members) = .ok inner ∧
    ∀ id, members.lookup "$id" = some (.string id) → ∃ url, base.join id = .ok url
  /-- By an `$id` without a fragment, if no other position has its URL. -/
  id : ∀ base id url, d.baseAt p = .ok base → members.lookup "$id" = some (.string id) →
    '#' ∉ id.toList → base.join id = .ok url →
      (∀ q, q ≠ p → q.Visited → ¬d.Identifies url.withoutFragment q) →
        ∀ retriever, r.placeOf retriever base id = .ok ⟨d.uri, p⟩ ↔ condition
  /-- By an `$anchor` of letters and digits, if no other position has its name. -/
  anchor : ∀ base inner name, d.baseAt p = .ok base →
    Document.baseInside base (.object members) = .ok inner →
      members.lookup "$anchor" = some (.string name) → name ≠ "" →
        (∀ c ∈ name.toList, c.isAlphanum) →
          (∀ q, q ≠ p → q.Visited → ¬d.Names inner name q) →
            ∀ retriever, r.placeOf retriever inner ("#" ++ name) = .ok ⟨d.uri, p⟩ ↔ condition

theorem Single.findsIff (h : r.Single d) (hbase : d.base = d.uri)
    (hat : d.contents.at? p = some (.object members)) : r.FindsIff d p members p.Visited := by
  constructor
  · intro hp
    obtain ⟨b, hscanned, hb⟩ := h.wellRead.exists_scanned hp hat
    obtain ⟨-, -, -, hbare⟩ := hscanned.baseAt h.wellRead.bareBase h.wellRead.contents
    obtain ⟨inner, own, hown, -⟩ := hscanned.exists_own h.wellRead.declared
    refine ⟨b, inner, hb, Declarations.baseInside_of_ofObject hbare hown, fun id hid => ?_⟩
    rcases (Declarations.selfDeclared_of_ofObject hown).id with ⟨id', url, hid', hurl, -⟩ |
      ⟨hnone, -⟩
    · obtain rfl : id = id' := by simpa using hid.symm.trans hid'
      exact ⟨url, Declarations.joinId_eq_ok.mp hurl⟩
    · exact absurd hid (hnone id)
  · intro base id url hbaseAt hid hsharp hjoin honly retriever
    have hfragment : url.fragment = none :=
      Url.fragment_of_join (fun hmem => hsharp ((Url.significant_sublist id).subset hmem)) hjoin
    have hfragmentOnly : Declarations.isFragmentOnly id = false := by
      rw [Bool.eq_false_iff]
      intro hown
      have hhead : id.toList.head? = some '#' := by simpa [Declarations.isFragmentOnly] using hown
      exact hsharp (List.mem_of_mem_head? hhead)
    rw [h.placeOf_eq_iff_identifies hjoin hfragment honly]
    exact and_iff_left (.inr ⟨members, base, id, url, hat, hbaseAt, hid, hfragmentOnly, hjoin, rfl⟩)
  · intro base inner name hbaseAt hinside hanchor hne halnum honly retriever
    have hbare : inner.withoutFragment = inner :=
      Document.withoutFragment_of_baseInside
        ((Document.along_iff.mpr ⟨hat, hbaseAt⟩).withoutFragment h.wellRead.bareBase) hinside
    have hjoin := Url.join_of_isFragmentOnly inner (Url.isFragmentOnly_append name)
    have hplain := Url.ownFragment_eq_iff.mpr fun c hc => fragment_of_isAlphanum (halnum c hc)
    rw [hplain] at hjoin
    have hurl : Url.withoutFragment { inner with fragment := some name } = inner := hbare
    rw [h.placeOf_eq_iff_names hbase hjoin rfl (isPointerFragment_of_isAlphanum hne halnum)
      (by rwa [hurl]), hurl]
    exact and_iff_left ⟨members, base, hat, hbaseAt, hinside, .inl hanchor⟩

/-- In a document that was inserted into an empty registry, a schema is found by what it declares of
itself exactly if no property and no definition that it is in has the name of a data keyword. -/
theorem findsIff_of_insert (h : Registry.insert {} uri contents = (.ok d, r))
    (hwf : contents.WellFormed) {path names : List String}
    (hschema : SchemaAt contents path names (.object members)) :
    d.uri = uri.withoutFragment ∧
      r.FindsIff d ⟨path⟩ members (∀ name ∈ names, Declarations.isDataKeyword name = false) := by
  obtain ⟨hsingle, rfl⟩ := single_of_insert h hwf
  refine ⟨rfl, ?_⟩
  rw [← hschema.visited_iff]
  exact hsingle.findsIff rfl hschema.follow?

/-- The schema of an item in a catalogue. -/
def item : List (String × Value) :=
  [("$id", .string "item"), ("$anchor", .string "top"), ("type", .string "object")]

theorem findsIff_catalogue : ∃ d r, Registry.insert {} catalogueUri catalogue = (.ok d, r) ∧
    catalogue.WellFormed ∧ SchemaAt catalogue ["$defs", "item"] ["item"] (.object item) ∧
      ∀ retriever, r.placeOf retriever catalogueUri "item" = .ok ⟨d.uri, ⟨["$defs", "item"]⟩⟩ ∧
        r.placeOf retriever { catalogueUri with path := "/item" } "#top" =
          .ok ⟨d.uri, ⟨["$defs", "item"]⟩⟩ := by
  obtain ⟨d, r, h⟩ := exists_of_insert catalogueUri catalogue (by decide +kernel)
  have hwf : catalogue.WellFormed := by decide +kernel
  have hschema : SchemaAt catalogue ["$defs", "item"] ["item"] (.object item) :=
    .named (by decide) rfl rfl .here
  obtain ⟨-, hfinds⟩ := findsIff_of_insert h hwf hschema
  obtain ⟨hsingle, rfl⟩ := single_of_insert h hwf
  -- What else is declared, the index of the document tells.
  have hresources : ∀ e ∈ Document.resources ⟨catalogueUri, catalogueUri, catalogue⟩,
      e.1 = { catalogueUri with path := "/item" } → e.2.pointer = ⟨["$defs", "item"]⟩ := by
    decide +kernel
  have hanchors : ∀ e ∈ (Document.declared ⟨catalogueUri, catalogueUri, catalogue⟩).anchors,
      e.2.pointer = ⟨["$defs", "item"]⟩ := by decide +kernel
  refine ⟨_, r, h, hwf, hschema, fun retriever => ⟨?_, ?_⟩⟩
  · refine (hfinds.id catalogueUri "item" { catalogueUri with path := "/item" } (by decide +kernel)
      rfl (by decide) (by decide +kernel) (fun q hne hq hidentifies => hne ?_) retriever).mpr
        (by decide)
    exact hresources _ (hsingle.wellRead.mem_resources_iff.mpr ⟨hq, hidentifies⟩) rfl
  · refine (hfinds.anchor catalogueUri { catalogueUri with path := "/item" } "top"
      (by decide +kernel) (by decide +kernel) rfl (by decide) (List.all_eq_true.mp (by decide))
      (fun q hne hq hnames => hne ?_) retriever).mpr (by decide)
    exact hanchors _ (hsingle.wellRead.mem_anchors_iff.mpr ⟨hq, hnames⟩)

/-- A document with a property that has the name of a data keyword. -/
def preset : Value := .object [("properties", .object [("default", .object
  [("$id", .string "item.json")])])]

/-- A schema that no other position competes with is not found by its `$id`. -/
theorem exists_unfound_schema : ∃ uri contents d r path names members base id url,
    Registry.insert {} uri contents = (.ok d, r) ∧ contents.WellFormed ∧
      SchemaAt contents path names (.object members) ∧ d.baseAt ⟨path⟩ = .ok base ∧
        members.lookup "$id" = some (.string id) ∧ '#' ∉ id.toList ∧ base.join id = .ok url ∧
          (∀ q, q ≠ ⟨path⟩ → ¬d.Identifies url.withoutFragment q) ∧
            ∀ retriever, r.placeOf retriever base id ≠ .ok ⟨d.uri, ⟨path⟩⟩ := by
  obtain ⟨d, r, h⟩ := exists_of_insert catalogueUri preset (by decide +kernel)
  obtain ⟨hsingle, rfl⟩ := single_of_insert h (by decide +kernel)
  have hschema : SchemaAt preset ["properties", "default"] ["default"] _ :=
    .named (by decide) rfl rfl .here
  have honly : ∀ q, q ≠ ⟨["properties", "default"]⟩ →
      ¬Document.Identifies ⟨catalogueUri, catalogueUri, preset⟩
        { catalogueUri with path := "/item.json" } q := by
    rintro ⟨tokens⟩ hne (⟨-, huri⟩ | ⟨members, base, id, url, hat, -, hid, -⟩)
    · exact absurd huri (by decide)
    · exact hne (congrArg Pointer.mk (Value.path_of_nested hat hid))
  have hfinds := hsingle.findsIff rfl hschema.follow?
  refine ⟨catalogueUri, preset, _, r, _, _, _, catalogueUri, "item.json",
    { catalogueUri with path := "/item.json" }, h, by decide +kernel, hschema, by decide +kernel,
    rfl, by decide, by decide +kernel, honly, fun retriever hplace => ?_⟩
  have hvisited := (hfinds.id catalogueUri "item.json" { catalogueUri with path := "/item.json" }
    (by decide +kernel) rfl (by decide) (by decide +kernel) (fun q hne _ => honly q hne)
      retriever).mp hplace
  exact absurd hvisited (by decide)

end Registry
end JsonSchema
