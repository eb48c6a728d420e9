import JsonSchema.Proofs.Registry.Alike

/-!
# Names of schemas

A name is kept as `$anchor` has it, and looked up as a reference writes it, with escapes. So the two
meet exactly if no character of the name needs an escape. Then it is the same to declare the name by
an `$id` that is only a fragment, which is written like the reference.
-/

namespace JsonSchema

/-- Two values are the same but for one object at a path, which declares a name by `$anchor` in the
one and by an `$id` that is only a fragment in the other. -/
inductive Value.Redeclared (name : String) : List String → Value → Value → Prop
  | here (before before' : List (String × Value)) {after after'}
      (hrest : before ++ after = before' ++ after')
      (hid : "$id" ∉ (before ++ after).map Prod.fst)
      (hanchor : "$anchor" ∉ (before ++ after).map Prod.fst) :
      Redeclared name [] (.object (before ++ ("$anchor", .string name) :: after))
        (.object (before' ++ ("$id", .string ("#" ++ name)) :: after'))
  | member (before : List (String × Value)) {key after path v v'}
      (h : Redeclared name path v v') :
      Redeclared name (key :: path) (.object (before ++ (key, v) :: after))
        (.object (before ++ (key, v') :: after))
  | item (before : List Value) {after path v v'} (h : Redeclared name path v v') :
      Redeclared name (toString before.length :: path) (.array (before ++ v :: after))
        (.array (before ++ v' :: after))

namespace Declarations

variable {base : Url} {place : Place} {name key : String} {v v' : Value} {path : List String}
variable {before after members members' : List (String × Value)}

/-! ## What declarations depend on -/

/-- What an object declares of itself depends on the strings under two keys. -/
theorem ofObject_congr
    (hid : ∀ s, members.lookup "$id" = some (.string s) ↔ members'.lookup "$id" = some (.string s))
    (hanchor : ∀ s, members.lookup "$anchor" = some (.string s) ↔
      members'.lookup "$anchor" = some (.string s)) :
    ofObject base place members = ofObject base place members' := by
  have hidentified : identified base place members = identified base place members' := by
    by_cases h : ∃ s, members.lookup "$id" = some (.string s)
    · obtain ⟨s, hs⟩ := h
      rw [identified_of_some hs, identified_of_some ((hid s).mp hs)]
    · rw [identified_of_none fun s hs => h ⟨s, hs⟩,
        identified_of_none fun s hs => h ⟨s, (hid s).mpr hs⟩]
  have hanchored (inner : Url) : anchored inner place members = anchored inner place members' := by
    by_cases h : ∃ s, members.lookup "$anchor" = some (.string s)
    · obtain ⟨s, hs⟩ := h
      rw [anchored_of_some hs, anchored_of_some ((hanchor s).mp hs)]
    · rw [anchored_of_none fun s hs => h ⟨s, hs⟩,
        anchored_of_none fun s hs => h ⟨s, (hanchor s).mpr hs⟩]
  simp only [ofObject_eq, hidentified, hanchored]

/-- A string among the members declares nothing. -/
theorem ofMembers_string (s : String) :
    ofMembers base place (before ++ (key, .string s) :: after) =
      ofMembers base place (before ++ after) := by
  have hstring (base : Url) (place : Place) : ofValue base place (.string s) = .ok {} := by
    simp [ofValue]
  induction before with
  | nil =>
      rw [List.nil_append, List.nil_append, ofMembers, hstring, ite_self]
      cases ofMembers base place after <;> rfl
  | cons m before ih =>
      obtain ⟨k, x⟩ := m
      rw [List.cons_append, List.cons_append, ofMembers, ofMembers, ih]

theorem ofMembers_congr (h : ∀ base place, ofValue base place v = ofValue base place v') :
    ofMembers base place (before ++ (key, v) :: after) =
      ofMembers base place (before ++ (key, v') :: after) := by
  induction before with
  | nil => rw [List.nil_append, List.nil_append, ofMembers, ofMembers, h]
  | cons m before ih =>
      obtain ⟨k, x⟩ := m
      rw [List.cons_append, List.cons_append, ofMembers, ofMembers, ih]

theorem ofItems_congr {before after : List Value}
    (h : ∀ base place, ofValue base place v = ofValue base place v') (i : Nat) :
    ofItems base place i (before ++ v :: after) = ofItems base place i (before ++ v' :: after) := by
  induction before generalizing i with
  | nil => rw [List.nil_append, List.nil_append, ofItems, ofItems, h]
  | cons x before ih => rw [List.cons_append, List.cons_append, ofItems, ofItems, ih]

/-! ## Two ways to declare a name -/

theorem ofId_sharp (hname : isPointerFragment name = false)
    (hplain : ∀ c ∈ name.toList, Percent.fragment c = false) (base : Url) (place : Place) :
    ofId base place ("#" ++ name) = .ok (base, { anchors := [((base, name), place)] }) := by
  have hjoin := Url.join_of_isFragmentOnly base (Url.isFragmentOnly_append name)
  rw [Url.ownFragment_eq_iff.mpr hplain] at hjoin
  simp [ofId, joinId_eq_ok.mpr hjoin, Url.isFragmentOnly_append, isName_eq, hname]

theorem lookup_insert {α : Type} {before after : List (String × α)} {other : String} (x : α)
    (h : key ∉ (before ++ after).map Prod.fst) :
    (before ++ (other, x) :: after).lookup key = if key = other then some x else none := by
  have hnone (l : List (String × α)) (hl : key ∉ l.map Prod.fst) : l.lookup key = none := by
    rw [List.lookup_eq_none_iff]
    intro e he
    simpa using fun heq : key = e.1 => hl (heq ▸ List.mem_map_of_mem he)
  rw [List.map_append, List.mem_append, not_or] at h
  rw [List.lookup_append, hnone before h.1, Option.none_or, List.lookup_cons]
  by_cases hother : key = other
  · simp [hother]
  · have hbeq : (key == other) = false := by simpa using hother
    simp [hbeq, hother, hnone after h.2]

/-- A string is under a key of the one list exactly if it is under that key of the other. -/
theorem lookup_string_iff (hv : ∀ s, v ≠ .string s) (hv' : ∀ s, v' ≠ .string s) (k s : String) :
    (before ++ (key, v) :: after).lookup k = some (.string s) ↔
      (before ++ (key, v') :: after).lookup k = some (.string s) := by
  rw [List.lookup_append, List.lookup_append, List.lookup_cons, List.lookup_cons]
  cases before.lookup k with
  | some x => rfl
  | none =>
      split
      · simp [hv, hv']
      · rfl

theorem ne_string_of_redeclared (h : v.Redeclared name path v') :
    (∀ s, v ≠ .string s) ∧ ∀ s, v' ≠ .string s := by
  cases h <;> exact ⟨nofun, nofun⟩

theorem ofObject_eq_of_redeclared {before' after' : List (String × Value)}
    (hname : isPointerFragment name = false)
    (hplain : ∀ c ∈ name.toList, Percent.fragment c = false)
    (hrest : before ++ after = before' ++ after') (hid : "$id" ∉ (before ++ after).map Prod.fst)
    (hanchor : "$anchor" ∉ (before ++ after).map Prod.fst) :
    ofObject base place (before ++ ("$anchor", .string name) :: after) =
      ofObject base place (before' ++ ("$id", .string ("#" ++ name)) :: after') := by
  have hid' := hid
  have hanchor' := hanchor
  rw [hrest] at hid' hanchor'
  have hleft : identified base place (before ++ ("$anchor", .string name) :: after) =
      .ok (base, {}) := identified_of_none fun s => by simp [lookup_insert _ hid]
  have hright : identified base place (before' ++ ("$id", .string ("#" ++ name)) :: after') =
      ofId base place ("#" ++ name) := identified_of_some (by simp [lookup_insert _ hid'])
  have hnamed : anchored base place (before ++ ("$anchor", .string name) :: after) =
      { anchors := [((base, name), place)] } :=
    anchored_of_some (by simp [lookup_insert _ hanchor])
  have hunnamed : anchored base place (before' ++ ("$id", .string ("#" ++ name)) :: after') = {} :=
    anchored_of_none fun s => by simp [lookup_insert _ hanchor']
  rw [ofObject_eq, ofObject_eq, hleft, hright, ofId_sharp hname hplain]
  simp only [Except.map, hnamed, hunnamed]
  rfl

/-- A name is declared alike both ways. -/
theorem ofValue_eq_of_redeclared (hname : isPointerFragment name = false)
    (hplain : ∀ c ∈ name.toList, Percent.fragment c = false) (h : v.Redeclared name path v')
    (base : Url) (place : Place) : ofValue base place v = ofValue base place v' := by
  induction h generalizing base place with
  | here _ _ hrest hid hanchor =>
      rw [ofValue, ofValue, ofObject_eq_of_redeclared hname hplain hrest hid hanchor]
      simp only [ofMembers_string, hrest]
  | @member before key after path v v' h ih =>
      obtain ⟨hv, hv'⟩ := ne_string_of_redeclared h
      have hobject : ofObject base place (before ++ (key, v) :: after) =
          ofObject base place (before ++ (key, v') :: after) :=
        ofObject_congr (lookup_string_iff hv hv' "$id") (lookup_string_iff hv hv' "$anchor")
      rw [ofValue, ofValue, hobject]
      simp only [ofMembers_congr ih]
  | item _ _ ih =>
      rw [ofValue, ofValue]
      exact ofItems_congr ih 0

end Declarations

namespace Registry

variable {r r' : Registry} {d d' : Document} {uri base : Url} {name : String} {p : Pointer}
variable {contents contents' : Value} {members : List (String × Value)}

/-! ## References to names -/

/-- What is declared by `$anchor` in an object without an `$id` is found exactly if no character of
the name needs an escape. -/
theorem Single.placeOf_name_iff (h : r.Single d) (hbase : d.base = d.uri) (hp : p.Visited)
    (hat : d.contents.at? p = some (.object members)) (hbaseAt : d.baseAt p = .ok base)
    (hid : members.lookup "$id" = none) (hanchor : members.lookup "$anchor" = some (.string name))
    (hname : isPointerFragment (Url.ownFragment ("#" ++ name)) = false)
    (honly : ∀ q, q ≠ p → q.Visited → ¬d.Names base name q) (retriever : Retriever) :
    r.placeOf retriever base ("#" ++ name) = .ok ⟨d.uri, p⟩ ↔
      ∀ c ∈ name.toList, Percent.fragment c = false := by
  have hunnamed : (Value.object members).Unnamed := by
    intro id hget
    exact absurd (hid.symm.trans hget) nofun
  have hinside := Document.baseInside_of_unnamed hunnamed base
  have hbare := (Document.along_iff.mpr ⟨hat, hbaseAt⟩).withoutFragment h.wellRead.bareBase
  have hjoin := Url.join_of_isFragmentOnly base (Url.isFragmentOnly_append name)
  have hurl : Url.withoutFragment { base with fragment := some (Url.ownFragment ("#" ++ name)) } =
      base := hbare
  rw [← Url.ownFragment_eq_iff]
  constructor
  · intro hplace
    rw [h.placeOf_eq_iff_anchor hbase hjoin rfl hname, hurl] at hplace
    obtain ⟨-, members', b, hat', -, -, hnames⟩ :=
      h.wellRead.mem_anchors_iff.mp (mem_of_lookup hplace)
    obtain rfl : members = members' := by simpa using hat.symm.trans hat'
    rcases hnames with hown | ⟨-, id, url, hid', -⟩
    · simpa using hown.symm.trans hanchor
    · cases hid.symm.trans hid'
  · intro hplain
    rw [hplain] at hjoin hname hurl
    rw [h.placeOf_eq_iff_names hbase hjoin rfl hname (by rwa [hurl]), hurl]
    exact ⟨hp, members, base, hat, hbaseAt, hinside, .inl hanchor⟩

/-- What is declared by an `$id` that is only a fragment is found by the same text as a reference,
whatever it is escaped to. -/
theorem Single.placeOf_of_isFragmentOnly (h : r.Single d) (hbase : d.base = d.uri) (hp : p.Visited)
    (hat : d.contents.at? p = some (.object members)) (hbaseAt : d.baseAt p = .ok base)
    {id : String} (hid : members.lookup "$id" = some (.string id))
    (hown : Declarations.isFragmentOnly id = true)
    (hname : isPointerFragment (Url.ownFragment id) = false)
    (honly : ∀ q, q ≠ p → q.Visited → ¬d.Names base (Url.ownFragment id) q)
    (retriever : Retriever) : r.placeOf retriever base id = .ok ⟨d.uri, p⟩ := by
  have hbare := (Document.along_iff.mpr ⟨hat, hbaseAt⟩).withoutFragment h.wellRead.bareBase
  have hjoin := Url.join_of_isFragmentOnly base hown
  have hurl : Url.withoutFragment { base with fragment := some (Url.ownFragment id) } = base :=
    hbare
  have hinside : Document.baseInside base (.object members) = .ok base := by
    have hget : (Value.object members).get? "$id" = some (.string id) := hid
    simp only [Document.baseInside, hget, Declarations.joinId_eq_ok.mpr hjoin, Except.map, hurl]
  refine (h.placeOf_eq_iff_names hbase hjoin rfl hname (by rwa [hurl])).mpr ⟨hp, ?_⟩
  rw [hurl]
  exact ⟨members, base, hat, hbaseAt, hinside, .inr ⟨hname, id, _, hid, hjoin, rfl⟩⟩

/-- A document in which a name is declared the other way is kept as well, and references without
pointers lead to the same places. -/
theorem exists_insert_of_redeclared (h : Registry.insert {} uri contents = (.ok d, r))
    (hwf : contents.WellFormed) (hwf' : contents'.WellFormed)
    (hname : isPointerFragment name = false)
    (hplain : ∀ c ∈ name.toList, Percent.fragment c = false)
    (hredeclared : contents.Redeclared name p.tokens contents') :
    ∃ d' r', Registry.insert {} uri contents' = (.ok d', r') ∧ r.SamePlaces r' := by
  have hempty : Alike {} {} := ⟨rfl, rfl, rfl, rfl⟩
  obtain ⟨halike, hresult⟩ := hempty.insert uri
    (Declarations.ofValue_eq_of_redeclared hname hplain hredeclared)
  rw [h] at halike hresult
  have hisOk : (Registry.insert {} uri contents').1.isOk := by
    cases hinsert : (Registry.insert {} uri contents').1 with
    | ok d' => rfl
    | error e =>
        rw [hinsert] at hresult
        cases hresult
  obtain ⟨d', r', h'⟩ := exists_of_insert uri contents' hisOk
  rw [h'] at halike
  refine ⟨d', r', h', halike.samePlaces (reachable_of_insert h).evolves
    (reachable_of_insert h').evolves ?_ ?_⟩
  · exact (single_of_insert h hwf).1.wellFormed
  · exact (single_of_insert h' hwf').1.wellFormed

/-- A position is found by a name as far as references write the name like a declaration. -/
structure FindsName (r : Registry) (d : Document) (base : Url) (p : Pointer) (name : String) :
    Prop where
  plain : (∀ c ∈ name.toList, Percent.fragment c = false) → ∀ retriever,
    r.placeOf retriever base ("#" ++ name) = .ok ⟨d.uri, p⟩
  /-- An escape in the reference makes it another name. -/
  escaped : (∃ c ∈ name.toList, Percent.fragment c = true) →
    isPointerFragment (Url.ownFragment ("#" ++ name)) = false → ∀ retriever,
      r.placeOf retriever base ("#" ++ name) ≠ .ok ⟨d.uri, p⟩

/-- In a document that was inserted into an empty registry, an object without an `$id` is found by
its `$anchor` exactly if no character of the name needs an escape, and then an `$id` in its place
would do as well. -/
theorem findsName_of_insert (h : Registry.insert {} uri contents = (.ok d, r))
    (hwf : contents.WellFormed) (hp : p.Visited)
    (hat : contents.at? p = some (.object members)) (hid : members.lookup "$id" = none)
    (hanchor : members.lookup "$anchor" = some (.string name))
    (hname : isPointerFragment name = false) :
    d.uri = uri.withoutFragment ∧ ∃ base, d.baseAt p = .ok base ∧
      ((∀ q, q ≠ p → q.Visited → ¬d.Names base name q) → r.FindsName d base p name) ∧
      ((∀ c ∈ name.toList, Percent.fragment c = false) → ∀ contents', Value.WellFormed contents' →
        contents.Redeclared name p.tokens contents' →
          ∃ d' r', Registry.insert {} uri contents' = (.ok d', r') ∧ r.SamePlaces r') := by
  obtain ⟨hsingle, rfl⟩ := single_of_insert h hwf
  obtain ⟨base, -, hbase⟩ := hsingle.wellRead.exists_scanned hp hat
  refine ⟨rfl, base, hbase, fun honly => ⟨?_, ?_⟩, fun hplain contents' hwf' hredeclared => ?_⟩
  · intro hplain retriever
    have hown : isPointerFragment (Url.ownFragment ("#" ++ name)) = false := by
      rwa [Url.ownFragment_eq_iff.mpr hplain]
    exact (hsingle.placeOf_name_iff rfl hp hat hbase hid hanchor hown honly retriever).mpr hplain
  · rintro ⟨c, hc, hreserved⟩ hown retriever hplace
    have hiff := hsingle.placeOf_name_iff rfl hp hat hbase hid hanchor hown honly retriever
    rw [hiff.mp hplace c hc] at hreserved
    cases hreserved
  · exact exists_insert_of_redeclared h hwf hwf' hname hplain hredeclared

/-- A document with a name for one of its parts. -/
def labelled : Value := .object [("$defs", .object [("part", .object
  [("$anchor", .string "top")])])]

/-- The same document with the name in an `$id`. -/
def relabelled : Value := .object [("$defs", .object [("part", .object [("$id", .string "#top")])])]

theorem redeclared_labelled : labelled.Redeclared "top" ["$defs", "part"] relabelled :=
  .member [] (.member [] (.here [] [] rfl (by simp) (by simp)))

/-- Only one object has a name. -/
theorem eq_of_names {outer middle inner text : String} {base b : Url} {q : Pointer}
    (h : Document.Names ⟨uri, base, .object [(outer, .object [(middle, .object
      [(inner, .string text)])])]⟩ b name q) : q = ⟨[outer, middle]⟩ := by
  obtain ⟨members, _, hat, -, -, hanchor | ⟨-, id, -, hid, -⟩⟩ := h
  · exact congrArg Pointer.mk (Value.path_of_nested hat hanchor)
  · exact congrArg Pointer.mk (Value.path_of_nested hat hid)

theorem findsName_labelled : ∃ d r d' r',
    Registry.insert {} catalogueUri labelled = (.ok d, r) ∧
      Registry.insert {} catalogueUri relabelled = (.ok d', r') ∧
        (∀ retriever, r.placeOf retriever catalogueUri "#top" = .ok ⟨d.uri, ⟨["$defs", "part"]⟩⟩) ∧
          r.SamePlaces r' := by
  obtain ⟨d, r, h⟩ := exists_of_insert catalogueUri labelled (by decide +kernel)
  have hwf : labelled.WellFormed := by decide +kernel
  have hall : ("top".toList.all fun c => !Percent.fragment c) = true := by decide
  have hplain : ∀ c ∈ "top".toList, Percent.fragment c = false :=
    fun c hc => by simpa using List.all_eq_true.mp hall c hc
  obtain ⟨-, base, hbase, hfinds, hsame⟩ := findsName_of_insert (p := ⟨["$defs", "part"]⟩) h hwf
    (by decide) (by rfl) rfl rfl (by decide)
  obtain ⟨d', r', h', hplaces⟩ := hsame hplain relabelled (by decide +kernel) redeclared_labelled
  obtain ⟨-, rfl⟩ := single_of_insert h hwf
  obtain rfl : catalogueUri = base := Except.ok.inj hbase
  have honly := hfinds fun q hne _ hnames => hne (eq_of_names hnames)
  exact ⟨_, r, d', r', h, h', honly.plain hplain, hplaces⟩

/-- A document with a name that a reference cannot write without an escape. -/
def accented : Value := .object [("$defs", .object [("part", .object [("$anchor", .string "é")])])]

/-- The same document with the name in an `$id`. -/
def reaccented : Value := .object [("$defs", .object [("part", .object [("$id", .string "#é")])])]

/-- A name that no other position has is not found, but would be if an `$id` declared it. -/
theorem exists_lost_name : ∃ uri contents contents' d d' r r' p members base name,
    Registry.insert {} uri contents = (.ok d, r) ∧ contents.WellFormed ∧ Pointer.Visited p ∧
      contents.at? p = some (.object members) ∧ members.lookup "$id" = none ∧
        members.lookup "$anchor" = some (.string name) ∧ isPointerFragment name = false ∧
          d.baseAt p = .ok base ∧ (∀ q, q ≠ p → ¬d.Names base name q) ∧
            (∀ retriever, r.placeOf retriever base ("#" ++ name) ≠ .ok ⟨d.uri, p⟩) ∧
              contents.Redeclared name p.tokens contents' ∧
                Registry.insert {} uri contents' = (.ok d', r') ∧
                  ∀ retriever, r'.placeOf retriever base ("#" ++ name) = .ok ⟨d.uri, p⟩ := by
  obtain ⟨d, r, h⟩ := exists_of_insert catalogueUri accented (by decide +kernel)
  obtain ⟨d', r', h'⟩ := exists_of_insert catalogueUri reaccented (by decide +kernel)
  have hwf : accented.WellFormed := by decide +kernel
  obtain ⟨hsingle, rfl⟩ := single_of_insert h hwf
  obtain ⟨hsingle', rfl⟩ := single_of_insert h' (by decide +kernel)
  let p : Pointer := ⟨["$defs", "part"]⟩
  have honly : ∀ q, q ≠ p →
      ¬Document.Names ⟨catalogueUri, catalogueUri, accented⟩ catalogueUri "é" q :=
    fun q hne hnames => hne (eq_of_names hnames)
  refine ⟨catalogueUri, accented, reaccented, _, _, r, r', p, [("$anchor", .string "é")],
    catalogueUri, "é", h, hwf, by decide, by rfl, rfl, rfl, by decide, by rfl, honly, ?_,
    .member [] (.member [] (.here [] [] rfl (by simp) (by simp))), h', ?_⟩
  · intro retriever hplace
    have hplain := (hsingle.placeOf_name_iff rfl (by decide) (by rfl) (by rfl) rfl rfl
      (by decide +kernel) (fun q hne _ => honly q hne) retriever).mp hplace
    exact absurd (hplain 'é' (by decide)) (by decide)
  · exact hsingle'.placeOf_of_isFragmentOnly rfl (by decide) (by rfl) (by rfl) rfl
      (Url.isFragmentOnly_append "é") (by decide +kernel)
      fun q hne _ hnames => hne (eq_of_names hnames)

end Registry
end JsonSchema
