import JsonSchema.Proofs.Meaning.Transfer
import JsonSchema.Proofs.Registry.Extended

/-!
# Members that are no keywords

A member that is no keyword is skipped where its object is compiled. But the object may be read in
another way as well, as the value of `const` or `enum` or as the map of `properties`, and the walk
for declarations goes into the member. Where none of this makes a difference, the member makes none.
-/

namespace JsonSchema

open Compile

section Keywords

variable {k : Keyword} {entry : String × Value} {path : List String} {v v' : Value}
variable {members members' : List (String × Value)} {c : Context} {r : Registry}

theorem Keyword.ne_of_ofName? {name other : String} (h : ofName? name = some k)
    (hother : ofName? other = none) : name ≠ other := by
  rintro rfl
  cases h.symm.trans hother

theorem Keyword.SaysSame.refl (h : k.Takes v) : k.SaysSame v v := by
  cases k with
  | enum | const => exact fun _ => rfl
  | properties =>
      obtain ⟨schemas, rfl⟩ := h
      exact ⟨schemas, schemas, rfl, rfl, fun _ => Iff.rfl⟩
  | items =>
      cases v with
      | array schemas => exact .inl ⟨schemas, schemas, rfl, rfl, rfl⟩
      | _ => exact .inr ⟨nofun, nofun⟩
  | allOf | anyOf | oneOf =>
      obtain ⟨schemas, rfl, -⟩ := h
      exact ⟨schemas, schemas, rfl, rfl, rfl⟩
  | not | condition | branch _ | informative => trivial
  | _ => rfl

theorem Value.Extended.sameLength {schemas : List Value}
    (h : (Value.array schemas).Extended entry path v') : (Value.array schemas).SameLength v' := by
  cases h with
  | item before h => exact ⟨_, _, rfl, rfl, by simp⟩

/-- No string among items becomes an object. -/
theorem Value.Extended.exists_item {schemas : List Value}
    (h : (Value.array schemas).Extended entry path v') : ∃ x ∈ schemas, ∀ s, x ≠ .string s := by
  cases h with
  | @item before after path x x' h =>
      exact ⟨x, List.mem_append_right before List.mem_cons_self, h.ne_string.1⟩

/-- A keyword says the same if the object is in its value, unless that is data or the map of
properties itself. -/
theorem Keyword.SaysSame.of_extended (h : v.Extended entry path v') (htakes : k.Takes v)
    (hdata : k ≠ .const ∧ k ≠ .enum) (hmap : k = .properties → path ≠ []) : k.SaysSame v v' := by
  have hstring {s : String} (hv : v = .string s) : False := h.ne_string.1 s hv
  cases k with
  | enum => exact absurd rfl hdata.2
  | const => exact absurd rfl hdata.1
  | ref | format =>
      obtain ⟨s, hs⟩ := htakes
      exact (hstring hs).elim
  | type =>
      rcases htakes with ⟨name, t, hname, -⟩ | ⟨names, rfl, -, hnames⟩
      · exact (hstring hname).elim
      · obtain ⟨x, hx, hne⟩ := h.exists_item
        obtain ⟨s, -, hs, -⟩ := hnames x hx
        exact absurd hs (hne s)
  | bound _ =>
      obtain ⟨n, rfl⟩ := htakes
      cases h
  | multipleOf | length _ | itemCount _ =>
      obtain ⟨n, rfl, -⟩ := htakes
      cases h
  | pattern =>
      obtain ⟨source, -, hs, -⟩ := htakes
      exact (hstring hs).elim
  | required =>
      obtain ⟨names, rfl, hnames⟩ := htakes
      obtain ⟨x, hx, hne⟩ := h.exists_item
      obtain ⟨s, hs⟩ := hnames x hx
      exact absurd hs (hne s)
  | properties =>
      obtain ⟨schemas, rfl⟩ := htakes
      cases h with
      | here => exact absurd rfl (hmap rfl)
      | member before h => exact ⟨_, _, rfl, rfl, by simp⟩
  | items =>
      cases h with
      | here | member => exact .inr ⟨nofun, nofun⟩
      | item before h => exact .inl (Value.Extended.item before h).sameLength
  | allOf | anyOf | oneOf =>
      obtain ⟨schemas, rfl, -⟩ := htakes
      exact h.sameLength
  | not | condition | branch _ | informative => trivial

/-- Two schema objects have the same keywords if the member is none. -/
theorem SameKeywords.of_extended (h : (Value.object members).Extended entry path (.object members'))
    (hwf : (Value.object members).WellFormed) (hfit : Fit {} r c members)
    (hentry : Keyword.ofName? entry.1 = none)
    (hdata : ∀ rest, path ≠ "const" :: rest ∧ path ≠ "enum" :: rest)
    (hmap : path ≠ ["properties"]) : SameKeywords members members' := by
  have hstring (name : String) (k : Keyword) (hname : Keyword.ofName? name = some k)
      (hkey : ∀ v, members.lookup name = some v → v.IsString) :
      members'.lookup name = members.lookup name := by
    have hrel := h.lookup hwf (.inl (Keyword.ne_of_ofName? hname hentry))
    generalize members.lookup name = found at hrel hkey ⊢
    generalize members'.lookup name = found' at hrel ⊢
    cases hrel with
    | none => rfl
    | some hfrom =>
        rcases hfrom with rfl | ⟨rest, -, hbelow⟩
        · rfl
        · obtain ⟨s, hs⟩ := hkey _ rfl
          exact absurd hs (hbelow.ne_string.1 s)
  constructor
  · refine hstring "$id" .informative rfl fun v hv => ?_
    obtain ⟨id, -, hid, -⟩ := hfit.id v hv
    exact ⟨id, hid⟩
  · exact hstring "$anchor" .informative rfl hfit.anchor
  · intro name k hname _
    have hrel := h.lookup hwf (.inl (Keyword.ne_of_ofName? hname hentry))
    have htakes (v : Value) (hv : members.lookup name = some v) : k.Takes v :=
      hfit.takes name v k (mem_of_lookup hv) hname
    generalize members.lookup name = found at hrel htakes ⊢
    generalize members'.lookup name = found' at hrel ⊢
    cases hrel with
    | none => exact .none
    | some hfrom =>
        rcases hfrom with rfl | ⟨rest, rfl, hbelow⟩
        · exact .some (.refl (htakes _ rfl))
        · refine .some (.of_extended hbelow (htakes _ rfl) ⟨?_, ?_⟩ ?_)
          · rintro rfl
            obtain rfl : name = "const" := Keyword.name_eq hname (by decide)
            exact (hdata rest).1 rfl
          · rintro rfl
            obtain rfl : name = "enum" := Keyword.name_eq hname (by decide)
            exact (hdata rest).2 rfl
          · rintro rfl rfl
            obtain rfl : name = "properties" := Keyword.name_eq hname (by decide)
            exact hmap rfl

/-- A schema that can be compiled says the same with the member, the schemas inside it apart. -/
theorem Value.SaysSame.of_extended (h : v.Extended entry path v') (hv : v.WellFormed)
    (hadmissible : Admissible {} r c v) (hentry : Keyword.ofName? entry.1 = none)
    (hdata : ∀ rest, path ≠ "const" :: rest ∧ path ≠ "enum" :: rest)
    (hmap : path ≠ ["properties"]) : v.SaysSame v' := by
  cases h with
  | here before habsent =>
      exact ⟨_, rfl, .of_extended (.here before habsent) hv hadmissible hentry hdata hmap⟩
  | member before h =>
      exact ⟨_, rfl, .of_extended (.member before h) hv hadmissible hentry hdata hmap⟩
  | item => cases hadmissible

theorem Value.SaysSame.refl (hadmissible : Admissible {} r c v) : v.SaysSame v := by
  cases v with
  | bool b => rfl
  | object members =>
      have hfit : Fit {} r c members := hadmissible
      refine ⟨members, rfl, rfl, rfl, fun name k hname _ => ?_⟩
      cases hmember : members.lookup name with
      | none => exact .none
      | some x => exact .some (.refl (hfit.takes name x k (mem_of_lookup hmember) hname))
  | _ => cases hadmissible

end Keywords

namespace Compile

/-- No schema that is visited reads what is at a pointer as data or as a map of properties. -/
structure Apart (r : Registry) (d : Document) (p : Pointer) : Prop where
  data : ∀ c v name rest, Visited {} r d.start d.contents c v → name = "const" ∨ name = "enum" →
    p ≠ c.place.pointer ++ ⟨name :: rest⟩
  properties : ∀ c v, Visited {} r d.start d.contents c v → p ≠ c.place.pointer ++ ⟨["properties"]⟩

/-- No reference of a schema that is visited is to what another document declares first at a pointer
or below. -/
def RefersOutside (r : Registry) (d d' : Document) (p : Pointer) : Prop :=
  ∀ c inner members text url, Visited {} r d.start d.contents c (.object members) →
    c.inside members = .ok inner → ("$ref", .string text) ∈ members →
      inner.base.join text = .ok url → d'.DeclaresOutside p url

variable {r r' : Registry} {d d' : Document} {entry : String × Value} {path : List String}

theorem counterparts_of_extended (hr : r.Single d) (hr' : r'.Single d') (huri : d'.uri = d.uri)
    (hbase : d'.base = d.base) (hextended : d.contents.Extended entry path d'.contents)
    (hentry : Keyword.ofName? entry.1 = none)
    (hadmissible : ∀ c v, Visited {} r d.start d.contents c v → Admissible {} r c v)
    (hapart : Apart r d ⟨path⟩)
    (hrefers : RefersOutside r d d' (Pointer.key ⟨path⟩ entry.1)) : Counterparts r r' d d' := by
  have hid : "$id" ≠ entry.1 := Keyword.ne_of_ofName? rfl hentry
  have hanchor : "$anchor" ≠ entry.1 := Keyword.ne_of_ofName? rfl hentry
  refine ⟨hr, hr', huri, hbase, hadmissible, ?_, ?_⟩
  · intro c v hvisited
    have hat := (hvisited.at?_eq hr).2
    have hv := hr.wellRead.contents.of_follow? hat
    obtain ⟨w', hat', hfrom⟩ := hextended.exists_follow? hr.wellRead.contents hat
    refine ⟨w', hat', ?_⟩
    rcases hfrom with rfl | ⟨rest, hpath, hbelow⟩
    · exact .refl (hadmissible c _ hvisited)
    · refine .of_extended hbelow hv (hadmissible c v hvisited) hentry (fun rest' => ⟨?_, ?_⟩) ?_
      · rintro rfl
        exact hapart.data c v "const" rest' hvisited (.inl rfl) (congrArg Pointer.mk hpath)
      · rintro rfl
        exact hapart.data c v "enum" rest' hvisited (.inr rfl) (congrArg Pointer.mk hpath)
      · rintro rfl
        exact hapart.properties c v hvisited (congrArg Pointer.mk hpath)
  · intro c inner members text t hvisited hinside hmem hfollows
    obtain ⟨-, -, -, -, -, -, hat, hbaseAt⟩ := hr.follows_iff.mp hfollows
    obtain ⟨w', hw'⟩ := (Document.along_iff.mpr ⟨hat, hbaseAt⟩).of_extended hr.wellRead.contents
      hid hextended
    rw [← hbase] at hw'
    obtain ⟨hat', hbaseAt'⟩ := Document.along_iff.mp hw'
    exact ⟨Document.declaresAlike_of_extended hr.wellRead hr'.wellRead huri hbase hextended hid
      hanchor fun url hjoin => hrefers c inner members text url hvisited hinside hmem hjoin,
      hbaseAt'.trans hbaseAt.symm, Option.isSome_of_eq_some hat'⟩

end Compile

namespace Options

variable {schema schema' : Value} {uri : Url} {v : Validator} {r : Registry}
variable {entry : String × Value} {path : List String}

/-- A member that is no keyword makes no difference where it is added to an object that no schema
reads as data or as a map of properties, if all `$id` in it join and no reference is to what is
declared first in it. -/
theorem verdicts_of_extended (hschema : schema.WellFormed) (hentry : entry.2.WellFormed)
    (hbuild : build {} schema = (.ok v, r)) (huri : documentUri Url.ownBase schema = .ok uri)
    (hname : Keyword.ofName? entry.1 = none) (hextended : schema.Extended entry path schema')
    (hapart : Apart r ⟨uri, Url.ownBase, schema⟩ ⟨path⟩)
    (hjoin : ¬Declarations.Unresolvable Url.ownBase ⟨uri, .root⟩ schema')
    (hrefers : RefersOutside r ⟨uri, Url.ownBase, schema⟩ ⟨uri, Url.ownBase, schema'⟩
      (Pointer.key ⟨path⟩ entry.1)) :
    ∃ v', (build {} schema').1 = .ok v' ∧ ∀ x, v.isValid x = v'.isValid x := by
  have hschema' := hextended.wellFormed hschema hentry
  obtain ⟨uri', huri', hacceptable⟩ :=
    acceptable_of_build (o := {}) rfl hschema Retriever.wellFormed_empty hbuild
  obtain rfl : uri = uri' := Except.ok.inj (huri.symm.trans huri')
  have hid : "$id" ≠ entry.1 := Keyword.ne_of_ofName? rfl hname
  have hdocument : documentUri Url.ownBase schema' = .ok uri :=
    (Document.baseInside_congr (hextended.get?_string_iff hschema hid) _).symm.trans huri
  have hsingle : r.Single ⟨uri, Url.ownBase, schema⟩ := by
    have hsingle := single_build hschema huri hacceptable.root
    rwa [hbuild] at hsingle
  exact build_of_counterparts hbuild hschema' hdocument hjoin hacceptable
    (counterparts_of_extended hsingle (single_build hschema' hdocument hjoin) rfl rfl hextended
      hname hacceptable.admissible hapart hrefers)

/-! ## An example -/

section Example

/-- A schema that is read under its anchor. -/
def coded : Value := .object [("$ref", .string "#code"), ("$defs", .object [
  ("code", .object [("$anchor", .string "code"), ("type", .string "string")])])]

/-- The same one with a note in the part, which has an anchor of its own. -/
def codedWithNote : Value := .object [("$ref", .string "#code"), ("$defs", .object [
  ("code", .object [("$anchor", .string "code"),
    ("x-note", .object [("$anchor", .string "note"), ("type", .string "integer")]),
    ("type", .string "string")])])]

theorem follows_code (hr : r.Single ⟨Url.ownBase, Url.ownBase, coded⟩) :
    r.Follows {} Url.ownBase "#code" ⟨Url.ownBase, ⟨["$defs", "code"]⟩, Url.ownBase,
      .object [("$anchor", .string "code"), ("type", .string "string")]⟩ := by
  refine hr.follows_iff.mpr ⟨{ Url.ownBase with fragment := some "code" },
    ⟨Url.ownBase, .root⟩, by decide +kernel, by decide +kernel, ?_, rfl, rfl, by decide +kernel⟩
  refine Registry.locate_of_name (by decide) ?_
  rw [hr.lookup_anchors]
  decide +kernel

/-- The schema is visited, and the part that it refers to. -/
theorem visited_coded (hr : r.Single ⟨Url.ownBase, Url.ownBase, coded⟩) {c : Context}
    {w : Value}
    (h : Visited {} r (Document.start ⟨Url.ownBase, Url.ownBase, coded⟩) coded c w) :
    c = ⟨⟨Url.ownBase, .root⟩, Url.ownBase⟩ ∧ w = coded ∨
      c = ⟨⟨Url.ownBase, ⟨["$defs", "code"]⟩⟩, Url.ownBase⟩ ∧
        w = .object [("$anchor", .string "code"), ("type", .string "string")] := by
  induction h with
  | root => exact .inl ⟨rfl, rfl⟩
  | @inside c inner members name k x path schema _ _ hmem hname hschema ih =>
      -- No keyword of the two objects has schemas in its value.
      have hplain : ∀ m ∈ members,
          Keyword.ofName? m.1 ∈ [some .ref, some .informative, some .type] := by
        rcases ih with ⟨-, hmembers⟩ | ⟨-, hmembers⟩ <;> cases hmembers <;> decide
      have hkeyword := hplain _ hmem
      rw [hname] at hkeyword
      simp only [List.mem_cons, Option.some.injEq, List.not_mem_nil, or_false] at hkeyword
      rcases hkeyword with rfl | rfl | rfl <;> cases hschema
  | @follow c inner members text t _ hinside hmem hfollows ih =>
      rcases ih with ⟨rfl, hmembers⟩ | ⟨-, hmembers⟩ <;> cases hmembers
      · obtain rfl : text = "#code" := by simpa using hmem
        cases hinside
        obtain rfl := hfollows.unique (follows_code hr)
        exact .inr ⟨rfl, rfl⟩
      · simp at hmem

/-- No schema that is visited reads the part as anything but a schema. -/
theorem apart_coded (hr : r.Single ⟨Url.ownBase, Url.ownBase, coded⟩) :
    Apart r ⟨Url.ownBase, Url.ownBase, coded⟩ ⟨["$defs", "code"]⟩ := by
  constructor
  · rintro c w name rest hvisited hname hp
    rcases visited_coded hr hvisited with ⟨rfl, -⟩ | ⟨rfl, -⟩
    · obtain ⟨rfl, -⟩ := List.cons.inj (congrArg Pointer.tokens hp)
      simp at hname
    · cases hp
  · rintro c w hvisited hp
    rcases visited_coded hr hvisited with ⟨rfl, -⟩ | ⟨rfl, -⟩ <;>
      exact absurd (congrArg Pointer.tokens hp) (by decide)

/-- The reference is still to the part itself, which is not in the note. -/
theorem refersOutside_coded (hr : r.Single ⟨Url.ownBase, Url.ownBase, coded⟩) :
    RefersOutside r ⟨Url.ownBase, Url.ownBase, coded⟩ ⟨Url.ownBase, Url.ownBase, codedWithNote⟩
      ⟨["$defs", "code", "x-note"]⟩ := by
  intro c inner members text url hvisited hinside hmem hurl
  rcases visited_coded hr hvisited with ⟨rfl, hmembers⟩ | ⟨-, hmembers⟩ <;> cases hmembers
  · obtain rfl : text = "#code" := by simpa using hmem
    cases hinside
    have hjoin : Url.ownBase.join "#code" = .ok { Url.ownBase with fragment := some "code" } := by
      decide +kernel
    obtain rfl := Except.ok.inj (hjoin.symm.trans hurl)
    constructor
    · rintro place hpointer
      cases hpointer
    rintro name place hname - hplace ⟨rest, hrest⟩
    obtain rfl := Option.some.inj hname
    have hcode : (Document.declared ⟨Url.ownBase, Url.ownBase, codedWithNote⟩).anchors.lookup
        (Url.ownBase, "code") = some ⟨Url.ownBase, ⟨["$defs", "code"]⟩⟩ := by decide +kernel
    obtain rfl := Option.some.inj (hcode.symm.trans hplace)
    cases hrest
  · simp at hmem

theorem verdicts_coded : coded.WellFormed ∧
    coded.Extended ("x-note", .object [("$anchor", .string "note"), ("type", .string "integer")])
      ["$defs", "code"] codedWithNote ∧
    ¬Declarations.Unresolvable Url.ownBase ⟨Url.ownBase, .root⟩ codedWithNote ∧
    ∃ v v' r, build {} coded = (.ok v, r) ∧
      Apart r ⟨Url.ownBase, Url.ownBase, coded⟩ ⟨["$defs", "code"]⟩ ∧
      RefersOutside r ⟨Url.ownBase, Url.ownBase, coded⟩ ⟨Url.ownBase, Url.ownBase, codedWithNote⟩
        ⟨["$defs", "code", "x-note"]⟩ ∧
      (build {} codedWithNote).1 = .ok v' ∧ (∀ x, v.isValid x = v'.isValid x) ∧
      v'.isValid (.string "s") = true ∧ v'.isValid .null = false := by
  have hschema : coded.WellFormed := by decide
  have hextended : coded.Extended
      ("x-note", .object [("$anchor", .string "note"), ("type", .string "integer")])
      ["$defs", "code"] codedWithNote :=
    .member [("$ref", .string "#code")]
      (.member [] (.here [("$anchor", .string "code")] (by decide)))
  have hjoin : ¬Declarations.Unresolvable Url.ownBase ⟨Url.ownBase, .root⟩ codedWithNote :=
    Declarations.not_unresolvable_of_toBool (by decide +kernel)
  have hsingle := single_build hschema rfl
    (Declarations.not_unresolvable_of_toBool (by decide +kernel))
  obtain ⟨v, hv, -⟩ := map_eq_ok.mp
    (show (build {} coded).1.map (·.isValid .null) = .ok false by decide +kernel)
  have hbuild : build {} coded = (.ok v, (build {} coded).2) := by rw [← hv]
  obtain ⟨v', hv', hsame⟩ := verdicts_of_extended hschema (by decide) hbuild rfl rfl hextended
    (apart_coded hsingle) hjoin (refersOutside_coded hsingle)
  have hvalid : (build {} codedWithNote).1.map (fun v =>
      (v.isValid (.string "s"), v.isValid .null)) = .ok (true, false) := by decide +kernel
  rw [hv'] at hvalid
  obtain ⟨hstring, hnull⟩ := Prod.mk.inj (Except.ok.inj hvalid)
  exact ⟨hschema, hextended, hjoin, v, v', _, hbuild, apart_coded hsingle,
    refersOutside_coded hsingle, hv', hsame, hstring, hnull⟩

/-- A member that is no keyword is added to a schema object that is visited, and a value that was
accepted is not accepted any more. -/
structure Disturbs (entry : String × Value) (path : List String) (schema schema' x : Value) :
    Prop where
  wellFormed : schema.WellFormed
  name : Keyword.ofName? entry.1 = none
  extended : schema.Extended entry path schema'
  visited : ∃ c members, c.place.pointer = ⟨path⟩ ∧ Visited {} (build {} schema).2
    (Document.start ⟨Url.ownBase, Url.ownBase, schema⟩) schema c (.object members)
  before : (build {} schema).1.map (·.isValid x) = .ok true
  after : (build {} schema').1.map (·.isValid x) ≠ .ok true

/-- An object is visited that the root refers to by its pointer. -/
theorem visited_of_ref (text fragment : String) (path : List String)
    (members : List (String × Value)) {target : List (String × Value)}
    (hschema : (Value.object members).WellFormed)
    (hdeclared : (Declarations.ofValue Url.ownBase ⟨Url.ownBase, .root⟩ (.object members)).toBool)
    (hid : members.lookup "$id" = none) (href : ("$ref", .string text) ∈ members)
    (hjoin : Url.ownBase.join text = .ok { Url.ownBase with fragment := some fragment })
    (hpointer : isPointerFragment fragment = true)
    (hlocate : Registry.locate {} Url.ownBase text Url.ownBase fragment ⟨Url.ownBase, .root⟩ =
      .ok ⟨Url.ownBase, ⟨path⟩⟩)
    (hat : (Value.object members).at? ⟨path⟩ = some (.object target))
    (hbase : Document.baseAt ⟨Url.ownBase, Url.ownBase, .object members⟩ ⟨path⟩ = .ok Url.ownBase) :
    Visited {} (build {} (.object members)).2
      (Document.start ⟨Url.ownBase, Url.ownBase, .object members⟩) (.object members)
      ⟨⟨Url.ownBase, ⟨path⟩⟩, Url.ownBase⟩ (.object target) := by
  have huri : documentUri Url.ownBase (.object members) = .ok Url.ownBase := by
    simp [documentUri, Value.get?, hid]
  have hsingle := single_build hschema huri (Declarations.not_unresolvable_of_toBool hdeclared)
  have hinside : (Document.start ⟨Url.ownBase, Url.ownBase, .object members⟩).inside members =
      .ok (Document.start ⟨Url.ownBase, Url.ownBase, .object members⟩) := by
    simp [Context.inside, hid]
  have hfollows : (build {} (.object members)).2.Follows {} Url.ownBase text
      ⟨Url.ownBase, ⟨path⟩, Url.ownBase, .object target⟩ :=
    hsingle.follows_iff.mpr ⟨_, ⟨Url.ownBase, .root⟩, hjoin, List.lookup_cons_self,
      (Registry.locate_of_isPointerFragment hpointer).trans hlocate, rfl, hat, hbase⟩
  exact .follow .root hinside href hfollows

/-- A member makes a difference if it declares first what a reference asks for, if an `$id` in it
does not join, and if it is added to data or to a map of properties that is a schema as well. -/
theorem disturbing_members :
    Disturbs ("x-old", .object [("$anchor", .string "code"), ("type", .string "integer")]) []
      coded
      (.object [("x-old", .object [("$anchor", .string "code"), ("type", .string "integer")]),
        ("$ref", .string "#code"), ("$defs", .object [
          ("code", .object [("$anchor", .string "code"), ("type", .string "string")])])])
      (.string "s") ∧
    Disturbs ("x-old", .object [("$id", .string "http://[")]) []
      (.object [("type", .string "string")])
      (.object [("type", .string "string"), ("x-old", .object [("$id", .string "http://[")])])
      (.string "s") ∧
    Disturbs ("x-old", .null) ["const"]
      (.object [("$ref", .string "#/const"), ("const", .object [("type", .string "object")])])
      (.object [("$ref", .string "#/const"),
        ("const", .object [("type", .string "object"), ("x-old", .null)])])
      (.object [("type", .string "object")]) ∧
    Disturbs ("x-old", .null) ["enum", "0"]
      (.object [("$ref", .string "#/enum/0"),
        ("enum", .array [.object [("type", .string "object")]])])
      (.object [("$ref", .string "#/enum/0"),
        ("enum", .array [.object [("type", .string "object"), ("x-old", .null)]])])
      (.object [("type", .string "object")]) ∧
    Disturbs ("x-old", .bool false) ["properties"]
      (.object [("$ref", .string "#/properties"), ("properties", .object [("a", .bool true)])])
      (.object [("$ref", .string "#/properties"),
        ("properties", .object [("a", .bool true), ("x-old", .bool false)])])
      (.object [("x-old", .null)]) := by
  refine ⟨?anchor, ?id, ?const, ?enum, ?properties⟩
  case anchor =>
    exact ⟨by decide, by decide, .here [] (by decide), ⟨_, _, rfl, .root⟩, by decide +kernel,
      by decide +kernel⟩
  case id =>
    exact ⟨by decide, by decide, .here [("type", .string "string")] (by decide), ⟨_, _, rfl, .root⟩,
      by decide +kernel, by decide +kernel⟩
  case const =>
    have hvisited := visited_of_ref "#/const" "/const" ["const"]
      [("$ref", .string "#/const"), ("const", .object [("type", .string "object")])]
      (by decide) (by decide +kernel) rfl List.mem_cons_self (by decide +kernel) (by decide)
      (by decide +kernel) rfl (by decide +kernel)
    exact ⟨by decide, by decide, .member [("$ref", .string "#/const")]
      (.here [("type", .string "object")] (by decide)), ⟨_, _, rfl, hvisited⟩, by decide +kernel,
      by decide +kernel⟩
  case enum =>
    have hvisited := visited_of_ref "#/enum/0" "/enum/0" ["enum", "0"]
      [("$ref", .string "#/enum/0"), ("enum", .array [.object [("type", .string "object")]])]
      (by decide) (by decide +kernel) rfl List.mem_cons_self (by decide +kernel) (by decide)
      (by decide +kernel) rfl (by decide +kernel)
    exact ⟨by decide, by decide, .member [("$ref", .string "#/enum/0")]
      (.item [] (.here [("type", .string "object")] (by decide))), ⟨_, _, rfl, hvisited⟩,
      by decide +kernel, by decide +kernel⟩
  case properties =>
    have hvisited := visited_of_ref "#/properties" "/properties" ["properties"]
      [("$ref", .string "#/properties"), ("properties", .object [("a", .bool true)])]
      (by decide) (by decide +kernel) rfl List.mem_cons_self (by decide +kernel) (by decide)
      (by decide +kernel) rfl (by decide +kernel)
    exact ⟨by decide, by decide, .member [("$ref", .string "#/properties")]
      (.here [("a", .bool true)] (by decide)), ⟨_, _, rfl, hvisited⟩, by decide +kernel,
      by decide +kernel⟩

end Example
end Options
end JsonSchema
