import JsonSchema.Proofs.Compilation.Documents
import JsonSchema.Proofs.Compilation.Exploration
import JsonSchema.Proofs.Compilation.InPlace
import JsonSchema.Proofs.Compilation.Returning
import Mathlib.Data.Set.Finite.Basic

/-!
# Which schemas are accepted

A schema whose build returns is accepted exactly if all `$id` in it and in the documents that were
loaded join to URLs, every schema that is visited from it can be compiled where it stands, and none
of these applies itself in place. Two documents may claim the same URL, and then the one that was
loaded first has it: so references are followed in the registry that the build leaves, be it
successful or not, and documents that it has not loaded are had from the retriever. A build returns
if the retriever has documents for finitely many URLs; if it has them for all, references may lead
on for ever.
-/

namespace JsonSchema

open Compile Relation

namespace Compile

variable {settings : Settings} {s : State} {c : Context} {v : Value} {n : Node}
variable {members : List (String × Value)}

/-! ## What is compiled could be compiled -/

theorem Compiled.isSchema (h : Compiled settings s c v n) : v.IsSchema := by
  cases h with
  | boolean => exact .inl ⟨_, rfl⟩
  | object => exact .inr ⟨_, rfl⟩

theorem Compiled.exists_context (h : Compiled settings s c (.object members) n) :
    ∃ inner, c.inside members = .ok inner := by
  cases h with
  | object hinside => exact ⟨_, hinside⟩

theorem Compiled.takes (h : Compiled settings s c (.object members) n)
    (hwf : (Value.object members).WellFormed) {name : String} {k : Keyword}
    (hmem : (name, v) ∈ members) (hname : Keyword.ofName? name = some k) : k.Takes v := by
  obtain ⟨inner, hinside⟩ := h.exists_context
  obtain ⟨node, hmember⟩ := h.exists_member hinside hmem
  cases hmember with
  | unknown h | informative h =>
      cases hname.symm.trans h
      try trivial
  | reference h =>
      cases hname.symm.trans h
      exact ⟨_, rfl⟩
  | check h hk hcheck =>
      cases hname.symm.trans h
      exact (exists_readCheck_iff hk).mp ⟨_, hcheck⟩
  | pattern h hregex =>
      cases hname.symm.trans h
      exact ⟨_, _, rfl, hregex⟩
  | required h hnames =>
      cases hname.symm.trans h
      exact exists_readNames_iff.mp ⟨_, hnames⟩
  | properties h =>
      cases hname.symm.trans h
      exact ⟨_, rfl⟩
  | uniformItems h _ hn =>
      cases hname.symm.trans h
      exact .inl hn.isSchema
  | positionalItems h =>
      cases hname.symm.trans h
      exact .inr ⟨_, rfl⟩
  | allOf h | anyOf h | oneOf h =>
      cases hname.symm.trans h
      exact ⟨_, rfl, List.cons_ne_nil _ _⟩
  | not h hn | conditional h hn | idleCondition h hn | idleBranch h _ hn =>
      cases hname.symm.trans h
      exact hn.isSchema
  | branch hbranch =>
      -- A branch is compiled with its condition.
      obtain ⟨n', hn'⟩ := h.exists_inside hinside (hwf.lookup hmem) hbranch .branch
      cases hname.symm.trans hbranch
      exact hn'.isSchema

theorem Compiled.fit (h : Compiled settings s c (.object members) n)
    (hwf : (Value.object members).WellFormed) : Fit settings s.registry c members where
  id := exists_inside_iff.mp h.exists_context
  anchor := by
    cases h with
    | object _ hanchor => exact hanchor
  takes _ _ _ hmem hname := h.takes hwf hmem hname
  resolves inner text hinside hmem := by
    obtain ⟨node, hmember⟩ := h.exists_member hinside hmem
    obtain ⟨t, hleads, -⟩ := hmember.exists_target
    exact ⟨t, hleads.follows⟩
  known := by
    rintro hstrict ⟨name, v⟩ hmem hname
    obtain ⟨inner, hinside⟩ := h.exists_context
    obtain ⟨node, hmember⟩ := h.exists_member hinside hmem
    cases hmember with
    | unknown _ hlax => cases hlax.symm.trans hstrict
    | informative h | reference h | check h | pattern h | required h | properties h
    | uniformItems h | positionalItems h | allOf h | anyOf h | oneOf h | not h | conditional h
    | idleCondition h | branch h | idleBranch h => cases hname.symm.trans h

theorem Compiled.admissible (h : Compiled settings s c v n) (hwf : v.WellFormed) :
    Admissible settings s.registry c v := by
  cases v with
  | bool b => trivial
  | object members => exact h.fit hwf
  | _ => cases h

/-! ## Schemas that only refer -/

section Referring

variable {retriever : Retriever} {r : Registry} {text : String} {t : Target}

/-- A schema that is a reference and nothing else. -/
def referring (text : String) : Value := .object [("$ref", .string text)]

theorem wellFormed_referring (text : String) : (referring text).WellFormed := by
  simp [referring, Value.WellFormed, Value.WellFormedMembers]

theorem ofValue_referring (base : Url) (place : Place) (text : String) :
    Declarations.ofValue base place (referring text) = .ok {} := rfl

theorem not_unresolvable_referring (base : Url) (place : Place) (text : String) :
    ¬Declarations.Unresolvable base place (referring text) := by
  intro hunresolvable
  obtain ⟨e, he⟩ := Declarations.exists_error_iff.mpr hunresolvable
  cases he

/-- Such a schema can be compiled where its reference leads somewhere. -/
theorem admissible_referring (h : r.Follows settings.retriever c.base text t) :
    Admissible settings r c (referring text) where
  id := nofun
  anchor := nofun
  takes := by
    intro name v k hmem hname
    cases List.mem_singleton.mp hmem
    cases hname
    exact ⟨_, rfl⟩
  resolves := by
    intro inner text hinside hmem
    cases hinside
    cases List.mem_singleton.mp hmem
    exact ⟨t, h⟩
  known := by
    intro _ m hmem
    rw [List.mem_singleton.mp hmem]
    exact Option.some_ne_none _

theorem eq_of_applies_referring {p : Context × Value} (hfollows : r.Follows retriever c.base text t)
    (h : Applies retriever r (c, referring text) p) : p = (targetContext t, t.contents) := by
  cases h with
  | keyword _ hmem hname _ hschema =>
      cases List.mem_singleton.mp hmem
      cases hname
      cases hschema
  | reference hinside hmem hfollows' =>
      cases hinside
      cases List.mem_singleton.mp hmem
      rw [hfollows'.unique hfollows]

/-- Where one such schema leads to the next, no others are visited. -/
theorem Visited.of_referring {c₀ : Context} {x₀ x : Value} {P : Context → Value → Prop}
    (h : Visited retriever r c₀ x₀ c x) (hroot : P c₀ x₀)
    (hnext : ∀ c x, P c x → ∃ text t, x = referring text ∧
      r.Follows retriever c.base text t ∧ P (targetContext t) t.contents) : P c x := by
  induction h with
  | root => exact hroot
  | inside _ _ hmem hname hschema ih =>
      obtain ⟨text, t, hobject, -, -⟩ := hnext _ _ ih
      cases hobject
      cases List.mem_singleton.mp hmem
      cases hname
      cases hschema
  | follow _ hinside hmem hfollows ih =>
      obtain ⟨text, t, hobject, hfollows', ht⟩ := hnext _ _ ih
      cases hobject
      cases hinside
      cases List.mem_singleton.mp hmem
      rwa [hfollows.unique hfollows']

end Referring

end Compile

/-- Whatever is visited from a compiled schema is compiled. -/
theorem Complete.exists_compiled {settings : Settings} {s : State} {slots : List Node}
    {c₀ c : Context} {x₀ x : Value} {n₀ : Node} (h : Complete settings s slots)
    (hwf : s.registry.WellFormed) (hx₀ : x₀.WellFormed) (hn₀ : Compiled settings s c₀ x₀ n₀)
    (hvisited : Visited settings.retriever s.registry c₀ x₀ c x) :
    x.WellFormed ∧ ∃ n, Compiled settings s c x n := by
  induction hvisited with
  | root => exact ⟨hx₀, n₀, hn₀⟩
  | inside _ hinside hmem hname hschema ih =>
      obtain ⟨hobject, n, hn⟩ := ih
      exact ⟨hschema.wellFormed (hobject.of_mem hmem),
        hn.exists_inside hinside (hobject.lookup hmem) hname hschema⟩
  | follow _ hinside hmem hfollows ih =>
      obtain ⟨-, n, hn⟩ := ih
      obtain ⟨ht, n', hn', -⟩ := h.exists_followed hwf hn hinside hmem hfollows
      exact ⟨ht, n', hn'⟩

namespace Options

variable {o : Options} {retriever : Retriever} {schema : Value} {s : State}

/-- All that a build asks of a schema which becomes the document under a URL. -/
structure Acceptable (o : Options) (retriever : Retriever) (schema : Value) (uri : Url)
    (r : Registry) : Prop where
  /-- Outside data keywords, every `$id` of the schema joins with its base. -/
  root : ¬Declarations.Unresolvable o.base ⟨uri, .root⟩ schema
  /-- So does every one of a document that was loaded. -/
  loaded : ∀ uri ∈ r.asked, ∀ contents, retriever.find? uri = some contents →
    ¬Registry.Refuses uri contents
  /-- Every schema that is visited can be compiled. -/
  admissible : ∀ c x, Visited retriever r ⟨⟨uri, .root⟩, o.base⟩ schema c x →
    Admissible (o.settings retriever) r c x
  /-- No schema that is visited applies itself in place. -/
  acyclic : ∀ c x, Visited retriever r ⟨⟨uri, .root⟩, o.base⟩ schema c x →
    ¬TransGen (Applies retriever r) (c, x) (c, x)

/-! ## Builds with no documents around the schema -/

/-- A schema whose `$id` join comes to compilation. -/
theorem exists_enters (hdocuments : o.documents = []) (hschema : schema.WellFormed) {uri : Url}
    (huri : documentUri o.base schema = .ok uri)
    (hroot : ¬Declarations.Unresolvable o.base ⟨uri, .root⟩ schema) :
    ∃ h : Enters o schema {}, h.uri = uri := by
  have hbare := Document.withoutFragment_of_baseInside o.withoutFragment_base huri
  cases hdeclared : Declarations.ofValue o.base ⟨uri, .root⟩ schema with
  | error e => exact absurd (Declarations.exists_error_iff.mp ⟨e, hdeclared⟩) hroot
  | ok declared =>
      exact ⟨{
        uri := uri
        before := {}
        root := ⟨uri, o.base, schema⟩
        inserted := Registry.keep {} ⟨uri, o.base, schema⟩ declared
        insertAll_eq := by rw [hdocuments]; rfl
        documentUri_eq := huri
        insertAt_eq := by
          simp [Registry.insertAt, Registry.get?, Registry.find?, Registry.add, hbare,
            o.withoutFragment_base, hdeclared]
        identical := Value.identical_refl hschema }, rfl⟩

namespace Enters

theorem snd_buildWith {r : Registry} (h : Enters o schema r) (retriever : Retriever)
    (steps : Registry → Nat) : (o.buildWith retriever steps r schema).2 =
      (h.run retriever (steps h.inserted)).2.registry := by
  rw [h.buildWith_eq]
  exact snd_compileRoot ..

variable (h : Enters o schema {}) {steps : Nat}

/-- All documents are the schema itself or from the retriever. -/
theorem forall_run {P : Document → Prop} (hdocuments : o.documents = [])
    (hschema : P ⟨h.uri, o.base, schema⟩)
    (hloaded : ∀ uri contents, retriever.find? uri = some contents → P ⟨uri, uri, contents⟩)
    (steps : Nat) : ∀ d ∈ (h.run retriever steps).2.registry.documents, P d := by
  obtain ⟨-, hinserted⟩ := Registry.add_ok (h.add_eq hdocuments)
  have hall := forall_compileRoot steps h.uri o.base schema
    (show ∀ d ∈ h.inserted.documents, P d by simpa [hinserted])
    (show ∀ uri contents, (o.settings retriever).retriever.find? uri = some contents → _
      from hloaded)
  rwa [snd_compileRoot] at hall

theorem wellFormed_run (hdocuments : o.documents = []) (hschema : schema.WellFormed)
    (hretriever : retriever.WellFormed) (steps : Nat) :
    (h.run retriever steps).2.registry.WellFormed :=
  h.forall_run (P := fun d => d.contents.WellFormed) hdocuments hschema hretriever steps

theorem complete (hdocuments : o.documents = []) {slot : Nat} {slots : List Node}
    (hrun : h.run retriever steps = (.ok slot, s)) (hnodes : s.slots.mapM Slot.node = some slots) :
    Complete (o.settings retriever) s slots := by
  have hindexed := h.evolves_inserted.wellIndexed Registry.wellIndexed_empty
  obtain ⟨-, hevolves, hrooted⟩ := rooted_of_rootOutcome hindexed hrun
  have htarget := (h.isTarget_root hdocuments).grows hevolves.grows
  exact hrooted.complete hnodes (hevolves.wellIndexed hindexed) htarget

/-- Compilation of a document explores, from its root on. -/
theorem exploresAt (hdocuments : o.documents = []) (retriever : Retriever) (steps : Nat) :
    ExploresAt (o.settings retriever) ⟨⟨h.uri, .root⟩, o.base⟩ schema h.inserted ⟨h.inserted, []⟩
      (compileTarget (o.settings retriever) steps h.target) := by
  have hasked : h.inserted.asked = [] := Registry.asked_of_add (h.add_eq hdocuments)
  refine (exploring (o.settings retriever) _ schema _).target h.inserted h.target
    (h.isTarget_root hdocuments) (.inl ⟨rfl, rfl⟩) _ ?_
  exact {
    grows := .refl _
    indexed := h.evolves_inserted.wellIndexed Registry.wellIndexed_empty
    read := fun uri huri => absurd huri (by simp [hasked])
    slots := nofun }

theorem explored (hdocuments : o.documents = []) {slot : Nat}
    (hrun : h.run retriever steps = (.ok slot, s)) :
    Explored (o.settings retriever) ⟨⟨h.uri, .root⟩, o.base⟩ schema h.inserted s :=
  (h.exploresAt hdocuments retriever steps).ok slot s hrun

theorem flawed (hdocuments : o.documents = []) {e : CompileError}
    (hrun : h.run retriever steps = (.error e, s)) (hran : ¬RanOut (h.run retriever steps)) :
    Flawed (o.settings retriever) ⟨⟨h.uri, .root⟩, o.base⟩ schema s.registry := by
  refine ((h.exploresAt hdocuments retriever steps).error e s hrun).resolve_left ?_
  rintro ⟨document, rfl⟩
  exact hran ⟨document, by rw [hrun]⟩

section Run

variable (hdocuments : o.documents = []) (hschema : schema.WellFormed)
variable (hretriever : retriever.WellFormed)
variable {slot : Nat} {slots : List Node} (hrun : h.run retriever steps = (.ok slot, s))
variable (hnodes : s.slots.mapM Slot.node = some slots)

include hdocuments hschema hretriever hrun hnodes

/-- Whatever is visited has been compiled. -/
theorem exists_compiled {c : Context} {x : Value}
    (hvisited : Visited retriever s.registry ⟨⟨h.uri, .root⟩, o.base⟩ schema c x) :
    x.WellFormed ∧ ∃ n, Compiled (o.settings retriever) s c x n := by
  have hindexed := h.evolves_inserted.wellIndexed Registry.wellIndexed_empty
  obtain ⟨-, -, hrooted⟩ := rooted_of_rootOutcome hindexed hrun
  obtain ⟨n₀, -, -, hn₀, -⟩ := hrooted.root
  have hwf := h.wellFormed_run hdocuments hschema hretriever steps
  rw [hrun] at hwf
  exact (h.complete hdocuments hrun hnodes).exists_compiled hwf hschema hn₀ hvisited

/-- Slots are taken for the root and for the targets of the references that are visited. -/
theorem mem_places_iff {place : Place} : place ∈ s.places ↔ place = ⟨h.uri, .root⟩ ∨
    ∃ t, Referred retriever s.registry ⟨⟨h.uri, .root⟩, o.base⟩ schema t ∧ t.place = place := by
  constructor
  · intro hplace
    obtain ⟨t, rfl, -, hled⟩ := (h.explored hdocuments hrun).slots place hplace
    rcases hled with ⟨hcontext, -⟩ | hreferred
    · exact .inl (congrArg Context.place hcontext)
    · exact .inr ⟨t, hreferred s.registry (.refl _), rfl⟩
  · rintro (rfl | ⟨t, ⟨c, inner, members, text, hvisited, hinside, hmem, hfollows⟩, rfl⟩)
    · have hindexed := h.evolves_inserted.wellIndexed Registry.wellIndexed_empty
      obtain ⟨-, -, hrooted⟩ := rooted_of_rootOutcome hindexed hrun
      obtain ⟨n₀, rest, hslots, -⟩ := hrooted.root
      rw [State.places, hslots]
      exact List.mem_cons_self
    · obtain ⟨-, n, hn⟩ := h.exists_compiled hdocuments hschema hretriever hrun hnodes hvisited
      obtain ⟨node, hmember⟩ := hn.exists_member hinside hmem
      obtain ⟨t', hleads, slot, hslot, -⟩ := hmember.exists_target
      obtain rfl := hleads.follows.unique hfollows
      exact List.mem_of_getElem? hslot

end Run

end Enters

/-! ## Both directions -/

variable {steps : Registry → Nat}

theorem acceptable_of_build (hdocuments : o.documents = []) (hschema : schema.WellFormed)
    (hretriever : retriever.WellFormed) {v : Validator} {r : Registry}
    (hbuild : o.buildWith retriever steps {} schema = (.ok v, r)) :
    ∃ uri, documentUri o.base schema = .ok uri ∧ Acceptable o retriever schema uri r := by
  obtain ⟨h⟩ := nonempty_enters hbuild
  obtain ⟨slot, s, hrun, rfl, hnodes, -, hcycle⟩ := h.exists_run hbuild
  have hcompiled {c : Context} {x : Value} :=
    h.exists_compiled (c := c) (x := x) hdocuments hschema hretriever hrun hnodes
  refine ⟨h.uri, h.documentUri_eq, Registry.not_unresolvable_of_add (h.add_eq hdocuments), ?_, ?_,
    ?_⟩
  · intro uri huri contents hcontents
    obtain ⟨contents', hcontents', hrefuses⟩ := (h.explored hdocuments hrun).read uri huri
    obtain rfl := Option.some.inj (hcontents'.symm.trans hcontents)
    exact hrefuses
  · intro c x hvisited
    obtain ⟨hx, n, hn⟩ := hcompiled hvisited
    exact hn.admissible hx
  · intro c x hvisited
    obtain ⟨hx, n, hn⟩ := hcompiled hvisited
    have hwf := h.wellFormed_run hdocuments hschema hretriever (steps h.inserted)
    rw [hrun] at hwf
    exact (h.complete hdocuments hrun hnodes).not_applies_self hwf hcycle (p := (c, x)) hx hn

theorem exists_build_of_acceptable (hdocuments : o.documents = []) (hschema : schema.WellFormed)
    {uri : Url} (huri : documentUri o.base schema = .ok uri)
    {result : Except CompileError Validator × Registry}
    (hreturns : o.Returns retriever {} schema result)
    (hacceptable : Acceptable o retriever schema uri result.2) : ∃ v, result.1 = .ok v := by
  obtain ⟨h, rfl⟩ := exists_enters hdocuments hschema huri hacceptable.root
  obtain ⟨n, hran, rfl⟩ := hreturns.exists_run h
  rw [h.snd_buildWith] at hacceptable
  rw [h.buildWith_of_run]
  rcases hrun : h.run retriever n with ⟨e | slot, s⟩ <;> rw [hrun] at hacceptable
  · obtain ⟨c, x, hvisited, hflaw⟩ := h.flawed hdocuments hrun hran
    exact absurd (hacceptable.admissible c x hvisited) hflaw
  · obtain ⟨slots, hnodes⟩ := h.exists_nodes Registry.wellIndexed_empty hrun
    cases hcycle : Cycle.find? slots with
    | none => exact ⟨⟨h.uri, slots⟩, by simp only [hnodes, hcycle]⟩
    | some l =>
        obtain ⟨t, ht, hplace, happlies⟩ :=
          (h.complete hdocuments hrun hnodes).exists_applies_self hnodes hcycle
        obtain ⟨t', hplace', ht', hled⟩ := (h.explored hdocuments hrun).slots t.place hplace
        obtain rfl := ht'.unique ht hplace'
        exact absurd happlies (hacceptable.acyclic _ _ (hled.comes s.registry (.refl _)))

/-- A validator has one slot for the root and for each target of the references that are visited. -/
theorem exists_places_of_build (hdocuments : o.documents = []) (hschema : schema.WellFormed)
    (hretriever : retriever.WellFormed) {uri : Url} (huri : documentUri o.base schema = .ok uri)
    {v : Validator} {r : Registry} (hbuild : o.buildWith retriever steps {} schema = (.ok v, r)) :
    v.document = uri ∧ ∃ places : List Place, places.Nodup ∧ places.length = v.slots.length ∧
      ∀ place, place ∈ places ↔ place = ⟨uri, .root⟩ ∨
        ∃ t, Referred retriever r ⟨⟨uri, .root⟩, o.base⟩ schema t ∧ t.place = place := by
  obtain ⟨h⟩ := nonempty_enters hbuild
  obtain rfl : h.uri = uri := Except.ok.inj (h.documentUri_eq.symm.trans huri)
  obtain ⟨slot, s, hrun, rfl, hnodes, hdocument, -⟩ := h.exists_run hbuild
  have hindexed := h.evolves_inserted.wellIndexed Registry.wellIndexed_empty
  obtain ⟨-, -, hrooted⟩ := rooted_of_rootOutcome hindexed hrun
  have hlength := (forall₂_of_mapM_some hnodes).length_eq
  exact ⟨hdocument, s.places, hrooted.distinct, (List.length_map _).trans hlength,
    fun _ => h.mem_places_iff hdocuments hschema hretriever hrun hnodes⟩

/-- A build with no documents around the schema succeeds exactly if it returns and the schema is
acceptable. It does return, with one result, if the retriever has documents for finitely many URLs,
as the store of the options has. -/
theorem exists_build_iff (o : Options) (retriever : Retriever) (schema : Value)
    (hdocuments : o.documents = []) (hschema : schema.WellFormed)
    (hretriever : retriever.WellFormed) :
    (∀ result, o.Returns retriever {} schema result →
      ((∃ v, result.1 = .ok v) ↔ ∃ uri, documentUri o.base schema = .ok uri ∧
        Acceptable o retriever schema uri result.2)) ∧
    (retriever.Finite → ∃! result, o.Returns retriever {} schema result) ∧
    ((o.store.getD {}).retriever = retriever → o.Returns retriever {} schema (o.build schema)) := by
  refine ⟨fun result hreturns => ⟨?_, ?_⟩, existsUnique_returns Registry.wellIndexed_empty, ?_⟩
  · rintro ⟨v, hv⟩
    obtain ⟨n, hbuild, -⟩ := hreturns
    have hpair : result = (.ok v, result.2) := by rw [← hv]
    exact acceptable_of_build hdocuments hschema hretriever (hbuild.trans hpair)
  · rintro ⟨uri, huri, hacceptable⟩
    exact exists_build_of_acceptable hdocuments hschema huri hreturns hacceptable
  · rintro rfl
    exact returns_buildIn Registry.wellIndexed_empty _

/-- The options that build the schema which refers outward, with a store of their own. -/
def outwardOptions : Options := { nearOptions with store := some farStore }

set_option maxRecDepth 10000 in
/-- Its references lead into a document that is loaded and back, but none of them in place. -/
theorem exists_build_iff_outward : outwardOptions.documents = [] ∧ outward.WellFormed ∧
    farStore.retriever.WellFormed ∧ farStore.retriever.Finite ∧
    (∃! result, outwardOptions.Returns farStore {} outward result) ∧
    outwardOptions.Returns farStore {} outward (outwardOptions.build outward) ∧
    ∃ uri, documentUri outwardOptions.base outward = .ok uri ∧
      Acceptable outwardOptions farStore outward uri (outwardOptions.build outward).2 := by
  have hdocuments : outwardOptions.documents = [] := rfl
  have hschema : outward.WellFormed := by decide
  have hstore : farStore.WellFormed := by
    unfold Store.WellFormed
    decide
  have hfinite := farStore.finite_retriever
  have hbuild : (outwardOptions.build outward).1.isOk = true := by decide +kernel
  have hexists : ∃ v, (outwardOptions.build outward).1 = .ok v := by
    cases hresult : (outwardOptions.build outward).1 with
    | error e => simp [hresult, Except.isOk, Except.toBool] at hbuild
    | ok v => exact ⟨v, rfl⟩
  obtain ⟨hiff, hunique, hreturns⟩ :=
    exists_build_iff outwardOptions farStore outward hdocuments hschema hstore.retriever
  exact ⟨hdocuments, hschema, hstore.retriever, hfinite, hunique hfinite, hreturns rfl,
    (hiff _ (hreturns rfl)).mp hexists⟩

/-! ## Builds that do not return -/

/-- The build of an acceptable schema does not return if references lead from it to ever more
places. -/
theorem not_returns_of_injective (hdocuments : o.documents = []) (hschema : schema.WellFormed)
    (hretriever : retriever.WellFormed) {uri : Url} (huri : documentUri o.base schema = .ok uri)
    {place : Nat → Place} (hinjective : place.Injective)
    (hacceptable : ∀ n,
      Acceptable o retriever schema uri (o.buildWith retriever (fun _ => n) {} schema).2)
    (hreferred : ∀ n k, ∃ t, t.place = place k ∧
      Referred retriever (o.buildWith retriever (fun _ => n) {} schema).2 ⟨⟨uri, .root⟩, o.base⟩
        schema t) : ¬∃ result, o.Returns retriever {} schema result := by
  rintro ⟨result, hreturns⟩
  obtain ⟨n, hbuild, -⟩ := id hreturns
  obtain ⟨v, hv⟩ :=
    exists_build_of_acceptable hdocuments hschema huri hreturns (hbuild ▸ hacceptable n)
  have hpair : result = (.ok v, result.2) := by rw [← hv]
  obtain ⟨-, places, -, -, hplaces⟩ :=
    exists_places_of_build hdocuments hschema hretriever huri (hbuild.trans hpair)
  -- A validator has a slot for each of the places, and finitely many slots.
  refine Set.infinite_of_injective_forall_mem hinjective (fun k => ?_) places.finite_toSet
  obtain ⟨t, ht, hreferred⟩ := hreferred n k
  exact (hplaces (place k)).mpr (.inr ⟨t, hbuild ▸ hreferred, ht⟩)

section Endless

/-- A schema that refers from a URL to the one with a longer query. -/
def onward (uri : Url) : Value := referring ("?" ++ (uri.query.getD "" ++ "x"))

/-- A retriever that has such a schema for every URL. -/
def endless : Retriever := ⟨fun uri => some (onward uri)⟩

/-- The URLs that the references lead through. -/
def further (n : Nat) : Url := { nearUri with query := some (String.ofList (List.replicate n 'x')) }

/-- The options that build the schema under the first of them. -/
def furtherOptions : Options where
  baseUri := some (further 0)
  baseUri_bare := by
    rintro _ ⟨⟩
    rfl

/-- The schema under one of them. -/
def stage (n : Nat) : Target := ⟨further n, .root, further n, onward (further n)⟩

theorem further_injective : Function.Injective further := by
  intro n m h
  have hlength := congrArg (fun u => (u.query.getD "").toList.length) h
  simpa [further] using hlength

theorem join_further (n : Nat) :
    (further n).join ("?" ++ ((further n).query.getD "" ++ "x")) = .ok (further (n + 1)) := by
  have hquery : (further n).query.getD "" ++ "x" = String.ofList (List.replicate (n + 1) 'x') := by
    simp [further, List.replicate_succ', String.ofList_append]
  have hfile : (further n).scheme ≠ "file" := show nearUri.scheme ≠ "file" by decide
  have hplain : ∀ c ∈ (String.ofList (List.replicate (n + 1) 'x')).toList,
      Percent.specialQuery c = false := by
    intro c hc
    rw [String.toList_ofList] at hc
    obtain rfl := List.eq_of_mem_replicate hc
    decide
  rw [hquery, Url.join_query rfl hfile hplain]
  rfl

/-- A document that is one of these schemas. -/
structure Onward (d : Document) : Prop where
  base : d.base = d.uri
  contents : d.contents = onward d.uri

theorem onward_of_found (uri : Url) (contents : Value) (h : endless.find? uri = some contents) :
    Onward ⟨uri, uri, contents⟩ := by
  cases h
  exact ⟨rfl, rfl⟩

section Stages

variable {r : Registry} (hr : r.WellIndexed) (hall : ∀ d ∈ r.documents, Onward d)

include hr hall

theorem follows_stage (n : Nat) : r.Follows endless (further n)
    ("?" ++ ((further n).query.getD "" ++ "x")) (stage (n + 1)) := by
  have hdeclared (d : Document) (hd : Onward d) :
      Declarations.ofValue d.base ⟨d.uri, .root⟩ d.contents = .ok {} := by
    rw [hd.contents]
    exact ofValue_referring _ _ _
  obtain ⟨⟨uri, base, contents⟩, ⟨hbase, hcontents⟩, huri, hfollows⟩ :=
    Registry.exists_follows_whole hr hall onward_of_found hdeclared (join_further n) rfl rfl rfl
  dsimp only at hbase hcontents huri hfollows
  subst hbase hcontents huri
  exact hfollows

theorem visited_stage (n : Nat) : Visited endless r (targetContext (stage 0)) (stage 0).contents
    (targetContext (stage n)) (stage n).contents := by
  induction n with
  | zero => exact .root
  | succ n ih => exact .follow ih rfl List.mem_cons_self (follows_stage hr hall n)

theorem exists_stage_of_visited {c : Context} {x : Value}
    (h : Visited endless r (targetContext (stage 0)) (stage 0).contents c x) :
    ∃ n, c = targetContext (stage n) ∧ x = (stage n).contents := by
  refine h.of_referring
    (P := fun c x => ∃ n, c = targetContext (stage n) ∧ x = (stage n).contents) ⟨0, rfl, rfl⟩ ?_
  rintro _ _ ⟨n, rfl, rfl⟩
  exact ⟨_, stage (n + 1), rfl, follows_stage hr hall n, n + 1, rfl, rfl⟩

theorem eq_stage_of_applies {n : Nat} {p : Context × Value}
    (h : Applies endless r (targetContext (stage n), (stage n).contents) p) :
    p = (targetContext (stage (n + 1)), (stage (n + 1)).contents) :=
  eq_of_applies_referring (c := targetContext (stage n)) (follows_stage hr hall n) h

/-- In place a schema applies only later ones. -/
theorem exists_stage_of_transGen {n : Nat} {p : Context × Value}
    (h : TransGen (Applies endless r) (targetContext (stage n), (stage n).contents) p) :
    ∃ m, n < m ∧ p = (targetContext (stage m), (stage m).contents) := by
  induction h with
  | single h => exact ⟨n + 1, Nat.lt_succ_self n, eq_stage_of_applies hr hall h⟩
  | tail _ h ih =>
      obtain ⟨m, hm, rfl⟩ := ih
      exact ⟨m + 1, hm.trans (Nat.lt_succ_self m), eq_stage_of_applies hr hall h⟩

theorem acceptable_stage : Acceptable furtherOptions endless (stage 0).contents (further 0) r where
  root := not_unresolvable_referring _ _ _
  loaded := by
    rintro uri - _ ⟨⟩
    exact not_unresolvable_referring _ _ _
  admissible c x hvisited := by
    obtain ⟨n, rfl, rfl⟩ := exists_stage_of_visited hr hall hvisited
    exact admissible_referring (follows_stage hr hall n)
  acyclic c x hvisited hcycle := by
    obtain ⟨n, rfl, rfl⟩ := exists_stage_of_visited hr hall hvisited
    obtain ⟨m, hm, hsame⟩ := exists_stage_of_transGen hr hall hcycle
    have huri : further n = further m := congrArg (fun p => p.1.place.document) hsame
    exact absurd (further_injective huri) (Nat.ne_of_lt hm)

end Stages

theorem forall_documents_further (n : Nat) : ∀ d ∈ (furtherOptions.buildWith endless (fun _ => n) {}
    (onward (further 0))).2.documents, Onward d := by
  have hschema : (onward (further 0)).WellFormed := wellFormed_referring _
  have huri : documentUri furtherOptions.base (onward (further 0)) = .ok (further 0) := rfl
  obtain ⟨h, hfurther⟩ := exists_enters rfl hschema huri (not_unresolvable_referring _ _ _)
  have honward : Onward ⟨h.uri, furtherOptions.base, onward (further 0)⟩ := by
    rw [hfurther]
    exact ⟨rfl, rfl⟩
  rw [h.snd_buildWith]
  exact h.forall_run rfl honward onward_of_found n

end Endless

section Circular

/-- A schema that refers to itself. -/
def circular : Value := referring "#"

theorem follows_circular : (nearOptions.build circular).2.Follows {} nearUri "#"
    ⟨nearUri, .root, nearUri, circular⟩ := by
  unfold Registry.Follows
  rfl

theorem eq_of_visited_circular {c : Context} {x : Value}
    (h : Visited {} (nearOptions.build circular).2 ⟨⟨nearUri, .root⟩, nearUri⟩ circular c x) :
    c = ⟨⟨nearUri, .root⟩, nearUri⟩ ∧ x = circular := by
  refine h.of_referring (P := fun c x => c = ⟨⟨nearUri, .root⟩, nearUri⟩ ∧ x = circular)
    ⟨rfl, rfl⟩ ?_
  rintro _ _ ⟨rfl, rfl⟩
  exact ⟨_, _, rfl, follows_circular, rfl, rfl⟩

end Circular

set_option maxRecDepth 10000 in
/-- Nothing is wrong with a schema from which references lead on for ever, however far its build
has come, and still the build does not return. And nothing is wrong with a schema that refers to
itself, but that it applies itself in place. -/
theorem not_build_endless_circular :
    (furtherOptions.documents = [] ∧ (onward (further 0)).WellFormed ∧ endless.WellFormed ∧
      documentUri furtherOptions.base (onward (further 0)) = .ok (further 0) ∧
      (∀ n, Acceptable furtherOptions endless (onward (further 0)) (further 0)
        (furtherOptions.buildWith endless (fun _ => n) {} (onward (further 0))).2) ∧
      ¬∃ result, furtherOptions.Returns endless {} (onward (further 0)) result) ∧
    nearOptions.documents = [] ∧ circular.WellFormed ∧
      documentUri nearOptions.base circular = .ok nearUri ∧
      ¬Declarations.Unresolvable nearOptions.base ⟨nearUri, .root⟩ circular ∧
      (nearOptions.build circular).2.asked = [] ∧
      (∀ c x, Visited {} (nearOptions.build circular).2 ⟨⟨nearUri, .root⟩, nearOptions.base⟩
        circular c x → Admissible (nearOptions.settings {}) (nearOptions.build circular).2 c x) ∧
      ∀ v, (nearOptions.build circular).1 ≠ .ok v := by
  constructor
  · have hschema : (onward (further 0)).WellFormed := wellFormed_referring _
    have hretriever : endless.WellFormed := by
      rintro uri _ ⟨⟩
      exact wellFormed_referring _
    have huri : documentUri furtherOptions.base (onward (further 0)) = .ok (further 0) := rfl
    have hindexed (n : Nat) := (furtherOptions.evolves_buildWith (r := {}) endless (fun _ => n)
      (onward (further 0))).wellIndexed Registry.wellIndexed_empty
    have hall := forall_documents_further
    have hacceptable (n : Nat) := acceptable_stage (hindexed n) (hall n)
    have hinjective : Function.Injective fun k => (stage (k + 1)).place := fun k m hsame =>
      Nat.succ_injective (further_injective (congrArg Place.document hsame))
    refine ⟨rfl, hschema, hretriever, huri, hacceptable, ?_⟩
    refine not_returns_of_injective rfl hschema hretriever huri hinjective hacceptable fun n k => ?_
    exact ⟨stage (k + 1), rfl, _, _, _, _, visited_stage (hindexed n) (hall n) k, rfl,
      List.mem_cons_self, follows_stage (hindexed n) (hall n) k⟩
  · have hfailed : (nearOptions.build circular).1.isOk = false := by decide +kernel
    refine ⟨rfl, wellFormed_referring _, rfl, not_unresolvable_referring _ _ _, by rfl, ?_, ?_⟩
    · intro c x hvisited
      obtain ⟨rfl, rfl⟩ := eq_of_visited_circular hvisited
      exact admissible_referring follows_circular
    · intro v hv
      rw [hv] at hfailed
      cases hfailed

end Options
end JsonSchema
