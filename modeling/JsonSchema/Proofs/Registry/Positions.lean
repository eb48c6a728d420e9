import JsonSchema.Proofs.Registry.Declared

/-!
# The positions that declare

What a document declares, position by position: the whole of it its own URL, and every object that
the walk for declarations comes to its `$id` and its `$anchor`. The walk comes to all positions but
those below the key of a data keyword.
-/

namespace JsonSchema

open Declarations

/-- The walk for declarations comes to a position: no step to it is under the key of a data
keyword. -/
def Pointer.Visited (p : Pointer) : Prop := ∀ token ∈ p.tokens, isDataKeyword token = false

instance : DecidablePred Pointer.Visited := fun p =>
  inferInstanceAs (Decidable (∀ token ∈ p.tokens, isDataKeyword token = false))

theorem Pointer.visited_cons {token : String} {path : List String} :
    Visited ⟨token :: path⟩ ↔ isDataKeyword token = false ∧ Visited ⟨path⟩ :=
  List.forall_mem_cons

namespace Document

variable {d : Document} {p : Pointer} {uri : Url} {name : String}

/-- A URL is that of a position: the root has the one of the document, and an object the one that
its `$id` stands for at the base there. -/
def Identifies (d : Document) (uri : Url) (p : Pointer) : Prop :=
  p = .root ∧ uri = d.uri ∨
    ∃ members base id url, d.contents.at? p = some (.object members) ∧ d.baseAt p = .ok base ∧
      members.lookup "$id" = some (.string id) ∧ isFragmentOnly id = false ∧
      base.join id = .ok url ∧ url.withoutFragment = uri

/-- A name is that of a position in the resource under a URL: an `$anchor`, or the fragment of an
`$id`, of an object inside which the URL is the base. -/
def Names (d : Document) (uri : Url) (name : String) (p : Pointer) : Prop :=
  ∃ members base, d.contents.at? p = some (.object members) ∧ d.baseAt p = .ok base ∧
    baseInside base (.object members) = .ok uri ∧
    (members.lookup "$anchor" = some (.string name) ∨ isPointerFragment name = false ∧
      ∃ id url, members.lookup "$id" = some (.string id) ∧ base.join id = .ok url ∧
        url.fragment = some name)

/-- A document as registries keep it: its base has no fragment, no object in it has a key twice, and
its declarations could be read. -/
structure WellRead (d : Document) : Prop where
  bareBase : d.base.withoutFragment = d.base
  contents : d.contents.WellFormed
  declared : ofValue d.base ⟨d.uri, .root⟩ d.contents = .ok d.declared

/-- The walk comes to every visited position, with the base that is found there. -/
theorem WellRead.exists_scanned (h : d.WellRead) (hp : p.Visited) {w : Value}
    (hat : d.contents.at? p = some w) :
    ∃ b, Scanned d.base ⟨d.uri, .root⟩ d.contents b ⟨d.uri, p⟩ w ∧ d.baseAt p = .ok b := by
  obtain ⟨b, hscanned⟩ := exists_scanned_of_follow? h.declared hat hp
  have hplace : (Pointer.root ++ ⟨p.tokens⟩ : Pointer) = p := Pointer.root_append p
  rw [hplace] at hscanned
  obtain ⟨-, -, hbase, -⟩ := hscanned.baseAt h.bareBase h.contents
  exact ⟨b, hscanned, hbase⟩

/-! ## Nothing else is declared -/

/-- Declarations of a document are about visited positions of it, and say what is so. -/
structure Placed (d : Document) (declared : Declarations) : Prop where
  resources : ∀ e ∈ declared.resources,
    e.2.document = d.uri ∧ e.2.pointer.Visited ∧ d.Identifies e.1 e.2.pointer
  anchors : ∀ e ∈ declared.anchors,
    e.2.document = d.uri ∧ e.2.pointer.Visited ∧ d.Names e.1.1 e.1.2 e.2.pointer

theorem placed_empty (d : Document) : d.Placed {} := by
  constructor <;> simp

theorem Placed.append {a b : Declarations} (ha : d.Placed a) (hb : d.Placed b) :
    d.Placed (a ++ b) :=
  ⟨fun e he => (List.mem_append.mp he).elim (ha.resources e) (hb.resources e),
    fun e he => (List.mem_append.mp he).elim (ha.anchors e) (hb.anchors e)⟩

theorem visited_of_scanned {b : Url} {place : Place} {w : Value}
    (h : Scanned d.base ⟨d.uri, .root⟩ d.contents b place w) : place.pointer.Visited := by
  obtain ⟨path, rfl, hpath⟩ := h.exists_path
  have hplace : (Pointer.root ++ ⟨path⟩ : Pointer) = ⟨path⟩ := Pointer.root_append _
  rw [hplace]
  exact hpath

/-- What an object on the walk declares of itself is so. -/
theorem WellRead.placed_of_scanned (h : d.WellRead) {b inner : Url} {place : Place}
    {members : List (String × Value)} {own : Declarations}
    (hscanned : Scanned d.base ⟨d.uri, .root⟩ d.contents b place (.object members))
    (hown : ofObject b place members = .ok (inner, own)) : d.Placed own := by
  obtain ⟨hdocument, hat, hbase, hbare⟩ := hscanned.baseAt h.bareBase h.contents
  have hvisited := visited_of_scanned hscanned
  have hself := selfDeclared_of_ofObject hown
  have hinside := baseInside_of_ofObject hbare hown
  constructor
  · intro e he
    rcases hself.id with ⟨id, url, hid, hurl, hinner, hresources⟩ | ⟨-, -, hresources⟩
    · rw [hresources] at he
      split at he
      · simp at he
      · rename_i hfragment
        have hfragment : isFragmentOnly id = false := by simpa using hfragment
        obtain rfl := List.mem_singleton.mp he
        refine ⟨hdocument, hvisited, .inr ⟨members, b, id, url, hat, hbase, hid, hfragment,
          joinId_eq_ok.mp hurl, ?_⟩⟩
        simp [hinner, hfragment]
    · simp [hresources] at he
  · intro e he
    obtain ⟨name, rfl, hname⟩ := (hself.anchors e).mp he
    refine ⟨hdocument, hvisited, members, b, hat, hbase, hinside, hname.imp_right ?_⟩
    rintro ⟨hpointer, id, url, hid, hurl, hfragment⟩
    exact ⟨hpointer, id, url, hid, joinId_eq_ok.mp hurl, hfragment⟩

theorem WellRead.placed (h : d.WellRead) : d.Placed d.declared :=
  of_scanned d.placed_empty (fun _ _ => Placed.append) _ _ _ _ h.declared
    fun _ _ _ _ _ => h.placed_of_scanned

/-! ## Everything is declared -/

theorem WellRead.mem_resources_iff (h : d.WellRead) :
    (uri, ⟨d.uri, p⟩) ∈ d.resources ↔ p.Visited ∧ d.Identifies uri p := by
  constructor
  · intro hmem
    rcases List.mem_cons.mp hmem with heq | hmem
    · cases heq
      exact ⟨by simp [Pointer.Visited], .inl ⟨rfl, rfl⟩⟩
    · exact (h.placed.resources _ hmem).2
  · rintro ⟨hp, ⟨rfl, rfl⟩ | ⟨members, base, id, url, hat, hbase, hid, hfragment, hurl, rfl⟩⟩
    · exact List.mem_cons_self
    · obtain ⟨b, hscanned, hbase'⟩ := h.exists_scanned hp hat
      obtain rfl : base = b := Except.ok.inj (hbase.symm.trans hbase')
      obtain ⟨inner, own, hown, hsub⟩ := hscanned.exists_own h.declared
      apply List.mem_cons_of_mem
      apply hsub.resources
      rcases (selfDeclared_of_ofObject hown).id with ⟨id', url', hid', hurl', hinner, hresources⟩ |
        ⟨hnone, -⟩
      · obtain rfl : id = id' := by simpa using hid.symm.trans hid'
        obtain rfl : url = url' := Except.ok.inj (hurl.symm.trans (joinId_eq_ok.mp hurl'))
        rw [hresources, hinner, hfragment]
        exact List.mem_singleton.mpr rfl
      · exact absurd hid (hnone id)

theorem WellRead.mem_anchors_iff (h : d.WellRead) :
    ((uri, name), ⟨d.uri, p⟩) ∈ d.declared.anchors ↔ p.Visited ∧ d.Names uri name p := by
  constructor
  · intro hmem
    exact (h.placed.anchors _ hmem).2
  · rintro ⟨hp, members, base, hat, hbase, hinside, hname⟩
    obtain ⟨b, hscanned, hbase'⟩ := h.exists_scanned hp hat
    obtain rfl : base = b := Except.ok.inj (hbase.symm.trans hbase')
    obtain ⟨-, -, -, hbare⟩ := hscanned.baseAt h.bareBase h.contents
    obtain ⟨inner, own, hown, hsub⟩ := hscanned.exists_own h.declared
    obtain rfl : uri = inner :=
      Except.ok.inj (hinside.symm.trans (baseInside_of_ofObject hbare hown))
    apply hsub.anchors
    refine ((selfDeclared_of_ofObject hown).anchors _).mpr ⟨name, rfl, hname.imp_right ?_⟩
    rintro ⟨hpointer, id, url, hid, hurl, hfragment⟩
    exact ⟨hpointer, id, url, hid, joinId_eq_ok.mpr hurl, hfragment⟩

end Document

/-! ## Documents of a registry -/

theorem Registry.Step.declared {r r' : Registry} (h : Registry.Step r r')
    (hr : ∀ d ∈ r.documents, ofValue d.base ⟨d.uri, .root⟩ d.contents = .ok d.declared) :
    ∀ d ∈ r'.documents, ofValue d.base ⟨d.uri, .root⟩ d.contents = .ok d.declared := by
  cases h with
  | ask => exact hr
  | @keep d declared fresh bare bareBase h =>
      intro e he
      rcases List.mem_append.mp he with he | he
      · exact hr e he
      · obtain rfl := List.mem_singleton.mp he
        simp [Document.declared, h]

/-- The declarations of every document that is kept were read. -/
theorem Registry.Evolves.declared {r : Registry} (h : Registry.Evolves {} r) :
    ∀ d ∈ r.documents, ofValue d.base ⟨d.uri, .root⟩ d.contents = .ok d.declared := by
  induction h with
  | refl => simp
  | tail _ hstep ih => exact hstep.declared ih

end JsonSchema
