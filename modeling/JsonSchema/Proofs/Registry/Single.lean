import JsonSchema.Proofs.Registry.OwnReference
import JsonSchema.Proofs.Registry.Soundness

/-!
# A registry of one document

As long as a registry has one document only, a reference leads to a position in it exactly if the
position declares what the reference asks for, and other documents that a retriever adds do not
change that: the document came first.
-/

namespace JsonSchema

namespace Declarations

variable {base b inner : Url} {place p : Place} {v w : Value} {own declared : Declarations}

/-- The base inside an object is the base before it or the URL of a resource. -/
theorem base_of_ofObject {members : List (String × Value)}
    (h : ofObject base place members = .ok (inner, own)) :
    inner = base ∨ inner ∈ own.resources.map Prod.fst := by
  rcases (selfDeclared_of_ofObject h).id with ⟨_, _, -, -, hinner, hresources⟩ | ⟨-, hinner, -⟩
  · split at hinner
    · exact .inl hinner
    · rename_i hfragment
      rw [if_neg hfragment] at hresources
      exact .inr (by simp [hresources])
  · exact .inl hinner

/-- Wherever the walk comes, the base is that of its start or the URL of a resource. -/
theorem Scanned.base_mem (hscanned : Scanned base place v b p w)
    (h : ofValue base place v = .ok declared) :
    b = base ∨ b ∈ declared.resources.map Prod.fst := by
  induction hscanned generalizing declared with
  | here => exact .inl rfl
  | member hinner hmem hdata _ ih =>
      obtain ⟨inner', own, below, hobject, hbelow, rfl⟩ := exists_of_ofValue_object h
      rw [hinner] at hobject
      cases hobject
      obtain ⟨child, hchild, hsub⟩ := exists_declared_of_mem hbelow hmem hdata
      rw [resources_append, List.map_append, List.mem_append]
      rcases ih hchild with rfl | hb
      · exact (base_of_ofObject hinner).imp_right .inl
      · exact .inr (.inr (List.map_subset Prod.fst hsub.resources hb))
  | item hi _ ih =>
      obtain ⟨child, hchild, hsub⟩ := exists_declared_of_getElem? h hi
      refine (ih (by simpa using hchild)).imp_right fun hb => ?_
      exact List.map_subset Prod.fst hsub.resources hb

end Declarations

namespace Document

variable {d : Document} {uri : Url} {name : String} {p : Pointer}

/-- A name is declared in a resource that is declared as well. -/
theorem WellRead.mem_resources_of_names (h : d.WellRead) (hbase : d.base = d.uri)
    (hp : p.Visited) (hname : d.Names uri name p) : uri ∈ d.resources.map Prod.fst := by
  obtain ⟨members, base, hat, hbase', hinside, -⟩ := hname
  obtain ⟨b, hscanned, hb⟩ := h.exists_scanned hp hat
  obtain rfl : base = b := Except.ok.inj (hbase'.symm.trans hb)
  obtain ⟨-, -, -, hbare⟩ := hscanned.baseAt h.bareBase h.contents
  obtain ⟨inner, own, hown, hsub⟩ := hscanned.exists_own h.declared
  obtain rfl : uri = inner :=
    Except.ok.inj (hinside.symm.trans (Declarations.baseInside_of_ofObject hbare hown))
  rw [resources, List.map_cons, List.mem_cons]
  rcases Declarations.base_of_ofObject hown with rfl | huri
  · rw [← hbase]
    exact hscanned.base_mem h.declared
  · exact .inr (List.map_subset Prod.fst hsub.resources huri)

end Document

namespace Registry

variable {r R : Registry} {retriever : Retriever} {d : Document} {base url uri : Url}
variable {name reference : String} {p : Pointer}

/-- Where a reference leads to. -/
def placeOf (retriever : Retriever) (r : Registry) (base : Url) (reference : String) :
    Except ResolutionError Place :=
  (r.resolve retriever base reference).1.map Target.place

/-- A reference leads to a place if that is where its fragment is and something is there. -/
theorem placeOf_of_locate {resource place : Place} (hjoin : base.join reference = .ok url)
    (hresource : r.resources.lookup url.withoutFragment = some resource)
    (hlocate : r.locate base reference url.withoutFragment (url.fragment.getD "") resource =
      .ok place)
    (hplace : ∃ t, r.IsTarget t ∧ t.place = place) :
    r.placeOf retriever base reference = .ok place := by
  obtain ⟨t, ht, rfl⟩ := hplace
  simp [placeOf, resolve, hjoin, resource_of_lookup hresource, hlocate, target_of_isTarget ht,
    Except.map]

/-- Wherever a reference leads to, the indexes of the registry left behind say where its fragment
is, and something is there. -/
theorem exists_locate_of_placeOf (hr : WellIndexed r) {place : Place}
    (hjoin : base.join reference = .ok url) (h : r.placeOf retriever base reference = .ok place) :
    ∃ R resource, Grows r R ∧ WellIndexed R ∧
      R.resources.lookup url.withoutFragment = some resource ∧
      R.locate base reference url.withoutFragment (url.fragment.getD "") resource = .ok place ∧
      ∃ t, R.IsTarget t ∧ t.place = place := by
  obtain ⟨t, ht, rfl⟩ := map_eq_ok.mp h
  have hevolves := evolves_resolve (r := r) retriever base reference
  obtain ⟨htarget, hleads⟩ := leads_of_resolve hr (Prod.ext ht rfl)
  obtain ⟨resource, hresource, hlocate⟩ := exists_place_of_leads
    (hevolves.wellIndexed hr) hjoin (hleads _ (.refl _))
  exact ⟨_, resource, hevolves.grows, hevolves.wellIndexed hr, hresource, hlocate, t, htarget, rfl⟩

/-- A registry keeps one document and nothing else. -/
structure Single (r : Registry) (d : Document) : Prop where
  documents : r.documents = [d]
  indexed : WellIndexed r
  sound : Sound r
  wellRead : d.WellRead

theorem single_of_insert {contents : Value} (h : Registry.insert {} uri contents = (.ok d, r))
    (hwf : contents.WellFormed) :
    r.Single d ∧ d = ⟨uri.withoutFragment, uri.withoutFragment, contents⟩ := by
  have hadd : Registry.add {} ⟨uri.withoutFragment, uri.withoutFragment, contents⟩ = (.ok d, r) :=
    h
  obtain ⟨rfl, hdocuments⟩ := add_ok hadd
  have hevolves := evolves_insertAt (r := {}) uri uri contents
  rw [show insertAt {} uri uri contents = _ from h] at hevolves
  have hindexed := hevolves.wellIndexed wellIndexed_empty
  have hsound : Sound r := hevolves.sound (by simpa [WellFormed, hdocuments] using hwf)
  refine ⟨⟨hdocuments, hindexed, hsound, ?_, hwf, ?_⟩, rfl⟩
  · exact uri.withoutFragment_withoutFragment
  · exact hevolves.declared _ (by simp [hdocuments])

theorem reachable_of_insert {contents : Value}
    (h : Registry.insert {} uri contents = (.ok d, r)) : r.Reachable := by
  have hinsert := Reachable.insert uri contents .empty
  rwa [h] at hinsert

/-- A document is kept unless its declarations cannot be read. -/
theorem exists_of_insert (uri : Url) (contents : Value)
    (h : (Registry.insert {} uri contents).1.isOk) :
    ∃ d r, Registry.insert {} uri contents = (.ok d, r) := by
  cases hinsert : Registry.insert {} uri contents with
  | mk result r =>
      rw [hinsert] at h
      cases result with
      | error e => cases h
      | ok d => exact ⟨d, r, rfl⟩

/-- What is declared at one position only is looked up there. -/
theorem lookup_eq_iff_of_unique {κ : Type} [BEq κ] [LawfulBEq κ] {entries : List (κ × Place)}
    {key : κ} {declares : Pointer → Prop} (hdocument : ∀ e ∈ entries, e.2.document = uri)
    (hiff : ∀ q, (key, ⟨uri, q⟩) ∈ entries ↔ declares q) (honly : ∀ q, q ≠ p → ¬declares q) :
    entries.lookup key = some ⟨uri, p⟩ ↔ declares p := by
  rw [← hiff]
  refine ⟨mem_of_lookup, fun hmem => lookup_of_unique hmem fun place hplace => ?_⟩
  obtain ⟨document, q⟩ := place
  obtain rfl : document = uri := hdocument _ hplace
  have hsame : q = p := by_contra fun hne => honly q hne ((hiff q).mp hplace)
  rw [hsame]

namespace Single

theorem mem_documents (h : r.Single d) : d ∈ r.documents := by
  simp [h.documents]

theorem lookup_resources (h : r.Single d) (uri : Url) :
    r.resources.lookup uri = d.resources.lookup uri := by
  simp [h.indexed.lookup_resources, h.documents]

/-- The document has its URL for itself, whatever it declares. -/
theorem lookup_uri (h : r.Single d) : r.resources.lookup d.uri = some ⟨d.uri, .root⟩ := by
  rw [h.lookup_resources, Document.resources, List.lookup_cons_self]

theorem wellFormed (h : r.Single d) : r.WellFormed := by
  rw [WellFormed, h.documents]
  exact List.forall_mem_singleton.mpr h.wellRead.contents

theorem lookup_anchors (h : r.Single d) (key : Url × String) :
    r.anchors.lookup key = d.declared.anchors.lookup key := by
  simp [h.indexed.lookup_anchors, h.documents]

/-- In a registry that grew from it, a key stands for a place in the document only if the document
declares it, and then for the same place as before. -/
theorem lookup_of_document (h : r.Single d) (hg : Grows r R) (hR : WellIndexed R) {κ : Type}
    [BEq κ] [LawfulBEq κ] {f : Document → List (κ × Place)}
    (hf : ∀ d, ∀ e ∈ f d, e.2.document = d.uri) {key : κ} {place : Place}
    (hlookup : (R.documents.flatMap f).lookup key = some place) (hplace : place.document = d.uri) :
    (f d).lookup key = some place := by
  obtain ⟨rest, hrest⟩ := hg.documents
  have hdocuments : R.documents = [] ++ d :: rest := by
    rw [← hrest, h.documents]
    rfl
  have hdistinct := hR.distinct
  rw [hdocuments] at hdistinct hlookup
  obtain ⟨hmem, -⟩ := (document_eq_iff hf hdistinct hlookup).mp hplace
  obtain ⟨place', hplace'⟩ := exists_lookup hmem
  rw [List.nil_append, List.flatMap_cons, List.lookup_append, hplace', Option.some_or] at hlookup
  rw [hplace', hlookup]

theorem placeOf_eq_iff_resource (h : r.Single d) (hjoin : base.join reference = .ok url)
    (hfragment : url.fragment = none) :
    r.placeOf retriever base reference = .ok ⟨d.uri, p⟩ ↔
      d.resources.lookup url.withoutFragment = some ⟨d.uri, p⟩ := by
  have hlocate (R : Registry) (resource : Place) :
      R.locate base reference url.withoutFragment (url.fragment.getD "") resource =
        .ok resource := by
    rw [hfragment]
    rfl
  constructor
  · intro hplace
    obtain ⟨R, resource, hg, hR, hresource, hlocated, -⟩ :=
      exists_locate_of_placeOf h.indexed hjoin hplace
    obtain rfl : resource = ⟨d.uri, p⟩ := Except.ok.inj ((hlocate R resource).symm.trans hlocated)
    rw [hR.lookup_resources] at hresource
    exact h.lookup_of_document hg hR (fun _ _ => Document.document_of_mem_resources) hresource rfl
  · intro hlookup
    rw [← h.lookup_resources] at hlookup
    have htarget := (h.sound.resources _ (mem_of_lookup hlookup)).exists_target h.indexed
    exact placeOf_of_locate hjoin hlookup (hlocate r _) htarget

theorem placeOf_eq_iff_anchor (h : r.Single d) (hbase : d.base = d.uri)
    (hjoin : base.join reference = .ok url) (hfragment : url.fragment = some name)
    (hname : isPointerFragment name = false) :
    r.placeOf retriever base reference = .ok ⟨d.uri, p⟩ ↔
      d.declared.anchors.lookup (url.withoutFragment, name) = some ⟨d.uri, p⟩ := by
  constructor
  · intro hplace
    obtain ⟨R, resource, hg, hR, -, hlocated, -⟩ :=
      exists_locate_of_placeOf h.indexed hjoin hplace
    have hlookup := (place_of_locate hlocated).2 (by rwa [hfragment])
    rw [hR.lookup_anchors, hfragment] at hlookup
    exact h.lookup_of_document hg hR (fun d => d.within_declared.anchors) hlookup rfl
  · intro hlookup
    have hmem := mem_of_lookup hlookup
    obtain ⟨hp, hnames⟩ := h.wellRead.mem_anchors_iff.mp hmem
    obtain ⟨resource, hresource⟩ :=
      exists_lookup (h.wellRead.mem_resources_of_names hbase hp hnames)
    rw [← h.lookup_resources] at hresource
    rw [← h.lookup_anchors] at hlookup
    have htarget := (h.sound.anchors _ (mem_of_lookup hlookup)).exists_target h.indexed
    refine placeOf_of_locate hjoin hresource ?_ htarget
    rw [hfragment]
    exact locate_of_name hname hlookup

/-- A URL that one visited position has leads to that position, and to no other. -/
theorem placeOf_eq_iff_identifies (h : r.Single d) (hjoin : base.join reference = .ok url)
    (hfragment : url.fragment = none)
    (honly : ∀ q, q ≠ p → q.Visited → ¬d.Identifies url.withoutFragment q) :
    r.placeOf retriever base reference = .ok ⟨d.uri, p⟩ ↔
      p.Visited ∧ d.Identifies url.withoutFragment p := by
  rw [h.placeOf_eq_iff_resource hjoin hfragment]
  exact lookup_eq_iff_of_unique (fun _ => Document.document_of_mem_resources)
    (fun _ => h.wellRead.mem_resources_iff) fun q hne hq => honly q hne hq.1 hq.2

/-- So does a name in a resource. -/
theorem placeOf_eq_iff_names (h : r.Single d) (hbase : d.base = d.uri)
    (hjoin : base.join reference = .ok url) (hfragment : url.fragment = some name)
    (hname : isPointerFragment name = false)
    (honly : ∀ q, q ≠ p → q.Visited → ¬d.Names url.withoutFragment name q) :
    r.placeOf retriever base reference = .ok ⟨d.uri, p⟩ ↔
      p.Visited ∧ d.Names url.withoutFragment name p := by
  rw [h.placeOf_eq_iff_anchor hbase hjoin hfragment hname]
  exact lookup_eq_iff_of_unique d.within_declared.anchors
    (fun _ => h.wellRead.mem_anchors_iff) fun q hne hq => honly q hne hq.1 hq.2

end Single
end Registry
end JsonSchema
