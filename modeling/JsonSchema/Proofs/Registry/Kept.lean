import JsonSchema.Proofs.Registry.OwnReference

/-!
# Documents that are kept

A registry gets its documents from what is put into it and from a retriever. What is so of all of
these is so of all documents that it will ever keep, and references lead into one of them.
-/

namespace JsonSchema

namespace Registry

variable {r r' : Registry} {retriever : Retriever}

theorem snd_target (r : Registry) (retriever : Retriever) (place : Place) :
    (r.target retriever place).2 = (r.load retriever place.document).2 := by
  unfold target
  split
  · rename_i h
    rw [h]
  · rename_i h
    rw [h]
    split <;> rfl

/-! ## What is so of all documents -/

variable {P : Document → Prop}

theorem forall_add {d : Document} (h : ∀ e ∈ r.documents, P e) (hd : P d) :
    ∀ e ∈ (r.add d).2.documents, P e := by
  unfold add
  split
  · intro e he
    rcases List.mem_append.mp he with he | he
    · exact h e he
    · exact List.mem_singleton.mp he ▸ hd
  · exact h

theorem forall_insertAt (uri base : Url) (contents : Value) (h : ∀ e ∈ r.documents, P e)
    (hd : P ⟨uri.withoutFragment, base.withoutFragment, contents⟩) :
    ∀ e ∈ (r.insertAt uri base contents).2.documents, P e := by
  unfold insertAt
  split
  · exact h
  · exact forall_add h hd

theorem forall_load (uri : Url) (h : ∀ e ∈ r.documents, P e)
    (hfound : ∀ uri contents, retriever.find? uri = some contents → P ⟨uri, uri, contents⟩) :
    ∀ e ∈ (r.load retriever uri).2.documents, P e := by
  unfold load
  dsimp only
  split
  · exact h
  · split
    · rename_i contents hfind
      exact forall_add h (hfound _ _ hfind)
    · exact h

theorem forall_resource (uri : Url) (h : ∀ e ∈ r.documents, P e)
    (hfound : ∀ uri contents, retriever.find? uri = some contents → P ⟨uri, uri, contents⟩) :
    ∀ e ∈ (r.resource retriever uri).2.documents, P e := by
  have hload := forall_load uri h hfound
  unfold resource
  split
  · exact h
  · split <;> simp_all

/-- Following a reference keeps nothing but documents of the retriever. -/
theorem forall_resolve (base : Url) (reference : String) (h : ∀ e ∈ r.documents, P e)
    (hfound : ∀ uri contents, retriever.find? uri = some contents → P ⟨uri, uri, contents⟩) :
    ∀ e ∈ (r.resolve retriever base reference).2.documents, P e := by
  unfold resolve
  split
  · exact h
  · rename_i url _
    have hresource := forall_resource url.withoutFragment h hfound
    dsimp only
    split
    · simp_all
    · rename_i hmid
      rw [hmid] at hresource
      split
      · exact hresource
      · rw [snd_target]
        exact forall_load _ hresource hfound

/-! ## Targets -/

/-- The place of a resource is in a document that is kept. -/
theorem WellIndexed.exists_document_of_resource (hr : WellIndexed r) {uri : Url} {place : Place}
    (h : r.resources.lookup uri = some place) : ∃ d ∈ r.documents, d.uri = place.document := by
  rw [hr.lookup_resources] at h
  obtain ⟨d, hd, hmem⟩ := List.mem_flatMap.mp (mem_of_lookup h)
  exact ⟨d, hd, (Document.document_of_mem_resources hmem).symm⟩

theorem WellIndexed.exists_document_of_anchor (hr : WellIndexed r) {key : Url × String}
    {place : Place} (h : r.anchors.lookup key = some place) :
    ∃ d ∈ r.documents, d.uri = place.document := by
  rw [hr.lookup_anchors] at h
  obtain ⟨d, hd, hmem⟩ := List.mem_flatMap.mp (mem_of_lookup h)
  exact ⟨d, hd, (d.within_declared.anchors _ hmem).symm⟩

/-- A value stands at a place of a document that is kept. -/
def Stands (r : Registry) (place : Place) (v : Value) : Prop :=
  ∃ d ∈ r.documents, d.uri = place.document ∧ d.contents.at? place.pointer = some v

theorem Stands.grows {place : Place} {v : Value} (h : r.Stands place v) (hg : Grows r r') :
    r'.Stands place v := by
  obtain ⟨d, hd, hrest⟩ := h
  exact ⟨d, hg.documents.subset hd, hrest⟩

/-- A reference leads to what stands at a place of a document that is kept under its own URL. -/
theorem stands_of_leads (hr : WellIndexed r) {base : Url} {reference : String} {t : Target}
    (h : r.Leads base reference t) : r.Stands t.place t.contents := by
  have hresolve := h {}
  cases hjoin : base.join reference with
  | error e => simp [resolve, hjoin] at hresolve
  | ok url =>
      obtain ⟨resource, hresource, hlocate⟩ := exists_place_of_leads hr hjoin h
      obtain ⟨hpointed, hnamed⟩ := place_of_locate hlocate
      have howner : ∃ e ∈ r.documents, e.uri = t.place.document := by
        cases hfragment : isPointerFragment (url.fragment.getD "") with
        | true => exact hpointed hfragment ▸ hr.exists_document_of_resource hresource
        | false => exact hr.exists_document_of_anchor (hnamed hfragment)
      obtain ⟨e, he, huri⟩ := howner
      obtain ⟨⟨d, hd, hat, -⟩, -⟩ := leads_of_resolve hr hresolve
      have hbare : t.document.withoutFragment = t.document := by
        rw [show t.document = e.uri from huri.symm]
        exact hr.bare e he
      have hfound : r.find? t.document = some d := by rwa [get?, hbare] at hd
      have hown : d.uri = t.document := by simpa using List.find?_some hfound
      exact ⟨d, List.mem_of_find?_eq_some hfound, hown, hat⟩

end Registry
end JsonSchema
