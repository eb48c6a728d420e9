import JsonSchema.Proofs.Registry.History

/-!
# What was asked for

As long as references are followed with success, every document that a retriever was asked for was
there and fit to be kept. A reference that leads nowhere leads nowhere a second time, whatever was
learned on the first attempt.
-/

namespace JsonSchema.Registry

variable {r r' : Registry} {retriever : Retriever} {uri base : Url} {reference : String}
variable {place : Place}

/-- A reference leads to a target, if documents that are not kept are had from a retriever. -/
def Follows (r : Registry) (retriever : Retriever) (base : Url) (reference : String) (t : Target) :
    Prop :=
  (r.resolve retriever base reference).1 = .ok t

theorem Leads.follows {t : Target} (h : r.Leads base reference t) :
    r.Follows retriever base reference t := by
  rw [Follows, h retriever]

theorem Follows.unique {t t' : Target} (h : r.Follows retriever base reference t)
    (h' : r.Follows retriever base reference t') : t = t' :=
  Except.ok.inj (h.symm.trans h')

/-! ## Documents that were read -/

/-- Every document that the retriever was asked for is there, and all its `$id` join. -/
def Read (r : Registry) (retriever : Retriever) : Prop :=
  ∀ uri ∈ r.asked, ∃ contents, retriever.find? uri = some contents ∧ ¬Refuses uri contents

theorem asked_of_add {d d' : Document} (h : r.add d = (.ok d', r')) : r'.asked = r.asked := by
  unfold add at h
  split at h
  · cases h
    rfl
  · simp at h

/-- All `$id` of a document that is kept join. -/
theorem not_unresolvable_of_add {d d' : Document} (h : r.add d = (.ok d', r')) :
    ¬Declarations.Unresolvable d.base ⟨d.uri, .root⟩ d.contents := by
  intro hunresolvable
  obtain ⟨e, he⟩ := Declarations.exists_error_iff.mpr hunresolvable
  simp [add, he] at h

theorem Read.load (h : r.Read retriever) {d : Document}
    (hload : r.load retriever uri = (.ok d, r')) : r'.Read retriever := by
  cases hget : r.get? uri with
  | some found =>
      rw [load_of_get? hget] at hload
      cases hload
      exact h
  | none =>
      cases hretriever : retriever.find? uri.withoutFragment with
      | none => simp [load_of_missing hget hretriever] at hload
      | some contents =>
          rw [load_of_found hget hretriever] at hload
          rw [Read, asked_of_add hload, List.forall_mem_cons]
          refine ⟨⟨contents, hretriever, ?_⟩, h⟩
          rw [Refuses, uri.withoutFragment_withoutFragment]
          exact not_unresolvable_of_add hload

theorem Read.resource (h : r.Read retriever)
    (hresource : r.resource retriever uri = (.ok place, r')) : r'.Read retriever := by
  unfold Registry.resource at hresource
  split at hresource
  · cases hresource
    exact h
  · split at hresource
    · simp at hresource
    · rename_i hload
      cases hresource
      exact h.load hload

theorem Read.target (h : r.Read retriever) {t : Target}
    (htarget : r.target retriever place = (.ok t, r')) : r'.Read retriever := by
  unfold Registry.target at htarget
  split at htarget
  · simp at htarget
  · rename_i hload
    split at htarget
    · simp at htarget
    · rw [Prod.mk.injEq] at htarget
      exact htarget.2 ▸ h.load hload

/-- A reference that is followed leaves only documents that were read. -/
theorem Read.resolve (h : r.Read retriever) {t : Target}
    (hresolve : r.resolve retriever base reference = (.ok t, r')) : r'.Read retriever := by
  unfold Registry.resolve at hresolve
  split at hresolve
  · simp at hresolve
  · dsimp only at hresolve
    split at hresolve
    · simp at hresolve
    · rename_i hresource
      split at hresolve
      · simp at hresolve
      · exact (h.resource hresource).target hresolve

/-! ## Second attempts -/

theorem load_again {e : ResolutionError} (h : r.load retriever uri = (.error e, r')) :
    ∃ e', (r'.load retriever uri).1 = .error e' := by
  obtain ⟨hunaffected, hrefuses⟩ := unaffected_of_load h
  cases hretriever : retriever.find? uri.withoutFragment with
  | none => exact ⟨_, by rw [load_of_missing hunaffected.free hretriever]⟩
  | some contents =>
      obtain ⟨e', he'⟩ := Declarations.exists_error_iff.mpr (hrefuses contents hretriever)
      exact ⟨e', by rw [load_of_found hunaffected.free hretriever]; simp [add, he']⟩

/-- The target at a place depends on the document that is had there. -/
theorem fst_target (r : Registry) (retriever : Retriever) (place : Place) :
    (r.target retriever place).1 = (r.load retriever place.document).1.bind fun d =>
      match d.contents.at? place.pointer with
      | none => .error (.pointerNotFound place.document place.pointer)
      | some contents => (d.baseAt place.pointer).map fun base =>
          ⟨place.document, place.pointer, base, contents⟩ := by
  unfold target
  rcases r.load retriever place.document with ⟨e | d, r'⟩
  · rfl
  · dsimp only [Except.bind]
    cases d.contents.at? place.pointer <;> rfl

theorem target_again {e : ResolutionError} (h : r.target retriever place = (.error e, r')) :
    ∃ e', (r'.target retriever place).1 = .error e' := by
  have hsnd := snd_target r retriever place
  have hfst := fst_target r retriever place
  rw [h] at hsnd hfst
  obtain rfl : r' = _ := hsnd
  rw [fst_target]
  rcases hload : r.load retriever place.document with ⟨e' | d, mid⟩
  · obtain ⟨e'', hagain⟩ := load_again hload
    exact ⟨e'', by rw [hagain]; rfl⟩
  · have hagain : mid.load retriever place.document = (.ok d, mid) :=
      load_of_get? (get?_of_load hload)
    rw [hload] at hfst
    exact ⟨e, by rw [hagain]; exact hfst.symm⟩

/-- A resource that is not there is not there again. -/
theorem resource_again {e : ResolutionError} (h : r.resource retriever uri = (.error e, r')) :
    ∃ e' r'', r'.resource retriever uri = (.error e', r'') := by
  unfold resource at h
  split at h
  · simp at h
  · rename_i hlookup
    split at h
    · rename_i hload
      cases h
      obtain ⟨hunaffected, -⟩ := unaffected_of_load hload
      obtain ⟨e', hagain⟩ := load_again hload
      rw [← hunaffected.resources] at hlookup
      rcases hload' : r'.load retriever uri with ⟨result, r''⟩
      rw [hload'] at hagain
      obtain rfl : result = .error e' := hagain
      exact ⟨e', r'', by simp only [resource, hlookup, hload']⟩
    · simp at h

/-- A reference that leads nowhere leads nowhere again. -/
theorem resolve_again (hr : r.WellIndexed) {e : ResolutionError}
    (h : r.resolve retriever base reference = (.error e, r')) :
    ∃ e', (r'.resolve retriever base reference).1 = .error e' := by
  unfold resolve at h ⊢
  cases hjoin : base.join reference with
  | error fault => exact ⟨_, rfl⟩
  | ok url =>
      simp only [hjoin] at h
      dsimp only
      split at h
      · rename_i hresource
        cases h
        obtain ⟨e', r'', hagain⟩ := resource_again hresource
        exact ⟨e', by rw [hagain]⟩
      · rename_i resource mid hresource
        have hplace := lookup_of_resource hr url.withoutFragment_withoutFragment hresource
        split at h
        · rename_i hlocate
          cases h
          exact ⟨e, by rw [resource_of_lookup hplace]; simp only [hlocate]⟩
        · rename_i place hlocate
          have hgrows := (evolves_target (r := mid) retriever place).grows
          rw [h] at hgrows
          rw [resource_of_lookup (hgrows.resources.lookup_eq_some hplace)]
          simp only [locate_grows hgrows hlocate]
          exact target_again h

/-! ## Documents that declare nothing -/

/-- A resource is there if the retriever has a document under its URL that declares nothing. -/
theorem exists_resource_of_found (hbare : uri.withoutFragment = uri) {contents : Value}
    (hfound : retriever.find? uri = some contents)
    (hdeclared : Declarations.ofValue uri ⟨uri, .root⟩ contents = .ok {}) :
    ∃ place r', r.resource retriever uri = (.ok place, r') := by
  cases hlookup : r.resources.lookup uri with
  | some place => exact ⟨place, r, resource_of_lookup hlookup⟩
  | none =>
      obtain ⟨d, r', hload⟩ : ∃ d r', r.load retriever uri = (.ok d, r') := by
        cases hget : r.get? uri with
        | some d => exact ⟨d, r, load_of_get? hget⟩
        | none =>
            rw [load_of_found hget (hbare.symm ▸ hfound), hbare, add, hdeclared]
            exact ⟨_, _, rfl⟩
      exact ⟨(r'.resources.lookup uri).getD ⟨uri, .root⟩, r',
        by simp only [resource, hlookup, hload]⟩

/-- Where documents declare nothing, a URL without a fragment leads to the whole of a document. -/
theorem exists_follows_whole {P : Document → Prop} (hr : r.WellIndexed)
    (hkept : ∀ d ∈ r.documents, P d)
    (hloaded : ∀ uri contents, retriever.find? uri = some contents → P ⟨uri, uri, contents⟩)
    (hdeclared : ∀ d, P d → Declarations.ofValue d.base ⟨d.uri, .root⟩ d.contents = .ok {})
    (hjoin : base.join reference = .ok uri) (hfragment : uri.fragment = none)
    (hbare : uri.withoutFragment = uri) {contents : Value}
    (hfound : retriever.find? uri = some contents) :
    ∃ d, P d ∧ d.uri = uri ∧
      r.Follows retriever base reference ⟨uri, .root, d.base, d.contents⟩ := by
  obtain ⟨place, mid, hresource⟩ := exists_resource_of_found (r := r) hbare hfound
    (hdeclared _ (hloaded uri contents hfound))
  have hmid := (evolves_resource (r := r) retriever uri).wellIndexed hr
  have hdocuments := forall_resource uri hkept hloaded
  rw [hresource] at hmid hdocuments
  -- Every entry of the index is that of a whole document.
  have hplace := lookup_of_resource hr hbare hresource
  rw [hmid.lookup_resources] at hplace
  obtain ⟨d, hd, hmem⟩ := List.mem_flatMap.mp (mem_of_lookup hplace)
  rw [Document.resources, Document.declared, hdeclared d (hdocuments d hd), List.mem_singleton,
    Prod.mk.injEq] at hmem
  obtain ⟨rfl, rfl⟩ := hmem
  have hget : mid.get? d.uri = some d := by
    rw [get?, hbare]
    exact hmid.find?_of_mem hd
  have hwhole : mid.IsTarget ⟨d.uri, .root, d.base, d.contents⟩ := ⟨d, hget, rfl, rfl⟩
  have htarget : mid.target retriever ⟨d.uri, .root⟩ = _ := target_of_isTarget hwhole
  refine ⟨d, hdocuments d hd, rfl, ?_⟩
  simp [Follows, resolve, hjoin, hbare, hresource, hfragment, locate, htarget]

end JsonSchema.Registry
