import JsonSchema.Proofs.Registry.Ownership
import JsonSchema.Proofs.Url.Normal

/-!
# References of a resource to itself

A reference that is only a fragment keeps the URL of its base. It is looked up in the index all the
same, so it leads into the document under that URL only if no document before it has declared what
the fragment names there.
-/

namespace JsonSchema

namespace Url

theorem isFragmentOnly_append (name : String) :
    Declarations.isFragmentOnly ("#" ++ name) = true := by
  simp [Declarations.isFragmentOnly]

/-- A name is read as it stands exactly if none of its characters needs an escape. -/
theorem ownFragment_eq_iff {name : String} :
    ownFragment ("#" ++ name) = name ↔ ∀ c ∈ name.toList, Percent.fragment c = false := by
  have htext : ("#" ++ name).toList = '#' :: name.toList := by simp
  constructor
  · intro h c hc
    rw [← h, ownFragment, readFragment, String.toList_ofList] at hc
    exact Percent.fragment_of_mem_encode hc
  · intro h
    have hsignificant : significant ("#" ++ name) = '#' :: name.toList := by
      rw [← htext, significant_eq_iff, htext]
      refine trimmed_of_forall (List.forall_mem_cons.mpr ⟨by decide, fun c hc => ?_⟩)
      exact (Percent.range_of_fragment (h c hc)).1
    rw [ownFragment, hsignificant, List.drop_one, List.tail_cons, readFragment_of_plain h,
      String.ofList_toList]

end Url

/-- After other documents, a document is the first to declare what a fragment names in the resource
under its own URL. -/
def Document.DeclaresFirst (d : Document) (before : List Document) (fragment : String) : Prop :=
  if isPointerFragment fragment then ∀ e ∈ before, d.uri ∉ e.resources.map Prod.fst
  else (d.uri, fragment) ∈ d.declared.anchors.map Prod.fst ∧
    ∀ e ∈ before, (d.uri, fragment) ∉ e.declared.anchors.map Prod.fst

namespace Registry

variable {r : Registry}

theorem exists_place_of_leads (hr : WellIndexed r) {base url : Url} {reference : String}
    {t : Target} (hjoin : base.join reference = .ok url) (h : r.Leads base reference t) :
    ∃ resource, r.resources.lookup url.withoutFragment = some resource ∧
      r.locate base reference url.withoutFragment (url.fragment.getD "") resource =
        .ok t.place := by
  have hresolve := h {}
  simp only [resolve, hjoin] at hresolve
  split at hresolve
  · simp at hresolve
  · rename_i resource mid hresource
    split at hresolve
    · simp at hresolve
    · rename_i place hlocate
      have hlookup := lookup_of_resource hr url.withoutFragment_withoutFragment hresource
      have hevolves := evolves_target (r := mid) {} place
      rw [hresolve] at hevolves
      obtain ⟨-, rfl⟩ := isTarget_of_target hresolve
      exact ⟨resource, hevolves.grows.resources.lookup_eq_some hlookup,
        locate_grows hevolves.grows hlocate⟩

theorem locate_of_name {base uri : Url} {reference name : String} {resource place : Place}
    (hname : isPointerFragment name = false) (h : r.anchors.lookup (uri, name) = some place) :
    r.locate base reference uri name resource = .ok place := by
  unfold locate
  split
  · simp_all [isPointerFragment]
  · simp_all [isPointerFragment]
  · rw [h]

theorem place_of_locate {base uri : Url} {reference fragment : String} {resource place : Place}
    (h : r.locate base reference uri fragment resource = .ok place) :
    (isPointerFragment fragment = true → place.document = resource.document) ∧
      (isPointerFragment fragment = false → r.anchors.lookup (uri, fragment) = some place) := by
  unfold locate at h
  split at h
  · rename_i hempty
    cases h
    exact ⟨fun _ => rfl, by simp [isPointerFragment, hempty]⟩
  · rename_i hpointer
    split at h
    · cases h
      exact ⟨fun _ => rfl, by simp [isPointerFragment, hpointer]⟩
    · cases h
  · rename_i hempty hpointer
    have hname : isPointerFragment fragment = false := by
      unfold isPointerFragment
      split
      · exact absurd ‹_› hempty
      · exact absurd ‹_› (hpointer _)
      · rfl
    split at h
    · rename_i hfound
      cases h
      exact ⟨by simp [hname], fun _ => hfound⟩
    · cases h

/-- A reference of a kept document to itself leads into the document exactly if the document is the
first to declare what the fragment names. -/
theorem document_eq_iff_declaresFirst (hr : WellIndexed r) {before after : List Document}
    {d : Document} (hdocuments : r.documents = before ++ d :: after) {reference : String}
    (hown : Declarations.isFragmentOnly reference = true) {t : Target}
    (h : r.Leads d.uri reference t) :
    t.document = d.uri ↔ d.DeclaresFirst before (Url.ownFragment reference) := by
  have hbare : d.uri.withoutFragment = d.uri := hr.bare d (by simp [hdocuments])
  have hdistinct := hr.distinct
  rw [hdocuments] at hdistinct
  obtain ⟨resource, hresource, hlocate⟩ :=
    exists_place_of_leads hr (Url.join_of_isFragmentOnly d.uri hown) h
  have huri : Url.withoutFragment { d.uri with fragment := some (Url.ownFragment reference) } =
      d.uri := hbare
  rw [huri] at hresource hlocate
  obtain ⟨hpointed, hnamed⟩ := place_of_locate hlocate
  unfold Document.DeclaresFirst
  split
  · rename_i hpointer
    have hdocument : t.document = resource.document := hpointed hpointer
    rw [hr.lookup_resources, hdocuments] at hresource
    have hiff := document_eq_iff (fun _ _ => Document.document_of_mem_resources) hdistinct hresource
    rw [hdocument, hiff]
    simp [Document.resources]
  · rename_i hname
    have hplace := hnamed (by simpa using hname)
    rw [hr.lookup_anchors, hdocuments] at hplace
    exact document_eq_iff (fun d => d.within_declared.anchors) hdistinct hplace

end Registry
end JsonSchema
