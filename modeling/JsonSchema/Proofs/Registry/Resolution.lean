import JsonSchema.Proofs.Outcome
import JsonSchema.Proofs.Registry.Growth

/-!
# References keep their targets

Once a reference is followed, it leads to the same target in the registry left behind and in every
later one, and no retriever is asked again.
-/

namespace JsonSchema

/-- Where a target is. -/
def Target.place (t : Target) : Place := ⟨t.document, t.pointer⟩

namespace Registry

variable {r r' R : Registry} {retriever : Retriever}

/-- The contents and the base of a target are those of its place in a document that is kept. -/
def IsTarget (r : Registry) (t : Target) : Prop :=
  ∃ d, r.get? t.document = some d ∧ d.contents.at? t.pointer = some t.contents ∧
    d.baseAt t.pointer = .ok t.base

/-- A reference leads to a target, whatever a retriever could add. -/
def Leads (r : Registry) (base : Url) (reference : String) (t : Target) : Prop :=
  ∀ retriever, r.resolve retriever base reference = (.ok t, r)

theorem IsTarget.grows {t : Target} (h : r.IsTarget t) (hg : Grows r R) : R.IsTarget t := by
  obtain ⟨d, hd, hrest⟩ := h
  exact ⟨d, hg.find? hd, hrest⟩

/-- A place has at most one target. -/
theorem IsTarget.unique {t t' : Target} (h : r.IsTarget t) (h' : r.IsTarget t')
    (hplace : t.place = t'.place) : t = t' := by
  obtain ⟨document, pointer, base, contents⟩ := t
  obtain ⟨document', pointer', base', contents'⟩ := t'
  simp only [Target.place, Place.mk.injEq] at hplace
  obtain ⟨rfl, rfl⟩ := hplace
  obtain ⟨d, hd, hcontents, hbase⟩ := h
  obtain ⟨d', hd', hcontents', hbase'⟩ := h'
  obtain rfl : d = d' := Option.some.inj (hd.symm.trans hd')
  obtain rfl : contents = contents' := Option.some.inj (hcontents.symm.trans hcontents')
  obtain rfl : base = base' := Except.ok.inj (hbase.symm.trans hbase')
  rfl

/-! ## Documents -/

theorem add_ok {d d' : Document} (h : r.add d = (.ok d', r')) :
    d' = d ∧ r'.documents = r.documents ++ [d] := by
  unfold add at h
  split at h
  · simp only [Prod.mk.injEq, Except.ok.injEq] at h
    obtain ⟨rfl, rfl⟩ := h
    exact ⟨rfl, rfl⟩
  · simp at h

theorem find?_of_add {d d' : Document} (h : r.add d = (.ok d', r'))
    (fresh : r.find? d.uri = none) : r'.find? d.uri = some d' := by
  obtain ⟨rfl, hdocuments⟩ := add_ok h
  have hnone : r.documents.find? (·.uri == d'.uri) = none := fresh
  simp [find?, hdocuments, List.find?_append, hnone]

theorem get?_of_insertAt {uri base : Url} {contents : Value} {d : Document}
    (h : r.insertAt uri base contents = (.ok d, r')) : r'.get? uri = some d := by
  unfold insertAt at h
  split at h
  · rename_i hfound
    simp only [Prod.mk.injEq, Except.ok.injEq] at h
    obtain ⟨rfl, rfl⟩ := h
    exact hfound
  · rename_i hfresh
    exact find?_of_add h hfresh

theorem get?_of_load {uri : Url} {d : Document} (h : r.load retriever uri = (.ok d, r')) :
    r'.get? uri = some d := by
  unfold load at h
  simp only at h
  split at h
  · rename_i hfound
    simp only [Prod.mk.injEq, Except.ok.injEq] at h
    obtain ⟨rfl, rfl⟩ := h
    exact hfound
  · rename_i hfresh
    split at h
    · exact find?_of_add h hfresh
    · simp at h

theorem load_of_get? {uri : Url} {d : Document} (h : r.get? uri = some d) :
    r.load retriever uri = (.ok d, r) := by
  have hfound : r.find? uri.withoutFragment = some d := h
  simp [load, hfound]

/-! ## References -/

theorem lookup_of_resource (hr : WellIndexed r) {uri : Url} {place : Place}
    (bare : uri.withoutFragment = uri) (h : r.resource retriever uri = (.ok place, r')) :
    r'.resources.lookup uri = some place := by
  unfold resource at h
  split at h
  · rename_i hfound
    simp only [Prod.mk.injEq, Except.ok.injEq] at h
    obtain ⟨rfl, rfl⟩ := h
    exact hfound
  · split at h
    · simp at h
    · rename_i d r'' hload
      simp only [Prod.mk.injEq, Except.ok.injEq] at h
      obtain ⟨rfl, rfl⟩ := h
      have hevolves := evolves_load (r := r) retriever uri
      rw [hload] at hevolves
      have hfound : r''.find? uri = some d := by
        simpa [get?, bare] using get?_of_load hload
      obtain ⟨place, hplace⟩ := (hevolves.wellIndexed hr).exists_resource hfound
      simp [hplace]

theorem resource_of_lookup {uri : Url} {place : Place}
    (h : r.resources.lookup uri = some place) : r.resource retriever uri = (.ok place, r) := by
  simp [resource, h]

theorem locate_grows (hg : Grows r R) {base uri : Url} {reference fragment : String}
    {resource place : Place} (h : r.locate base reference uri fragment resource = .ok place) :
    R.locate base reference uri fragment resource = .ok place := by
  unfold locate at h ⊢
  split
  · simp_all
  · simp_all
  · rename_i hempty hpointer
    split at h
    · exact absurd ‹_› hempty
    · exact absurd ‹_› (hpointer _)
    · split at h
      · rename_i hfound
        rw [hg.anchors.lookup_eq_some hfound]
        exact h
      · simp at h

theorem isTarget_of_target {place : Place} {t : Target}
    (h : r.target retriever place = (.ok t, r')) : r'.IsTarget t ∧ t.place = place := by
  unfold target at h
  split at h
  · simp at h
  · rename_i d r'' hload
    have hd := get?_of_load hload
    split at h
    · simp at h
    · rename_i contents hcontents
      simp only [Prod.mk.injEq, map_eq_ok] at h
      obtain ⟨⟨base, hbase, rfl⟩, rfl⟩ := h
      exact ⟨⟨d, hd, hcontents, hbase⟩, rfl⟩

theorem target_of_isTarget {t : Target} (h : r.IsTarget t) :
    r.target retriever t.place = (.ok t, r) := by
  obtain ⟨d, hd, hcontents, hbase⟩ := h
  simp [target, Target.place, load_of_get? hd, hcontents, hbase, Except.map]

/-- A reference that was followed leads to its target in every later registry. -/
theorem leads_of_resolve (hr : WellIndexed r) {base : Url} {reference : String} {t : Target}
    (h : r.resolve retriever base reference = (.ok t, r')) :
    r'.IsTarget t ∧ ∀ R, Grows r' R → R.Leads base reference t := by
  unfold resolve at h
  split at h
  · simp at h
  · rename_i url hjoin
    simp only at h
    split at h
    · simp at h
    · rename_i resource mid hresource
      split at h
      · simp at h
      · rename_i place hlocate
        have hplace := lookup_of_resource hr url.withoutFragment_withoutFragment hresource
        have hevolves := evolves_target (r := mid) retriever place
        rw [h] at hevolves
        obtain ⟨htarget, rfl⟩ := isTarget_of_target h
        refine ⟨htarget, fun R hg retriever => ?_⟩
        have hgrows := hevolves.grows.trans hg
        simp only [resolve, hjoin,
          resource_of_lookup (hgrows.resources.lookup_eq_some hplace), locate_grows hgrows hlocate]
        exact target_of_isTarget (htarget.grows hg)

/-- A reference leads to one target. -/
theorem Leads.unique {base : Url} {reference : String} {t t' : Target}
    (h : r.Leads base reference t) (h' : r.Leads base reference t') : t = t' := by
  have heq := (h {}).symm.trans (h' {})
  simpa using heq

end Registry
end JsonSchema
