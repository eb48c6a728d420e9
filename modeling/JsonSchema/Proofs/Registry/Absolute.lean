import JsonSchema.Proofs.Pointer.Text
import JsonSchema.Proofs.Registry.Single
import JsonSchema.Proofs.Url.Unescape
import JsonSchema.Schema.Location

/-!
# Absolute locations as references

An absolute location is the URL of a document with a pointer for its fragment. It leads back to the
position exactly if the fragment keeps the text of the pointer and there is a base at the position.
-/

namespace JsonSchema

open Reference

namespace Reference

variable {p : Pointer}

/-- A pointer is read from its text as a fragment exactly if the fragment keeps that text. -/
theorem pointer?_encodeFragment_iff :
    pointer? (Url.encodeFragment p.text) = .ok p ↔ KeptByFragment p.text.toList := by
  rw [← unescapeText?_encodeFragment]
  unfold pointer?
  constructor
  · intro h
    split at h
    · cases h
    · rename_i text htext
      split at h
      · rename_i q hq
        cases h
        rw [htext, Pointer.text_of_ofText? hq]
      · cases h
  · intro h
    simp only [h, Pointer.ofText?_text]

/-- The text of a pointer is empty or begins with a slash, as a fragment as well. -/
theorem encodeFragment_text (p : Pointer) :
    p = .root ∧ Url.encodeFragment p.text = "" ∨
      ∃ rest, (Url.encodeFragment p.text).toList = '/' :: rest := by
  obtain ⟨tokens⟩ := p
  cases tokens with
  | nil => exact .inl ⟨rfl, rfl⟩
  | cons token tokens =>
      right
      rw [Url.encodeFragment, Pointer.toList_text, String.toList_ofList, List.flatMap_cons,
        List.cons_append, List.filter_cons_of_pos (by decide), Percent.encode_cons]
      exact ⟨_, rfl⟩

end Reference

namespace SchemaLocation

variable {document : Url} {p q : Pointer}

theorem absolute_eq (document : Url) (p : Pointer) :
    absolute ⟨document, p⟩ = document.textBeforeFragment ++ "#" ++ Url.encodeFragment p.text := rfl

/-- Locations in one document with one absolute form are one location, if the form keeps their
pointers. -/
theorem pointer_eq_of_absolute_eq (hp : KeptByFragment p.text.toList)
    (hq : KeptByFragment q.text.toList) (h : absolute ⟨document, p⟩ = absolute ⟨document, q⟩) :
    p = q := by
  rw [absolute_eq, absolute_eq, ← String.toList_inj] at h
  have hencoded : Url.encodeFragment p.text = Url.encodeFragment q.text := by
    rw [← String.toList_inj]
    simpa using h
  -- Both pointers are read from that text.
  have hread := pointer?_encodeFragment_iff.mpr hp
  rw [hencoded, pointer?_encodeFragment_iff.mpr hq] at hread
  exact (Except.ok.inj hread).symm

end SchemaLocation

namespace Registry

variable {r : Registry} {d : Document} {p : Pointer} {retriever : Retriever} {base : Url}

theorem locate_encodeFragment_iff {reference : String} {uri document : Url} :
    r.locate base reference uri (Url.encodeFragment p.text) ⟨document, .root⟩ =
      .ok ⟨document, p⟩ ↔ KeptByFragment p.text.toList := by
  rw [← pointer?_encodeFragment_iff]
  unfold locate
  rcases encodeFragment_text p with ⟨rfl, hempty⟩ | ⟨rest, hrest⟩
  · rw [hempty]
    exact iff_of_true rfl rfl
  · rw [hrest]
    dsimp only
    cases pointer? (Url.encodeFragment p.text) with
    | error fault => simp
    | ok q => simp

/-- A position of a document that is kept is a target if there is a base. -/
theorem exists_target_iff (hr : WellIndexed r) (hd : d ∈ r.documents)
    (hp : (d.contents.at? p).isSome) :
    (∃ t, r.IsTarget t ∧ t.place = ⟨d.uri, p⟩) ↔ ∃ b, d.baseAt p = .ok b := by
  have hget := hr.get?_of_find? (hr.find?_of_mem hd)
  constructor
  · rintro ⟨⟨document, pointer, b, contents⟩, ⟨e, he, -, hb⟩, hplace⟩
    cases hplace
    obtain rfl : d = e := Option.some.inj (hget.symm.trans he)
    exact ⟨b, hb⟩
  · rintro ⟨b, hb⟩
    obtain ⟨v, hv⟩ := Option.isSome_iff_exists.mp hp
    exact ⟨⟨d.uri, p, b, v⟩, ⟨d, hget, hv, hb⟩, rfl⟩

/-- An absolute location is the URL of its document with the text of its pointer for a fragment. -/
theorem join_absolute (hbare : d.uri.withoutFragment = d.uri) (hnormal : d.uri.Normal)
    (p : Pointer) (base : Url) : base.join (SchemaLocation.absolute ⟨d.uri, p⟩) =
      .ok { d.uri with fragment := some (Url.encodeFragment p.text) } := by
  have hfragment : d.uri.fragment = none := by
    rw [← hbare]
    rfl
  have htext : d.uri.text = d.uri.textBeforeFragment := by
    rw [Url.text, hfragment]
  rw [SchemaLocation.absolute_eq, ← htext]
  refine hnormal.join_fragment hfragment (fun c hc => ?_) base
  rw [Url.encodeFragment, String.toList_ofList] at hc
  exact Percent.fragment_of_mem_encode hc

/-- An absolute location leads back to its position exactly if the fragment keeps the text of the
pointer and there is a base at the position. -/
theorem WellIndexed.placeOf_absolute_iff (hr : WellIndexed r) (hd : d ∈ r.documents)
    (hnormal : d.uri.Normal) (hfirst : r.resources.lookup d.uri = some ⟨d.uri, .root⟩)
    (hp : (d.contents.at? p).isSome) :
    r.placeOf retriever base (SchemaLocation.absolute ⟨d.uri, p⟩) = .ok ⟨d.uri, p⟩ ↔
      KeptByFragment p.text.toList ∧ ∃ b, d.baseAt p = .ok b := by
  have hbare := hr.bare d hd
  have hjoin := join_absolute hbare hnormal p base
  have huri : Url.withoutFragment { d.uri with fragment := some (Url.encodeFragment p.text) } =
      d.uri := hbare
  constructor
  · intro hplace
    obtain ⟨R, resource, hg, hR, hresource, hlocate, htarget⟩ :=
      exists_locate_of_placeOf hr hjoin hplace
    rw [huri] at hresource hlocate
    obtain rfl : ⟨d.uri, .root⟩ = resource :=
      Option.some.inj ((hg.resources.lookup_eq_some hfirst).symm.trans hresource)
    exact ⟨locate_encodeFragment_iff.mp hlocate,
      (exists_target_iff hR (hg.documents.subset hd) hp).mp htarget⟩
  · rintro ⟨hkept, hb⟩
    refine placeOf_of_locate hjoin ?_ (locate_encodeFragment_iff.mpr hkept)
      ((exists_target_iff hr hd hp).mpr hb)
    rw [huri, hfirst]

/-- Absolute locations in a document are references to their positions. -/
structure LeadsBack (r : Registry) (d : Document) : Prop where
  /-- They lead back exactly if their fragment keeps the pointer and there is a base. -/
  placeOf : ∀ p retriever base, (d.contents.at? p).isSome →
    (r.placeOf retriever base (SchemaLocation.absolute ⟨d.uri, p⟩) = .ok ⟨d.uri, p⟩ ↔
      KeptByFragment p.text.toList ∧ ∃ b, d.baseAt p = .ok b)
  /-- There is a base wherever the walk for declarations comes. -/
  base : ∀ p, (d.contents.at? p).isSome → p.Visited → ∃ b, d.baseAt p = .ok b
  /-- Where pointers are kept, different positions have different locations. -/
  injective : ∀ p q, KeptByFragment p.text.toList → KeptByFragment q.text.toList →
    SchemaLocation.absolute ⟨d.uri, p⟩ = SchemaLocation.absolute ⟨d.uri, q⟩ → p = q

/-- In every registry that operations come to, absolute locations lead back into a document that
has its URL for itself, as far as fragments keep pointers. -/
theorem Reachable.leadsBack (h : Reachable r) (hr : r.WellFormed) (hd : d ∈ r.documents)
    (hnormal : d.uri.Normal) (hfirst : r.resources.lookup d.uri = some ⟨d.uri, .root⟩) :
    r.LeadsBack d := by
  have hindexed := h.evolves.wellIndexed wellIndexed_empty
  have hread : d.WellRead := ⟨hindexed.bareBase d hd, hr d hd, h.evolves.declared d hd⟩
  constructor
  · intro p retriever base hp
    exact hindexed.placeOf_absolute_iff hd hnormal hfirst hp
  · intro p hp hvisited
    obtain ⟨w, hw⟩ := Option.isSome_iff_exists.mp hp
    obtain ⟨b, -, hb⟩ := hread.exists_scanned hvisited hw
    exact ⟨b, hb⟩
  · intro p q hp hq
    exact SchemaLocation.pointer_eq_of_absolute_eq hp hq

theorem normal_catalogueUri : catalogueUri.Normal :=
  ⟨Url.significant_eq_iff.mp (by decide +kernel), by decide +kernel⟩

theorem leadsBack_catalogue : ∃ (d : Document) (r : Registry), r.Reachable ∧ r.WellFormed ∧
    d ∈ r.documents ∧ d.uri.Normal ∧ r.resources.lookup d.uri = some ⟨d.uri, .root⟩ ∧
      ∀ retriever base, r.placeOf retriever base "json-schema:///catalogue#/$defs/item" =
        .ok ⟨d.uri, ⟨["$defs", "item"]⟩⟩ := by
  obtain ⟨d, r, h⟩ := exists_of_insert catalogueUri catalogue (by decide +kernel)
  obtain ⟨hsingle, rfl⟩ := single_of_insert h (by decide +kernel)
  have hr := reachable_of_insert h
  have hleads := hr.leadsBack hsingle.wellFormed hsingle.mem_documents normal_catalogueUri
    hsingle.lookup_uri
  have hvisited : Pointer.Visited ⟨["$defs", "item"]⟩ := by decide
  have hat : (catalogue.at? ⟨["$defs", "item"]⟩).isSome := by decide +kernel
  have hkept : KeptByFragment (Pointer.text ⟨["$defs", "item"]⟩).toList :=
    keptByFragment_of_all (by decide +kernel)
  refine ⟨_, r, hr, hsingle.wellFormed, hsingle.mem_documents, normal_catalogueUri,
    hsingle.lookup_uri, fun retriever base => ?_⟩
  exact (hleads.placeOf _ retriever base hat).mpr ⟨hkept, hleads.base _ hat hvisited⟩

/-- A document with two properties, one with an escape for the blank in the name of the other. -/
def blanks : Value := .object [("properties", .object [("a b", .bool true),
  ("a%20b", .bool true)])]

/-- Two positions have one location, so it leads back to one of them only. -/
theorem exists_shared_location : ∃ (r : Registry) (d : Document) (p q : Pointer), r.Reachable ∧
    r.WellFormed ∧ d ∈ r.documents ∧ d.uri.Normal ∧
      r.resources.lookup d.uri = some ⟨d.uri, .root⟩ ∧ (d.contents.at? p).isSome ∧
        (d.contents.at? q).isSome ∧ p ≠ q ∧
          SchemaLocation.absolute ⟨d.uri, p⟩ = SchemaLocation.absolute ⟨d.uri, q⟩ ∧
            ∀ retriever base, r.placeOf retriever base (SchemaLocation.absolute ⟨d.uri, q⟩) ≠
              .ok ⟨d.uri, q⟩ := by
  obtain ⟨d, r, h⟩ := exists_of_insert catalogueUri blanks (by decide +kernel)
  obtain ⟨hsingle, rfl⟩ := single_of_insert h (by decide +kernel)
  let p : Pointer := ⟨["properties", "a b"]⟩
  let q : Pointer := ⟨["properties", "a%20b"]⟩
  have hshared : SchemaLocation.absolute ⟨catalogueUri, p⟩ =
      SchemaLocation.absolute ⟨catalogueUri, q⟩ := by decide +kernel
  have hkept : KeptByFragment p.text.toList := keptByFragment_of_all (by decide +kernel)
  refine ⟨r, _, p, q, reachable_of_insert h, hsingle.wellFormed, hsingle.mem_documents,
    normal_catalogueUri, hsingle.lookup_uri, by decide +kernel, by decide +kernel, by decide,
    hshared, fun retriever base hplace => ?_⟩
  have hleads : r.placeOf retriever base (SchemaLocation.absolute ⟨catalogueUri, p⟩) =
      .ok ⟨catalogueUri, p⟩ :=
    (hsingle.indexed.placeOf_absolute_iff hsingle.mem_documents normal_catalogueUri
      hsingle.lookup_uri (by decide +kernel)).mpr ⟨hkept, catalogueUri, by decide +kernel⟩
  rw [hshared] at hleads
  have hsame : (⟨catalogueUri, p⟩ : Place) = ⟨catalogueUri, q⟩ :=
    Except.ok.inj (hleads.symm.trans hplace)
  exact absurd hsame (by decide)

end Registry
end JsonSchema
