import JsonSchema.Proofs.Registry.Asking
import JsonSchema.Proofs.Registry.Single

/-!
# One document and nothing else

Where a registry has one document and the retriever has none, references lead into that document or
nowhere. So a reference leads to the same position of another document in its place, if the other
document declares there first what the reference asks for.
-/

namespace JsonSchema.Registry

variable {r r' : Registry} {d d' : Document} {base url : Url} {reference : String} {t : Target}

/-- Only names are looked up. -/
theorem locate_of_isPointerFragment {uri : Url} {fragment : String} {resource : Place}
    (h : isPointerFragment fragment = true) :
    r.locate base reference uri fragment resource =
      r'.locate base reference uri fragment resource := by
  unfold isPointerFragment at h
  unfold locate
  generalize fragment.toList = cs at h ⊢
  split at h
  · rfl
  · rfl
  · cases h

namespace Single

theorem get?_uri (h : r.Single d) : r.get? d.uri = some d := by
  rw [get?, h.indexed.bare d h.mem_documents]
  exact h.indexed.find?_of_mem h.mem_documents

/-- Nothing is loaded. -/
theorem load_eq_ok (h : r.Single d) {uri : Url} {e : Document} {R : Registry}
    (hload : r.load {} uri = (.ok e, R)) : e = d ∧ uri.withoutFragment = d.uri ∧ R = r := by
  cases hget : r.get? uri with
  | none =>
      rw [load_of_missing hget rfl] at hload
      cases hload
  | some found =>
      rw [load_of_get? hget] at hload
      cases hload
      have hmem : e ∈ r.documents := List.mem_of_find?_eq_some hget
      rw [h.documents, List.mem_singleton] at hmem
      have huri : e.uri = uri.withoutFragment := by simpa using List.find?_some hget
      exact ⟨hmem, by rw [← huri, hmem], rfl⟩

theorem resource_eq_ok (h : r.Single d) {uri : Url} (hbare : uri.withoutFragment = uri)
    {place : Place} {R : Registry} (hresource : r.resource {} uri = (.ok place, R)) :
    d.resources.lookup uri = some place ∧ R = r := by
  rw [← h.lookup_resources]
  unfold resource at hresource
  split at hresource
  · rename_i hlookup
    cases hresource
    exact ⟨hlookup, rfl⟩
  · rename_i hlookup
    split at hresource
    · cases hresource
    · rename_i hload
      obtain ⟨-, huri, -⟩ := h.load_eq_ok hload
      rw [← hbare, huri, h.lookup_uri] at hlookup
      cases hlookup

/-- What a target is: the value at a position of the document, and the base there. -/
theorem isTarget_iff (h : r.Single d) (hdocument : t.document = d.uri) :
    r.IsTarget t ↔
      d.contents.at? t.pointer = some t.contents ∧ d.baseAt t.pointer = .ok t.base := by
  constructor
  · rintro ⟨e, he, hat, hbase⟩
    rw [hdocument, h.get?_uri] at he
    obtain rfl := Option.some.inj he
    exact ⟨hat, hbase⟩
  · rintro ⟨hat, hbase⟩
    exact ⟨d, by rw [hdocument, h.get?_uri], hat, hbase⟩

theorem document_of_locate (h : r.Single d) {resource place : Place} {fragment : String}
    {uri : Url} (hresource : d.resources.lookup uri = some resource)
    (hlocate : r.locate base reference uri fragment resource = .ok place) :
    place.document = d.uri := by
  obtain ⟨hpointed, hnamed⟩ := place_of_locate hlocate
  cases hpointer : isPointerFragment fragment with
  | true =>
      rw [hpointed hpointer]
      exact Document.document_of_mem_resources (mem_of_lookup hresource)
  | false =>
      have hanchor := hnamed hpointer
      rw [h.lookup_anchors] at hanchor
      exact d.within_declared.anchors _ (mem_of_lookup hanchor)

/-- What following a reference comes to. -/
theorem follows_iff (h : r.Single d) : r.Follows {} base reference t ↔
    ∃ url resource, base.join reference = .ok url ∧
      d.resources.lookup url.withoutFragment = some resource ∧
      r.locate base reference url.withoutFragment (url.fragment.getD "") resource = .ok t.place ∧
      t.document = d.uri ∧
      d.contents.at? t.pointer = some t.contents ∧ d.baseAt t.pointer = .ok t.base := by
  constructor
  · intro hfollows
    unfold Follows resolve at hfollows
    split at hfollows
    · cases hfollows
    · rename_i url hjoin
      dsimp only at hfollows
      split at hfollows
      · cases hfollows
      · rename_i resource R hresource
        obtain ⟨hlookup, rfl⟩ := h.resource_eq_ok url.withoutFragment_withoutFragment hresource
        split at hfollows
        · cases hfollows
        · rename_i place hlocate
          have hdocument := h.document_of_locate hlookup hlocate
          have hsame : (R.target {} place).2 = R := by
            rw [snd_target, load_of_get? (show R.get? place.document = some d by
              rw [hdocument, h.get?_uri])]
          have htarget : R.target {} place = (.ok t, R) := Prod.ext hfollows hsame
          obtain ⟨ht, rfl⟩ := isTarget_of_target htarget
          have hposition := (h.isTarget_iff hdocument).mp ht
          exact ⟨url, resource, hjoin, hlookup, hlocate, hdocument, hposition⟩
  · rintro ⟨url, resource, hjoin, hlookup, hlocate, hdocument, hposition⟩
    rw [← h.lookup_resources] at hlookup
    have htarget := (h.isTarget_iff hdocument).mpr hposition
    simp only [Follows, resolve, hjoin, resource_of_lookup hlookup, hlocate,
      target_of_isTarget htarget]

end Single

/-- Of what a reference asks for, a document has what another one has, and declares first in the
same place what decides where the reference leads. -/
structure DeclaresAlike (d d' : Document) (base : Url) (reference : String) : Prop where
  known : ∀ url place, base.join reference = .ok url →
    d.resources.lookup url.withoutFragment = some place →
      ∃ place', d'.resources.lookup url.withoutFragment = some place'
  resource : ∀ url place, base.join reference = .ok url →
    isPointerFragment (url.fragment.getD "") = true →
      d.resources.lookup url.withoutFragment = some place →
        d'.resources.lookup url.withoutFragment = some place
  anchor : ∀ url name place, base.join reference = .ok url → url.fragment = some name →
    isPointerFragment name = false →
      d.declared.anchors.lookup (url.withoutFragment, name) = some place →
        d'.declared.anchors.lookup (url.withoutFragment, name) = some place

/-- A reference leads to the same position of another document that declares it first there. -/
theorem Follows.transfer (h : r.Single d) (h' : r'.Single d') (huri : d'.uri = d.uri)
    (hdeclared : DeclaresAlike d d' base reference) {w : Value}
    (hat : d'.contents.at? t.pointer = some w) (hbase : d'.baseAt t.pointer = d.baseAt t.pointer)
    (hfollows : r.Follows {} base reference t) :
    r'.Follows {} base reference { t with contents := w } := by
  obtain ⟨url, resource, hjoin, hlookup, hlocate, hdocument, -, htbase⟩ := h.follows_iff.mp hfollows
  have hplace := hdocument.trans huri.symm
  have hbase' := hbase.trans htbase
  cases hpointer : isPointerFragment (url.fragment.getD "") with
  | true =>
      have hlookup' := hdeclared.resource url resource hjoin hpointer hlookup
      exact h'.follows_iff.mpr ⟨url, resource, hjoin, hlookup',
        (locate_of_isPointerFragment hpointer).symm.trans hlocate, hplace, hat, hbase'⟩
  | false =>
      obtain ⟨name, hname⟩ : ∃ name, url.fragment = some name := by
        cases hfragment : url.fragment with
        | none =>
            rw [hfragment] at hpointer
            cases hpointer
        | some name => exact ⟨name, rfl⟩
      rw [hname, Option.getD_some] at hpointer hlocate
      have hanchor := (place_of_locate hlocate).2 hpointer
      rw [h.lookup_anchors] at hanchor
      have hanchor' := hdeclared.anchor url name t.place hjoin hname hpointer hanchor
      rw [← h'.lookup_anchors] at hanchor'
      obtain ⟨resource', hlookup'⟩ := hdeclared.known url resource hjoin hlookup
      refine h'.follows_iff.mpr ⟨url, resource', hjoin, hlookup', ?_, hplace, hat, hbase'⟩
      rw [hname]
      exact locate_of_name hpointer hanchor'

end JsonSchema.Registry
