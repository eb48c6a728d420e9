import JsonSchema.Proofs.Registry.Anchors
import JsonSchema.Proofs.Registry.Lone
import JsonSchema.Proofs.Registry.Nesting
import JsonSchema.Proofs.Value.Reordered

/-!
# Declarations and the order of members

The order of members decides in which order declarations are read, but not what is declared where.
So it makes no difference to references, unless two positions declare the same: then the first one
counts.
-/

namespace JsonSchema

open Declarations

namespace Document

variable {d d' : Document} {base b uri : Url} {v v' w w' : Value} {p : Pointer} {name : String}

/-- The object at a position names a resource by its `$id`. -/
def DeclaresResource (d : Document) (uri : Url) (p : Pointer) : Prop :=
  ∃ b w, d.contents.at? p = some w ∧ d.baseAt p = .ok b ∧ IdentifiedAs b w uri

/-- Of the positions that the walk for declarations comes to, no two declare the same URL of a
resource, and no two the same name in the same resource. -/
structure Unambiguous (d : Document) : Prop where
  resource : ∀ uri p q, p.Visited → q.Visited → d.DeclaresResource uri p →
    d.DeclaresResource uri q → p = q
  anchor : ∀ uri name p q, p.Visited → q.Visited → d.Names uri name p → d.Names uri name q → p = q

theorem identifies_iff :
    d.Identifies uri p ↔ p = .root ∧ uri = d.uri ∨ d.DeclaresResource uri p := by
  refine or_congr_right ⟨?_, ?_⟩
  · rintro ⟨members, b, id, url, hat, hbase, hid⟩
    exact ⟨b, .object members, hat, hbase, members, id, url, rfl, hid⟩
  · rintro ⟨b, _, hat, hbase, members, id, url, rfl, hid⟩
    exact ⟨members, b, id, url, hat, hbase, hid⟩

/-- A document is unambiguous if the keys of its declarations are different, entries for one place
apart. -/
theorem WellRead.unambiguous (h : d.WellRead)
    (hresources : ∀ e ∈ d.resources, ∀ e' ∈ d.resources, e.1 = e'.1 → e.2 = e'.2)
    (hanchors : ∀ e ∈ d.declared.anchors, ∀ e' ∈ d.declared.anchors, e.1 = e'.1 → e.2 = e'.2) :
    d.Unambiguous where
  resource uri p q hp hq hresource hresource' := by
    have hmem := h.mem_resources_iff.mpr ⟨hp, identifies_iff.mpr (.inr hresource)⟩
    have hmem' := h.mem_resources_iff.mpr ⟨hq, identifies_iff.mpr (.inr hresource')⟩
    exact congrArg Place.pointer (hresources _ hmem _ hmem' rfl)
  anchor uri name p q hp hq hname hname' := by
    have hmem := h.mem_anchors_iff.mpr ⟨hp, hname⟩
    have hmem' := h.mem_anchors_iff.mpr ⟨hq, hname'⟩
    exact congrArg Place.pointer (hanchors _ hmem _ hmem' rfl)

/-! ## The same document in another order -/

/-- A path leads to the same value and the same base, in whichever order members are. -/
theorem Along.of_reordered {path : List String} (h : Along base v path b w) (hv : v.WellFormed)
    (hreordered : v.Reordered v') : ∃ w', Along base v' path b w' ∧ w.Reordered w' := by
  obtain ⟨w', hw', hresult⟩ := hreordered.exists_follow? h.follow
  have hv' := hreordered.wellFormed hv
  obtain ⟨y, hy, -⟩ := h.of_identical (hreordered.symm.identical hv') hv'
  obtain rfl : w' = y := Option.some.inj (hw'.symm.trans hy.follow)
  exact ⟨w', hy, hresult⟩

/-- Two documents under one URL differ at most in the order of members. -/
structure Reordered (d d' : Document) : Prop where
  uri : d'.uri = d.uri
  base : d'.base = d.base
  wellFormed : d.contents.WellFormed
  contents : d.contents.Reordered d'.contents

namespace Reordered

variable (h : d.Reordered d')

include h

theorem symm : d'.Reordered d :=
  ⟨h.uri.symm, h.base.symm, h.contents.wellFormed h.wellFormed, h.contents.symm⟩

theorem exists_at (hat : d.contents.at? p = some w) (hbase : d.baseAt p = .ok b) :
    ∃ w', d'.contents.at? p = some w' ∧ d'.baseAt p = .ok b ∧ w.Reordered w' := by
  obtain ⟨w', hw', hreordered⟩ := (along_iff.mpr ⟨hat, hbase⟩).of_reordered h.wellFormed h.contents
  rw [← h.base] at hw'
  obtain ⟨hat', hbase'⟩ := along_iff.mp hw'
  exact ⟨w', hat', hbase', hreordered⟩

theorem declaresResource (hdeclares : d.DeclaresResource uri p) : d'.DeclaresResource uri p := by
  obtain ⟨b, _, hat, hbase, members, id, url, rfl, hid, hurl⟩ := hdeclares
  obtain ⟨w', hat', hbase', hreordered⟩ := h.exists_at hat hbase
  cases hreordered with
  | object hkeys hmembers =>
      obtain ⟨id', hid', hsame⟩ := (Value.Reordered.object hkeys hmembers).exists_lookup hid
      rw [hsame.eq_string] at hid'
      exact ⟨b, _, hat', hbase', _, id, url, rfl, hid', hurl⟩

theorem identifies (hidentifies : d.Identifies uri p) : d'.Identifies uri p := by
  rw [identifies_iff, h.uri]
  exact (identifies_iff.mp hidentifies).imp_right h.declaresResource

theorem names (hnames : d.Names uri name p) : d'.Names uri name p := by
  obtain ⟨members, b, hat, hbase, hinside, hname⟩ := hnames
  obtain ⟨w', hat', hbase', hreordered⟩ := h.exists_at hat hbase
  have hwf : (Value.object members).WellFormed := h.wellFormed.of_follow? hat
  have hidentical := hreordered.identical hwf
  have hinside' := (baseInside_of_identical hidentical hwf b).symm.trans hinside
  have hstring (key text : String) : (Value.object members).get? key = some (.string text) ↔
      w'.get? key = some (.string text) := Value.get?_string_iff_of_identical hidentical hwf
  cases hreordered with
  | @object _ members' hkeys hmembers =>
      refine ⟨members', b, hat', hbase', hinside', hname.imp (hstring _ _).mp ?_⟩
      rintro ⟨hpointer, id, url, hid, hurl⟩
      exact ⟨hpointer, id, url, (hstring _ _).mp hid, hurl⟩

theorem unambiguous (hd : d.Unambiguous) : d'.Unambiguous where
  resource uri p q hp hq hresource hresource' :=
    hd.resource uri p q hp hq (h.symm.declaresResource hresource)
      (h.symm.declaresResource hresource')
  anchor uri name p q hp hq hname hname' :=
    hd.anchor uri name p q hp hq (h.symm.names hname) (h.symm.names hname')

/-- What is declared once is looked up where it is declared. -/
theorem lookup_resources (hd : d.WellRead) (hd' : d'.WellRead) (hunambiguous : d.Unambiguous)
    {place : Place} (hlookup : d.resources.lookup uri = some place) :
    d'.resources.lookup uri = some place := by
  by_cases hroot : uri = d.uri
  · rw [Document.resources, hroot, List.lookup_cons_self] at hlookup
    rw [Document.resources, h.uri, hroot, List.lookup_cons_self]
    exact hlookup
  · obtain ⟨document, p⟩ := place
    have hmem := mem_of_lookup hlookup
    obtain rfl : document = d.uri := document_of_mem_resources hmem
    obtain ⟨hp, hidentifies⟩ := hd.mem_resources_iff.mp hmem
    have hdeclares := (identifies_iff.mp hidentifies).resolve_left fun hp => hroot hp.2
    have honly (q : Pointer) (hne : q ≠ p) : ¬(q.Visited ∧ d'.Identifies uri q) := by
      rintro ⟨hq, hidentifies'⟩
      rw [identifies_iff, h.uri] at hidentifies'
      have hdeclares' := hidentifies'.resolve_left fun hq => hroot hq.2
      exact hne ((h.unambiguous hunambiguous).resource _ q p hq hp hdeclares'
        (h.declaresResource hdeclares))
    rw [← h.uri]
    exact (Registry.lookup_eq_iff_of_unique (fun _ => document_of_mem_resources)
      (fun _ => hd'.mem_resources_iff) honly).mpr ⟨hp, h.identifies hidentifies⟩

theorem lookup_anchors (hd : d.WellRead) (hd' : d'.WellRead) (hunambiguous : d.Unambiguous)
    {place : Place} (hlookup : d.declared.anchors.lookup (uri, name) = some place) :
    d'.declared.anchors.lookup (uri, name) = some place := by
  obtain ⟨document, p⟩ := place
  have hmem := mem_of_lookup hlookup
  obtain rfl : document = d.uri := d.within_declared.anchors _ hmem
  obtain ⟨hp, hnames⟩ := hd.mem_anchors_iff.mp hmem
  have honly (q : Pointer) (hne : q ≠ p) : ¬(q.Visited ∧ d'.Names uri name q) := by
    rintro ⟨hq, hnames'⟩
    exact hne ((h.unambiguous hunambiguous).anchor _ name q p hq hp hnames' (h.names hnames))
  rw [← h.uri]
  exact (Registry.lookup_eq_iff_of_unique d'.within_declared.anchors
    (fun _ => hd'.mem_anchors_iff) honly).mpr ⟨hp, h.names hnames⟩

theorem declaresAlike (hd : d.WellRead) (hd' : d'.WellRead) (hunambiguous : d.Unambiguous)
    (base : Url) (reference : String) : Registry.DeclaresAlike d d' base reference where
  known _ place _ hlookup := ⟨place, h.lookup_resources hd hd' hunambiguous hlookup⟩
  resource _ _ _ _ := h.lookup_resources hd hd' hunambiguous
  anchor _ _ _ _ _ _ := h.lookup_anchors hd hd' hunambiguous

end Reordered
end Document

/-! ## The walk -/

namespace Declarations

variable {base b : Url} {place p : Place} {v v' w : Value}

/-- The walk comes to the same positions, with the same bases. -/
theorem Scanned.of_reordered (h : Scanned base place v b p w) (hv : v.WellFormed)
    (hreordered : v.Reordered v') : ∃ w', Scanned base place v' b p w' ∧ w.Reordered w' := by
  induction h generalizing v' with
  | here => exact ⟨v', .here, hreordered⟩
  | @member base inner place members own key v b p w hinner hmem hdata _ ih =>
      have hidentical := hreordered.identical hv
      have hstring (key text : String) : (Value.object members).get? key = some (.string text) ↔
          v'.get? key = some (.string text) := Value.get?_string_iff_of_identical hidentical hv
      cases hreordered with
      | @object _ members' hkeys hmembers =>
          obtain ⟨x', hx', hsame⟩ :=
            (Value.Reordered.object hkeys hmembers).exists_lookup (hv.lookup hmem)
          obtain ⟨w', hscanned, hresult⟩ := ih (hv.of_mem hmem) hsame
          have hinner' := (ofObject_congr (hstring "$id") (hstring "$anchor")).symm.trans hinner
          exact ⟨w', .member hinner' (mem_of_lookup hx') hdata hscanned, hresult⟩
  | @item base place items i v b p w hi _ ih =>
      have hitem := Value.wellFormedItems_iff.mp hv _ (List.mem_of_getElem? hi)
      cases hreordered with
      | @array _ items' hlength hitems =>
          have hlt : i < items'.length := hlength ▸ (List.getElem?_eq_some_iff.mp hi).1
          have hi' := List.getElem?_eq_getElem hlt
          obtain ⟨w', hscanned, hresult⟩ := ih hitem (hitems i v _ hi hi')
          exact ⟨w', .item hi' hscanned, hresult⟩

theorem Unresolvable.of_reordered (h : Unresolvable base place v) (hv : v.WellFormed)
    (hreordered : v.Reordered v') : Unresolvable base place v' := by
  obtain ⟨b, p, members, id, fault, hscanned, hid, hjoin⟩ := h
  obtain ⟨w', hscanned', hresult⟩ := hscanned.of_reordered hv hreordered
  cases hresult with
  | object hkeys hmembers =>
      obtain ⟨id', hid', hsame⟩ := (Value.Reordered.object hkeys hmembers).exists_lookup hid
      rw [hsame.eq_string] at hid'
      exact ⟨b, p, _, id, fault, hscanned', hid', hjoin⟩

end Declarations
end JsonSchema
