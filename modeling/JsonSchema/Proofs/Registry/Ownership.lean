import JsonSchema.Proofs.Registry.Resolution
import JsonSchema.Proofs.Registry.Scan

/-!
# Whose declaration an index holds

Everything a document declares is a place in it, and an index holds the first declaration of a key.
So a key belongs to a document exactly if the document declares it and no document before it does.
-/

namespace JsonSchema

namespace Declarations

/-- All that is declared are places in one document. -/
structure Within (declared : Declarations) (document : Url) : Prop where
  resources : ∀ e ∈ declared.resources, e.2.document = document
  anchors : ∀ e ∈ declared.anchors, e.2.document = document

theorem within_empty (document : Url) : Within {} document := by
  constructor <;> simp

theorem Within.append {a b : Declarations} {document : Url} (ha : a.Within document)
    (hb : b.Within document) : (a ++ b).Within document :=
  ⟨fun e he => (List.mem_append.mp he).elim (ha.resources e) (hb.resources e),
    fun e he => (List.mem_append.mp he).elim (ha.anchors e) (hb.anchors e)⟩

/-- What an object declares of itself is at its place. -/
theorem SelfDeclared.eq_place {base inner : Url} {place : Place} {members : List (String × Value)}
    {own : Declarations} (h : SelfDeclared base place members inner own) :
    (∀ e ∈ own.resources, e.2 = place) ∧ ∀ e ∈ own.anchors, e.2 = place := by
  constructor
  · rcases h.id with ⟨id, url, -, -, -, hresources⟩ | ⟨-, -, hresources⟩ <;> rw [hresources]
    · split <;> simp
    · simp
  · intro e he
    obtain ⟨name, rfl, -⟩ := (h.anchors e).mp he
    rfl

theorem SelfDeclared.within {base inner : Url} {place : Place} {members : List (String × Value)}
    {own : Declarations} (h : SelfDeclared base place members inner own) :
    own.Within place.document :=
  ⟨fun e he => congrArg Place.document (h.eq_place.1 e he),
    fun e he => congrArg Place.document (h.eq_place.2 e he)⟩

/-- What a value at a place declares are places in the same document. -/
theorem within_of_ofValue {base : Url} {place : Place} {v : Value} {declared : Declarations}
    (h : ofValue base place v = .ok declared) : declared.Within place.document := by
  refine of_scanned (P := fun d => d.Within place.document) (within_empty _)
    (fun _ _ => Within.append) base place v declared h ?_
  intro b p members inner own hscanned hown
  exact hscanned.document_eq ▸ (selfDeclared_of_ofObject hown).within

end Declarations

namespace Document

theorem within_declared (d : Document) : d.declared.Within d.uri := by
  unfold declared
  split
  · rename_i h
    exact Declarations.within_of_ofValue h
  · exact Declarations.within_empty _

theorem document_of_mem_resources {d : Document} {e : Url × Place} (h : e ∈ d.resources) :
    e.2.document = d.uri := by
  rcases List.mem_cons.mp h with rfl | h
  · rfl
  · exact d.within_declared.resources e h

end Document

namespace Registry

variable {r : Registry}

/-- In an index of documents with different URLs, a place is in a document exactly if that document
has the key and none before it has. -/
theorem document_eq_iff {κ : Type} [BEq κ] [LawfulBEq κ] {f : Document → List (κ × Place)}
    (hf : ∀ d, ∀ e ∈ f d, e.2.document = d.uri) {before after : List Document} {d : Document}
    (hdistinct : ((before ++ d :: after).map Document.uri).Nodup) {key : κ} {place : Place}
    (h : ((before ++ d :: after).flatMap f).lookup key = some place) :
    place.document = d.uri ↔
      key ∈ (f d).map Prod.fst ∧ ∀ e ∈ before, key ∉ (f e).map Prod.fst := by
  have howner {documents : List Document} (hl : (documents.flatMap f).lookup key = some place) :
      ∃ e ∈ documents, key ∈ (f e).map Prod.fst ∧ place.document = e.uri := by
    obtain ⟨e, he, hmem⟩ := List.mem_flatMap.mp (mem_of_lookup hl)
    exact ⟨e, he, List.mem_map_of_mem hmem, hf e _ hmem⟩
  rw [List.map_append, List.map_cons, List.nodup_append] at hdistinct
  obtain ⟨-, hafter, hbefore⟩ := hdistinct
  rw [List.flatMap_append, List.flatMap_cons, List.lookup_append, List.lookup_append] at h
  cases hl : (before.flatMap f).lookup key with
  | some place' =>
      rw [hl] at h
      obtain rfl : place' = place := by simpa using h
      obtain ⟨e, he, hkey, hdocument⟩ := howner hl
      have hne : e.uri ≠ d.uri := hbefore _ (List.mem_map_of_mem he) _ List.mem_cons_self
      exact ⟨fun hd => absurd (hdocument.symm.trans hd) hne, fun hd => absurd hkey (hd.2 e he)⟩
  | none =>
      have hnone : ∀ e ∈ before, key ∉ (f e).map Prod.fst := by
        intro e he hkey
        obtain ⟨entry, hentry, rfl⟩ := List.mem_map.mp hkey
        have hmem : entry ∈ before.flatMap f := List.mem_flatMap.mpr ⟨e, he, hentry⟩
        exact absurd (List.lookup_eq_none_iff.mp hl entry hmem) (by simp)
      rw [hl, Option.none_or] at h
      cases hd : (f d).lookup key with
      | some place' =>
          rw [hd] at h
          obtain rfl : place' = place := by simpa using h
          have hmem := mem_of_lookup hd
          exact ⟨fun _ => ⟨List.mem_map_of_mem hmem, hnone⟩, fun _ => hf d _ hmem⟩
      | none =>
          rw [hd, Option.none_or] at h
          obtain ⟨e, he, -, hdocument⟩ := howner h
          have hne : e.uri ≠ d.uri := fun heq =>
            (List.nodup_cons.mp hafter).1 (heq ▸ List.mem_map_of_mem he)
          refine ⟨fun hdoc => absurd (hdocument.symm.trans hdoc) hne, fun ⟨hkey, _⟩ => ?_⟩
          obtain ⟨entry, hentry, rfl⟩ := List.mem_map.mp hkey
          exact absurd (List.lookup_eq_none_iff.mp hd entry hentry) (by simp)

end Registry
end JsonSchema
