import JsonSchema.Registry.Reference
import Mathlib.Logic.Relation

/-!
# How a registry grows

All that a registry does is to ask a retriever and to keep documents that are new to it. What it
keeps is never changed, so its lists only get longer, and its indexes are those of its documents in
the order in which they came.
-/

namespace JsonSchema

namespace Document

/-- What a document declares. -/
def declared (d : Document) : Declarations :=
  match Declarations.ofValue d.base ⟨d.uri, .root⟩ d.contents with
  | .ok declared => declared
  | .error _ => {}

/-- The resources of a document: the whole of it under its own URL, then what it declares. -/
def resources (d : Document) : List (Url × Place) :=
  (d.uri, ⟨d.uri, .root⟩) :: d.declared.resources

end Document

namespace Registry

variable {r r' r'' : Registry}

/-! ## Adding to an index -/

theorem prefix_addNew {α β : Type} [BEq α] (entries : List (α × β)) (entry : α × β) :
    entries <+: addNew entries entry := by
  unfold addNew
  split
  · exact List.prefix_refl _
  · exact List.prefix_append _ _

theorem prefix_foldl_addNew {α β : Type} [BEq α] (entries new : List (α × β)) :
    entries <+: new.foldl addNew entries := by
  induction new generalizing entries with
  | nil => exact List.prefix_refl _
  | cons entry new ih => exact (prefix_addNew entries entry).trans (ih _)

theorem lookup_addNew {α β : Type} [BEq α] [LawfulBEq α] (entries : List (α × β)) (entry : α × β)
    (key : α) : (addNew entries entry).lookup key = (entries ++ [entry]).lookup key := by
  unfold addNew
  split
  · rename_i hsome
    rw [List.lookup_append]
    obtain ⟨name, b⟩ := entry
    by_cases hkey : key = name
    · obtain ⟨b', hb⟩ := Option.isSome_iff_exists.mp hsome
      rw [hkey, hb]
      rfl
    · have hne : (key == name) = false := by simpa using hkey
      simp [List.lookup_cons, hne]
  · rfl

/-- Entries added one by one are found as if they had all been put behind. -/
theorem lookup_foldl_addNew {α β : Type} [BEq α] [LawfulBEq α] (entries new : List (α × β))
    (key : α) : (new.foldl addNew entries).lookup key = (entries ++ new).lookup key := by
  induction new generalizing entries with
  | nil => simp
  | cons entry new ih =>
      rw [List.foldl_cons, ih, List.lookup_append, lookup_addNew, ← List.lookup_append,
        List.append_assoc]
      rfl

@[simp] theorem documents_keep (r : Registry) (d : Document) (declared : Declarations) :
    (r.keep d declared).documents = r.documents ++ [d] := rfl

/-! ## Steps -/

/-- A registry asks a retriever for a document that it does not have, or keeps one that is new to
it. -/
inductive Step : Registry → Registry → Prop
  | ask {r uri} (fresh : r.find? uri = none) : Step r { r with asked := uri :: r.asked }
  | keep {r d declared} (fresh : r.find? d.uri = none) (bare : d.uri.withoutFragment = d.uri)
      (bareBase : d.base.withoutFragment = d.base)
      (h : Declarations.ofValue d.base ⟨d.uri, .root⟩ d.contents = .ok declared) :
      Step r (r.keep d declared)

/-- A registry has become another one step by step. -/
abbrev Evolves : Registry → Registry → Prop := Relation.ReflTransGen Step

theorem evolves_add {d : Document} (fresh : r.find? d.uri = none)
    (bare : d.uri.withoutFragment = d.uri) (bareBase : d.base.withoutFragment = d.base) :
    Evolves r (r.add d).2 := by
  unfold add
  split
  · rename_i declared h
    exact .single (.keep fresh bare bareBase h)
  · exact .refl

theorem evolves_insertAt (uri base : Url) (contents : Value) :
    Evolves r (r.insertAt uri base contents).2 := by
  unfold insertAt
  split
  · exact .refl
  · rename_i hfresh
    exact evolves_add hfresh uri.withoutFragment_withoutFragment
      base.withoutFragment_withoutFragment

theorem evolves_load (retriever : Retriever) (uri : Url) : Evolves r (r.load retriever uri).2 := by
  unfold load
  simp only
  split
  · exact .refl
  · rename_i hfresh
    have hask := Relation.ReflTransGen.single (Step.ask hfresh)
    have hbare := uri.withoutFragment_withoutFragment
    split
    · exact hask.trans (evolves_add hfresh hbare hbare)
    · exact hask

theorem evolves_resource (retriever : Retriever) (uri : Url) :
    Evolves r (r.resource retriever uri).2 := by
  have hload := evolves_load (r := r) retriever uri
  unfold resource
  split
  · exact .refl
  · split <;> simp_all

theorem evolves_target (retriever : Retriever) (place : Place) :
    Evolves r (r.target retriever place).2 := by
  have hload := evolves_load (r := r) retriever place.document
  unfold target
  split
  · simp_all
  · split <;> simp_all

theorem evolves_resolve (retriever : Retriever) (base : Url) (reference : String) :
    Evolves r (r.resolve retriever base reference).2 := by
  unfold resolve
  split
  · exact .refl
  · rename_i url _
    have hresource := evolves_resource (r := r) retriever url.withoutFragment
    simp only
    split
    · simp_all
    · rename_i resource r' h
      simp only [h] at hresource
      split
      · exact hresource
      · exact hresource.trans (evolves_target retriever _)

/-! ## Growth -/

/-- A registry keeps all that another one has. -/
structure Grows (r r' : Registry) : Prop where
  documents : r.documents <+: r'.documents
  resources : r.resources <+: r'.resources
  anchors : r.anchors <+: r'.anchors

theorem Grows.refl (r : Registry) : Grows r r :=
  ⟨List.prefix_refl _, List.prefix_refl _, List.prefix_refl _⟩

theorem Grows.trans (h : Grows r r') (h' : Grows r' r'') : Grows r r'' :=
  ⟨h.documents.trans h'.documents, h.resources.trans h'.resources, h.anchors.trans h'.anchors⟩

theorem Step.grows (h : Step r r') : Grows r r' := by
  cases h with
  | ask => exact ⟨List.prefix_refl _, List.prefix_refl _, List.prefix_refl _⟩
  | keep =>
      exact ⟨List.prefix_append _ _, (prefix_addNew _ _).trans (prefix_foldl_addNew _ _),
        prefix_foldl_addNew _ _⟩

theorem Evolves.grows (h : Evolves r r') : Grows r r' := by
  induction h with
  | refl => exact .refl r
  | tail _ hstep ih => exact ih.trans hstep.grows

theorem Grows.find? (h : Grows r r') {uri : Url} {d : Document} (hd : r.find? uri = some d) :
    r'.find? uri = some d :=
  h.documents.find?_eq_some hd

/-! ## Indexes -/

/-- The documents have different URLs, and the indexes are those of the documents. -/
structure WellIndexed (r : Registry) : Prop where
  bare : ∀ d ∈ r.documents, d.uri.withoutFragment = d.uri
  bareBase : ∀ d ∈ r.documents, d.base.withoutFragment = d.base
  distinct : (r.documents.map Document.uri).Nodup
  lookup_resources : ∀ uri,
    r.resources.lookup uri = (r.documents.flatMap Document.resources).lookup uri
  lookup_anchors : ∀ key,
    r.anchors.lookup key = (r.documents.flatMap fun d => d.declared.anchors).lookup key

theorem wellIndexed_empty : WellIndexed {} := by
  constructor <;> simp

theorem lookup_append_congr {α β : Type} [BEq α] {l l' : List (α × β)} (new : List (α × β))
    {key : α} (h : l.lookup key = l'.lookup key) :
    (l ++ new).lookup key = (l' ++ new).lookup key := by
  rw [List.lookup_append, List.lookup_append, h]

theorem Step.wellIndexed (h : Step r r') (hr : WellIndexed r) : WellIndexed r' := by
  cases h with
  | ask => exact ⟨hr.bare, hr.bareBase, hr.distinct, hr.lookup_resources, hr.lookup_anchors⟩
  | @keep d declared fresh bare bareBase h =>
      have hdeclared : d.declared = declared := by simp [Document.declared, h]
      have hall {P : Document → Prop} (hold : ∀ e ∈ r.documents, P e) (hnew : P d) :
          ∀ e ∈ (r.keep d declared).documents, P e := by
        simpa [or_imp, forall_and] using ⟨hold, hnew⟩
      refine ⟨hall hr.bare bare, hall hr.bareBase bareBase, ?_, ?_, ?_⟩
      · have hnew : ∀ e ∈ r.documents, e.uri ≠ d.uri := by
          simpa [Registry.find?] using fresh
        rw [documents_keep, List.map_append, List.map_singleton, List.nodup_append]
        exact ⟨hr.distinct, by simp, by simpa using hnew⟩
      · intro uri
        rw [show (r.keep d declared).resources = (d.resources).foldl addNew r.resources by
          rw [Document.resources, hdeclared]; rfl, lookup_foldl_addNew]
        simpa using lookup_append_congr d.resources (hr.lookup_resources uri)
      · intro key
        rw [show (r.keep d declared).anchors = (d.declared.anchors).foldl addNew r.anchors by
          rw [hdeclared]; rfl, lookup_foldl_addNew]
        simpa using lookup_append_congr d.declared.anchors (hr.lookup_anchors key)

theorem Evolves.wellIndexed (h : Evolves r r') (hr : WellIndexed r) : WellIndexed r' := by
  induction h with
  | refl => exact hr
  | tail _ hstep ih => exact hstep.wellIndexed ih

theorem WellIndexed.find?_of_mem (hr : WellIndexed r) {d : Document} (hd : d ∈ r.documents) :
    r.find? d.uri = some d := by
  obtain ⟨before, after, hdocuments⟩ := List.append_of_mem hd
  have hdistinct := hr.distinct
  rw [hdocuments, List.map_append, List.map_cons, List.nodup_append] at hdistinct
  have hne : ∀ e ∈ before, e.uri ≠ d.uri := fun e he =>
    hdistinct.2.2 e.uri (List.mem_map_of_mem he) d.uri List.mem_cons_self
  have hbefore : before.find? (·.uri == d.uri) = none := by simpa using hne
  simp [find?, hdocuments, List.find?_append, hbefore]

/-- The URL of a document that is kept is the URL of a resource. -/
theorem WellIndexed.exists_resource (hr : WellIndexed r) {uri : Url} {d : Document}
    (h : r.find? uri = some d) : ∃ place, r.resources.lookup uri = some place := by
  have huri : d.uri = uri := by simpa using List.find?_some h
  have hmem : (d.uri, ⟨d.uri, .root⟩) ∈ r.documents.flatMap Document.resources :=
    List.mem_flatMap.mpr ⟨d, List.mem_of_find?_eq_some h, by simp [Document.resources]⟩
  rw [hr.lookup_resources, ← Option.isSome_iff_exists, List.lookup_isSome_iff]
  exact ⟨_, hmem, by simp [huri]⟩

end Registry
end JsonSchema
