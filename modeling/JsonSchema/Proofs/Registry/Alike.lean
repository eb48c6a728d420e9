import JsonSchema.Proofs.Registry.History
import JsonSchema.Proofs.Registry.Single

/-!
# Registries with the same indexes

Where a reference leads to is a matter of the indexes, unless its fragment is a pointer. So
registries that have the same indexes and documents under the same URLs give the same answers,
whatever is in the documents, and they stay so when both of them grow.
-/

namespace JsonSchema

namespace Registry

variable {r r' : Registry} {retriever : Retriever} {base url : Url} {reference : String}

/-! ## Well-formed documents -/

/-- An operation other than a build, with documents that have no key twice. -/
def Operation.Simple : Operation → Prop
  | .insert _ contents => contents.WellFormed
  | .load retriever _ => retriever.WellFormed
  | .get _ => True
  | .resolve retriever _ _ => retriever.WellFormed
  | .build .. => False

theorem wellFormed_run {op : Operation} (h : r.WellFormed) (hop : op.Simple) :
    (op.run r).WellFormed := by
  cases op with
  | insert uri contents => exact wellFormed_insert uri h hop
  | load retriever uri => exact wellFormed_load uri h hop
  | get _ => exact h
  | resolve retriever base reference => exact wellFormed_resolve base reference h hop
  | build => exact hop.elim

theorem wellFormed_after {history : List Operation} (h : r.WellFormed)
    (hhistory : ∀ op ∈ history, op.Simple) : (r.after history).WellFormed := by
  induction history generalizing r with
  | nil => exact h
  | cons op history ih =>
      obtain ⟨hop, hhistory⟩ := List.forall_mem_cons.mp hhistory
      exact ih (wellFormed_run h hop) hhistory

/-! ## Places -/

/-- A reference leads to where it is located, unless its fragment is a pointer: then there may be
nothing. -/
theorem placeOf_eq_locate (h : Evolves {} r) (hr : r.WellFormed) (hretriever : retriever.WellFormed)
    (hjoin : base.join reference = .ok url)
    (hpointer : (url.fragment.getD "").toList.head? ≠ some '/') :
    r.placeOf retriever base reference = (r.resource retriever url.withoutFragment).1.bind
      ((r.resource retriever url.withoutFragment).2.locate base reference url.withoutFragment
        (url.fragment.getD "")) := by
  simp only [placeOf, resolve, hjoin]
  cases hresource : r.resource retriever url.withoutFragment with
  | mk result mid =>
      cases result with
      | error e => rfl
      | ok resource =>
          obtain ⟨hlookup, hindexed, hsound⟩ := h.sound_of_resource hr hretriever hresource
          dsimp only [Except.bind]
          cases hlocate : mid.locate base reference url.withoutFragment (url.fragment.getD "")
              resource with
          | error e => rfl
          | ok place =>
              obtain ⟨-, htarget⟩ := hsound.document_of_locate hindexed hlookup hlocate
              obtain ⟨t, ht, rfl⟩ := htarget hpointer
              dsimp only
              rw [target_of_isTarget ht]
              rfl

/-! ## Two registries -/

/-- Two registries have documents under the same URLs and the same indexes, and have asked for the
same documents. -/
structure Alike (r r' : Registry) : Prop where
  uris : r.documents.map Document.uri = r'.documents.map Document.uri
  resources : r.resources = r'.resources
  anchors : r.anchors = r'.anchors
  asked : r.asked = r'.asked

/-- Outcomes that differ in a document at most. -/
structure AlikeOutcome {α : Type} (x y : Except ResolutionError α × Registry) : Prop where
  alike : Alike x.2 y.2
  outcome : x.1.map (fun _ => ()) = y.1.map fun _ => ()

theorem isSome_find? (r : Registry) (uri : Url) :
    (r.find? uri).isSome ↔ uri ∈ r.documents.map Document.uri := by
  simp [find?]

/-- Documents under one URL that declare the same are kept alike. -/
theorem Alike.add (h : Alike r r') {d d' : Document} (huri : d.uri = d'.uri)
    (hdeclared : Declarations.ofValue d.base ⟨d.uri, .root⟩ d.contents =
      Declarations.ofValue d'.base ⟨d'.uri, .root⟩ d'.contents) :
    AlikeOutcome (r.add d) (r'.add d') := by
  unfold Registry.add
  rw [← hdeclared]
  split
  · refine ⟨⟨?_, ?_, ?_, h.asked⟩, rfl⟩
    · simp [h.uris, huri]
    · simp [keep, h.resources, huri]
    · simp [keep, h.anchors]
  · exact ⟨h, rfl⟩

theorem Alike.find?_cases (h : Alike r r') (uri : Url) :
    (∃ d d', r.find? uri = some d ∧ r'.find? uri = some d') ∨
      r.find? uri = none ∧ r'.find? uri = none := by
  have hsome : (r.find? uri).isSome ↔ (r'.find? uri).isSome := by
    rw [isSome_find?, isSome_find?, h.uris]
  cases hd : r.find? uri with
  | some d =>
      obtain ⟨d', hd'⟩ := Option.isSome_iff_exists.mp (hsome.mp (by rw [hd]; rfl))
      exact .inl ⟨d, d', rfl, hd'⟩
  | none =>
      refine .inr ⟨rfl, ?_⟩
      rw [← Option.not_isSome_iff_eq_none, ← hsome, hd]
      exact Bool.false_ne_true

theorem Alike.insert (h : Alike r r') (uri : Url) {v v' : Value}
    (hdeclared : ∀ base place, Declarations.ofValue base place v =
      Declarations.ofValue base place v') :
    AlikeOutcome (r.insert uri v) (r'.insert uri v') := by
  unfold Registry.insert insertAt get?
  rcases h.find?_cases uri.withoutFragment with ⟨d, d', hd, hd'⟩ | ⟨hd, hd'⟩
  · rw [hd, hd']
    exact ⟨h, rfl⟩
  · rw [hd, hd']
    exact h.add rfl (hdeclared _ _)

theorem Alike.load (h : Alike r r') (retriever : Retriever) (uri : Url) :
    AlikeOutcome (r.load retriever uri) (r'.load retriever uri) := by
  unfold Registry.load
  dsimp only
  rcases h.find?_cases uri.withoutFragment with ⟨d, d', hd, hd'⟩ | ⟨hd, hd'⟩
  · rw [hd, hd']
    exact ⟨h, rfl⟩
  · have hasked : Alike { r with asked := uri.withoutFragment :: r.asked }
        { r' with asked := uri.withoutFragment :: r'.asked } :=
      ⟨h.uris, h.resources, h.anchors, congrArg (uri.withoutFragment :: ·) h.asked⟩
    rw [hd, hd']
    dsimp only
    split
    · exact hasked.add rfl rfl
    · exact ⟨hasked, rfl⟩

theorem Alike.resource (h : Alike r r') (retriever : Retriever) (uri : Url) :
    (r.resource retriever uri).1 = (r'.resource retriever uri).1 ∧
      Alike (r.resource retriever uri).2 (r'.resource retriever uri).2 := by
  obtain ⟨hload, hresult⟩ := h.load retriever uri
  unfold Registry.resource
  rw [← h.resources]
  split
  · exact ⟨rfl, h⟩
  · generalize r.load retriever uri = x at hload hresult
    generalize r'.load retriever uri = y at hload hresult
    match x, y with
    | (.error e, mid), (.error e', mid') =>
        obtain rfl : e = e' := by simpa [Except.map] using hresult
        exact ⟨rfl, hload⟩
    | (.ok d, mid), (.ok d', mid') =>
        have hresources : mid.resources = mid'.resources := hload.resources
        exact ⟨by simp [hresources], hload⟩
    | (.error _, _), (.ok _, _) => simp [Except.map] at hresult
    | (.ok _, _), (.error _, _) => simp [Except.map] at hresult

theorem Alike.locate (h : Alike r r') (base : Url) (reference : String) (uri : Url)
    (fragment : String) (resource : Place) :
    r.locate base reference uri fragment resource =
      r'.locate base reference uri fragment resource := by
  unfold Registry.locate
  rw [h.anchors]

theorem Alike.resolve (h : Alike r r') (retriever : Retriever) (base : Url) (reference : String) :
    Alike (r.resolve retriever base reference).2 (r'.resolve retriever base reference).2 := by
  unfold Registry.resolve
  split
  · exact h
  · rename_i url _
    obtain ⟨hresult, hmid⟩ := h.resource retriever url.withoutFragment
    dsimp only
    generalize r.resource retriever url.withoutFragment = x at hresult hmid
    generalize r'.resource retriever url.withoutFragment = y at hresult hmid
    obtain ⟨x, mid⟩ := x
    obtain ⟨y, mid'⟩ := y
    obtain rfl : x = y := hresult
    cases x with
    | error e => exact hmid
    | ok resource =>
        have hmid : Alike mid mid' := hmid
        dsimp only
        rw [← hmid.locate]
        split
        · exact hmid
        · rename_i place _
          rw [snd_target, snd_target]
          exact (hmid.load retriever place.document).alike

theorem Alike.run (h : Alike r r') {op : Operation} (hop : op.Simple) :
    Alike (op.run r) (op.run r') := by
  cases op with
  | insert uri contents => exact (h.insert uri fun _ _ => rfl).alike
  | load retriever uri => exact (h.load retriever uri).alike
  | get _ => exact h
  | resolve retriever base reference => exact h.resolve retriever base reference
  | build => exact hop.elim

/-- Registries that are alike stay alike. -/
theorem Alike.after (h : Alike r r') {history : List Operation}
    (hhistory : ∀ op ∈ history, op.Simple) : Alike (r.after history) (r'.after history) := by
  induction history generalizing r r' with
  | nil => exact h
  | cons op history ih =>
      obtain ⟨hop, hhistory⟩ := List.forall_mem_cons.mp hhistory
      exact ih (h.run hop) hhistory

/-- In registries that are alike a reference leads to the same place, unless its fragment is a
pointer. -/
theorem Alike.placeOf_eq (h : Alike r r') (hr : Evolves {} r) (hr' : Evolves {} r')
    (hwf : r.WellFormed) (hwf' : r'.WellFormed) (hretriever : retriever.WellFormed)
    (hpointer : ∀ url, base.join reference = .ok url →
      (url.fragment.getD "").toList.head? ≠ some '/') :
    r.placeOf retriever base reference = r'.placeOf retriever base reference := by
  cases hjoin : base.join reference with
  | error e => simp [placeOf, Registry.resolve, hjoin]
  | ok url =>
      obtain ⟨hresult, hmid⟩ := h.resource retriever url.withoutFragment
      rw [placeOf_eq_locate hr hwf hretriever hjoin (hpointer url hjoin),
        placeOf_eq_locate hr' hwf' hretriever hjoin (hpointer url hjoin), hresult]
      congr 1
      funext resource
      exact hmid.locate base reference _ _ resource

/-- References without pointers lead to the same places, now and after the same operations on
both. -/
def SamePlaces (r r' : Registry) : Prop :=
  ∀ history, (∀ op ∈ history, Operation.Simple op) → ∀ retriever base reference,
    Retriever.WellFormed retriever →
      (∀ url, base.join reference = .ok url → (url.fragment.getD "").toList.head? ≠ some '/') →
        (r.after history).placeOf retriever base reference =
          (r'.after history).placeOf retriever base reference

theorem Alike.samePlaces (h : Alike r r') (hr : Evolves {} r) (hr' : Evolves {} r')
    (hwf : r.WellFormed) (hwf' : r'.WellFormed) : r.SamePlaces r' := by
  intro history hhistory retriever base reference hretriever hpointer
  exact (h.after hhistory).placeOf_eq (Relation.ReflTransGen.trans hr (evolves_after r history))
    (Relation.ReflTransGen.trans hr' (evolves_after r' history)) (wellFormed_after hwf hhistory)
    (wellFormed_after hwf' hhistory) hretriever hpointer

end Registry
end JsonSchema
