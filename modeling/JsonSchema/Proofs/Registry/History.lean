import JsonSchema.Proofs.Registry.Soundness

/-!
# Answers are final

What a registry has answered once it answers again, whatever is done in between and whatever the
retriever would say by then. A document that could not be had leaves nothing behind but the
question.
-/

namespace JsonSchema

namespace Registry

/-- What can be asked of a registry. Each operation comes with the retriever of its time. -/
inductive Operation
  | insert (uri : Url) (contents : Value)
  | load (retriever : Retriever) (uri : Url)
  | get (uri : Url)
  | resolve (retriever : Retriever) (base : Url) (reference : String)
  | build (o : Options) (retriever : Retriever) (steps : Registry → Nat) (schema : Value)

/-- The registry after an operation. -/
def Operation.run (r : Registry) : Operation → Registry
  | .insert uri contents => (r.insert uri contents).2
  | .load retriever uri => (r.load retriever uri).2
  | .get _ => r
  | .resolve retriever base reference => (r.resolve retriever base reference).2
  | .build o retriever steps schema => (o.buildWith retriever steps r schema).2

/-- The registry after one operation after the other. -/
def after (r : Registry) (history : List Operation) : Registry := history.foldl Operation.run r

variable {r r' R : Registry} {retriever : Retriever} {uri : Url} {d : Document}

/-! ## What operations leave -/

theorem evolves_run (r : Registry) (op : Operation) : Evolves r (op.run r) := by
  cases op with
  | insert uri contents => exact evolves_insertAt uri uri contents
  | load retriever uri => exact evolves_load retriever uri
  | get _ => exact .refl
  | resolve retriever base reference => exact evolves_resolve retriever base reference
  | build o retriever steps schema => exact o.evolves_buildWith retriever steps schema

theorem evolves_after (r : Registry) (history : List Operation) :
    Evolves r (r.after history) := by
  induction history generalizing r with
  | nil => exact .refl
  | cons op history ih => exact (evolves_run r op).trans (ih (op.run r))

/-- Histories come to the registries that can be reached. -/
theorem reachable_after (h : r.Reachable) (history : List Operation) :
    (r.after history).Reachable := by
  induction history generalizing r with
  | nil => exact h
  | cons op history ih =>
      apply ih
      cases op with
      | insert uri contents => exact .insert uri contents h
      | load retriever uri => exact .load retriever uri h
      | get _ => exact h
      | resolve retriever base reference => exact .resolve retriever base reference h
      | build o retriever steps schema => exact .build o retriever steps schema h

theorem Step.exists_asked (h : Step r r') (hd : r.find? uri = some d) :
    ∃ new, r'.asked = new ++ r.asked ∧ uri ∉ new := by
  cases h with
  | @ask asked fresh =>
      refine ⟨[asked], rfl, ?_⟩
      intro hmem
      rw [← List.mem_singleton.mp hmem, hd] at fresh
      cases fresh
  | keep => exact ⟨[], rfl, List.not_mem_nil⟩

/-- No retriever is asked for a document that is kept. -/
theorem Evolves.exists_asked (h : Evolves r r') (hd : r.find? uri = some d) :
    ∃ new, r'.asked = new ++ r.asked ∧ uri ∉ new := by
  induction h with
  | refl => exact ⟨[], rfl, List.not_mem_nil⟩
  | tail hevolves hstep ih =>
      obtain ⟨new, hnew, hmem⟩ := ih
      obtain ⟨more, hmore, hmem'⟩ := hstep.exists_asked (Evolves.grows hevolves |>.find? hd)
      refine ⟨more ++ new, ?_, ?_⟩
      · rw [hmore, hnew, List.append_assoc]
      · simp [hmem, hmem']

/-! ## Documents that are had -/

/-- A URL stands for a document from now on: it is what `get?`, `load` and `insert` answer for the
URL with any fragment, and no retriever is asked for it. -/
structure Settled (r : Registry) (uri : Url) (d : Document) : Prop where
  get : ∀ history uri', uri'.withoutFragment = uri.withoutFragment →
    (r.after history).get? uri' = some d
  load : ∀ history retriever uri', uri'.withoutFragment = uri.withoutFragment →
    (r.after history).load retriever uri' = (.ok d, r.after history)
  insert : ∀ history uri' contents, uri'.withoutFragment = uri.withoutFragment →
    (r.after history).insert uri' contents = (.ok d, r.after history)
  asked : ∀ history, ∃ new, (r.after history).asked = new ++ r.asked ∧ uri.withoutFragment ∉ new

theorem settled_of_get? (h : r.get? uri = some d) : r.Settled uri d := by
  have hget (history : List Operation) (uri' : Url)
      (huri : uri'.withoutFragment = uri.withoutFragment) :
      (r.after history).get? uri' = some d := by
    rw [get?, huri]
    exact (evolves_after r history).grows.find? h
  constructor
  · exact hget
  · intro history retriever uri' huri
    exact load_of_get? (hget history uri' huri)
  · intro history uri' contents huri
    simp only [Registry.insert, insertAt, hget history uri' huri]
  · intro history
    exact (evolves_after r history).exists_asked h

/-! ## Documents that are not had -/

/-- A document that would be kept under a URL has an `$id` that joins to no URL. -/
def Refuses (uri : Url) (contents : Value) : Prop :=
  Declarations.Unresolvable uri.withoutFragment ⟨uri.withoutFragment, .root⟩ contents

/-- An operation has kept nothing: all that another registry can differ in is what was asked. The
URL is free, and as long as it is, whatever can be read will be kept under it. -/
structure Unaffected (r r' : Registry) (uri : Url) : Prop where
  documents : r'.documents = r.documents
  resources : r'.resources = r.resources
  anchors : r'.anchors = r.anchors
  free : r'.get? uri = none
  insert : ∀ history contents, (r'.after history).get? uri = none → ¬Refuses uri contents →
    ((r'.after history).insert uri contents).1 =
      .ok ⟨uri.withoutFragment, uri.withoutFragment, contents⟩
  load : ∀ history retriever contents, (r'.after history).get? uri = none →
    retriever.find? uri.withoutFragment = some contents → ¬Refuses uri contents →
      ((r'.after history).load retriever uri).1 =
        .ok ⟨uri.withoutFragment, uri.withoutFragment, contents⟩

theorem add_of_not_refuses {contents : Value} (h : ¬Refuses uri contents) :
    (r.add ⟨uri.withoutFragment, uri.withoutFragment, contents⟩).1 =
      .ok ⟨uri.withoutFragment, uri.withoutFragment, contents⟩ := by
  unfold add
  split
  · rfl
  · rename_i e herror
    exact absurd (Declarations.exists_error_iff.mp ⟨e, herror⟩) h

theorem add_error {e : ResolutionError} {contents : Value}
    (h : r.add ⟨uri.withoutFragment, uri.withoutFragment, contents⟩ = (.error e, r')) :
    r' = r ∧ Refuses uri contents := by
  unfold add at h
  split at h
  · cases h
  · rename_i herror
    cases h
    exact ⟨rfl, Declarations.exists_error_iff.mp ⟨e, herror⟩⟩

theorem insert_of_free {contents : Value} (h : r.get? uri = none) :
    r.insert uri contents = r.add ⟨uri.withoutFragment, uri.withoutFragment, contents⟩ := by
  simp only [Registry.insert, insertAt, h]

theorem load_of_found {contents : Value} (h : r.get? uri = none)
    (hretriever : retriever.find? uri.withoutFragment = some contents) :
    r.load retriever uri = add { r with asked := uri.withoutFragment :: r.asked }
      ⟨uri.withoutFragment, uri.withoutFragment, contents⟩ := by
  have hfree : r.find? uri.withoutFragment = none := h
  simp only [Registry.load, hfree, hretriever]

theorem load_of_missing (h : r.get? uri = none)
    (hretriever : retriever.find? uri.withoutFragment = none) :
    r.load retriever uri = (.error (.unretrievable uri.withoutFragment),
      { r with asked := uri.withoutFragment :: r.asked }) := by
  have hfree : r.find? uri.withoutFragment = none := h
  simp only [Registry.load, hfree, hretriever]

theorem unaffected_of_free (hdocuments : r'.documents = r.documents)
    (hresources : r'.resources = r.resources) (hanchors : r'.anchors = r.anchors)
    (hfree : r.get? uri = none) : Unaffected r r' uri := by
  refine ⟨hdocuments, hresources, hanchors, ?_, ?_, ?_⟩
  · rwa [get?, find?, hdocuments]
  · intro history contents hlater hcontents
    rw [insert_of_free hlater]
    exact add_of_not_refuses hcontents
  · intro history retriever contents hlater hretriever hcontents
    rw [load_of_found hlater hretriever]
    exact add_of_not_refuses hcontents

theorem unaffected_of_insert {contents : Value} {e : ResolutionError}
    (h : r.insert uri contents = (.error e, r')) : Unaffected r r' uri ∧ Refuses uri contents := by
  cases hfree : r.get? uri with
  | some d => simp [Registry.insert, insertAt, hfree] at h
  | none =>
      rw [insert_of_free hfree] at h
      obtain ⟨rfl, hrefuses⟩ := add_error h
      exact ⟨unaffected_of_free rfl rfl rfl hfree, hrefuses⟩

theorem unaffected_of_load {e : ResolutionError} (h : r.load retriever uri = (.error e, r')) :
    Unaffected r r' uri ∧
      ∀ contents, retriever.find? uri.withoutFragment = some contents → Refuses uri contents := by
  cases hfree : r.get? uri with
  | some d => simp [load_of_get? hfree] at h
  | none =>
      cases hretriever : retriever.find? uri.withoutFragment with
      | some contents =>
          rw [load_of_found hfree hretriever] at h
          obtain ⟨rfl, hrefuses⟩ := add_error h
          refine ⟨unaffected_of_free rfl rfl rfl hfree, ?_⟩
          rintro _ ⟨⟩
          exact hrefuses
      | none =>
          rw [load_of_missing hfree hretriever] at h
          cases h
          exact ⟨unaffected_of_free rfl rfl rfl hfree, nofun⟩

/-! ## Histories -/

/-- Whatever a registry answers is final, and whatever it refuses is left open. -/
structure Permanent (r : Registry) : Prop where
  inserted : ∀ uri contents d r', r.insert uri contents = (.ok d, r') → r'.Settled uri d
  loaded : ∀ retriever uri d r', r.load retriever uri = (.ok d, r') → r'.Settled uri d
  resolved : ∀ retriever base reference t r', r.resolve retriever base reference = (.ok t, r') →
    ∀ history retriever', (r'.after history).resolve retriever' base reference =
      (.ok t, r'.after history)
  /-- A document is refused because of an `$id`. -/
  notInserted : ∀ uri contents e r', r.insert uri contents = (.error e, r') →
    Unaffected r r' uri ∧ Refuses uri contents
  /-- Or there is none. -/
  notLoaded : ∀ retriever uri e r', r.load retriever uri = (.error e, r') →
    Unaffected r r' uri ∧
      ∀ contents, retriever.find? uri.withoutFragment = some contents → Refuses uri contents

/-- After every history, what a registry answers is final. -/
theorem permanent_after (history : List Operation) : Permanent (after {} history) := by
  have hindexed := (reachable_after .empty history).wellIndexed
  constructor
  · intro uri contents d r' h
    exact settled_of_get? (get?_of_insertAt h)
  · intro retriever uri d r' h
    exact settled_of_get? (get?_of_load h)
  · intro retriever base reference t r' h history' retriever'
    obtain ⟨-, hleads⟩ := leads_of_resolve hindexed h
    exact hleads _ (evolves_after r' history').grows retriever'
  · intro uri contents e r' h
    exact unaffected_of_insert h
  · intro retriever uri e r' h
    exact unaffected_of_load h

end Registry
end JsonSchema
