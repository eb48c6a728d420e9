import JsonSchema.Proofs.Compilation.Parallel
import JsonSchema.Proofs.Compilation.Build
import JsonSchema.Proofs.Registry.Kept

/-!
# Where documents come from

Documents are put into a registry or had from a retriever, each under its own URL and with that URL
as its base. Only the schema of a build can have another base: then its `$id` leads from there to
its URL.
-/

namespace JsonSchema

namespace Compile

variable {α β : Type} {P : Document → Prop} {settings : Settings}

/-- What is so of all documents before a computation is so of all documents after it. -/
def Preserves (P : Document → Prop) (x : Compilation α) : Prop :=
  ∀ s, (∀ d ∈ s.registry.documents, P d) → ∀ d ∈ (outcome x s).2.registry.documents, P d

theorem preserves_pure (a : α) : Preserves P (pure a) := fun _ hs => hs

theorem preserves_throw (e : CompileError) : Preserves P (throw e : Compilation α) := fun _ hs => hs

theorem preserves_bind {x : Compilation α} {f : α → Compilation β} (hx : Preserves P x)
    (hf : ∀ a, Preserves P (f a)) : Preserves P (x >>= f) := by
  intro s hs
  have hmid := hx s hs
  rw [outcome_bind]
  rcases hrun : outcome x s with ⟨e | a, s'⟩ <;> rw [hrun] at hmid
  · exact hmid
  · exact hf a s' hmid

theorem preserves_slotted (place : Place) {x : Compilation Node} (hx : Preserves P x) :
    Preserves P (slotted place x) := by
  intro s hs
  rw [outcome_slotted]
  split
  · exact hs
  · have hmid := hx (s.take place) hs
    split <;> rename_i hrun <;> rw [hrun] at hmid
    · rw [State.registry_fill]
      exact hmid
    · exact hmid

theorem respected_preserves (hfound : ∀ uri contents,
    settings.retriever.find? uri = some contents → P ⟨uri, uri, contents⟩) :
    Respected settings settings.retriever fun x _ => Preserves P x where
  value := preserves_pure
  error := preserves_throw
  bind hx hf := preserves_bind hx hf
  follow base reference := fun s hs => by
    rw [outcome_follow]
    exact Registry.forall_resolve base reference hs hfound
  slotted place _ _ hx := preserves_slotted place hx
  ended _ _ := preserves_throw _

end Compile

namespace Options

open Compile

variable {P : Document → Prop} {r : Registry} {retriever : Retriever} {steps : Registry → Nat}

theorem forall_insertAll (documents : List (Url × Value)) (h : ∀ e ∈ r.documents, P e)
    (hloaded : ∀ uri contents, P ⟨uri, uri, contents⟩) :
    ∀ e ∈ (insertAll r documents).2.documents, P e := by
  induction documents generalizing r with
  | nil => exact h
  | cons document rest ih =>
      have hinsert := Registry.forall_insertAt document.1 document.1 document.2 h (hloaded _ _)
      simp only [insertAll, Registry.insert]
      split <;> rename_i hrun <;> rw [hrun] at hinsert
      · exact ih hinsert
      · exact hinsert

theorem forall_compileRoot {settings : Settings} (steps : Nat) (uri base : Url) (schema : Value)
    (h : ∀ e ∈ r.documents, P e)
    (hfound : ∀ uri contents, settings.retriever.find? uri = some contents →
      P ⟨uri, uri, contents⟩) :
    ∀ e ∈ (compileRoot settings steps uri base schema r).2.documents, P e := by
  rw [snd_compileRoot]
  have hrespected : Respected settings settings.retriever fun x _ => Preserves P x :=
    respected_preserves hfound
  exact (sideBySide hrespected steps 0).target ⟨uri, .root, base, schema⟩ ⟨r, []⟩ h

/-- A build puts documents into the registry, and its schema under the URL that it has inside. -/
theorem forall_buildWith (o : Options) (schema : Value) (h : ∀ e ∈ r.documents, P e)
    (hloaded : ∀ uri contents, P ⟨uri, uri, contents⟩)
    (hbuilt : ∀ uri base contents, Document.baseInside base contents = .ok uri →
      P ⟨uri, base, contents⟩) :
    ∀ e ∈ (o.buildWith retriever steps r schema).2.documents, P e := by
  have hall := forall_insertAll o.documents h hloaded
  unfold buildWith
  split <;> rename_i hrun <;> rw [hrun] at hall
  · exact hall
  · dsimp only
    split
    · exact hall
    · rename_i uri huri
      have hinside : Document.baseInside o.base schema = .ok uri := huri
      have hbare := Document.withoutFragment_of_baseInside o.withoutFragment_base hinside
      have hinsert := Registry.forall_insertAt uri o.base schema hall
        (by rw [hbare, o.withoutFragment_base]; exact hbuilt _ _ _ hinside)
      unfold base at hinsert
      split <;> rename_i hentered <;> rw [hentered] at hinsert
      · exact hinsert
      · split
        · exact forall_compileRoot _ _ _ _ hinsert fun uri contents _ => hloaded uri contents
        · exact hinsert

end Options

namespace Registry

variable {P : Document → Prop} {r : Registry}

/-- What is so of every document with its URL as its base, and of every document whose `$id` leads
to its URL, is so of all documents that operations have put into a registry. -/
theorem Reachable.forall_documents (h : r.Reachable)
    (hloaded : ∀ uri contents, P ⟨uri, uri, contents⟩)
    (hbuilt : ∀ uri base contents, Document.baseInside base contents = .ok uri →
      P ⟨uri, base, contents⟩) : ∀ e ∈ r.documents, P e := by
  induction h with
  | empty => simp
  | insert uri contents _ ih => exact forall_insertAt uri uri contents ih (hloaded _ _)
  | load retriever uri _ ih =>
      exact forall_load uri ih fun uri contents _ => hloaded uri contents
  | resolve retriever base reference _ ih =>
      exact forall_resolve base reference ih fun uri contents _ => hloaded uri contents
  | build o retriever steps schema _ ih => exact o.forall_buildWith schema ih hloaded hbuilt

end Registry
end JsonSchema
