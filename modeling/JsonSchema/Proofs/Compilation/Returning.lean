import JsonSchema.Proofs.Compilation.Termination

/-!
# Builds that return

A retriever may have a document for every URL, and each may refer to the next one. So a build need
not return. If it does, more steps come to the same result, and it does return wherever the
retriever has documents for finitely many URLs.
-/

namespace JsonSchema

/-! ## Retrievers with finitely many documents -/

/-- A retriever has documents for some URLs that can be listed, and for no others. -/
def Retriever.Finite (f : Retriever) : Prop :=
  ∃ uris : List Url, ∀ uri contents, f.find? uri = some contents → uri ∈ uris

/-- The documents that a retriever has for some URLs. -/
def Retriever.having (f : Retriever) (uris : List Url) : Store :=
  ⟨uris.filterMap fun uri => (f.find? uri).map (uri, ·)⟩

theorem Retriever.mem_having {f : Retriever} {uris : List Url} {uri : Url} {contents : Value} :
    (uri, contents) ∈ (f.having uris).documents ↔ uri ∈ uris ∧ f.find? uri = some contents := by
  simp only [having, List.mem_filterMap, Option.map_eq_some_iff, Prod.mk.injEq]
  constructor
  · rintro ⟨_, hmem, _, hfind, rfl, rfl⟩
    exact ⟨hmem, hfind⟩
  · rintro ⟨hmem, hfind⟩
    exact ⟨uri, hmem, contents, hfind, rfl, rfl⟩

theorem Retriever.find?_having {f : Retriever} {uris : List Url} {uri : Url} {contents : Value} :
    (f.having uris).find? uri = some contents ↔ uri ∈ uris ∧ f.find? uri = some contents := by
  constructor
  · exact fun h => mem_having.mp (mem_of_lookup h)
  · intro h
    refine lookup_of_unique (mem_having.mpr h) fun other hother => ?_
    exact Option.some_inj.mp ((mem_having.mp hother).2.symm.trans h.2)

theorem Store.finite_retriever (s : Store) : s.retriever.Finite :=
  ⟨s.documents.map Prod.fst, fun _ _ h => List.mem_map_of_mem (mem_of_lookup h)⟩

/-- A retriever with documents for finitely many URLs is that of a store. -/
theorem Retriever.Finite.exists_store {f : Retriever} (h : f.Finite) :
    ∃ s : Store, s.retriever = f := by
  obtain ⟨uris, huris⟩ := h
  refine ⟨f.having uris, congrArg Retriever.mk (funext fun uri => Option.ext fun contents => ?_)⟩
  rw [find?_having, and_iff_right_of_imp (huris uri contents)]

namespace Options

open Compile

variable {o : Options} {retriever : Retriever} {r : Registry} {schema : Value} {n m : Nat}
variable {result result' : Except CompileError Validator × Registry}

/-! ## Results of builds -/

/-- A build returns a result: it comes to it in some number of steps, and not because they have run
out. -/
def Returns (o : Options) (retriever : Retriever) (r : Registry) (schema : Value)
    (result : Except CompileError Validator × Registry) : Prop :=
  ∃ n, o.buildWith retriever (fun _ => n) r schema = result ∧
    ∀ document, result.1 ≠ .error (missingTarget document)

theorem not_ranOut_run (h : Enters o schema r)
    (hresult : ∀ document, (o.buildWith retriever (fun _ => n) r schema).1 ≠
      .error (missingTarget document)) : ¬RanOut (h.run retriever n) := by
  rintro ⟨document, hout⟩
  apply hresult document
  rw [h.buildWith_of_run]
  rcases hrun : h.run retriever n with ⟨e | slot, s⟩ <;> rw [hrun] at hout
  · exact congrArg Except.error (Except.error.inj hout)
  · cases hout

/-- More steps change nothing where a build has come to a result. -/
theorem buildWith_of_le (hnm : n ≤ m)
    (h : ∀ document, (o.buildWith retriever (fun _ => n) r schema).1 ≠
      .error (missingTarget document)) :
    o.buildWith retriever (fun _ => m) r schema =
      o.buildWith retriever (fun _ => n) r schema := by
  rcases nonempty_enters_or_error o r schema with ⟨⟨henters⟩⟩ | ⟨e, r', he⟩
  · have hrun : henters.run retriever m = henters.run retriever n :=
      outcome_compileTarget_of_le hnm (not_ranOut_run henters h)
    rw [henters.buildWith_of_run, henters.buildWith_of_run, hrun]
  · rw [he, he]

/-- A build returns one result at most. -/
theorem Returns.unique (h : o.Returns retriever r schema result)
    (h' : o.Returns retriever r schema result') : result = result' := by
  obtain ⟨n, rfl, hn⟩ := h
  obtain ⟨m, rfl, hm⟩ := h'
  rcases Nat.le_total n m with hle | hle
  · exact (buildWith_of_le hle hn).symm
  · exact buildWith_of_le hle hm

/-- A store has finitely many documents, and the steps of a build suffice for them. -/
theorem returns_buildIn (hr : r.WellIndexed) (store : Store) :
    o.Returns store r schema (o.buildIn store r schema) := by
  have hne := buildIn_ne_missingTarget hr o store schema
  rcases nonempty_enters_or_error o r schema with ⟨⟨h⟩⟩ | ⟨e, r', he⟩
  · refine ⟨compileSteps store h.inserted schema, ?_, hne⟩
    rw [h.buildWith_eq, h.buildIn_eq]
  · exact ⟨0, by rw [buildIn, he, he], hne⟩

theorem existsUnique_returns (hr : r.WellIndexed) (h : retriever.Finite) :
    ∃! result, o.Returns retriever r schema result := by
  obtain ⟨store, rfl⟩ := h.exists_store
  have hreturns : o.Returns store r schema (o.buildIn store r schema) := returns_buildIn hr store
  exact ⟨_, hreturns, fun _ h => h.unique hreturns⟩

/-- What compilation has come to when a build returns. -/
theorem Returns.exists_run (hreturns : o.Returns retriever r schema result)
    (h : Enters o schema r) : ∃ n, ¬RanOut (h.run retriever n) ∧
      o.buildWith retriever (fun _ => n) r schema = result := by
  obtain ⟨n, rfl, hn⟩ := hreturns
  exact ⟨n, not_ranOut_run h hn, rfl⟩

end Options
end JsonSchema
