import JsonSchema.Proofs.Outcome
import JsonSchema.Schema.Cycle
import Mathlib.Data.List.Perm.Subperm

/-!
# Slots without a cycle

The search for cycles clears a slot after all slots that it refers to in place. Where it finds no
cycle, the order in which slots were cleared ranks them: every reference leads to a lower rank.
-/

namespace JsonSchema.Cycle

variable {slots : List Node}

/-- A ranking of slots that every in-place reference descends. -/
structure Ranking (slots : List Node) (rank : Nat → Nat) : Prop where
  lt_length : ∀ slot < slots.length, rank slot < slots.length
  descends : ∀ slot, ∀ r ∈ references slots slot, r.2 < slots.length → rank r.2 < rank slot

/-- Cleared slots, the latest first. Each refers in place only to slots that were cleared before. -/
inductive Cleared (slots : List Node) : List Nat → Prop
  | nil : Cleared slots []
  | cons {slot done} (fresh : slot ∉ done) (refs : ∀ r ∈ references slots slot, r.2 ∈ done)
      (rest : Cleared slots done) : Cleared slots (slot :: done)

theorem lt_length_of_mem_references {slot : Nat} {r : SchemaLocation × Nat}
    (h : r ∈ references slots slot) : slot < slots.length := by
  by_contra hslot
  simp [references, List.getElem?_eq_none (Nat.le_of_not_lt hslot)] at h

theorem length_le_of_nodup {path : List Nat} {n : Nat} (hnodup : path.Nodup)
    (hlt : ∀ slot ∈ path, slot < n) : path.length ≤ n := by
  have hsub : path ⊆ List.range n := fun slot hs => List.mem_range.mpr (hlt slot hs)
  simpa using (hnodup.subperm hsub).length_le

/-- What a search through some targets keeps and what it adds, if each of its steps does so. -/
theorem foldlM_clears {α : Type} {P : List Nat → Prop} (target : α → Nat)
    {step : List Nat → α → Except SchemaLocation (List Nat)} {todo : List α}
    (hstep : ∀ done a done', a ∈ todo → P done → step done a = .ok done' →
      P done' ∧ done ⊆ done' ∧ target a ∈ done')
    {done done' : List Nat} (hP : P done) (h : todo.foldlM step done = .ok done') :
    P done' ∧ done ⊆ done' ∧ ∀ a ∈ todo, target a ∈ done' := by
  induction todo generalizing done with
  | nil =>
      cases h
      exact ⟨hP, List.Subset.refl _, by simp⟩
  | cons a todo ih =>
      rw [List.foldlM_cons] at h
      cases ha : step done a with
      | error l => simp [ha, bind, Except.bind] at h
      | ok mid =>
          simp only [ha, bind, Except.bind] at h
          obtain ⟨hmid, hsub, hmem⟩ := hstep done a mid (by simp) hP ha
          obtain ⟨hdone, hsub', hall⟩ :=
            ih (fun done b done' hb => hstep done b done' (by simp [hb])) hmid h
          refine ⟨hdone, List.Subset.trans hsub hsub', ?_⟩
          intro b hb
          rcases List.mem_cons.mp hb with rfl | hb
          · exact hsub' hmem
          · exact hall b hb

/-- A search that finds no cycle clears its slot and all that it comes to. The path holds distinct
slots, so the levels do not run out before the slots do. -/
theorem search_clears {fuel : Nat} {path : List Nat} {slot : Nat} {done done' : List Nat}
    (hfuel : path.length + fuel = slots.length + 1) (hnodup : path.Nodup)
    (hlt : ∀ s ∈ path, s < slots.length) (hslot : slot ∉ path)
    (hpath : ∀ s ∈ slot :: path, s ∉ done) (hdone : Cleared slots done)
    (h : search slots fuel path slot done = .ok done') :
    Cleared slots done' ∧ (∀ s ∈ path, s ∉ done') ∧ done ⊆ done' ∧ slot ∈ done' := by
  induction fuel generalizing path slot done done' with
  | zero =>
      have := length_le_of_nodup hnodup hlt
      omega
  | succ fuel ih =>
      obtain ⟨mid, hfold, rfl⟩ := map_eq_ok.mp h
      have hstep : ∀ done r done', r ∈ references slots slot →
          (Cleared slots done ∧ ∀ s ∈ slot :: path, s ∉ done) →
          visit (slot :: path) (search slots fuel (slot :: path)) done r = .ok done' →
          (Cleared slots done' ∧ ∀ s ∈ slot :: path, s ∉ done') ∧ done ⊆ done' ∧ r.2 ∈ done' := by
        intro done r done' hr hinv h
        simp only [visit, List.contains_iff_mem] at h
        split at h
        · cases h
        · rename_i hpath
          split at h
          · rename_i hmem
            cases h
            exact ⟨hinv, List.Subset.refl _, hmem⟩
          · rename_i hmem
            have hlt' : ∀ s ∈ slot :: path, s < slots.length :=
              List.forall_mem_cons.mpr ⟨lt_length_of_mem_references hr, hlt⟩
            obtain ⟨hdone', hfresh, hsub, hslot'⟩ :=
              ih (by simp only [List.length_cons]; omega) (List.nodup_cons.mpr ⟨hslot, hnodup⟩) hlt'
                hpath (List.forall_mem_cons.mpr ⟨hmem, hinv.2⟩) hinv.1 h
            exact ⟨⟨hdone', hfresh⟩, hsub, hslot'⟩
      obtain ⟨⟨hmid, hfresh⟩, hsub, hall⟩ :=
        foldlM_clears Prod.snd hstep ⟨hdone, hpath⟩ hfold
      obtain ⟨hnew, hold⟩ := List.forall_mem_cons.mp hfresh
      refine ⟨.cons hnew hall hmid, ?_, fun s hs => by simp [hsub hs], by simp⟩
      intro s hs
      have hne : s ≠ slot := fun he => hslot (he ▸ hs)
      simp [hne, hold s hs]

/-- Where the search finds no cycle, it clears all slots. -/
theorem exists_cleared (h : find? slots = none) :
    ∃ done, (List.range slots.length).foldlM (clear slots) [] = .ok done ∧ Cleared slots done ∧
      ∀ slot < slots.length, slot ∈ done := by
  have hstep : ∀ done slot done', slot ∈ List.range slots.length → Cleared slots done →
      clear slots done slot = .ok done' → Cleared slots done' ∧ done ⊆ done' ∧ slot ∈ done' := by
    intro done slot done' _ hdone h
    simp only [clear, List.contains_iff_mem] at h
    split at h
    · rename_i hmem
      cases h
      exact ⟨hdone, List.Subset.refl _, hmem⟩
    · rename_i hmem
      obtain ⟨hdone', -, hsub, hslot⟩ := search_clears (by simp) List.nodup_nil (by simp) (by simp)
        (by simpa using hmem) hdone h
      exact ⟨hdone', hsub, hslot⟩
  cases hfold : (List.range slots.length).foldlM (clear slots) [] with
  | error l => simp [find?, hfold] at h
  | ok done =>
      obtain ⟨hdone, -, hall⟩ := foldlM_clears id hstep .nil hfold
      exact ⟨done, rfl, hdone, fun slot hs => hall slot (List.mem_range.mpr hs)⟩

theorem Cleared.nodup {done : List Nat} (h : Cleared slots done) : done.Nodup := by
  induction h with
  | nil => exact List.nodup_nil
  | cons fresh _ _ ih => exact List.nodup_cons.mpr ⟨fresh, ih⟩

theorem Cleared.references_mem {done : List Nat} (h : Cleared slots done) {slot : Nat}
    (hs : slot ∈ done) : ∀ r ∈ references slots slot, r.2 ∈ done := by
  induction h with
  | nil => simp at hs
  | cons _ refs _ ih =>
      intro r hr
      rcases List.mem_cons.mp hs with rfl | hs
      · exact List.mem_cons_of_mem _ (refs r hr)
      · exact List.mem_cons_of_mem _ (ih hs r hr)

/-- The rank of a cleared slot counts the slots that were cleared before it. -/
theorem Cleared.exists_rank {done : List Nat} (h : Cleared slots done) :
    ∃ rank : Nat → Nat, ∀ slot ∈ done, slot < slots.length →
      rank slot < done.countP (· < slots.length) ∧
      ∀ r ∈ references slots slot, r.2 < slots.length → rank r.2 < rank slot := by
  induction h with
  | nil => exact ⟨fun _ => 0, by simp⟩
  | @cons new done fresh refs rest ih =>
      obtain ⟨rank, hrank⟩ := ih
      refine ⟨fun slot => if slot = new then done.countP (· < slots.length) else rank slot, ?_⟩
      intro slot hs hlt
      have hold : ∀ r ∈ references slots slot, r.2 ∈ done → r.2 ≠ new :=
        fun r _ hr he => fresh (he ▸ hr)
      rcases List.mem_cons.mp hs with rfl | hs
      · refine ⟨by simp [hlt], ?_⟩
        intro r hr hr'
        simpa [hold r hr (refs r hr)] using (hrank r.2 (refs r hr) hr').1
      · have hne : slot ≠ new := fun he => fresh (he ▸ hs)
        have hcount : done.countP (· < slots.length) ≤ (new :: done).countP (· < slots.length) :=
          (List.sublist_cons_self new done).countP_le
        refine ⟨?_, ?_⟩
        · simpa only [hne, ite_false] using Nat.lt_of_lt_of_le (hrank slot hs hlt).1 hcount
        · intro r hr hr'
          have hmem := rest.references_mem hs r hr
          simpa only [hne, hold r hr hmem, ite_false] using (hrank slot hs hlt).2 r hr hr'

/-- Slots in which the search finds no cycle have a ranking. -/
theorem exists_ranking (h : find? slots = none) : ∃ rank, Ranking slots rank := by
  obtain ⟨done, -, hdone, hall⟩ := exists_cleared h
  obtain ⟨rank, hrank⟩ := hdone.exists_rank
  refine ⟨rank, ?_, ?_⟩
  · intro slot hlt
    have hlen : (done.filter (· < slots.length)).length ≤ slots.length :=
      length_le_of_nodup (hdone.nodup.filter _) (by simp)
    rw [← List.countP_eq_length_filter] at hlen
    exact Nat.lt_of_lt_of_le (hrank slot (hall slot hlt) hlt).1 hlen
  · intro slot r hr
    have hlt := lt_length_of_mem_references hr
    exact (hrank slot (hall slot hlt) hlt).2 r hr

end JsonSchema.Cycle
