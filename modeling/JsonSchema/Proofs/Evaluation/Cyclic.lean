import JsonSchema.Proofs.Evaluation.Termination

/-!
# Cycles that are found

The search for cycles is exact: where it finds none, references lead to lower ranks, and where it
finds one, a slot leads back to itself.
-/

namespace JsonSchema.Cycle

open Relation

variable {slots : List Node}

theorem exists_of_foldlM_error {ε α β : Type} {f : β → α → Except ε β} {l : List α} {b : β} {e : ε}
    (h : l.foldlM f b = .error e) : ∃ b', ∃ a ∈ l, f b' a = .error e := by
  induction l generalizing b with
  | nil => cases h
  | cons a l ih =>
      rw [List.foldlM_cons] at h
      rcases bind_eq_error.mp h with h | ⟨b', -, h⟩
      · exact ⟨b, a, List.mem_cons_self, h⟩
      · obtain ⟨b'', a', ha', h⟩ := ih h
        exact ⟨b'', a', List.mem_cons_of_mem _ ha', h⟩

/-- The slots on the path lead to the one that is searched. So a reference back to the path closes a
cycle. -/
theorem exists_reference_of_search {fuel : Nat} {path : List Nat} {slot : Nat} {done : List Nat}
    {l : SchemaLocation} (hpath : ∀ s ∈ path, TransGen (Node.Leads slots) s slot)
    (h : search slots fuel path slot done = .error l) :
    ∃ s t, (l, t) ∈ references slots s ∧ ReflTransGen (Node.Leads slots) t s := by
  induction fuel generalizing path slot done with
  | zero => cases h
  | succ fuel ih =>
      have hfold : (references slots slot).foldlM (visit (slot :: path)
          (search slots fuel (slot :: path))) done = .error l := by
        rw [search] at h
        cases hfold : (references slots slot).foldlM (visit (slot :: path)
          (search slots fuel (slot :: path))) done with
        | ok done' => simp [hfold, Except.map] at h
        | error l' => simpa [hfold, Except.map] using h
      obtain ⟨done', r, hr, hvisit⟩ := exists_of_foldlM_error hfold
      simp only [visit, List.contains_iff_mem] at hvisit
      split at hvisit
      · rename_i hmem
        cases hvisit
        refine ⟨slot, r.2, hr, ?_⟩
        rcases List.mem_cons.mp hmem with heq | hmem
        · exact heq ▸ .refl
        · exact (hpath r.2 hmem).to_reflTransGen
      · split at hvisit
        · cases hvisit
        · have hleads : Node.Leads slots slot r.2 := ⟨r.1, hr⟩
          exact ih (List.forall_mem_cons.mpr
            ⟨.single hleads, fun s hs => (hpath s hs).tail hleads⟩) hvisit

/-- The reference that is found closes a cycle. -/
theorem exists_reference_of_find? {l : SchemaLocation} (h : find? slots = some l) :
    ∃ s t, (l, t) ∈ references slots s ∧ ReflTransGen (Node.Leads slots) t s := by
  unfold find? at h
  split at h
  · cases h
  · rename_i l' hfold
    cases h
    obtain ⟨done, slot, -, hclear⟩ := exists_of_foldlM_error hfold
    unfold clear at hclear
    split at hclear
    · cases hclear
    · exact exists_reference_of_search (by simp) hclear

/-- A cycle is found only where there is one. -/
theorem exists_cycle_of_find? {l : SchemaLocation} (h : find? slots = some l) :
    ∃ s, TransGen (Node.Leads slots) s s := by
  obtain ⟨s, t, hmem, hback⟩ := exists_reference_of_find? h
  exact ⟨s, .head' ⟨l, hmem⟩ hback⟩

/-! ## Contained references -/

/-- The tree of a slot contains a reference, at any depth but not within what it asks of parts of
the value. -/
def Refers (slots : List Node) (slot : Nat) (l : SchemaLocation) (target : Nat) : Prop :=
  ∃ n, slots[slot]? = some n ∧ ReflTransGen Node.InPlace n (.reference l target)

/-- The tree of a slot contains some reference to another one. -/
def Points (slots : List Node) (slot target : Nat) : Prop := ∃ l, Refers slots slot l target

theorem mem_references_iff {slot target : Nat} {l : SchemaLocation} :
    (l, target) ∈ references slots slot ↔ Refers slots slot l target := by
  unfold references Refers
  cases slots[slot]? with
  | none => simp
  | some n => simpa using Node.mem_inPlaceReferences_iff

theorem leads_eq_points (slots : List Node) : Node.Leads slots = Points slots := by
  funext slot target
  exact propext (exists_congr fun l => mem_references_iff)

/-- The search for cycles is exact. It finds a reference just where some slot leads back to itself,
and what it finds lies on such a cycle. Before it finds none it has cleared every slot, each once,
whether or not the first slot leads there. -/
theorem search_exact (slots : List Node) :
    ((∃ l, find? slots = some l) ↔ ∃ slot, TransGen (Points slots) slot slot) ∧
      (∀ l, find? slots = some l → ∃ slot target, Refers slots slot l target ∧
        ReflTransGen (Points slots) target slot) ∧
      (find? slots = none → ∃ done, (List.range slots.length).foldlM (clear slots) [] = .ok done ∧
        done.Nodup ∧ ∀ slot < slots.length, slot ∈ done) := by
  rw [← leads_eq_points]
  refine ⟨⟨fun ⟨l, h⟩ => exists_cycle_of_find? h, fun ⟨slot, hcycle⟩ => ?_⟩, fun l h => ?_,
    fun h => ?_⟩
  · by_contra hnone
    have h : find? slots = none := Option.eq_none_iff_forall_ne_some.mpr (not_exists.mp hnone)
    exact Node.not_leads_self h slot hcycle
  · obtain ⟨slot, target, hmem, hback⟩ := exists_reference_of_find? h
    exact ⟨slot, target, mem_references_iff.mp hmem, hback⟩
  · obtain ⟨done, hfold, hdone, hall⟩ := exists_cleared h
    exact ⟨done, hfold, hdone.nodup, hall⟩

/-- The first slot does not lead to the cycle. -/
example : (find? [.boolean default true, .anyOf default [.reference default 2],
    .not default (.reference default 1)]).isSome = true := by decide

end JsonSchema.Cycle
