import JsonSchema.Proofs.Evaluation.Agreement
import JsonSchema.Proofs.Explanation.Plan

/-!
# The two shapes of output

The flat output lists the failures of a report, the nested output shows the tree they were found in.
Both are read off one tree, so the units of the nested output that have an error are the flat
output, in the same order. No unit is there for nothing: explanation asks on only about what has
failed, so one without an error has one below it.
-/

namespace JsonSchema

namespace DetailedUnit

/-- The message and the failure of a unit, if it has one of its own. -/
def error : DetailedUnit → Option (String × Failure)
  | node _ _ _ error _ => error

/-- The units directly below a unit. -/
def errors : DetailedUnit → List DetailedUnit
  | node _ _ _ _ errors => errors

/-- The error of a unit with its places, if the unit has one of its own. -/
def flat : DetailedUnit → Option BasicUnit
  | node k a i error _ => error.map fun (message, failure) => ⟨k, a, i, message, failure⟩

mutual

/-- A unit and all units below it, each before those below itself. -/
def preorder : DetailedUnit → List DetailedUnit
  | node k a i error errors => node k a i error errors :: allPreorder errors

/-- Some units and all units below them. -/
def allPreorder : List DetailedUnit → List DetailedUnit
  | [] => []
  | u :: rest => preorder u ++ allPreorder rest

end

theorem isSome_flat (u : DetailedUnit) : u.flat.isSome = u.error.isSome := by
  obtain ⟨k, a, i, error, errors⟩ := u
  exact Option.isSome_map

end DetailedUnit

namespace ErrorTree

open DetailedUnit

variable {wording : Wording}

mutual

/-- The units of a tree that have an error are its entries. -/
theorem filterMap_preorder_unit (wording : Wording) : ∀ t : ErrorTree,
    (t.unit wording).preorder.filterMap flat = t.entries.map (Entry.unit wording)
  | .node _ _ _ (some f) children => by
    rw [unit, preorder, entries, List.map_cons, ← filterMap_allPreorder_units wording children]
    rfl
  | .node _ _ _ none children => by
    rw [unit, preorder, entries, ← filterMap_allPreorder_units wording children]
    rfl

theorem filterMap_allPreorder_units (wording : Wording) : ∀ trees : List ErrorTree,
    (allPreorder (units wording trees)).filterMap flat =
      (allEntries trees).map (Entry.unit wording)
  | [] => rfl
  | t :: rest => by
    rw [units, allPreorder, allEntries, List.filterMap_append, List.map_append,
      filterMap_preorder_unit wording t, filterMap_allPreorder_units wording rest]

end

mutual

/-- Every unit of a tree is that of a tree within it. -/
theorem exists_within_of_mem_preorder : ∀ {t : ErrorTree} {u : DetailedUnit},
    u ∈ (t.unit wording).preorder → ∃ s, Within s t ∧ s.unit wording = u
  | .node _ _ _ _ children, u, h => by
    rw [unit, preorder, List.mem_cons] at h
    rcases h with rfl | h
    · exact ⟨_, .self, by rw [unit]⟩
    · obtain ⟨child, hmem, s, hs, hunit⟩ := exists_within_of_mem_allPreorder h
      exact ⟨s, .descend hmem hs, hunit⟩

theorem exists_within_of_mem_allPreorder : ∀ {trees : List ErrorTree} {u : DetailedUnit},
    u ∈ allPreorder (units wording trees) → ∃ t ∈ trees, ∃ s, Within s t ∧ s.unit wording = u
  | [], _, h => by simp [units, allPreorder] at h
  | t :: rest, u, h => by
    rw [units, allPreorder, List.mem_append] at h
    rcases h with h | h
    · exact ⟨t, List.mem_cons_self, exists_within_of_mem_preorder h⟩
    · obtain ⟨t', hmem, hs⟩ := exists_within_of_mem_allPreorder h
      exact ⟨t', List.mem_cons_of_mem t hmem, hs⟩

end

/-- A tree with an entry has a unit with an error of its own, or else one below it. -/
theorem exists_error_of_entries_ne_nil {t : ErrorTree} (h : t.entries ≠ [])
    (hnone : (t.unit wording).error = none) :
    ∃ u ∈ allPreorder (t.unit wording).errors, u.error.isSome := by
  obtain ⟨l, k, i, finding, children⟩ := t
  obtain rfl : finding = none := by simpa [unit, error] using hnone
  have hunits : (allPreorder (units wording children)).filterMap flat ≠ [] := by
    rw [filterMap_allPreorder_units]
    simpa [entries] using h
  obtain ⟨b, hb⟩ := List.exists_mem_of_ne_nil _ hunits
  obtain ⟨u, hmem, hflat⟩ := List.mem_filterMap.mp hb
  exact ⟨u, by simpa [unit, errors] using hmem, by rw [← isSome_flat, hflat, Option.isSome_some]⟩

mutual

/-- What is within a moved tree was moved with it. -/
theorem exists_within_of_rebase {source destination : Pointer} : ∀ {t u : ErrorTree},
    Within u (t.rebase source destination) → ∃ s, Within s t ∧ s.rebase source destination = u
  | .node l k i f children, u, h => by
    generalize ht : rebase source destination (.node l k i f children) = t at h
    cases h with
    | self => exact ⟨_, .self, ht⟩
    | descend hmem h =>
        rw [rebase] at ht
        cases ht
        obtain ⟨t', hmem', s, hs, hu⟩ := exists_within_of_rebaseAll hmem h
        exact ⟨s, .descend hmem' hs, hu⟩

theorem exists_within_of_rebaseAll {source destination : Pointer} :
    ∀ {trees : List ErrorTree} {t u : ErrorTree}, t ∈ rebaseAll source destination trees →
      Within u t → ∃ t' ∈ trees, ∃ s, Within s t' ∧ s.rebase source destination = u
  | [], _, _, hmem, _ => by simp [rebaseAll] at hmem
  | first :: rest, t, u, hmem, h => by
    rw [rebaseAll, List.mem_cons] at hmem
    rcases hmem with rfl | hmem
    · exact ⟨first, List.mem_cons_self, exists_within_of_rebase h⟩
    · obtain ⟨t', hmem', hs⟩ := exists_within_of_rebaseAll hmem h
      exact ⟨t', List.mem_cons_of_mem first hmem', hs⟩

end

end ErrorTree

namespace Node

open ErrorTree

variable {slots : List Node}

/-- Whatever is within a moved tree has entries if all that was within it had. -/
theorem entries_within_moved_ne_nil {n target : Node} {t u : ErrorTree}
    (h : ∀ s, Within s t → s.entries ≠ []) (hu : Within u (n.moved target t)) :
    u.entries ≠ [] := by
  cases n with
  | reference l slot =>
      obtain ⟨s, hs, rfl⟩ := exists_within_of_rebase hu
      exact entries_rebase_ne_nil (h s hs)
  | _ => exact h u hu

/-- Everything in the explanation of a value that is not accepted has entries, because all nodes
that are asked have failed too. -/
theorem entries_within_explain_ne_nil {fuel : Nat} {n : Node} {v : Value} {path : Pointer}
    (hfails : n.accepts slots fuel v = false) {u : ErrorTree}
    (hu : Within u (n.explain slots fuel v path)) : u.entries ≠ [] := by
  induction fuel generalizing n v path u with
  | zero => simp [accepts] at hfails
  | succ fuel ih =>
      generalize ht : n.explain slots (fuel + 1) v path = t at hu
      cases hu with
      | self => exact ht ▸ entries_explain_ne_nil hfails
      | descend hmem hu =>
          rw [explain, explainStep_eq] at ht
          cases ht
          rcases List.mem_append.mp hmem with hmem | hmem
          · -- A failure at the node itself has nothing below it.
            obtain ⟨failure, -, rfl⟩ := List.mem_map.mp hmem
            cases hu with
            | self => simp [leaf, entries]
            | descend hmem => cases hmem
          · obtain ⟨a, ha, rfl⟩ := List.mem_map.mp hmem
            exact entries_within_moved_ne_nil (fun s => ih ((asked_of_mem ha).fails hfails)) hu

end Node

/-! ## Reports -/

namespace Report

open DetailedUnit

/-- The two shapes of output of a report tell the same. -/
structure ShapesAgree (r : Report) (wording : Wording) : Prop where
  /-- The units with an error, in preorder, are the flat list, with the same places, message and
  failure. -/
  errors : (allPreorder (r.detailed wording).errors).filterMap flat = (r.basic wording).errors
  valid : (r.detailed wording).valid = (r.basic wording).valid
  /-- A unit without an error has a unit with one below it. -/
  explained : ∀ u ∈ allPreorder (r.detailed wording).errors, u.error = none →
    ∃ below ∈ allPreorder u.errors, below.error.isSome

theorem filterMap_flat_detailed (r : Report) (wording : Wording) :
    (allPreorder (r.detailed wording).errors).filterMap flat = (r.basic wording).errors := by
  obtain ⟨_ | tree⟩ := r
  · rfl
  · change (allPreorder [tree.unit wording]).filterMap flat = tree.entries.map (Entry.unit wording)
    rw [allPreorder, allPreorder, List.append_nil, ErrorTree.filterMap_preorder_unit]

end Report

theorem Validator.shapes_of_report (v : Validator) (x : Value) (wording : Wording) :
    (v.report x).ShapesAgree wording where
  errors := Report.filterMap_flat_detailed _ wording
  valid := rfl
  explained := by
    intro u hu hnone
    rcases htree : (v.report x).tree with _ | tree
    · simp [Report.detailed, htree, DetailedUnit.allPreorder] at hu
    · obtain ⟨hfails, rfl⟩ := report_tree_iff.mp htree
      rw [Report.detailed, htree] at hu
      obtain ⟨s, hs, rfl⟩ := ErrorTree.exists_within_of_mem_preorder
        (by simpa [DetailedUnit.allPreorder] using hu)
      exact ErrorTree.exists_error_of_entries_ne_nil
        (Node.entries_within_explain_ne_nil hfails hs) hnone

end JsonSchema
