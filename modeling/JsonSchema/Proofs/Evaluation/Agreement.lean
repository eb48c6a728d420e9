import JsonSchema.Proofs.Outcome
import JsonSchema.Validation.Validator

/-!
# Evaluation and explanation agree

The explanation of a value that a node does not accept says somewhere below what failed. Nodes that
only group others say nothing of their own, so there is a failing child to go on with.
-/

namespace JsonSchema

namespace ErrorTree

/-- A tree is found somewhere within another one. -/
inductive Within : ErrorTree → ErrorTree → Prop
  | self {t} : Within t t
  | descend {t child l k i f children} (hmem : child ∈ children) (h : Within t child) :
      Within t (.node l k i f children)

theorem allEntries_eq_nil_iff {trees : List ErrorTree} :
    allEntries trees = [] ↔ ∀ t ∈ trees, t.entries = [] := by
  induction trees with
  | nil => simp [allEntries]
  | cons t trees ih => simp [allEntries, ih]

mutual

/-- A tree with an entry says somewhere what failed. -/
theorem exists_finding_of_entries_ne_nil : ∀ t : ErrorTree, t.entries ≠ [] →
    ∃ u f, Within u t ∧ finding u = some f
  | .node _ _ _ (some f) _, _ => ⟨_, f, .self, rfl⟩
  | .node _ _ _ none children, h =>
    let ⟨_, hmem, u, f, hu, hf⟩ := exists_finding_of_allEntries_ne_nil children h
    ⟨u, f, .descend hmem hu, hf⟩

theorem exists_finding_of_allEntries_ne_nil : ∀ trees : List ErrorTree, allEntries trees ≠ [] →
    ∃ t ∈ trees, ∃ u f, Within u t ∧ finding u = some f
  | [], h => absurd rfl h
  | t :: rest, h => by
    by_cases ht : t.entries = []
    · have hrest : allEntries rest ≠ [] := by simpa [allEntries, ht] using h
      obtain ⟨t', hmem, hfinding⟩ := exists_finding_of_allEntries_ne_nil rest hrest
      exact ⟨t', List.mem_cons_of_mem t hmem, hfinding⟩
    · exact ⟨t, List.mem_cons_self, exists_finding_of_entries_ne_nil t ht⟩

end

mutual

/-- Moving keyword locations keeps what failed, and the order. -/
theorem map_finding_entries_rebase (source destination : Pointer) : ∀ t : ErrorTree,
    (t.rebase source destination).entries.map Entry.finding = t.entries.map Entry.finding
  | .node _ _ _ (some f) children =>
    congrArg (f :: ·) (map_finding_allEntries_rebaseAll source destination children)
  | .node _ _ _ none children => map_finding_allEntries_rebaseAll source destination children

theorem map_finding_allEntries_rebaseAll (source destination : Pointer) :
    ∀ trees : List ErrorTree,
      (allEntries (rebaseAll source destination trees)).map Entry.finding =
        (allEntries trees).map Entry.finding
  | [] => rfl
  | t :: rest => by
    rw [rebaseAll, allEntries, allEntries, List.map_append, List.map_append,
      map_finding_entries_rebase source destination t,
      map_finding_allEntries_rebaseAll source destination rest]

end

theorem entries_rebase_ne_nil {t : ErrorTree} {source destination : Pointer}
    (h : t.entries ≠ []) : (t.rebase source destination).entries ≠ [] := by
  intro hnil
  have hmap := map_finding_entries_rebase source destination t
  rw [hnil] at hmap
  exact h (List.map_eq_nil_iff.mp hmap.symm)

/-- A group has an entry if one of its children has. -/
theorem entries_group_ne_nil {l : SchemaLocation} {path : Pointer} {children : List ErrorTree}
    {t : ErrorTree} (hmem : t ∈ children) (h : t.entries ≠ []) :
    (group l path children).entries ≠ [] :=
  fun hnil => h (allEntries_eq_nil_iff.mp hnil t hmem)

/-- What fails of some parts makes a group of their explanations an entry. -/
theorem entries_group_failing_ne_nil {α : Type} {l : SchemaLocation} {path : Pointer}
    {parts : List α} {passes : α → Bool} {why : α → ErrorTree}
    (hwhy : ∀ a ∈ parts, passes a = false → (why a).entries ≠ []) (h : parts.all passes = false) :
    (group l path ((parts.filter fun a => !passes a).map why)).entries ≠ [] := by
  obtain ⟨a, ha, hfails⟩ := List.all_eq_false.mp h
  have hfails : passes a = false := by simpa using hfails
  have hmem : why a ∈ (parts.filter fun a => !passes a).map why :=
    List.mem_map.mpr ⟨a, List.mem_filter.mpr ⟨ha, by simp [hfails]⟩, rfl⟩
  exact entries_group_ne_nil hmem (hwhy a ha hfails)

end ErrorTree

namespace Node

open ErrorTree

variable {slots : List Node}

/-- If the explanations that a node asks for have entries, then so has its own. -/
theorem entries_explainStep_ne_nil {call : Node → Value → Bool}
    {why : Node → Value → Pointer → ErrorTree}
    (hwhy : ∀ n v path, call n v = false → (why n v path).entries ≠ [])
    {n : Node} {v : Value} {path : Pointer} (h : acceptsStep slots call n v = false) :
    (explainStep slots call why n v path).entries ≠ [] := by
  cases n with
  | boolean _ _ | check _ _ | not _ _ | anyOf _ _ => simp [explainStep, leaf, entries]
  | keywords _ children => exact entries_group_failing_ne_nil (fun n _ => hwhy n v path) h
  | allOf _ branches => exact entries_group_failing_ne_nil (fun n _ => hwhy n v path) h
  | reference l slot =>
      cases hs : slots[slot]? with
      | none => simp [acceptsStep, hs] at h
      | some n =>
          have hcall : call n v = false := by simpa [acceptsStep, hs] using h
          simp only [explainStep, hs]
          exact entries_group_ne_nil (List.mem_singleton_self _)
            (entries_rebase_ne_nil (hwhy n v path hcall))
  | required l names =>
      have hmissing : v.missing names ≠ [] := by simpa [acceptsStep] using h
      obtain ⟨name, rest, hnames⟩ := List.exists_cons_of_ne_nil hmissing
      simp only [explainStep, hnames]
      cases rest <;> simp [leaf, group, entries, allEntries]
  | properties _ members =>
      exact entries_group_failing_ne_nil (fun m _ => hwhy m.2.1 m.2.2 _) h
  | uniformItems _ n =>
      exact entries_group_failing_ne_nil (fun m _ => hwhy n m.1 _) h
  | positionalItems _ nodes =>
      exact entries_group_failing_ne_nil (fun m _ => hwhy m.1.1 m.1.2 _) h
  | oneOf _ branches =>
      simp only [explainStep]
      split <;> simp [leaf, entries]
  | conditional l condition met unmet =>
      simp only [acceptsStep] at h
      simp only [explainStep]
      by_cases hcondition : call condition v = true
      · cases met with
        | none => simp [hcondition] at h
        | some n =>
            have hcall : call n v = false := by simpa [hcondition] using h
            exact entries_group_ne_nil (by simp [hcondition]) (hwhy n v path hcall)
      · cases unmet with
        | none => simp [hcondition] at h
        | some n =>
            have hcall : call n v = false := by simpa [hcondition] using h
            exact entries_group_ne_nil (by simp [hcondition]) (hwhy n v path hcall)

/-- The explanation of a value that is not accepted has an entry. -/
theorem entries_explain_ne_nil {fuel : Nat} {n : Node} {v : Value} {path : Pointer}
    (h : n.accepts slots fuel v = false) : (n.explain slots fuel v path).entries ≠ [] := by
  induction fuel generalizing n v path with
  | zero => simp [accepts] at h
  | succ fuel ih => exact entries_explainStep_ne_nil (fun n v path => ih) h

end Node

namespace Validator

/-- The answers that a validator gives for a value agree. -/
structure Agreement (v : Validator) (x : Value) : Prop where
  valid_iff_entries : v.isValid x = true ↔ (v.report x).entries = []
  valid_iff_validate : v.isValid x = true ↔ v.validate x = .ok ()
  /-- A value that does not conform is explained, by a tree that says somewhere what failed. -/
  explained : v.isValid x = false →
    ∃ tree, tree = v.root.explain v.slots (v.root.steps v.slots x) x .root ∧
      (v.report x).tree = some tree ∧ v.validate x = .error (v.report x) ∧
      ∃ u finding, ErrorTree.Within u tree ∧ u.finding = some finding
  /-- A value that conforms has no tree. -/
  unexplained : v.isValid x = true → (v.report x).tree = none
  valid_basic : ∀ wording, ((v.report x).basic wording).valid = v.isValid x
  valid_detailed : ∀ wording, ((v.report x).detailed wording).valid = v.isValid x

theorem agreement (v : Validator) (x : Value) : v.Agreement x := by
  cases h : v.isValid x with
  | true =>
      have hvalidate : v.validate x = .ok () := by simp [validate, h]
      have hreport : v.report x = ⟨none⟩ := by simp [report, hvalidate]
      exact {
        valid_iff_entries := by simp [h, hreport, Report.entries]
        valid_iff_validate := by simp [h, hvalidate]
        explained := by simp [h]
        unexplained := fun _ => by rw [hreport]
        valid_basic := fun _ => by simp [h, hreport, Report.basic, Report.isEmpty, Report.entries]
        valid_detailed := fun _ => by
          simp [h, hreport, Report.detailed, Report.isEmpty, Report.entries] }
  | false =>
      have hvalidate : v.validate x =
          .error ⟨some (v.root.explain v.slots (v.root.steps v.slots x) x .root)⟩ := by
        simp [validate, h]
      have hreport : v.report x =
          ⟨some (v.root.explain v.slots (v.root.steps v.slots x) x .root)⟩ := by
        simp [report, hvalidate]
      have hentries : (v.root.explain v.slots (v.root.steps v.slots x) x .root).entries ≠ [] :=
        Node.entries_explain_ne_nil h
      have hempty : (v.report x).isEmpty = false := by
        simpa [hreport, Report.isEmpty, Report.entries] using hentries
      exact {
        valid_iff_entries := by simpa [h, hreport, Report.entries] using hentries
        valid_iff_validate := by simp [h, hvalidate]
        explained := fun _ => ⟨_, rfl, by rw [hreport], by rw [hvalidate, hreport],
          ErrorTree.exists_finding_of_entries_ne_nil _ hentries⟩
        unexplained := by simp [h]
        valid_basic := fun _ => by rw [h]; exact hempty
        valid_detailed := fun _ => by rw [h]; exact hempty }

end Validator
end JsonSchema
