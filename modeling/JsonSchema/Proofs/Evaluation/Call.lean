import JsonSchema.Proofs.Outcome
import JsonSchema.Validation.Explain
import Mathlib.Logic.Relation
import Mathlib.Order.Lattice

/-!
# Calls of evaluation

Evaluating a node asks other nodes in turn, and so does explaining it. The calls are made explicit
here as a relation, and the two recursions are shown to depend on nothing else. A call keeps the
value or goes to a part of it; the references met while the value is kept are exactly those that the
search for cycles looks at.
-/

namespace JsonSchema

/-- A value directly inside another one. -/
inductive Value.Part : Value → Value → Prop
  | item {child items} (h : child ∈ items) : Part child (.array items)
  | member {name child members} (h : (name, child) ∈ members) : Part child (.object members)

namespace Value

theorem one_le_depth (v : Value) : 1 ≤ v.depth := by
  cases v <;> simp [depth]

theorem depth_le_itemDepth {child : Value} {items : List Value} (h : child ∈ items) :
    child.depth ≤ itemDepth items := by
  induction items with
  | nil => simp at h
  | cons x xs ih =>
      rcases List.mem_cons.mp h with rfl | h
      · exact le_max_left _ _
      · exact (ih h).trans (le_max_right _ _)

theorem depth_le_memberDepth {name : String} {child : Value} {members : List (String × Value)}
    (h : (name, child) ∈ members) : child.depth ≤ memberDepth members := by
  induction members with
  | nil => simp at h
  | cons x xs ih =>
      rcases List.mem_cons.mp h with rfl | h
      · exact le_max_left _ _
      · exact (ih h).trans (le_max_right _ _)

/-- A part is nested less deeply than the whole. -/
theorem Part.depth_lt {child v : Value} (h : child.Part v) : child.depth < v.depth := by
  cases h with
  | item h =>
      have := depth_le_itemDepth h
      simp only [depth]
      omega
  | member h =>
      have := depth_le_memberDepth h
      simp only [depth]
      omega

theorem part_of_get? {v child : Value} {name : String} (h : v.get? name = some child) :
    child.Part v := by
  cases v with
  | object members => exact .member (mem_of_lookup h)
  | _ => simp [get?] at h

end Value

namespace Node

variable {slots : List Node}

/-- The nodes that a node asks about the very value that reached it, references apart. -/
inductive InPlace : Node → Node → Prop
  | keyword {l children n} (h : n ∈ children) : InPlace (.keywords l children) n
  | allOf {l branches n} (h : n ∈ branches) : InPlace (.allOf l branches) n
  | anyOf {l branches n} (h : n ∈ branches) : InPlace (.anyOf l branches) n
  | oneOf {l branches n} (h : n ∈ branches) : InPlace (.oneOf l branches) n
  | negated {l n} : InPlace (.not l n) n
  | condition {l n met unmet} : InPlace (.conditional l n met unmet) n
  | met {l condition n unmet} : InPlace (.conditional l condition (some n) unmet) n
  | unmet {l condition met n} : InPlace (.conditional l condition met (some n)) n

/-- The nodes, each with a value, that a node is asked to evaluate or explain on the way. -/
inductive Call (slots : List Node) : Node × Value → Node × Value → Prop
  | inPlace {n n' v} (h : InPlace n n') : Call slots (n, v) (n', v)
  | follow {l slot n v} (h : slots[slot]? = some n) : Call slots (.reference l slot, v) (n, v)
  | property {l members name n v child} (h : (name, n, child) ∈ presentMembers members v) :
      Call slots (.properties l members, v) (n, child)
  | uniformItem {l n v child i} (h : (child, i) ∈ allItems v) :
      Call slots (.uniformItems l n, v) (n, child)
  | positionalItem {l nodes n v child i} (h : ((n, child), i) ∈ positionedItems nodes v) :
      Call slots (.positionalItems l nodes, v) (n, child)

/-! ## Parts of values -/

theorem mem_presentMembers {members : List (String × Node)} {v child : Value} {name : String}
    {n : Node} :
    (name, n, child) ∈ presentMembers members v ↔
      (name, n) ∈ members ∧ v.get? name = some child := by
  simp only [presentMembers, List.mem_filterMap, Option.map_eq_some_iff, Prod.exists,
    Prod.mk.injEq]
  constructor
  · rintro ⟨name', n', hm, child', hget, rfl, rfl, rfl⟩
    exact ⟨hm, hget⟩
  · rintro ⟨hm, hget⟩
    exact ⟨name, n, hm, child, hget, rfl, rfl, rfl⟩

theorem mem_allItems {v child : Value} {i : Nat} :
    (child, i) ∈ allItems v ↔ ∃ items, v = .array items ∧ items[i]? = some child := by
  cases v <;> simp [allItems, List.mem_zipIdx_iff_getElem?]

theorem mem_positionedItems {nodes : List Node} {v child : Value} {n : Node} {i : Nat} :
    ((n, child), i) ∈ positionedItems nodes v ↔
      ∃ items, v = .array items ∧ nodes[i]? = some n ∧ items[i]? = some child := by
  cases v <;> simp [positionedItems, List.mem_zipIdx_iff_getElem?, List.getElem?_zip_eq_some]

/-! ## Heights -/

theorem one_le_height (n : Node) : 1 ≤ n.height := by
  cases n <;> simp [height]

theorem height_le_heights {n : Node} {nodes : List Node} (h : n ∈ nodes) :
    n.height ≤ heights nodes := by
  induction nodes with
  | nil => simp at h
  | cons x xs ih =>
      rcases List.mem_cons.mp h with rfl | h
      · exact le_max_left _ _
      · exact (ih h).trans (le_max_right _ _)

theorem height_le_memberHeights {name : String} {n : Node} {members : List (String × Node)}
    (h : (name, n) ∈ members) : n.height ≤ memberHeights members := by
  induction members with
  | nil => simp at h
  | cons x xs ih =>
      rcases List.mem_cons.mp h with rfl | h
      · exact le_max_left _ _
      · exact (ih h).trans (le_max_right _ _)

theorem InPlace.height_lt {n n' : Node} (h : InPlace n n') : n'.height < n.height := by
  cases h with
  | keyword h | allOf h | anyOf h | oneOf h =>
      have := height_le_heights h
      simp only [height]
      omega
  | negated | condition | met | unmet =>
      simp only [height, branchHeight]
      omega

/-! ## References that keep the value -/

theorem mem_inPlaceReferencesOf {r : SchemaLocation × Nat} {nodes : List Node} :
    r ∈ inPlaceReferencesOf nodes ↔ ∃ n ∈ nodes, r ∈ n.inPlaceReferences := by
  induction nodes with
  | nil => simp [inPlaceReferencesOf]
  | cons n nodes ih => simp [inPlaceReferencesOf, ih]

theorem mem_branchReferences {r : SchemaLocation × Nat} {branch : Option Node} :
    r ∈ branchReferences branch ↔ ∃ n, branch = some n ∧ r ∈ n.inPlaceReferences := by
  cases branch <;> simp [branchReferences]

/-- A listed reference is the node itself or is listed by a node that it asks in place. -/
theorem mem_inPlaceReferences_step {n : Node} {l : SchemaLocation} {slot : Nat} :
    (l, slot) ∈ n.inPlaceReferences ↔
      n = .reference l slot ∨ ∃ n', InPlace n n' ∧ (l, slot) ∈ n'.inPlaceReferences := by
  constructor
  · intro h
    cases n with
    | reference l' slot' =>
        left
        simp only [inPlaceReferences, List.mem_singleton, Prod.mk.injEq] at h
        rw [h.1, h.2]
    | keywords _ children =>
        obtain ⟨n', hn, h⟩ := mem_inPlaceReferencesOf.mp h
        exact .inr ⟨n', .keyword hn, h⟩
    | allOf _ branches =>
        obtain ⟨n', hn, h⟩ := mem_inPlaceReferencesOf.mp h
        exact .inr ⟨n', .allOf hn, h⟩
    | anyOf _ branches =>
        obtain ⟨n', hn, h⟩ := mem_inPlaceReferencesOf.mp h
        exact .inr ⟨n', .anyOf hn, h⟩
    | oneOf _ branches =>
        obtain ⟨n', hn, h⟩ := mem_inPlaceReferencesOf.mp h
        exact .inr ⟨n', .oneOf hn, h⟩
    | not _ negated => exact .inr ⟨negated, .negated, h⟩
    | conditional _ condition met unmet =>
        simp only [inPlaceReferences, List.mem_append, mem_branchReferences] at h
        rcases h with (h | ⟨n', rfl, h⟩) | ⟨n', rfl, h⟩
        · exact .inr ⟨condition, .condition, h⟩
        · exact .inr ⟨n', .met, h⟩
        · exact .inr ⟨n', .unmet, h⟩
    | _ => simp [inPlaceReferences] at h
  · rintro (rfl | ⟨n', hstep, h⟩)
    · simp [inPlaceReferences]
    · cases hstep with
      | keyword hn | allOf hn | anyOf hn | oneOf hn =>
          exact mem_inPlaceReferencesOf.mpr ⟨n', hn, h⟩
      | negated => exact h
      | condition | met | unmet =>
          simp only [inPlaceReferences, List.mem_append, branchReferences]
          tauto

/-- The references that are listed for a node are exactly those that evaluation comes to while it
keeps the value and follows no reference. -/
theorem mem_inPlaceReferences_iff {n : Node} {l : SchemaLocation} {slot : Nat} :
    (l, slot) ∈ n.inPlaceReferences ↔ Relation.ReflTransGen InPlace n (.reference l slot) := by
  constructor
  · intro h
    induction hk : n.height using Nat.strong_induction_on generalizing n with
    | _ k ih =>
        rcases mem_inPlaceReferences_step.mp h with rfl | ⟨n', hstep, h'⟩
        · exact .refl
        · exact .head hstep (ih n'.height (hk ▸ hstep.height_lt) h' rfl)
  · intro h
    induction h using Relation.ReflTransGen.head_induction_on with
    | refl => simp [inPlaceReferences]
    | head hstep _ ih => exact mem_inPlaceReferences_step.mpr (.inr ⟨_, hstep, ih⟩)

/-! ## The recursions depend on calls only -/

theorem acceptsStep_congr {n : Node} {v : Value} {f g : Node → Value → Bool}
    (h : ∀ n' v', Call slots (n, v) (n', v') → f n' v' = g n' v') :
    acceptsStep slots f n v = acceptsStep slots g n v := by
  cases n with
  | boolean _ _ | check _ _ | required _ _ => rfl
  | keywords _ children =>
      exact all_congr_of_mem fun n hn => h n v (.inPlace (.keyword hn))
  | reference l slot =>
      cases hs : slots[slot]? with
      | none => simp [acceptsStep, hs]
      | some n => simpa [acceptsStep, hs] using h n v (.follow hs)
  | properties _ members =>
      exact all_congr_of_mem fun m hm => h m.2.1 m.2.2 (.property hm)
  | uniformItems _ n =>
      exact all_congr_of_mem fun m hm => h n m.1 (.uniformItem hm)
  | positionalItems _ nodes =>
      exact all_congr_of_mem fun m hm => h m.1.1 m.1.2 (.positionalItem hm)
  | allOf _ branches =>
      exact all_congr_of_mem fun n hn => h n v (.inPlace (.allOf hn))
  | anyOf _ branches =>
      exact any_congr_of_mem fun n hn => h n v (.inPlace (.anyOf hn))
  | oneOf _ branches =>
      have hcount : branches.countP (fun n => f n v) = branches.countP (fun n => g n v) :=
        List.countP_congr fun n hn => by rw [h n v (.inPlace (.oneOf hn))]
      simp only [acceptsStep, hcount]
  | not _ n => simp only [acceptsStep, h n v (.inPlace .negated)]
  | conditional _ condition met unmet =>
      simp only [acceptsStep, h condition v (.inPlace .condition)]
      split
      · cases met with
        | none => rfl
        | some n => exact h n v (.inPlace .met)
      · cases unmet with
        | none => rfl
        | some n => exact h n v (.inPlace .unmet)

theorem explainLast_congr {branches : List Node} {f g : Node → ErrorTree}
    (h : ∀ n ∈ branches, f n = g n) : explainLast f branches = explainLast g branches := by
  cases hb : branches.getLast? with
  | none => simp [explainLast, hb]
  | some n => simp [explainLast, hb, h n (List.mem_of_getLast? hb)]

theorem explainStep_congr {n : Node} {v : Value} {path : Pointer} {f g : Node → Value → Bool}
    {why why' : Node → Value → Pointer → ErrorTree}
    (h : ∀ n' v', Call slots (n, v) (n', v') → f n' v' = g n' v')
    (hwhy : ∀ n' v' path, Call slots (n, v) (n', v') → why n' v' path = why' n' v' path) :
    explainStep slots f why n v path = explainStep slots g why' n v path := by
  cases n with
  | boolean _ _ | check _ _ | required _ _ | not _ _ => rfl
  | keywords l children =>
      exact congrArg (ErrorTree.group l path) (map_filter_congr
        (fun n hn => by simp only [h n v (.inPlace (.keyword hn))])
        fun n hn => hwhy n v path (.inPlace (.keyword hn)))
  | reference l slot =>
      cases hs : slots[slot]? with
      | none => simp [explainStep, hs]
      | some n => simp [explainStep, hs, hwhy n v path (.follow hs)]
  | properties l members =>
      exact congrArg (ErrorTree.group l path) (map_filter_congr
        (fun m hm => by simp only [h m.2.1 m.2.2 (.property hm)])
        fun m hm => hwhy m.2.1 m.2.2 (path.key m.1) (.property hm))
  | uniformItems l n =>
      exact congrArg (ErrorTree.group l path) (map_filter_congr
        (fun m hm => by simp only [h n m.1 (.uniformItem hm)])
        fun m hm => hwhy n m.1 (path.index m.2) (.uniformItem hm))
  | positionalItems l nodes =>
      exact congrArg (ErrorTree.group l path) (map_filter_congr
        (fun m hm => by simp only [h m.1.1 m.1.2 (.positionalItem hm)])
        fun m hm => hwhy m.1.1 m.1.2 (path.index m.2) (.positionalItem hm))
  | allOf l branches =>
      exact congrArg (ErrorTree.group l path) (map_filter_congr
        (fun n hn => by simp only [h n v (.inPlace (.allOf hn))])
        fun n hn => hwhy n v path (.inPlace (.allOf hn)))
  | anyOf l branches =>
      exact congrArg (ErrorTree.node l l.pointer path (some ⟨.anyOf, v⟩))
        (explainLast_congr fun n hn => hwhy n v path (.inPlace (.anyOf hn)))
  | oneOf l branches =>
      have hmatched : (branches.zipIdx.filter fun m => !!f m.1 v) =
          branches.zipIdx.filter fun m => !!g m.1 v :=
        List.filter_congr fun m hm => by
          simp only [h m.1 v (.inPlace (.oneOf (List.fst_mem_of_mem_zipIdx hm)))]
      have hlast : explainLast (fun n => why n v path) branches =
          explainLast (fun n => why' n v path) branches :=
        explainLast_congr fun n hn => hwhy n v path (.inPlace (.oneOf hn))
      simp only [explainStep, hmatched, hlast]
  | conditional l condition met unmet =>
      simp only [explainStep, h condition v (.inPlace .condition)]
      split
      · cases unmet with
        | none => rfl
        | some n => simp [hwhy n v path (.inPlace .unmet)]
      · cases met with
        | none => rfl
        | some n => simp [hwhy n v path (.inPlace .met)]

end Node
end JsonSchema
