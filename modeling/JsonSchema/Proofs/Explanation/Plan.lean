import JsonSchema.Proofs.Evaluation.Call
import JsonSchema.Proofs.Value.Position
import JsonSchema.Validation.Validator

/-!
# What explanation says and asks

A step of explanation says at most what failed at the node itself and asks other nodes in turn. Both
are data here, apart from what is made of the answers. Everything that is asked is a call of
evaluation too, and it has failed where the node has.
-/

namespace JsonSchema.Node

/-- What is said of a node, and the nodes that are asked, each with a value and its path. -/
structure Plan where
  failure : Option Failure := none
  /-- Failures at the node itself, in nodes of their own below it. -/
  failures : List Failure := []
  asked : List (Node × Value × Pointer) := []

variable {slots : List Node} {call : Node → Value → Bool} {n : Node} {v : Value} {path : Pointer}

/-- The plan for a value that a node does not accept. -/
def plan (slots : List Node) (call : Node → Value → Bool) (n : Node) (v : Value) (path : Pointer) :
    Plan :=
  let fails (n : Node) (v : Value) : Bool := !call n v
  match n with
  | boolean _ _ => { failure := some .falseSchema }
  | keywords _ children => { asked := (children.filter (fails · v)).map fun n => (n, v, path) }
  | reference _ slot => { asked := (slots[slot]?).toList.map fun n => (n, v, path) }
  | check _ c => { failure := some (c.failure v) }
  | required _ names => match v.missing names with
    | [name] => { failure := some (.required name) }
    | missing => { failures := missing.map .required }
  | properties _ members =>
    { asked := ((presentMembers members v).filter fun (_, n, child) => fails n child).map
        fun (name, n, child) => (n, child, path.key name) }
  | uniformItems _ n =>
    { asked := ((allItems v).filter fun (child, _) => fails n child).map
        fun (child, i) => (n, child, path.index i) }
  | positionalItems _ nodes =>
    { asked := ((positionedItems nodes v).filter fun ((n, child), _) => fails n child).map
        fun ((n, child), i) => (n, child, path.index i) }
  | allOf _ branches => { asked := (branches.filter (fails · v)).map fun n => (n, v, path) }
  | anyOf _ branches =>
    { failure := some .anyOf, asked := branches.getLast?.toList.map fun n => (n, v, path) }
  | oneOf _ branches =>
    match (branches.zipIdx.filter fun (n, _) => !fails n v).map Prod.snd with
    | [] =>
      { failure := some .oneOfNone, asked := branches.getLast?.toList.map fun n => (n, v, path) }
    | matched => { failure := some (.oneOfSeveral matched) }
  | not _ _ => { failure := some .not }
  | conditional _ condition met unmet =>
    { asked := (if fails condition v then unmet else met).toList.map fun n => (n, v, path) }

/-- What is behind a reference is moved to it. -/
def moved (n target : Node) (tree : ErrorTree) : ErrorTree :=
  match n with
  | reference l _ => tree.rebase target.location.pointer l.pointer
  | _ => tree

/-- A step of explanation carries out the plan. -/
theorem explainStep_eq {why : Node → Value → Pointer → ErrorTree} :
    explainStep slots call why n v path =
      .node n.location n.location.pointer path ((plan slots call n v path).failure.map (⟨·, v⟩))
        ((plan slots call n v path).failures.map (.leaf n.location path v) ++
          (plan slots call n v path).asked.map fun a => moved n a.1 (why a.1 a.2.1 a.2.2)) := by
  cases n with
  | reference l slot =>
      cases hs : slots[slot]? <;>
        simp [explainStep, plan, hs, moved, ErrorTree.group, location]
  | required l names =>
      rcases hm : v.missing names with _ | ⟨name, _ | ⟨name', rest⟩⟩ <;>
        simp [explainStep, plan, hm, location, ErrorTree.leaf, ErrorTree.group]
  | oneOf l branches =>
      cases hm : (branches.zipIdx.filter fun m => !!call m.1 v).map Prod.snd with
      | nil =>
          simp only [explainStep, plan, location, hm]
          cases hb : branches.getLast? <;> simp [explainLast, hb, moved]
      | cons i matched =>
          simp only [explainStep, plan, location, hm]
          simp [ErrorTree.leaf]
  | anyOf l branches =>
      cases hb : branches.getLast? <;> simp [explainStep, plan, location, explainLast, hb, moved]
  | conditional l condition met unmet =>
      simp only [explainStep, plan, location]
      split
      · cases unmet <;> simp [ErrorTree.group, moved]
      · cases met <;> simp [ErrorTree.group, moved]
  | _ => simp [explainStep, plan, location, moved, ErrorTree.leaf, ErrorTree.group]

/-- A node that is asked: with the value or a part of it, and not in vain. -/
structure Asked (slots : List Node) (call : Node → Value → Bool) (n : Node) (v : Value)
    (path : Pointer) (a : Node × Value × Pointer) : Prop where
  isCall : Call slots (n, v) (a.1, a.2.1)
  /-- What is asked has failed where the node has. -/
  fails : acceptsStep slots call n v = false → call a.1 a.2.1 = false
  path : ∃ rest, a.2.2 = path ++ rest ∧ v.at? rest = some a.2.1

theorem Asked.same {n' : Node} (hcall : Call slots (n, v) (n', v))
    (hfails : acceptsStep slots call n v = false → call n' v = false) :
    Asked slots call n v path (n', v, path) :=
  ⟨hcall, hfails, .root, by simp, rfl⟩

theorem Asked.child {n' : Node} {child : Value} {token : String}
    (hcall : Call slots (n, v) (n', child)) (hfails : (!call n' child) = true)
    (hchild : v.child? token = some child) :
    Asked slots call n v path (n', child, path.key token) :=
  ⟨hcall, fun _ => by simpa using hfails, ⟨[token]⟩, rfl, Value.follow?_singleton.trans hchild⟩

/-- Everything on the plan is asked. -/
theorem asked_of_mem {a : Node × Value × Pointer} (h : a ∈ (plan slots call n v path).asked) :
    Asked slots call n v path a := by
  cases n with
  | boolean | check | not => simp [plan] at h
  | required l names =>
      simp only [plan] at h
      split at h <;> simp at h
  | keywords l children =>
      simp only [plan, List.mem_map, List.mem_filter] at h
      obtain ⟨n, ⟨hn, hfails⟩, rfl⟩ := h
      exact .same (.inPlace (.keyword hn)) fun _ => by simpa using hfails
  | allOf l branches =>
      simp only [plan, List.mem_map, List.mem_filter] at h
      obtain ⟨n, ⟨hn, hfails⟩, rfl⟩ := h
      exact .same (.inPlace (.allOf hn)) fun _ => by simpa using hfails
  | reference l slot =>
      simp only [plan, List.mem_map, Option.mem_toList] at h
      obtain ⟨n, hn, rfl⟩ := h
      exact .same (.follow hn) fun hfails => by simpa [acceptsStep, hn] using hfails
  | properties l members =>
      simp only [plan, List.mem_map, List.mem_filter] at h
      obtain ⟨⟨name, n, child⟩, ⟨hm, hfails⟩, rfl⟩ := h
      exact .child (.property hm) hfails (Value.child?_of_get? (mem_presentMembers.mp hm).2)
  | uniformItems l n =>
      simp only [plan, List.mem_map, List.mem_filter] at h
      obtain ⟨⟨child, i⟩, ⟨hm, hfails⟩, rfl⟩ := h
      obtain ⟨items, rfl, hget⟩ := mem_allItems.mp hm
      exact .child (.uniformItem hm) hfails (Value.child?_toString hget)
  | positionalItems l nodes =>
      simp only [plan, List.mem_map, List.mem_filter] at h
      obtain ⟨⟨⟨n, child⟩, i⟩, ⟨hm, hfails⟩, rfl⟩ := h
      obtain ⟨items, rfl, -, hget⟩ := mem_positionedItems.mp hm
      exact .child (.positionalItem hm) hfails (Value.child?_toString hget)
  | anyOf l branches =>
      simp only [plan, List.mem_map, Option.mem_toList] at h
      obtain ⟨n, hn, rfl⟩ := h
      have hmem := List.mem_of_getLast? hn
      refine .same (.inPlace (.anyOf hmem)) fun hfails => ?_
      simpa using List.any_eq_false.mp hfails n hmem
  | oneOf l branches =>
      simp only [plan] at h
      split at h
      · rename_i hnone
        simp only [List.mem_map, Option.mem_toList] at h
        obtain ⟨n, hn, rfl⟩ := h
        have hmem := List.mem_of_getLast? hn
        refine .same (.inPlace (.oneOf hmem)) fun _ => ?_
        obtain ⟨i, hi⟩ := List.mem_iff_getElem?.mp hmem
        have hzip : (n, i) ∈ branches.zipIdx := List.mem_zipIdx_iff_getElem?.mpr hi
        simpa using List.filter_eq_nil_iff.mp (List.map_eq_nil_iff.mp hnone) (n, i) hzip
      · simp at h
  | conditional l condition met unmet =>
      simp only [plan, List.mem_map, Option.mem_toList] at h
      obtain ⟨n, hn, rfl⟩ := h
      by_cases hcondition : call condition v = true
      · obtain rfl : met = some n := by simpa [hcondition] using hn
        exact .same (.inPlace .met) fun hfails => by simpa [acceptsStep, hcondition] using hfails
      · obtain rfl : unmet = some n := by simpa [hcondition] using hn
        exact .same (.inPlace .unmet) fun hfails => by simpa [acceptsStep, hcondition] using hfails

end JsonSchema.Node

namespace JsonSchema.Validator

/-- A report has a tree if the value failed: the explanation of the root. -/
theorem report_tree_iff {v : Validator} {x : Value} {tree : ErrorTree} :
    (v.report x).tree = some tree ↔ v.isValid x = false ∧
      v.root.explain v.slots (v.root.steps v.slots x) x .root = tree := by
  cases hx : v.isValid x <;> simp [report, validate, hx]

end JsonSchema.Validator
