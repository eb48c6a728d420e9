import JsonSchema.Proofs.Compilation.Build
import JsonSchema.Proofs.Compilation.Inside
import JsonSchema.Proofs.Evaluation.Agreement
import JsonSchema.Proofs.Explanation.Plan
import JsonSchema.Proofs.Pointer.Written

/-!
# The way through the schemas

Explanation names the places of a slot as in its document, and moves what is behind a reference to
where the reference was. Here the way is carried along instead, and the two trees are the same:
whatever is behind a reference lies below the place that it is moved from.
-/

namespace JsonSchema

@[simp] theorem Pointer.below_append (p q : Pointer) : (p ++ q).below p = some q :=
  below_eq_some_iff.mpr rfl

/-- Where explanation is on its way: the schema in the slot that it is in, and the way there. -/
structure Route where
  slot : Pointer
  path : Pointer

namespace Route

/-- The way to a place in the slot. -/
def keywordLocation (route : Route) (p : Pointer) : Pointer :=
  route.path ++ ⟨p.tokens.drop route.slot.tokens.length⟩

theorem keywordLocation_append (slot path rest : Pointer) :
    (Route.mk slot path).keywordLocation (slot ++ rest) = path ++ rest := by
  simp [keywordLocation]

/-- The route on which a node that is asked is explained: the target of a reference has a slot of
its own. -/
def next (route : Route) (n target : Node) : Route :=
  match n with
  | .reference l _ => ⟨target.location.pointer, route.keywordLocation l.pointer⟩
  | _ => route

end Route

namespace Node

/-- Why a node does not accept a value that is found at a path, at the end of a route, given that
evaluation ends in `fuel` steps. -/
def explainOn (slots : List Node) : Nat → Route → Node → Value → Pointer → ErrorTree
  | 0, route, n, _, path => .node n.location (route.keywordLocation n.location.pointer) path none []
  | fuel + 1, route, n, v, path =>
    let plan := n.plan slots (accepts slots fuel) v path
    let here (f : Option Failure) (children : List ErrorTree) : ErrorTree :=
      .node n.location (route.keywordLocation n.location.pointer) path (f.map (⟨·, v⟩)) children
    here plan.failure ((plan.failures.map fun f => here (some f) []) ++
      plan.asked.map fun (n', v', path') => explainOn slots fuel (route.next n n') n' v' path')

end Node

namespace ErrorTree

variable {p q r rest : Pointer}

theorem rebaseAll_eq_map (trees : List ErrorTree) :
    rebaseAll p q trees = trees.map (rebase p q) := by
  induction trees with
  | nil => rfl
  | cons t trees ih => rw [rebaseAll, ih, List.map_cons]

/-- All keyword locations of a tree are below a pointer. -/
def Below (p : Pointer) (t : ErrorTree) : Prop :=
  ∀ u, Within u t → ∃ rest, u.keywordLocation = p ++ rest

theorem below_node_iff {l : SchemaLocation} {k i : Pointer} {f : Option Finding}
    {children : List ErrorTree} :
    Below p (.node l k i f children) ↔ (∃ rest, k = p ++ rest) ∧ ∀ t ∈ children, Below p t := by
  constructor
  · exact fun h => ⟨h _ .self, fun t ht u hu => h u (.descend ht hu)⟩
  · rintro ⟨hk, hchildren⟩ u hu
    cases hu with
    | self => exact hk
    | descend hmem hu => exact hchildren _ hmem u hu

mutual

/-- What is below one pointer is below the other one once it was moved. -/
theorem below_rebase : ∀ {t : ErrorTree}, Below p t → Below q (rebase p q t)
  | .node l k i f children, h => by
    obtain ⟨⟨rest, rfl⟩, hchildren⟩ := below_node_iff.mp h
    rw [rebase, Pointer.below_append]
    exact below_node_iff.mpr ⟨⟨rest, rfl⟩, below_rebaseAll hchildren⟩

theorem below_rebaseAll : ∀ {trees : List ErrorTree}, (∀ t ∈ trees, Below p t) →
    ∀ t ∈ rebaseAll p q trees, Below q t
  | [], _ => by simp [rebaseAll]
  | t :: rest, h => by
    obtain ⟨ht, hrest⟩ := List.forall_mem_cons.mp h
    exact List.forall_mem_cons.mpr ⟨below_rebase ht, below_rebaseAll hrest⟩

end

mutual

theorem rebase_self : ∀ {t : ErrorTree}, Below p t → rebase p p t = t
  | .node l k i f children, h => by
    obtain ⟨⟨rest, rfl⟩, hchildren⟩ := below_node_iff.mp h
    simp only [rebase, Pointer.below_append, rebaseAll_self hchildren]

theorem rebaseAll_self : ∀ {trees : List ErrorTree}, (∀ t ∈ trees, Below p t) →
    rebaseAll p p trees = trees
  | [], _ => rfl
  | t :: trees, h => by
    obtain ⟨ht, htrees⟩ := List.forall_mem_cons.mp h
    rw [rebaseAll, rebase_self ht, rebaseAll_self htrees]

end

theorem Below.of_append {t : ErrorTree} (h : Below (p ++ rest) t) : Below p t := by
  intro u hu
  obtain ⟨below, hbelow⟩ := h u hu
  exact ⟨rest ++ below, by rw [hbelow, Pointer.append_assoc]⟩

mutual

/-- To move a tree twice is to move it once. -/
theorem rebase_rebase : ∀ {t : ErrorTree}, Below p t →
    rebase q r (rebase p (q ++ rest) t) = rebase p (r ++ rest) t
  | .node l k i f children, h => by
    obtain ⟨⟨below, rfl⟩, hchildren⟩ := below_node_iff.mp h
    simp only [rebase, Pointer.below_append, Pointer.append_assoc, rebaseAll_rebaseAll hchildren]

theorem rebaseAll_rebaseAll : ∀ {trees : List ErrorTree}, (∀ t ∈ trees, Below p t) →
    rebaseAll q r (rebaseAll p (q ++ rest) trees) = rebaseAll p (r ++ rest) trees
  | [], _ => rfl
  | t :: trees, h => by
    obtain ⟨ht, htrees⟩ := List.forall_mem_cons.mp h
    rw [rebaseAll, rebaseAll, rebaseAll, rebase_rebase ht, rebaseAll_rebaseAll htrees]

end

end ErrorTree

namespace Node

open ErrorTree

variable {slots : List Node} {root : Pointer}

/-- A node asks another one in the tree of its slot. -/
def InTree (n n' : Node) : Prop := ∃ v v', Call [] (n, v) (n', v')

/-- A node, and all that are below it in the tree of its slot, have locations below a pointer. -/
def Under (root : Pointer) (n : Node) : Prop :=
  ∀ m, Relation.ReflTransGen InTree n m → ∃ rest, m.location.pointer = root ++ rest

theorem Under.location {n : Node} (h : Under root n) : ∃ rest, n.location.pointer = root ++ rest :=
  h n .refl

theorem inTree_or_reference {n n' : Node} {v v' : Value} (h : Call slots (n, v) (n', v')) :
    InTree n n' ∨ ∃ l slot, n = .reference l slot ∧ slots[slot]? = some n' ∧ v' = v := by
  cases h with
  | inPlace h => exact .inl ⟨v, v, .inPlace h⟩
  | @follow l slot _ _ h => exact .inr ⟨l, slot, rfl, h, rfl⟩
  | property h => exact .inl ⟨v, v', .property h⟩
  | uniformItem h => exact .inl ⟨v, v', .uniformItem h⟩
  | positionalItem h => exact .inl ⟨v, v', .positionalItem h⟩

theorem Under.of_inTree {n n' : Node} (h : Under root n) (hstep : InTree n n') : Under root n' :=
  fun m hm => h m (.head hstep hm)

/-- The targets of references are in slots whose nodes are below them. -/
def Slotted (slots : List Node) : Prop :=
  ∀ (slot : Nat) target, slots[slot]? = some target → Under target.location.pointer target

theorem moved_of_inTree {n n' : Node} (h : InTree n n') (route : Route) (t : ErrorTree) :
    moved n n' t = t ∧ route.next n n' = route := by
  cases n with
  | reference =>
      obtain ⟨v, v', h⟩ := h
      cases h with
      | inPlace h => cases h
      | follow h => simp at h
  | _ => exact ⟨rfl, rfl⟩

/-- If what a node asks is explained alike, whether the way is carried along or not, then so is what
is made of it behind the node. -/
theorem explainOn_next (hslots : Slotted slots) {n n' : Node} {v v' : Value}
    (hn : Under root n) (hcall : Call slots (n, v) (n', v')) (explained : ErrorTree)
    (explainedOn : Route → ErrorTree)
    (ih : ∀ root', Under root' n' → Below root' explained ∧
      ∀ way, explainedOn ⟨root', way⟩ = rebase root' way explained) :
    Below root (moved n n' explained) ∧ ∀ way,
      explainedOn (Route.next ⟨root, way⟩ n n') = rebase root way (moved n n' explained) := by
  rcases inTree_or_reference hcall with hstep | ⟨l, slot, rfl, hs, rfl⟩
  · obtain ⟨hbelow, hway⟩ := ih root (hn.of_inTree hstep)
    have hmoved (way : Pointer) := moved_of_inTree hstep ⟨root, way⟩ explained
    refine ⟨(hmoved root).1.symm ▸ hbelow, fun way => ?_⟩
    rw [(hmoved way).1, (hmoved way).2, hway]
  · obtain ⟨hbelow, hway⟩ := ih _ (hslots slot n' hs)
    obtain ⟨rest, hrest⟩ : ∃ rest, l.pointer = root ++ rest := hn.location
    refine ⟨?_, fun way => ?_⟩
    · have hmoved : Below (root ++ rest) (moved (.reference l slot) n' explained) := by
        rw [moved, ← hrest]
        exact below_rebase hbelow
      exact hmoved.of_append
    · rw [Route.next, hway, moved, hrest, Route.keywordLocation_append, rebase_rebase hbelow]

/-- What is said of a node lies below the place of its slot, and moved to the end of a route it is
what is said on that route. -/
theorem below_explain (hslots : Slotted slots) {fuel : Nat} {n : Node} {v : Value}
    {path : Pointer} (hn : Under root n) : Below root (n.explain slots fuel v path) ∧
      ∀ way, explainOn slots fuel ⟨root, way⟩ n v path =
        rebase root way (n.explain slots fuel v path) := by
  induction fuel generalizing root n v path with
  | zero =>
      obtain ⟨rest, hrest⟩ := hn.location
      refine ⟨below_node_iff.mpr ⟨⟨rest, hrest⟩, by simp⟩, fun way => ?_⟩
      simp [explainOn, explain, group, rebase, rebaseAll, hrest, Route.keywordLocation_append]
  | succ fuel ih =>
      obtain ⟨rest, hrest⟩ := hn.location
      have hasked {a : Node × Value × Pointer}
          (ha : a ∈ (plan slots (accepts slots fuel) n v path).asked) :=
        explainOn_next hslots hn (asked_of_mem ha).isCall (a.1.explain slots fuel a.2.1 a.2.2)
          (fun route => explainOn slots fuel route a.1 a.2.1 a.2.2) fun root' hroot' => ih hroot'
      rw [explain, explainStep_eq]
      refine ⟨below_node_iff.mpr ⟨⟨rest, hrest⟩, fun t ht => ?_⟩, fun way => ?_⟩
      · rcases List.mem_append.mp ht with ht | ht
        · obtain ⟨f, -, rfl⟩ := List.mem_map.mp ht
          exact below_node_iff.mpr ⟨⟨rest, hrest⟩, by simp⟩
        · obtain ⟨a, ha, rfl⟩ := List.mem_map.mp ht
          exact (hasked ha).1
      · have hfailures : ∀ f, rebase root way (leaf n.location path v f) =
            .node n.location (way ++ rest) path (some ⟨f, v⟩) [] := by
          simp [leaf, rebase, rebaseAll, hrest]
        simp only [explainOn, rebase, rebaseAll_eq_map, hrest, Route.keywordLocation_append,
          Pointer.below_append, List.map_append, List.map_map]
        congr 2
        · exact List.map_congr_left fun f _ => (hfailures f).symm
        · exact List.map_congr_left fun a ha => (hasked ha).2 way

end Node

/-! ## Reports of built validators -/

open Compile

namespace Node

variable {settings : Settings} {s : State} {slots : List Node} {root : Pointer}

/-- The compiled form of a schema below a pointer lies below it. -/
theorem under_of_sited {n : Node}
    (h : Sited settings s (fun c _ => ∃ rest, c.place.pointer = root ++ rest) n) :
    Under root n := by
  intro m hm
  have hsited : Sited settings s (fun c _ => ∃ rest, c.place.pointer = root ++ rest) m := by
    induction hm with
    | refl => exact h
    | tail _ hstep ih =>
        obtain ⟨v, v', hcall⟩ := hstep
        rcases ih.of_call (inherited_below root) hcall with ⟨l, slot, rfl⟩ | hm
        · cases hcall with
          | inPlace h => cases h
          | follow h => simp at h
        · exact hm
  cases hsited with
  | schema hP h =>
      rw [h.location_eq]
      exact hP
  | @member c inner members name v m hP hinside hmem h =>
      obtain ⟨rest, hrest⟩ := hP
      refine ⟨rest.key name, ?_⟩
      simp [h.location_eq, Context.location, Context.key, Context.place_of_inside hinside, hrest,
        Pointer.key, Pointer.append_eq]

end Node

theorem Options.Linked.slotted {settings : Settings} {s : State} {uri base : Url} {schema : Value}
    {v : Validator} (h : Linked settings uri base schema v s) : Node.Slotted v.slots := by
  intro slot target htarget
  obtain ⟨taken, htaken, hnode⟩ := exists_getElem?_of_forall₂ (forall₂_of_mapM_some h.nodes) htarget
  obtain ⟨c, x, n, rfl, -, hn⟩ := h.exists_schema (List.mem_of_getElem? htaken)
  obtain rfl : n = target := Option.some.inj hnode
  refine Node.under_of_sited (.schema ⟨.root, ?_⟩ hn)
  rw [hn.location_eq, Pointer.append_root]
  rfl

/-- The keyword locations of the report on a value are ways through the schemas. -/
structure Validator.EvaluationPaths (v : Validator) (x : Value) : Prop where
  /-- The report is what is said on the way. -/
  tree : (v.report x).tree =
    some (v.root.explainOn v.slots (v.root.steps v.slots x) ⟨.root, .root⟩ x .root)
  /-- A node in the tree of a slot has a place relative to the slot, to which the way goes on. -/
  relative : ∀ (slot : Nat) target n, v.slots[slot]? = some target →
    Relation.ReflTransGen Node.InTree target n →
      ∃ rest, n.location.pointer.below target.location.pointer = some rest ∧
        ∀ path, Route.keywordLocation ⟨target.location.pointer, path⟩ n.location.pointer =
          path ++ rest
  /-- Whatever is explained behind a reference is below the place that it is moved from. -/
  moved : ∀ (slot : Nat) target fuel y path u, v.slots[slot]? = some target →
    ErrorTree.Within u (target.explain v.slots fuel y path) →
      ∃ rest, u.keywordLocation.below target.location.pointer = some rest

namespace Options

variable {r r' : Registry} {o : Options} {store : Store} {schema : Value} {v : Validator}

theorem evaluationPaths_of_buildIn (hr : r.Reachable)
    (h : o.buildIn store r schema = (.ok v, r')) {x : Value} (hx : v.isValid x = false) :
    v.EvaluationPaths x := by
  obtain ⟨hbuilds⟩ := exists_builds h
  obtain ⟨s, rfl, -, hlinked⟩ := hbuilds.exists_linked hr.wellIndexed
  have hslots := hlinked.slotted
  refine ⟨?_, ?_, ?_⟩
  · have hroot : Node.Under .root v.root :=
      Node.under_of_sited (.schema ⟨.root, rfl⟩ hlinked.root_eq)
    obtain ⟨hbelow, hway⟩ := Node.below_explain hslots hroot
    rw [hway, ErrorTree.rebase_self hbelow]
    exact Validator.report_tree_iff.mpr ⟨hx, rfl⟩
  · intro slot target n htarget hn
    obtain ⟨rest, hrest⟩ := hslots slot target htarget n hn
    exact ⟨rest, by rw [hrest, Pointer.below_append], fun path => by
      rw [hrest, Route.keywordLocation_append]⟩
  · intro slot target fuel y path u htarget hu
    obtain ⟨rest, hrest⟩ := (Node.below_explain hslots (hslots slot target htarget)).1 u hu
    exact ⟨rest, by rw [hrest, Pointer.below_append]⟩

/-- Lists of labels, whose schemas refer to each other. -/
def chained : Value := .object [("properties", .object [("next", .object [("$ref", .string "#")]),
    ("label", .object [("$ref", .string "#/$defs/label")])]),
  ("$defs", .object [("label", .object [("type", .string "string"),
    ("not", .object [("$ref", .string "#/$defs/empty")])]),
    ("empty", .object [("const", .string "")])])]

theorem evaluationPaths_chained : ∃ v r' x, buildIn {} {} {} chained = (.ok v, r') ∧
    v.isValid x = false ∧ v.EvaluationPaths x ∧
      (v.report x).entries.map Entry.keywordLocation =
        [⟨["properties", "next", "$ref", "properties", "label", "$ref", "type"]⟩] := by
  let x : Value := .object [("next", .object [("label", .null)])]
  have hreport : ((buildIn {} {} {} chained).1.toOption.map fun v =>
      (v.isValid x, (v.report x).entries.map Entry.keywordLocation)) =
        some (false, [⟨["properties", "next", "$ref", "properties", "label", "$ref",
          "type"]⟩]) := by
    decide +kernel
  rcases h : buildIn {} {} {} chained with ⟨_ | v, r'⟩
  · simp [h, Except.toOption] at hreport
  · simp only [h, Except.toOption, Option.map_some, Option.some.injEq, Prod.mk.injEq] at hreport
    exact ⟨v, r', x, rfl, hreport.1, evaluationPaths_of_buildIn .empty h hreport.1, hreport.2⟩

end Options
end JsonSchema
