import JsonSchema.Proofs.Explanation.Outcomes
import JsonSchema.Proofs.Value.Paths

/-!
# Reports are complete

What a report lists is what a walk over the text of the schema finds to fail: every check that the
schema makes of the value or of a part of it, once for each way to it and in the order in which they
are declared. Each kind of node is shown to report what the checks of its schema do, provided that
the nodes that it asks do so. Evaluation ends, and so this carries over to whole validators.
-/

namespace JsonSchema

open Compile Meaning

variable {settings : Settings} {s : State} {slots : List Node} {E : Surroundings} {steps : Nat}
variable {checks : Visit → Value → List LeafCheck} {route : Route} {n : Node} (here : Visit)

/-- Nodes report what the checks of their schemas do, where a node is asked from a given one. -/
def Explains (settings : Settings) (s : State) (slots : List Node) (steps : Nat)
    (checks : Visit → Value → List LeafCheck) (n : Node) (x : Value) : Prop :=
  ∀ n' schema (here : Visit) (route : Route), Node.Call slots (n, x) (n', here.value) →
    Compiled settings s here.context schema n' → route.Reaches here →
      n'.outcomes slots steps route here.value here.path =
        (checks here schema).filterMap LeafCheck.reported

/-! ## Keywords that group others -/

theorem mem_zip_zipIdx {α β : Type} {l : List α} {l' : List β} {p : (α × Nat) × β}
    (h : p ∈ l.zipIdx.zip l') : l[p.1.2]? = some p.1.1 ∧ l'[p.1.2]? = some p.2 := by
  obtain ⟨i, hi, hi'⟩ := mem_zip_iff_getElem?.mp h
  obtain ⟨a, ha, hp⟩ : ∃ a, l[i]? = some a ∧ (a, i) = p.1 := by simpa using hi
  rw [← hp]
  exact ⟨ha, hi'⟩

theorem outcomes_branches {schemas : List Value} {nodes : List Node}
    (hlength : schemas.length = nodes.length)
    (hnodes : ∀ (i : Nat) branch n, schemas[i]? = some branch → nodes[i]? = some n →
      Compiled settings s (here.context.index i) branch n)
    (h : Explains settings s slots steps checks n here.value)
    (hn : ∀ n' ∈ nodes, Node.InPlace n n') (hroute : route.Reaches here) :
    nodes.flatMap (fun n' => n'.outcomes slots steps route here.value here.path) =
      (branchLeaves checks here schemas).filterMap LeafCheck.reported := by
  rw [branchLeaves, List.filterMap_flatMap]
  symm
  refine flatMap_congr_of_zip (by simpa using hlength) fun p hp => ?_
  obtain ⟨hbranch, hnode⟩ := mem_zip_zipIdx hp
  exact (h p.2 p.1.1 (here.index p.1.2) route (.inPlace (hn p.2 (List.mem_of_getElem? hnode)))
    (hnodes p.1.2 p.1.1 p.2 hbranch hnode) (hroute.index p.1.2)).symm

theorem getLast?_cases {α β : Type} {l : List α} {l' : List β} (hlength : l.length = l'.length) :
    (l.getLast? = none ∧ l'.getLast? = none) ∨
      ∃ p ∈ l.zip l', l.getLast? = some p.1 ∧ l'.getLast? = some p.2 := by
  rw [List.getLast?_eq_getElem?, List.getLast?_eq_getElem?, ← hlength]
  cases h : l[l.length - 1]? with
  | none =>
      rw [List.getElem?_eq_none_iff, hlength] at h
      exact .inl ⟨rfl, List.getElem?_eq_none_iff.mpr (hlength ▸ h)⟩
  | some a =>
      have hlt := (List.getElem?_eq_some_iff.mp h).1
      obtain ⟨b, h'⟩ : ∃ b, l'[l.length - 1]? = some b :=
        ⟨_, List.getElem?_eq_getElem (by rwa [← hlength])⟩
      exact .inr ⟨(a, b), mem_zip_iff_getElem?.mpr ⟨_, h, h'⟩, rfl, h'⟩

/-- The last of some nodes reports what the last of their schemas does. -/
theorem outcomes_last {schemas : List Value} {nodes : List Node}
    (hlength : schemas.length = nodes.length)
    (hnodes : ∀ (i : Nat) branch n, schemas[i]? = some branch → nodes[i]? = some n →
      Compiled settings s (here.context.index i) branch n)
    (h : Explains settings s slots steps checks n here.value)
    (hn : ∀ n' ∈ nodes, Node.InPlace n n') (hroute : route.Reaches here) :
    (nodes.getLast?.toList.flatMap fun n' =>
      (n'.outcomes slots steps route here.value here.path).flatMap fun p => p.1 :: p.2) =
        lastEntries checks here schemas := by
  have hlength' : schemas.zipIdx.length = nodes.length := by simpa using hlength
  rw [lastEntries]
  rcases getLast?_cases hlength' with ⟨hnone, hnone'⟩ | ⟨p, hp, hlast, hlast'⟩
  · rw [hnone, hnone']
    rfl
  · obtain ⟨hbranch, hnode⟩ := mem_zip_zipIdx hp
    have hreported := h p.2 p.1.1 (here.index p.1.2) route
      (.inPlace (hn p.2 (List.mem_of_getElem? hnode))) (hnodes p.1.2 p.1.1 p.2 hbranch hnode)
      (hroute.index p.1.2)
    have hentries := flatMap_reported (checks (here.index p.1.2) p.1.1)
    rw [← hreported] at hentries
    simpa [hlast, hlast'] using hentries

/-- A branch that may be absent reports what its schema does. -/
theorem outcomes_branch {schema : Option Value} {node : Option Node}
    (hsome : schema.isSome = node.isSome)
    (hnode : ∀ v n', schema = some v → node = some n' → Compiled settings s here.context v n')
    (h : Explains settings s slots steps checks n here.value)
    (hn : ∀ n' ∈ node, Node.InPlace n n') (hroute : route.Reaches here) :
    node.toList.flatMap (fun n' => n'.outcomes slots steps route here.value here.path) =
      (schema.toList.flatMap (checks here)).filterMap LeafCheck.reported := by
  cases schema with
  | none =>
      cases node with
      | none => rfl
      | some n' => cases hsome
  | some v =>
      cases node with
      | none => cases hsome
      | some n' =>
          simpa using h n' v here route (.inPlace (hn n' rfl)) (hnode v n' rfl rfl) hroute

theorem outcomes_properties {schemas : List (String × Value)} {nodes : List (String × Node)}
    {l : SchemaLocation} (hnames : schemas.map Prod.fst = nodes.map Prod.fst)
    (hnodes : ∀ p ∈ schemas.zip nodes,
      Compiled settings s (here.context.key p.1.1) p.1.2 p.2.2)
    (h : Explains settings s slots steps checks (.properties l nodes) here.value)
    (hroute : route.Reaches here) :
    Node.outcomes slots (steps + 1) route (.properties l nodes) here.value here.path =
      (propertyLeaves checks here schemas).filterMap LeafCheck.reported := by
  have hlength : schemas.length = nodes.length := by simpa using congrArg List.length hnames
  refine (Node.outcomes_of_parts _ _ _ _ _ _ ((Node.presentMembers nodes here.value).map fun m =>
    (m.2.1, m.2.2, here.path.key m.1)) rfl rfl (.inr ?_) ?_).trans ?_
  · rw [List.filter_map]
    rfl
  · rw [List.all_map]
    rfl
  · rw [List.flatMap_map, Node.presentMembers, List.filterMap_eq_flatMap_toList, List.flatMap_assoc,
      propertyLeaves, List.filterMap_flatMap]
    symm
    refine flatMap_congr_of_zip hlength ?_
    rintro ⟨⟨name, schema⟩, ⟨name', node⟩⟩ hp
    obtain rfl : name = name' := fst_eq_of_mem_zip hnames hp
    cases hget : here.value.get? name with
    | none => simp [hget]
    | some child =>
        have hcall : Node.Call slots (.properties l nodes, here.value) (node, child) :=
          .property (Node.mem_presentMembers.mpr ⟨(List.of_mem_zip hp).2, hget⟩)
        have hchild := h node schema ((here.key name).child name child) route hcall (hnodes _ hp)
          ((hroute.key _).child _ _)
        simpa [hget, Route.next] using hchild.symm

theorem outcomes_uniformItems {schema : Value} {l : SchemaLocation}
    (hschema : ∀ schemas, schema ≠ .array schemas)
    (hn : Compiled settings s here.context schema n)
    (h : Explains settings s slots steps checks (.uniformItems l n) here.value)
    (hroute : route.Reaches here) :
    Node.outcomes slots (steps + 1) route (.uniformItems l n) here.value here.path =
      (itemLeaves checks here schema).filterMap LeafCheck.reported := by
  refine (Node.outcomes_of_parts _ _ _ _ _ _ ((Node.allItems here.value).map fun m =>
    (n, m.1, here.path.index m.2)) rfl rfl (.inr ?_) ?_).trans ?_
  · rw [List.filter_map]
    rfl
  · rw [List.all_map]
    rfl
  · rw [List.flatMap_map]
    cases hx : here.value with
    | array items =>
        have hleaves : itemLeaves checks here schema = items.zipIdx.flatMap fun p =>
            checks (here.child (toString p.2) p.1) schema := by
          unfold itemLeaves
          split
          · exact absurd rfl (hschema _)
          · rename_i hitems
            rw [hx] at hitems
            cases hitems
            rfl
          · simp_all
        rw [hleaves, List.filterMap_flatMap]
        refine List.flatMap_congr fun p hp => ?_
        have hcall : Node.Call slots (.uniformItems l n, here.value) (n, p.1) :=
          .uniformItem (i := p.2) (by rw [hx]; exact hp)
        exact h n schema (here.child (toString p.2) p.1) route hcall hn (hroute.child _ _)
    | _ => simp [Node.allItems, itemLeaves, hx]

theorem outcomes_positionalItems {schemas : List Value} {nodes : List Node} {l : SchemaLocation}
    (hlength : schemas.length = nodes.length)
    (hnodes : ∀ (i : Nat) schema n, schemas[i]? = some schema → nodes[i]? = some n →
      Compiled settings s (here.context.index i) schema n)
    (h : Explains settings s slots steps checks (.positionalItems l nodes) here.value)
    (hroute : route.Reaches here) :
    Node.outcomes slots (steps + 1) route (.positionalItems l nodes) here.value here.path =
      (itemLeaves checks here (.array schemas)).filterMap LeafCheck.reported := by
  refine (Node.outcomes_of_parts _ _ _ _ _ _ ((Node.positionedItems nodes here.value).map fun m =>
    (m.1.1, m.1.2, here.path.index m.2)) rfl rfl (.inr ?_) ?_).trans ?_
  · rw [List.filter_map]
    rfl
  · rw [List.all_map]
    rfl
  · rw [List.flatMap_map]
    cases hx : here.value with
    | array items =>
        simp only [itemLeaves, hx, Node.positionedItems]
        rw [List.filterMap_flatMap]
        symm
        refine flatMap_congr_of_zip (by simp [hlength]) fun p hp => ?_
        obtain ⟨i, hi, hi'⟩ := mem_zip_iff_getElem?.mp hp
        obtain ⟨⟨⟨schema, item⟩, j⟩, ⟨⟨node, item'⟩, j'⟩⟩ := p
        obtain ⟨⟨hschema, hitem⟩, rfl⟩ :
            (schemas[i]? = some schema ∧ items[i]? = some item) ∧ i = j := by
          simpa [List.getElem?_zip_eq_some] using hi
        obtain ⟨⟨hnode, hitem'⟩, rfl⟩ :
            (nodes[i]? = some node ∧ items[i]? = some item') ∧ i = j' := by
          simpa [List.getElem?_zip_eq_some] using hi'
        obtain rfl : item = item' := Option.some.inj (hitem.symm.trans hitem')
        have hcall : Node.Call slots (.positionalItems l nodes, here.value) (node, item) :=
          .positionalItem (i := i) (Node.mem_positionedItems.mpr ⟨items, hx, hnode, hitem⟩)
        exact (h node schema ((here.index i).child (toString i) item) route hcall
          (hnodes i schema node hschema hnode) ((hroute.index i).child _ _)).symm
    | _ => simp [Node.positionedItems, itemLeaves, hx]

/-! ## Keywords that check something themselves -/

section Checks

/-- Checks with nothing below them report themselves where they fail. -/
theorem filterMap_reported_leaf {α : Type} (fails : α → Bool) (f : α → Failure) (l : List α) :
    (l.map fun a => here.leaf (if fails a then some (f a) else none) []).filterMap
      LeafCheck.reported = (l.filter fails).map fun a =>
        (⟨here.way, here.context.location, here.path, ⟨f a, here.value⟩⟩, []) := by
  induction l with
  | nil => rfl
  | cons a l ih =>
      by_cases ha : fails a = true
      · rw [List.filter_cons_of_pos ha, List.map_cons, List.map_cons, ← ih]
        simp [ha]
      · rw [List.filter_cons_of_neg ha, List.map_cons, List.filterMap_cons_none (by simp [ha]), ih]

variable {f : Failure} {verdict : Option Bool}

/-- A check reports itself, and below it what it asks. -/
theorem outcomes_check_below {below : List Entry}
    (hroute : route.Reaches here) (hlocation : n.location = here.context.location)
    (hverdict : verdict = some (n.accepts slots (steps + 1) here.value))
    (hfailure : (n.plan slots (Node.accepts slots steps) here.value here.path).failure = some f)
    (hfailures : (n.plan slots (Node.accepts slots steps) here.value here.path).failures = [])
    (hbelow : ((n.plan slots (Node.accepts slots steps) here.value here.path).asked.flatMap fun a =>
      (a.1.outcomes slots steps (route.next n a.1) a.2.1 a.2.2).flatMap fun p => p.1 :: p.2) =
        below) :
    n.outcomes slots (steps + 1) route here.value here.path =
      [here.leaf (if verdict == some true then none else some f) below].filterMap
        LeafCheck.reported := by
  have hway : route.keywordLocation here.context.location.pointer = here.way :=
    hroute.keywordLocation
  rw [Node.outcomes_of_failure hfailure hfailures, hbelow, hlocation, hway, hverdict]
  cases n.accepts slots (steps + 1) here.value <;> simp

/-- A check that asks nothing has nothing below it. -/
theorem outcomes_check
    (hroute : route.Reaches here) (hlocation : n.location = here.context.location)
    (hverdict : verdict = some (n.accepts slots (steps + 1) here.value))
    (hfailure : (n.plan slots (Node.accepts slots steps) here.value here.path).failure = some f)
    (hfailures : (n.plan slots (Node.accepts slots steps) here.value here.path).failures = [])
    (hasked : (n.plan slots (Node.accepts slots steps) here.value here.path).asked = []) :
    n.outcomes slots (steps + 1) route here.value here.path =
      [here.leaf (if verdict == some true then none else some f) []].filterMap
        LeafCheck.reported :=
  outcomes_check_below here hroute hlocation hverdict hfailure hfailures (by rw [hasked]; rfl)

/-- A check of branches that asks the last one has below it what this one reports. -/
theorem outcomes_check_last {schemas : List Value} {nodes : List Node}
    (hroute : route.Reaches here) (hlocation : n.location = here.context.location)
    (hverdict : verdict = some (n.accepts slots (steps + 1) here.value))
    (hfailure : (n.plan slots (Node.accepts slots steps) here.value here.path).failure = some f)
    (hfailures : (n.plan slots (Node.accepts slots steps) here.value here.path).failures = [])
    (hasked : (n.plan slots (Node.accepts slots steps) here.value here.path).asked =
      nodes.getLast?.toList.map fun n => (n, here.value, here.path))
    (hnext : ∀ n', route.next n n' = route) (hlength : schemas.length = nodes.length)
    (hnodes : ∀ (i : Nat) branch n, schemas[i]? = some branch → nodes[i]? = some n →
      Compiled settings s (here.context.index i) branch n)
    (h : Explains settings s slots steps checks n here.value)
    (hn : ∀ n' ∈ nodes, Node.InPlace n n') :
    n.outcomes slots (steps + 1) route here.value here.path =
      [here.leaf (if verdict == some true then none else some f)
        (lastEntries checks here schemas)].filterMap LeafCheck.reported := by
  refine outcomes_check_below here hroute hlocation hverdict hfailure hfailures ?_
  rw [hasked, List.flatMap_map, ← outcomes_last here hlength hnodes h hn hroute]
  simp only [hnext]

end Checks

/-! ## Members -/

/-- The parts of two lists that pass stand at the same indexes. -/
theorem indexes_congr_of_zip {α β : Type} {l : List α} {l' : List β} {f : α → Bool} {g : β → Bool}
    (hlength : l.length = l'.length) (h : ∀ p ∈ l.zip l', f p.1 = g p.2) :
    (l.zipIdx.filter fun p => f p.1).map Prod.snd =
      (l'.zipIdx.filter fun p => g p.1).map Prod.snd := by
  have hpairs : List.Forall₂ (fun a b => f a = g b) l l' :=
    List.forall₂_iff_zip.mpr ⟨hlength, fun hp => h _ hp⟩
  generalize 0 = i
  clear h hlength
  induction hpairs generalizing i with
  | nil => rfl
  | cons hab _ ih =>
      rw [List.zipIdx_cons, List.zipIdx_cons, List.filter_cons, List.filter_cons, hab]
      split
      · rw [List.map_cons, List.map_cons, ih]
      · exact ih (i + 1)


variable (steps) in
/-- A member of a schema object reports what its checks do. -/
theorem outcomes_of_compiledMember (hslots : Read settings s slots E)
    {judge : Url → Value → Value → Option Bool} {members : List (String × Value)} {name : String}
    {k : Value} {node : Option Node}
    (h : CompiledMember settings s here.context members name k node)
    (hanswers : ∀ n ∈ node,
      Answers settings s slots judge (Node.accepts slots steps) n here.value)
    (hexplains : ∀ n ∈ node, Explains settings s slots steps checks n here.value)
    (hroute : route.Reaches here) :
    node.toList.flatMap (fun n => n.outcomes slots (steps + 1) route here.value here.path) =
      (keywordLeaves checks settings E judge here members name k).filterMap
        LeafCheck.reported := by
  have hjudged := judgeKeyword_of_compiled hslots h hanswers
  have hkey := hroute.key name
  cases h with
  | unknown h | informative h | branch h | idleBranch h => simp [keywordLeaves, h]
  | idleCondition h hn hmet hunmet =>
      simp only [keywordLeaves, h]
      split <;> simp [hmet, hunmet]
  | @reference _ _ _ r t slot h hleads hslot =>
      obtain ⟨t', n, htarget, hn, hcompiled⟩ := hslots.followed _ r t slot hleads hslot
      let there : Visit := { here.key name with context := targetContext t' }
      have hthere : Route.Reaches ⟨n.location.pointer, (here.key name).way⟩ there :=
        ⟨.root, by simp [there, hcompiled.location_eq, Context.location], by simp [there]⟩
      have hreported := hexplains _ rfl n t'.contents there _ (.follow hn) hcompiled hthere
      have hnext : route.next (.reference (here.context.key name).location slot) n =
          ⟨n.location.pointer, (here.key name).way⟩ := by
        rw [Route.next, ← hkey.keywordLocation]
        rfl
      have hparts := Node.outcomes_of_parts slots steps route
        (.reference (here.context.key name).location slot) here.value here.path
        [(n, here.value, here.path)] rfl rfl (.inl (by simp [Node.plan, hn]))
        (by simp [Node.accepts, Node.acceptsStep, hn])
      rw [List.flatMap_singleton, hnext] at hparts
      simpa [keywordLeaves, h, Value.string?, htarget, hparts, there] using hreported
  | @check _ _ _ _ keyword check h hk hcheck =>
      rw [keywordLeaves_of_check checks h hk hcheck]
      cases check with
      | none => rfl
      | some check =>
          simpa using outcomes_check (here.key name)
            (n := .check (here.context.key name).location check) hkey rfl hjudged rfl rfl rfl
  | @pattern _ _ _ source regex h hregex =>
      simpa [keywordLeaves, h, Check.failure] using outcomes_check (here.key name)
        (n := .check (here.context.key name).location (.pattern source regex)) hkey rfl hjudged
        rfl rfl rfl
  | @required _ _ _ _ names h hnames =>
      have hmissing : names.filter here.value.lacks = here.value.missing names := by
        cases here.value with
        | object members => rfl
        | _ => simp [Value.missing, Value.lacks]
      have hway : route.keywordLocation (here.context.key name).location.pointer =
          (here.key name).way := hkey.keywordLocation
      simp only [keywordLeaves, h, hnames, Except.toOption, Option.getD_some]
      rw [Option.toList_some, List.flatMap_singleton, Node.outcomes_required, ← hmissing, hway]
      exact (filterMap_reported_leaf (here.key name) here.value.lacks .required names).symm
  | properties h hnames hnodes =>
      simpa [keywordLeaves, h] using
        outcomes_properties (here.key name) hnames hnodes (hexplains _ rfl) hkey
  | uniformItems h hk hn =>
      simpa [keywordLeaves, h] using
        outcomes_uniformItems (here.key name) hk hn (hexplains _ rfl) hkey
  | positionalItems h hlength hnodes =>
      simpa [keywordLeaves, h] using
        outcomes_positionalItems (here.key name) hlength hnodes (hexplains _ rfl) hkey
  | @allOf _ _ _ _ _ nodes h hlength hnodes =>
      have hbranches := outcomes_branches (here.key name) hlength hnodes (hexplains _ rfl)
        (fun _ hn => .allOf hn) hkey
      have hparts := Node.outcomes_of_parts slots steps route
        (.allOf (here.context.key name).location nodes) here.value here.path
        (nodes.map fun n => (n, here.value, here.path)) rfl rfl
        (.inr (by rw [List.filter_map]; rfl)) (by rw [List.all_map]; rfl)
      rw [List.flatMap_map] at hparts
      simpa [keywordLeaves, h, hparts, Route.next] using hbranches
  | anyOf h hlength hnodes =>
      simpa [keywordLeaves, h] using outcomes_check_last (here.key name) hkey rfl hjudged rfl rfl
        rfl (fun _ => rfl) hlength hnodes (hexplains _ rfl) fun _ hn => .anyOf hn
  | @oneOf _ _ _ schema schemas nodes h hlength hnodes =>
      have hmatched : conforming (judge here.context.base · here.value) (schema :: schemas) =
          (nodes.zipIdx.filter fun p => p.1.accepts slots steps here.value).map Prod.snd := by
        refine indexes_congr_of_zip
          (f := fun schema => judge here.context.base schema here.value == some true)
          (g := fun n => n.accepts slots steps here.value) hlength fun p hp => ?_
        obtain ⟨i, hbranch, hnode⟩ := mem_zip_iff_getElem?.mp hp
        have hjudge : judge here.context.base p.1 here.value =
            some (p.2.accepts slots steps here.value) :=
          hanswers _ rfl p.2 here.value ((here.context.key name).index i) p.1
            (.inPlace (.oneOf (List.mem_of_getElem? hnode))) (hnodes i p.1 p.2 hbranch hnode)
        simp [hjudge]
      cases hm : conforming (judge here.context.base · here.value) (schema :: schemas) with
      | nil =>
          have hplan : Node.plan slots (Node.accepts slots steps)
              (.oneOf (here.context.key name).location nodes) here.value here.path =
                { failure := some .oneOfNone
                  asked := nodes.getLast?.toList.map fun n => (n, here.value, here.path) } := by
            simp only [Node.plan, Bool.not_not, ← hmatched, hm]
          simp only [keywordLeaves, h, hm]
          simpa using outcomes_check_last (here.key name) hkey rfl hjudged
            (congrArg Node.Plan.failure hplan) (congrArg Node.Plan.failures hplan)
            (congrArg Node.Plan.asked hplan) (fun _ => rfl) hlength hnodes (hexplains _ rfl)
            fun _ hn => .oneOf hn
      | cons i matched =>
          have hplan : Node.plan slots (Node.accepts slots steps)
              (.oneOf (here.context.key name).location nodes) here.value here.path =
                { failure := some (.oneOfSeveral (i :: matched)) } := by
            simp only [Node.plan, Bool.not_not, ← hmatched, hm]
          simp only [keywordLeaves, h, hm]
          simpa using outcomes_check (here.key name) hkey rfl hjudged
            (congrArg Node.Plan.failure hplan) (congrArg Node.Plan.failures hplan)
            (congrArg Node.Plan.asked hplan)
  | not h hn =>
      simpa [keywordLeaves, h] using outcomes_check (here.key name) hkey rfl hjudged rfl rfl rfl
  | @conditional _ _ _ _ n met unmet h hn hmet hmetNode hunmet hunmetNode hsome =>
      have hcondition : judge here.context.base k here.value =
          some (n.accepts slots steps here.value) :=
        hanswers _ rfl n here.value (here.context.key name) k (.inPlace .condition) hn
      simp only [keywordLeaves, h, hcondition]
      by_cases hholds : n.accepts slots steps here.value = true
      · have hmetBranch := outcomes_branch (here.key "then") hmet hmetNode (hexplains _ rfl)
          (fun _ hn => hn ▸ .met) (hroute.key "then")
        have hparts := Node.outcomes_of_parts slots steps route
          (.conditional (here.context.key name).location n met unmet) here.value here.path
          (met.toList.map fun n => (n, here.value, here.path)) rfl rfl
          (.inl (by simp [Node.plan, hholds]))
          (by cases met <;> simp [Node.accepts, Node.acceptsStep, hholds])
        rw [List.flatMap_map] at hparts
        simpa [hparts, hholds, Route.next] using hmetBranch
      · have hunmetBranch := outcomes_branch (here.key "else") hunmet hunmetNode (hexplains _ rfl)
          (fun _ hn => hn ▸ .unmet) (hroute.key "else")
        have hparts := Node.outcomes_of_parts slots steps route
          (.conditional (here.context.key name).location n met unmet) here.value here.path
          (unmet.toList.map fun n => (n, here.value, here.path)) rfl rfl
          (.inl (by simp [Node.plan, hholds]))
          (by cases unmet <;> simp [Node.accepts, Node.acceptsStep, hholds])
        rw [List.flatMap_map] at hparts
        simpa [hparts, hholds, Route.next] using hunmetBranch

/-! ## Schemas -/

/-- A schema object reports what its members do. -/
theorem outcomes_keywords {l : SchemaLocation} {members : List (String × Value)}
    {nodes : List (Option Node)}
    {memberLeaves : String × Value → List LeafCheck} (hlength : members.length = nodes.length)
    (h : ∀ p ∈ members.zip nodes,
      p.2.toList.flatMap (fun n => n.outcomes slots steps route here.value here.path) =
        (memberLeaves p.1).filterMap LeafCheck.reported) :
    Node.outcomes slots (steps + 1) route (.keywords l (nodes.filterMap id)) here.value here.path =
      (members.flatMap memberLeaves).filterMap LeafCheck.reported := by
  have hparts := Node.outcomes_of_parts slots steps route (.keywords l (nodes.filterMap id))
    here.value here.path ((nodes.filterMap id).map fun n => (n, here.value, here.path)) rfl rfl
    (.inr (by rw [List.filter_map]; rfl)) (by rw [List.all_map]; rfl)
  rw [hparts, List.flatMap_map, List.filterMap_eq_flatMap_toList, List.flatMap_assoc,
    List.filterMap_flatMap]
  exact (flatMap_congr_of_zip hlength fun p hp => (h p hp).symm).symm

/-- A node reports what the checks of its schema do, once calls end. -/
theorem outcomes_of_compiled (hslots : Read settings s slots E) {fuel : Nat} {schema : Value}
    (hends : Node.EndsWithin slots steps (n, here.value))
    (h : Compiled settings s here.context schema n) (hroute : route.Reaches here)
    (hfuel : steps ≤ fuel) :
    n.outcomes slots steps route here.value here.path =
      (leaves settings E fuel here schema).filterMap LeafCheck.reported := by
  induction steps using Nat.strong_induction_on generalizing fuel here schema n route with
  | _ steps ih =>
      cases hends with
      | @intro steps _ hcalls =>
          obtain ⟨fuel, rfl⟩ : ∃ f, fuel = f + 1 := Nat.exists_eq_add_of_le' (by omega)
          cases h with
          | @boolean _ b =>
              rw [leaves]
              refine (outcomes_check here hroute rfl rfl rfl rfl rfl).trans ?_
              cases b <;> rfl
          | @object _ inner members nodes hinside _ hlength hmembers =>
              have hinner : route.Reaches { here with context := inner } := by
                obtain ⟨rest, hplace, hway⟩ := hroute
                exact ⟨rest, by rw [Context.place_of_inside hinside, hplace], hway⟩
              simp only [leaves, hinside]
              refine outcomes_keywords { here with context := inner } hlength ?_
              rintro ⟨⟨name, k⟩, node⟩ hp
              have hmember := hmembers _ hp
              cases node with
              | none =>
                  exact outcomes_of_compiledMember 0 { here with context := inner } hslots hmember
                    (by simp) (by simp) hinner
              | some child =>
                  have hmem : child ∈ nodes.filterMap id := by
                    simpa using (List.of_mem_zip hp).2
                  cases hcalls (child, here.value) (.inPlace (.keyword hmem)) with
                  | @intro steps _ hcalls =>
                      refine outcomes_of_compiledMember steps { here with context := inner }
                        hslots hmember ?_ ?_ hinner
                      · rintro _ ⟨⟩ n' x' c schema hcall hcompiled
                        exact judge_of_compiled hslots (hcalls _ hcall) hcompiled (by omega)
                      · rintro _ ⟨⟩ n' schema there route' hcall hcompiled hthere
                        exact ih steps (by omega) there (hcalls _ hcall) hcompiled hthere (by omega)

/-! ## Reports of built validators -/

/-- A report says of some checks what fails of them, all of it and in their order. -/
structure Report.Lists (report : Report) (checks : List LeafCheck) : Prop where
  /-- The entries that are below no others are the checks that fail, each with what is below it. -/
  outermost : ∃ tree, report.tree = some tree ∧
    tree.outermost = checks.filterMap LeafCheck.reported
  entries : report.entries = checks.flatMap LeafCheck.entries
  first : report.first = ((checks.filterMap LeafCheck.reported).head?).map Prod.fst

theorem Report.lists_of_outermost {report : Report} {tree : ErrorTree} {checks : List LeafCheck}
    (htree : report.tree = some tree)
    (h : tree.outermost = checks.filterMap LeafCheck.reported) : report.Lists checks := by
  have hentries : report.entries = tree.outermost.flatMap fun p => p.1 :: p.2 := by
    rw [Report.entries, htree, Option.map_some, Option.getD_some, ErrorTree.entries_eq_flatMap]
  refine ⟨⟨tree, htree, h⟩, ?_, ?_⟩
  · rw [hentries, h, flatMap_reported]
  · rw [Report.first, hentries, ← h]
    cases tree.outermost <;> rfl

/-- Where the schema of a document is applied first. -/
def Visit.root (document base : Url) (x : Value) : Visit :=
  ⟨⟨⟨document, .root⟩, base⟩, .root, x, .root⟩

namespace Options

variable {r r' : Registry} {o : Options} {store : Store} {schema x : Value} {v : Validator}

/-- The report on a value that does not conform lists the checks of the schema: whatever fails of
them once or more often, and nothing else. -/
theorem lists_of_buildIn (hr : r.Reachable) (h : o.buildIn store r schema = (.ok v, r'))
    (hx : v.isValid x = false) {fuel : Nat} (hfuel : v.root.steps v.slots x ≤ fuel) :
    (v.report x).Lists (leaves (o.settings store)
      ((surroundings (o.settings store) r').withTarget ⟨v.document, .root, o.base, schema⟩) fuel
      (.root v.document o.base x) schema) := by
  have htree := (evaluationPaths_of_buildIn hr h hx).tree
  obtain ⟨hbuilds⟩ := exists_builds h
  obtain ⟨s, rfl, -, hlinked⟩ := hbuilds.exists_linked hr.wellIndexed
  have hindexed : s.registry.WellIndexed := by
    have hbuilt := (hr.buildIn o store schema).wellIndexed
    rwa [h] at hbuilt
  rw [← hlinked.document] at hlinked
  have hreaches : Route.Reaches ⟨.root, .root⟩ (.root v.document o.base x) := ⟨.root, rfl, rfl⟩
  have houtcomes := outcomes_of_compiled (.root v.document o.base x) (hlinked.read hindexed)
    (Node.endsWithin_steps hlinked.acyclic v.root x) hlinked.root_eq hreaches hfuel
  exact Report.lists_of_outermost htree ((Node.outcomes_of_fails hx).symm.trans houtcomes)

/-- A team has a name, and its members have names or are unknown. -/
def team : Value := .object [("required", .array [.string "name", .string "members"]),
  ("properties", .object [("members", .object [("items", .object [("$ref",
    .string "#/$defs/member")])])]),
  ("$defs", .object [("member", .object [("anyOf", .array [.object [("type", .string "null")],
    .object [("type", .string "string"), ("minLength", .number (.ofNat 2))]])])])]

theorem lists_team : ∃ v r' x, buildIn {} {} {} team = (.ok v, r') ∧ v.isValid x = false ∧
    (v.report x).Lists (leaves (Options.settings {} {})
      ((surroundings (Options.settings {} {}) r').withTarget ⟨v.document, .root, base {}, team⟩)
      (v.root.steps v.slots x) (.root v.document (base {}) x) team) ∧
    (v.report x).entries.map (fun e => (e.location.pointer, e.instanceLocation)) =
      [(⟨["required"]⟩, .root),
        (⟨["$defs", "member", "anyOf"]⟩, ⟨["members", "0"]⟩),
        (⟨["$defs", "member", "anyOf", "1", "minLength"]⟩, ⟨["members", "0"]⟩),
        (⟨["$defs", "member", "anyOf"]⟩, ⟨["members", "2"]⟩),
        (⟨["$defs", "member", "anyOf", "1", "type"]⟩, ⟨["members", "2"]⟩)] := by
  let x : Value := .object [("members", .array [.string "a", .null, .bool true])]
  have hreport : ((buildIn {} {} {} team).1.toOption.map fun v =>
      (v.isValid x, (v.report x).entries.map fun e => (e.location.pointer, e.instanceLocation))) =
        some (false, [(⟨["required"]⟩, .root),
          (⟨["$defs", "member", "anyOf"]⟩, ⟨["members", "0"]⟩),
          (⟨["$defs", "member", "anyOf", "1", "minLength"]⟩, ⟨["members", "0"]⟩),
          (⟨["$defs", "member", "anyOf"]⟩, ⟨["members", "2"]⟩),
          (⟨["$defs", "member", "anyOf", "1", "type"]⟩, ⟨["members", "2"]⟩)]) := by
    decide +kernel
  rcases h : buildIn {} {} {} team with ⟨_ | v, r'⟩
  · simp [h, Except.toOption] at hreport
  · simp only [h, Except.toOption, Option.map_some, Option.some.injEq, Prod.mk.injEq] at hreport
    exact ⟨v, r', x, rfl, hreport.1, lists_of_buildIn .empty h hreport.1 le_rfl, hreport.2⟩

/-- A schema whose condition comes first and whose branch comes last. -/
def guarded : Value := .object [("if", .bool true), ("type", .string "string"),
  ("then", .object [("minimum", .number (.ofNat 5))])]

/-- A branch is reported where its condition stands. It may stand behind other keywords that fail,
and then the entries are not in the order in which the schema declares what they are about. -/
theorem entries_guarded : ∃ v r', buildIn {} {} {} guarded = (.ok v, r') ∧
    v.isValid (.number (.ofNat 1)) = false ∧
    ¬ ((v.report (.number (.ofNat 1))).entries.map fun e => e.location.pointer.tokens).Sublist
      guarded.paths := by
  have hreport : ((buildIn {} {} {} guarded).1.toOption.map fun v =>
      (v.isValid (.number (.ofNat 1)), (v.report (.number (.ofNat 1))).entries.map fun e =>
        e.location.pointer.tokens)) =
        some (false, [["then", "minimum"], ["type"]]) := by
    decide +kernel
  rcases h : buildIn {} {} {} guarded with ⟨_ | v, r'⟩
  · simp [h, Except.toOption] at hreport
  · simp only [h, Except.toOption, Option.map_some, Option.some.injEq, Prod.mk.injEq] at hreport
    refine ⟨v, r', rfl, hreport.1, ?_⟩
    rw [hreport.2]
    decide +kernel

end Options
end JsonSchema
