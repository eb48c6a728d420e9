import JsonSchema.Proofs.Compilation.Reached
import JsonSchema.Proofs.Explanation.Plan
import JsonSchema.Proofs.Meaning.Alone

/-!
# Faults

What is said of a node itself that has failed is the fault of what it was compiled from: a keyword
that refuses the value on its own, or a `false` schema. The parameters of the failure are read off
the keyword and the value.
-/

namespace JsonSchema

open Compile Meaning

variable {settings : Settings} {s : State} {slots : List Node} {E : Surroundings}
variable {P : Context → Value → Prop}

/-- A failure of a keyword with a raw value, at a base, says what is so of the value that it is
about. -/
inductive Failure.Truthful (settings : Settings) (E : Surroundings) (base : Url) :
    Keyword → Value → Value → Failure → Prop
  /-- The parameters of a check are what the keyword reads as. -/
  | check {k raw x check} (hread : readCheck settings k raw = .ok (some check))
      (hfails : check.holds x = false) : Truthful settings E base k raw x (check.failure x)
  | pattern {source regex x} (hregex : Regex.parse? source = some regex)
      (hfails : (Check.pattern source regex).holds x = false) :
      Truthful settings E base .pattern (.string source) x (.pattern source)
  /-- A property that is asked for and absent. -/
  | required {names property members} (hmem : .string property ∈ names)
      (habsent : members.lookup property = none) :
      Truthful settings E base .required (.array names) (.object members) (.required property)
  | not {raw x} (h : Judged E base raw x true) : Truthful settings E base .not raw x .not
  | anyOf {branches x} (h : ∀ branch ∈ branches, Judged E base branch x false) :
      Truthful settings E base .anyOf (.array branches) x .anyOf
  | oneOfNone {branches x} (h : ∀ branch ∈ branches, Judged E base branch x false) :
      Truthful settings E base .oneOf (.array branches) x .oneOfNone
  /-- The branches that the value conforms to, in their order and more than one. -/
  | oneOfSeveral {branches x matched}
      (h : ∀ (i : Nat) branch, branches[i]? = some branch →
        Judged E base branch x (decide (i ∈ matched)))
      (hbound : ∀ i ∈ matched, i < branches.length) (hordered : matched.Pairwise (· < ·))
      (hseveral : 2 ≤ matched.length) :
      Truthful settings E base .oneOf (.array branches) x (.oneOfSeveral matched)

/-- What stands at a location fails a value: a `false` schema, or a keyword that refuses the value
on its own, at the base that is in effect there. -/
inductive Fault (settings : Settings) (E : Surroundings) (P : Context → Value → Prop) :
    SchemaLocation → Value → Value → Failure → Prop
  | falseSchema {c x} (hP : P c (.bool false)) :
      Fault settings E P c.location (.bool false) x .falseSchema
  | keyword {c inner members name k raw x failure} (hP : P c (.object members))
      (hinside : c.inside members = .ok inner) (hmem : (name, raw) ∈ members)
      (hname : Keyword.ofName? name = some k)
      (hrefuses : Judged E inner.base (.object [(name, raw)]) x false)
      (htruthful : failure.Truthful settings E inner.base k raw x) :
      Fault settings E P (inner.key name).location raw x failure

/-! ## Failures of a node itself -/

theorem exists_string_of_readNames {k : Value} {names : List String} (h : readNames k = .ok names)
    {name : String} (hname : name ∈ names) :
    ∃ values, k = .array values ∧ .string name ∈ values := by
  unfold readNames at h
  split at h
  · rename_i values
    obtain ⟨i, hi⟩ := List.mem_iff_getElem?.mp hname
    obtain ⟨v, hv, hread⟩ := exists_getElem?_of_forall₂ (forall₂_of_mapM_ok h) hi
    refine ⟨values, rfl, ?_⟩
    cases v with
    | string text =>
        obtain rfl : text = name := by simpa using hread
        exact List.mem_of_getElem? hv
    | _ => simp at hread
  · cases h

theorem exists_members_of_mem_missing {x : Value} {names : List String} {name : String}
    (h : name ∈ x.missing names) :
    name ∈ names ∧ ∃ members, x = .object members ∧ members.lookup name = none := by
  cases x with
  | object members =>
      obtain ⟨hname, habsent⟩ := List.mem_filter.mp h
      exact ⟨hname, members, rfl, Option.isNone_iff_eq_none.mp habsent⟩
  | _ => simp [Value.missing] at h

theorem mem_missing_of_plan {call : Node → Value → Bool} {l : SchemaLocation} {names : List String}
    {x : Value} {path : Pointer} {f : Failure}
    (hf : (Node.plan slots call (.required l names) x path).failure = some f ∨
      f ∈ (Node.plan slots call (.required l names) x path).failures) :
    ∃ name ∈ x.missing names, f = .required name := by
  simp only [Node.plan] at hf
  split at hf
  · rename_i name hmissing
    obtain rfl : Failure.required name = f := by simpa using hf
    exact ⟨name, by simp [hmissing], rfl⟩
  · obtain ⟨name, hname, rfl⟩ := by simpa using hf
    exact ⟨name, hname, rfl⟩

section Branches

variable {c : Context} {branches : List Value} {nodes : List Node} {x : Value} {steps : Nat}

theorem judged_branches (hslots : Read settings s slots E)
    (hnodes : ∀ (i : Nat) branch n, branches[i]? = some branch → nodes[i]? = some n →
      Compiled settings s (c.index i) branch n)
    (hends : ∀ n ∈ nodes, Node.EndsWithin slots steps (n, x)) {i : Nat} {branch : Value} {n : Node}
    (hbranch : branches[i]? = some branch) (hn : nodes[i]? = some n) :
    Judged E c.base branch x (n.accepts slots steps x) :=
  judged_of_compiled (c := c.index i) hslots (hends n (List.mem_of_getElem? hn))
    (hnodes i branch n hbranch hn)

/-- Where no node accepts, no branch does. -/
theorem judged_false_of_any (hslots : Read settings s slots E)
    (hlength : branches.length = nodes.length)
    (hnodes : ∀ (i : Nat) branch n, branches[i]? = some branch → nodes[i]? = some n →
      Compiled settings s (c.index i) branch n)
    (hends : ∀ n ∈ nodes, Node.EndsWithin slots steps (n, x))
    (hfails : nodes.any (Node.accepts slots steps · x) = false) :
    ∀ branch ∈ branches, Judged E c.base branch x false := by
  intro branch hbranch
  obtain ⟨n, hmem⟩ := exists_mem_zip hlength hbranch
  obtain ⟨i, hbranch, hn⟩ := mem_zip_iff_getElem?.mp hmem
  have hjudged := judged_branches hslots hnodes hends hbranch hn
  have hfails : n.accepts slots steps x = false := by
    simpa using List.any_eq_false.mp hfails n (List.mem_of_getElem? hn)
  rwa [hfails] at hjudged

/-- The indexes of the nodes that answer. -/
def matched (answers : Node → Bool) (nodes : List Node) : List Nat :=
  (nodes.zipIdx.filter fun m => !!answers m.1).map Prod.snd

theorem mem_matched_iff {answers : Node → Bool} {i : Nat} :
    i ∈ matched answers nodes ↔ ∃ n, nodes[i]? = some n ∧ answers n = true := by
  simp [matched, List.mem_zipIdx_iff_getElem?]

theorem pairwise_matched (answers : Node → Bool) : (matched answers nodes).Pairwise (· < ·) := by
  have hindexes : (nodes.zipIdx.map Prod.snd).Pairwise (· < ·) := by
    rw [List.zipIdx_map_snd]
    exact List.pairwise_lt_range'
  exact hindexes.sublist (List.filter_sublist.map _)

theorem length_matched (answers : Node → Bool) :
    (matched answers nodes).length = nodes.countP answers := by
  rw [matched, List.length_map, ← List.countP_eq_length_filter]
  conv_rhs => rw [← List.zipIdx_map_fst 0 nodes, List.countP_map]
  simp [Function.comp_def]

/-- What is said of branches that should be met by one of them is so. -/
theorem truthful_oneOf (hslots : Read settings s slots E)
    (hlength : branches.length = nodes.length)
    (hnodes : ∀ (i : Nat) branch n, branches[i]? = some branch → nodes[i]? = some n →
      Compiled settings s (c.index i) branch n)
    (hends : ∀ n ∈ nodes, Node.EndsWithin slots steps (n, x)) {l : SchemaLocation}
    {path : Pointer} {f : Failure}
    (hfails : (Node.oneOf l nodes).accepts slots (steps + 1) x = false)
    (hf : (Node.plan slots (Node.accepts slots steps) (.oneOf l nodes) x path).failure = some f ∨
      f ∈ (Node.plan slots (Node.accepts slots steps) (.oneOf l nodes) x path).failures) :
    f.Truthful settings E c.base .oneOf (.array branches) x := by
  let answers (n : Node) : Bool := n.accepts slots steps x
  have hcount : (matched answers nodes).length ≠ 1 := by
    rw [length_matched]
    simpa [Node.accepts, Node.acceptsStep] using hfails
  simp only [Node.plan] at hf
  split at hf
  · rename_i hnone
    obtain rfl : Failure.oneOfNone = f := by simpa using hf
    refine .oneOfNone (judged_false_of_any hslots hlength hnodes hends ?_)
    refine List.any_eq_false.mpr fun n hn hanswers => ?_
    obtain ⟨i, hi⟩ := List.mem_iff_getElem?.mp hn
    have hmem : i ∈ matched answers nodes := mem_matched_iff.mpr ⟨n, hi, hanswers⟩
    rw [matched, hnone] at hmem
    simp at hmem
  · rename_i hsome
    have hf : Failure.oneOfSeveral (matched answers nodes) = f :=
      hf.elim Option.some.inj (fun h => absurd h List.not_mem_nil)
    subst hf
    have hlt : ∀ i ∈ matched answers nodes, i < branches.length := by
      intro i hi
      obtain ⟨n, hn, -⟩ := mem_matched_iff.mp hi
      exact hlength ▸ (List.getElem?_eq_some_iff.mp hn).1
    refine .oneOfSeveral (fun i branch hbranch => ?_) hlt (pairwise_matched answers) ?_
    · have hbound : i < nodes.length := hlength ▸ (List.getElem?_eq_some_iff.mp hbranch).1
      have hn := List.getElem?_eq_getElem hbound
      have hanswers : answers nodes[i] = decide (i ∈ matched answers nodes) := by
        rw [Bool.eq_iff_iff, decide_eq_true_iff, mem_matched_iff]
        simp [hn]
      exact hanswers ▸ judged_branches hslots hnodes hends hbranch hn
    · have hne : (matched answers nodes).length ≠ 0 := fun h => hsome (List.length_eq_zero_iff.mp h)
      omega

end Branches

/-- A failure of a node itself is a fault of what stands at its place. -/
theorem Compile.Sited.exists_fault (hslots : Read settings s slots E) {steps : Nat} {n : Node}
    {x : Value} {path : Pointer} (h : Sited settings s P n)
    (hends : Node.EndsWithin slots (steps + 1) (n, x))
    (hfails : n.accepts slots (steps + 1) x = false) {f : Failure}
    (hf : (n.plan slots (Node.accepts slots steps) x path).failure = some f ∨
      f ∈ (n.plan slots (Node.accepts slots steps) x path).failures) :
    ∃ raw, Fault settings E P n.location raw x f := by
  cases h with
  | schema hP h =>
      cases h with
      | object => simp [Node.plan] at hf
      | @boolean c b =>
          obtain rfl : Failure.falseSchema = f := by simpa [Node.plan] using hf
          obtain rfl : b = false := hfails
          exact ⟨_, .falseSchema hP⟩
  | @member c inner members name raw _ hP hinside hmem h =>
      refine ⟨raw, ?_⟩
      -- A node says of itself only what its keyword, read alone, refuses.
      have hfault {k : Keyword} (hname : Keyword.ofName? name = some k)
          (hinformative : k ≠ .informative) (hcondition : k ≠ .condition)
          (htruthful : f.Truthful settings E inner.base k raw x) :
          Fault settings E P (inner.key name).location raw x f :=
        .keyword hP hinside hmem hname
          (hfails ▸ judged_of_compiledMember hslots hends h hname hinformative hcondition) htruthful
      have hanswers : ∀ n', Node.InPlace n n' → Node.EndsWithin slots steps (n', x) := by
        cases hends with
        | intro calls => exact fun n' hn' => calls _ (.inPlace hn')
      generalize hnode : some n = node at h
      cases h with
      | unknown | informative | idleCondition | branch | idleBranch => cases hnode
      | reference | properties | uniformItems | positionalItems | allOf | conditional =>
          cases hnode
          simp [Node.plan] at hf
      | @check _ _ _ _ k check hname hk hread =>
          obtain ⟨check, rfl, rfl⟩ := Option.map_eq_some_iff.mp hnode.symm
          obtain rfl : check.failure x = f := by simpa [Node.plan] using hf
          have hinformative : k ≠ .informative := by rintro rfl; cases hk
          have hcondition : k ≠ .condition := by rintro rfl; cases hk
          exact hfault hname hinformative hcondition (.check hread hfails)
      | @pattern _ _ _ source regex hname hregex =>
          cases hnode
          obtain rfl : Failure.pattern source = f := by
            simpa [Node.plan, Check.failure] using hf
          exact hfault hname (by decide) (by decide) (.pattern hregex hfails)
      | required hname hnames =>
          cases hnode
          obtain ⟨property, hproperty, rfl⟩ := mem_missing_of_plan hf
          obtain ⟨hmem', members', rfl, habsent⟩ := exists_members_of_mem_missing hproperty
          obtain ⟨values, rfl, hvalue⟩ := exists_string_of_readNames hnames hmem'
          exact hfault hname (by decide) (by decide) (.required hvalue habsent)
      | anyOf hname hlength hnodes =>
          cases hnode
          obtain rfl : Failure.anyOf = f := by simpa [Node.plan] using hf
          refine hfault hname (by decide) (by decide) (.anyOf ?_)
          exact judged_false_of_any (c := inner.key name) hslots hlength hnodes
            (fun n hn => hanswers n (.anyOf hn)) hfails
      | oneOf hname hlength hnodes =>
          cases hnode
          refine hfault hname (by decide) (by decide) ?_
          exact truthful_oneOf (c := inner.key name) hslots hlength hnodes
            (fun n hn => hanswers n (.oneOf hn)) hfails hf
      | @not _ _ _ _ n hname hn =>
          cases hnode
          obtain rfl : Failure.not = f := by simpa [Node.plan] using hf
          have hjudged := judged_of_compiled hslots (hanswers n .negated) hn
          have hmet : n.accepts slots steps x = true := by
            simpa [Node.accepts, Node.acceptsStep] using hfails
          rw [hmet] at hjudged
          exact hfault hname (by decide) (by decide) (.not hjudged)

end JsonSchema
