import JsonSchema.Proofs.Compilation.Build
import JsonSchema.Proofs.Evaluation.Termination
import JsonSchema.Proofs.Meaning.Keywords

/-!
# Compilation preserves meaning

A validator answers what the text of its schema means, read with the registry that the build has
left. Memoized slots make no difference: a place has one target, so a slot holds the compiled form
of every target at its place.
-/

namespace JsonSchema

open Compile Meaning

/-- Surroundings that slots are read in: a reference that has a slot stands for the schema that the
slot holds the compiled form of. -/
structure Read (settings : Settings) (s : State) (slots : List Node) (E : Surroundings) :
    Prop where
  format : ∀ name, E.format? name =
    if settings.validateFormats then settings.format? name else none
  followed : ∀ base reference t (slot : Nat), s.registry.Leads base reference t →
    s.places[slot]? = some t.place → ∃ t' n, E.target? base reference = some t' ∧
      slots[slot]? = some n ∧ Compiled settings s (targetContext t') t'.contents n

variable {settings : Settings} {s : State} {slots : List Node}

/-- In the registry itself, a reference is followed to the compiled form of its target. -/
theorem Complete.read (h : Complete settings s slots) :
    Read settings s slots (surroundings settings s.registry) := by
  refine ⟨fun _ => rfl, fun base reference t slot hleads hslot => ?_⟩
  obtain ⟨t', n, hplace, htarget, hn, hcompiled⟩ := h.filled slot t.place hslot
  have hist := (Registry.leads_of_resolve h.wellIndexed (hleads {})).1
  obtain rfl := htarget.unique hist hplace
  exact ⟨t', n, target?_of_leads hleads, hn, hcompiled⟩

theorem judgeKeyword_of_ignored {E : Surroundings} {judge : Url → Value → Value → Option Bool}
    {base : Url} {members : List (String × Value)} {name : String} {k x : Value}
    (h : Keyword.ofName? name = none ∨ Keyword.ofName? name = some .informative) :
    judgeKeyword E judge base members name k x = some true := by
  unfold judgeKeyword
  split <;> first
    | rfl
    | exact absurd h (by decide)

theorem judgeKeyword_of_branch {E : Surroundings} {judge : Url → Value → Value → Option Bool}
    {base : Url} {members : List (String × Value)} {name : String} {k x : Value} {met : Bool}
    (h : Keyword.ofName? name = some (.branch met)) :
    judgeKeyword E judge base members name k x = some true := by
  cases met with
  | true =>
      obtain rfl : name = "then" := Keyword.name_eq h (by decide)
      simp [judgeKeyword]
  | false =>
      obtain rfl : name = "else" := Keyword.name_eq h (by decide)
      simp [judgeKeyword]

/-- A member of a schema object is judged as its node answers. -/
theorem judgeKeyword_of_compiled {E : Surroundings} (hslots : Read settings s slots E)
    {judge : Url → Value → Value → Option Bool} {answer : Node → Value → Bool} {c : Context}
    {members : List (String × Value)} {name : String} {k x : Value} {node : Option Node}
    (h : CompiledMember settings s c members name k node)
    (hanswers : ∀ n ∈ node, Answers settings s slots judge answer n x) :
    judgeKeyword E judge c.base members name k x =
      some (node.all fun n => Node.acceptsStep slots answer n x) := by
  cases h with
  | unknown h => exact judgeKeyword_of_ignored (.inl h)
  | informative h => exact judgeKeyword_of_ignored (.inr h)
  | branch h | idleBranch h => exact judgeKeyword_of_branch h
  | @reference _ _ _ r t slot h hleads hslot =>
      obtain rfl : name = "$ref" := Keyword.name_eq h (by decide)
      obtain ⟨t', n, htarget, hn, hcompiled⟩ := hslots.followed c.base r t slot hleads hslot
      have hjudge : judge t'.base t'.contents x = some (answer n x) :=
        hanswers _ rfl n x (targetContext t') t'.contents (.follow hn) hcompiled
      simp [judgeKeyword, Value.string?, htarget, hjudge, Node.acceptsStep, hn]
  | check h hk hcheck =>
      rw [judgeKeyword_of_readCheck hslots.format h hk hcheck, Option.all_map]
      rfl
  | @pattern _ _ _ source regex h hregex =>
      obtain rfl : name = "pattern" := Keyword.name_eq h (by decide)
      cases x <;> simp [judgeKeyword, judgePattern, hregex, Value.string?, Node.acceptsStep,
        Check.holds]
  | required h hnames =>
      obtain rfl : name = "required" := Keyword.name_eq h (by decide)
      simp [judgeKeyword, judgeRequired_of_readNames hnames, Node.acceptsStep]
  | properties h hnames hnodes =>
      obtain rfl : name = "properties" := Keyword.name_eq h (by decide)
      have hjudge := judgeProperties_eq hnames hnodes (hanswers _ rfl)
      simpa [judgeKeyword] using hjudge
  | uniformItems h hk hn =>
      obtain rfl : name = "items" := Keyword.name_eq h (by decide)
      have hjudge := judgeItems_eq hk hn (hanswers _ rfl)
      simpa [judgeKeyword] using hjudge
  | positionalItems h hlength hnodes =>
      obtain rfl : name = "items" := Keyword.name_eq h (by decide)
      have hjudge := judgeItems_array_eq hlength hnodes (hanswers _ rfl)
      simpa [judgeKeyword] using hjudge
  | allOf h hlength hnodes =>
      obtain rfl : name = "allOf" := Keyword.name_eq h (by decide)
      have hbranches := judgeBranches_eq conjunction hlength hnodes (hanswers _ rfl)
        fun _ hn => .allOf hn
      simpa [judgeKeyword, conjunction_map, Node.acceptsStep] using hbranches
  | anyOf h hlength hnodes =>
      obtain rfl : name = "anyOf" := Keyword.name_eq h (by decide)
      have hbranches := judgeBranches_eq disjunction hlength hnodes (hanswers _ rfl)
        fun _ hn => .anyOf hn
      simpa [judgeKeyword, disjunction_map, Node.acceptsStep] using hbranches
  | oneOf h hlength hnodes =>
      obtain rfl : name = "oneOf" := Keyword.name_eq h (by decide)
      have hbranches := judgeBranches_eq exactlyOne hlength hnodes (hanswers _ rfl)
        fun _ hn => .oneOf hn
      simpa [judgeKeyword, exactlyOne_map, Node.acceptsStep] using hbranches
  | not h hn =>
      obtain rfl : name = "not" := Keyword.name_eq h (by decide)
      have hjudge : judge c.base k x = _ :=
        hanswers _ rfl _ x (c.key "not") k (.inPlace .negated) hn
      simp [judgeKeyword, hjudge, Node.acceptsStep]
  | conditional h hn hmet hmetNode hunmet hunmetNode hsome =>
      obtain rfl : name = "if" := Keyword.name_eq h (by decide)
      simp [judgeKeyword, judgeCondition_eq hn hmet hmetNode hunmet hunmetNode hsome
        (hanswers _ rfl)]
  | idleCondition h hn hmet hunmet =>
      obtain rfl : name = "if" := Keyword.name_eq h (by decide)
      simp [judgeKeyword, judgeCondition, hmet, hunmet]

/-- A schema is judged as its compiled form evaluates, once calls end. -/
theorem judge_of_compiled {E : Surroundings} (hslots : Read settings s slots E)
    {steps fuel : Nat} {c : Context} {schema x : Value} {n : Node}
    (hends : Node.EndsWithin slots steps (n, x)) (h : Compiled settings s c schema n)
    (hfuel : steps ≤ fuel) : judge E fuel c.base schema x = some (n.accepts slots steps x) := by
  induction steps using Nat.strong_induction_on generalizing fuel c schema x n with
  | _ steps ih =>
      cases hends with
      | @intro steps _ hcalls =>
          obtain ⟨fuel, rfl⟩ : ∃ f, fuel = f + 1 := Nat.exists_eq_add_of_le' (by omega)
          cases h with
          | boolean => rfl
          | @object _ inner members nodes hinside _ hlength hmembers =>
              let answer : Option Node → Bool := fun node => node.all (·.accepts slots steps x)
              have hparts : ∀ p ∈ members.zip nodes,
                  judgeKeyword E (judge E fuel) inner.base members p.1.1 p.1.2 x =
                    some (answer p.2) := by
                rintro ⟨⟨name, k⟩, node⟩ hp
                have hmember := hmembers _ hp
                cases node with
                | none =>
                    have hnone : ∀ n ∈ (none : Option Node), Answers settings s slots
                        (judge E fuel) (Node.accepts slots steps) n x := by simp
                    exact judgeKeyword_of_compiled hslots hmember hnone
                | some child =>
                    have hmem : child ∈ nodes.filterMap id := by
                      simpa using (List.of_mem_zip hp).2
                    cases hcalls (child, x) (.inPlace (.keyword hmem)) with
                    | @intro steps _ hcalls =>
                        refine judgeKeyword_of_compiled hslots hmember ?_
                        rintro _ ⟨⟩ n' x' c schema hcall hcompiled
                        exact ih steps (by omega) (hcalls _ hcall) hcompiled (by omega)
              have hanswer : nodes.all answer =
                  (nodes.filterMap id).all (Node.accepts slots steps · x) := by
                rw [List.all_filterMap]
                exact all_congr_of_mem fun node _ => by cases node <;> rfl
              simp only [judge, Context.innerBase_of_inside hinside, Option.bind_some]
              rw [judgeParts_eq hlength hparts, conjunction_map, hanswer]
              rfl

/-- A validator that was built with no documents around it answers what its schema means. -/
theorem Options.judge_of_build {o : Options} (ho : o.documents = []) {schema : Value}
    {v : Validator} {r : Registry} (h : o.build schema = (.ok v, r)) (x : Value) {fuel : Nat}
    (hfuel : v.root.steps v.slots x ≤ fuel) :
    judge (surroundings (o.settings (o.store.getD {})) r) fuel o.base schema x =
      some (v.isValid x) := by
  obtain ⟨hbuilds⟩ := Options.exists_builds h
  obtain ⟨s, rfl, hevolves, hlinked⟩ := hbuilds.exists_linked Registry.wellIndexed_empty
  have htarget := (hbuilds.isTarget_root ho).grows hevolves.grows
  have hindexed := hevolves.wellIndexed
    (hbuilds.evolves_inserted.wellIndexed Registry.wellIndexed_empty)
  exact judge_of_compiled (hlinked.complete hlinked.nodes hindexed htarget).read
    (Node.endsWithin_steps hlinked.acyclic v.root x) hlinked.root_eq hfuel

/-- Nested objects whose labels are strings. -/
def labelled : Value := .object [("type", .string "object"),
  ("properties", .object [("next", .object [("$ref", .string "#")]),
    ("label", .object [("$ref", .string "#label")])]),
  ("$defs", .object [("label", .object [("$anchor", .string "label"),
    ("type", .string "string")])])]

set_option maxRecDepth 10000 in
theorem judge_labelled : ∃ v r x, Options.build {} labelled = (.ok v, r) ∧
    v.root.steps v.slots x ≤ 60 ∧ v.isValid x = false ∧
    judge (surroundings {} r) 60 Url.ownBase labelled x = some (v.isValid x) := by
  refine ⟨_, _, .object [("next", .object [("label", .null)])], rfl, by decide, by decide, ?_⟩
  exact Options.judge_of_build (o := {}) rfl rfl _ (by decide)

end JsonSchema
