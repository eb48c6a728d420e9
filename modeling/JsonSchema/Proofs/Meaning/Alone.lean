import JsonSchema.Proofs.Meaning.Faithful

/-!
# Keywords on their own

What a compiled keyword answers is what a schema with nothing but that keyword means. In a validator
that was built among other documents, a reference to the document of its schema stands for the
schema itself.
-/

namespace JsonSchema

open Compile Meaning

/-- With enough steps, a value is judged so by a schema at a base. -/
def Judged (E : Surroundings) (base : Url) (schema x : Value) (b : Bool) : Prop :=
  ∃ steps, ∀ fuel, steps ≤ fuel → judge E fuel base schema x = some b

/-- Surroundings in which references to the place of a target lead to this target. -/
def Surroundings.withTarget (E : Surroundings) (root : Target) : Surroundings :=
  { E with
    target? := fun base reference =>
      (E.target? base reference).map fun t => if t.place = root.place then root else t }

variable {settings : Settings} {s : State} {slots : List Node} {E : Surroundings}

/-- The slots of a validator are read in the registry that was left, with the schema itself at the
root of its document. -/
theorem Options.Linked.read {uri base : Url} {schema : Value} {v : Validator}
    (h : Options.Linked settings uri base schema v s) (hr : s.registry.WellIndexed) :
    Read settings s v.slots
      ((surroundings settings s.registry).withTarget ⟨uri, .root, base, schema⟩) := by
  refine ⟨fun _ => rfl, fun origin reference t slot hleads hslot => ?_⟩
  obtain ⟨c, x, n, hplace, hschema, hnode, hn⟩ := h.exists_node hslot
  simp only [Surroundings.withTarget, target?_of_leads hleads, Option.map_some]
  cases hschema with
  | root =>
      have hroot : t.place = Target.place ⟨uri, .root, base, schema⟩ := hplace.symm
      rw [if_pos hroot]
      exact ⟨_, n, rfl, hnode, hn⟩
  | @target t' ht' hne =>
      have ht := (Registry.leads_of_resolve hr (hleads {})).1
      obtain rfl := ht'.unique ht hplace
      have hroot : t'.place ≠ Target.place ⟨uri, .root, base, schema⟩ := hne
      rw [if_neg hroot]
      exact ⟨_, n, rfl, hnode, hn⟩

/-! ## One member -/

theorem judge_singleton {fuel : Nat} {base : Url} {name : String} {k x : Value}
    (h : name ≠ "$id") : judge E (fuel + 1) base (.object [(name, k)]) x =
      judgeKeyword E (judge E fuel) base [(name, k)] name k x := by
  have hid : [(name, k)].lookup "$id" = none := by
    have hne : ("$id" == name) = false := by simpa using h.symm
    rw [List.lookup_cons, hne]
    rfl
  have hbase : innerBase base [(name, k)] = some base := by simp [innerBase, hid]
  simp only [judge, hbase, Option.bind_some, judgeParts, List.mapM_cons, List.mapM_nil]
  cases judgeKeyword E (judge E fuel) base [(name, k)] name k x <;> simp [conjunction]

/-- Only a condition looks at other members. -/
theorem judgeKeyword_members {judge : Url → Value → Value → Option Bool} {base : Url}
    {name : String} {k x : Value} (h : name ≠ "if") (members members' : List (String × Value)) :
    judgeKeyword E judge base members name k x = judgeKeyword E judge base members' name k x := by
  unfold judgeKeyword
  split <;> first
    | rfl
    | exact absurd rfl h

theorem judged_of_compiled (hslots : Read settings s slots E) {steps : Nat} {c : Context}
    {schema x : Value} {n : Node} (hends : Node.EndsWithin slots steps (n, x))
    (h : Compiled settings s c schema n) :
    Judged E c.base schema x (n.accepts slots steps x) :=
  ⟨steps, fun _ hfuel => judge_of_compiled hslots hends h hfuel⟩

/-- A keyword on its own is judged as its node answers. -/
theorem judged_of_compiledMember (hslots : Read settings s slots E) {steps : Nat} {c : Context}
    {members : List (String × Value)} {name : String} {keyword : Keyword} {k x : Value} {n : Node}
    (hends : Node.EndsWithin slots (steps + 1) (n, x))
    (h : CompiledMember settings s c members name k (some n))
    (hname : Keyword.ofName? name = some keyword) (hinformative : keyword ≠ .informative)
    (hcondition : keyword ≠ .condition) :
    Judged E c.base (.object [(name, k)]) x (n.accepts slots (steps + 1) x) := by
  have hid : name ≠ "$id" := by
    rintro rfl
    exact hinformative (Option.some.inj hname).symm
  have hif : name ≠ "if" := by
    rintro rfl
    exact hcondition (Option.some.inj hname).symm
  refine ⟨steps + 1, fun fuel hfuel => ?_⟩
  obtain ⟨fuel, rfl⟩ : ∃ f, fuel = f + 1 := Nat.exists_eq_add_of_le' (by omega)
  rw [judge_singleton hid, judgeKeyword_members hif _ members]
  cases hends with
  | intro hcalls =>
      refine judgeKeyword_of_compiled hslots h ?_
      rintro _ ⟨⟩ n' x' c' schema hcall hcompiled
      exact judge_of_compiled hslots (hcalls _ hcall) hcompiled (by omega)

end JsonSchema
