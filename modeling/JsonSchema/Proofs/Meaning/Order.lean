import JsonSchema.Proofs.Meaning.Counterparts
import JsonSchema.Proofs.Value.Reordered

/-!
# Judgements and the order of members

A value is judged alike in whichever order the objects in it have their members. Formats are asked
about whole values, but the built-in ones do not look into arrays or objects.
-/

namespace JsonSchema

open Compile Meaning

variable {x x' : Value}

/-! ## Formats -/

/-- A format does not see the order of members. -/
def Format.IgnoresOrder (f : Format) : Prop :=
  ∀ x x' : Value, x.Reordered x' → f.check x = f.check x'

theorem Format.ignoresOrder_ofPredicate (name : String) (p : String → Bool) :
    (ofPredicate name p).IgnoresOrder := by
  intro x x' h
  cases h <;> rfl

theorem Format.ignoresOrder_ofNumberCheck (name : String) (f : Number → Verdict) :
    (ofNumberCheck name f).IgnoresOrder := by
  intro x x' h
  cases h <;> rfl

theorem Format.ignoresOrder_of_mem_builtins : ∀ f ∈ builtins, f.IgnoresOrder := by
  simp only [builtins, List.forall_mem_cons, ignoresOrder_ofPredicate, ignoresOrder_ofNumberCheck,
    true_and]
  exact nofun

theorem ignoresOrder_of_format? (r : Registry) (name : String) (f : Format)
    (h : (surroundings {} r).format? name = some f) : f.IgnoresOrder := by
  have hbuiltin : Format.builtin? name = some f := h
  exact Format.ignoresOrder_of_mem_builtins f (List.mem_of_find?_eq_some hbuiltin)

/-! ## Keywords without schemas -/

section Checks

variable (h : x.Reordered x')

include h

theorem TypeName.admits_reordered (t : TypeName) : t.admits x = t.admits x' := by
  cases h <;> cases t <;> rfl

theorem judgeType_reordered (k : Value) : judgeType k x = judgeType k x' := by
  unfold judgeType
  simp only [TypeName.admits_reordered h]

theorem judgeEnum_reordered (k : Value) : judgeEnum k x = judgeEnum k x' := by
  unfold judgeEnum
  have hequivalent (v : Value) : v.equivalent x = v.equivalent x' := Value.agree_reordered_right h v
  simp only [hequivalent]

theorem judgeFormat_reordered {E : Surroundings}
    (hE : ∀ name f, E.format? name = some f → f.IgnoresOrder) (k : Value) :
    judgeFormat E k x = judgeFormat E k x' := by
  unfold judgeFormat
  split
  · rename_i name
    cases hf : E.format? name with
    | none => rfl
    | some f => rw [Option.all_some, Option.all_some, hE name f hf x x' h]
  · rfl

theorem judgeBound_reordered (admits : Ordering → Bool) (k : Value) :
    judgeBound admits k x = judgeBound admits k x' := by
  cases h <;> cases k <;> rfl

theorem judgeMultipleOf_reordered (k : Value) : judgeMultipleOf k x = judgeMultipleOf k x' := by
  cases h <;> cases k <;> rfl

theorem stringSize?_reordered : stringSize? x = stringSize? x' := by
  cases h <;> rfl

theorem arraySize?_reordered : arraySize? x = arraySize? x' := by
  cases h with
  | array hlength => exact congrArg some hlength
  | _ => rfl

theorem judgePattern_reordered (k : Value) : judgePattern k x = judgePattern k x' := by
  have hstring : x.string? = x'.string? := by cases h <;> rfl
  unfold judgePattern
  rw [hstring]

theorem judgeRequired_reordered (k : Value) : judgeRequired k x = judgeRequired k x' := by
  cases h with
  | object hkeys hmembers =>
      have hpresent (name : String) := (Value.Reordered.object hkeys hmembers).isSome_lookup name
      unfold judgeRequired
      simp only [hpresent]
  | _ => rfl

end Checks

/-! ## Keywords with schemas -/

section Schemas

variable {judge : Value → Value → Option Bool}
variable (hjudge : ∀ schema x x', x.Reordered x' → judge schema x = judge schema x')
variable (h : x.Reordered x')

include hjudge h

theorem judgeProperties_reordered (k : Value) :
    judgeProperties judge k x = judgeProperties judge k x' := by
  have hmember : judgeMember judge x = judgeMember judge x' := by
    funext ⟨name, schema⟩
    have hget := h.get? name
    unfold judgeMember
    generalize x.get? name = child at hget ⊢
    generalize x'.get? name = child' at hget ⊢
    cases hget with
    | none => rfl
    | some hchild => exact hjudge schema _ _ hchild
  unfold judgeProperties
  rw [hmember]

theorem judgeItems_reordered (k : Value) : judgeItems judge k x = judgeItems judge k x' := by
  cases h with
  | @array items items' hlength hitems =>
      have hforall := forall₂_of_getElem? hlength hitems
      cases k with
      | array schemas =>
          refine judgeParts_congr ?_
          clear hlength hitems
          induction hforall generalizing schemas with
          | nil => cases schemas <;> exact .nil
          | cons hx _ ih =>
              cases schemas with
              | nil => exact .nil
              | cons schema schemas => exact .cons (hjudge schema _ _ hx) (ih schemas)
      | _ => exact judgeParts_congr (hforall.imp fun _ _ => hjudge _ _ _)
  | object => cases k <;> rfl
  | _ => rfl

end Schemas

/-- A keyword is judged alike, if the schemas in it are. -/
theorem judgeKeyword_reordered {E : Surroundings} {judge : Url → Value → Value → Option Bool}
    (hE : ∀ name f, E.format? name = some f → f.IgnoresOrder)
    (hjudge : ∀ base schema x x', x.Reordered x' → judge base schema x = judge base schema x')
    (h : x.Reordered x') (base : Url) (members : List (String × Value)) (name : String)
    (k : Value) :
    judgeKeyword E judge base members name k x = judgeKeyword E judge base members name k x' := by
  have hsame (base : Url) (schema : Value) : judge base schema x = judge base schema x' :=
    hjudge base schema x x' h
  unfold judgeKeyword
  split
  · simp only [hsame]
  · exact judgeType_reordered h k
  · exact judgeEnum_reordered h k
  · exact congrArg some (Value.agree_reordered_right h k)
  · exact judgeFormat_reordered h hE k
  · exact judgeBound_reordered h _ k
  · exact judgeBound_reordered h _ k
  · exact judgeBound_reordered h _ k
  · exact judgeBound_reordered h _ k
  · exact judgeMultipleOf_reordered h k
  · rw [judgeSize, judgeSize, stringSize?_reordered h]
  · rw [judgeSize, judgeSize, stringSize?_reordered h]
  · exact judgePattern_reordered h k
  · rw [judgeSize, judgeSize, arraySize?_reordered h]
  · rw [judgeSize, judgeSize, arraySize?_reordered h]
  · exact judgeItems_reordered (hjudge base) h k
  · exact judgeRequired_reordered h k
  · exact judgeProperties_reordered (hjudge base) h k
  · simp only [judgeBranches, hsame]
  · simp only [judgeBranches, hsame]
  · simp only [judgeBranches, hsame]
  · rw [hsame]
  · simp only [judgeCondition, judgeBranch, hsame]
  · rfl

/-- A schema judges values alike that differ in the order of members. -/
theorem judge_reordered {E : Surroundings}
    (hE : ∀ name f, E.format? name = some f → f.IgnoresOrder) (fuel : Nat) :
    ∀ base schema x x', x.Reordered x' →
      judge E fuel base schema x = judge E fuel base schema x' := by
  induction fuel with
  | zero => exact fun _ _ _ _ _ => rfl
  | succ fuel ih =>
      intro base schema x x' h
      unfold judge
      cases schema with
      | object members => simp only [judgeKeyword_reordered hE ih h]
      | _ => rfl

end JsonSchema
