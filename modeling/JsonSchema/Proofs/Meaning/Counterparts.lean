import JsonSchema.Proofs.Compilation.Shapes
import JsonSchema.Proofs.Meaning.Faithful

/-!
# Schemas that say the same

Two schema objects are judged alike if their keywords say the same, one by one, and the schemas
inside them are judged alike. Neither the order of members counts, nor members that are no keywords.
-/

namespace JsonSchema

open Compile Meaning

namespace Meaning

variable {α β : Type} {f : α → Option Bool} {g : β → Option Bool} {l : List α} {l' : List β}

/-! ## Judgements taken together -/

/-- Parts that are judged alike one by one are judged alike together. -/
theorem judgeParts_congr {combine : List Bool → Bool}
    (h : List.Forall₂ (fun a b => f a = g b) l l') :
    judgeParts combine f l = judgeParts combine g l' := by
  have hmapM : l.mapM f = l'.mapM g := by
    induction h with
    | nil => rfl
    | cons hab _ ih => rw [List.mapM_cons, List.mapM_cons, hab, ih]
  rw [judgeParts, judgeParts, hmapM]

theorem judgeParts_conjunction_cons {a : α} : judgeParts conjunction f (a :: l) =
    (f a).bind fun b => (judgeParts conjunction f l).map (b && ·) := by
  rw [judgeParts, judgeParts, List.mapM_cons]
  cases f a with
  | none => rfl
  | some b => cases l.mapM f <;> simp [conjunction]

/-- What a conjunction is judged: it depends on which judgements there are. -/
theorem judgeParts_conjunction : judgeParts conjunction f l =
    if l.any fun a => (f a).isNone then none else some (l.all fun a => f a == some true) := by
  induction l with
  | nil => rfl
  | cons a l ih =>
      rw [judgeParts_conjunction_cons, ih, List.any_cons, List.all_cons]
      cases hf : f a with
      | none => simp
      | some b =>
          by_cases hany : (l.any fun a => (f a).isNone) = true
          · simp [hany]
          · cases b <;> simp [hany]

/-- A conjunction holds of the same parts in any order, and parts that hold anyway do not count. -/
theorem judgeParts_conjunction_congr (h : ∀ a ∈ l, f a = some true ∨ ∃ b ∈ l', g b = f a)
    (h' : ∀ b ∈ l', g b = some true ∨ ∃ a ∈ l, f a = g b) :
    judgeParts conjunction f l = judgeParts conjunction g l' := by
  have hnone : (l.any fun a => (f a).isNone) = l'.any fun b => (g b).isNone := by
    rw [Bool.eq_iff_iff, List.any_eq_true, List.any_eq_true]
    constructor
    · rintro ⟨a, ha, hfa⟩
      rcases h a ha with htrue | ⟨b, hb, hgb⟩
      · rw [htrue] at hfa
        cases hfa
      · exact ⟨b, hb, hgb ▸ hfa⟩
    · rintro ⟨b, hb, hgb⟩
      rcases h' b hb with htrue | ⟨a, ha, hfa⟩
      · rw [htrue] at hgb
        cases hgb
      · exact ⟨a, ha, hfa ▸ hgb⟩
  have hall : (l.all fun a => f a == some true) = l'.all fun b => g b == some true := by
    rw [Bool.eq_iff_iff, List.all_eq_true, List.all_eq_true]
    constructor
    · intro hl b hb
      rcases h' b hb with htrue | ⟨a, ha, hfa⟩
      · rw [htrue]
        rfl
      · exact hfa ▸ hl a ha
    · intro hl a ha
      rcases h a ha with htrue | ⟨b, hb, hgb⟩
      · rw [htrue]
        rfl
      · exact hgb ▸ hl b hb
  rw [judgeParts_conjunction, judgeParts_conjunction, hnone, hall]

end Meaning

/-! ## Keywords -/

/-- Two values are arrays with as many items. -/
def Value.SameLength (v v' : Value) : Prop :=
  ∃ items items', v = .array items ∧ v' = .array items' ∧ items.length = items'.length

/-- Two values of a keyword say the same, the schemas inside them apart. -/
def Keyword.SaysSame : Keyword → Value → Value → Prop
  | enum, v, v' => ∀ x, judgeEnum v x = judgeEnum v' x
  | const, v, v' => ∀ x, v.equivalent x = v'.equivalent x
  | properties, v, v' => ∃ schemas schemas', v = .object schemas ∧ v' = .object schemas' ∧
    ∀ name, name ∈ schemas.map Prod.fst ↔ name ∈ schemas'.map Prod.fst
  | items, v, v' =>
    v.SameLength v' ∨ (∀ items, v ≠ .array items) ∧ ∀ items, v' ≠ .array items
  | allOf, v, v' | anyOf, v, v' | oneOf, v, v' => v.SameLength v'
  | not, _, _ | condition, _, _ | branch _, _, _ | informative, _, _ => True
  | _, v, v' => v = v'

/-- Two schema objects have the same names and the same keywords with a meaning. -/
structure SameKeywords (members members' : List (String × Value)) : Prop where
  id : members'.lookup "$id" = members.lookup "$id"
  anchor : members'.lookup "$anchor" = members.lookup "$anchor"
  keyword : ∀ name k, Keyword.ofName? name = some k → k ≠ .informative →
    Option.Rel k.SaysSame (members.lookup name) (members'.lookup name)

/-- Two schemas say the same, the schemas inside them apart. -/
def Value.SaysSame : Value → Value → Prop
  | .bool b, v' => v' = .bool b
  | .object members, v' => ∃ members', v' = .object members' ∧ SameKeywords members members'
  | _, _ => False

section Judgements

variable {judge judge' : Value → Value → Option Bool} {v v' x : Value}

theorem judgeBranches_congr {combine : List Bool → Bool} {items items' : List Value}
    (h : List.Forall₂ (fun schema schema' => judge schema x = judge' schema' x) items items') :
    judgeBranches judge combine (.array items) x =
      judgeBranches judge' combine (.array items') x := by
  cases h with
  | nil => rfl
  | cons hschema hrest => exact judgeParts_congr (.cons hschema hrest)

theorem judgeItems_congr_array {items items' : List Value}
    (h : List.Forall₂ (fun schema schema' => ∀ y, judge schema y = judge' schema' y)
      items items') :
    judgeItems judge (.array items) x = judgeItems judge' (.array items') x := by
  cases x with
  | array values =>
      refine judgeParts_congr ?_
      induction h generalizing values with
      | nil => exact .nil
      | cons hschema _ ih =>
          cases values with
          | nil => exact .nil
          | cons y values => exact .cons (hschema y) (ih values)
  | _ => rfl

theorem judgeItems_congr (hv : ∀ items, v ≠ .array items) (hv' : ∀ items, v' ≠ .array items)
    (h : ∀ y, judge v y = judge' v' y) : judgeItems judge v x = judgeItems judge' v' x := by
  have huniform {f : Value → Value → Option Bool} {k : Value} (hk : ∀ items, k ≠ .array items)
      (values : List Value) :
      judgeItems f k (.array values) = judgeParts conjunction (f k) values := by
    cases k with
    | array items => exact absurd rfl (hk items)
    | _ => rfl
  have hother {f : Value → Value → Option Bool} {k : Value}
      (hx : ∀ values, x ≠ .array values) : judgeItems f k x = some true := by
    cases x with
    | array values => exact absurd rfl (hx values)
    | _ => cases k <;> rfl
  cases x with
  | array values =>
      rw [huniform hv, huniform hv']
      exact judgeParts_congr (List.forall₂_same.mpr fun y _ => h y)
  | _ => rw [hother nofun, hother nofun]

theorem judgeProperties_congr {schemas schemas' : List (String × Value)}
    (hnames : ∀ name, name ∈ schemas.map Prod.fst ↔ name ∈ schemas'.map Prod.fst)
    (h : ∀ name schema schema', (name, schema) ∈ schemas → (name, schema') ∈ schemas' →
      ∀ y, judge schema y = judge' schema' y) :
    judgeProperties judge (.object schemas) x = judgeProperties judge' (.object schemas') x := by
  have hmember {name : String} {schema schema' : Value} (hmem : (name, schema) ∈ schemas)
      (hmem' : (name, schema') ∈ schemas') :
      judgeMember judge x (name, schema) = judgeMember judge' x (name, schema') := by
    unfold judgeMember
    cases x.get? name with
    | none => rfl
    | some child => exact h name schema schema' hmem hmem' child
  refine judgeParts_conjunction_congr ?_ ?_
  · rintro ⟨name, schema⟩ hmem
    obtain ⟨⟨_, schema'⟩, hmem', rfl⟩ :=
      List.mem_map.mp ((hnames name).mp (List.mem_map_of_mem hmem))
    exact .inr ⟨_, hmem', (hmember hmem hmem').symm⟩
  · rintro ⟨name, schema'⟩ hmem'
    obtain ⟨⟨_, schema⟩, hmem, rfl⟩ :=
      List.mem_map.mp ((hnames name).mpr (List.mem_map_of_mem hmem'))
    exact .inr ⟨_, hmem, hmember hmem hmem'⟩

theorem judgeBranch_congr {schema schema' : Option Value}
    (h : Option.Rel (fun v v' => judge v x = judge' v' x) schema schema') :
    judgeBranch judge schema x = judgeBranch judge' schema' x := by
  cases h with
  | none => rfl
  | some h => exact h

theorem judgeCondition_congr {members members' : List (String × Value)}
    (h : judge v x = judge' v' x)
    (hmet : Option.Rel (fun v v' => judge v x = judge' v' x) (members.lookup "then")
      (members'.lookup "then"))
    (hunmet : Option.Rel (fun v v' => judge v x = judge' v' x) (members.lookup "else")
      (members'.lookup "else")) :
    judgeCondition judge members v x = judgeCondition judge' members' v' x := by
  have hthen := judgeBranch_congr hmet
  have helse := judgeBranch_congr hunmet
  unfold judgeCondition
  generalize members.lookup "then" = met at hmet hthen
  generalize members'.lookup "then" = met' at hmet hthen
  generalize members.lookup "else" = unmet at hunmet helse
  generalize members'.lookup "else" = unmet' at hunmet helse
  cases hmet <;> cases hunmet <;> simp only [h, hthen, helse]

end Judgements

/-- Keywords that say the same are judged alike, if the schemas inside them are. -/
theorem judgeKeyword_congr {E E' : Surroundings} {judge judge' : Url → Value → Value → Option Bool}
    {base : Url} {members members' : List (String × Value)} {name : String} {k : Keyword}
    {v v' x : Value} (hformat : E.format? = E'.format?) (h : Keyword.ofName? name = some k)
    (hv : k.SaysSame v v')
    (hinside : ∀ path schema schema', k.HoldsAt v path schema → k.HoldsAt v' path schema' →
      ∀ y, judge base schema y = judge' base schema' y)
    (htarget : k = .ref → (v.string?.bind (E.target? base)).bind (fun t =>
      judge t.base t.contents x) = (v'.string?.bind (E'.target? base)).bind fun t =>
        judge' t.base t.contents x)
    (hbranch : k = .condition → ∀ branch, branch = "then" ∨ branch = "else" →
      Option.Rel (fun v v' => judge base v x = judge' base v' x) (members.lookup branch)
        (members'.lookup branch)) :
    judgeKeyword E judge base members name v x =
      judgeKeyword E' judge' base members' name v' x := by
  have hitems {items items' : List Value} (hlength : items.length = items'.length)
      (hitem : ∀ (i : Nat) schema schema', items[i]? = some schema → items'[i]? = some schema' →
        ∀ y, judge base schema y = judge' base schema' y) :
      List.Forall₂ (fun schema schema' => ∀ y, judge base schema y = judge' base schema' y)
        items items' := forall₂_of_getElem? hlength hitem
  cases k with
  | informative =>
      rw [judgeKeyword_of_ignored (.inr h), judgeKeyword_of_ignored (.inr h)]
  | branch met =>
      rw [judgeKeyword_of_branch h, judgeKeyword_of_branch h]
  | ref =>
      obtain rfl : name = "$ref" := Keyword.name_eq h (by decide)
      exact htarget rfl
  | enum =>
      obtain rfl : name = "enum" := Keyword.name_eq h (by decide)
      exact hv x
  | const =>
      obtain rfl : name = "const" := Keyword.name_eq h (by decide)
      exact congrArg some (hv x)
  | format =>
      obtain rfl : name = "format" := Keyword.name_eq h (by decide)
      obtain rfl : v = v' := hv
      show judgeFormat E v x = judgeFormat E' v x
      simp only [judgeFormat, hformat]
  | properties =>
      obtain rfl : name = "properties" := Keyword.name_eq h (by decide)
      obtain ⟨schemas, schemas', rfl, rfl, hnames⟩ := hv
      exact judgeProperties_congr hnames fun name schema schema' hmem hmem' =>
        hinside [name] schema schema' (.property hmem) (.property hmem')
  | items =>
      obtain rfl : name = "items" := Keyword.name_eq h (by decide)
      rcases hv with ⟨items, items', rfl, rfl, hlength⟩ | ⟨hv, hv'⟩
      · exact judgeItems_congr_array (hitems hlength fun i schema schema' hi hi' =>
          hinside [toString i] schema schema' (.item hi) (.item hi'))
      · exact judgeItems_congr hv hv' (hinside [] v v' (.items hv) (.items hv'))
  | allOf =>
      obtain rfl : name = "allOf" := Keyword.name_eq h (by decide)
      obtain ⟨items, items', rfl, rfl, hlength⟩ := hv
      exact judgeBranches_congr ((hitems hlength fun i schema schema' hi hi' =>
        hinside [toString i] schema schema' (.allOf hi) (.allOf hi')).imp fun _ _ h => h x)
  | anyOf =>
      obtain rfl : name = "anyOf" := Keyword.name_eq h (by decide)
      obtain ⟨items, items', rfl, rfl, hlength⟩ := hv
      exact judgeBranches_congr ((hitems hlength fun i schema schema' hi hi' =>
        hinside [toString i] schema schema' (.anyOf hi) (.anyOf hi')).imp fun _ _ h => h x)
  | oneOf =>
      obtain rfl : name = "oneOf" := Keyword.name_eq h (by decide)
      obtain ⟨items, items', rfl, rfl, hlength⟩ := hv
      exact judgeBranches_congr ((hitems hlength fun i schema schema' hi hi' =>
        hinside [toString i] schema schema' (.oneOf hi) (.oneOf hi')).imp fun _ _ h => h x)
  | not =>
      obtain rfl : name = "not" := Keyword.name_eq h (by decide)
      exact congrArg (Option.map (!·)) (hinside [] v v' .not .not x)
  | condition =>
      obtain rfl : name = "if" := Keyword.name_eq h (by decide)
      exact judgeCondition_congr (hinside [] v v' .condition .condition x)
        (hbranch rfl "then" (.inl rfl)) (hbranch rfl "else" (.inr rfl))
  | type | bound _ | multipleOf | length _ | pattern | itemCount _ | required =>
      obtain rfl : v = v' := hv
      unfold judgeKeyword
      split <;> first
        | rfl
        | cases h

end JsonSchema
