import JsonSchema.Proofs.Compilation.Inside

/-!
# Keywords mean what their nodes accept

A keyword is judged as its node answers, provided that the schemas inside it are judged as the nodes
that are asked for them answer. A keyword that has no node is judged to hold.
-/

namespace JsonSchema

open Compile Meaning

/-- What the text of a schema refers to once its documents are in a registry. -/
def surroundings (settings : Settings) (r : Registry) : Surroundings where
  format? name := if settings.validateFormats then settings.format? name else none
  target? base reference := (r.resolve settings.retriever base reference).1.toOption

theorem target?_of_leads {settings : Settings} {r : Registry} {base : Url} {reference : String}
    {t : Target} (h : r.Leads base reference t) :
    (surroundings settings r).target? base reference = some t := by
  simp [surroundings, h settings.retriever, Except.toOption]

/-! ## Keywords without schemas -/

section Checks

variable {k x : Value}

theorem typeNamed_of_readTypeName {name : Value} {t : TypeName} (h : readTypeName name = .ok t) :
    typeNamed name = some t := by
  unfold readTypeName at h
  split at h
  · split at h
    · rename_i hname
      cases h
      exact hname
    · cases h
  · cases h

theorem judgeType_of_readTypes {types : List TypeName} (h : readTypes k = .ok types) :
    judgeType k x = some (types.any (·.admits x)) := by
  unfold readTypes at h
  split at h
  · rename_i name
    obtain ⟨t, ht, rfl⟩ := map_eq_ok.mp h
    simp [judgeType, typeNamed_of_readTypeName ht]
  · rename_i name names
    have hnames := (forall₂_of_mapM_ok h).imp fun _ _ => typeNamed_of_readTypeName
    simp only [judgeType, mapM_eq_some_of_forall₂ hnames, Option.map_some]
  · cases h

theorem judgeRequired_of_readNames {names : List String} (h : readNames k = .ok names) :
    judgeRequired k x = some (x.missing names).isEmpty := by
  unfold readNames at h
  split at h
  · rename_i values
    have hstrings : List.Forall₂ (fun v name => v.string? = some name) values names := by
      refine (forall₂_of_mapM_ok h).imp fun v name hv => ?_
      cases v with
      | string s => simpa [Value.string?] using hv
      | _ => simp at hv
    simp only [judgeRequired, mapM_eq_some_of_forall₂ hstrings, Option.map_some, Value.missing]
    cases x with
    | object members =>
        simp only [Option.some.injEq]
        rw [Bool.eq_iff_iff, List.isEmpty_iff, List.filter_eq_nil_iff, List.all_eq_true]
        simp [Option.isSome_iff_ne_none]
    | _ => rfl
  · cases h

theorem limit?_of_readCount {limit : Nat} (h : readCount k = .ok limit) :
    limit? k = some limit := by
  unfold readCount at h
  split at h
  · split at h
    · rename_i hcount
      cases h
      exact hcount
    · cases h
  · cases h

theorem judgeBound_of_readNumber {admits : Ordering → Bool} {b : Bound} {limit : Number}
    (h : readNumber k = .ok limit) (hadmits : b.admits = admits) :
    judgeBound admits k x = some ((Check.bound b limit).holds x) := by
  unfold readNumber at h
  split at h
  · cases h
    cases x <;> simp [judgeBound, Check.holds, hadmits]
  · cases h

theorem judgeMultipleOf_of_readDivisor {divisor : Number} (h : readDivisor k = .ok divisor) :
    judgeMultipleOf k x = some ((Check.multipleOf divisor).holds x) := by
  unfold readDivisor at h
  split at h
  · split at h
    · cases h
      cases x <;> simp [judgeMultipleOf, Check.holds]
    · cases h
  · cases h

theorem judgeLength_of_readCount {admits : Nat → Nat → Bool} {side : Side} {limit : Nat}
    (h : readCount k = .ok limit) (hadmits : side.admits = admits) :
    judgeSize stringSize? admits k x = some ((Check.length side limit).holds x) := by
  simp only [judgeSize, limit?_of_readCount h, Option.map_some]
  cases x <;> simp [stringSize?, Check.holds, hadmits]

theorem judgeItemCount_of_readCount {admits : Nat → Nat → Bool} {side : Side} {limit : Nat}
    (h : readCount k = .ok limit) (hadmits : side.admits = admits) :
    judgeSize arraySize? admits k x = some ((Check.itemCount side limit).holds x) := by
  simp only [judgeSize, limit?_of_readCount h, Option.map_some]
  cases x <;> simp [arraySize?, Check.holds, hadmits]

theorem judgeEnum_of_readOptions {options : List Value} (h : readOptions k = .ok options) :
    judgeEnum k x = some ((Check.enum options).holds x) := by
  unfold readOptions at h
  split at h
  · cases h
    rfl
  · cases h

/-- A keyword that is a check is judged as its check; the format may be unknown. -/
theorem judgeKeyword_of_readCheck {settings : Settings} {E : Surroundings}
    (hformats : ∀ name, E.format? name =
      if settings.validateFormats then settings.format? name else none)
    {judge : Url → Value → Value → Option Bool} {base : Url} {members : List (String × Value)}
    {name : String} {keyword : Keyword} {check : Option Check}
    (h : Keyword.ofName? name = some keyword) (hk : keyword.isCheck = true)
    (hcheck : readCheck settings keyword k = .ok check) :
    judgeKeyword E judge base members name k x = some (check.all (·.holds x)) := by
  cases keyword with
  | type =>
      obtain rfl : name = "type" := Keyword.name_eq h (by decide)
      obtain ⟨types, htypes, rfl⟩ := map_eq_ok.mp hcheck
      simp [judgeKeyword, judgeType_of_readTypes htypes, Check.holds]
  | enum =>
      obtain rfl : name = "enum" := Keyword.name_eq h (by decide)
      obtain ⟨options, hoptions, rfl⟩ := map_eq_ok.mp hcheck
      simp [judgeKeyword, judgeEnum_of_readOptions hoptions]
  | const =>
      obtain rfl : name = "const" := Keyword.name_eq h (by decide)
      cases hcheck
      simp [judgeKeyword, Check.holds]
  | format =>
      obtain rfl : name = "format" := Keyword.name_eq h (by decide)
      obtain ⟨format, hformat, rfl⟩ := map_eq_ok.mp hcheck
      rw [eq_string_of_readString hformat]
      simp only [judgeKeyword, judgeFormat, hformats]
      split <;> simp [Option.all_map, Check.holds]
  | bound b =>
      obtain ⟨limit, hlimit, rfl⟩ := map_eq_ok.mp hcheck
      have hbound (admits : Ordering → Bool) (hadmits : b.admits = admits) :=
        judgeBound_of_readNumber (x := x) hlimit hadmits
      cases b with
      | minimum =>
          obtain rfl : name = "minimum" := Keyword.name_eq h (by decide)
          simpa [judgeKeyword] using hbound (· != .lt) rfl
      | maximum =>
          obtain rfl : name = "maximum" := Keyword.name_eq h (by decide)
          simpa [judgeKeyword] using hbound (· != .gt) rfl
      | exclusiveMinimum =>
          obtain rfl : name = "exclusiveMinimum" := Keyword.name_eq h (by decide)
          simpa [judgeKeyword] using hbound (· == .gt) rfl
      | exclusiveMaximum =>
          obtain rfl : name = "exclusiveMaximum" := Keyword.name_eq h (by decide)
          simpa [judgeKeyword] using hbound (· == .lt) rfl
  | multipleOf =>
      obtain rfl : name = "multipleOf" := Keyword.name_eq h (by decide)
      obtain ⟨divisor, hdivisor, rfl⟩ := map_eq_ok.mp hcheck
      simp [judgeKeyword, judgeMultipleOf_of_readDivisor hdivisor]
  | length side =>
      obtain ⟨limit, hlimit, rfl⟩ := map_eq_ok.mp hcheck
      have hlength (admits : Nat → Nat → Bool) (hadmits : side.admits = admits) :=
        judgeLength_of_readCount (x := x) hlimit hadmits
      cases side with
      | min =>
          obtain rfl : name = "minLength" := Keyword.name_eq h (by decide)
          simpa [judgeKeyword] using hlength (fun size limit => limit ≤ size) rfl
      | max =>
          obtain rfl : name = "maxLength" := Keyword.name_eq h (by decide)
          simpa [judgeKeyword] using hlength (fun size limit => size ≤ limit) rfl
  | itemCount side =>
      obtain ⟨limit, hlimit, rfl⟩ := map_eq_ok.mp hcheck
      have hcount (admits : Nat → Nat → Bool) (hadmits : side.admits = admits) :=
        judgeItemCount_of_readCount (x := x) hlimit hadmits
      cases side with
      | min =>
          obtain rfl : name = "minItems" := Keyword.name_eq h (by decide)
          simpa [judgeKeyword] using hcount (fun size limit => limit ≤ size) rfl
      | max =>
          obtain rfl : name = "maxItems" := Keyword.name_eq h (by decide)
          simpa [judgeKeyword] using hcount (fun size limit => size ≤ limit) rfl
  | _ => cases hk

end Checks

/-! ## Keywords with schemas -/

section Schemas

variable {settings : Settings} {s : State} {slots : List Node} {x : Value}
variable {judge : Url → Value → Value → Option Bool} {answer : Node → Value → Bool}
variable {c : Context} {members : List (String × Value)} {name : String} {k : Value} {n : Node}

/-- Parts that are judged as nodes answer are judged together as the answers taken together. -/
theorem judgeParts_eq {α β : Type} {combine : List Bool → Bool} {judge : α → Option Bool}
    {answer : β → Bool} {parts : List α} {nodes : List β} (hlength : parts.length = nodes.length)
    (h : ∀ p ∈ parts.zip nodes, judge p.1 = some (answer p.2)) :
    judgeParts combine judge parts = some (combine (nodes.map answer)) := by
  have hparts : List.Forall₂ (fun a b => judge a = some b) parts (nodes.map answer) := by
    rw [List.forall₂_map_right_iff, List.forall₂_iff_zip]
    exact ⟨hlength, fun hp => h _ hp⟩
  rw [judgeParts, mapM_eq_some_of_forall₂ hparts, Option.map_some]

/-- Schemas are judged as their nodes answer, where a node is asked from a given one. -/
def Answers (settings : Settings) (s : State) (slots : List Node)
    (judge : Url → Value → Value → Option Bool) (answer : Node → Value → Bool) (n : Node)
    (x : Value) : Prop :=
  ∀ n' x' c schema, Node.Call slots (n, x) (n', x') → Compiled settings s c schema n' →
    judge c.base schema x' = some (answer n' x')

theorem judgeBranches_eq (combine : List Bool → Bool) {schema : Value} {schemas : List Value}
    {nodes : List Node} (hlength : (schema :: schemas).length = nodes.length)
    (hnodes : ∀ (i : Nat) branch n, (schema :: schemas)[i]? = some branch → nodes[i]? = some n →
      Compiled settings s (c.index i) branch n)
    (h : Answers settings s slots judge answer n x) (hn : ∀ n' ∈ nodes, Node.InPlace n n') :
    judgeBranches (judge c.base) combine (.array (schema :: schemas)) x =
      some (combine (nodes.map (answer · x))) := by
  refine judgeParts_eq hlength fun p hp => ?_
  obtain ⟨i, hbranch, hnode⟩ := mem_zip_iff_getElem?.mp hp
  exact h p.2 x (c.index i) p.1 (.inPlace (hn p.2 (List.mem_of_getElem? hnode)))
    (hnodes i p.1 p.2 hbranch hnode)

theorem conjunction_map {α : Type} (l : List α) (f : α → Bool) :
    conjunction (l.map f) = l.all f := List.all_map

theorem disjunction_map {α : Type} (l : List α) (f : α → Bool) :
    disjunction (l.map f) = l.any f := List.any_map

theorem exactlyOne_map {α : Type} (l : List α) (f : α → Bool) :
    exactlyOne (l.map f) = (l.countP f == 1) := by
  rw [exactlyOne, List.countP_map]
  rfl

theorem judgeProperties_eq {l : SchemaLocation} {schemas : List (String × Value)}
    {nodes : List (String × Node)} (hnames : schemas.map Prod.fst = nodes.map Prod.fst)
    (hnodes : ∀ p ∈ schemas.zip nodes, Compiled settings s (c.key p.1.1) p.1.2 p.2.2)
    (h : Answers settings s slots judge answer (.properties l nodes) x) :
    judgeProperties (judge c.base) (.object schemas) x =
      some (Node.acceptsStep slots answer (.properties l nodes) x) := by
  have hlength : schemas.length = nodes.length := by simpa using congrArg List.length hnames
  let answerMember : String × Node → Bool := fun m => (x.get? m.1).all (answer m.2)
  have hparts : ∀ p ∈ schemas.zip nodes,
      judgeMember (judge c.base) x p.1 = some (answerMember p.2) := by
    rintro ⟨⟨name, schema⟩, ⟨name', node⟩⟩ hp
    obtain rfl : name = name' := fst_eq_of_mem_zip hnames hp
    cases hget : x.get? name with
    | none => simp [judgeMember, answerMember, hget]
    | some child =>
        have hcall : Node.Call slots (.properties l nodes, x) (node, child) :=
          .property (Node.mem_presentMembers.mpr ⟨(List.of_mem_zip hp).2, hget⟩)
        simpa [judgeMember, answerMember, hget] using
          h node child (c.key name) schema hcall (hnodes _ hp)
  have hanswer : (Node.presentMembers nodes x).all (fun m => answer m.2.1 m.2.2) =
      nodes.all answerMember := by
    rw [Node.presentMembers, List.all_filterMap]
    refine all_congr_of_mem fun m _ => ?_
    cases hget : x.get? m.1 <;> simp [answerMember, hget]
  rw [judgeProperties, judgeParts_eq hlength hparts, conjunction_map, Node.acceptsStep, hanswer]

theorem judgeItems_array_eq {l : SchemaLocation} {schemas : List Value} {nodes : List Node}
    (hlength : schemas.length = nodes.length)
    (hnodes : ∀ (i : Nat) schema n, schemas[i]? = some schema → nodes[i]? = some n →
      Compiled settings s (c.index i) schema n)
    (h : Answers settings s slots judge answer (.positionalItems l nodes) x) :
    judgeItems (judge c.base) (.array schemas) x =
      some (Node.acceptsStep slots answer (.positionalItems l nodes) x) := by
  cases x with
  | array items =>
      let answerItem : Node × Value → Bool := fun p => answer p.1 p.2
      have hparts : ∀ p ∈ (schemas.zip items).zip (nodes.zip items),
          judge c.base p.1.1 p.1.2 = some (answerItem p.2) := by
        rintro ⟨⟨schema, item⟩, ⟨node, item'⟩⟩ hp
        obtain ⟨i, hi, hi'⟩ := mem_zip_iff_getElem?.mp hp
        obtain ⟨hschema, hitem⟩ := List.getElem?_zip_eq_some.mp hi
        obtain ⟨hnode, hitem'⟩ := List.getElem?_zip_eq_some.mp hi'
        obtain rfl : item = item' := Option.some.inj (hitem.symm.trans hitem')
        have hcall : Node.Call slots (.positionalItems l nodes, .array items) (node, item) :=
          .positionalItem (Node.mem_positionedItems.mpr ⟨items, rfl, hnode, hitem⟩)
        exact h node item (c.index i) schema hcall (hnodes i schema node hschema hnode)
      have hanswer := all_zipIdx (l := nodes.zip items) (p := answerItem)
      have hlengths : (schemas.zip items).length = (nodes.zip items).length := by simp [hlength]
      rw [judgeItems, judgeParts_eq hlengths hparts, conjunction_map, Node.acceptsStep,
        Node.positionedItems, ← hanswer]
  | _ => simp [judgeItems, Node.acceptsStep, Node.positionedItems]

theorem judgeItems_eq {l : SchemaLocation} {schema : Value}
    (hschema : ∀ schemas, schema ≠ .array schemas) (hn : Compiled settings s c schema n)
    (h : Answers settings s slots judge answer (.uniformItems l n) x) :
    judgeItems (judge c.base) schema x =
      some (Node.acceptsStep slots answer (.uniformItems l n) x) := by
  cases x with
  | array items =>
      have hparts : ∀ p ∈ items.zip items, judge c.base schema p.1 = some (answer n p.2) := by
        rintro ⟨item, item'⟩ hp
        obtain ⟨i, hi, hi'⟩ := mem_zip_iff_getElem?.mp hp
        obtain rfl : item = item' := Option.some.inj (hi.symm.trans hi')
        exact h n item c schema (.uniformItem (Node.mem_allItems.mpr ⟨items, rfl, hi⟩)) hn
      have hanswer := all_zipIdx (l := items) (p := answer n)
      have hjudge : judgeItems (judge c.base) schema (.array items) =
          judgeParts conjunction (judge c.base schema) items := by
        cases schema with
        | array schemas => exact absurd rfl (hschema schemas)
        | _ => rfl
      rw [hjudge, judgeParts_eq rfl hparts, conjunction_map, Node.acceptsStep, Node.allItems,
        ← hanswer]
  | _ => cases schema <;> simp [judgeItems, Node.acceptsStep, Node.allItems]

theorem judgeBranch_eq {schema : Option Value} {node : Option Node}
    (hsome : schema.isSome = node.isSome)
    (h : ∀ v n', schema = some v → node = some n' → judge c.base v x = some (answer n' x)) :
    judgeBranch (judge c.base) schema x = some (node.all (answer · x)) := by
  cases schema with
  | none => cases node <;> simp_all [judgeBranch]
  | some v =>
      cases node with
      | none => simp at hsome
      | some n' => exact h v n' rfl rfl

theorem judgeCondition_eq {l : SchemaLocation} {met unmet : Option Node}
    (hn : Compiled settings s (c.key "if") k n)
    (hmet : (members.lookup "then").isSome = met.isSome)
    (hmetNode : ∀ schema n, members.lookup "then" = some schema → met = some n →
      Compiled settings s (c.key "then") schema n)
    (hunmet : (members.lookup "else").isSome = unmet.isSome)
    (hunmetNode : ∀ schema n, members.lookup "else" = some schema → unmet = some n →
      Compiled settings s (c.key "else") schema n)
    (hsome : met.isSome ∨ unmet.isSome)
    (h : Answers settings s slots judge answer (.conditional l n met unmet) x) :
    judgeCondition (judge c.base) members k x =
      some (Node.acceptsStep slots answer (.conditional l n met unmet) x) := by
  have hcondition : judge c.base k x = some (answer n x) :=
    h n x (c.key "if") k (.inPlace .condition) hn
  have hthen : judgeBranch (judge c.base) (members.lookup "then") x = some (met.all (answer · x)) :=
    judgeBranch_eq hmet fun v n' hv hn' =>
      h n' x (c.key "then") v (.inPlace (hn' ▸ .met)) (hmetNode v n' hv hn')
  have helse : judgeBranch (judge c.base) (members.lookup "else") x =
      some (unmet.all (answer · x)) :=
    judgeBranch_eq hunmet fun v n' hv hn' =>
      h n' x (c.key "else") v (.inPlace (hn' ▸ .unmet)) (hunmetNode v n' hv hn')
  have hbranches : judgeCondition (judge c.base) members k x = (judge c.base k x).bind fun holds =>
      if holds then judgeBranch (judge c.base) (members.lookup "then") x
      else judgeBranch (judge c.base) (members.lookup "else") x := by
    unfold judgeCondition
    split
    · rename_i hnone hnone'
      rw [hnone] at hmet
      rw [hnone'] at hunmet
      rw [← hmet, ← hunmet] at hsome
      simp at hsome
    · rfl
  rw [hbranches, hcondition, Option.bind_some, hthen, helse, Node.acceptsStep]
  split <;> rfl

end Schemas
end JsonSchema
