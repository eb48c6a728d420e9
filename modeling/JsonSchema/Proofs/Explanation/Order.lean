import JsonSchema.Proofs.Compilation.Order
import JsonSchema.Proofs.Explanation.Completeness
import Mathlib.Data.Multiset.Bind

/-!
# Reports and the order of members

A schema makes the same checks in whichever order it has its members, and makes them of a value in
whichever order this one has its members. What changes is the order of the checks, and with it that
of the entries of a report, and the order of members in the values that are shown.
-/

namespace JsonSchema

open Compile Meaning

/-! ## Entries in another order -/

/-- The same failure, up to the order of members in the values that it shows. -/
inductive Failure.Reordered : Failure → Failure → Prop
  | refl (f : Failure) : Reordered f f
  | enum {options options'} (h : (Value.array options).Reordered (.array options')) :
      Reordered (.enum options) (.enum options')
  | const {v v'} (h : v.Reordered v') : Reordered (.const v) (.const v')

/-- The same entry, up to the order of members in the values that it shows. -/
structure Entry.Reordered (e e' : Entry) : Prop where
  keywordLocation : e.keywordLocation = e'.keywordLocation
  location : e.location = e'.location
  instanceLocation : e.instanceLocation = e'.instanceLocation
  value : e.finding.value.Reordered e'.finding.value
  failure : e.finding.failure.Reordered e'.finding.failure

/-- The same entries, each up to the order of members and all of them in any order. -/
def SameEntries (entries entries' : List Entry) : Prop :=
  Multiset.Rel Entry.Reordered (entries : Multiset Entry) (entries' : Multiset Entry)

/-- The same check with the same outcome, up to the order of members. -/
structure LeafCheck.Reordered (check check' : LeafCheck) : Prop where
  keywordLocation : check.keywordLocation = check'.keywordLocation
  location : check.location = check'.location
  instanceLocation : check.instanceLocation = check'.instanceLocation
  value : check.value.Reordered check'.value
  failure : Option.Rel Failure.Reordered check.failure check'.failure
  below : SameEntries check.below check'.below

/-- The same checks in any order. -/
def SameChecks (checks checks' : List LeafCheck) : Prop :=
  Multiset.Rel LeafCheck.Reordered (checks : Multiset LeafCheck) (checks' : Multiset LeafCheck)

section Lists

variable {α β γ δ : Type} {R : α → β → Prop} {P : γ → δ → Prop}

theorem rel_of_forall₂ {l : List α} {l' : List β} (h : List.Forall₂ R l l') :
    Multiset.Rel R (l : Multiset α) (l' : Multiset β) := by
  induction h with
  | nil => exact .zero
  | cons hab _ ih => exact ih.cons hab

theorem rel_flatMap {l : List α} {l' : List β} {f : α → List γ} {g : β → List δ}
    (h : Multiset.Rel R (l : Multiset α) (l' : Multiset β))
    (hparts : ∀ a ∈ l, ∀ b ∈ l', R a b →
      Multiset.Rel P (f a : Multiset γ) (g b : Multiset δ)) :
    Multiset.Rel P (l.flatMap f : Multiset γ) (l'.flatMap g : Multiset δ) := by
  rw [← Multiset.coe_bind, ← Multiset.coe_bind]
  exact Multiset.rel_bind (fun _ _ h => h) (h.mono hparts)

theorem rel_toList_flatMap {a : Option α} {b : Option β} {f : α → List γ} {g : β → List δ}
    (h : Option.Rel R a b)
    (hparts : ∀ x y, a = some x → b = some y → R x y →
      Multiset.Rel P (f x : Multiset γ) (g y : Multiset δ)) :
    Multiset.Rel P (a.toList.flatMap f : Multiset γ) (b.toList.flatMap g : Multiset δ) := by
  cases h with
  | none => exact .zero
  | some hxy => simpa using hparts _ _ rfl rfl hxy

/-- Members under the same keys. -/
theorem rel_of_keys {members : List (String × α)} {members' : List (String × β)}
    (h : (members.map Prod.fst).Perm (members'.map Prod.fst)) :
    Multiset.Rel (fun m m' => m.1 = m'.1) (members : Multiset (String × α))
      (members' : Multiset (String × β)) := by
  rw [← Multiset.rel_map, Multiset.rel_eq, Multiset.map_coe, Multiset.map_coe, Multiset.coe_eq_coe]
  exact h

theorem forall₂_zipIdx {l : List α} {l' : List β} (hlength : l.length = l'.length) :
    List.Forall₂ (fun p p' => p.2 = p'.2 ∧ l[p.2]? = some p.1 ∧ l'[p'.2]? = some p'.1) l.zipIdx
      l'.zipIdx := by
  refine forall₂_of_getElem? (by simpa using hlength) fun i p p' hp hp' => ?_
  obtain ⟨a, ha, rfl⟩ : ∃ a, l[i]? = some a ∧ (a, i) = p := by simpa using hp
  obtain ⟨b, hb, rfl⟩ : ∃ b, l'[i]? = some b ∧ (b, i) = p' := by simpa using hp'
  exact ⟨rfl, ha, hb⟩

end Lists

theorem LeafCheck.Reordered.entries {check check' : LeafCheck} (h : check.Reordered check') :
    SameEntries check.entries check'.entries := by
  have hfailure := h.failure
  have hbelow := h.below
  unfold LeafCheck.entries LeafCheck.reported
  generalize check.failure = failure at hfailure ⊢
  generalize check'.failure = failure' at hfailure ⊢
  cases hfailure with
  | none => exact .zero
  | some hf =>
      have hentry := hbelow.cons (a := ⟨check.keywordLocation, check.location,
        check.instanceLocation, ⟨_, check.value⟩⟩) (b := ⟨check'.keywordLocation, check'.location,
        check'.instanceLocation, ⟨_, check'.value⟩⟩) ⟨h.keywordLocation, h.location,
          h.instanceLocation, h.value, hf⟩
      simpa [SameEntries] using hentry

/-- The same checks report the same entries. -/
theorem SameChecks.entries {checks checks' : List LeafCheck} (h : SameChecks checks checks') :
    SameEntries (checks.flatMap LeafCheck.entries) (checks'.flatMap LeafCheck.entries) :=
  rel_flatMap h fun _ _ _ _ hcheck => hcheck.entries

/-! ## Visits of values in another order -/

/-- The same visit, up to the order of members in the value. -/
structure Visit.Reordered (here here' : Visit) : Prop where
  context : here.context = here'.context
  way : here.way = here'.way
  value : here.value.Reordered here'.value
  path : here.path = here'.path

namespace Visit.Reordered

variable {here here' : Visit} (h : here.Reordered here')

include h

theorem key (name : String) : (here.key name).Reordered (here'.key name) :=
  ⟨by simp [h.context], by simp [Visit.key, h.way], h.value, h.path⟩

theorem index (i : Nat) : (here.index i).Reordered (here'.index i) :=
  ⟨by simp [h.context], by simp [Visit.index, h.way], h.value, h.path⟩

theorem child (token : String) {v v' : Value} (hv : v.Reordered v') :
    (here.child token v).Reordered (here'.child token v') :=
  ⟨h.context, h.way, hv, by simp [h.path]⟩

theorem leaf {failure failure' : Option Failure} {below below' : List Entry}
    (hfailure : Option.Rel Failure.Reordered failure failure')
    (hbelow : SameEntries below below') :
    (here.leaf failure below).Reordered (here'.leaf failure' below') :=
  ⟨h.way, congrArg Context.location h.context, h.path, h.value, hfailure, hbelow⟩

/-- One check that passes or fails in both cases. -/
theorem check {f f' : Failure} (hf : f.Reordered f') {below below' : List Entry}
    (hbelow : SameEntries below below') (holds : Bool) :
    SameChecks [here.leaf (if holds then none else some f) below]
      [here'.leaf (if holds then none else some f') below'] := by
  refine rel_of_forall₂ (.cons (h.leaf ?_ hbelow) .nil)
  cases holds with
  | true => exact .none
  | false => exact .some hf

end Visit.Reordered

/-! ## Keywords with schemas -/

section Keywords

variable {checks checks' : Visit → Value → List LeafCheck} {here here' : Visit}

/-- Two schemas make the same checks in a context, of values that differ in the order of members. -/
def ChecksAlike (checks checks' : Visit → Value → List LeafCheck) (c : Context) (v v' : Value) :
    Prop :=
  ∀ here here' : Visit, here.context = c → here.Reordered here' →
    SameChecks (checks here v) (checks' here' v')

theorem branchLeaves_reordered (h : here.Reordered here') {schemas schemas' : List Value}
    (hlength : schemas.length = schemas'.length)
    (hschemas : ∀ (i : Nat) v v', schemas[i]? = some v → schemas'[i]? = some v' →
      ChecksAlike checks checks' (here.context.index i) v v') :
    SameChecks (branchLeaves checks here schemas) (branchLeaves checks' here' schemas') := by
  refine rel_flatMap (rel_of_forall₂ (forall₂_zipIdx hlength)) ?_
  rintro ⟨v, i⟩ - ⟨v', j⟩ - ⟨rfl, hv, hv'⟩
  exact hschemas i v v' hv hv' _ _ rfl (h.index i)

theorem lastEntries_reordered (h : here.Reordered here') {schemas schemas' : List Value}
    (hlength : schemas.length = schemas'.length)
    (hschemas : ∀ (i : Nat) v v', schemas[i]? = some v → schemas'[i]? = some v' →
      ChecksAlike checks checks' (here.context.index i) v v') :
    SameEntries (lastEntries checks here schemas) (lastEntries checks' here' schemas') := by
  have hlast : Option.Rel (fun p p' => p.2 = p'.2 ∧ schemas[p.2]? = some p.1 ∧
      schemas'[p'.2]? = some p'.1) schemas.zipIdx.getLast? schemas'.zipIdx.getLast? := by
    have hzip := forall₂_zipIdx hlength
    rcases getLast?_cases hzip.length_eq with ⟨hnone, hnone'⟩ | ⟨p, hp, hsome, hsome'⟩
    · rw [hnone, hnone']
      exact .none
    · rw [hsome, hsome']
      exact .some ((List.forall₂_iff_zip.mp hzip).2 hp)
  refine SameChecks.entries (rel_toList_flatMap hlast ?_)
  rintro ⟨v, i⟩ ⟨v', j⟩ - - ⟨rfl, hv, hv'⟩
  exact hschemas i v v' hv hv' _ _ rfl (h.index i)

theorem propertyLeaves_reordered (h : here.Reordered here')
    {schemas schemas' : List (String × Value)}
    (hkeys : (schemas.map Prod.fst).Perm (schemas'.map Prod.fst))
    (hschemas : ∀ name v v', (name, v) ∈ schemas → (name, v') ∈ schemas' →
      ChecksAlike checks checks' (here.context.key name) v v') :
    SameChecks (propertyLeaves checks here schemas) (propertyLeaves checks' here' schemas') := by
  refine rel_flatMap (rel_of_keys hkeys) ?_
  rintro ⟨name, v⟩ hv ⟨_, v'⟩ hv' rfl
  refine rel_toList_flatMap (h.value.get? name) fun x x' _ _ hx => ?_
  exact hschemas name v v' hv hv' _ _ rfl ((h.key name).child name hx)

theorem itemLeaves_array_reordered (h : here.Reordered here') {schemas schemas' : List Value}
    (hlength : schemas.length = schemas'.length)
    (hschemas : ∀ (i : Nat) v v', schemas[i]? = some v → schemas'[i]? = some v' →
      ChecksAlike checks checks' (here.context.index i) v v') :
    SameChecks (itemLeaves checks here (.array schemas))
      (itemLeaves checks' here' (.array schemas')) := by
  have hvalue := h.value
  unfold itemLeaves
  generalize here.value = x at hvalue ⊢
  generalize here'.value = x' at hvalue ⊢
  cases hvalue with
  | @array items items' hitems hx =>
      have hpairs : (schemas.zip items).length = (schemas'.zip items').length := by
        rw [List.length_zip, List.length_zip, hlength, hitems]
      refine rel_flatMap (rel_of_forall₂ (forall₂_zipIdx hpairs)) ?_
      rintro ⟨⟨v, y⟩, i⟩ - ⟨⟨v', y'⟩, j⟩ - ⟨rfl, hp, hp'⟩
      obtain ⟨hv, hy⟩ := List.getElem?_zip_eq_some.mp hp
      obtain ⟨hv', hy'⟩ := List.getElem?_zip_eq_some.mp hp'
      exact hschemas i v v' hv hv' _ _ rfl ((h.index i).child (toString i) (hx i y y' hy hy'))
  | _ => exact .zero

theorem itemLeaves_reordered (h : here.Reordered here') {k k' : Value}
    (hk : ∀ schemas, k ≠ .array schemas) (hk' : ∀ schemas, k' ≠ .array schemas)
    (hschema : ChecksAlike checks checks' here.context k k') :
    SameChecks (itemLeaves checks here k) (itemLeaves checks' here' k') := by
  have huniform {f : Visit → Value → List LeafCheck} {there : Visit} {k : Value}
      (hk : ∀ schemas, k ≠ .array schemas) {items : List Value} (hx : there.value = .array items) :
      itemLeaves f there k =
        items.zipIdx.flatMap fun p => f (there.child (toString p.2) p.1) k := by
    unfold itemLeaves
    rw [hx]
    cases k with
    | array schemas => exact absurd rfl (hk schemas)
    | _ => rfl
  have hother {f : Visit → Value → List LeafCheck} {there : Visit} {k : Value}
      (hx : ∀ items, there.value ≠ .array items) : itemLeaves f there k = [] := by
    unfold itemLeaves
    split
    · rename_i hitems
      exact absurd hitems (hx _)
    · rename_i hitems
      exact absurd hitems (hx _)
    · rfl
  have hvalue := h.value
  generalize hx : here.value = x at hvalue
  generalize hx' : here'.value = x' at hvalue
  cases hvalue with
  | @array items items' hlength hitems =>
      rw [huniform hk hx, huniform hk' hx']
      refine rel_flatMap (rel_of_forall₂ (forall₂_zipIdx hlength)) ?_
      rintro ⟨y, i⟩ - ⟨y', j⟩ - ⟨rfl, hy, hy'⟩
      exact hschema _ _ rfl (h.child (toString i) (hitems i y y' hy hy'))
  | _ =>
      rw [hother (hx ▸ nofun), hother (hx' ▸ nofun)]
      exact .zero

end Keywords

/-! ## Keywords without schemas -/

section Checks

variable {k k' x x' : Value} {keyword : Keyword} {c : Check}

theorem TypeName.of_reordered (h : x.Reordered x') : of x = of x' := by
  cases h <;> rfl

/-- Why a value fails a check of the default settings does not depend on the order of members. -/
theorem failure_reordered_of_readCheck (h : readCheck {} keyword k = .ok (some c))
    (hx : x.Reordered x') : c.failure x = c.failure x' := by
  cases c with
  | type expected => rw [Check.failure, Check.failure, TypeName.of_reordered hx]
  | format f =>
      have hf : ∃ name, (surroundings {} {}).format? name = some f := by
        cases keyword with
        | format =>
            obtain ⟨name, -, hname⟩ := map_eq_ok.mp h
            exact ⟨name, by simpa [surroundings] using hname⟩
        | const => cases h
        | _ =>
            first
              | cases h
              | obtain ⟨_, -, hother⟩ := map_eq_ok.mp h
                cases hother
      obtain ⟨name, hname⟩ := hf
      rw [Check.failure, Check.failure, ignoresOrder_of_format? {} name f hname x x' hx]
  | _ => rfl

/-- A keyword in another order makes the same check. -/
theorem readCheck_reordered (hk : k.Reordered k') (hwf : k.WellFormed) (htakes : keyword.Takes k)
    (hcheck : keyword.isCheck = true) :
    ∃ check check', readCheck {} keyword k = .ok check ∧ readCheck {} keyword k' = .ok check' ∧
      Option.Rel (fun c c' => ∀ x x' : Value, x.Reordered x' →
        (c.failure x).Reordered (c'.failure x')) check check' := by
  have hsame (heq : k = k') : ∃ check check', readCheck {} keyword k = .ok check ∧
      readCheck {} keyword k' = .ok check' ∧ Option.Rel (fun c c' => ∀ x x' : Value,
        x.Reordered x' → (c.failure x).Reordered (c'.failure x')) check check' := by
    obtain ⟨check, hread⟩ : ∃ check, readCheck {} keyword k = .ok check :=
      (exists_readCheck_iff hcheck).mpr htakes
    refine ⟨check, check, hread, heq ▸ hread, ?_⟩
    cases check with
    | none => exact .none
    | some c =>
        refine .some fun x x' hx => ?_
        rw [failure_reordered_of_readCheck hread hx]
        exact .refl _
  have hsays := Keyword.SaysSame.of_reordered hk hwf htakes
  cases keyword with
  | enum =>
      obtain ⟨options, rfl⟩ := htakes
      cases hk with
      | array hlength hitems =>
          exact ⟨_, _, rfl, rfl, .some fun _ _ _ => .enum (.array hlength hitems)⟩
  | const => exact ⟨_, _, rfl, rfl, .some fun _ _ _ => .const hk⟩
  | type | format | bound _ | multipleOf | length _ | itemCount _ => exact hsame hsays
  | _ => cases hcheck

theorem lacks_reordered (hx : x.Reordered x') (name : String) : x.lacks name = x'.lacks name := by
  cases hx with
  | object hkeys hmembers =>
      have hpresent := (Value.Reordered.object hkeys hmembers).isSome_lookup name
      simpa [Value.lacks] using congrArg (!·) hpresent
  | _ => rfl

end Checks

/-! ## Schemas -/

namespace Compile.Counterparts

variable {r r' : Registry} {d d' : Document} {c inner : Context} {v v' x x' : Value}
variable {members members' : List (String × Value)} {fuel : Nat}
variable (H : Counterparts r r' d d') (hdocument : d.contents.Reordered d'.contents)

include H

theorem judge_reordered (fuel : Nat) (h : Counterpart r d d' c v v') (hx : x.Reordered x') :
    judge (surroundings {} r) fuel c.base v x = judge (surroundings {} r') fuel c.base v' x' :=
  (H.judge_eq fuel c v v' h x).trans
    (JsonSchema.judge_reordered (ignoresOrder_of_format? r') fuel c.base v' x x' hx)

include hdocument

theorem reordered (h : Counterpart r d d' c v v') : v.Reordered v' := by
  obtain ⟨w, hw, hreordered⟩ := hdocument.exists_follow? (h.visited.at?_eq H.single).2
  obtain rfl := Option.some.inj (hw.symm.trans h.position)
  exact hreordered

/-- A keyword of the one makes the same checks as that of the other, if the schemas in it do. -/
theorem keywordLeaves_reordered {checks checks' : Visit → Value → List LeafCheck}
    (ih : ∀ c v v', Counterpart r d d' c v v' → ChecksAlike checks checks' c v v')
    (h : Counterpart r d d' c (.object members) (.object members'))
    (hinside : c.inside members = .ok inner) {name : String} {k k' : Value}
    (hmem : (name, k) ∈ members) (hmem' : (name, k') ∈ members') {here here' : Visit}
    (hhere : here.Reordered here') (hcontext : here.context = inner) :
    SameChecks
      (keywordLeaves checks {} (surroundings {} r) (judge (surroundings {} r) fuel) here members
        name k)
      (keywordLeaves checks' {} (surroundings {} r') (judge (surroundings {} r') fuel) here'
        members' name k') := by
  obtain rfl := hcontext
  have hfit : Fit {} r c members := H.admissible c _ h.visited
  have hobject := H.reordered hdocument h
  have hwf := H.wellFormed h
  have hsame := SameKeywords.of_reordered hobject hwf hfit
  have hk : k.Reordered k' := by
    have hrel := hobject.lookup name
    rw [hwf.lookup hmem, (H.wellFormed' h).lookup hmem'] at hrel
    cases hrel with
    | some hk => exact hk
  have hkey := hhere.key name
  cases hname : Keyword.ofName? name with
  | none =>
      simp only [keywordLeaves, hname]
      exact .zero
  | some keyword =>
      have htakes := hfit.takes name k keyword hmem hname
      have hsays : keyword.SaysSame k k' := .of_reordered hk (hwf.of_mem hmem) htakes
      have hjudge : judgeKeyword (surroundings {} r) (judge (surroundings {} r) fuel)
          here.context.base members name k here.value =
            judgeKeyword (surroundings {} r') (judge (surroundings {} r') fuel) here'.context.base
              members' name k' here'.value := by
        rw [← hhere.context]
        exact (H.judgeKeyword_eq (H.judge_eq fuel) h hsame hinside hmem hmem' hname hsays).trans
          (judgeKeyword_reordered (ignoresOrder_of_format? r')
            (JsonSchema.judge_reordered (ignoresOrder_of_format? r') fuel) hhere.value _ _ _ _)
      have hchild {path : List String} {schema schema' : Value}
          (hschema : keyword.HoldsAt k path schema) (hschema' : keyword.HoldsAt k' path schema') :=
        H.child h hinside hmem hmem' hname hschema hschema'
      cases keyword with
      | informative | branch _ =>
          simp only [keywordLeaves, hname]
          exact .zero
      | ref =>
          obtain rfl : name = "$ref" := Keyword.name_eq hname (by decide)
          obtain ⟨text, rfl⟩ := htakes
          obtain rfl := hk.eq_string
          obtain ⟨t, w, hfollows, hfollows', htarget⟩ := H.exists_follows h hinside hmem
          have htarget? : (surroundings {} r).target? here.context.base text = some t :=
            congrArg Except.toOption hfollows
          have htarget?' : (surroundings {} r').target? here'.context.base text =
              some { t with contents := w } := by
            rw [← hhere.context]
            exact congrArg Except.toOption hfollows'
          simp only [keywordLeaves, hname, Value.string?, Option.bind_some, htarget?, htarget?',
            Option.toList_some, List.flatMap_singleton]
          exact ih _ _ _ htarget _ _ rfl ⟨rfl, hkey.way, hkey.value, hkey.path⟩
      | required =>
          obtain rfl : k = k' := hsays
          simp only [keywordLeaves, hname]
          refine rel_of_forall₂ ?_
          rw [List.forall₂_map_left_iff, List.forall₂_map_right_iff, List.forall₂_same]
          intro property _
          refine hkey.leaf ?_ .zero
          rw [lacks_reordered hhere.value]
          split
          · exact .some (.refl _)
          · exact .none
      | properties =>
          obtain ⟨schemas, rfl⟩ := htakes
          cases hk with
          | object hkeys =>
              simp only [keywordLeaves, hname]
              exact propertyLeaves_reordered hkey hkeys fun _ _ _ hv hv' =>
                ih _ _ _ (hchild (.property hv) (.property hv'))
      | items =>
          simp only [keywordLeaves, hname]
          rcases hsays with ⟨schemas, schemas', rfl, rfl, hlength⟩ | ⟨hne, hne'⟩
          · exact itemLeaves_array_reordered hkey hlength fun _ _ _ hv hv' =>
              ih _ _ _ (hchild (.item hv) (.item hv'))
          · refine itemLeaves_reordered hkey hne hne' ?_
            simpa using ih _ _ _ (hchild (.items hne) (.items hne'))
      | allOf =>
          obtain ⟨schemas, schemas', rfl, rfl, hlength⟩ := hsays
          simp only [keywordLeaves, hname]
          exact branchLeaves_reordered hkey hlength fun _ _ _ hv hv' =>
            ih _ _ _ (hchild (.allOf hv) (.allOf hv'))
      | anyOf =>
          obtain ⟨schemas, schemas', rfl, rfl, hlength⟩ := hsays
          simp only [keywordLeaves, hname, hjudge]
          exact hkey.check (.refl _) (lastEntries_reordered hkey hlength fun _ _ _ hv hv' =>
            ih _ _ _ (hchild (.anyOf hv) (.anyOf hv'))) _
      | oneOf =>
          obtain ⟨schemas, schemas', rfl, rfl, hlength⟩ := hsays
          have hconforming : conforming (judge (surroundings {} r) fuel here.context.base ·
              here.value) schemas = conforming (judge (surroundings {} r') fuel
                here'.context.base · here'.value) schemas' := by
            refine indexes_congr_of_zip
              (f := fun v => judge (surroundings {} r) fuel here.context.base v here.value ==
                some true)
              (g := fun v' => judge (surroundings {} r') fuel here'.context.base v' here'.value ==
                some true) hlength fun p hp => ?_
            obtain ⟨i, hv, hv'⟩ := mem_zip_iff_getElem?.mp hp
            have hbranch := H.judge_reordered fuel (hchild (.oneOf hv) (.oneOf hv')) hhere.value
            rw [← hhere.context]
            exact congrArg (· == some true) hbranch
          simp only [keywordLeaves, hname, hjudge, hconforming]
          split
          · exact hkey.check (.refl _) (lastEntries_reordered hkey hlength fun _ _ _ hv hv' =>
              ih _ _ _ (hchild (.oneOf hv) (.oneOf hv'))) _
          · exact hkey.check (.refl _) .zero _
      | not =>
          simp only [keywordLeaves, hname, hjudge]
          exact hkey.check (.refl _) .zero _
      | condition =>
          have hcondition : judge (surroundings {} r) fuel here.context.base k here.value =
              judge (surroundings {} r') fuel here'.context.base k' here'.value := by
            have hschema := H.judge_reordered fuel (hchild .condition .condition) hhere.value
            rw [← hhere.context]
            exact hschema
          have hbranch (branch : String) (met : Bool)
              (hname : Keyword.ofName? branch = some (.branch met)) :
              SameChecks ((members.lookup branch).toList.flatMap (checks (here.key branch)))
                ((members'.lookup branch).toList.flatMap (checks' (here'.key branch))) := by
            refine rel_toList_flatMap (hobject.lookup branch) fun v v' hv hv' _ => ?_
            have hmatched := H.child h hinside (mem_of_lookup hv) (mem_of_lookup hv') hname .branch
              .branch
            exact ih _ _ _ hmatched _ _ (Context.along_nil _).symm (hhere.key branch)
          simp only [keywordLeaves, hname, hcondition]
          split
          · exact hbranch "then" true rfl
          · exact hbranch "else" false rfl
      | pattern =>
          obtain ⟨source, -, rfl, -⟩ := htakes
          obtain rfl := hk.eq_string
          simp only [keywordLeaves, hname, hjudge]
          exact hkey.check (.refl _) .zero _
      | type | enum | const | format | bound _ | multipleOf | length _ | itemCount _ =>
          obtain ⟨check, check', hread, hread', hchecks⟩ :=
            readCheck_reordered hk (hwf.of_mem hmem) htakes rfl
          rw [keywordLeaves_of_check checks hname rfl hread,
            keywordLeaves_of_check checks' hname rfl hread', hjudge]
          cases hchecks with
          | none => exact .zero
          | some hfailure => exact hkey.check (hfailure _ _ hhere.value) .zero _

/-- A schema makes the same checks as its counterpart, of values in any order. -/
theorem leaves_reordered (fuel : Nat) : ∀ c v v', Counterpart r d d' c v v' →
    ChecksAlike (leaves {} (surroundings {} r) fuel) (leaves {} (surroundings {} r') fuel) c v
      v' := by
  induction fuel with
  | zero => exact fun _ _ _ _ _ _ _ _ => .zero
  | succ fuel ih =>
      intro c v v' h here here' hcontext hhere
      obtain rfl := hcontext
      have hadmissible := H.admissible here.context v h.visited
      have hreordered := H.reordered hdocument h
      cases hreordered with
      | bool b =>
          rw [leaves, leaves]
          exact hhere.check (.refl _) .zero b
      | @object members members' hkeys hmembers =>
          have hfit : Fit {} r here.context members := hadmissible
          have hsame := SameKeywords.of_reordered (.object hkeys hmembers) (H.wellFormed h) hfit
          obtain ⟨inner, hinside⟩ := exists_inside_iff.mpr hfit.id
          have hinside' : here'.context.inside members' = .ok inner := by
            rw [← hhere.context]
            exact (hsame.inside_eq _).trans hinside
          simp only [leaves, hinside, hinside']
          refine rel_flatMap (rel_of_keys hkeys) ?_
          rintro ⟨name, k⟩ hmem ⟨_, k'⟩ hmem' rfl
          exact H.keywordLeaves_reordered hdocument ih h hinside hmem hmem'
            ⟨rfl, hhere.way, hhere.value, hhere.path⟩ rfl
      | _ => cases hadmissible

end Compile.Counterparts

/-! ## Reports -/

/-- In a registry of one document, references to the root of this lead to it anyway. -/
theorem Registry.Single.withTarget_eq {r : Registry} {d : Document} (h : r.Single d) :
    (surroundings {} r).withTarget ⟨d.uri, .root, d.base, d.contents⟩ = surroundings {} r := by
  have htarget (base : Url) (reference : String) :
      ((surroundings {} r).target? base reference).map (fun t =>
        if t.place = ⟨d.uri, .root⟩ then ⟨d.uri, .root, d.base, d.contents⟩ else t) =
          (surroundings {} r).target? base reference := by
    cases ht : (surroundings {} r).target? base reference with
    | none => rfl
    | some t =>
        rw [Option.map_some]
        split
        · rename_i hplace
          have hfollows : r.Follows {} base reference t := by
            simp only [surroundings] at ht
            unfold Registry.Follows
            cases hresolve : (r.resolve {} base reference).1 with
            | error e =>
                rw [hresolve] at ht
                cases ht
            | ok t' =>
                rw [hresolve] at ht
                exact congrArg Except.ok (Option.some.inj ht)
          obtain ⟨-, -, -, -, -, -, hat, hbase⟩ := h.follows_iff.mp hfollows
          obtain ⟨document, pointer, tbase, contents⟩ := t
          cases hplace
          obtain rfl : d.contents = contents := Option.some.inj hat
          obtain rfl : d.base = tbase := Except.ok.inj hbase
          rfl
        · rfl
  exact congrArg (Surroundings.mk _) (funext fun base => funext (htarget base))

namespace Options

variable {schema schema' : Value} {v v' : Validator} {r : Registry}

/-- The report of a validator whose schema is the only document. -/
theorem entries_of_build {uri : Url} (hschema : schema.WellFormed)
    (huri : documentUri Url.ownBase schema = .ok uri)
    (hsingle : r.Single ⟨uri, Url.ownBase, schema⟩) (hbuild : build {} schema = (.ok v, r))
    {x : Value} (hx : v.isValid x = false) {fuel : Nat} (hfuel : v.root.steps v.slots x ≤ fuel) :
    (v.report x).entries = (leaves {} (surroundings {} r) fuel (.root uri Url.ownBase x)
      schema).flatMap LeafCheck.entries := by
  have hlists := lists_of_buildIn (o := {}) .empty hbuild hx hfuel
  have hsurroundings := hsingle.withTarget_eq
  obtain ⟨hdocument, -⟩ :=
    exists_places_of_build (o := {}) rfl hschema Retriever.wellFormed_empty huri hbuild
  rw [hdocument] at hlists
  exact hsurroundings ▸ hlists.entries

/-- What validators of the two report. -/
theorem entries_of_counterparts {x x' : Value} {uri : Url} {r' : Registry}
    (hschema : schema.WellFormed) (hreordered : schema.Reordered schema') (hx : x.Reordered x')
    (huri : documentUri Url.ownBase schema = .ok uri)
    (huri' : documentUri Url.ownBase schema' = .ok uri) (hbuild : build {} schema = (.ok v, r))
    (hbuild' : build {} schema' = (.ok v', r'))
    (H : Counterparts r r' ⟨uri, Url.ownBase, schema⟩ ⟨uri, Url.ownBase, schema'⟩)
    (hsame : v.isValid x = v'.isValid x') :
    SameEntries (v.report x).entries (v'.report x').entries := by
  cases hvalid : v.isValid x with
  | true =>
      have hentries {v : Validator} {x : Value} (hx : v.isValid x = true) :
          (v.report x).entries = [] := by
        simp [Validator.report, Validator.validate, hx, Report.entries]
      rw [hentries hvalid, hentries (hsame.symm.trans hvalid)]
      exact .zero
  | false =>
      have hroot : Counterpart r ⟨uri, Url.ownBase, schema⟩ ⟨uri, Url.ownBase, schema'⟩
          ⟨⟨uri, .root⟩, Url.ownBase⟩ schema schema' := ⟨.root, rfl⟩
      -- Both reports list checks, once references may be followed often enough for both.
      rw [entries_of_build hschema huri H.single hbuild hvalid
          (le_max_left _ (v'.root.steps v'.slots x')),
        entries_of_build (hreordered.wellFormed hschema) huri' H.single' hbuild'
          (hsame.symm.trans hvalid) (le_max_right (v.root.steps v.slots x) _)]
      exact (H.leaves_reordered hreordered _ _ _ _ hroot (.root uri Url.ownBase x)
        (.root uri Url.ownBase x') rfl ⟨rfl, rfl, hx, rfl⟩).entries

/-- The order of members makes no difference to whether a schema builds, to what it answers and to
what it reports, neither that in the schema nor that in the value, unless two positions of the
schema declare the same. Only the order of slots and of entries depends on it, and that of members
in the values that entries show. -/
theorem answers_of_reordered {x x' : Value} (hschema : schema.WellFormed)
    (hunambiguous : ∀ uri, documentUri Url.ownBase schema = .ok uri →
      Document.Unambiguous ⟨uri, Url.ownBase, schema⟩)
    (hreordered : schema.Reordered schema') (hx : x.Reordered x') :
    ((∃ v, (build {} schema).1 = .ok v) ↔ ∃ v', (build {} schema').1 = .ok v') ∧
      ∀ v v', (build {} schema).1 = .ok v → (build {} schema').1 = .ok v' →
        v.isValid x = v'.isValid x' ∧
          SameEntries (v.report x).entries (v'.report x').entries ∧
          v.document = v'.document ∧ v.slots.length = v'.slots.length := by
  obtain ⟨hbuilds, hverdicts⟩ := verdicts_of_reordered hschema hunambiguous hreordered hx
  refine ⟨hbuilds, fun v v' hv hv' => ?_⟩
  have hbuild : build {} schema = (.ok v, (build {} schema).2) := by rw [← hv]
  have hbuild' : build {} schema' = (.ok v', (build {} schema').2) := by rw [← hv']
  obtain ⟨uri, huri, huri', -, -, H⟩ :=
    exists_counterparts_of_reordered hschema hreordered hunambiguous hbuild
  have hsame := hverdicts v v' hv hv'
  exact ⟨hsame, entries_of_counterparts hschema hreordered hx huri huri' hbuild hbuild' H hsame,
    shape_of_counterparts hschema (hreordered.wellFormed hschema) huri huri' hbuild hbuild' H⟩

/-- Orders name their buyer by an anchor and their price by a URL. -/
def orders : Value := .object [
  ("properties", .object [("buyer", .object [("$ref", .string "#person")]),
    ("total", .object [("$ref", .string "price")]),
    ("paid", .object [("const", .object [("by", .string "card"), ("kind", .string "debit")])])]),
  ("$defs", .object [
    ("person", .object [("$anchor", .string "person"), ("required", .array [.string "name"])]),
    ("price", .object [("$id", .string "price"), ("type", .string "number")])])]

/-- The same schema, its members in another order on all levels. -/
def shuffledOrders : Value := .object [
  ("$defs", .object [
    ("price", .object [("type", .string "number"), ("$id", .string "price")]),
    ("person", .object [("required", .array [.string "name"]), ("$anchor", .string "person")])]),
  ("properties", .object [
    ("paid", .object [("const", .object [("kind", .string "debit"), ("by", .string "card")])]),
    ("total", .object [("$ref", .string "price")]),
    ("buyer", .object [("$ref", .string "#person")])])]

/-- An order by nobody and for no number, and the same one with its members in another order. -/
def order : Value := .object [("buyer", .object [("age", .null), ("city", .null)]),
  ("total", .null), ("paid", .object [("by", .string "card"), ("kind", .string "debit")])]

def shuffledOrder : Value := .object [
  ("paid", .object [("kind", .string "debit"), ("by", .string "card")]), ("total", .null),
  ("buyer", .object [("city", .null), ("age", .null)])]

theorem unambiguous_orders (uri : Url) (huri : documentUri Url.ownBase orders = .ok uri) :
    Document.Unambiguous ⟨uri, Url.ownBase, orders⟩ := by
  obtain rfl : Url.ownBase = uri := Except.ok.inj huri
  have hsingle := single_build (by decide) huri
    (Declarations.not_unresolvable_of_toBool (by decide +kernel))
  exact hsingle.wellRead.unambiguous (by decide +kernel) (by decide +kernel)

theorem answers_orders : orders.WellFormed ∧
    (∀ uri, documentUri Url.ownBase orders = .ok uri →
      Document.Unambiguous ⟨uri, Url.ownBase, orders⟩) ∧
    orders.Reordered shuffledOrders ∧ order.Reordered shuffledOrder ∧
    ∃ v v', (build {} orders).1 = .ok v ∧ (build {} shuffledOrders).1 = .ok v' ∧
      v.isValid order = v'.isValid shuffledOrder ∧
      SameEntries (v.report order).entries (v'.report shuffledOrder).entries ∧
      v.document = v'.document ∧ v.slots.length = v'.slots.length ∧
      (v.report order).entries.map (·.location.pointer.tokens) =
        [["$defs", "person", "required"], ["$defs", "price", "type"]] ∧
      (v'.report shuffledOrder).entries.map (·.location.pointer.tokens) =
        [["$defs", "price", "type"], ["$defs", "person", "required"]] := by
  have hschema : orders.WellFormed := by decide
  have hreordered : orders.Reordered shuffledOrders :=
    (Value.reordered_iff hschema).mpr (by decide +kernel)
  have hx : order.Reordered shuffledOrder :=
    (Value.reordered_iff (by decide)).mpr (by decide +kernel)
  obtain ⟨hbuilds, hsame⟩ := answers_of_reordered hschema unambiguous_orders hreordered hx
  obtain ⟨v, hv, hentries⟩ := map_eq_ok.mp (show (build {} orders).1.map (fun v =>
    (v.report order).entries.map (·.location.pointer.tokens)) =
      .ok [["$defs", "person", "required"], ["$defs", "price", "type"]] by decide +kernel)
  obtain ⟨v', hv', hentries'⟩ := map_eq_ok.mp (show (build {} shuffledOrders).1.map (fun v =>
    (v.report shuffledOrder).entries.map (·.location.pointer.tokens)) =
      .ok [["$defs", "price", "type"], ["$defs", "person", "required"]] by decide +kernel)
  obtain ⟨hverdict, hreport, hdocument, hslots⟩ := hsame v v' hv hv'
  exact ⟨hschema, unambiguous_orders, hreordered, hx, v, v', hv, hv', hverdict, hreport, hdocument,
    hslots, hentries, hentries'⟩

/-- Payments by debit card, and the same with the members of the value in another order. -/
def debit : Value :=
  .object [("const", .object [("by", .string "card"), ("kind", .string "debit")])]

def shuffledDebit : Value :=
  .object [("const", .object [("kind", .string "debit"), ("by", .string "card")])]

/-- A message shows the value that was expected, with its members in their order. -/
theorem messages_debit : debit.WellFormed ∧ debit.Reordered shuffledDebit ∧
    (∀ uri, documentUri Url.ownBase debit = .ok uri →
      Document.Unambiguous ⟨uri, Url.ownBase, debit⟩) ∧
    ∃ v v', (build {} debit).1 = .ok v ∧ (build {} shuffledDebit).1 = .ok v' ∧
      ¬((v.report .null).entries.map (·.message Failure.message)).Perm
        ((v'.report .null).entries.map (·.message Failure.message)) := by
  have hschema : debit.WellFormed := by decide
  have hunambiguous (uri : Url) (huri : documentUri Url.ownBase debit = .ok uri) :
      Document.Unambiguous ⟨uri, Url.ownBase, debit⟩ := by
    obtain rfl : Url.ownBase = uri := Except.ok.inj huri
    have hsingle := single_build hschema huri
      (Declarations.not_unresolvable_of_toBool (by decide +kernel))
    exact hsingle.wellRead.unambiguous (by decide +kernel) (by decide +kernel)
  have hmessage (schema expected : Value)
      (h : (build {} schema).1.map (fun v =>
        (v.report .null).entries.map (·.message Failure.message)) =
          .ok [(Failure.const expected).message .null]) :
      ∃ v, (build {} schema).1 = .ok v ∧ (v.report .null).entries.map (·.message Failure.message) =
        [(Failure.const expected).message .null] := map_eq_ok.mp h
  obtain ⟨v, hv, hmessages⟩ := hmessage debit
    (.object [("by", .string "card"), ("kind", .string "debit")]) (by decide +kernel)
  obtain ⟨v', hv', hmessages'⟩ := hmessage shuffledDebit
    (.object [("kind", .string "debit"), ("by", .string "card")]) (by decide +kernel)
  refine ⟨hschema, (Value.reordered_iff hschema).mpr (by decide +kernel), hunambiguous, v, v', hv,
    hv', ?_⟩
  rw [hmessages, hmessages', List.singleton_perm_singleton]
  decide +kernel

end Options
end JsonSchema
