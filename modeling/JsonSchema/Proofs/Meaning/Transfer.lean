import JsonSchema.Proofs.Compilation.Counterparts

/-!
# Builds that answer alike

Where two schemas say the same wherever the one is visited, the judgements on a value are the same
for each schema of the one and its counterpart. So if the one builds, then the other one builds, and
the validators answer alike.
-/

namespace JsonSchema

open Compile Meaning

namespace Compile.Counterparts

variable {r r' : Registry} {d d' : Document} {c inner : Context} {v v' y : Value}
variable {members members' : List (String × Value)} {fuel : Nat} (H : Counterparts r r' d d')

include H

/-- A keyword of the one is judged as that of the other, if the schemas it asks are. -/
theorem judgeKeyword_eq
    (ih : ∀ c v v', Counterpart r d d' c v v' → ∀ y,
      judge (surroundings {} r) fuel c.base v y = judge (surroundings {} r') fuel c.base v' y)
    (h : Counterpart r d d' c (.object members) (.object members'))
    (hsame : SameKeywords members members') (hinside : c.inside members = .ok inner)
    {name : String} {k : Keyword} {x x' : Value} (hmem : (name, x) ∈ members)
    (hmem' : (name, x') ∈ members') (hname : Keyword.ofName? name = some k)
    (hx : k.SaysSame x x') :
    judgeKeyword (surroundings {} r) (judge (surroundings {} r) fuel) inner.base members name x y =
      judgeKeyword (surroundings {} r') (judge (surroundings {} r') fuel) inner.base members' name
        x' y := by
  have hfit : Fit {} r c members := H.admissible c _ h.visited
  refine judgeKeyword_congr rfl hname hx ?_ ?_ ?_
  · intro path schema schema' hschema hschema'
    exact ih ((inner.key name).along path) schema schema'
      (H.child h hinside hmem hmem' hname hschema hschema')
  · rintro rfl
    obtain rfl : name = "$ref" := Keyword.name_eq hname (by decide)
    obtain rfl : x = x' := hx
    obtain ⟨text, rfl⟩ := hfit.takes "$ref" x .ref hmem hname
    obtain ⟨t, w, hfollows, hfollows', htarget⟩ := H.exists_follows h hinside hmem
    have htarget? : (surroundings {} r).target? inner.base text = some t :=
      congrArg Except.toOption hfollows
    have htarget?' : (surroundings {} r').target? inner.base text =
        some { t with contents := w } := congrArg Except.toOption hfollows'
    rw [Value.string?, Option.bind_some, Option.bind_some, htarget?, htarget?']
    exact ih _ _ _ htarget y
  · rintro - branch hbranch
    have hlookup (met : Bool) (hname : Keyword.ofName? branch = some (.branch met)) :
        Option.Rel (fun v v' => judge (surroundings {} r) fuel inner.base v y =
          judge (surroundings {} r') fuel inner.base v' y) (members.lookup branch)
            (members'.lookup branch) := by
      have hrel := hsame.keyword branch _ hname (by simp)
      generalize hmember : members.lookup branch = found at hrel ⊢
      generalize hmember' : members'.lookup branch = found' at hrel ⊢
      cases hrel with
      | none => exact .none
      | some _ =>
          have hchild := H.child h hinside (mem_of_lookup hmember) (mem_of_lookup hmember') hname
            .branch .branch
          exact .some (ih ((inner.key branch).along []) _ _ hchild y)
    rcases hbranch with rfl | rfl
    · exact hlookup true rfl
    · exact hlookup false rfl

/-- A schema is judged as its counterpart, however often references may be followed. -/
theorem judge_eq (fuel : Nat) : ∀ c v v', Counterpart r d d' c v v' → ∀ y,
    judge (surroundings {} r) fuel c.base v y = judge (surroundings {} r') fuel c.base v' y := by
  induction fuel with
  | zero => exact fun _ _ _ _ _ => rfl
  | succ fuel ih =>
      intro c v v' h y
      have hsays := H.saysSame h
      have hadmissible := H.admissible c v h.visited
      cases v with
      | bool b =>
          obtain rfl : v' = .bool b := hsays
          rfl
      | object members =>
          obtain ⟨members', rfl, hsame⟩ := hsays
          have hfit : Fit {} r c members := hadmissible
          obtain ⟨inner, hinside⟩ := exists_inside_iff.mpr hfit.id
          have hinside' : c.inside members' = .ok inner := (hsame.inside_eq c).trans hinside
          rw [judge, judge, Context.innerBase_of_inside hinside,
            Context.innerBase_of_inside hinside', Option.bind_some, Option.bind_some]
          -- Members that are no keywords hold; the others have their counterparts.
          refine judgeParts_conjunction_congr ?_ ?_
          · rintro ⟨name, x⟩ hmem
            cases hname : Keyword.ofName? name with
            | none => exact .inl (judgeKeyword_of_ignored (.inl hname))
            | some k =>
                by_cases hk : k = .informative
                · exact .inl (judgeKeyword_of_ignored (.inr (hk ▸ hname)))
                · obtain ⟨x', hmem', hx⟩ := hsame.exists_member (H.wellFormed h) hmem hname hk
                  exact .inr ⟨(name, x'), hmem',
                    (H.judgeKeyword_eq ih h hsame hinside hmem hmem' hname hx).symm⟩
          · rintro ⟨name, x'⟩ hmem'
            cases hname : Keyword.ofName? name with
            | none => exact .inl (judgeKeyword_of_ignored (.inl hname))
            | some k =>
                by_cases hk : k = .informative
                · exact .inl (judgeKeyword_of_ignored (.inr (hk ▸ hname)))
                · obtain ⟨x, hmem, hx⟩ := hsame.exists_member' (H.wellFormed' h) hmem' hname hk
                  exact .inr ⟨(name, x), hmem,
                    H.judgeKeyword_eq ih h hsame hinside hmem hmem' hname hx⟩
      | _ => cases hadmissible

end Compile.Counterparts

/-! ## Builds -/

namespace Options

variable {schema schema' : Value} {uri : Url} {v : Validator} {r : Registry}

/-- A schema whose `$id` join becomes the only document. -/
theorem single_build (hschema : schema.WellFormed) (huri : documentUri Url.ownBase schema = .ok uri)
    (hroot : ¬Declarations.Unresolvable Url.ownBase ⟨uri, .root⟩ schema) :
    (build {} schema).2.Single ⟨uri, Url.ownBase, schema⟩ := by
  obtain ⟨h, rfl⟩ := exists_enters (o := {}) rfl hschema huri hroot
  exact h.single rfl rfl hschema

/-- If a schema builds, so does one that says the same wherever the one is visited, and validators
of the two answer alike. -/
theorem build_of_counterparts (hbuild : build {} schema = (.ok v, r))
    (hschema' : schema'.WellFormed) (huri' : documentUri Url.ownBase schema' = .ok uri)
    (hroot' : ¬Declarations.Unresolvable Url.ownBase ⟨uri, .root⟩ schema')
    (hacceptable : Acceptable {} {} schema uri r)
    (H : Counterparts r (build {} schema').2 ⟨uri, Url.ownBase, schema⟩
      ⟨uri, Url.ownBase, schema'⟩) :
    ∃ v', (build {} schema').1 = .ok v' ∧ ∀ x, v.isValid x = v'.isValid x := by
  have hacceptable' : Acceptable {} {} schema' uri (build {} schema').2 := {
    root := hroot'
    loaded := fun _ _ _ hcontents => nomatch hcontents
    admissible := fun _ _ hvisited => H.admissible' hvisited
    acyclic := fun _ _ hvisited => H.acyclic' hacceptable.acyclic hvisited }
  obtain ⟨v', hv'⟩ : ∃ v', (build {} schema').1 = .ok v' :=
    exists_build_of_acceptable (o := {}) rfl hschema' huri'
      (returns_buildIn Registry.wellIndexed_empty {}) hacceptable'
  have hbuild' : build {} schema' = (.ok v', (build {} schema').2) := by rw [← hv']
  refine ⟨v', hv', fun x => ?_⟩
  -- Both answers are the judgements, once references may be followed often enough for both.
  have hjudge := judge_of_build (o := {}) rfl hbuild x (le_max_left _ (v'.root.steps v'.slots x))
  have hjudge' := judge_of_build (o := {}) rfl hbuild' x (le_max_right (v.root.steps v.slots x) _)
  have hroot : Counterpart r ⟨uri, Url.ownBase, schema⟩ ⟨uri, Url.ownBase, schema'⟩
      ⟨⟨uri, .root⟩, Url.ownBase⟩ schema schema' := ⟨.root, rfl⟩
  have hsame := H.judge_eq (max (v.root.steps v.slots x) (v'.root.steps v'.slots x)) _ _ _ hroot x
  exact Option.some.inj (hjudge.symm.trans (hsame.trans hjudge'))

/-- Validators of the two have the same document and as many slots. -/
theorem shape_of_counterparts {v' : Validator} {r' : Registry} (hschema : schema.WellFormed)
    (hschema' : schema'.WellFormed) (huri : documentUri Url.ownBase schema = .ok uri)
    (huri' : documentUri Url.ownBase schema' = .ok uri) (hbuild : build {} schema = (.ok v, r))
    (hbuild' : build {} schema' = (.ok v', r'))
    (H : Counterparts r r' ⟨uri, Url.ownBase, schema⟩ ⟨uri, Url.ownBase, schema'⟩) :
    v.document = v'.document ∧ v.slots.length = v'.slots.length := by
  obtain ⟨hdocument, places, hdistinct, hlength, hplaces⟩ :=
    exists_places_of_build (o := {}) rfl hschema Retriever.wellFormed_empty huri hbuild
  obtain ⟨hdocument', places', hdistinct', hlength', hplaces'⟩ :=
    exists_places_of_build (o := {}) rfl hschema' Retriever.wellFormed_empty huri' hbuild'
  have hperm : places.Perm places' := by
    rw [List.perm_ext_iff_of_nodup hdistinct hdistinct']
    exact fun place => (hplaces place).trans ((or_congr_right H.exists_referred_iff).trans
      (hplaces' place).symm)
  exact ⟨hdocument.trans hdocument'.symm, hlength.symm.trans (hperm.length_eq.trans hlength')⟩

end Options
end JsonSchema
