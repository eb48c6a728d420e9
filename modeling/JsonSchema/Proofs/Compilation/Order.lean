import JsonSchema.Proofs.Meaning.Order
import JsonSchema.Proofs.Meaning.Transfer
import JsonSchema.Proofs.Registry.Order

/-!
# Verdicts and the order of members

Schemas that differ in the order of members say the same wherever they are visited, and references
lead to the same positions in both, unless two positions declare the same. So both build or neither
does, and they answer alike, also on values that differ in the order of members.
-/

namespace JsonSchema

open Compile Meaning

/-! ## Keywords in another order -/

section Keywords

variable {k : Keyword} {v v' : Value} {c : Context} {r : Registry}
variable {members members' : List (String × Value)}

theorem judgeEnum_of_reordered {options : List Value} (h : (Value.array options).Reordered v')
    (hwf : (Value.array options).WellFormed) (x : Value) :
    judgeEnum (.array options) x = judgeEnum v' x := by
  cases h with
  | @array _ options' hlength hitems =>
      have hany : List.Forall₂ (fun option option' => option.equivalent x = option'.equivalent x)
          options options' :=
        forall₂_of_getElem? hlength fun i option option' hi hi' =>
          Value.agree_reordered_left (hitems i option option' hi hi')
            (Value.wellFormedItems_iff.mp hwf _ (List.mem_of_getElem? hi)) x
      refine congrArg some ?_
      clear hlength hitems hwf
      induction hany with
      | nil => rfl
      | cons hoption _ ih =>
          rw [List.any_cons, List.any_cons, ih]
          exact congrArg (· || _) hoption

/-- A keyword says the same with its value in another order. -/
theorem Keyword.SaysSame.of_reordered (h : v.Reordered v') (hv : v.WellFormed)
    (htakes : k.Takes v) : k.SaysSame v v' := by
  have hlength {schemas : List Value} (h : (Value.array schemas).Reordered v') :
      (Value.array schemas).SameLength v' := by
    cases h with
    | @array _ schemas' hlength _ => exact ⟨schemas, schemas', rfl, rfl, hlength⟩
  cases k with
  | ref | format =>
      obtain ⟨s, rfl⟩ := htakes
      exact h.eq_string.symm
  | type =>
      rcases htakes with ⟨name, t, rfl, -⟩ | ⟨names, rfl, -, hnames⟩
      · exact h.eq_string.symm
      · refine (h.eq_strings fun name hname => ?_).symm
        obtain ⟨s, -, hs, -⟩ := hnames name hname
        exact ⟨s, hs⟩
  | enum =>
      obtain ⟨options, rfl⟩ := htakes
      exact judgeEnum_of_reordered h hv
  | const => exact Value.agree_reordered_left h hv
  | bound _ =>
      obtain ⟨n, rfl⟩ := htakes
      exact h.eq_number.symm
  | multipleOf | length _ | itemCount _ =>
      obtain ⟨n, rfl, -⟩ := htakes
      exact h.eq_number.symm
  | pattern =>
      obtain ⟨source, -, rfl, -⟩ := htakes
      exact h.eq_string.symm
  | required =>
      obtain ⟨names, rfl, hnames⟩ := htakes
      exact (h.eq_strings hnames).symm
  | properties =>
      obtain ⟨schemas, rfl⟩ := htakes
      cases h with
      | @object _ schemas' hkeys _ =>
          exact ⟨schemas, schemas', rfl, rfl, fun name => hkeys.mem_iff⟩
  | items =>
      rcases htakes with (⟨b, rfl⟩ | ⟨members, rfl⟩) | ⟨schemas, rfl⟩
      · cases h
        exact .inr ⟨nofun, nofun⟩
      · cases h
        exact .inr ⟨nofun, nofun⟩
      · exact .inl (hlength h)
  | allOf | anyOf | oneOf =>
      obtain ⟨schemas, rfl, -⟩ := htakes
      exact hlength h
  | not | condition | branch _ | informative => trivial

theorem SameKeywords.of_reordered (h : (Value.object members).Reordered (.object members'))
    (hwf : (Value.object members).WellFormed) (hfit : Fit {} r c members) :
    SameKeywords members members' := by
  have hstring {key : String} (hkey : ∀ v, members.lookup key = some v → v.IsString) :
      members'.lookup key = members.lookup key := by
    have hrel := h.lookup key
    generalize members.lookup key = found at hrel hkey ⊢
    generalize members'.lookup key = found' at hrel ⊢
    cases hrel with
    | none => rfl
    | some hreordered =>
        obtain ⟨s, rfl⟩ := hkey _ rfl
        rw [hreordered.eq_string]
  constructor
  · refine hstring fun v hv => ?_
    obtain ⟨id, -, hid, -⟩ := hfit.id v hv
    exact ⟨id, hid⟩
  · exact hstring hfit.anchor
  · intro name k hname _
    have hrel := h.lookup name
    have htakes (v : Value) (hv : members.lookup name = some v) : k.Takes v ∧ v.WellFormed :=
      ⟨hfit.takes name v k (mem_of_lookup hv) hname, hwf.of_mem (mem_of_lookup hv)⟩
    generalize members.lookup name = found at hrel htakes ⊢
    generalize members'.lookup name = found' at hrel ⊢
    cases hrel with
    | none => exact .none
    | some hreordered => exact .some (.of_reordered hreordered (htakes _ rfl).2 (htakes _ rfl).1)

/-- A schema that can be compiled says the same in another order. -/
theorem Value.SaysSame.of_reordered (h : v.Reordered v') (hv : v.WellFormed)
    (hadmissible : Admissible {} r c v) : v.SaysSame v' := by
  cases h with
  | bool b => rfl
  | @object members members' hkeys hmembers =>
      exact ⟨members', rfl, .of_reordered (.object hkeys hmembers) hv hadmissible⟩
  | _ => cases hadmissible

end Keywords

/-! ## Builds -/

namespace Options

variable {schema schema' : Value} {uri : Url} {v : Validator} {r r' : Registry}

theorem counterparts_of_reordered {d d' : Document} (h : d.Reordered d') (hr : r.Single d)
    (hr' : r'.Single d') (hunambiguous : d.Unambiguous)
    (hadmissible : ∀ c v, Visited {} r d.start d.contents c v → Admissible {} r c v) :
    Counterparts r r' d d' where
  single := hr
  single' := hr'
  uri := h.uri
  base := h.base
  admissible := hadmissible
  same c v hvisited := by
    have hat := (hvisited.at?_eq hr).2
    obtain ⟨v', hv', hreordered⟩ := h.contents.exists_follow? hat
    exact ⟨v', hv', .of_reordered hreordered (h.wellFormed.of_follow? hat)
      (hadmissible c v hvisited)⟩
  declared c inner members text t hvisited hinside hmem hfollows := by
    obtain ⟨-, -, -, -, -, -, hat, hbase⟩ := hr.follows_iff.mp hfollows
    obtain ⟨w', hat', hbase', -⟩ := h.exists_at hat hbase
    exact ⟨h.declaresAlike hr.wellRead hr'.wellRead hunambiguous inner.base text,
      hbase'.trans hbase.symm, Option.isSome_of_eq_some hat'⟩

/-- If a schema builds, the same schema in another order of members says the same wherever the one
is visited. -/
theorem exists_counterparts_of_reordered (hschema : schema.WellFormed)
    (hreordered : schema.Reordered schema')
    (hunambiguous : ∀ uri, documentUri Url.ownBase schema = .ok uri →
      Document.Unambiguous ⟨uri, Url.ownBase, schema⟩)
    (hbuild : build {} schema = (.ok v, r)) :
    ∃ uri, documentUri Url.ownBase schema = .ok uri ∧ documentUri Url.ownBase schema' = .ok uri ∧
      ¬Declarations.Unresolvable Url.ownBase ⟨uri, .root⟩ schema' ∧ Acceptable {} {} schema uri r ∧
      Counterparts r (build {} schema').2 ⟨uri, Url.ownBase, schema⟩
        ⟨uri, Url.ownBase, schema'⟩ := by
  have hschema' := hreordered.wellFormed hschema
  obtain ⟨uri, huri, hacceptable⟩ :=
    acceptable_of_build (o := {}) rfl hschema Retriever.wellFormed_empty hbuild
  have huri' : documentUri Url.ownBase schema' = .ok uri :=
    (Document.baseInside_of_identical (hreordered.identical hschema) hschema _).symm.trans huri
  have hroot' : ¬Declarations.Unresolvable Url.ownBase ⟨uri, .root⟩ schema' :=
    fun h => hacceptable.root (h.of_reordered hschema' hreordered.symm)
  have hdocument : Document.Reordered ⟨uri, Url.ownBase, schema⟩ ⟨uri, Url.ownBase, schema'⟩ :=
    ⟨rfl, rfl, hschema, hreordered⟩
  have hsingle : r.Single ⟨uri, Url.ownBase, schema⟩ := by
    have hsingle := single_build hschema huri hacceptable.root
    rwa [hbuild] at hsingle
  exact ⟨uri, huri, huri', hroot', hacceptable, counterparts_of_reordered hdocument hsingle
    (single_build hschema' huri' hroot') (hunambiguous uri huri) hacceptable.admissible⟩

/-- If a schema builds, it does so in any order of members, and answers alike. -/
theorem build_of_reordered (hschema : schema.WellFormed) (hreordered : schema.Reordered schema')
    (hunambiguous : ∀ uri, documentUri Url.ownBase schema = .ok uri →
      Document.Unambiguous ⟨uri, Url.ownBase, schema⟩)
    (hbuild : (build {} schema).1 = .ok v) :
    ∃ v', (build {} schema').1 = .ok v' ∧ ∀ x, v.isValid x = v'.isValid x := by
  have hbuilt : build {} schema = (.ok v, (build {} schema).2) := by rw [← hbuild]
  obtain ⟨uri, -, huri', hroot', hacceptable, H⟩ :=
    exists_counterparts_of_reordered hschema hreordered hunambiguous hbuilt
  exact build_of_counterparts hbuilt (hreordered.wellFormed hschema) huri' hroot' hacceptable H

/-- A validator gives one answer on values that differ in the order of members. -/
theorem isValid_reordered {x x' : Value} (hbuild : build {} schema = (.ok v, r))
    (hx : x.Reordered x') : v.isValid x = v.isValid x' := by
  have hjudge := judge_of_build (o := {}) rfl hbuild x (le_max_left _ (v.root.steps v.slots x'))
  have hjudge' := judge_of_build (o := {}) rfl hbuild x' (le_max_right (v.root.steps v.slots x) _)
  have hsame := judge_reordered (ignoresOrder_of_format? r)
    (max (v.root.steps v.slots x) (v.root.steps v.slots x')) Url.ownBase schema x x' hx
  exact Option.some.inj (hjudge.symm.trans (hsame.trans hjudge'))

/-- The order of members makes no difference to whether a schema builds and to what it answers,
neither that in the schema nor that in the value, unless two positions of the schema declare the
same. -/
theorem verdicts_of_reordered {x x' : Value} (hschema : schema.WellFormed)
    (hunambiguous : ∀ uri, documentUri Url.ownBase schema = .ok uri →
      Document.Unambiguous ⟨uri, Url.ownBase, schema⟩)
    (hreordered : schema.Reordered schema') (hx : x.Reordered x') :
    ((∃ v, (build {} schema).1 = .ok v) ↔ ∃ v', (build {} schema').1 = .ok v') ∧
      ∀ v v', (build {} schema).1 = .ok v → (build {} schema').1 = .ok v' →
        v.isValid x = v'.isValid x' := by
  have hschema' := hreordered.wellFormed hschema
  have hunambiguous' (uri : Url) (huri' : documentUri Url.ownBase schema' = .ok uri) :
      Document.Unambiguous ⟨uri, Url.ownBase, schema'⟩ := by
    have huri : documentUri Url.ownBase schema = .ok uri :=
      (Document.baseInside_of_identical (hreordered.identical hschema) hschema _).trans huri'
    have hdocument : Document.Reordered ⟨uri, Url.ownBase, schema⟩ ⟨uri, Url.ownBase, schema'⟩ :=
      ⟨rfl, rfl, hschema, hreordered⟩
    exact hdocument.unambiguous (hunambiguous uri huri)
  refine ⟨⟨?_, ?_⟩, ?_⟩
  · rintro ⟨v, hv⟩
    obtain ⟨v', hv', -⟩ := build_of_reordered hschema hreordered hunambiguous hv
    exact ⟨v', hv'⟩
  · rintro ⟨v', hv'⟩
    obtain ⟨v, hv, -⟩ := build_of_reordered hschema' hreordered.symm hunambiguous' hv'
    exact ⟨v, hv⟩
  · intro v v' hv hv'
    obtain ⟨v'', hv'', hsame⟩ := build_of_reordered hschema hreordered hunambiguous hv
    obtain rfl : v'' = v' := Except.ok.inj (hv''.symm.trans hv')
    have hbuild' : build {} schema' = (.ok v'', (build {} schema').2) := by rw [← hv'']
    exact (hsame x).trans (isValid_reordered hbuild' hx)

end Options
end JsonSchema
