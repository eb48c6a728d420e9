import JsonSchema.Proofs.Evaluation.Agreement
import JsonSchema.Proofs.Explanation.Fault

/-!
# What a report says is so

Everything that is explained has failed, because a node asks on only about what has made it fail. So
whatever a report says, at any depth, is a fault of what stands at its schema location, and is said
of the value at its instance location.
-/

namespace JsonSchema

open Compile Meaning

variable {settings : Settings} {s : State} {slots : List Node} {E : Surroundings}
variable {P : Context → Value → Prop}

namespace ErrorTree

/-- A tree says of a schema location, at an instance location, what failed. -/
def Reports (t : ErrorTree) (l : SchemaLocation) (path : Pointer) (f : Finding) : Prop :=
  ∃ u, Within u t ∧ u.location = l ∧ u.instanceLocation = path ∧ u.finding = some f

variable {l l' : SchemaLocation} {k path path' p q : Pointer} {f : Finding} {f' : Option Finding}

theorem reports_node_iff {children : List ErrorTree} :
    Reports (.node l' k path' f' children) l path f ↔
      (l' = l ∧ path' = path ∧ f' = some f) ∨ ∃ t ∈ children, Reports t l path f := by
  constructor
  · rintro ⟨u, hu, rfl, rfl, hf⟩
    cases hu with
    | self => exact .inl ⟨rfl, rfl, hf⟩
    | descend hmem hu => exact .inr ⟨_, hmem, u, hu, rfl, rfl, hf⟩
  · rintro (⟨rfl, rfl, rfl⟩ | ⟨t, ht, u, hu, h⟩)
    · exact ⟨_, .self, rfl, rfl, rfl⟩
    · exact ⟨u, .descend ht hu, h⟩

mutual

/-- What is listed is said somewhere in the tree. -/
theorem reports_of_mem_entries : ∀ {t : ErrorTree} {e : Entry}, e ∈ t.entries →
    Reports t e.location e.instanceLocation e.finding
  | .node _ _ _ (some _) _, _, h => by
    rw [entries, List.mem_cons] at h
    rcases h with rfl | h
    · exact reports_node_iff.mpr (.inl ⟨rfl, rfl, rfl⟩)
    · exact reports_node_iff.mpr (.inr (exists_reports_of_mem_allEntries h))
  | .node _ _ _ none _, _, h => by
    rw [entries] at h
    exact reports_node_iff.mpr (.inr (exists_reports_of_mem_allEntries h))

theorem exists_reports_of_mem_allEntries : ∀ {trees : List ErrorTree} {e : Entry},
    e ∈ allEntries trees → ∃ t ∈ trees, Reports t e.location e.instanceLocation e.finding
  | [], _, h => by simp [allEntries] at h
  | t :: _, _, h => by
    rw [allEntries, List.mem_append] at h
    rcases h with h | h
    · exact ⟨t, List.mem_cons_self, reports_of_mem_entries h⟩
    · obtain ⟨t', hmem, ht'⟩ := exists_reports_of_mem_allEntries h
      exact ⟨t', List.mem_cons_of_mem t hmem, ht'⟩

end

mutual

/-- To move a tree changes its keyword locations only. -/
theorem reports_rebase_iff : ∀ {t : ErrorTree},
    Reports (t.rebase p q) l path f ↔ Reports t l path f
  | .node _ _ _ _ _ => by
    rw [rebase, reports_node_iff, reports_node_iff, reports_rebaseAll_iff]

theorem reports_rebaseAll_iff : ∀ {trees : List ErrorTree},
    (∃ t ∈ rebaseAll p q trees, Reports t l path f) ↔ ∃ t ∈ trees, Reports t l path f
  | [] => by simp [rebaseAll]
  | t :: rest => by
    rw [rebaseAll, List.exists_mem_cons_iff, List.exists_mem_cons_iff, reports_rebase_iff,
      reports_rebaseAll_iff]

end

theorem reports_moved_iff {n target : Node} {t : ErrorTree} :
    Reports (n.moved target t) l path f ↔ Reports t l path f := by
  cases n with
  | reference => exact reports_rebase_iff
  | _ => exact .rfl

end ErrorTree

/-- What is said of a node that is sited, and has failed, is so of the value or a part of it. Behind
a reference it is so because the targets are sited as well. -/
theorem Node.fault_of_reports (hslots : Read settings s slots E) (hP : Inherited P)
    (hfollow : ∀ l slot n, Sited settings s P (.reference l slot) → slots[slot]? = some n →
      Sited settings s P n) {steps : Nat} {n : Node} {x : Value} {path : Pointer}
    (h : Sited settings s P n) (hends : EndsWithin slots steps (n, x))
    (hfails : n.accepts slots steps x = false) {l : SchemaLocation} {path' : Pointer} {f : Finding}
    (hreports : (n.explain slots steps x path).Reports l path' f) :
    ∃ rest, path' = path ++ rest ∧ x.at? rest = some f.value ∧
      ∃ raw, Fault settings E P l raw f.value f.failure := by
  induction steps generalizing n x path with
  | zero => cases hends
  | succ steps ih =>
      rw [explain, explainStep_eq] at hreports
      rcases ErrorTree.reports_node_iff.mp hreports with ⟨rfl, rfl, hf⟩ | ⟨t, ht, hreports⟩
      · obtain ⟨failure, hfailure, rfl⟩ := Option.map_eq_some_iff.mp hf
        exact ⟨.root, by simp, rfl, h.exists_fault hslots hends hfails (.inl hfailure)⟩
      · rcases List.mem_append.mp ht with ht | ht
        · obtain ⟨failure, hfailure, rfl⟩ := List.mem_map.mp ht
          obtain ⟨rfl, rfl, hf⟩ : n.location = l ∧ path = path' ∧ some ⟨failure, x⟩ = some f := by
            simpa using ErrorTree.reports_node_iff.mp hreports
          cases hf
          exact ⟨.root, by simp, rfl, h.exists_fault hslots hends hfails (.inr hfailure)⟩
        · obtain ⟨⟨n', x', childPath⟩, hmem, rfl⟩ := List.mem_map.mp ht
          have hasked := asked_of_mem hmem
          obtain ⟨below, rfl, hbelow⟩ := hasked.path
          have hsited : Sited settings s P n' := by
            rcases h.of_call hP hasked.isCall with ⟨l, slot, rfl⟩ | hsited
            · cases hasked.isCall with
              | inPlace h => cases h
              | follow hn' => exact hfollow l slot n' h hn'
            · exact hsited
          have hends' : EndsWithin slots steps (n', x') := by
            cases hends with
            | intro calls => exact calls _ hasked.isCall
          obtain ⟨rest, rfl, hat, hfault⟩ := ih hsited hends' (hasked.fails hfails)
            (ErrorTree.reports_moved_iff.mp hreports)
          exact ⟨below ++ rest, Pointer.append_assoc _ _ _, (Value.at?_append hbelow).trans hat,
            hfault⟩

/-! ## Reports of built validators -/

/-- A compiled form that was come to is followed to others that are come to. -/
theorem Options.Linked.sited_of_follow {uri base : Url} {schema : Value} {v : Validator}
    (h : Linked settings uri base schema v s) (hr : s.registry.WellIndexed) {l : SchemaLocation}
    {slot : Nat} {n : Node}
    (hsited : Sited settings s (Reached s.registry (fun _ => True) ⟨⟨uri, .root⟩, base⟩ schema)
      (.reference l slot)) (hn : v.slots[slot]? = some n) :
    Sited settings s (Reached s.registry (fun _ => True) ⟨⟨uri, .root⟩, base⟩ schema) n := by
  cases hsited with
  | schema _ h => cases h
  | @member c inner members name raw _ hP hinside hmem hmember =>
      generalize hnode : some (Node.reference l slot) = node at hmember
      cases hmember with
      | @reference _ _ _ reference t _ hname hleads hslot =>
          cases hnode
          obtain rfl : name = "$ref" := Keyword.name_eq hname (by decide)
          obtain ⟨c', x, n', hplace, hschema, hn', hcompiled⟩ := h.exists_node hslot
          obtain rfl : n' = n := Option.some.inj (hn'.symm.trans hn)
          cases hschema with
          | root => exact .schema .root hcompiled
          | @target t' ht' hne =>
              obtain rfl := ht'.unique (Registry.leads_of_resolve hr (hleads {})).1 hplace
              exact .schema (.follow hP hinside hmem hleads hne) hcompiled
      | check =>
          obtain ⟨check, -, hcheck⟩ := Option.map_eq_some_iff.mp hnode.symm
          cases hcheck
      | _ => cases hnode

/-- What has failed stands at its location. -/
theorem Fault.shows {r : Registry} {c₀ : Context} {schema₀ raw x : Value} {l : SchemaLocation}
    {failure : Failure} (hr : r.WellIndexed) (hwf : r.WellFormed)
    (hroot : r.Shows c₀.place schema₀)
    (h : Fault settings E (Reached r (fun _ => True) c₀ schema₀) l raw x failure) :
    r.Shows ⟨l.document, l.pointer⟩ raw := by
  cases h with
  | falseSchema hP => exact hP.shows hr hwf hroot
  | @keyword c inner members name k raw x failure hP hinside hmem =>
      have hmembers := hP.shows hr hwf hroot
      have hmember : (Value.object members).follow? [name] = some raw :=
        Value.follow?_singleton.trans (hmembers.wellFormed.lookup hmem)
      simpa [Context.location, Context.key, Context.place_of_inside hinside, Pointer.key,
        Pointer.append_eq] using hmembers.along hmember

namespace Options

variable {r r' : Registry} {o : Options} {store : Store} {schema x : Value} {v : Validator}

/-- Everything that the report on a value says, at any depth, is so. The instance location leads to
the value that it is said of, and this value fails by what the registry holds at the schema
location. -/
theorem fault_of_report (hr : r.Reachable) (hr' : r'.WellFormed) (hschema : schema.WellFormed)
    (h : o.buildIn store r schema = (.ok v, r')) {tree : ErrorTree}
    (htree : (v.report x).tree = some tree) {l : SchemaLocation} {path : Pointer} {f : Finding}
    (hreports : tree.Reports l path f) :
    x.at? path = some f.value ∧ ∃ raw, r'.Shows ⟨l.document, l.pointer⟩ raw ∧
      Fault (o.settings store)
        ((surroundings (o.settings store) r').withTarget ⟨v.document, .root, o.base, schema⟩)
        (Reached r' (fun _ => True) ⟨⟨v.document, .root⟩, o.base⟩ schema)
        l raw f.value f.failure := by
  obtain ⟨hbuilds⟩ := exists_builds h
  obtain ⟨s, rfl, -, hlinked⟩ := hbuilds.exists_linked hr.wellIndexed
  have hindexed : s.registry.WellIndexed := by
    have hbuilt := (hr.buildIn o store schema).wellIndexed
    rwa [h] at hbuilt
  have hroot : s.registry.Shows ⟨hbuilds.uri, .root⟩ schema := by
    have hbuilt : (o.buildIn store r schema).2.WellFormed := by rwa [h]
    have hshows := hbuilds.shows_root hbuilt hschema
    rwa [h] at hshows
  rw [← hlinked.document] at hroot hlinked
  obtain ⟨hfails, rfl⟩ := Validator.report_tree_iff.mp htree
  obtain ⟨rest, rfl, hat, raw, hfault⟩ := Node.fault_of_reports (hlinked.read hindexed)
    inherited_reached (fun _ _ _ hsited hn => hlinked.sited_of_follow hindexed hsited hn)
    (.schema .root hlinked.root_eq) (Node.endsWithin_steps hlinked.acyclic _ _) hfails hreports
  rw [Pointer.root_append]
  exact ⟨hat, raw, hfault.shows hindexed hr' hroot, hfault⟩

/-- A parcel has a size, in one of several ways. -/
def parcel : Value := .object [("properties", .object [("size", .object [("$ref",
    .string "#/$defs/size")])]),
  ("$defs", .object [("size", .object [("oneOf", .array [.object [("type", .string "array")],
    .object [("type", .string "string")], .object [("not", .bool false)]])])])]

theorem fault_of_report_parcel : ∃ v r' tree f raw,
    buildIn {} {} {} parcel = (.ok v, r') ∧ r'.WellFormed ∧
      (v.report (.object [("size", .string "10 cm")])).tree = some tree ∧
      tree.Reports ⟨v.document, ⟨["$defs", "size", "oneOf"]⟩⟩ ⟨["size"]⟩ f ∧
      f.failure.code = "oneOfMultipleValid" ∧ f.value = .string "10 cm" ∧
      r'.Shows ⟨v.document, ⟨["$defs", "size", "oneOf"]⟩⟩ raw ∧
      Fault (Options.settings {} {})
        ((surroundings (Options.settings {} {}) r').withTarget ⟨v.document, .root, base {}, parcel⟩)
        (Reached r' (fun _ => True) ⟨⟨v.document, .root⟩, base {}⟩ parcel)
        ⟨v.document, ⟨["$defs", "size", "oneOf"]⟩⟩ raw f.value f.failure := by
  let x : Value := .object [("size", .string "10 cm")]
  have hwf : (buildIn {} {} {} parcel).2.WellFormed := by decide +kernel
  have hreport : ((buildIn {} {} {} parcel).1.toOption.map fun v =>
      (v.isValid x, (v.report x).entries.map fun e =>
        (e.location == ⟨v.document, ⟨["$defs", "size", "oneOf"]⟩⟩, e.instanceLocation,
          e.finding.failure.code))) =
        some (false, [(true, ⟨["size"]⟩, "oneOfMultipleValid")]) := by decide +kernel
  rcases h : buildIn {} {} {} parcel with ⟨_ | v, r'⟩
  · simp [h, Except.toOption] at hreport
  · rw [h] at hwf
    simp only [h, Except.toOption, Option.map_some, Option.some.injEq, Prod.mk.injEq] at hreport
    obtain ⟨hfails, hentries⟩ := hreport
    obtain ⟨e, he, hlocation, hpath, hcode⟩ :
        ∃ e, (v.report x).entries = [e] ∧ e.location = ⟨v.document, ⟨["$defs", "size", "oneOf"]⟩⟩ ∧
          e.instanceLocation = ⟨["size"]⟩ ∧ e.finding.failure.code = "oneOfMultipleValid" := by
      simpa [List.map_eq_singleton_iff] using hentries
    have htree := Validator.report_tree_iff.mpr ⟨hfails, rfl⟩
    have hmem : e ∈ (v.root.explain v.slots (v.root.steps v.slots x) x .root).entries := by
      rw [Report.entries, htree, Option.map_some, Option.getD_some] at he
      exact he ▸ List.mem_singleton_self e
    have hreports := ErrorTree.reports_of_mem_entries hmem
    rw [hlocation, hpath] at hreports
    obtain ⟨hat, raw, hshows, hfault⟩ :=
      fault_of_report .empty hwf (by decide +kernel) h htree hreports
    exact ⟨v, r', _, e.finding, raw, rfl, hwf, htree, hreports, hcode,
      (Option.some.inj hat).symm, hshows, hfault⟩

end Options
end JsonSchema
