import JsonSchema.Proofs.Compilation.Run

/-!
# Compilation yields compiled forms

One lemma for each of the functions that compile, from what those that it calls with less fuel
yield. Together they hold with any fuel.
-/

namespace JsonSchema.Compile

open Meaning

variable {settings : Settings} {fuel : Nat}

theorem Context.innerBase_of_inside {c inner : Context} {members : List (String × Value)}
    (h : c.inside members = .ok inner) : innerBase c.base members = some inner.base := by
  unfold inside at h
  unfold innerBase
  split at h
  · cases h
    simp [*]
  · rename_i id hid
    simp only [hid]
    split at h
    · rename_i hfragment
      cases h
      simp [hfragment]
    · rename_i hfragment
      split at h
      · rename_i url hjoin
        cases h
        simp [hfragment, hjoin, Except.toOption]
      · simp at h
  · simp at h

/-- Nodes are the compiled forms of the schemas of an array from an index on. -/
def CompiledItems (settings : Settings) (s : State) (c : Context) (i : Nat) (vs : List Value)
    (nodes : List Node) : Prop :=
  vs.length = nodes.length ∧ ∀ (j : Nat) v n, vs[j]? = some v → nodes[j]? = some n →
    Compiled settings s (c.index (i + j)) v n

theorem CompiledItems.cons {s : State} {c : Context} {i : Nat} {v : Value} {vs : List Value}
    {n : Node} {nodes : List Node} (hn : Compiled settings s (c.index i) v n)
    (h : CompiledItems settings s c (i + 1) vs nodes) :
    CompiledItems settings s c i (v :: vs) (n :: nodes) := by
  refine ⟨congrArg (· + 1) h.1, fun j v' n' hv hn' => ?_⟩
  cases j with
  | zero =>
      obtain rfl : v = v' := by simpa using hv
      obtain rfl : n = n' := by simpa using hn'
      exact hn
  | succ j =>
      have hrest := h.2 j v' n' (by simpa using hv) (by simpa using hn')
      rwa [Nat.add_assoc, Nat.add_comm 1 j] at hrest

/-- What the functions that compile yield with some fuel. -/
structure Sound (settings : Settings) (fuel : Nat) : Prop where
  compile : ∀ c v, Yields settings (compile settings fuel c v) fun s n =>
    Compiled settings s c v n
  member : ∀ c members name v, Yields settings (compileMember settings fuel c members name v)
    fun s n => CompiledMember settings s c members name v n
  branch : ∀ c members name, Yields settings (compileBranch settings fuel c members name)
    fun s n => (members.lookup name).isSome = n.isSome ∧ ∀ schema node,
      members.lookup name = some schema → n = some node →
        Compiled settings s (c.key name) schema node
  branches : ∀ c name v, Yields settings (compileBranches settings fuel c name v) fun s nodes =>
    ∃ schema schemas, v = .array (schema :: schemas) ∧
      CompiledItems settings s c 0 (schema :: schemas) nodes
  items : ∀ c i vs, Yields settings (compileItems settings fuel c i vs) fun s nodes =>
    CompiledItems settings s c i vs nodes
  evolving_target : ∀ t, Evolving (compileTarget settings fuel t)
  target : ∀ t s slot s', s.registry.WellIndexed → s.registry.IsTarget t →
    Runs (compileTarget settings fuel t) s slot s' →
      Extends settings s s' ∧ s'.places[slot]? = some t.place

theorem yields_compile (ih : Sound settings fuel) (c : Context) (v : Value) :
    Yields settings (compile settings (fuel + 1) c v) fun s n =>
      Compiled settings s c v n := by
  cases v with
  | bool b => exact yields_pure fun _ => .boolean
  | object members =>
      refine yields_bind yields_ofExcept fun inner => ?_
      have hmembers : Yields settings (do
          let nodes ← members.mapM fun m => compileMember settings fuel inner members m.1 m.2
          return .keywords inner.location (nodes.filterMap id)) fun s n =>
          c.inside members = .ok inner →
          (∀ v, members.lookup "$anchor" = some v → ∃ name, v = .string name) →
          Compiled settings s c (.object members) n := by
        refine yields_bind (yields_mapM fun m => ih.member inner members m.1 m.2) fun nodes => ?_
        refine yields_pure fun s hnodes hinside hanchor => ?_
        obtain ⟨hlength, hzip⟩ := List.forall₂_iff_zip.mp hnodes
        exact .object hinside hanchor hlength fun _ hp => hzip hp
      dsimp only
      split
      · rename_i hnone
        exact hmembers.mono fun _ _ h hinside => h hinside (by simp [hnone])
      · rename_i name hname
        exact hmembers.mono fun _ _ h hinside => h hinside (by simp [hname])
      · exact yields_bind (yields_throw (P := fun _ _ => False)) fun _ =>
          hmembers.mono fun _ _ _ h => h.elim
  | _ => exact yields_throw

theorem yields_compileBranch (ih : Sound settings fuel) (c : Context)
    (members : List (String × Value)) (name : String) :
    Yields settings (compileBranch settings (fuel + 1) c members name) fun s n =>
      (members.lookup name).isSome = n.isSome ∧ ∀ schema node,
        members.lookup name = some schema → n = some node →
          Compiled settings s (c.key name) schema node := by
  cases h : members.lookup name with
  | none =>
      simp only [compileBranch, h]
      exact yields_pure (by simp)
  | some v =>
      simp only [compileBranch, h]
      refine yields_map ((ih.compile (c.key name) v).mono ?_)
      rintro s n hn
      refine ⟨rfl, ?_⟩
      rintro _ _ ⟨⟩ ⟨⟩
      exact hn

theorem yields_compileItems (ih : Sound settings fuel) (c : Context) (i : Nat) (vs : List Value) :
    Yields settings (compileItems settings (fuel + 1) c i vs) fun s nodes =>
      CompiledItems settings s c i vs nodes := by
  cases vs with
  | nil => exact yields_pure fun _ => ⟨rfl, by simp⟩
  | cons v rest =>
      refine yields_bind (ih.compile (c.index i) v) fun n => ?_
      refine yields_bind (ih.items c (i + 1) rest) fun nodes => ?_
      exact yields_pure fun _ hnodes hn => hnodes.cons hn

theorem yields_compileBranches (ih : Sound settings fuel) (c : Context) (name : String)
    (v : Value) :
    Yields settings (compileBranches settings (fuel + 1) c name v) fun s nodes =>
      ∃ schema schemas, v = .array (schema :: schemas) ∧
        CompiledItems settings s c 0 (schema :: schemas) nodes := by
  unfold compileBranches
  split
  · rename_i schema schemas
    refine (ih.items c 0 (schema :: schemas)).mono ?_
    intro s nodes hnodes
    exact ⟨schema, schemas, rfl, hnodes⟩
  · exact yields_throw

/-! ## Members -/

theorem yields_reference (ih : Sound settings fuel) {c : Context}
    {members : List (String × Value)} {name : String} {v : Value}
    (h : Keyword.ofName? name = some .ref) :
    Yields settings (compileMember settings (fuel + 1) c members name v) fun s n =>
      CompiledMember settings s c members name v n := by
  simp only [compileMember, h]
  refine yields_bind yields_orInvalid fun reference => ⟨?_, ?_⟩
  · exact evolving_bind evolving_follow fun t =>
      evolving_bind (ih.evolving_target t) fun _ => evolving_pure
  intro s n s' hr hrun
  obtain ⟨t, mid, hfollow, hrun⟩ := runs_bind.mp hrun
  obtain ⟨slot, last, htarget, hpure⟩ := runs_bind.mp hrun
  obtain ⟨rfl, rfl⟩ := runs_pure.mp hpure
  obtain ⟨hresolve, hslots⟩ := resolve_of_runs_follow hfollow
  have hevolves := Registry.evolves_resolve (r := s.registry) settings.retriever c.base reference
  obtain ⟨hist, hleads⟩ := Registry.leads_of_resolve hr hresolve
  rw [show s.registry.resolve settings.retriever c.base reference = _ from hresolve] at hevolves
  obtain ⟨hextends, hplace⟩ := ih.target t mid slot last (hevolves.wellIndexed hr) hist htarget
  refine ⟨(Extends.of_evolves hevolves hslots).trans hextends, ?_⟩
  intro final hfinal hreference
  rw [eq_string_of_readString hreference]
  exact .reference h (hleads _ (hextends.before.registry.trans hfinal.registry))
    (getElem?_mono hfinal.places hplace)

theorem yields_pattern {c : Context} {members : List (String × Value)} {name : String} {v : Value}
    (h : Keyword.ofName? name = some .pattern) :
    Yields settings (compileMember settings (fuel + 1) c members name v) fun s n =>
      CompiledMember settings s c members name v n := by
  simp only [compileMember, h]
  refine yields_map (yields_bind yields_orInvalid fun source => ?_)
  cases hregex : Regex.parse? source with
  | none => exact yields_throw
  | some regex =>
      refine yields_pure fun s hsource => ?_
      rw [eq_string_of_readString hsource]
      exact .pattern h hregex

theorem yields_condition (ih : Sound settings fuel) {c : Context}
    {members : List (String × Value)} {name : String} {v : Value}
    (h : Keyword.ofName? name = some .condition) :
    Yields settings (compileMember settings (fuel + 1) c members name v) fun s n =>
      CompiledMember settings s c members name v n := by
  simp only [compileMember, h]
  refine yields_bind (ih.compile (c.key name) v) fun condition => ?_
  refine yields_bind (ih.branch c members "then") fun met => ?_
  refine yields_bind (ih.branch c members "else") fun unmet => ?_
  refine yields_pure fun s ⟨hunmet, hunmetNode⟩ ⟨hmet, hmetNode⟩ hcondition => ?_
  split
  · rename_i hnone
    obtain ⟨rfl, rfl⟩ : met = none ∧ unmet = none := by simpa using hnone
    exact .idleCondition h hcondition (Option.not_isSome_iff_eq_none.mp (by simp [hmet]))
      (Option.not_isSome_iff_eq_none.mp (by simp [hunmet]))
  · rename_i hsome
    refine .conditional h hcondition hmet hmetNode hunmet hunmetNode ?_
    cases met with
    | some _ => exact .inl rfl
    | none =>
        cases unmet with
        | some _ => exact .inr rfl
        | none => exact absurd ⟨rfl, rfl⟩ hsome

theorem yields_properties (ih : Sound settings fuel) {c : Context}
    {members : List (String × Value)} {name : String} {v : Value}
    (h : Keyword.ofName? name = some .properties) :
    Yields settings (compileMember settings (fuel + 1) c members name v) fun s n =>
      CompiledMember settings s c members name v n := by
  simp only [compileMember, h]
  split
  · rename_i schemas
    have hschema : ∀ p : String × Value, Yields settings (do
        return (p.1, ← compile settings fuel ((c.key name).key p.1) p.2)) fun s n =>
        p.1 = n.1 ∧ Compiled settings s ((c.key name).key p.1) p.2 n.2 := fun p =>
      yields_bind (ih.compile ((c.key name).key p.1) p.2) fun n => yields_pure fun _ hn => ⟨rfl, hn⟩
    refine yields_bind (yields_mapM hschema) fun nodes => yields_pure fun s hnodes => ?_
    have hnames : schemas.map Prod.fst = nodes.map Prod.fst := by
      induction hnodes with
      | nil => rfl
      | cons hp _ ihnodes => simp [hp.1, ihnodes]
    exact .properties h hnames fun _ hp => ((List.forall₂_iff_zip.mp hnodes).2 hp).2
  · exact yields_throw

theorem yields_items (ih : Sound settings fuel) {c : Context}
    {members : List (String × Value)} {name : String} {v : Value}
    (h : Keyword.ofName? name = some .items) :
    Yields settings (compileMember settings (fuel + 1) c members name v) fun s n =>
      CompiledMember settings s c members name v n := by
  simp only [compileMember, h]
  cases v with
  | array schemas =>
      refine yields_map (yields_map ((ih.items (c.key name) 0 schemas).mono
        fun s nodes hnodes => ?_))
      refine .positionalItems h hnodes.1 fun i schema n hschema hn => ?_
      simpa using hnodes.2 i schema n hschema hn
  | bool b =>
      refine yields_map (yields_map ((ih.compile (c.key name) (.bool b)).mono fun s n hn => ?_))
      exact .uniformItems h (by simp) hn
  | object schema =>
      refine yields_map (yields_map ((ih.compile (c.key name) (.object schema)).mono
        fun s n hn => ?_))
      exact .uniformItems h (by simp) hn
  | _ => exact yields_throw

/-- Branches are compiled alike, whatever is made of them. -/
theorem yields_branches (ih : Sound settings fuel) {c : Context}
    {members : List (String × Value)} {name : String} {v : Value} {combined : List Node → Node}
    (h : ∀ {s schema schemas nodes}, (schema :: schemas).length = nodes.length →
      (∀ (i : Nat) branch n, (schema :: schemas)[i]? = some branch → nodes[i]? = some n →
        Compiled settings s ((c.key name).index i) branch n) →
          CompiledMember settings s c members name (.array (schema :: schemas))
          (some (combined nodes))) :
    Yields settings (some <$> combined <$> compileBranches settings fuel (c.key name) name v)
      fun s n => CompiledMember settings s c members name v n := by
  refine yields_map (yields_map ((ih.branches (c.key name) name v).mono ?_))
  rintro s nodes ⟨schema, schemas, rfl, hnodes⟩
  refine h hnodes.1 fun i branch n hbranch hn => ?_
  simpa using hnodes.2 i branch n hbranch hn

theorem yields_compileMember (ih : Sound settings fuel) (c : Context)
    (members : List (String × Value)) (name : String) (v : Value) :
    Yields settings (compileMember settings (fuel + 1) c members name v) fun s n =>
      CompiledMember settings s c members name v n := by
  cases h : Keyword.ofName? name with
  | none =>
      simp only [compileMember, h]
      split
      · exact yields_throw
      · rename_i hstrict
        exact yields_pure fun _ => .unknown h (by simpa using hstrict)
  | some k =>
      cases k with
      | informative =>
          simp only [compileMember, h]
          exact yields_pure fun _ => .informative h
      | ref => exact yields_reference ih h
      | pattern => exact yields_pattern h
      | condition => exact yields_condition ih h
      | properties => exact yields_properties ih h
      | items => exact yields_items ih h
      | branch met =>
          simp only [compileMember, h]
          split
          · rename_i hnone
            refine yields_bind (ih.compile (c.key name) v) fun n => yields_pure fun s hn => ?_
            exact .idleBranch h (by simpa using hnone) hn
          · rename_i hsome
            exact yields_pure fun _ => .branch h (by simpa [Option.isSome_iff_ne_none] using hsome)
      | required =>
          simp only [compileMember, h]
          exact yields_bind yields_orInvalid fun names => yields_pure fun _ hnames =>
            .required h hnames
      | not =>
          simp only [compileMember, h]
          exact yields_map (yields_map ((ih.compile (c.key name) v).mono fun _ _ hn => .not h hn))
      | allOf =>
          simp only [compileMember, h]
          exact yields_branches ih fun hlength hnodes => .allOf h hlength hnodes
      | anyOf =>
          simp only [compileMember, h]
          exact yields_branches ih fun hlength hnodes => .anyOf h hlength hnodes
      | oneOf =>
          simp only [compileMember, h]
          exact yields_branches ih fun hlength hnodes => .oneOf h hlength hnodes
      | _ =>
          simp only [compileMember, h]
          exact yields_bind yields_orInvalid fun check => yields_pure fun _ hcheck =>
            .check h rfl hcheck

/-! ## Slots -/

theorem place_of_slotOf? {s : State} {place : Place} {i : Nat} (h : s.slotOf? place = some i) :
    s.places[i]? = some place := by
  obtain ⟨hi, hplace, -⟩ := List.findIdx?_eq_some_iff_getElem.mp h
  rw [State.places, List.getElem?_map, List.getElem?_eq_getElem hi]
  simpa using hplace

theorem not_mem_of_slotOf? {s : State} {place : Place} (h : s.slotOf? place = none) :
    place ∉ s.places := by
  intro hmem
  obtain ⟨slot, hslot, rfl⟩ := List.mem_map.mp hmem
  simpa using List.findIdx?_eq_none_iff.mp h slot hslot

/-- A target without a slot is compiled into the next one. Slots that are taken on the way come
after it. -/
theorem exists_node_of_new (ih : Sound settings fuel) {t : Target} {s s' : State} {slot : Nat}
    (hr : s.registry.WellIndexed) (hnew : s.slotOf? t.place = none)
    (h : Runs (compileTarget settings (fuel + 1) t) s slot s') :
    slot = s.slots.length ∧ Registry.Evolves s.registry s'.registry ∧
    (s.places.Nodup → s'.places.Nodup) ∧ ∃ node rest,
      s'.slots = s.slots ++ ⟨t.place, some node⟩ :: rest ∧
      (∀ final, s'.Before final → Compiled settings final (targetContext t) t.contents node) ∧
      ∀ slot ∈ rest, Filled settings s' slot := by
  obtain ⟨_, _, hget, h⟩ := runs_bind.mp h
  obtain ⟨rfl, rfl⟩ := runs_get.mp hget
  simp only [show s.slotOf? ⟨t.document, t.pointer⟩ = none from hnew] at h
  obtain ⟨i, taken, htake, h⟩ := runs_bind.mp h
  obtain ⟨rfl, rfl⟩ := runs_takeSlot.mp htake
  obtain ⟨node, mid, hcompile, h⟩ := runs_bind.mp h
  obtain ⟨_, filled, hfill, h⟩ := runs_bind.mp h
  obtain rfl := runs_fillSlot.mp hfill
  obtain ⟨rfl, rfl⟩ := runs_pure.mp h
  obtain ⟨hextends, hnode⟩ := (ih.compile ⟨t.place, t.base⟩ t.contents).result
    { s with slots := s.slots ++ [⟨t.place, none⟩] } node mid hr hcompile
  obtain ⟨rest, hrest, hfilled⟩ := hextends.slots
  have hmid : mid.slots = s.slots ++ ⟨t.place, none⟩ :: rest := by simpa using hrest
  have hslots : mid.slots.modify s.slots.length (fun slot => { slot with node := some node }) =
      s.slots ++ ⟨t.place, some node⟩ :: rest := by
    rw [hmid, modify_length_append]
  have hbefore : mid.Before ⟨mid.registry, s.slots ++ ⟨t.place, some node⟩ :: rest⟩ :=
    ⟨.refl _, by simp [State.places, hmid]⟩
  have htaken : s.places.Nodup →
      (State.places { s with slots := s.slots ++ [⟨t.place, none⟩] }).Nodup := by
    simpa [State.places, List.nodup_append] using
      fun hs => ⟨hs, fun slot hslot heq =>
        not_mem_of_slotOf? hnew (List.mem_map.mpr ⟨slot, hslot, heq⟩)⟩
  have hplaces : State.places ⟨mid.registry, s.slots ++ ⟨t.place, some node⟩ :: rest⟩ =
      mid.places := by simp [State.places, hmid]
  rw [hslots, hplaces]
  exact ⟨rfl, hextends.evolves, fun hs => hextends.distinct (htaken hs), node, rest, rfl,
    fun final hf => hnode final (hbefore.trans hf),
    fun slot hslot => (hfilled slot hslot).before hbefore⟩

theorem evolving_compileTarget (ih : Sound settings fuel) (t : Target) :
    Evolving (compileTarget settings (fuel + 1) t) := by
  refine evolving_bind (fun _ => .refl) fun s => ?_
  split
  · exact evolving_pure
  · refine evolving_bind (fun _ => .refl) fun slot => ?_
    refine evolving_bind (ih.compile _ _).evolving fun node => ?_
    exact evolving_bind (fun _ => .refl) fun _ => evolving_pure

theorem target_of_sound (ih : Sound settings fuel) {t : Target} {s s' : State} {slot : Nat}
    (hr : s.registry.WellIndexed) (ht : s.registry.IsTarget t)
    (h : Runs (compileTarget settings (fuel + 1) t) s slot s') :
    Extends settings s s' ∧ s'.places[slot]? = some t.place := by
  cases hslot : s.slotOf? t.place with
  | some i =>
      obtain ⟨_, _, hget, h⟩ := runs_bind.mp h
      obtain ⟨rfl, rfl⟩ := runs_get.mp hget
      simp only [show s.slotOf? ⟨t.document, t.pointer⟩ = some i from hslot] at h
      obtain ⟨rfl, rfl⟩ := runs_pure.mp h
      exact ⟨.refl s, place_of_slotOf? hslot⟩
  | none =>
      obtain ⟨rfl, hevolves, hdistinct, node, rest, hslots, hnode, hrest⟩ :=
        exists_node_of_new ih hr hslot h
      have hfilled : Filled settings s' ⟨t.place, some node⟩ :=
        ⟨t, node, rfl, ht.grows hevolves.grows, hnode⟩
      exact ⟨⟨hevolves, ⟨_, hslots, List.forall_mem_cons.mpr ⟨hfilled, hrest⟩⟩, hdistinct⟩, by
        simp [State.places, hslots]⟩

theorem sound (settings : Settings) (fuel : Nat) : Sound settings fuel := by
  induction fuel with
  | zero =>
      exact {
        compile := fun _ _ => yields_throw
        member := fun _ _ _ _ => yields_throw
        branch := fun _ _ _ => yields_throw
        branches := fun _ _ _ => yields_throw
        items := fun c i vs => by
          cases vs with
          | nil => exact yields_pure fun _ => ⟨rfl, by simp⟩
          | cons _ _ => exact yields_throw
        evolving_target := fun _ => evolving_throw
        target := fun _ _ _ _ _ _ h => absurd h runs_throw }
  | succ fuel ih =>
      exact {
        compile := yields_compile ih
        member := yields_compileMember ih
        branch := yields_compileBranch ih
        branches := yields_compileBranches ih
        items := yields_compileItems ih
        evolving_target := evolving_compileTarget ih
        target := fun _ _ _ _ => target_of_sound ih }

end JsonSchema.Compile
