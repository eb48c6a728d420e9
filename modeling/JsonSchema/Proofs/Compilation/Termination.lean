import JsonSchema.Proofs.Compilation.Build
import JsonSchema.Proofs.Compilation.Parallel
import JsonSchema.Proofs.Registry.Kept
import JsonSchema.Proofs.Value.Paths

/-!
# Compilation comes to an end

A reference may lead anywhere, also back, and into documents that are only then loaded. But every
slot is taken for another position of a document that is kept or can be had, and between two slots
compilation only descends. So with the number of free positions first, and the size of what is being
compiled second, the work that is left gets less with every step.
-/

namespace JsonSchema

/-! ## Positions of documents -/

/-- The number of positions in documents. -/
def positionsOf : List (Url × Value) → Nat
  | [] => 0
  | d :: documents => d.2.positions + positionsOf documents

/-- The places of documents, one for each position. -/
def placesOf (documents : List (Url × Value)) : List Place :=
  documents.flatMap fun d => d.2.paths.map fun path => ⟨d.1, ⟨path⟩⟩

theorem length_placesOf (documents : List (Url × Value)) :
    (placesOf documents).length = positionsOf documents := by
  induction documents with
  | nil => rfl
  | cons d documents ih =>
      rw [positionsOf, ← ih, placesOf, List.flatMap_cons, List.length_append, List.length_map,
        Value.length_paths]
      rfl

theorem positions_le_positionsOf {documents : List (Url × Value)} {d : Url × Value}
    (h : d ∈ documents) : d.2.positions ≤ positionsOf documents := by
  induction documents with
  | nil => simp at h
  | cons e documents ih =>
      rw [positionsOf]
      rcases List.mem_cons.mp h with rfl | h
      · omega
      · have := ih h
        omega

/-- The documents that are kept, under their own URLs. -/
def Registry.contents (r : Registry) : List (Url × Value) :=
  r.documents.map fun d => (d.uri, d.contents)

/-- A retriever has no documents but some that are listed. -/
def Retriever.Among (f : Retriever) (documents : List (Url × Value)) : Prop :=
  ∀ uri contents, f.find? uri = some contents → (uri, contents) ∈ documents

theorem Store.among {s : Store} {documents : List (Url × Value)}
    (h : ∀ d ∈ s.documents, d ∈ documents) : s.retriever.Among documents :=
  fun _ _ hfind => h _ (mem_of_lookup hfind)

/-- The documents that are kept or can be had. -/
def Registry.available (r : Registry) (store : Store) : List (Url × Value) :=
  r.contents ++ store.documents

namespace Registry.Stands

variable {r : Registry} {documents : List (Url × Value)} {place : Place} {v : Value}

theorem mem_placesOf (h : r.Stands place v) (hr : ∀ d ∈ r.contents, d ∈ documents) :
    place ∈ placesOf documents := by
  obtain ⟨d, hd, huri, hat⟩ := h
  have hmem : (d.uri, d.contents) ∈ documents := hr _ (List.mem_map_of_mem hd)
  have hpath : place.pointer.tokens ∈ d.contents.paths := Value.mem_paths_of_follow? hat
  exact List.mem_flatMap.mpr ⟨_, hmem, List.mem_map.mpr ⟨_, hpath, by rw [huri]⟩⟩

theorem positions_le (h : r.Stands place v) (hr : ∀ d ∈ r.contents, d ∈ documents) :
    v.positions ≤ positionsOf documents := by
  obtain ⟨d, hd, -, hat⟩ := h
  have hmem : (d.uri, d.contents) ∈ documents := hr _ (List.mem_map_of_mem hd)
  exact (Value.positions_le_of_follow? hat).trans (positions_le_positionsOf hmem)

end Registry.Stands

theorem Registry.mem_contents_resolve {r : Registry} {retriever : Retriever}
    {documents : List (Url × Value)} (base : Url) (reference : String)
    (hr : ∀ d ∈ r.contents, d ∈ documents) (hamong : retriever.Among documents) :
    ∀ d ∈ (r.resolve retriever base reference).2.contents, d ∈ documents := by
  have hall := Registry.forall_resolve (P := fun d => (d.uri, d.contents) ∈ documents)
    base reference (fun d hd => hr _ (List.mem_map_of_mem hd)) hamong
  exact List.forall_mem_map.mpr hall

namespace Compile

variable {α β : Type} {settings : Settings} {documents : List (Url × Value)}

/-! ## Slots at positions -/

/-- The slots were taken for different positions of documents that are kept, and all of these are
among some documents, which have no more than so many positions besides. -/
structure Confined (documents : List (Url × Value)) (n : Nat) (s : State) : Prop where
  indexed : s.registry.WellIndexed
  contents : ∀ d ∈ s.registry.contents, d ∈ documents
  distinct : s.places.Nodup
  stands : ∀ place ∈ s.places, ∃ v, s.registry.Stands place v
  room : positionsOf documents ≤ s.places.length + n

/-- There are no more slots than positions. -/
theorem Confined.length_le {n : Nat} {s : State} (h : Confined documents n s) :
    s.places.length ≤ positionsOf s.registry.contents := by
  have hsubset : s.places ⊆ placesOf s.registry.contents := fun place hplace => by
    obtain ⟨v, hv⟩ := h.stands place hplace
    exact hv.mem_placesOf fun _ hd => hd
  rw [← length_placesOf]
  exact (h.distinct.subperm hsubset).length_le

theorem Confined.length_le_documents {n : Nat} {s : State} (h : Confined documents n s) :
    s.places.length ≤ positionsOf documents := by
  have hsubset : s.places ⊆ placesOf documents := fun place hplace => by
    obtain ⟨v, hv⟩ := h.stands place hplace
    exact hv.mem_placesOf h.contents
  rw [← length_placesOf]
  exact (h.distinct.subperm hsubset).length_le

/-- A new slot is taken for one of the positions that are left. -/
theorem Confined.take {n : Nat} {s : State} {place : Place} {v : Value}
    (h : Confined documents n s) (hnew : s.slotOf? place = none)
    (hstands : s.registry.Stands place v) :
    ∃ m, n = m + 1 ∧ Confined documents m (s.take place) := by
  have hdistinct : (s.take place).places.Nodup := by
    rw [State.places_take, List.nodup_append]
    refine ⟨h.distinct, List.nodup_singleton place, ?_⟩
    rintro taken htaken _ hplace rfl
    exact not_mem_of_slotOf? hnew (List.mem_singleton.mp hplace ▸ htaken)
  have hplaces : ∀ p ∈ (s.take place).places, ∃ v, s.registry.Stands p v := by
    rw [State.places_take]
    intro p hp
    rcases List.mem_append.mp hp with hp | hp
    · exact h.stands p hp
    · exact ⟨v, List.mem_singleton.mp hp ▸ hstands⟩
  have hlength : (s.take place).places.length = s.places.length + 1 := by simp
  have htaken (m : Nat) (hroom : positionsOf documents ≤ (s.take place).places.length + m) :
      Confined documents m (s.take place) :=
    ⟨h.indexed, h.contents, hdistinct, hplaces, hroom⟩
  have hle := (htaken _ (Nat.le_add_left _ _)).length_le_documents
  have hroom := h.room
  exact ⟨n - 1, by omega, htaken (n - 1) (by omega)⟩

theorem Confined.mono {n m : Nat} {s : State} (h : Confined documents n s) (hnm : n ≤ m) :
    Confined documents m s :=
  ⟨h.indexed, h.contents, h.distinct, h.stands, h.room.trans (by omega)⟩

theorem Confined.fill {n : Nat} {s : State} (h : Confined documents n s) (i : Nat) (node : Node) :
    Confined documents n (s.fill i node) := by
  refine ⟨h.indexed, h.contents, ?_, ?_, ?_⟩
  · simpa using h.distinct
  · simpa using h.stands
  · simpa using h.room

theorem Confined.resolve {n : Nat} {s : State} {retriever : Retriever}
    (h : Confined documents n s) (hamong : retriever.Among documents) (base : Url)
    (reference : String) :
    Confined documents n
      { s with registry := (s.registry.resolve retriever base reference).2 } := by
  have hevolves := Registry.evolves_resolve (r := s.registry) retriever base reference
  exact {
    indexed := hevolves.wellIndexed h.indexed
    contents := Registry.mem_contents_resolve base reference h.contents hamong
    distinct := h.distinct
    stands := fun place hplace => (h.stands place hplace).imp fun _ hv => hv.grows hevolves.grows
    room := h.room }

/-! ## Computations with steps to spare -/

/-- A computation does not run out of steps, and leaves slots at positions. -/
def EndsAt (documents : List (Url × Value)) (n : Nat) (s : State) (x : Compilation α) : Prop :=
  ¬RanOut (outcome x s) ∧ Confined documents n (outcome x s).2

/-- So it does wherever no more positions than these are left. -/
def Ends (documents : List (Url × Value)) (n : Nat) (x : Compilation α) : Prop :=
  ∀ s, Confined documents n s → EndsAt documents n s x

variable {n : Nat}

theorem ends_pure (a : α) : Ends documents n (pure a) := fun s hs => ⟨not_ranOut_ok a s, hs⟩

theorem ends_throw {e : CompileError} (he : ∀ document, e ≠ missingTarget document) :
    Ends documents n (throw e : Compilation α) := by
  refine fun s hs => ⟨?_, hs⟩
  rintro ⟨document, h⟩
  exact he document (Except.error.inj h)

theorem EndsAt.bind {s : State} {x : Compilation α} {f : α → Compilation β}
    (hx : EndsAt documents n s x) (hf : ∀ a, Ends documents n (f a)) :
    EndsAt documents n s (x >>= f) := by
  obtain ⟨hran, hconfined⟩ := hx
  rw [EndsAt, outcome_bind]
  rcases hrun : outcome x s with ⟨e | a, s'⟩ <;> rw [hrun] at hran hconfined
  · exact ⟨mt RanOut.of_error hran, hconfined⟩
  · exact hf a s' hconfined

theorem ends_bind {x : Compilation α} {f : α → Compilation β} (hx : Ends documents n x)
    (hf : ∀ a, Ends documents n (f a)) : Ends documents n (x >>= f) :=
  fun s hs => (hx s hs).bind hf

theorem ends_map {x : Compilation α} (f : α → β) (hx : Ends documents n x) :
    Ends documents n (f <$> x) := by
  rw [map_eq_pure_bind]
  exact ends_bind hx fun a => ends_pure (f a)

theorem ends_mapM {l : List α} {f : α → Compilation β} (h : ∀ a ∈ l, Ends documents n (f a)) :
    Ends documents n (l.mapM f) := by
  induction l with
  | nil => exact ends_pure []
  | cons a l ih =>
      rw [List.mapM_cons]
      refine ends_bind (h a List.mem_cons_self) fun b => ?_
      exact ends_bind (ih fun a ha => h a (List.mem_cons_of_mem _ ha)) fun bs => ends_pure (b :: bs)

/-- The error of steps that have run out is at the root of a document, and that of a keyword is
not. -/
theorem invalid_key_ne (c : Context) (name keyword : String) (fault : KeywordFault)
    (document : Url) : (c.key name).invalid keyword fault ≠ missingTarget document := by
  intro h
  have hpointer : c.place.pointer.key name = .root := by
    simp only [Context.invalid, missingTarget, CompileError.schema.injEq,
      SchemaError.invalidKeyword.injEq] at h
    exact congrArg SchemaLocation.pointer h.1
  simpa [Pointer.key, Pointer.root] using congrArg Pointer.tokens hpointer

theorem ends_orInvalid (c : Context) (name keyword : String) (r : Except KeywordFault α) :
    Ends documents n (orInvalid (c.key name) keyword r) := by
  cases r with
  | ok a => exact ends_pure a
  | error fault => exact ends_throw (invalid_key_ne c name keyword fault)

theorem ends_inside (c : Context) (members : List (String × Value)) :
    Ends documents n (MonadExcept.ofExcept (c.inside members) : Compilation Context) := by
  unfold Context.inside
  split
  · exact ends_pure c
  · split
    · exact ends_pure c
    · split
      · exact ends_pure _
      · exact ends_throw (invalid_key_ne c _ _ _)
  · exact ends_throw (invalid_key_ne c _ _ _)

theorem ends_readPattern (c : Context) (name : String) (v : Value) :
    Ends documents n (readPattern (c.key name) v) := by
  unfold readPattern
  refine ends_bind (ends_orInvalid c name _ _) fun source => ?_
  cases Regex.parse? source with
  | none => exact ends_throw fun _ => by simp [missingTarget]
  | some regex => exact ends_pure _

/-- After a reference is followed, its target stands at a place. -/
theorem ends_follow (hamong : settings.retriever.Among documents) (base : Url)
    (reference : String) {f : Target → Compilation β}
    (hf : ∀ t s, Confined documents n s → s.registry.Stands t.place t.contents →
      EndsAt documents n s (f t)) : Ends documents n (follow settings base reference >>= f) := by
  intro s hs
  have hconfined := hs.resolve hamong base reference
  rw [EndsAt, outcome_bind, outcome_follow]
  rcases hresolve : s.registry.resolve settings.retriever base reference with ⟨e | t, r'⟩ <;>
    rw [hresolve] at hconfined
  · exact ⟨by rintro ⟨_, ⟨⟩⟩, hconfined⟩
  · refine hf t _ hconfined ?_
    obtain ⟨-, hleads⟩ := Registry.leads_of_resolve hs.indexed hresolve
    exact Registry.stands_of_leads hconfined.indexed (hleads r' (.refl r'))

theorem endsAt_slotted {s : State} (hs : Confined documents n s) {place : Place} {v : Value}
    (hstands : s.registry.Stands place v) {x : Compilation Node}
    (hx : ∀ m, n = m + 1 → Ends documents m x) : EndsAt documents n s (slotted place x) := by
  rw [EndsAt, outcome_slotted]
  cases hslot : s.slotOf? place with
  | some slot => exact ⟨not_ranOut_ok slot s, hs⟩
  | none =>
      obtain ⟨m, rfl, htaken⟩ := hs.take hslot hstands
      obtain ⟨hran, hconfined⟩ := hx m rfl _ htaken
      rcases hrun : outcome x (s.take place) with ⟨e | node, s'⟩ <;> rw [hrun] at hran hconfined
      · exact ⟨mt RanOut.of_error hran, hconfined.mono (Nat.le_succ m)⟩
      · exact ⟨not_ranOut_ok _ _, (hconfined.fill s.slots.length node).mono (Nat.le_succ m)⟩

/-! ## How many steps suffice -/

/-- The steps that suffice for the functions that compile: some for each position of what is being
compiled, and for each position that may still get a slot as many as its contents may take. -/
structure Enough (settings : Settings) (documents : List (Url × Value)) (most fuel : Nat) :
    Prop where
  compile : ∀ n c v, 4 * v.positions + n * (4 * most) ≤ fuel →
    Ends documents n (compile settings fuel c v)
  member : ∀ n c members name v, (name, v) ∈ members →
    4 * Value.memberPositions members + 3 + n * (4 * most) ≤ fuel →
      Ends documents n (compileMember settings fuel c members name v)
  branch : ∀ n c members name, 4 * Value.memberPositions members + 1 + n * (4 * most) ≤ fuel →
    Ends documents n (compileBranch settings fuel c members name)
  branches : ∀ n c name v, 4 * v.positions + n * (4 * most) ≤ fuel →
    Ends documents n (compileBranches settings fuel c name v)
  items : ∀ n c i vs, 4 * Value.itemPositions vs + 1 + n * (4 * most) ≤ fuel →
    Ends documents n (compileItems settings fuel c i vs)
  target : ∀ n t s, Confined documents n s → (∃ v, s.registry.Stands t.place v) →
    t.contents.positions ≤ most → 1 + n * (4 * most) ≤ fuel →
      EndsAt documents n s (compileTarget settings fuel t)

variable {most fuel : Nat}

theorem enough_zero : Enough settings documents most 0 where
  compile n c v h := by
    have := v.one_le_positions
    omega
  member n c members name v _ h := by omega
  branch n c members name h := by omega
  branches n c name v h := by
    have := v.one_le_positions
    omega
  items n c i vs h := by omega
  target n t s _ _ _ h := by omega

namespace Enough

theorem compile_succ (ih : Enough settings documents most fuel) (n : Nat) (c : Context) (v : Value)
    (h : 4 * v.positions + n * (4 * most) ≤ fuel + 1) :
    Ends documents n (Compile.compile settings (fuel + 1) c v) := by
  cases v with
  | bool b => exact ends_pure _
  | object members =>
      rw [Value.positions] at h
      refine ends_bind (ends_inside c members) fun inner => ?_
      have hmembers := ends_mapM (l := members) (f := fun m =>
        compileMember settings fuel inner members m.1 m.2) fun m hm =>
          ih.member n inner members m.1 m.2 hm (by omega)
      have hnodes := ends_bind hmembers fun nodes =>
        ends_pure (Node.keywords inner.location (nodes.filterMap id))
      dsimp only
      split
      · exact hnodes
      · exact hnodes
      · exact ends_bind (ends_throw (invalid_key_ne _ _ _ _)) fun _ => hnodes
  | _ => exact ends_throw fun _ => by simp [missingTarget]

theorem member_succ (hamong : settings.retriever.Among documents)
    (hmost : positionsOf documents ≤ most) (ih : Enough settings documents most fuel) (n : Nat)
    (c : Context) (members : List (String × Value)) (name : String) (v : Value)
    (hmem : (name, v) ∈ members)
    (h : 4 * Value.memberPositions members + 3 + n * (4 * most) ≤ fuel + 1) :
    Ends documents n (compileMember settings (fuel + 1) c members name v) := by
  have hv := Value.positions_le_of_mem_members hmem
  have hcompile := ih.compile n (c.key name) v (by omega)
  have hbranches := ih.branches n (c.key name) name v (by omega)
  have hbranch (name : String) := ih.branch n c members name (by omega)
  cases hname : Keyword.ofName? name with
  | none =>
      simp only [compileMember, hname]
      split
      · exact ends_throw fun _ => by simp [missingTarget]
      · exact ends_pure none
  | some k =>
      cases k with
      | informative =>
          simp only [compileMember, hname]
          exact ends_pure none
      | ref =>
          simp only [compileMember, hname]
          refine ends_bind (ends_orInvalid _ _ _ _) fun reference => ?_
          refine ends_follow hamong _ reference fun t s hs hstands => ?_
          have htarget := ih.target n t s hs ⟨_, hstands⟩
            ((hstands.positions_le hs.contents).trans hmost) (by omega)
          exact htarget.bind fun slot => ends_pure _
      | pattern =>
          simp only [compileMember, hname]
          exact ends_map _ (ends_readPattern _ _ _)
      | required =>
          simp only [compileMember, hname]
          exact ends_bind (ends_orInvalid _ _ _ _) fun names => ends_pure _
      | properties =>
          simp only [compileMember, hname]
          cases v with
          | object schemas =>
              rw [Value.positions] at hv
              refine ends_bind (ends_mapM fun p hp => ?_) fun nodes => ends_pure _
              have hle : p.2.positions ≤ Value.memberPositions schemas :=
                Value.positions_le_of_mem_members hp
              exact ends_bind (ih.compile n _ p.2 (by omega)) fun node => ends_pure (p.1, node)
          | _ => exact ends_throw (invalid_key_ne _ _ _ _)
      | items =>
          simp only [compileMember, hname]
          cases v with
          | array schemas =>
              rw [Value.positions] at hv
              exact ends_map _ (ends_map _ (ih.items n _ 0 schemas (by omega)))
          | bool b => exact ends_map _ (ends_map _ hcompile)
          | object schema => exact ends_map _ (ends_map _ hcompile)
          | _ => exact ends_throw (invalid_key_ne _ _ _ _)
      | allOf | anyOf | oneOf =>
          simp only [compileMember, hname]
          exact ends_map _ (ends_map _ hbranches)
      | not =>
          simp only [compileMember, hname]
          exact ends_map _ (ends_map _ hcompile)
      | condition =>
          simp only [compileMember, hname]
          refine ends_bind hcompile fun condition => ?_
          refine ends_bind (hbranch "then") fun met => ?_
          exact ends_bind (hbranch "else") fun unmet => ends_pure _
      | branch met =>
          simp only [compileMember, hname]
          split
          · exact ends_bind hcompile fun _ => ends_pure none
          · exact ends_pure none
      | _ =>
          simp only [compileMember, hname]
          exact ends_bind (ends_orInvalid _ _ _ _) fun check => ends_pure _

theorem succ (hamong : settings.retriever.Among documents)
    (hmost : positionsOf documents ≤ most) (ih : Enough settings documents most fuel) :
    Enough settings documents most (fuel + 1) where
  compile := ih.compile_succ
  member := ih.member_succ hamong hmost
  branch n c members name h := by
    simp only [compileBranch]
    cases hlookup : members.lookup name with
    | none => exact ends_pure none
    | some v =>
        have hv := Value.positions_le_of_mem_members (mem_of_lookup hlookup)
        exact ends_map some (ih.compile n (c.key name) v (by omega))
  branches n c name v h := by
    unfold compileBranches
    split
    · rw [Value.positions] at h
      exact ih.items n c 0 _ (by omega)
    · exact ends_throw fun _ => by simp [Context.invalid, missingTarget]
  items n c i vs h := by
    cases vs with
    | nil => exact ends_pure []
    | cons v rest =>
        rw [Value.itemPositions] at h
        have hv := v.one_le_positions
        refine ends_bind (ih.compile n (c.index i) v (by omega)) fun node => ?_
        exact ends_bind (ih.items n c (i + 1) rest (by omega)) fun nodes =>
          ends_pure (node :: nodes)
  target n t s hs hstands hcontents h := by
    obtain ⟨w, hw⟩ := hstands
    rw [compileTarget_succ]
    refine endsAt_slotted hs hw fun m hm => ih.compile m (targetContext t) t.contents ?_
    subst hm
    rw [Nat.add_one_mul] at h
    omega

end Enough

theorem enough (hamong : settings.retriever.Among documents)
    (hmost : positionsOf documents ≤ most) (fuel : Nat) : Enough settings documents most fuel := by
  induction fuel with
  | zero => exact enough_zero
  | succ fuel ih => exact ih.succ hamong hmost

/-! ## Calls -/

/-- Slots that were taken stay, whatever comes of a computation. -/
theorem respected_places (settings : Settings) :
    Respected settings settings.retriever fun x _ => ∀ s, s.places <+: (outcome x s).2.places where
  value _ _ := List.prefix_refl _
  error _ _ := List.prefix_refl _
  bind {_ _ x _ f _} hx hf s := by
    have hs := hx s
    rw [outcome_bind]
    rcases hrun : outcome x s with ⟨e | a, s'⟩ <;> rw [hrun] at hs
    · exact hs
    · exact hs.trans (hf a s')
  follow base reference s := by
    rw [outcome_follow]
    exact List.prefix_refl _
  slotted place {x _} hx s := by
    rw [outcome_slotted]
    split
    · exact List.prefix_refl _
    · have hs := hx (s.take place)
      rw [State.places_take] at hs
      have htaken := (List.prefix_append s.places [place]).trans hs
      split <;> rename_i hrun <;> rw [hrun] at htaken
      · simpa using htaken
      · exact htaken
  ended _ _ _ := List.prefix_refl _

/-- A target that has a slot is not compiled again, and any other gets the next slot before its
contents are compiled. -/
theorem compileTarget_cases (settings : Settings) (fuel : Nat) (t : Target) (s : State) :
    (∃ slot : Nat, s.places[slot]? = some t.place ∧
      outcome (compileTarget settings (fuel + 1) t) s = (.ok slot, s)) ∨
    t.place ∉ s.places ∧
      s.places ++ [t.place] <+: (outcome (compileTarget settings (fuel + 1) t) s).2.places := by
  rw [compileTarget_succ, outcome_slotted]
  cases hslot : s.slotOf? t.place with
  | some slot => exact .inl ⟨slot, place_of_slotOf? hslot, rfl⟩
  | none =>
      refine .inr ⟨not_mem_of_slotOf? hslot, ?_⟩
      have htaken := ((sideBySide (respected_places settings) fuel 0).compile
        (targetContext t) t.contents) (s.take t.place)
      rw [State.places_take] at htaken
      dsimp only
      split <;> rename_i hrun <;> rw [hrun] at htaken
      · simpa using htaken
      · exact htaken

end Compile

/-! ## Builds -/

namespace Options

open Compile

variable {r : Registry} {o : Options} {store : Store} {schema : Value}

/-- The target that compilation begins with. -/
def Enters.target (h : Enters o schema r) : Target := ⟨h.uri, .root, o.base, schema⟩

/-- What comes of compilation in as many steps as a build takes. -/
def Enters.outcome (h : Enters o schema r) (store : Store) : Except CompileError Nat × State :=
  h.run store (compileSteps store h.inserted schema)

/-- The documents that are kept when compilation begins, and those that can be had. -/
def Enters.available (h : Enters o schema r) (store : Store) : List (Url × Value) :=
  h.inserted.available store

theorem foldl_positions {α : Type} (f : α → Url × Value) (l : List α) (n : Nat) :
    l.foldl (fun n a => n + (f a).2.positions) n = n + positionsOf (l.map f) := by
  induction l generalizing n with
  | nil => rfl
  | cons a l ih =>
      rw [List.foldl_cons, ih, List.map_cons, positionsOf]
      omega

theorem positionsOf_append (l l' : List (Url × Value)) :
    positionsOf (l ++ l') = positionsOf l + positionsOf l' := by
  induction l with
  | nil => simp [positionsOf]
  | cons d l ih =>
      rw [List.cons_append, positionsOf, positionsOf, ih]
      omega

/-- The steps of a build suffice for its schema and every position that may get a slot. -/
theorem le_compileSteps (store : Store) (r : Registry) (schema : Value) :
    1 + positionsOf (r.available store) *
      (4 * (schema.positions + positionsOf (r.available store))) ≤ compileSteps store r schema := by
  have hknown := foldl_positions (fun d : Document => (d.uri, d.contents)) r.documents
    schema.positions
  have hall := foldl_positions id store.documents
    (schema.positions + positionsOf r.contents)
  rw [List.map_id] at hall
  have hsteps : compileSteps store r schema =
      8 * (schema.positions + positionsOf (r.available store) + 2) *
        (schema.positions + positionsOf (r.available store) + 2) := by
    rw [Registry.available, positionsOf_append, ← Nat.add_assoc, ← hall]
    simp only [compileSteps, hknown]
    rfl
  rw [hsteps]
  generalize positionsOf (r.available store) = available
  have hle : available * (4 * (schema.positions + available)) ≤
      4 * (schema.positions + available) * (schema.positions + available) := by
    rw [Nat.mul_comm]
    exact Nat.mul_le_mul_left _ (Nat.le_add_left _ _)
  nlinarith

/-- Compilation begins with no slots, and every position is left. -/
theorem Enters.confined (h : Enters o schema r) (hr : r.WellIndexed) (store : Store) :
    Confined (h.available store) (positionsOf (h.available store)) ⟨h.inserted, []⟩ where
  indexed := h.evolves_inserted.wellIndexed hr
  contents _ hd := List.mem_append_left _ hd
  distinct := .nil
  stands := nofun
  room := Nat.le_add_left _ _

/-- The document of the schema is kept. -/
theorem Enters.stands_target (h : Enters o schema r) :
    h.inserted.Stands h.target.place h.root.contents := by
  exact ⟨h.root, List.mem_of_find?_eq_some h.find?_root, h.uri_root, rfl⟩

theorem Enters.among_available (h : Enters o schema r) :
    (o.settings store).retriever.Among (h.available store) :=
  Store.among fun _ hd => List.mem_append_right _ hd

theorem Enters.enough (h : Enters o schema r) (store : Store) (fuel : Nat) :
    Enough (o.settings store) (h.available store)
      (schema.positions + positionsOf (h.available store)) fuel :=
  Compile.enough h.among_available (Nat.le_add_left _ _) fuel

/-- With as many steps as a build takes, or with more, compilation comes to its end. -/
theorem Enters.endsAt (h : Enters o schema r) (hr : r.WellIndexed) (store : Store) {fuel : Nat}
    (hfuel : compileSteps store h.inserted schema ≤ fuel) :
    EndsAt (h.available store) (positionsOf (h.available store)) ⟨h.inserted, []⟩
      (compileTarget (o.settings store) fuel h.target) := by
  refine (h.enough store fuel).target _ h.target _ (h.confined hr store) ⟨_, h.stands_target⟩
    (Nat.le_add_right _ _) ?_
  exact (le_compileSteps store h.inserted schema).trans hfuel

/-- How the compilation of a schema ends, whatever cycles its references form. -/
structure Enters.Ending (h : Enters o schema r) (store : Store) : Prop where
  /-- It has steps left, and with more of them nothing else would come of it. -/
  settled : ∀ fuel, compileSteps store h.inserted schema ≤ fuel →
    Compile.outcome (compileTarget (o.settings store) fuel h.target) ⟨h.inserted, []⟩ =
      h.outcome store ∧ ¬RanOut (h.outcome store)
  /-- A call for a target finds its slot, or takes a slot for a place that had none. -/
  called : ∀ fuel t s,
    (∃ slot : Nat, s.places[slot]? = some t.place ∧
      Compile.outcome (compileTarget (o.settings store) (fuel + 1) t) s = (.ok slot, s)) ∨
    t.place ∉ s.places ∧ s.places ++ [t.place] <+:
      (Compile.outcome (compileTarget (o.settings store) (fuel + 1) t) s).2.places
  /-- The place of a target is one of those that documents have, with one path for each
  position. -/
  followed : ∀ n s base reference t s', Confined (h.available store) n s →
    Runs (follow (o.settings store) base reference) s t s' →
      Confined (h.available store) n s' ∧ t.place ∈ placesOf (h.available store)
  /-- Where `n` positions are left, some steps for each position of a schema suffice, and for each
  of the `n` as many as any contents may take. -/
  descends : ∀ fuel n s c v, Confined (h.available store) n s →
    4 * v.positions + n * (4 * (schema.positions + positionsOf (h.available store))) ≤ fuel →
      EndsAt (h.available store) n s (compile (o.settings store) fuel c v)
  /-- So it is in the end: the slots are at different positions of documents that are kept, and
  these are documents that were there before or could be had. -/
  confined : Confined (h.available store) (positionsOf (h.available store)) (h.outcome store).2
  length_le : (h.outcome store).2.slots.length ≤
    positionsOf (h.outcome store).2.registry.contents

theorem Enters.ending (h : Enters o schema r) (hr : r.WellIndexed) (store : Store) :
    h.Ending store := by
  obtain ⟨hran, hconfined⟩ := h.endsAt hr store le_rfl
  constructor
  · intro fuel hfuel
    exact ⟨outcome_compileTarget_of_le hfuel hran, hran⟩
  · exact compileTarget_cases (o.settings store)
  · intro n s base reference t s' hs hrun
    have hlater := hs.resolve h.among_available base reference
    obtain ⟨hresolve, hslots⟩ := resolve_of_runs_follow hrun
    obtain ⟨-, hleads⟩ := Registry.leads_of_resolve hs.indexed hresolve
    rw [hresolve, ← hslots] at hlater
    have hstands := Registry.stands_of_leads hlater.indexed (hleads _ (.refl _))
    exact ⟨hlater, hstands.mem_placesOf hlater.contents⟩
  · intro fuel n s c v hs hfuel
    exact (h.enough store fuel).compile n c v hfuel s hs
  · exact hconfined
  · have hlength := hconfined.length_le
    rwa [State.places, List.length_map] at hlength

theorem Enters.buildIn_of_outcome (h : Enters o schema r) (store : Store) :
    o.buildIn store r schema = match h.outcome store with
      | (.error e, s) => (.error e, s.registry)
      | (.ok _, s) => match s.slots.mapM Slot.node with
        | none => (.error (missingTarget h.uri), s.registry)
        | some slots => match Cycle.find? slots with
          | some l => (.error (.schema (.invalidKeyword l "$ref" .idleCycle)), s.registry)
          | none => (.ok ⟨h.uri, slots⟩, s.registry) :=
  h.buildWith_of_run store _

/-- What a successful build has compiled. -/
theorem Enters.exists_outcome {v : Validator} {r' : Registry} (h : Enters o schema r)
    (hbuild : o.buildIn store r schema = (.ok v, r')) : ∃ slot s,
      h.outcome store = (.ok slot, s) ∧ s.registry = r' ∧
      s.slots.mapM Slot.node = some v.slots ∧ v.document = h.uri ∧ Cycle.find? v.slots = none :=
  h.exists_run hbuild

/-- A build never fails because of a target that was not compiled. -/
theorem buildIn_ne_missingTarget (hr : r.WellIndexed) (o : Options) (store : Store)
    (schema : Value) (document : Url) :
    (o.buildIn store r schema).1 ≠ .error (missingTarget document) := by
  rcases nonempty_enters_or_error o r schema with ⟨⟨h⟩⟩ | ⟨e, r', he⟩
  · rw [h.buildIn_of_outcome]
    obtain ⟨-, hran⟩ := (h.ending hr store).settled _ le_rfl
    rcases hrun : h.outcome store with ⟨e | slot, s⟩
    · exact fun herror => hran ⟨document, by rw [hrun]; exact congrArg _ (Except.error.inj herror)⟩
    · obtain ⟨nodes, hnodes⟩ := h.exists_nodes hr hrun
      simp only [hnodes]
      split <;> simp [missingTarget]
  · simp [buildIn, he, missingTarget]

/-- Builds come to an end: the steps of compilation do not run out, and more of them would change
nothing. There are never more slots than positions in the documents that are kept. -/
theorem ending_of_buildIn (hr : r.Reachable) (o : Options) (store : Store) (schema : Value) :
    (∀ document, (o.buildIn store r schema).1 ≠ .error (missingTarget document)) ∧
    (∀ v, (o.buildIn store r schema).1 = .ok v →
      v.slots.length ≤ positionsOf (o.buildIn store r schema).2.contents) ∧
    ∀ h : Enters o schema r, h.Ending store := by
  refine ⟨buildIn_ne_missingTarget hr.wellIndexed o store schema, ?_,
    fun h => h.ending hr.wellIndexed store⟩
  intro v hv
  rcases hbuild : o.buildIn store r schema with ⟨result, r'⟩
  rw [hbuild] at hv
  obtain rfl : result = .ok v := hv
  obtain ⟨h⟩ := exists_builds hbuild
  obtain ⟨slot, s, hrun, rfl, hnodes, -⟩ := h.toEnters.exists_outcome hbuild
  have hlength := (h.toEnters.ending hr.wellIndexed store).length_le
  rw [hrun] at hlength
  rwa [← (forall₂_of_mapM_some hnodes).length_eq]

/-! ## References around documents -/

/-- A schema that refers into another document. -/
def outward : Value := .object [("$ref", .string "/far#/properties/back"),
  ("properties", .object [("again", .object [("$ref", .string "#")])])]

/-- The other document, which refers back. -/
def far : Value := .object [("properties", .object
  [("back", .object [("items", .object [("$ref", .string "/near#/properties/again")])])])]

/-- The URL of the schema. -/
def nearUri : Url := { Url.ownBase with path := "/near" }

/-- The URL of the other document. -/
def farUri : Url := { Url.ownBase with path := "/far" }

/-- The options that build the schema under its URL. -/
def nearOptions : Options where
  baseUri := some nearUri
  baseUri_bare := by
    rintro _ ⟨⟩
    rfl

/-- Where the other document is had. -/
def farStore : Store := ⟨[(farUri, far)]⟩

set_option maxRecDepth 10000 in
theorem exists_build_outward : ∃ v r',
    nearOptions.buildIn farStore {} outward = (.ok v, r') ∧ v.slots.length = 3 := by
  have hlength : (nearOptions.buildIn farStore {} outward).1.toOption.map
      (fun v => v.slots.length) = some 3 := by decide +kernel
  rcases hbuild : nearOptions.buildIn farStore {} outward with ⟨_ | v, r'⟩
  · simp [hbuild, Except.toOption] at hlength
  · exact ⟨v, r', rfl, by simpa [hbuild, Except.toOption] using hlength⟩

/-- A build ends also where references lead around. -/
theorem ending_of_buildIn_outward : ∃ (v : Validator) (h : Enters nearOptions outward {}),
    Registry.Reachable {} ∧ (nearOptions.buildIn farStore {} outward).1 = .ok v ∧
      v.slots.length = 3 ∧
      v.slots.length ≤ positionsOf (nearOptions.buildIn farStore {} outward).2.contents ∧
      h.Ending farStore := by
  obtain ⟨v, r', hbuild, hlength⟩ := exists_build_outward
  obtain ⟨hbuilds⟩ := exists_builds hbuild
  obtain ⟨-, hbound, hending⟩ := ending_of_buildIn .empty nearOptions farStore outward
  have hv := congrArg Prod.fst hbuild
  exact ⟨v, hbuilds.toEnters, .empty, hv, hlength, hbound v hv, hending hbuilds.toEnters⟩

end Options
end JsonSchema
