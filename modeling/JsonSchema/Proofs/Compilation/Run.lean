import JsonSchema.Proofs.Compilation.Compiled

/-!
# Runs of compilation

A successful run of compilation taken apart into the runs of its steps, and what such a run leaves
behind: the registry has grown, slots that were there are untouched, and new slots are filled with
the compiled form of the target that they were taken for.
-/

namespace JsonSchema.Compile

variable {α β : Type} {settings : Settings} {s s' s'' : State}

/-- The result of a computation and the state that it leaves. -/
def outcome (x : Compilation α) (s : State) : Except CompileError α × State := x.run s

/-- A computation succeeds with a result, and takes one state to another. -/
def Runs (x : Compilation α) (s : State) (a : α) (s' : State) : Prop := outcome x s = (.ok a, s')

@[simp] theorem runs_pure {a b : α} : Runs (pure a) s b s' ↔ a = b ∧ s = s' := by
  have hrun : outcome (pure a) s = (.ok a, s) := rfl
  simp [Runs, hrun]

@[simp] theorem runs_throw {e : CompileError} {a : α} : ¬Runs (throw e) s a s' := by
  have hrun : outcome (throw e : Compilation α) s = (.error e, s) := rfl
  simp [Runs, hrun]

theorem outcome_bind (x : Compilation α) (f : α → Compilation β) (s : State) :
    outcome (x >>= f) s = match outcome x s with
      | (.ok a, s') => outcome (f a) s'
      | (.error e, s') => (.error e, s') := by
  simp only [outcome, bind, ExceptT.bind, ExceptT.mk, ExceptT.run, StateT.bind]
  rcases x s with ⟨_ | _, _⟩ <;> rfl

@[simp] theorem runs_bind {x : Compilation α} {f : α → Compilation β} {b : β} :
    Runs (x >>= f) s b s'' ↔ ∃ a s', Runs x s a s' ∧ Runs (f a) s' b s'' := by
  unfold Runs
  rw [outcome_bind]
  rcases outcome x s with ⟨_ | a, s'⟩ <;> simp

@[simp] theorem runs_map {x : Compilation α} {f : α → β} {b : β} :
    Runs (f <$> x) s b s' ↔ ∃ a, Runs x s a s' ∧ f a = b := by
  rw [map_eq_pure_bind, runs_bind]
  simp only [runs_pure]
  constructor
  · rintro ⟨a, _, h, hb, rfl⟩
    exact ⟨a, h, hb⟩
  · rintro ⟨a, h, hb⟩
    exact ⟨a, s', h, hb, rfl⟩

@[simp] theorem runs_get {a : State} : Runs get s a s' ↔ s = a ∧ s = s' := by
  have hrun : outcome get s = (.ok s, s) := rfl
  simp [Runs, hrun]

@[simp] theorem runs_takeSlot {place : Place} {i : Nat} :
    Runs (takeSlot place) s i s' ↔
      i = s.slots.length ∧ s' = { s with slots := s.slots ++ [⟨place, none⟩] } := by
  have hrun : outcome (takeSlot place) s =
    (.ok s.slots.length, { s with slots := s.slots ++ [⟨place, none⟩] }) := rfl
  simp [Runs, hrun, eq_comm]

@[simp] theorem runs_fillSlot {i : Nat} {node : Node} {u : Unit} :
    Runs (fillSlot i node) s u s' ↔ s' = { s with slots := s.slots.modify i fun slot =>
      { slot with node := some node } } := by
  have hrun : outcome (fillSlot i node) s = (.ok (), { s with slots := s.slots.modify i fun slot =>
    { slot with node := some node } }) := rfl
  simp [Runs, hrun, eq_comm]

@[simp] theorem runs_modifyGet {f : State → α × State} {a : α} :
    Runs (modifyGet f) s a s' ↔ f s = (a, s') := by
  have hrun : outcome (modifyGet f) s = (.ok (f s).1, (f s).2) := rfl
  simp [Runs, hrun, Prod.ext_iff]

/-- A reference is followed where the registry resolves it. -/
theorem resolve_of_runs_follow {base : Url} {reference : String} {t : Target}
    (h : Runs (follow settings base reference) s t s') :
    s.registry.resolve settings.retriever base reference = (.ok t, s'.registry) ∧
      s'.slots = s.slots := by
  obtain ⟨result, mid, hget, hresult⟩ := runs_bind.mp h
  rw [runs_modifyGet, Prod.mk.injEq] at hget
  obtain ⟨hresolve, rfl⟩ := hget
  cases result with
  | error e => exact absurd hresult runs_throw
  | ok t' =>
      obtain ⟨rfl, rfl⟩ := runs_pure.mp hresult
      exact ⟨Prod.ext hresolve rfl, rfl⟩

/-! ## What a run leaves -/

/-- A state from which another one may have come. -/
structure State.Before (s s' : State) : Prop where
  registry : Registry.Grows s.registry s'.registry
  places : s.places <+: s'.places

theorem State.Before.refl (s : State) : s.Before s := ⟨.refl _, List.prefix_refl _⟩

theorem State.Before.trans (h : s.Before s') (h' : s'.Before s'') : s.Before s'' :=
  ⟨h.registry.trans h'.registry, h.places.trans h'.places⟩

/-- A slot holds the compiled form of the target at its place. -/
def Filled (settings : Settings) (s : State) (slot : Slot) : Prop :=
  ∃ t node, slot = ⟨t.place, some node⟩ ∧ s.registry.IsTarget t ∧
    ∀ final, s.Before final → Compiled settings final (targetContext t) t.contents node

/-- A state that a run has made of another one. -/
structure Extends (settings : Settings) (s s' : State) : Prop where
  evolves : Registry.Evolves s.registry s'.registry
  slots : ∃ new, s'.slots = s.slots ++ new ∧ ∀ slot ∈ new, Filled settings s' slot
  /-- No place gets two slots. -/
  distinct : s.places.Nodup → s'.places.Nodup

theorem Filled.before {slot : Slot} (h : Filled settings s slot) (hs : s.Before s') :
    Filled settings s' slot := by
  obtain ⟨t, node, hslot, htarget, hnode⟩ := h
  exact ⟨t, node, hslot, htarget.grows hs.registry, fun final hf => hnode final (hs.trans hf)⟩

theorem Extends.before (h : Extends settings s s') : s.Before s' := by
  obtain ⟨new, hnew, -⟩ := h.slots
  exact ⟨h.evolves.grows, by simp [State.places, hnew]⟩

theorem Extends.of_evolves (h : Registry.Evolves s.registry s'.registry)
    (hslots : s'.slots = s.slots) : Extends settings s s' :=
  ⟨h, ⟨[], by simpa using hslots, by simp⟩, by simp [State.places, hslots]⟩

theorem Extends.refl (s : State) : Extends settings s s := .of_evolves .refl rfl

theorem Extends.trans (h : Extends settings s s') (h' : Extends settings s' s'') :
    Extends settings s s'' := by
  obtain ⟨new, hnew, hfilled⟩ := h.slots
  obtain ⟨new', hnew', hfilled'⟩ := h'.slots
  refine ⟨h.evolves.trans h'.evolves, ⟨new ++ new', by simp [hnew', hnew], ?_⟩,
    fun hs => h'.distinct (h.distinct hs)⟩
  intro slot hslot
  rcases List.mem_append.mp hslot with hslot | hslot
  · exact (hfilled slot hslot).before h'.before
  · exact hfilled' slot hslot

/-! ## What a computation yields -/

/-- The registry only evolves, also where the computation fails. -/
def Evolving (x : Compilation α) : Prop :=
  ∀ s, Registry.Evolves s.registry (outcome x s).2.registry

theorem evolving_pure {a : α} : Evolving (pure a) := fun _ => .refl

theorem evolving_throw {e : CompileError} : Evolving (throw e : Compilation α) := fun _ => .refl

theorem evolving_bind {x : Compilation α} {f : α → Compilation β} (hx : Evolving x)
    (hf : ∀ a, Evolving (f a)) : Evolving (x >>= f) := by
  intro s
  have hs := hx s
  rw [outcome_bind]
  rcases h : outcome x s with ⟨e | a, s'⟩
  · simpa only [h] using hs
  · rw [h] at hs
    exact hs.trans (hf a s')

theorem evolving_map {x : Compilation α} {f : α → β} (hx : Evolving x) : Evolving (f <$> x) := by
  rw [map_eq_pure_bind]
  exact evolving_bind hx fun _ => evolving_pure

theorem evolving_follow {base : Url} {reference : String} :
    Evolving (follow settings base reference) := by
  refine evolving_bind ?_ fun result => ?_
  · exact fun s => Registry.evolves_resolve settings.retriever base reference
  · cases result with
    | ok _ => exact evolving_pure
    | error _ => exact evolving_throw

/-- The registry evolves. Every successful run extends the state, and its result has a property in
all that may become of the state. -/
structure Yields (settings : Settings) (x : Compilation α) (P : State → α → Prop) : Prop where
  evolving : Evolving x
  result : ∀ s a s', s.registry.WellIndexed → Runs x s a s' →
    Extends settings s s' ∧ ∀ final, s'.Before final → P final a

variable {P : State → α → Prop}

theorem yields_pure {a : α} (h : ∀ final, P final a) : Yields settings (pure a) P := by
  refine ⟨evolving_pure, ?_⟩
  intro s b s' _ hrun
  obtain ⟨rfl, rfl⟩ := runs_pure.mp hrun
  exact ⟨.refl s, fun final _ => h final⟩

theorem yields_throw {e : CompileError} : Yields settings (throw e) P :=
  ⟨evolving_throw, fun _ _ _ _ hrun => absurd hrun runs_throw⟩

theorem Yields.mono {x : Compilation α} {Q : State → α → Prop} (h : Yields settings x P)
    (hPQ : ∀ final a, P final a → Q final a) : Yields settings x Q := by
  refine ⟨h.evolving, ?_⟩
  intro s a s' hr hrun
  obtain ⟨hextends, hP⟩ := h.result s a s' hr hrun
  exact ⟨hextends, fun final hf => hPQ final a (hP final hf)⟩

theorem yields_bind {x : Compilation α} {f : α → Compilation β} {Q : State → β → Prop}
    (hx : Yields settings x P)
    (hf : ∀ a, Yields settings (f a) fun final b => P final a → Q final b) :
    Yields settings (x >>= f) Q := by
  refine ⟨evolving_bind hx.evolving fun a => (hf a).evolving, ?_⟩
  intro s b s' hr hrun
  obtain ⟨a, mid, hrunx, hrunf⟩ := runs_bind.mp hrun
  obtain ⟨hextends, hP⟩ := hx.result s a mid hr hrunx
  obtain ⟨hextends', hQ⟩ := (hf a).result mid b s' (hextends.evolves.wellIndexed hr) hrunf
  exact ⟨hextends.trans hextends', fun final hfinal =>
    hQ final hfinal (hP final (hextends'.before.trans hfinal))⟩

theorem yields_map {x : Compilation α} {f : α → β} {Q : State → β → Prop}
    (hx : Yields settings x fun final a => Q final (f a)) : Yields settings (f <$> x) Q := by
  refine ⟨evolving_map hx.evolving, ?_⟩
  intro s b s' hr hrun
  obtain ⟨a, hrunx, rfl⟩ := runs_map.mp hrun
  exact hx.result s a s' hr hrunx

theorem yields_orInvalid {c : Context} {keyword : String} {r : Except KeywordFault α} :
    Yields settings (orInvalid c keyword r) fun _ a => r = .ok a := by
  cases r with
  | ok a => exact yields_pure fun _ => rfl
  | error fault => exact yields_throw

theorem yields_ofExcept {r : Except CompileError α} :
    Yields settings (MonadExcept.ofExcept r) fun _ a => r = .ok a := by
  cases r with
  | ok a => exact yields_pure fun _ => rfl
  | error e => exact yields_throw

theorem yields_mapM {l : List α} {f : α → Compilation β} {Q : State → α → β → Prop}
    (hf : ∀ a, Yields settings (f a) fun final b => Q final a b) :
    Yields settings (l.mapM f) fun final bs => List.Forall₂ (Q final) l bs := by
  induction l with
  | nil => exact yields_pure fun _ => .nil
  | cons a l ih =>
      rw [List.mapM_cons]
      refine yields_bind (hf a) fun b => yields_bind ih fun bs => ?_
      exact yields_pure fun _ hbs hb => .cons hb hbs

end JsonSchema.Compile
