import JsonSchema.Proofs.Compilation.Sound

/-!
# Two compilations side by side

The same schema is compiled twice, with different retrievers and with more steps the second time.
What the single steps of compilation respect holds between the two runs as a whole. So a run that
has come to an end within its steps comes to the same end with more of them.
-/

namespace JsonSchema.Compile

variable {α β : Type} {settings : Settings} {retriever : Retriever}

/-- The slot of a place: the one that it has, or else a new one, filled with what is compiled. -/
def slotted (place : Place) (x : Compilation Node) : Compilation Nat := do
  match (← get).slotOf? place with
  | some slot => return slot
  | none =>
    let slot ← takeSlot place
    let node ← x
    fillSlot slot node
    return slot

/-- A state with a new slot for a place. -/
def State.take (s : State) (place : Place) : State :=
  { s with slots := s.slots ++ [⟨place, none⟩] }

/-- A state with a slot filled. -/
def State.fill (s : State) (i : Nat) (node : Node) : State :=
  { s with slots := s.slots.modify i fun slot => { slot with node := some node } }

@[simp] theorem State.registry_fill (s : State) (i : Nat) (node : Node) :
    (s.fill i node).registry = s.registry := rfl

@[simp] theorem State.places_take (s : State) (place : Place) :
    (s.take place).places = s.places ++ [place] := by
  simp [places, take]

@[simp] theorem State.places_fill (s : State) (i : Nat) (node : Node) :
    (s.fill i node).places = s.places := by
  simp only [places, fill]
  apply List.ext_getElem?
  intro j
  rw [List.getElem?_map, List.getElem?_map, List.getElem?_modify]
  cases s.slots[j]? with
  | none => rfl
  | some slot => by_cases hj : i = j <;> simp [hj]

/-- What comes of the slot of a place. -/
theorem outcome_slotted (place : Place) (x : Compilation Node) (s : State) :
    outcome (slotted place x) s = match s.slotOf? place with
      | some slot => (.ok slot, s)
      | none => match outcome x (s.take place) with
        | (.ok node, s') => (.ok s.slots.length, s'.fill s.slots.length node)
        | (.error e, s') => (.error e, s') := by
  unfold slotted
  rw [outcome_bind, show outcome get s = (.ok s, s) from rfl]
  dsimp only
  cases s.slotOf? place with
  | some slot => rfl
  | none =>
      dsimp only
      have htake : outcome (takeSlot place) s = (.ok s.slots.length, s.take place) := rfl
      rw [outcome_bind, htake]
      dsimp only
      rw [outcome_bind]
      rcases outcome x (s.take place) with ⟨e | node, s'⟩ <;> rfl

theorem outcome_modifyGet (f : State → α × State) (s : State) :
    outcome (modifyGet f) s = (.ok (f s).1, (f s).2) := rfl

/-- What comes of following a reference. -/
theorem outcome_follow (settings : Settings) (base : Url) (reference : String) (s : State) :
    outcome (follow settings base reference) s =
      ((s.registry.resolve settings.retriever base reference).1.mapError .resolution,
        { s with registry := (s.registry.resolve settings.retriever base reference).2 }) := by
  rw [follow, outcome_bind, outcome_modifyGet]
  dsimp only
  cases (s.registry.resolve settings.retriever base reference).1 <;> rfl

theorem compileTarget_succ (settings : Settings) (fuel : Nat) (t : Target) :
    compileTarget settings (fuel + 1) t =
      slotted t.place (compile settings fuel (targetContext t) t.contents) := rfl

/-- A relation of computations that every single step of compilation respects, and that holds
between a computation that has no steps left and any other. -/
structure Respected (settings : Settings) (retriever : Retriever)
    (R : ∀ {α : Type}, Compilation α → Compilation α → Prop) : Prop where
  value : ∀ {α : Type} (a : α), R (pure a) (pure a)
  error : ∀ {α : Type} (e : CompileError), R (throw e : Compilation α) (throw e)
  bind : ∀ {α β : Type} {x y : Compilation α} {f g : α → Compilation β}, R x y →
    (∀ a, R (f a) (g a)) → R (x >>= f) (y >>= g)
  follow : ∀ base reference,
    R (follow settings base reference) (follow { settings with retriever } base reference)
  slotted : ∀ place {x y : Compilation Node}, R x y → R (slotted place x) (slotted place y)
  ended : ∀ {α : Type} (document : Url) (y : Compilation α), R (throw (missingTarget document)) y

section Respected

variable {R : ∀ {α : Type}, Compilation α → Compilation α → Prop}

theorem Respected.map (hR : Respected settings retriever R) {x y : Compilation α} (f : α → β)
    (h : R x y) : R (f <$> x) (f <$> y) := by
  rw [map_eq_pure_bind, map_eq_pure_bind]
  exact hR.bind h fun a => hR.value (f a)

theorem Respected.mapM (hR : Respected settings retriever R) {l : List α} {f g : α → Compilation β}
    (h : ∀ a, R (f a) (g a)) : R (l.mapM f) (l.mapM g) := by
  induction l with
  | nil => exact hR.value []
  | cons a l ih =>
      rw [List.mapM_cons, List.mapM_cons]
      exact hR.bind (h a) fun b => hR.bind ih fun bs => hR.value (b :: bs)

theorem Respected.orInvalid (hR : Respected settings retriever R) (c : Context) (keyword : String)
    (r : Except KeywordFault α) : R (orInvalid c keyword r) (orInvalid c keyword r) := by
  cases r with
  | ok a => exact hR.value a
  | error fault => exact hR.error _

theorem Respected.ofExcept (hR : Respected settings retriever R) (r : Except CompileError α) :
    R (MonadExcept.ofExcept r) (MonadExcept.ofExcept r) := by
  cases r with
  | ok a => exact hR.value a
  | error e => exact hR.error e

theorem Respected.readPattern (hR : Respected settings retriever R) (c : Context) (v : Value) :
    R (readPattern c v) (readPattern c v) := by
  unfold Compile.readPattern
  refine hR.bind (hR.orInvalid c "pattern" (readString v)) fun source => ?_
  cases Regex.parse? source with
  | none => exact hR.error _
  | some regex => exact hR.value _

/-- The functions that compile are related, with some steps in the first run and with some in the
second. -/
structure SideBySide (settings : Settings) (retriever : Retriever)
    (R : ∀ {α : Type}, Compilation α → Compilation α → Prop) (n m : Nat) : Prop where
  compile : ∀ c v, R (compile settings n c v) (compile { settings with retriever } m c v)
  member : ∀ c members name v, R (compileMember settings n c members name v)
    (compileMember { settings with retriever } m c members name v)
  branch : ∀ c members name, R (compileBranch settings n c members name)
    (compileBranch { settings with retriever } m c members name)
  branches : ∀ c name v, R (compileBranches settings n c name v)
    (compileBranches { settings with retriever } m c name v)
  items : ∀ c i vs, R (compileItems settings n c i vs)
    (compileItems { settings with retriever } m c i vs)
  target : ∀ t, R (compileTarget settings n t) (compileTarget { settings with retriever } m t)

variable {n m : Nat}

theorem SideBySide.compile_succ (hR : Respected settings retriever R)
    (ih : SideBySide settings retriever R n m) (c : Context) (v : Value) :
    R (Compile.compile settings (n + 1) c v)
      (Compile.compile { settings with retriever } (m + 1) c v) := by
  cases v with
  | bool b => exact hR.value _
  | object members =>
      refine hR.bind (hR.ofExcept (c.inside members)) fun inner => ?_
      have hmembers := hR.mapM (l := members) fun m => ih.member inner members m.1 m.2
      have hnodes := hR.bind hmembers fun nodes =>
        hR.value (Node.keywords inner.location (nodes.filterMap id))
      dsimp only
      split
      · exact hnodes
      · exact hnodes
      · exact hR.bind (hR.error _) fun _ => hnodes
  | _ => exact hR.error _

theorem SideBySide.member_succ (hR : Respected settings retriever R)
    (ih : SideBySide settings retriever R n m) (c : Context) (members : List (String × Value))
    (name : String) (v : Value) :
    R (compileMember settings (n + 1) c members name v)
      (compileMember { settings with retriever } (m + 1) c members name v) := by
  cases h : Keyword.ofName? name with
  | none =>
      simp only [compileMember, h]
      split
      · exact hR.error _
      · exact hR.value none
  | some k =>
      cases k with
      | informative =>
          simp only [compileMember, h]
          exact hR.value none
      | ref =>
          simp only [compileMember, h]
          refine hR.bind (hR.orInvalid _ _ _) fun reference => ?_
          exact hR.bind (hR.follow _ reference) fun t =>
            hR.bind (ih.target t) fun slot => hR.value _
      | pattern =>
          simp only [compileMember, h]
          exact hR.map _ (hR.readPattern _ v)
      | required =>
          simp only [compileMember, h]
          exact hR.bind (hR.orInvalid _ _ _) fun names => hR.value _
      | properties =>
          simp only [compileMember, h]
          cases v with
          | object schemas =>
              have hschema (p : String × Value) := hR.bind
                (ih.compile ((c.key name).key p.1) p.2) fun node => hR.value (p.1, node)
              exact hR.bind (hR.mapM hschema) fun nodes => hR.value _
          | _ => exact hR.error _
      | items =>
          simp only [compileMember, h]
          cases v with
          | array schemas => exact hR.map _ (hR.map _ (ih.items _ 0 schemas))
          | bool b => exact hR.map _ (hR.map _ (ih.compile _ (.bool b)))
          | object schema => exact hR.map _ (hR.map _ (ih.compile _ (.object schema)))
          | _ => exact hR.error _
      | allOf | anyOf | oneOf =>
          simp only [compileMember, h]
          exact hR.map _ (hR.map _ (ih.branches _ name v))
      | not =>
          simp only [compileMember, h]
          exact hR.map _ (hR.map _ (ih.compile _ v))
      | condition =>
          simp only [compileMember, h]
          refine hR.bind (ih.compile _ v) fun condition => ?_
          refine hR.bind (ih.branch c members "then") fun met => ?_
          exact hR.bind (ih.branch c members "else") fun unmet => hR.value _
      | branch met =>
          simp only [compileMember, h]
          split
          · exact hR.bind (ih.compile _ v) fun _ => hR.value none
          · exact hR.value none
      | _ =>
          simp only [compileMember, h]
          exact hR.bind (hR.orInvalid _ _ _) fun check => hR.value _

theorem SideBySide.succ (hR : Respected settings retriever R)
    (ih : SideBySide settings retriever R n m) :
    SideBySide settings retriever R (n + 1) (m + 1) where
  compile := ih.compile_succ hR
  member := ih.member_succ hR
  branch c members name := by
    simp only [compileBranch]
    cases members.lookup name with
    | none => exact hR.value none
    | some v => exact hR.map some (ih.compile (c.key name) v)
  branches c name v := by
    unfold compileBranches
    split
    · exact ih.items c 0 _
    · exact hR.error _
  items c i vs := by
    cases vs with
    | nil => exact hR.value []
    | cons v rest =>
        refine hR.bind (ih.compile (c.index i) v) fun node => ?_
        exact hR.bind (ih.items c (i + 1) rest) fun nodes => hR.value (node :: nodes)
  target t := by
    rw [compileTarget_succ, compileTarget_succ]
    exact hR.slotted t.place (ih.compile (targetContext t) t.contents)

/-- Compilation is related to compilation with as many steps or more. -/
theorem sideBySide (hR : Respected settings retriever R) (n k : Nat) :
    SideBySide settings retriever R n (n + k) := by
  induction n with
  | zero =>
      exact {
        compile := fun c _ => hR.ended c.place.document _
        member := fun c _ _ _ => hR.ended c.place.document _
        branch := fun c _ _ => hR.ended c.place.document _
        branches := fun c _ _ => hR.ended c.place.document _
        items := fun c i vs => by
          cases vs with
          | nil => cases k <;> exact hR.value []
          | cons v rest => exact hR.ended c.place.document _
        target := fun t => hR.ended t.document _ }
  | succ n ih =>
      rw [Nat.succ_add]
      exact ih.succ hR

end Respected

/-! ## More steps -/

/-- A computation has no steps left. -/
def RanOut (out : Except CompileError α × State) : Prop :=
  ∃ document, out.1 = .error (missingTarget document)

theorem not_ranOut_ok (a : α) (s : State) : ¬RanOut (.ok a, s) := by
  rintro ⟨_, ⟨⟩⟩

/-- An error of steps that have run out is one of whatever was to be computed. -/
theorem RanOut.of_error {e : CompileError} {s s' : State}
    (h : RanOut ((.error e, s) : Except CompileError β × State)) :
    RanOut ((.error e, s') : Except CompileError α × State) := by
  obtain ⟨document, h⟩ := h
  exact ⟨document, congrArg Except.error (Except.error.inj h)⟩

theorem ranOut_bind {x : Compilation α} {f : α → Compilation β} {s : State}
    (h : RanOut (outcome x s)) : RanOut (outcome (x >>= f) s) := by
  rw [outcome_bind]
  rcases hrun : outcome x s with ⟨e | a, s'⟩ <;> rw [hrun] at h
  · exact h.of_error
  · exact absurd h (not_ranOut_ok a s')

/-- Where the first computation does not run out of steps, both have the same outcome. -/
def Confirms (x y : Compilation α) : Prop :=
  ∀ s, RanOut (outcome x s) ∨ outcome y s = outcome x s

theorem confirms_bind {x y : Compilation α} {f g : α → Compilation β} (h : Confirms x y)
    (hf : ∀ a, Confirms (f a) (g a)) : Confirms (x >>= f) (y >>= g) := by
  intro s
  rcases h s with hout | heq
  · exact .inl (ranOut_bind hout)
  · rw [outcome_bind, outcome_bind, heq]
    rcases outcome x s with ⟨_ | a, s'⟩
    · exact .inr rfl
    · exact hf a s'

theorem confirms_refl (x : Compilation α) : Confirms x x := fun _ => .inr rfl

theorem confirms_slotted (place : Place) {x y : Compilation Node} (h : Confirms x y) :
    Confirms (slotted place x) (slotted place y) := by
  refine confirms_bind (confirms_refl get) fun s => ?_
  cases s.slotOf? place with
  | some slot => exact confirms_refl _
  | none =>
      refine confirms_bind (confirms_refl (takeSlot place)) fun slot => ?_
      exact confirms_bind h fun node => confirms_refl _

theorem respected_confirms (settings : Settings) :
    Respected settings settings.retriever fun x y => Confirms x y where
  value _ := confirms_refl _
  error _ := confirms_refl _
  bind h hf := confirms_bind h hf
  follow _ _ := confirms_refl _
  slotted place _ _ h := confirms_slotted place h
  ended document _ := fun _ => .inl ⟨document, rfl⟩

/-- More steps change nothing where the steps have not run out. -/
theorem outcome_compileTarget_of_le {n m : Nat} (hnm : n ≤ m) {t : Target} {s : State}
    (h : ¬RanOut (outcome (compileTarget settings n t) s)) :
    outcome (compileTarget settings m t) s = outcome (compileTarget settings n t) s := by
  obtain ⟨k, rfl⟩ := Nat.exists_eq_add_of_le hnm
  exact ((sideBySide (respected_confirms settings) n k).target t s).resolve_left h

end JsonSchema.Compile
