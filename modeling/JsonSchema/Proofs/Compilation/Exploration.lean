import JsonSchema.Proofs.Compilation.Inside
import JsonSchema.Proofs.Compilation.Parallel
import JsonSchema.Proofs.Compilation.Shapes
import JsonSchema.Proofs.Registry.Asking

/-!
# What compilation fails at

Compilation fails only at a schema that is visited: one that is neither a boolean nor an object, an
object with a keyword that does not take its value, or one with a reference that leads nowhere. And
slots are taken only for the root and for what a reference leads to in a schema that is visited.
-/

namespace JsonSchema.Compile

/-! ## Schemas that can be compiled -/

/-- A schema object can be compiled where it stands, the schemas in it apart. -/
structure Fit (settings : Settings) (r : Registry) (c : Context) (members : List (String × Value)) :
    Prop where
  /-- Its `$id` is a string that joins with the base. -/
  id : ∀ v, members.lookup "$id" = some v → ∃ id url, v = .string id ∧ c.base.join id = .ok url
  anchor : ∀ v, members.lookup "$anchor" = some v → v.IsString
  takes : ∀ name v k, (name, v) ∈ members → Keyword.ofName? name = some k → k.Takes v
  /-- Its `$ref` leads somewhere from the base inside the object. -/
  resolves : ∀ inner text, c.inside members = .ok inner → ("$ref", .string text) ∈ members →
    ∃ t, r.Follows settings.retriever inner.base text t
  /-- In strict mode all names are those of keywords. -/
  known : settings.strict = true → ∀ m ∈ members, Keyword.ofName? m.1 ≠ none

/-- A schema can be compiled where it stands, the schemas in it apart. -/
def Admissible (settings : Settings) (r : Registry) (c : Context) : Value → Prop
  | .bool _ => True
  | .object members => Fit settings r c members
  | _ => False

/-- A schema is visited from another one: it is that one, stands in a schema object that is visited,
or is the target of a reference there. Documents that are not kept are had from a retriever. -/
inductive Visited (retriever : Retriever) (r : Registry) (c₀ : Context) (x₀ : Value) :
    Context → Value → Prop
  | root : Visited retriever r c₀ x₀ c₀ x₀
  | inside {c inner members name k v path schema}
      (h : Visited retriever r c₀ x₀ c (.object members)) (hinside : c.inside members = .ok inner)
      (hmem : (name, v) ∈ members) (hname : Keyword.ofName? name = some k)
      (hschema : k.HoldsAt v path schema) :
      Visited retriever r c₀ x₀ ((inner.key name).along path) schema
  | follow {c inner members text t} (h : Visited retriever r c₀ x₀ c (.object members))
      (hinside : c.inside members = .ok inner) (hmem : ("$ref", .string text) ∈ members)
      (hfollows : r.Follows retriever inner.base text t) :
      Visited retriever r c₀ x₀ (targetContext t) t.contents

/-- The base inside an object is there unless its `$id` is no string or does not join. -/
theorem exists_inside_iff {c : Context} {members : List (String × Value)} :
    (∃ inner, c.inside members = .ok inner) ↔ ∀ v, members.lookup "$id" = some v →
      ∃ id url, v = .string id ∧ c.base.join id = .ok url := by
  unfold Context.inside
  cases hid : members.lookup "$id" with
  | none => simp
  | some v =>
      cases v with
      | string id =>
          cases hfragment : Declarations.isFragmentOnly id with
          | true => simp [hfragment, Url.join_of_isFragmentOnly c.base hfragment]
          | false => cases hjoin : c.base.join id <;> simp [hfragment, hjoin]
      | _ => simp

variable {α β : Type} {settings : Settings} {fuel : Nat} {c₀ c inner : Context} {x₀ v : Value}
variable {r r' : Registry} {s : State} {members : List (String × Value)}

/-- A schema is visited in every registry from one on. -/
def Comes (settings : Settings) (r : Registry) (c₀ : Context) (x₀ : Value) (c : Context)
    (x : Value) : Prop :=
  ∀ r', Registry.Grows r r' → Visited settings.retriever r' c₀ x₀ c x

/-- A reference of a schema that is visited leads to a target. -/
def Referred (retriever : Retriever) (r : Registry) (c₀ : Context) (x₀ : Value) (t : Target) :
    Prop :=
  ∃ c inner members text, Visited retriever r c₀ x₀ c (.object members) ∧
    c.inside members = .ok inner ∧ ("$ref", .string text) ∈ members ∧
      r.Follows retriever inner.base text t

/-- A target is where exploration begins, or a reference that is visited leads to it, in every
registry from one on. -/
def Led (settings : Settings) (r : Registry) (c₀ : Context) (x₀ : Value) (t : Target) : Prop :=
  (targetContext t = c₀ ∧ t.contents = x₀) ∨
    ∀ r', Registry.Grows r r' → Referred settings.retriever r' c₀ x₀ t

/-- A schema is visited that cannot be compiled. -/
def Flawed (settings : Settings) (c₀ : Context) (x₀ : Value) (r : Registry) : Prop :=
  ∃ c x, Visited settings.retriever r c₀ x₀ c x ∧ ¬Admissible settings r c x

theorem Comes.grows (h : Comes settings r c₀ x₀ c v) (hg : Registry.Grows r r') :
    Comes settings r' c₀ x₀ c v :=
  fun r'' hg' => h r'' (hg.trans hg')

theorem Referred.visited {retriever : Retriever} {t : Target} (h : Referred retriever r c₀ x₀ t) :
    Visited retriever r c₀ x₀ (targetContext t) t.contents := by
  obtain ⟨c, inner, members, text, hvisited, hinside, hmem, hfollows⟩ := h
  exact .follow hvisited hinside hmem hfollows

theorem Led.grows {t : Target} (h : Led settings r c₀ x₀ t) (hg : Registry.Grows r r') :
    Led settings r' c₀ x₀ t :=
  h.imp_right fun h r'' hg' => h r'' (hg.trans hg')

theorem Led.comes {t : Target} (h : Led settings r c₀ x₀ t) :
    Comes settings r c₀ x₀ (targetContext t) t.contents := by
  rcases h with ⟨hcontext, hcontents⟩ | h
  · rw [hcontext, hcontents]
    exact fun _ _ => .root
  · exact fun r' hg => (h r' hg).visited

theorem Comes.inside (h : Comes settings r c₀ x₀ c (.object members))
    (hinside : c.inside members = .ok inner) {name : String} {k : Keyword} {path : List String}
    {schema : Value} (hmem : (name, v) ∈ members) (hname : Keyword.ofName? name = some k)
    (hschema : k.HoldsAt v path schema) :
    Comes settings r c₀ x₀ ((inner.key name).along path) schema :=
  fun r' hg => .inside (h r' hg) hinside hmem hname hschema

theorem Comes.flawed (h : Comes settings r c₀ x₀ c v) (hflaw : ∀ r, ¬Admissible settings r c v)
    (r' : Registry) (hg : Registry.Grows r r') : Flawed settings c₀ x₀ r' :=
  ⟨c, v, h r' hg, hflaw r'⟩

/-- An object is flawed where a keyword does not take its value. -/
theorem Comes.flawed_of_not_takes (h : Comes settings r c₀ x₀ c (.object members)) {name : String}
    {k : Keyword} (hmem : (name, v) ∈ members) (hname : Keyword.ofName? name = some k)
    (hv : ¬k.Takes v) (r' : Registry) (hg : Registry.Grows r r') : Flawed settings c₀ x₀ r' :=
  h.flawed (fun _ hfit => hv (Fit.takes hfit name v k hmem hname)) r' hg

/-! ## Computations that explore -/

/-- What holds as long as compilation succeeds: all documents that were asked for were read, and
slots were taken for the root and for targets of references. -/
structure Explored (settings : Settings) (c₀ : Context) (x₀ : Value) (r : Registry) (s : State) :
    Prop where
  grows : Registry.Grows r s.registry
  indexed : s.registry.WellIndexed
  read : s.registry.Read settings.retriever
  slots : ∀ place ∈ s.places, ∃ t : Target, t.place = place ∧ s.registry.IsTarget t ∧
    Led settings s.registry c₀ x₀ t

/-- A computation keeps to what was explored, and fails only where compilation has come to a flaw,
or for want of steps. -/
structure ExploresAt (settings : Settings) (c₀ : Context) (x₀ : Value) (r : Registry) (s : State)
    (x : Compilation α) : Prop where
  ok : ∀ a s', outcome x s = (.ok a, s') → Explored settings c₀ x₀ r s'
  error : ∀ e s', outcome x s = (.error e, s') →
    (∃ document, e = missingTarget document) ∨ Flawed settings c₀ x₀ s'.registry

/-- So it does wherever a registry has been explored. -/
def Explores (settings : Settings) (c₀ : Context) (x₀ : Value) (r : Registry)
    (x : Compilation α) : Prop :=
  ∀ s, Explored settings c₀ x₀ r s → ExploresAt settings c₀ x₀ r s x

theorem Explored.of_grows (h : Explored settings c₀ x₀ r' s) (hg : Registry.Grows r r') :
    Explored settings c₀ x₀ r s :=
  ⟨hg.trans h.grows, h.indexed, h.read, h.slots⟩

theorem ExploresAt.of_ok {x : Compilation α} {a : α} {s' : State} (hrun : Runs x s a s')
    (h : Explored settings c₀ x₀ r s') : ExploresAt settings c₀ x₀ r s x := by
  refine ⟨fun _ _ h => ?_, fun _ _ h => ?_⟩ <;> cases hrun.symm.trans h
  assumption

theorem ExploresAt.of_error {x : Compilation α} {e : CompileError} {s' : State}
    (hrun : outcome x s = (.error e, s'))
    (h : (∃ document, e = missingTarget document) ∨ Flawed settings c₀ x₀ s'.registry) :
    ExploresAt settings c₀ x₀ r s x := by
  refine ⟨fun _ _ h => ?_, fun _ _ h => ?_⟩ <;> cases hrun.symm.trans h
  assumption

theorem explores_pure (a : α) : Explores settings c₀ x₀ r (pure a) := fun _ hs => .of_ok rfl hs

theorem explores_throw {e : CompileError}
    (h : ∀ r', Registry.Grows r r' → Flawed settings c₀ x₀ r') :
    Explores settings c₀ x₀ r (throw e : Compilation α) :=
  fun s hs => .of_error rfl (.inr (h s.registry hs.grows))

theorem explores_missingTarget (document : Url) :
    Explores settings c₀ x₀ r (throw (missingTarget document) : Compilation α) :=
  fun _ _ => .of_error rfl (.inl ⟨document, rfl⟩)

theorem ExploresAt.bind {x : Compilation α} {f : α → Compilation β}
    (hx : ExploresAt settings c₀ x₀ r s x)
    (hf : ∀ a s', Runs x s a s' → Explores settings c₀ x₀ r (f a)) :
    ExploresAt settings c₀ x₀ r s (x >>= f) := by
  rcases hrun : outcome x s with ⟨e | a, s'⟩
  · have hbind : outcome (x >>= f) s = (.error e, s') := by rw [outcome_bind, hrun]
    exact .of_error hbind (hx.error e s' hrun)
  · have hrest := hf a s' hrun s' (hx.ok a s' hrun)
    have hbind : outcome (x >>= f) s = outcome (f a) s' := by rw [outcome_bind, hrun]
    exact ⟨fun b s'' h => hrest.ok b s'' (hbind ▸ h), fun e s'' h => hrest.error e s'' (hbind ▸ h)⟩

theorem explores_bind {x : Compilation α} {f : α → Compilation β}
    (hx : Explores settings c₀ x₀ r x) (hf : ∀ a, Explores settings c₀ x₀ r (f a)) :
    Explores settings c₀ x₀ r (x >>= f) :=
  fun s hs => (hx s hs).bind fun a _ _ => hf a

theorem explores_map {x : Compilation α} (f : α → β) (hx : Explores settings c₀ x₀ r x) :
    Explores settings c₀ x₀ r (f <$> x) := by
  rw [map_eq_pure_bind]
  exact explores_bind hx fun a => explores_pure (f a)

theorem explores_mapM {l : List α} {f : α → Compilation β}
    (h : ∀ a ∈ l, Explores settings c₀ x₀ r (f a)) : Explores settings c₀ x₀ r (l.mapM f) := by
  induction l with
  | nil => exact explores_pure []
  | cons a l ih =>
      rw [List.mapM_cons]
      refine explores_bind (h a List.mem_cons_self) fun b => ?_
      exact explores_bind (ih fun a ha => h a (List.mem_cons_of_mem _ ha)) fun bs =>
        explores_pure (b :: bs)

/-- A value is read, or is not what the keyword takes. -/
theorem explores_orInvalid {keyword : String} {result : Except KeywordFault α}
    {f : α → Compilation β}
    (hflaw : (¬∃ a, result = .ok a) → ∀ r', Registry.Grows r r' → Flawed settings c₀ x₀ r')
    (hf : ∀ a, result = .ok a → Explores settings c₀ x₀ r (f a)) :
    Explores settings c₀ x₀ r (orInvalid c keyword result >>= f) := by
  cases result with
  | ok a =>
      refine fun s hs => (explores_pure a s hs).bind fun a' s' hrun => ?_
      obtain ⟨rfl, -⟩ := runs_pure.mp hrun
      exact hf a rfl
  | error fault =>
      refine fun s hs => (explores_throw (hflaw (by simp)) s hs).bind fun a s' hrun => ?_
      exact absurd hrun runs_throw

theorem explores_inside {f : Context → Compilation β}
    (hobject : Comes settings r c₀ x₀ c (.object members))
    (hf : ∀ inner, c.inside members = .ok inner → Explores settings c₀ x₀ r (f inner)) :
    Explores settings c₀ x₀ r (MonadExcept.ofExcept (c.inside members) >>= f) := by
  cases hinside : c.inside members with
  | ok inner =>
      refine fun s hs => (explores_pure inner s hs).bind fun a s' hrun => ?_
      obtain ⟨rfl, -⟩ := runs_pure.mp hrun
      exact hf inner hinside
  | error e =>
      have hflaw (r : Registry) : ¬Admissible settings r c (.object members) := by
        intro hfit
        obtain ⟨inner, hinner⟩ := exists_inside_iff.mpr (Fit.id hfit)
        cases hinside.symm.trans hinner
      refine fun s hs => (explores_throw (hobject.flawed hflaw) s hs).bind fun a s' hrun => ?_
      exact absurd hrun runs_throw

/-- A reference is followed, or leads nowhere also a second time. -/
theorem explores_follow {text : String} {f : Target → Compilation β}
    (hflaw : ∀ r', Registry.Grows r r' →
      (∃ e, (r'.resolve settings.retriever c.base text).1 = .error e) → Flawed settings c₀ x₀ r')
    (hf : ∀ t r', Registry.Grows r r' → (∀ r'', Registry.Grows r' r'' → r''.Leads c.base text t) →
      r'.IsTarget t → Explores settings c₀ x₀ r' (f t)) :
    Explores settings c₀ x₀ r (follow settings c.base text >>= f) := by
  intro s hs
  have hevolves := Registry.evolves_resolve (r := s.registry) settings.retriever c.base text
  rcases hresolve : s.registry.resolve settings.retriever c.base text with ⟨e | t, r'⟩ <;>
    rw [hresolve] at hevolves
  · have hrun : outcome (follow settings c.base text >>= f) s =
        (.error (.resolution e), { s with registry := r' }) := by
      rw [outcome_bind, outcome_follow, hresolve]
      rfl
    exact .of_error hrun (.inr (hflaw r' (hs.grows.trans hevolves.grows)
      (Registry.resolve_again hs.indexed hresolve)))
  · obtain ⟨htarget, hleads⟩ := Registry.leads_of_resolve hs.indexed hresolve
    have hstate : Explored settings c₀ x₀ r' { s with registry := r' } := {
      grows := .refl r'
      indexed := hevolves.wellIndexed hs.indexed
      read := hs.read.resolve hresolve
      slots := by
        intro place hplace
        obtain ⟨t, ht, htarget, hled⟩ := hs.slots place hplace
        exact ⟨t, ht, htarget.grows hevolves.grows, hled.grows hevolves.grows⟩ }
    have hgrows := hs.grows.trans hevolves.grows
    have hrest := hf t r' hgrows hleads htarget _ hstate
    have hrun : outcome (follow settings c.base text >>= f) s =
        outcome (f t) { s with registry := r' } := by
      rw [outcome_bind, outcome_follow, hresolve]
      rfl
    exact ⟨fun a s' h => (hrest.ok a s' (hrun ▸ h)).of_grows hgrows,
      fun e s' h => hrest.error e s' (hrun ▸ h)⟩

/-- A slot is taken for a target to which exploration is led. -/
theorem explores_slotted {t : Target} (htarget : r.IsTarget t) {x : Compilation Node}
    (hled : Led settings r c₀ x₀ t) (hx : Explores settings c₀ x₀ r x) :
    Explores settings c₀ x₀ r (slotted t.place x) := by
  intro s hs
  have htaken : Explored settings c₀ x₀ r (s.take t.place) := {
    grows := hs.grows
    indexed := hs.indexed
    read := hs.read
    slots := by
      rw [State.places_take, List.forall_mem_append]
      refine ⟨hs.slots, fun place hmem => ⟨t, (List.mem_singleton.mp hmem).symm, ?_⟩⟩
      exact ⟨htarget.grows hs.grows, hled.grows hs.grows⟩ }
  have hrest := hx _ htaken
  have hrun := outcome_slotted t.place x s
  cases hslot : s.slotOf? t.place with
  | some slot =>
      rw [hslot] at hrun
      exact .of_ok hrun hs
  | none =>
      rw [hslot] at hrun
      dsimp only at hrun
      rcases hnode : outcome x (s.take t.place) with ⟨e | node, s'⟩ <;> rw [hnode] at hrun
      · exact .of_error hrun (hrest.error e s' hnode)
      · have hs' := hrest.ok node s' hnode
        exact .of_ok hrun ⟨hs'.grows, hs'.indexed, hs'.read, by simpa using hs'.slots⟩

/-! ## The functions that compile -/

/-- The functions that compile explore, wherever compilation has come to. -/
structure Exploring (settings : Settings) (c₀ : Context) (x₀ : Value) (fuel : Nat) : Prop where
  compile : ∀ r c v, Comes settings r c₀ x₀ c v →
    Explores settings c₀ x₀ r (compile settings fuel c v)
  member : ∀ r c inner members name v, Comes settings r c₀ x₀ c (.object members) →
    c.inside members = .ok inner → (name, v) ∈ members →
      Explores settings c₀ x₀ r (compileMember settings fuel inner members name v)
  branch : ∀ r c inner members name met, Comes settings r c₀ x₀ c (.object members) →
    c.inside members = .ok inner → Keyword.ofName? name = some (.branch met) →
      Explores settings c₀ x₀ r (compileBranch settings fuel inner members name)
  branches : ∀ r c name v,
    ((¬∃ schemas, v = .array schemas ∧ schemas ≠ []) → ∀ r', Registry.Grows r r' →
      Flawed settings c₀ x₀ r') →
    (∀ schemas, v = .array schemas → ∀ (i : Nat) x, schemas[i]? = some x →
      Comes settings r c₀ x₀ (c.index i) x) →
      Explores settings c₀ x₀ r (compileBranches settings fuel c name v)
  items : ∀ r c i vs,
    (∀ (j : Nat) x, vs[j]? = some x → Comes settings r c₀ x₀ (c.index (i + j)) x) →
      Explores settings c₀ x₀ r (compileItems settings fuel c i vs)
  target : ∀ r t, r.IsTarget t → Led settings r c₀ x₀ t →
    Explores settings c₀ x₀ r (compileTarget settings fuel t)

theorem exploring_zero (settings : Settings) (c₀ : Context) (x₀ : Value) :
    Exploring settings c₀ x₀ 0 where
  compile _ c _ _ := explores_missingTarget c.place.document
  member _ _ inner _ _ _ _ _ _ := explores_missingTarget inner.place.document
  branch _ _ inner _ _ _ _ _ _ := explores_missingTarget inner.place.document
  branches _ c _ _ _ _ := explores_missingTarget c.place.document
  items _ c _ vs _ := by
    cases vs with
    | nil => exact explores_pure []
    | cons v rest => exact explores_missingTarget c.place.document
  target _ t _ _ := explores_missingTarget t.document

namespace Exploring

theorem compile_succ (ih : Exploring settings c₀ x₀ fuel) (hv : Comes settings r c₀ x₀ c v) :
    Explores settings c₀ x₀ r (Compile.compile settings (fuel + 1) c v) := by
  cases v with
  | bool b => exact explores_pure _
  | object members =>
      refine explores_inside hv fun inner hinside => ?_
      have hmembers := explores_mapM (l := members) (f := fun m =>
        compileMember settings fuel inner members m.1 m.2) fun m hm =>
          ih.member r c inner members m.1 m.2 hv hinside hm
      have hnodes := explores_bind hmembers fun nodes =>
        explores_pure (Node.keywords inner.location (nodes.filterMap id))
      dsimp only
      split
      · exact hnodes
      · exact hnodes
      · rename_i v hv' hanchor
        refine explores_bind (explores_throw (hv.flawed fun _ hfit => ?_)) fun _ => hnodes
        obtain ⟨name, rfl⟩ := Fit.anchor hfit v hanchor
        exact hv' name rfl
  | _ => exact explores_throw (hv.flawed fun _ h => h)

/-- The reference of an object is followed from the base inside it. -/
theorem reference (ih : Exploring settings c₀ x₀ fuel)
    (hobject : Comes settings r c₀ x₀ c (.object members)) (hinside : c.inside members = .ok inner)
    {text : String} (hmem : ("$ref", .string text) ∈ members) {f : Nat → Compilation β}
    (hf : ∀ r' slot, Explores settings c₀ x₀ r' (f slot)) :
    Explores settings c₀ x₀ r
      (follow settings inner.base text >>= fun t => compileTarget settings fuel t >>= f) := by
  refine explores_follow (c := inner) ?_ ?_
  · rintro r' hg ⟨e, he⟩
    refine ⟨c, .object members, hobject r' hg, fun hfit => ?_⟩
    obtain ⟨t, ht⟩ := Fit.resolves hfit inner text hinside hmem
    cases he.symm.trans ht
  · intro t r' hg hleads htarget
    refine explores_bind (ih.target r' t htarget (.inr fun r'' hg' => ?_)) fun slot => hf r' slot
    exact ⟨c, inner, members, text, hobject r'' (hg.trans hg'), hinside, hmem,
      (hleads r'' hg').follows⟩

/-- The schemas of an array that must not be empty stand at its indices. -/
theorem combinator (ih : Exploring settings c₀ x₀ fuel) {name : String} {k : Keyword}
    (hobject : Comes settings r c₀ x₀ c (.object members)) (hinside : c.inside members = .ok inner)
    (hmem : (name, v) ∈ members) (hname : Keyword.ofName? name = some k)
    (hholds : ∀ schemas (i : Nat) x, schemas[i]? = some x →
      k.HoldsAt (.array schemas) [toString i] x)
    (htakes : k.Takes v ↔ ∃ schemas, v = .array schemas ∧ schemas ≠ []) :
    Explores settings c₀ x₀ r (compileBranches settings fuel (inner.key name) name v) := by
  refine ih.branches r _ name v (fun h => ?_) ?_
  · exact hobject.flawed_of_not_takes hmem hname (mt htakes.mp h)
  · rintro schemas rfl i x hx
    exact hobject.inside hinside hmem hname (hholds schemas i x hx)

theorem member_succ (ih : Exploring settings c₀ x₀ fuel) {name : String}
    (hobject : Comes settings r c₀ x₀ c (.object members)) (hinside : c.inside members = .ok inner)
    (hmem : (name, v) ∈ members) :
    Explores settings c₀ x₀ r (compileMember settings (fuel + 1) inner members name v) := by
  cases hname : Keyword.ofName? name with
  | none =>
      simp only [compileMember, hname]
      split
      · rename_i hstrict
        exact explores_throw (hobject.flawed fun _ hfit =>
          Fit.known hfit hstrict (name, v) hmem hname)
      · exact explores_pure none
  | some k =>
      -- Where a schema stands in the value, it is compiled; where a shape is wrong, that is a flaw.
      have hflaw (hv : ¬k.Takes v) : ∀ r', Registry.Grows r r' → Flawed settings c₀ x₀ r' :=
        hobject.flawed_of_not_takes hmem hname hv
      have hat {path : List String} {schema : Value} (hschema : k.HoldsAt v path schema) :=
        hobject.inside hinside hmem hname hschema
      have hself (hschema : k.HoldsAt v [] v) :
          Explores settings c₀ x₀ r (Compile.compile settings fuel (inner.key name) v) :=
        ih.compile r _ v (by simpa using hat hschema)
      cases k with
      | informative =>
          simp only [compileMember, hname]
          exact explores_pure none
      | ref =>
          simp only [compileMember, hname]
          refine explores_orInvalid (fun h => hflaw fun hv => h (exists_readString_iff.mpr hv))
            fun text htext => ?_
          obtain rfl := eq_string_of_readString htext
          obtain rfl : name = "$ref" := Keyword.name_eq hname (by decide)
          exact ih.reference hobject hinside hmem fun _ slot => explores_pure _
      | pattern =>
          simp only [compileMember, hname, readPattern, map_bind]
          refine explores_orInvalid (fun h => hflaw ?_) fun source hsource => ?_
          · rintro ⟨source, regex, rfl, -⟩
            exact h ⟨source, rfl⟩
          · obtain rfl := eq_string_of_readString hsource
            cases hregex : Regex.parse? source with
            | none =>
                refine explores_map _ (explores_throw (hflaw ?_))
                rintro ⟨_, regex, ⟨⟩, hparse⟩
                cases hregex.symm.trans hparse
            | some regex => exact explores_map _ (explores_pure _)
      | required =>
          simp only [compileMember, hname]
          exact explores_orInvalid (fun h => hflaw fun hv => h (exists_readNames_iff.mpr hv))
            fun names _ => explores_pure _
      | properties =>
          simp only [compileMember, hname]
          cases v with
          | object schemas =>
              refine explores_bind (explores_mapM fun p hp => ?_) fun nodes => explores_pure _
              exact explores_bind (ih.compile r _ p.2 (hat (.property hp))) fun node =>
                explores_pure (p.1, node)
          | _ => exact explores_throw (hflaw (by simp [Keyword.Takes]))
      | items =>
          simp only [compileMember, hname]
          cases v with
          | array schemas =>
              refine explores_map _ (explores_map _ (ih.items r _ 0 schemas fun j x hx => ?_))
              rw [Nat.zero_add]
              exact hat (.item hx)
          | bool b => exact explores_map _ (explores_map _ (hself (.items (by simp))))
          | object schema => exact explores_map _ (explores_map _ (hself (.items (by simp))))
          | _ => exact explores_throw (hflaw (by simp [Keyword.Takes, Value.IsSchema]))
      | allOf =>
          simp only [compileMember, hname]
          exact explores_map _ (explores_map _
            (ih.combinator hobject hinside hmem hname (fun _ _ _ => .allOf) Iff.rfl))
      | anyOf =>
          simp only [compileMember, hname]
          exact explores_map _ (explores_map _
            (ih.combinator hobject hinside hmem hname (fun _ _ _ => .anyOf) Iff.rfl))
      | oneOf =>
          simp only [compileMember, hname]
          exact explores_map _ (explores_map _
            (ih.combinator hobject hinside hmem hname (fun _ _ _ => .oneOf) Iff.rfl))
      | not =>
          simp only [compileMember, hname]
          exact explores_map _ (explores_map _ (hself .not))
      | condition =>
          simp only [compileMember, hname]
          refine explores_bind (hself .condition) fun condition => ?_
          refine explores_bind (ih.branch r c inner members "then" true hobject hinside rfl)
            fun met => ?_
          exact explores_bind (ih.branch r c inner members "else" false hobject hinside rfl)
            fun unmet => explores_pure _
      | branch met =>
          simp only [compileMember, hname]
          split
          · exact explores_bind (hself .branch) fun _ => explores_pure none
          · exact explores_pure none
      | _ =>
          simp only [compileMember, hname]
          exact explores_orInvalid (fun h => hflaw fun hv => h ((exists_readCheck_iff rfl).mpr hv))
            fun check _ => explores_pure _

theorem succ (ih : Exploring settings c₀ x₀ fuel) : Exploring settings c₀ x₀ (fuel + 1) where
  compile _ _ _ := ih.compile_succ
  member _ _ _ _ _ _ := ih.member_succ
  branch r c inner members name met hobject hinside hname := by
    simp only [compileBranch]
    cases hlookup : members.lookup name with
    | none => exact explores_pure none
    | some v =>
        have hcomes := hobject.inside hinside (mem_of_lookup hlookup) hname .branch
        exact explores_map some (ih.compile r _ v (by simpa using hcomes))
  branches r c name v hflaw hschemas := by
    unfold compileBranches
    split
    · rename_i schema schemas
      exact ih.items r c 0 _ fun j x hx => by simpa using hschemas _ rfl j x hx
    · rename_i hshape
      refine explores_throw (hflaw ?_)
      rintro ⟨schemas, rfl, hne⟩
      obtain ⟨schema, schemas, rfl⟩ := List.exists_cons_of_ne_nil hne
      exact hshape schema schemas rfl
  items r c i vs hvs := by
    cases vs with
    | nil => exact explores_pure []
    | cons v rest =>
        refine explores_bind (ih.compile r _ v (hvs 0 v rfl)) fun node => ?_
        refine explores_bind (ih.items r c (i + 1) rest fun j x hx => ?_) fun nodes =>
          explores_pure (node :: nodes)
        have hnext := hvs (j + 1) x (by simpa using hx)
        rwa [Nat.add_comm j 1, ← Nat.add_assoc] at hnext
  target r t htarget hled := by
    rw [compileTarget_succ]
    exact explores_slotted htarget hled (ih.compile r _ _ hled.comes)

end Exploring

theorem exploring (settings : Settings) (c₀ : Context) (x₀ : Value) (fuel : Nat) :
    Exploring settings c₀ x₀ fuel := by
  induction fuel with
  | zero => exact exploring_zero settings c₀ x₀
  | succ fuel ih => exact ih.succ

end JsonSchema.Compile
