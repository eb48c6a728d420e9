import JsonSchema.Proofs.Compilation.Sound
import JsonSchema.Proofs.Registry.Scan
import JsonSchema.Validation.Validator

/-!
# Building validators

What a successful build has done: documents were put into the registry, the schema became the
document under its URL, and it was compiled into slots without a cycle.
-/

namespace JsonSchema

open Compile

/-- Slots that were all filled with the compiled form of the target at their place. -/
structure Complete (settings : Settings) (s : State) (slots : List Node) : Prop where
  wellIndexed : s.registry.WellIndexed
  filled : ∀ (i : Nat) place, s.places[i]? = some place → ∃ t n, t.place = place ∧
    s.registry.IsTarget t ∧ slots[i]? = some n ∧
      Compiled settings s (targetContext t) t.contents n

namespace Options

variable {r r' : Registry}

theorem evolves_insertAll (documents : List (Url × Value)) :
    Registry.Evolves r (insertAll r documents).2 := by
  induction documents generalizing r with
  | nil => exact .refl
  | cons document rest ih =>
      have hinsert := Registry.evolves_insertAt (r := r) document.1 document.1 document.2
      simp only [insertAll, Registry.insert]
      split
      · rename_i h
        rw [h] at hinsert
        exact hinsert.trans ih
      · rename_i h
        simpa only [h] using hinsert

/-- The run that compiles a document in so many steps. -/
def rootOutcome (settings : Settings) (steps : Nat) (uri base : Url) (schema : Value)
    (r : Registry) : Except CompileError Nat × State :=
  outcome (compileTarget settings steps ⟨uri, .root, base, schema⟩) ⟨r, []⟩

theorem compileRoot_eq (settings : Settings) (steps : Nat) (uri base : Url) (schema : Value)
    (r : Registry) : compileRoot settings steps uri base schema r =
      match rootOutcome settings steps uri base schema r with
      | (.error e, s) => (.error e, s.registry)
      | (.ok _, s) => match s.slots.mapM Slot.node with
        | none => (.error (missingTarget uri), s.registry)
        | some slots => match Cycle.find? slots with
          | some l => (.error (.schema (.invalidKeyword l "$ref" .idleCycle)), s.registry)
          | none => (.ok ⟨uri, slots⟩, s.registry) := by
  rcases hrun : rootOutcome settings steps uri base schema r with ⟨result, s⟩
  simp only [compileRoot]
  rw [show ExceptT.run (compileTarget settings steps ⟨uri, .root, base, schema⟩) ⟨r, []⟩ =
    (result, s) from hrun]
  cases result <;> rfl

theorem snd_compileRoot (settings : Settings) (steps : Nat) (uri base : Url) (schema : Value)
    (r : Registry) : (compileRoot settings steps uri base schema r).2 =
      (rootOutcome settings steps uri base schema r).2.registry := by
  rw [compileRoot_eq]
  rcases rootOutcome settings steps uri base schema r with ⟨e | slot, s⟩
  · rfl
  · dsimp only
    split
    · rfl
    · split <;> rfl

theorem evolves_compileRoot (settings : Settings) (steps : Nat) (uri base : Url) (schema : Value) :
    Registry.Evolves r (compileRoot settings steps uri base schema r).2 := by
  rw [snd_compileRoot]
  exact (sound settings steps).evolving_target ⟨uri, .root, base, schema⟩ ⟨r, []⟩

/-- Whatever comes of a build, the registry evolves. -/
theorem evolves_buildWith (o : Options) (retriever : Retriever) (steps : Registry → Nat)
    (schema : Value) : Registry.Evolves r (o.buildWith retriever steps r schema).2 := by
  have hall := evolves_insertAll (r := r) o.documents
  unfold buildWith
  split
  · rename_i h
    simpa only [h] using hall
  · rename_i r₁ h
    rw [h] at hall
    dsimp only
    split
    · exact hall
    · rename_i uri _
      have hinsert := Registry.evolves_insertAt (r := r₁) uri (o.baseUri.getD Url.ownBase) schema
      split
      · rename_i h
        rw [h] at hinsert
        exact hall.trans hinsert
      · rename_i h
        rw [h] at hinsert
        split
        · exact (hall.trans hinsert).trans (evolves_compileRoot _ _ _ _ _)
        · exact hall.trans hinsert

theorem evolves_buildIn (o : Options) (store : Store) (schema : Value) :
    Registry.Evolves r (o.buildIn store r schema).2 :=
  o.evolves_buildWith store _ schema

/-- What a successful run has left: filled slots, the first of them for the document itself. -/
structure Rooted (settings : Settings) (uri base : Url) (schema : Value) (s : State) : Prop where
  distinct : s.places.Nodup
  root : ∃ node rest, s.slots = ⟨⟨uri, .root⟩, some node⟩ :: rest ∧
    Compiled settings s ⟨⟨uri, .root⟩, base⟩ schema node ∧ ∀ slot ∈ rest, Filled settings s slot

/-- What the compilation of a document has left: slots without a cycle. -/
structure Linked (settings : Settings) (uri base : Url) (schema : Value) (v : Validator)
    (s : State) : Prop extends Rooted settings uri base schema s where
  document : v.document = uri
  nodes : s.slots.mapM Slot.node = some v.slots
  acyclic : Cycle.find? v.slots = none

/-- The schema of a slot, where it stands: that of the document, or the target of a reference. -/
inductive SlotSchema (s : State) (uri base : Url) (schema : Value) : Context → Value → Prop
  | root : SlotSchema s uri base schema ⟨⟨uri, .root⟩, base⟩ schema
  | target {t} (h : s.registry.IsTarget t) (hplace : t.place ≠ ⟨uri, .root⟩) :
      SlotSchema s uri base schema (targetContext t) t.contents

/-- Every slot holds the compiled form of its schema. -/
theorem Rooted.exists_schema {settings : Settings} {uri base : Url} {schema : Value}
    {s : State} (h : Rooted settings uri base schema s) {slot : Slot}
    (hslot : slot ∈ s.slots) : ∃ c x n, slot = ⟨c.place, some n⟩ ∧
      SlotSchema s uri base schema c x ∧ Compiled settings s c x n := by
  obtain ⟨node, rest, hslots, hnode, hrest⟩ := h.root
  rcases List.mem_cons.mp (hslots ▸ hslot) with rfl | hmem
  · exact ⟨_, schema, node, rfl, .root, hnode⟩
  · obtain ⟨t, n, rfl, ht, hn⟩ := hrest slot hmem
    have hdistinct := h.distinct
    simp only [State.places, hslots, List.map_cons, List.nodup_cons] at hdistinct
    have hplace : t.place ≠ ⟨uri, .root⟩ := fun heq =>
      hdistinct.1 (List.mem_map.mpr ⟨_, hmem, heq⟩)
    exact ⟨targetContext t, t.contents, n, rfl, .target ht hplace, hn s (.refl s)⟩

/-- The slots are complete if the document is the target at its own place. -/
theorem Rooted.complete {settings : Settings} {uri base : Url} {schema : Value} {s : State}
    {slots : List Node} (h : Rooted settings uri base schema s)
    (hnodes : s.slots.mapM Slot.node = some slots) (hr : s.registry.WellIndexed)
    (htarget : s.registry.IsTarget ⟨uri, .root, base, schema⟩) : Complete settings s slots := by
  refine ⟨hr, fun i place hplace => ?_⟩
  rw [State.places, List.getElem?_map, Option.map_eq_some_iff] at hplace
  obtain ⟨slot, hslot, rfl⟩ := hplace
  obtain ⟨c, x, n, rfl, hschema, hn⟩ := h.exists_schema (List.mem_of_getElem? hslot)
  have hnode := getElem?_mapM hnodes hslot
  cases hschema with
  | root => exact ⟨⟨uri, .root, base, schema⟩, n, rfl, htarget, hnode, hn⟩
  | @target t ht => exact ⟨t, n, rfl, ht, hnode, hn⟩

theorem Linked.exists_node {settings : Settings} {uri base : Url} {schema : Value}
    {v : Validator} {s : State} (h : Linked settings uri base schema v s) {slot : Nat}
    {place : Place} (hslot : s.places[slot]? = some place) : ∃ c x n, c.place = place ∧
      SlotSchema s uri base schema c x ∧ v.slots[slot]? = some n ∧ Compiled settings s c x n := by
  rw [State.places, List.getElem?_map, Option.map_eq_some_iff] at hslot
  obtain ⟨taken, htaken, rfl⟩ := hslot
  obtain ⟨c, x, n, rfl, hschema, hn⟩ := h.exists_schema (List.mem_of_getElem? htaken)
  exact ⟨c, x, n, rfl, hschema, getElem?_mapM h.nodes htaken, hn⟩

theorem Linked.root_eq {settings : Settings} {uri base : Url} {schema : Value} {v : Validator}
    {s : State} (h : Linked settings uri base schema v s) :
    Compiled settings s ⟨⟨uri, .root⟩, base⟩ schema v.root := by
  obtain ⟨node, rest, hslots, hnode, -⟩ := h.root
  have hfirst : s.slots[0]? = some ⟨⟨uri, .root⟩, some node⟩ := by rw [hslots]; rfl
  have hroot : v.slots[0]? = some node := getElem?_mapM h.nodes hfirst
  have hhead : v.root = node := by
    rw [Validator.root, List.headD_eq_head?_getD, List.head?_eq_getElem?, hroot, Option.getD_some]
  exact hhead ▸ hnode

/-- A successful run has filled all slots, the first of them for the document. -/
theorem rooted_of_rootOutcome {settings : Settings} {steps : Nat} {uri base : Url} {schema : Value}
    {slot : Nat} {s : State} (hr : r.WellIndexed)
    (h : rootOutcome settings steps uri base schema r = (.ok slot, s)) :
    slot = 0 ∧ Registry.Evolves r s.registry ∧ Rooted settings uri base schema s := by
  rw [rootOutcome] at h
  cases steps with
  | zero =>
      have herror := congrArg Prod.fst h
      cases herror
  | succ fuel =>
      obtain ⟨rfl, hevolves, hdistinct, node, rest, hslots, hnode, hrest⟩ :=
        exists_node_of_new (sound settings fuel) (s := ⟨r, []⟩) hr rfl h
      exact ⟨rfl, hevolves, hdistinct .nil, node, rest, hslots, hnode _ (.refl _), hrest⟩

theorem exists_linked {settings : Settings} {steps : Nat} {uri base : Url} {schema : Value}
    {v : Validator} (hr : r.WellIndexed)
    (h : compileRoot settings steps uri base schema r = (.ok v, r')) :
    ∃ s, s.registry = r' ∧ Registry.Evolves r s.registry ∧ Linked settings uri base schema v s := by
  rw [compileRoot_eq] at h
  split at h
  · simp at h
  · rename_i slot s hrun
    obtain ⟨-, hevolves, hrooted⟩ := rooted_of_rootOutcome hr hrun
    split at h
    · simp at h
    · rename_i slots hnodes
      split at h
      · simp at h
      · rename_i hcycle
        simp only [Prod.mk.injEq, Except.ok.injEq] at h
        obtain ⟨rfl, rfl⟩ := h
        exact ⟨s, rfl, hevolves, hrooted, rfl, hnodes, hcycle⟩

/-- The base of a schema without an absolute `$id`. -/
def base (o : Options) : Url := o.baseUri.getD Url.ownBase

theorem withoutFragment_base (o : Options) : o.base.withoutFragment = o.base := by
  unfold base
  cases h : o.baseUri with
  | none => decide
  | some uri => exact o.baseUri_bare uri h

/-- The steps of a build that comes to compilation: the schema was put into the registry as the
document under its URL, or is identical with the document that was there. -/
structure Enters (o : Options) (schema : Value) (r : Registry) where
  uri : Url
  before : Registry
  root : Document
  inserted : Registry
  insertAll_eq : insertAll r o.documents = (.ok (), before)
  documentUri_eq : documentUri o.base schema = .ok uri
  insertAt_eq : before.insertAt uri o.base schema = (.ok root, inserted)
  identical : root.contents.identical schema = true

/-- A build comes to compilation, or fails with a document that is not to be had, in however many
steps. -/
theorem nonempty_enters_or_error (o : Options) (r : Registry) (schema : Value) :
    Nonempty (Enters o schema r) ∨
      ∃ e r', ∀ retriever steps, o.buildWith retriever steps r schema =
        (.error (.resolution e), r') := by
  rcases hall : insertAll r o.documents with ⟨e | ⟨⟩, before⟩
  · exact .inr ⟨e, before, fun _ _ => by simp only [buildWith, hall]⟩
  · cases huri : documentUri (o.baseUri.getD Url.ownBase) schema with
    | error e => exact .inr ⟨e, before, fun _ _ => by simp only [buildWith, hall, huri]⟩
    | ok uri =>
        rcases hinsert : before.insertAt uri (o.baseUri.getD Url.ownBase) schema with
          ⟨e | root, inserted⟩
        · exact .inr ⟨e, inserted, fun _ _ => by simp only [buildWith, hall, huri, hinsert]⟩
        · cases hidentical : root.contents.identical schema with
          | true => exact .inl ⟨⟨uri, before, root, inserted, hall, huri, hinsert, hidentical⟩⟩
          | false => exact .inr ⟨.conflict uri, inserted, fun _ _ => by
              simp [buildWith, hall, huri, hinsert, hidentical]⟩

variable {o : Options} {store : Store} {schema : Value} {v : Validator}

theorem nonempty_enters {retriever : Retriever} {steps : Registry → Nat}
    (h : o.buildWith retriever steps r schema = (.ok v, r')) : Nonempty (Enters o schema r) := by
  refine (nonempty_enters_or_error o r schema).resolve_right ?_
  rintro ⟨e, r'', he⟩
  rw [he] at h
  cases h

/-- The URL of a schema is the base inside it. -/
theorem Enters.baseInside_eq (h : Enters o schema r) :
    Document.baseInside o.base schema = .ok h.uri :=
  h.documentUri_eq

theorem Enters.withoutFragment_uri (h : Enters o schema r) : h.uri.withoutFragment = h.uri :=
  Document.withoutFragment_of_baseInside o.withoutFragment_base h.baseInside_eq

theorem Enters.buildWith_eq (h : Enters o schema r) (retriever : Retriever)
    (steps : Registry → Nat) : o.buildWith retriever steps r schema =
      compileRoot (o.settings retriever) (steps h.inserted) h.uri o.base schema h.inserted := by
  have huri : documentUri (o.baseUri.getD Url.ownBase) schema = .ok h.uri := h.documentUri_eq
  have hinsert : h.before.insertAt h.uri (o.baseUri.getD Url.ownBase) schema =
      (.ok h.root, h.inserted) := h.insertAt_eq
  simp [buildWith, h.insertAll_eq, huri, hinsert, h.identical, base]

theorem Enters.buildIn_eq (h : Enters o schema r) (store : Store) : o.buildIn store r schema =
    compileRoot (o.settings store) (compileSteps store h.inserted schema) h.uri o.base schema
      h.inserted :=
  h.buildWith_eq store _

/-- The steps of a successful build. -/
structure Builds (o : Options) (store : Store) (schema : Value) (r : Registry) (v : Validator)
    (r' : Registry) extends Enters o schema r where
  compileRoot_eq : compileRoot (o.settings store) (compileSteps store inserted schema) uri o.base
    schema inserted = (.ok v, r')

theorem exists_builds (h : o.buildIn store r schema = (.ok v, r')) :
    Nonempty (Builds o store schema r v r') := by
  obtain ⟨henters⟩ := nonempty_enters h
  exact ⟨⟨henters, (henters.buildIn_eq store).symm.trans h⟩⟩

/-- What comes of compilation in so many steps. -/
def Enters.run (h : Enters o schema r) (retriever : Retriever) (steps : Nat) :
    Except CompileError Nat × State :=
  rootOutcome (o.settings retriever) steps h.uri o.base schema h.inserted

theorem Enters.buildWith_of_run (h : Enters o schema r) (retriever : Retriever)
    (steps : Registry → Nat) :
    o.buildWith retriever steps r schema = match h.run retriever (steps h.inserted) with
      | (.error e, s) => (.error e, s.registry)
      | (.ok _, s) => match s.slots.mapM Slot.node with
        | none => (.error (missingTarget h.uri), s.registry)
        | some slots => match Cycle.find? slots with
          | some l => (.error (.schema (.invalidKeyword l "$ref" .idleCycle)), s.registry)
          | none => (.ok ⟨h.uri, slots⟩, s.registry) := by
  rw [h.buildWith_eq, compileRoot_eq]
  rfl

/-- What a successful build has compiled. -/
theorem Enters.exists_run {retriever : Retriever} {steps : Registry → Nat}
    (h : Enters o schema r) (hbuild : o.buildWith retriever steps r schema = (.ok v, r')) :
    ∃ slot s, h.run retriever (steps h.inserted) = (.ok slot, s) ∧ s.registry = r' ∧
      s.slots.mapM Slot.node = some v.slots ∧ v.document = h.uri ∧
      Cycle.find? v.slots = none := by
  rw [h.buildWith_of_run] at hbuild
  rcases hrun : h.run retriever (steps h.inserted) with ⟨e | slot, s⟩ <;> rw [hrun] at hbuild
  · simp at hbuild
  · refine ⟨slot, s, rfl, ?_⟩
    dsimp only at hbuild
    split at hbuild
    · simp at hbuild
    · rename_i slots hnodes
      split at hbuild
      · simp at hbuild
      · rename_i hcycle
        simp only [Prod.mk.injEq, Except.ok.injEq] at hbuild
        obtain ⟨rfl, rfl⟩ := hbuild
        exact ⟨rfl, hnodes, rfl, hcycle⟩

theorem Enters.evolves_inserted (h : Enters o schema r) : Registry.Evolves r h.inserted := by
  have hall := evolves_insertAll (r := r) o.documents
  have hinsert := Registry.evolves_insertAt (r := h.before) h.uri o.base schema
  rw [h.insertAll_eq] at hall
  rw [h.insertAt_eq] at hinsert
  exact hall.trans hinsert

/-- All slots are filled when compilation succeeds. -/
theorem Enters.exists_nodes (h : Enters o schema r) (hr : r.WellIndexed) {retriever : Retriever}
    {steps slot : Nat} {s : State} (hrun : h.run retriever steps = (.ok slot, s)) :
    ∃ nodes, s.slots.mapM Slot.node = some nodes := by
  obtain ⟨-, -, hrooted⟩ := rooted_of_rootOutcome (h.evolves_inserted.wellIndexed hr) hrun
  refine exists_mapM_some fun slot hslot => ?_
  obtain ⟨c, x, n, rfl, -⟩ := hrooted.exists_schema hslot
  rfl

theorem Enters.find?_root (h : Enters o schema r) : h.inserted.find? h.uri = some h.root := by
  have hget := Registry.get?_of_insertAt h.insertAt_eq
  rwa [Registry.get?, h.withoutFragment_uri] at hget

theorem Enters.uri_root (h : Enters o schema r) : h.root.uri = h.uri := by
  simpa using List.find?_some h.find?_root

/-- With no documents around it, a schema is added to an empty registry. -/
theorem Enters.add_eq (h : Enters o schema {}) (hdocuments : o.documents = []) :
    Registry.add {} ⟨h.uri, o.base, schema⟩ = (.ok h.root, h.inserted) := by
  have hall := h.insertAll_eq
  rw [hdocuments] at hall
  have hinsert := h.insertAt_eq
  rw [← (Prod.mk.inj hall).2] at hinsert
  simpa [Registry.insertAt, Registry.get?, Registry.find?, h.withoutFragment_uri,
    o.withoutFragment_base] using hinsert

/-- So it becomes the target at its own place. -/
theorem Enters.isTarget_root (h : Enters o schema {}) (hdocuments : o.documents = []) :
    h.inserted.IsTarget ⟨h.uri, .root, o.base, schema⟩ := by
  obtain ⟨hroot, -⟩ := Registry.add_ok (h.add_eq hdocuments)
  refine ⟨h.root, ?_, by rw [hroot]; rfl, by rw [hroot]; rfl⟩
  rw [Registry.get?, h.withoutFragment_uri]
  exact h.find?_root

theorem Enters.grows_buildIn (h : Enters o schema r) (store : Store) :
    Registry.Grows h.inserted (o.buildIn store r schema).2 := by
  rw [h.buildIn_eq]
  exact (evolves_compileRoot _ _ _ _ _).grows

/-- The document stays under the URL of the schema, whatever comes of compilation. -/
theorem Enters.get?_root (h : Enters o schema r) (store : Store) :
    (o.buildIn store r schema).2.get? h.uri = some h.root := by
  rw [Registry.get?, h.withoutFragment_uri]
  exact (h.grows_buildIn store).find? h.find?_root

theorem Builds.buildIn_eq (h : Builds o store schema r v r') :
    o.buildIn store r schema = (.ok v, r') :=
  (h.toEnters.buildIn_eq store).trans h.compileRoot_eq

theorem Builds.exists_linked (h : Builds o store schema r v r') (hr : r.WellIndexed) :
    ∃ s, s.registry = r' ∧ Registry.Evolves h.inserted s.registry ∧
      Linked (o.settings store) h.uri o.base schema v s :=
  Options.exists_linked (h.evolves_inserted.wellIndexed hr) h.compileRoot_eq

theorem exists_build_of_document (o : Options) (store : Store) (r : Registry) (schema : Value)
    (uri : Url) (h : (o.buildIn store r schema).1.toOption.map Validator.document = some uri) :
    ∃ v r', o.buildIn store r schema = (.ok v, r') ∧ v.document = uri := by
  rcases hbuild : o.buildIn store r schema with ⟨_ | v, r'⟩
  · simp [hbuild, Except.toOption] at h
  · exact ⟨v, r', rfl, by simpa [hbuild, Except.toOption] using h⟩

end Options

/-- The registries that any sequence of operations comes to, builds in any number of steps among
them. -/
inductive Registry.Reachable : Registry → Prop
  | empty : Reachable {}
  | insert {r : Registry} (uri : Url) (contents : Value) (h : Reachable r) :
      Reachable (r.insert uri contents).2
  | load {r : Registry} (retriever : Retriever) (uri : Url) (h : Reachable r) :
      Reachable (r.load retriever uri).2
  | resolve {r : Registry} (retriever : Retriever) (base : Url) (reference : String)
      (h : Reachable r) : Reachable (r.resolve retriever base reference).2
  | build {r : Registry} (o : Options) (retriever : Retriever) (steps : Registry → Nat)
      (schema : Value) (h : Reachable r) : Reachable (o.buildWith retriever steps r schema).2

theorem Registry.Reachable.buildIn {r : Registry} (h : Reachable r) (o : Options) (store : Store)
    (schema : Value) : Reachable (o.buildIn store r schema).2 :=
  .build o store _ schema h

theorem Registry.Reachable.evolves {r : Registry} (h : Reachable r) : Evolves {} r := by
  induction h with
  | empty => exact .refl
  | insert uri contents _ ih => exact ih.trans (evolves_insertAt uri uri contents)
  | load retriever uri _ ih => exact ih.trans (evolves_load retriever uri)
  | resolve retriever base reference _ ih =>
      exact ih.trans (evolves_resolve retriever base reference)
  | build o retriever steps schema _ ih =>
      exact ih.trans (o.evolves_buildWith retriever steps schema)

theorem Registry.Reachable.wellIndexed {r : Registry} (h : Reachable r) : r.WellIndexed :=
  h.evolves.wellIndexed wellIndexed_empty

end JsonSchema
