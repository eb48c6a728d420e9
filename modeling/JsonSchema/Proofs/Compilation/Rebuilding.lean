import JsonSchema.Proofs.Compilation.Termination
import JsonSchema.Proofs.Registry.History

/-!
# Building again

What a successful build has used of its registry is fixed from then on: its documents, and the
answers to its references. So the same build can be done again at any later time. It takes the same
steps, and all that it asks for is there.
-/

namespace JsonSchema

namespace Compile

variable {α β : Type} {settings : Settings} {store : Store}

/-- Whatever run the first computation has, the second one has in every later registry. It leaves
that registry as it is, and the same slots. -/
structure Repeats (x y : Compilation α) : Prop where
  evolving : Evolving x
  again : ∀ s a s', s.registry.WellIndexed → Runs x s a s' →
    ∀ r, Registry.Grows s'.registry r → Runs y ⟨r, s.slots⟩ a ⟨r, s'.slots⟩

theorem repeats_bind {x y : Compilation α} {f g : α → Compilation β} (h : Repeats x y)
    (hf : ∀ a, Repeats (f a) (g a)) : Repeats (x >>= f) (y >>= g) := by
  refine ⟨evolving_bind h.evolving fun a => (hf a).evolving, ?_⟩
  intro s b s' hs hrun r hr
  obtain ⟨a, mid, hx, hfa⟩ := runs_bind.mp hrun
  have hevolves := h.evolving s
  have hrest := (hf a).evolving mid
  rw [hx] at hevolves
  rw [hfa] at hrest
  have hbefore := h.again s a mid hs hx r (hrest.grows.trans hr)
  exact runs_bind.mpr ⟨a, _, hbefore, (hf a).again mid b s' (hevolves.wellIndexed hs) hfa r hr⟩

/-- Where a reference was followed, it is followed to the same target later. -/
theorem repeats_follow (settings : Settings) (retriever : Retriever) (base : Url)
    (reference : String) : Repeats (follow settings base reference)
      (follow { settings with retriever } base reference) := by
  refine ⟨evolving_follow, ?_⟩
  intro s t s' hs hrun r hr
  obtain ⟨hresolve, hslots⟩ := resolve_of_runs_follow hrun
  obtain ⟨-, hleads⟩ := Registry.leads_of_resolve hs hresolve
  rw [Runs, outcome_follow, hleads r hr retriever, hslots]
  rfl

/-- The same slots are found and taken, since their places are the same. -/
theorem repeats_slotted (place : Place) {x y : Compilation Node} (h : Repeats x y) :
    Repeats (slotted place x) (slotted place y) := by
  constructor
  · intro s
    rw [outcome_slotted]
    split
    · exact .refl
    · have hs := h.evolving (s.take place)
      split <;> rename_i hrun <;> rw [hrun] at hs <;> exact hs
  · intro s slot s' hs hrun r hr
    rw [Runs, outcome_slotted] at hrun ⊢
    have hsame : State.slotOf? ⟨r, s.slots⟩ place = s.slotOf? place := rfl
    rw [hsame]
    cases hslot : s.slotOf? place with
    | some i =>
        rw [hslot] at hrun
        cases hrun
        rfl
    | none =>
        rw [hslot] at hrun
        rcases hx : outcome x (s.take place) with ⟨e | node, mid⟩ <;> simp only [hx] at hrun
        · simp at hrun
        · cases hrun
          have hagain : outcome y (State.take ⟨r, s.slots⟩ place) = (.ok node, ⟨r, mid.slots⟩) :=
            h.again (s.take place) node mid hs hx r hr
          simp only [hagain]
          rfl

theorem respected_repeats (settings : Settings) (retriever : Retriever) :
    Respected settings retriever fun x y => Repeats x y where
  value a := ⟨evolving_pure, fun s b s' _ hrun r _ => by
    obtain ⟨rfl, rfl⟩ := runs_pure.mp hrun
    exact runs_pure.mpr ⟨rfl, rfl⟩⟩
  error _ := ⟨evolving_throw, fun _ _ _ _ hrun => absurd hrun runs_throw⟩
  bind h hf := repeats_bind h hf
  follow := repeats_follow settings retriever
  slotted place _ _ h := repeats_slotted place h
  ended _ _ := ⟨evolving_throw, fun _ _ _ _ hrun => absurd hrun runs_throw⟩

end Compile

namespace Options

open Compile

variable {r r' R : Registry} {o : Options} {store : Store} {schema : Value} {v : Validator}

/-- A document that was put into a registry is there later. -/
theorem insertAt_of_grows {uri base : Url} {contents : Value} {d : Document}
    (h : r.insertAt uri base contents = (.ok d, r')) (hR : Registry.Grows r' R) :
    R.insertAt uri base contents = (.ok d, R) := by
  have hd : R.get? uri = some d := hR.find? (Registry.get?_of_insertAt h)
  simp only [Registry.insertAt, hd]

/-- Documents that were put into a registry are there later. -/
theorem insertAll_of_grows {documents : List (Url × Value)}
    (h : insertAll r documents = (.ok (), r')) (hR : Registry.Grows r' R) :
    insertAll R documents = (.ok (), R) := by
  induction documents generalizing r with
  | nil => rfl
  | cons document documents ih =>
      simp only [insertAll] at h ⊢
      split at h
      · rename_i d mid hinsert
        have hrest := evolves_insertAll (r := mid) documents
        rw [h] at hrest
        rw [Registry.insert, insertAt_of_grows hinsert (hrest.grows.trans hR)]
        exact ih h
      · simp at h

theorem Enters.grows_inserted (h : Enters o schema r) : Registry.Grows h.before h.inserted := by
  have hevolves := Registry.evolves_insertAt (r := h.before) h.uri o.base schema
  rw [h.insertAt_eq] at hevolves
  exact hevolves.grows

/-- The steps of a build, taken again. -/
def Enters.again (h : Enters o schema r) (hR : Registry.Grows h.inserted R) :
    Enters o schema R where
  uri := h.uri
  before := R
  root := h.root
  inserted := R
  insertAll_eq := insertAll_of_grows h.insertAll_eq (h.grows_inserted.trans hR)
  documentUri_eq := h.documentUri_eq
  insertAt_eq := insertAt_of_grows h.insertAt_eq hR
  identical := h.identical

/-- A schema that was built is built again in every later registry, with any store, to the same
validator, and the registry stays as it is. -/
theorem buildIn_of_grows (hr : r.WellIndexed) (h : o.buildIn store r schema = (.ok v, r'))
    (hR : R.WellIndexed) (hgrows : Registry.Grows r' R) (store' : Store) :
    o.buildIn store' R schema = (.ok v, R) := by
  obtain ⟨hbuilds⟩ := exists_builds h
  have henters := hbuilds.toEnters
  obtain ⟨slot, s, hrun, rfl, hnodes, hdocument, hcycle⟩ := henters.exists_outcome h
  have hinserted := henters.grows_buildIn store
  rw [h] at hinserted
  -- The second run gets as many steps as either build has, and more of them change nothing.
  let again := henters.again (hinserted.trans hgrows)
  obtain ⟨hsettled, -⟩ := (again.ending hR store').settled
    (compileSteps store henters.inserted schema + compileSteps store' R schema)
    (Nat.le_add_left _ _)
  have hrepeats := (sideBySide (respected_repeats (o.settings store) store')
    (compileSteps store henters.inserted schema) (compileSteps store' R schema)).target
      henters.target
  have hagain : again.outcome store' = (.ok slot, ⟨R, s.slots⟩) := by
    rw [← hsettled]
    exact hrepeats.again ⟨henters.inserted, []⟩ slot s (henters.evolves_inserted.wellIndexed hr)
      hrun R hgrows
  rw [again.buildIn_of_outcome, hagain]
  simp only [hnodes, hcycle]
  rw [show again.uri = v.document from hdocument.symm]

/-- After a successful build, whatever is done with the registry, the same build succeeds again. It
gives the same validator, and the registry stays as it is: no store is asked for anything. -/
theorem buildIn_after_buildIn (hr : r.Reachable) (h : o.buildIn store r schema = (.ok v, r'))
    (history : List Registry.Operation) (store' : Store) :
    o.buildIn store' (r'.after history) schema = (.ok v, r'.after history) := by
  have hafter := Registry.evolves_after r' history
  have hr' : r'.WellIndexed := by
    have hevolves := o.evolves_buildIn (r := r) store schema
    rw [h] at hevolves
    exact hevolves.wellIndexed hr.wellIndexed
  exact buildIn_of_grows hr.wellIndexed h (hafter.wellIndexed hr') hafter.grows store'

/-- What is done in between: a document claims the URL of another one, one is not to be had, and
a schema does not compile. -/
def meantime : List Registry.Operation :=
  [.insert { Url.ownBase with path := "/rival" } (.object [("$id", .string "/far")]),
    .load {} { Url.ownBase with path := "/nowhere" },
    .build nearOptions {} (compileSteps {} · .null) .null]

theorem buildIn_after_buildIn_outward : ∃ v r', Registry.Reachable {} ∧
    nearOptions.buildIn farStore {} outward = (.ok v, r') ∧
      nearOptions.buildIn {} (r'.after meantime) outward = (.ok v, r'.after meantime) := by
  obtain ⟨v, r', hbuild, -⟩ := exists_build_outward
  exact ⟨v, r', .empty, hbuild, buildIn_after_buildIn .empty hbuild meantime {}⟩

end Options
end JsonSchema
