import JsonSchema.Proofs.Compilation.Reached
import JsonSchema.Proofs.Compilation.Termination

/-!
# Slots and what they are for

The slots that a successful build leaves: each is for another place, holds the compiled form of what
stands there, and whatever reference is in it, however deep, holds the slot of the very place that
the registry answers with. So evaluation follows references to the schemas that they mean.
-/

namespace JsonSchema

/-- A node directly below another one in a tree. -/
inductive Node.Child : Node → Node → Prop
  | inPlace {n n'} (h : InPlace n n') : Child n n'
  | property {l members name n} (h : (name, n) ∈ members) : Child (.properties l members) n
  | uniformItem {l n} : Child (.uniformItems l n) n
  | positionalItem {l nodes n} (h : n ∈ nodes) : Child (.positionalItems l nodes) n

/-- Whatever is below a node is asked for some value. -/
theorem Node.Child.exists_call {n n' : Node} (h : Child n n') (slots : List Node) :
    ∃ v v', Call slots (n, v) (n', v') := by
  cases h with
  | inPlace h => exact ⟨.null, .null, .inPlace h⟩
  | @property l members name n h =>
      have hget : (Value.object [(name, .null)]).get? name = some .null := by
        simp [Value.get?]
      exact ⟨_, _, .property (mem_presentMembers.mpr ⟨h, hget⟩)⟩
  | uniformItem =>
      exact ⟨.array [.null], .null, .uniformItem (i := 0) (mem_allItems.mpr ⟨_, rfl, rfl⟩)⟩
  | @positionalItem l nodes n h =>
      obtain ⟨i, hi⟩ := List.mem_iff_getElem?.mp h
      have hnull : (List.replicate (i + 1) Value.null)[i]? = some .null := by simp
      exact ⟨_, _, .positionalItem (mem_positionedItems.mpr ⟨_, rfl, hi, hnull⟩)⟩

theorem Node.Child.ne_reference {n n' : Node} (h : Child n n') (l : SchemaLocation) (slot : Nat) :
    n ≠ .reference l slot := by
  rintro rfl
  cases h with
  | inPlace h => cases h

namespace Compile

variable {settings : Settings} {s : State} {c₀ : Context} {x₀ : Value}

/-- A schema stands inside another one, in the context that compilation has there. -/
inductive Inside (c₀ : Context) (x₀ : Value) : Context → Value → Prop
  | self : Inside c₀ x₀ c₀ x₀
  | descend {c inner members name k v path schema} (h : Inside c₀ x₀ c (.object members))
      (hinside : c.inside members = .ok inner) (hmem : (name, v) ∈ members)
      (hname : Keyword.ofName? name = some k) (hschema : k.HoldsAt v path schema) :
      Inside c₀ x₀ ((inner.key name).along path) schema

theorem inherited_inside : Inherited (Inside c₀ x₀) :=
  fun _ _ _ _ _ _ _ _ h hinside hmem hname hschema => .descend h hinside hmem hname hschema

/-- What holds of a node goes on to the whole tree below it. -/
theorem Sited.of_child {P : Context → Value → Prop} (hP : Inherited P) {n n' : Node}
    (h : Sited settings s P n) (hchild : Node.Child n n') : Sited settings s P n' := by
  obtain ⟨v, v', hcall⟩ := hchild.exists_call []
  rcases h.of_call hP hcall with ⟨l, slot, hn⟩ | h
  · exact absurd hn (hchild.ne_reference l slot)
  · exact h

/-- A reference was compiled from a `$ref`, in a schema object with a property. -/
theorem Sited.exists_reference {P : Context → Value → Prop} {l : SchemaLocation} {target : Nat}
    (h : Sited settings s P (.reference l target)) : ∃ c inner members text t,
      P c (.object members) ∧ c.inside members = .ok inner ∧ ("$ref", .string text) ∈ members ∧
        l = (inner.key "$ref").location ∧ s.registry.Leads inner.base text t ∧
          s.places[target]? = some t.place := by
  cases h with
  | schema hP h => cases h
  | @member c inner members name v _ hP hinside hmem h =>
      generalize hnode : some (Node.reference l target) = node at h
      cases h with
      | check =>
          obtain ⟨check, -, hcheck⟩ := Option.map_eq_some_iff.mp hnode.symm
          cases hcheck
      | @reference _ _ _ text t slot hname hleads hslot =>
          cases hnode
          obtain rfl : name = "$ref" := Keyword.name_eq hname (by decide)
          exact ⟨c, inner, members, text, t, hP, hinside, hmem, rfl, hleads, hslot⟩
      | _ => cases hnode

end Compile

namespace Options

open Compile

variable {settings : Settings} {base : Url} {schema : Value} {v : Validator} {s : State}

/-- A slot was taken for a schema, where it stands in a document that is kept. -/
structure TakenFor (s : State) (uri base : Url) (schema : Value) (slot : Nat) (c : Context)
    (x : Value) : Prop where
  place : s.places[slot]? = some c.place
  schema : SlotSchema s uri base schema c x

/-- The slots of a validator as compilation has left them. -/
structure Arena (settings : Settings) (base : Url) (schema : Value) (v : Validator) (s : State) :
    Prop where
  /-- All slots are filled. -/
  filled : s.slots.mapM Slot.node = some v.slots
  /-- The first slot is the document of the schema, as it is kept. -/
  root : s.places[0]? = some ⟨v.document, .root⟩
  document : ∃ d, s.registry.get? v.document = some d ∧ d.contents.identical schema = true
  distinct : s.places.Nodup
  /-- Each holds the compiled form of what stands at its place, and is located there. -/
  compiled : ∀ (slot : Nat) node, v.slots[slot]? = some node →
    ∃ c x, TakenFor s v.document base schema slot c x ∧ node.location = c.location ∧
      Compiled settings s c x node
  /-- Each reference in it comes from a `$ref` inside the schema of the slot, and holds the slot of
  the target that the registry answers with for the text and its base. So it leads to the node that
  is located there. -/
  references : ∀ (slot : Nat) node l target, v.slots[slot]? = some node →
    Relation.ReflTransGen Node.Child node (.reference l target) →
      target < v.slots.length ∧ ∃ c₀ x₀ c inner members text t,
        TakenFor s v.document base schema slot c₀ x₀ ∧
        Inside c₀ x₀ c (.object members) ∧ c.inside members = .ok inner ∧
        ("$ref", .string text) ∈ members ∧ l = (inner.key "$ref").location ∧
        (∀ store, s.registry.resolve store inner.base text = (.ok t, s.registry)) ∧
        s.places[target]? = some t.place ∧
        ∃ found, v.slots[target]? = some found ∧ found.location = ⟨t.document, t.pointer⟩

theorem Linked.exists_takenFor {uri : Url} (h : Linked settings uri base schema v s) {slot : Nat}
    {node : Node} (hnode : v.slots[slot]? = some node) :
    ∃ c x, TakenFor s uri base schema slot c x ∧ Compiled settings s c x node := by
  obtain ⟨taken, htaken, hfilled⟩ :=
    exists_getElem?_of_forall₂ (forall₂_of_mapM_some h.nodes) hnode
  obtain ⟨c, x, n, rfl, hschema, hn⟩ := h.exists_schema (List.mem_of_getElem? htaken)
  obtain rfl : n = node := Option.some.inj hfilled
  exact ⟨c, x, ⟨by simp [State.places, htaken], hschema⟩, hn⟩

theorem Linked.arena {uri : Url} (h : Linked settings uri base schema v s)
    (hdocument : ∃ d, s.registry.get? uri = some d ∧ d.contents.identical schema = true) :
    Arena settings base schema v s := by
  obtain ⟨node₀, rest, hslots, -⟩ := h.root
  have hroot : s.places[0]? = some ⟨uri, .root⟩ := by
    rw [State.places, hslots]
    rfl
  obtain rfl : v.document = uri := h.document
  refine ⟨h.nodes, hroot, hdocument, h.distinct, ?_, ?_⟩
  · intro slot node hnode
    obtain ⟨c, x, htaken, hcompiled⟩ := h.exists_takenFor hnode
    exact ⟨c, x, htaken, hcompiled.location_eq, hcompiled⟩
  · intro slot node l target hnode hbelow
    obtain ⟨c₀, x₀, htaken, hcompiled⟩ := h.exists_takenFor hnode
    have hsited : Sited settings s (Inside c₀ x₀) (.reference l target) := by
      generalize Node.reference l target = n at hbelow
      induction hbelow with
      | refl => exact .schema .self hcompiled
      | tail _ hchild ih => exact ih.of_child inherited_inside hchild
    obtain ⟨c, inner, members, text, t, hobject, hinside, hmem, hl, hleads, hplace⟩ :=
      hsited.exists_reference
    obtain ⟨c', x', found, hc', -, hfound, hn'⟩ := h.exists_node hplace
    have hlocation : found.location = ⟨t.document, t.pointer⟩ := by
      rw [hn'.location_eq, Context.location, hc']
      rfl
    exact ⟨(List.getElem?_eq_some_iff.mp hfound).1, c₀, x₀, c, inner, members, text, t, htaken,
      hobject, hinside, hmem, hl, hleads, hplace, found, hfound, hlocation⟩

variable {r r' : Registry} {o : Options} {store : Store}

/-- A build never fails because of a slot that is not filled, and whatever it builds has slots that
references lead to as they should. -/
theorem arena_of_buildIn (hr : r.Reachable) (o : Options) (store : Store) (schema : Value) :
    (∀ document, (o.buildIn store r schema).1 ≠ .error (missingTarget document)) ∧
    ∀ v r', o.buildIn store r schema = (.ok v, r') →
      ∃ s, s.registry = r' ∧ Arena (o.settings store) o.base schema v s := by
  refine ⟨buildIn_ne_missingTarget hr.wellIndexed o store schema, ?_⟩
  intro v r' h
  obtain ⟨hbuilds⟩ := exists_builds h
  obtain ⟨s, rfl, -, hlinked⟩ := hbuilds.exists_linked hr.wellIndexed
  have hget := hbuilds.get?_root store
  rw [h] at hget
  exact ⟨s, rfl, hlinked.arena ⟨_, hget, hbuilds.identical⟩⟩

/-- The slots of a schema whose references lead around. -/
theorem arena_of_buildIn_outward : ∃ v s, Registry.Reachable {} ∧
    nearOptions.buildIn farStore {} outward = (.ok v, s.registry) ∧ v.slots.length = 3 ∧
      Arena (nearOptions.settings farStore) nearOptions.base outward v s := by
  obtain ⟨v, r', hbuild, hlength⟩ := exists_build_outward
  obtain ⟨-, harena⟩ := arena_of_buildIn .empty nearOptions farStore outward
  obtain ⟨s, rfl, hs⟩ := harena v r' hbuild
  exact ⟨v, s, .empty, hbuild, hlength, hs⟩

end Options
end JsonSchema
