import JsonSchema.Proofs.Compilation.Slots
import JsonSchema.Proofs.Evaluation.Cyclic
import JsonSchema.Proofs.Registry.Asking

/-!
# Schemas that apply one another in place

A schema applies the schemas in its combining keywords and the target of its `$ref` to the very
value that it is asked about. The search for cycles looks at compiled slots only, but what it finds
are these applications: where it finds no cycle, no schema that was compiled applies itself, and
where it finds one, the schema of a slot does.
-/

namespace JsonSchema

open Relation

namespace Compile

variable {settings : Settings} {s : State}

/-- A schema applies another one to the very value that it is asked about. -/
inductive Applies (retriever : Retriever) (r : Registry) : Context × Value → Context × Value → Prop
  | keyword {c inner members name k v path schema} (hinside : c.inside members = .ok inner)
      (hmem : (name, v) ∈ members) (hname : Keyword.ofName? name = some k)
      (happlies : k.AppliesInPlace members) (hschema : k.HoldsAt v path schema) :
      Applies retriever r (c, .object members) ((inner.key name).along path, schema)
  | reference {c inner members text t} (hinside : c.inside members = .ok inner)
      (hmem : ("$ref", .string text) ∈ members) (hfollows : r.Follows retriever inner.base text t) :
      Applies retriever r (c, .object members) (targetContext t, t.contents)

theorem inheritedInPlace_applies (retriever : Retriever) (r : Registry) (p : Context × Value) :
    InheritedInPlace fun c v => ReflTransGen (Applies retriever r) p (c, v) :=
  fun _ _ _ _ _ _ _ _ h hinside hmem hname happlies hschema =>
    h.tail (.keyword hinside hmem hname happlies hschema)

theorem Sited.of_reflTransGen {P : Context → Value → Prop} (hP : InheritedInPlace P) {n n' : Node}
    (h : Sited settings s P n) (hasked : ReflTransGen Node.InPlace n n') :
    Sited settings s P n' := by
  induction hasked with
  | refl => exact h
  | tail _ hstep ih => exact ih.of_inPlace hP hstep

end Compile

theorem Keyword.HoldsAt.wellFormed {k : Keyword} {v schema : Value} {path : List String}
    (h : k.HoldsAt v path schema) (hv : v.WellFormed) : schema.WellFormed :=
  hv.of_follow? (h.follow? hv)

namespace Node

variable {slots : List Node} {k : Nat} {n n' : Node} {v : Value}

theorem Keep.call (h : Keep slots n n') (v : Value) : Call slots (n, v) (n', v) := by
  cases h with
  | inPlace h => exact .inPlace h
  | follow h => exact .follow h

/-- Calls that keep the value end sooner and sooner. -/
theorem EndsWithin.of_keep (h : EndsWithin slots k (n, v)) (hkeep : TransGen (Keep slots) n n') :
    ∃ k' < k, EndsWithin slots k' (n', v) := by
  induction hkeep with
  | single hkeep =>
      cases h with
      | intro calls => exact ⟨_, Nat.lt_succ_self _, calls _ (hkeep.call v)⟩
  | tail _ hkeep ih =>
      obtain ⟨k', hk', hends⟩ := ih
      cases hends with
      | intro calls => exact ⟨_, Nat.lt_of_succ_lt hk', calls _ (hkeep.call v)⟩

end Node

namespace Complete

open Compile

variable {settings : Settings} {s : State} {slots : List Node} {c inner : Context} {n : Node}
variable {members : List (String × Value)} {p q : Context × Value}

/-- A reference in a compiled object is followed to the compiled form of its target. -/
theorem exists_followed (h : Complete settings s slots) (hwf : s.registry.WellFormed)
    (hn : Compiled settings s c (.object members) n) (hinside : c.inside members = .ok inner)
    {text : String} (hmem : ("$ref", .string text) ∈ members) {t : Target}
    (hfollows : s.registry.Follows settings.retriever inner.base text t) : t.contents.WellFormed ∧
      ∃ n', Compiled settings s (targetContext t) t.contents n' ∧
        TransGen (Node.Keep slots) n n' := by
  obtain ⟨node, hmember, hasked⟩ := hn.exists_member_inPlace hinside hmem
  obtain ⟨t', hleads, slot, hslot, hnode⟩ := hmember.exists_target
  obtain rfl := hfollows.unique hleads.follows
  obtain ⟨t', n', hplace, ht', hn', hcompiled⟩ := h.filled slot _ hslot
  obtain rfl := ht'.unique (Registry.leads_of_resolve h.wellIndexed (hleads {})).1 hplace
  exact ⟨(Registry.shows_of_leads h.wellIndexed hwf hleads).wellFormed, n', hcompiled,
    .tail (.single (.inPlace (hasked _ hnode))) (.follow hn')⟩

/-- A schema that is applied is asked in place. -/
theorem exists_keep (h : Complete settings s slots) (hwf : s.registry.WellFormed)
    (hp : p.2.WellFormed) (hn : Compiled settings s p.1 p.2 n)
    (happlies : Applies settings.retriever s.registry p q) : q.2.WellFormed ∧
      ∃ n', Compiled settings s q.1 q.2 n' ∧ TransGen (Node.Keep slots) n n' := by
  cases happlies with
  | keyword hinside hmem hname happlies hschema =>
      obtain ⟨n', hn', hasked⟩ := hn.exists_inside_inPlace hinside (hp.lookup hmem) hname hschema
      obtain ⟨asked, hasked, hasked'⟩ := hasked happlies
      exact ⟨hschema.wellFormed (hp.of_mem hmem), n', hn',
        .tail (.single (.inPlace hasked)) (.inPlace hasked')⟩
  | reference hinside hmem hfollows => exact h.exists_followed hwf hn hinside hmem hfollows

theorem exists_keep_of_transGen (h : Complete settings s slots) (hwf : s.registry.WellFormed)
    (hp : p.2.WellFormed) (hn : Compiled settings s p.1 p.2 n)
    (happlies : TransGen (Applies settings.retriever s.registry) p q) : q.2.WellFormed ∧
      ∃ n', Compiled settings s q.1 q.2 n' ∧ TransGen (Node.Keep slots) n n' := by
  induction happlies with
  | single happlies => exact h.exists_keep hwf hp hn happlies
  | tail _ happlies ih =>
      obtain ⟨hq, n', hn', hkeep⟩ := ih
      obtain ⟨hq', n'', hn'', hkeep'⟩ := h.exists_keep hwf hq hn' happlies
      exact ⟨hq', n'', hn'', hkeep.trans hkeep'⟩

/-- Where no cycle is found, no schema applies itself: its compiled forms would be asked about a
value without end. -/
theorem not_applies_self (h : Complete settings s slots) (hwf : s.registry.WellFormed)
    (hcycle : Cycle.find? slots = none) (hp : p.2.WellFormed)
    (hn : Compiled settings s p.1 p.2 n) :
    ¬TransGen (Applies settings.retriever s.registry) p p := by
  intro happlies
  have hends (k : Nat) : ∀ n, Compiled settings s p.1 p.2 n →
      ¬Node.EndsWithin slots k (n, .null) := by
    induction k using Nat.strong_induction_on with
    | _ k ih =>
        intro n hn hends
        obtain ⟨-, n', hn', hkeep⟩ := h.exists_keep_of_transGen hwf hp hn happlies
        obtain ⟨k', hk', hends'⟩ := hends.of_keep hkeep
        exact ih k' hk' n' hn' hends'
  exact hends _ n hn (Node.endsWithin_steps hcycle n .null)

/-- Where a slot leads to another one, its target applies the target of the other. -/
theorem exists_applies_of_leads (h : Complete settings s slots) {slot slot' : Nat} {t : Target}
    (ht : s.registry.IsTarget t) (hslot : s.places[slot]? = some t.place)
    (hleads : Node.Leads slots slot slot') :
    ∃ t', s.registry.IsTarget t' ∧ s.places[slot']? = some t'.place ∧
      TransGen (Applies settings.retriever s.registry) (targetContext t, t.contents)
        (targetContext t', t'.contents) := by
  obtain ⟨t', n, hplace, ht', hn, hcompiled⟩ := h.filled slot _ hslot
  obtain rfl := ht'.unique ht hplace
  obtain ⟨l, hl⟩ := hleads
  simp only [Cycle.references, hn, Option.elim_some] at hl
  have hsited := (Sited.schema .refl hcompiled).of_reflTransGen
    (inheritedInPlace_applies settings.retriever s.registry (_, t'.contents))
      (Node.mem_inPlaceReferences_iff.mp hl)
  obtain ⟨c, inner, members, text, t'', hobject, hinside, hmem, -, hleads, hslot'⟩ :=
    hsited.exists_reference
  exact ⟨t'', (Registry.leads_of_resolve h.wellIndexed (hleads {})).1, hslot',
    TransGen.tail' hobject (.reference hinside hmem hleads.follows)⟩

theorem exists_applies_of_transGen (h : Complete settings s slots) {slot slot' : Nat} {t : Target}
    (ht : s.registry.IsTarget t) (hslot : s.places[slot]? = some t.place)
    (hleads : TransGen (Node.Leads slots) slot slot') :
    ∃ t', s.registry.IsTarget t' ∧ s.places[slot']? = some t'.place ∧
      TransGen (Applies settings.retriever s.registry) (targetContext t, t.contents)
        (targetContext t', t'.contents) := by
  induction hleads with
  | single hleads => exact h.exists_applies_of_leads ht hslot hleads
  | tail _ hleads ih =>
      obtain ⟨t', ht', hslot', happlies⟩ := ih
      obtain ⟨t'', ht'', hslot'', happlies'⟩ := h.exists_applies_of_leads ht' hslot' hleads
      exact ⟨t'', ht'', hslot'', happlies.trans happlies'⟩

/-- Where a cycle is found, the target of a slot applies itself. -/
theorem exists_applies_self (h : Complete settings s slots)
    (hnodes : s.slots.mapM Slot.node = some slots) {l : SchemaLocation}
    (hcycle : Cycle.find? slots = some l) :
    ∃ t, s.registry.IsTarget t ∧ t.place ∈ s.places ∧
      TransGen (Applies settings.retriever s.registry) (targetContext t, t.contents)
        (targetContext t, t.contents) := by
  obtain ⟨slot, hleads⟩ := Cycle.exists_cycle_of_find? hcycle
  obtain ⟨_, ⟨l, hl⟩, -⟩ := TransGen.head'_iff.mp hleads
  have hlt : slot < s.places.length := by
    rw [State.places, List.length_map, (forall₂_of_mapM_some hnodes).length_eq]
    exact Cycle.lt_length_of_mem_references hl
  obtain ⟨t, -, hplace, ht, -⟩ := h.filled slot _ (List.getElem?_eq_getElem hlt)
  have hslot : s.places[slot]? = some t.place := by rw [hplace, List.getElem?_eq_getElem hlt]
  obtain ⟨t', ht', hslot', happlies⟩ := h.exists_applies_of_transGen ht hslot hleads
  obtain rfl := ht'.unique ht (Option.some.inj (hslot'.symm.trans hslot))
  exact ⟨t', ht', List.mem_of_getElem? hslot', happlies⟩

end Complete
end JsonSchema
