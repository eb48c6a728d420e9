import JsonSchema.Proofs.Evaluation.Acyclic
import JsonSchema.Proofs.Evaluation.Call

/-!
# Evaluation ends

Without a cycle of in-place references, calls end. A call into the value makes it less deep. A call
that keeps the value goes down the tree of its slot or follows a reference, which lowers the rank of
the slot. The steps that evaluation allows itself are enough for every chain of calls.
-/

namespace JsonSchema.Node

variable {slots : List Node}

/-- Every chain of calls from a node and a value is shorter than a bound. -/
inductive EndsWithin (slots : List Node) : Nat → Node × Value → Prop
  | intro {k a} (calls : ∀ b, Call slots a b → EndsWithin slots k b) : EndsWithin slots (k + 1) a

theorem EndsWithin.mono {k k' : Nat} {a : Node × Value} (h : EndsWithin slots k a) (hk : k ≤ k') :
    EndsWithin slots k' a := by
  induction h generalizing k' with
  | intro _ ih =>
      obtain ⟨k', rfl⟩ := Nat.exists_eq_add_of_le' (Nat.one_le_of_lt hk)
      exact .intro fun b hb => ih b hb (by omega)

theorem EndsWithin.length_lt {k : Nat} {a : Node × Value} (h : EndsWithin slots k a)
    {chain : List (Node × Value)} (hchain : List.IsChain (Call slots) (a :: chain)) :
    chain.length < k := by
  induction h generalizing chain with
  | intro _ ih =>
      cases chain with
      | nil => simp
      | cons b chain =>
          obtain ⟨hcall, hchain⟩ := List.isChain_cons_cons.mp hchain
          simpa using ih b hcall hchain

/-- Once calls end within the fuel, more fuel changes nothing. -/
theorem EndsWithin.accepts_eq {k fuel : Nat} {n : Node} {v : Value}
    (h : EndsWithin slots k (n, v)) (hfuel : k ≤ fuel) :
    n.accepts slots fuel v = n.accepts slots k v := by
  generalize ha : (n, v) = a at h
  induction h generalizing fuel n v with
  | intro _ ih =>
      obtain ⟨fuel, rfl⟩ := Nat.exists_eq_add_of_le' (Nat.one_le_of_lt hfuel)
      subst ha
      exact acceptsStep_congr fun n' v' hcall => ih (n', v') hcall (by omega) rfl

theorem EndsWithin.explain_eq {k fuel : Nat} {n : Node} {v : Value} {path : Pointer}
    (h : EndsWithin slots k (n, v)) (hfuel : k ≤ fuel) :
    n.explain slots fuel v path = n.explain slots k v path := by
  generalize ha : (n, v) = a at h
  induction h generalizing fuel n v path with
  | intro calls ih =>
      obtain ⟨fuel, rfl⟩ := Nat.exists_eq_add_of_le' (Nat.one_le_of_lt hfuel)
      subst ha
      exact explainStep_congr (fun n' v' hcall => (calls (n', v') hcall).accepts_eq (by omega))
        fun n' v' path hcall => ih (n', v') hcall (by omega) rfl

theorem EndsWithin.accepts_unique {k k' : Nat} {n : Node} {v : Value}
    (h : EndsWithin slots k (n, v)) (h' : EndsWithin slots k' (n, v)) :
    n.accepts slots k v = n.accepts slots k' v :=
  (h.accepts_eq (le_max_left k k')).symm.trans (h'.accepts_eq (le_max_right k k'))

theorem EndsWithin.explain_unique {k k' : Nat} {n : Node} {v : Value} {path : Pointer}
    (h : EndsWithin slots k (n, v)) (h' : EndsWithin slots k' (n, v)) :
    n.explain slots k v path = n.explain slots k' v path :=
  (h.explain_eq (le_max_left k k')).symm.trans (h'.explain_eq (le_max_right k k'))

/-! ## The measure -/

/-- The references of a node that keep the value lead to slots of a rank below a bound. -/
def RefersBelow (slots : List Node) (rank : Nat → Nat) (bound : Nat) (n : Node) : Prop :=
  ∀ r ∈ n.inPlaceReferences, r.2 < slots.length → rank r.2 < bound

theorem RefersBelow.of_inPlace {rank : Nat → Nat} {bound : Nat} {n n' : Node}
    (h : RefersBelow slots rank bound n) (hstep : InPlace n n') :
    RefersBelow slots rank bound n' :=
  fun r hr => h r (mem_inPlaceReferences_step.mpr (.inr ⟨n', hstep, hr⟩))

theorem refersBelow_length {rank : Nat → Nat} (h : Cycle.Ranking slots rank) (n : Node) :
    RefersBelow slots rank slots.length n :=
  fun r _ hlt => h.lt_length r.2 hlt

/-- The in-place references of a slot lead below its rank. -/
theorem refersBelow_rank {rank : Nat → Nat} (h : Cycle.Ranking slots rank) {slot : Nat} {n : Node}
    (hs : slots[slot]? = some n) : RefersBelow slots rank (rank slot) n :=
  fun r hr hlt => h.descends slot r (by simpa [Cycle.references, hs] using hr) hlt

/-- Calls end where references are ranked. The measure counts the levels of the tree, a whole tree
of levels for each rank below, and all of that again for each level of the value. -/
theorem endsWithin_of_ranking {rank : Nat → Nat} (h : Cycle.Ranking slots rank) {cost depth : Nat}
    {n : Node} {v : Value} {bound tallest : Nat} (hrefs : RefersBelow slots rank bound n)
    (hn : n.height ≤ tallest) (hslots : heights slots ≤ tallest) (hv : v.depth ≤ depth + 1)
    (hcost : n.height + bound * heights slots +
      depth * (tallest + slots.length * heights slots) ≤ cost) :
    EndsWithin slots (cost + 1) (n, v) := by
  induction cost using Nat.strong_induction_on generalizing depth n v bound with
  | _ cost ih =>
      have hone := one_le_height n
      obtain ⟨cost, rfl⟩ : ∃ c, cost = c + 1 := Nat.exists_eq_add_of_le' (by omega)
      refine .intro fun ⟨n', v'⟩ hcall => ?_
      -- A part is measured with all ranks still to come, which the level it lost pays for.
      have hpart : ∀ {n' v'}, n'.height < n.height → v'.depth < v.depth →
          EndsWithin slots (cost + 1) (n', v') := by
        intro n' v' hheight hdepth
        have := v'.one_le_depth
        obtain ⟨depth, rfl⟩ : ∃ d, depth = d + 1 := Nat.exists_eq_add_of_le' (by omega)
        have hlevel : (depth + 1) * (tallest + slots.length * heights slots) =
            depth * (tallest + slots.length * heights slots) +
              (tallest + slots.length * heights slots) := Nat.add_one_mul _ _
        have hv' : v'.depth ≤ depth + 1 := by omega
        exact ih cost (by omega) (refersBelow_length h n') (by omega) hv' (by omega)
      cases hcall with
      | inPlace hstep =>
          have := hstep.height_lt
          exact ih cost (by omega) (hrefs.of_inPlace hstep) (by omega) hv (by omega)
      | @follow l slot n' v hs =>
          have hmem := List.mem_of_getElem? hs
          have hlt : rank slot < bound :=
            hrefs (l, slot) (by simp [inPlaceReferences]) (List.getElem?_eq_some_iff.mp hs).1
          have hheight := height_le_heights hmem
          have hrank : (rank slot + 1) * heights slots ≤ bound * heights slots :=
            Nat.mul_le_mul_right _ hlt
          have hsucc := Nat.add_one_mul (rank slot) (heights slots)
          have := one_le_height (reference l slot)
          exact ih cost (by omega) (refersBelow_rank h hs) (by omega) hv (by omega)
      | property hm =>
          obtain ⟨hm, hget⟩ := mem_presentMembers.mp hm
          have := height_le_memberHeights hm
          exact hpart (by simp only [height]; omega) (Value.part_of_get? hget).depth_lt
      | uniformItem hm =>
          obtain ⟨items, rfl, hget⟩ := mem_allItems.mp hm
          exact hpart (by simp only [height]; omega)
            (Value.Part.item (List.mem_of_getElem? hget)).depth_lt
      | positionalItem hm =>
          obtain ⟨items, rfl, hnode, hget⟩ := mem_positionedItems.mp hm
          have := height_le_heights (List.mem_of_getElem? hnode)
          exact hpart (by simp only [height]; omega)
            (Value.Part.item (List.mem_of_getElem? hget)).depth_lt

/-- Without a cycle, the steps of evaluation are enough for its calls. -/
theorem endsWithin_steps (h : Cycle.find? slots = none) (n : Node) (v : Value) :
    EndsWithin slots (n.steps slots v) (n, v) := by
  obtain ⟨rank, hrank⟩ := Cycle.exists_ranking h
  obtain ⟨depth, hdepth⟩ := Nat.exists_eq_add_of_le' v.one_le_depth
  have hends := endsWithin_of_ranking hrank (refersBelow_length hrank n) (le_max_left _ _)
    (le_max_right n.height (heights slots)) hdepth.le le_rfl
  refine hends.mono ?_
  have hmax : max n.height (heights slots) ≤ n.height + heights slots := by omega
  have hlevel := Nat.mul_le_mul_left depth
    (Nat.add_le_add_right hmax (slots.length * heights slots))
  have hsucc := Nat.add_one_mul slots.length (heights slots)
  have htotal := Nat.add_one_mul depth (n.height + (slots.length + 1) * heights slots + 1)
  have hsplit := Nat.mul_add depth (n.height + (slots.length + 1) * heights slots) 1
  have hsame : n.height + heights slots + slots.length * heights slots =
      n.height + (slots.length + 1) * heights slots := by omega
  rw [hsame] at hlevel
  simp only [steps, hdepth]
  omega

/-- Without a cycle, evaluation obeys its equation with no count of steps in it. -/
theorem accepts_steps (h : Cycle.find? slots = none) (n : Node) (v : Value) :
    n.accepts slots (n.steps slots v) v =
      acceptsStep slots (fun n v => n.accepts slots (n.steps slots v) v) n v := by
  have hends := endsWithin_steps h n v
  generalize n.steps slots v = k at hends
  cases hends with
  | intro calls =>
      exact acceptsStep_congr fun n' v' hcall =>
        (calls (n', v') hcall).accepts_unique (endsWithin_steps h n' v')

theorem explain_steps (h : Cycle.find? slots = none) (n : Node) (v : Value) (path : Pointer) :
    n.explain slots (n.steps slots v) v path =
      explainStep slots (fun n v => n.accepts slots (n.steps slots v) v)
        (fun n v => n.explain slots (n.steps slots v) v) n v path := by
  have hends := endsWithin_steps h n v
  generalize n.steps slots v = k at hends
  cases hends with
  | intro calls =>
      exact explainStep_congr
        (fun n' v' hcall => (calls (n', v') hcall).accepts_unique (endsWithin_steps h n' v'))
        fun n' v' _ hcall => (calls (n', v') hcall).explain_unique (endsWithin_steps h n' v')

/-! ## Calls that keep the value -/

/-- A call that keeps the value goes down the tree or follows a reference. -/
inductive Keep (slots : List Node) : Node → Node → Prop
  | inPlace {n n'} (h : InPlace n n') : Keep slots n n'
  | follow {l slot n} (h : slots[slot]? = some n) : Keep slots (.reference l slot) n

theorem keep_or_part {n n' : Node} {v v' : Value} (h : Call slots (n, v) (n', v')) :
    v' = v ∧ Keep slots n n' ∨ v'.Part v := by
  cases h with
  | inPlace h => exact .inl ⟨rfl, .inPlace h⟩
  | follow h => exact .inl ⟨rfl, .follow h⟩
  | property h => exact .inr (Value.part_of_get? (mem_presentMembers.mp h).2)
  | uniformItem h =>
      obtain ⟨items, rfl, hget⟩ := mem_allItems.mp h
      exact .inr (.item (List.mem_of_getElem? hget))
  | positionalItem h =>
      obtain ⟨items, rfl, -, hget⟩ := mem_positionedItems.mp h
      exact .inr (.item (List.mem_of_getElem? hget))

/-- A slot leads to another one by a reference that is listed for it. -/
def Leads (slots : List Node) (slot target : Nat) : Prop :=
  ∃ l, (l, target) ∈ Cycle.references slots slot

/-- While the value is kept, evaluation of a slot moves along listed references and within the trees
of the slots that they lead to. -/
theorem exists_slot_of_keep {slot : Nat} {n m : Node} (hs : slots[slot]? = some n)
    (h : Relation.ReflTransGen (Keep slots) n m) :
    ∃ via top, Relation.ReflTransGen (Leads slots) slot via ∧ slots[via]? = some top ∧
      Relation.ReflTransGen InPlace top m := by
  induction h with
  | refl => exact ⟨slot, n, .refl, hs, .refl⟩
  | @tail _ next _ hkeep ih =>
      obtain ⟨via, top, hvia, htop, hm⟩ := ih
      cases hkeep with
      | inPlace hstep => exact ⟨via, top, hvia, htop, hm.tail hstep⟩
      | @follow l target _ hs' =>
          have hleads : Leads slots via target :=
            ⟨l, by simpa [Cycle.references, htop] using mem_inPlaceReferences_iff.mpr hm⟩
          exact ⟨target, next, hvia.tail hleads, hs', .refl⟩

theorem references_of_keep {slot target : Nat} {n : Node} {l : SchemaLocation}
    (hs : slots[slot]? = some n)
    (h : Relation.ReflTransGen (Keep slots) n (.reference l target)) :
    ∃ via, Relation.ReflTransGen (Leads slots) slot via ∧
      (l, target) ∈ Cycle.references slots via := by
  obtain ⟨via, top, hvia, htop, hm⟩ := exists_slot_of_keep hs h
  exact ⟨via, hvia, by simpa [Cycle.references, htop] using mem_inPlaceReferences_iff.mpr hm⟩

theorem rank_lt_of_leads {rank : Nat → Nat} (h : Cycle.Ranking slots rank) {slot target : Nat}
    (hpath : Relation.TransGen (Leads slots) slot target) (hlt : target < slots.length) :
    rank target < rank slot := by
  induction hpath using Relation.TransGen.head_induction_on with
  | single hleads =>
      obtain ⟨l, hl⟩ := hleads
      exact h.descends _ (l, target) hl hlt
  | head hleads hrest ih =>
      obtain ⟨l, hl⟩ := hleads
      obtain ⟨_, ⟨_, hnext⟩, -⟩ := Relation.TransGen.head'_iff.mp hrest
      exact ih.trans (h.descends _ _ hl (Cycle.lt_length_of_mem_references hnext))

theorem not_leads_self (h : Cycle.find? slots = none) (slot : Nat) :
    ¬Relation.TransGen (Leads slots) slot slot := by
  intro hcycle
  obtain ⟨rank, hrank⟩ := Cycle.exists_ranking h
  obtain ⟨_, ⟨_, hfirst⟩, -⟩ := Relation.TransGen.head'_iff.mp hcycle
  exact lt_irrefl _ (rank_lt_of_leads hrank hcycle (Cycle.lt_length_of_mem_references hfirst))

/-- Evaluation and explanation end, from every node and for every value. -/
structure Terminating (slots : List Node) : Prop where
  /-- Evaluation asks nothing beside its calls. -/
  accepts_calls : ∀ n v (f g : Node → Value → Bool),
    (∀ n' v', Call slots (n, v) (n', v') → f n' v' = g n' v') →
      acceptsStep slots f n v = acceptsStep slots g n v
  /-- Nor does explanation, which also evaluates. -/
  explain_calls : ∀ n v path (f g : Node → Value → Bool) (why why' : Node → Value → Pointer →
    ErrorTree), (∀ n' v', Call slots (n, v) (n', v') → f n' v' = g n' v') →
      (∀ n' v' path, Call slots (n, v) (n', v') → why n' v' path = why' n' v' path) →
        explainStep slots f why n v path = explainStep slots g why' n v path
  /-- A call keeps the value or goes to a smaller one. -/
  keeps_or_descends : ∀ n v n' v', Call slots (n, v) (n', v') →
    v' = v ∧ Keep slots n n' ∨ v'.Part v ∧ v'.depth < v.depth
  /-- The references listed for a node are those met in its own tree while the value is kept. -/
  listed_iff : ∀ n l target, (l, target) ∈ inPlaceReferences n ↔
    Relation.ReflTransGen InPlace n (.reference l target)
  /-- Every reference met while the value is kept is listed for a slot on the way. -/
  listed : ∀ slot n l target, slots[slot]? = some n →
    Relation.ReflTransGen (Keep slots) n (.reference l target) →
      ∃ via, Relation.ReflTransGen (Leads slots) slot via ∧
        (l, target) ∈ Cycle.references slots via
  /-- Listed references never lead back. -/
  acyclic : ∀ slot, ¬Relation.TransGen (Leads slots) slot slot
  /-- Chains of calls are finite. -/
  chain_lt : ∀ (n : Node) v chain, List.IsChain (Call slots) ((n, v) :: chain) →
    chain.length < n.steps slots v
  /-- Evaluation does not depend on how many more steps it is given. -/
  accepts_settled : ∀ (n : Node) v fuel, n.steps slots v ≤ fuel →
    n.accepts slots fuel v = n.accepts slots (n.steps slots v) v
  explain_settled : ∀ (n : Node) v path fuel, n.steps slots v ≤ fuel →
    n.explain slots fuel v path = n.explain slots (n.steps slots v) v path
  /-- With the steps that it allows itself, evaluation is the recursion that counts no steps. -/
  accepts_eq : ∀ (n : Node) v, n.accepts slots (n.steps slots v) v =
    acceptsStep slots (fun n v => n.accepts slots (n.steps slots v) v) n v
  explain_eq : ∀ (n : Node) v path, n.explain slots (n.steps slots v) v path =
    explainStep slots (fun n v => n.accepts slots (n.steps slots v) v)
      (fun n v => n.explain slots (n.steps slots v) v) n v path

/-- Slots without a cycle are evaluated in finitely many steps. -/
theorem terminating_of_acyclic (h : Cycle.find? slots = none) : Terminating slots where
  accepts_calls _ _ _ _ := acceptsStep_congr
  explain_calls _ _ _ _ _ _ _ := explainStep_congr
  keeps_or_descends _ _ _ _ hcall :=
    (keep_or_part hcall).imp_right fun hpart => ⟨hpart, hpart.depth_lt⟩
  listed_iff _ _ _ := mem_inPlaceReferences_iff
  listed _ _ _ _ := references_of_keep
  acyclic := not_leads_self h
  chain_lt n v _ := (endsWithin_steps h n v).length_lt
  accepts_settled n v _ := (endsWithin_steps h n v).accepts_eq
  explain_settled n v _ _ := (endsWithin_steps h n v).explain_eq
  accepts_eq := accepts_steps h
  explain_eq := explain_steps h

/-- Slots that refer to one another both in place and with parts of the value. -/
def nestedSlots : List Node :=
  [.keywords default [.reference default 1, .uniformItems default (.reference default 0)],
    .keywords default [.conditional default (.check default (.type [.array]))
      (some (.properties default [("next", .reference default 0)])) (some (.reference default 2))],
    .boolean default true]

theorem terminating_nestedSlots : Cycle.find? nestedSlots = none ∧ Terminating nestedSlots :=
  have h : Cycle.find? nestedSlots = none := by decide
  ⟨h, terminating_of_acyclic h⟩

end JsonSchema.Node
