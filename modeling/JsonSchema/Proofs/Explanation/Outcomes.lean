import JsonSchema.Proofs.Explanation.Leaves
import JsonSchema.Proofs.Explanation.Route
import JsonSchema.Proofs.Meaning.Alone

/-!
# What nodes report

A node that accepts a value reports nothing, any other one the outermost failures of its
explanation. So much is settled node by node: a node that only groups others reports what these
report, one after the other, and any other node reports itself.
-/

namespace JsonSchema

open Compile Meaning

/-! ## Lists side by side -/

theorem flatMap_congr_of_zip {α β γ : Type} {l : List α} {l' : List β} {f : α → List γ}
    {g : β → List γ} (hlength : l.length = l'.length) (h : ∀ p ∈ l.zip l', f p.1 = g p.2) :
    l.flatMap f = l'.flatMap g := by
  have hpairs : List.Forall₂ (fun a b => f a = g b) l l' :=
    List.forall₂_iff_zip.mpr ⟨hlength, fun hp => h _ hp⟩
  clear h hlength
  induction hpairs with
  | nil => rfl
  | cons hab _ ih => rw [List.flatMap_cons, List.flatMap_cons, hab, ih]

theorem flatMap_filter_of_nil {α β : Type} {l : List α} {p : α → Bool} {f : α → List β}
    (h : ∀ a ∈ l, p a = false → f a = []) : (l.filter p).flatMap f = l.flatMap f := by
  induction l with
  | nil => rfl
  | cons a l ih =>
      have hrest := ih fun b hb => h b (List.mem_cons_of_mem a hb)
      by_cases hp : p a = true
      · rw [List.filter_cons_of_pos hp, List.flatMap_cons, List.flatMap_cons, hrest]
      · have hnil : f a = [] := h a List.mem_cons_self (by simpa using hp)
        rw [List.filter_cons_of_neg hp, List.flatMap_cons, hnil, hrest, List.nil_append]

/-! ## Routes -/

/-- A visit is where a route has come to: as far below the place of the slot as the way is behind
the way there. -/
def Route.Reaches (route : Route) (here : Visit) : Prop :=
  ∃ rest, here.context.place.pointer = route.slot ++ rest ∧ here.way = route.path ++ rest

namespace Route.Reaches

variable {route : Route} {here : Visit}

theorem keywordLocation (h : route.Reaches here) :
    route.keywordLocation here.context.place.pointer = here.way := by
  obtain ⟨rest, hplace, hway⟩ := h
  obtain ⟨slot, path⟩ := route
  rw [hplace, keywordLocation_append, hway]

theorem key (h : route.Reaches here) (name : String) : route.Reaches (here.key name) := by
  obtain ⟨rest, hplace, hway⟩ := h
  refine ⟨rest.key name, ?_, ?_⟩
  · simp [Visit.key, Context.key, hplace, Pointer.key, Pointer.append_eq]
  · simp [Visit.key, hway, Pointer.key, Pointer.append_eq]

theorem index (h : route.Reaches here) (i : Nat) : route.Reaches (here.index i) :=
  h.key (toString i)

theorem child (h : route.Reaches here) (token : String) (v : Value) :
    route.Reaches (here.child token v) := h

end Route.Reaches

namespace Node

variable {slots : List Node} {steps : Nat} {route : Route} {n : Node} {v : Value} {path : Pointer}

/-! ## Outcomes -/

/-- What a node reports of a value: nothing if it accepts it. -/
def outcomes (slots : List Node) (steps : Nat) (route : Route) (n : Node) (v : Value)
    (path : Pointer) : List (Entry × List Entry) :=
  if n.accepts slots steps v then [] else (explainOn slots steps route n v path).outermost

theorem outcomes_of_accepts (h : n.accepts slots steps v = true) :
    n.outcomes slots steps route v path = [] := by
  rw [outcomes, if_pos h]

theorem outcomes_of_fails (h : n.accepts slots steps v = false) :
    n.outcomes slots steps route v path = (explainOn slots steps route n v path).outermost := by
  rw [outcomes, h]
  rfl

/-- What is asked has failed, and reports so. -/
theorem outermost_of_asked (h : n.accepts slots (steps + 1) v = false)
    {a : Node × Value × Pointer} (ha : a ∈ (plan slots (accepts slots steps) n v path).asked) :
    (explainOn slots steps (route.next n a.1) a.1 a.2.1 a.2.2).outermost =
      a.1.outcomes slots steps (route.next n a.1) a.2.1 a.2.2 :=
  (outcomes_of_fails ((asked_of_mem ha).fails h)).symm

variable (slots steps route n v path) in
/-- A node that groups others reports what they report, whether it asks all of them or those that
fail. -/
theorem outcomes_of_parts (parts : List (Node × Value × Pointer))
    (hfailure : (plan slots (accepts slots steps) n v path).failure = none)
    (hfailures : (plan slots (accepts slots steps) n v path).failures = [])
    (hasked : (plan slots (accepts slots steps) n v path).asked = parts ∨
      (plan slots (accepts slots steps) n v path).asked =
        parts.filter fun a => !a.1.accepts slots steps a.2.1)
    (haccepts : n.accepts slots (steps + 1) v = parts.all fun a => a.1.accepts slots steps a.2.1) :
    n.outcomes slots (steps + 1) route v path = parts.flatMap fun a =>
      a.1.outcomes slots steps (route.next n a.1) a.2.1 a.2.2 := by
  by_cases h : n.accepts slots (steps + 1) v = true
  · rw [outcomes_of_accepts h, eq_comm, List.flatMap_eq_nil_iff]
    rw [haccepts, List.all_eq_true] at h
    exact fun a ha => outcomes_of_accepts (h a ha)
  · rw [Bool.not_eq_true] at h
    have hskip : (plan slots (accepts slots steps) n v path).asked.flatMap (fun a =>
        a.1.outcomes slots steps (route.next n a.1) a.2.1 a.2.2) = parts.flatMap fun a =>
          a.1.outcomes slots steps (route.next n a.1) a.2.1 a.2.2 := by
      rcases hasked with hasked | hasked
      · rw [hasked]
      · rw [hasked]
        exact flatMap_filter_of_nil fun a _ ha => outcomes_of_accepts (by simpa using ha)
    have hexplain : explainOn slots (steps + 1) route n v path =
        .node n.location (route.keywordLocation n.location.pointer) path none
          ((plan slots (accepts slots steps) n v path).asked.map fun a =>
            explainOn slots steps (route.next n a.1) a.1 a.2.1 a.2.2) := by
      simp only [explainOn, hfailure, hfailures, List.map_nil, List.nil_append, Option.map_none]
    rw [outcomes_of_fails h, hexplain, ErrorTree.outermost, ErrorTree.allOutermost_eq_flatMap,
      List.flatMap_map, ← hskip]
    exact List.flatMap_congr fun a ha => outermost_of_asked h ha

/-- Any other node reports itself, and below it what it asks. -/
theorem outcomes_of_failure {f : Failure}
    (hfailure : (plan slots (accepts slots steps) n v path).failure = some f)
    (hfailures : (plan slots (accepts slots steps) n v path).failures = []) :
    n.outcomes slots (steps + 1) route v path =
      if n.accepts slots (steps + 1) v then []
      else [(⟨route.keywordLocation n.location.pointer, n.location, path, ⟨f, v⟩⟩,
        (plan slots (accepts slots steps) n v path).asked.flatMap fun a =>
          (a.1.outcomes slots steps (route.next n a.1) a.2.1 a.2.2).flatMap fun p =>
            p.1 :: p.2)] := by
  by_cases h : n.accepts slots (steps + 1) v = true
  · rw [outcomes_of_accepts h, if_pos h]
  · rw [if_neg h]
    rw [Bool.not_eq_true] at h
    have hexplain : explainOn slots (steps + 1) route n v path =
        .node n.location (route.keywordLocation n.location.pointer) path (some ⟨f, v⟩)
          ((plan slots (accepts slots steps) n v path).asked.map fun a =>
            explainOn slots steps (route.next n a.1) a.1 a.2.1 a.2.2) := by
      simp only [explainOn, hfailure, hfailures, List.map_nil, List.nil_append, Option.map_some]
    rw [outcomes_of_fails h, hexplain, ErrorTree.outermost, ErrorTree.allEntries_eq_flatMap,
      ErrorTree.allOutermost_eq_flatMap, List.flatMap_map, List.flatMap_assoc]
    congr 2
    exact List.flatMap_congr fun a ha => by rw [outermost_of_asked h ha]

/-- Every absent property is reported on its own. -/
theorem outcomes_required {l : SchemaLocation} {names : List String} :
    outcomes slots (steps + 1) route (.required l names) v path = (v.missing names).map fun name =>
      (⟨route.keywordLocation l.pointer, l, path, ⟨.required name, v⟩⟩, []) := by
  rcases hmissing : v.missing names with _ | ⟨name, _ | ⟨name', rest⟩⟩ <;>
    simp [outcomes, accepts, acceptsStep, hmissing, explainOn, plan, location,
      ErrorTree.outermost, ErrorTree.allOutermost_eq_flatMap, ErrorTree.allEntries,
      List.flatMap_map, ← List.map_eq_flatMap]

end Node
end JsonSchema
