import JsonSchema.Proofs.Number.Comparison
import JsonSchema.Proofs.Value.Reordered

/-!
# Equal values

Values are equal when they have the same shape: the same scalars, numbers that compare equal, items
that are equal one by one, and the same keys with equal values. Equality looks only for the keys of
its first operand in the second one and counts the members. As no key is there twice, all keys of
the second one are found in the first one then.
-/

namespace JsonSchema

theorem Number.equivalent_iff (m n : Number) : m.equivalent n = true ↔ m.compare n = .eq :=
  beq_iff_eq

theorem Number.equivalent_refl (n : Number) : n.equivalent n = true := by
  rw [equivalent_iff, compare_of_not_conflated fun h => h.apart rfl, compare_eq_iff_eq]

namespace Value

/-- Two values of the same shape. -/
inductive SameShape : Value → Value → Prop
  | null : SameShape .null .null
  | bool (b : Bool) : SameShape (.bool b) (.bool b)
  | string (s : String) : SameShape (.string s) (.string s)
  | number {m n} (h : m.compare n = .eq) : SameShape (.number m) (.number n)
  | array {xs ys} (hlength : xs.length = ys.length)
      (hitems : ∀ (i : Nat) x y, xs[i]? = some x → ys[i]? = some y → SameShape x y) :
      SameShape (.array xs) (.array ys)
  | object {xs ys} (hkeys : ∀ key, key ∈ xs.map Prod.fst ↔ key ∈ ys.map Prod.fst)
      (hmembers : ∀ key x y, xs.lookup key = some x → ys.lookup key = some y → SameShape x y) :
      SameShape (.object xs) (.object ys)

variable {v w : Value}

theorem SameShape.symm (h : SameShape v w) : SameShape w v := by
  induction h with
  | null => exact .null
  | bool b => exact .bool b
  | string s => exact .string s
  | number h => exact .number (by rw [Number.compare_swap, h, Ordering.swap_eq])
  | array hlength _ ih => exact .array hlength.symm fun i x y hx hy => ih i y x hy hx
  | object hkeys _ ih =>
      exact .object (fun key => (hkeys key).symm) fun key x y hx hy => ih key y x hy hx

theorem sameShape_of_equivalent (v w : Value) (hv : v.WellFormed) (h : v.equivalent w = true) :
    SameShape v w := by
  induction v using induction_parts generalizing w with
  | array xs ih =>
      cases w with
      | array ys =>
          refine .array (agreeItems_iff.mp h).length_eq fun i x y hx hy => ?_
          have hmem := List.mem_of_getElem? hx
          exact ih x hmem y (wellFormedItems_iff.mp hv x hmem) (agree_of_getElem? h hx hy)
      | _ => cases h
  | object xs ih =>
      cases w with
      | object ys =>
          -- The members are as many, so the keys of the one are all keys of the other.
          refine .object (fun key => (agree_object_keys h hv.1).mem_iff) fun key x y hx hy => ?_
          have hmem := mem_of_lookup hx
          exact ih (key, x) hmem y (hv.of_mem hmem) (agree_of_lookup h hv.1 hx hy)
      | _ => cases h
  | number m =>
      cases w with
      | number n => exact .number ((m.equivalent_iff n).mp h)
      | _ => cases h
  | null | bool b | string s =>
      cases w <;> simp [equivalent, agree] at h
      all_goals first
        | exact .null
        | exact h ▸ .bool _
        | exact h ▸ .string _

theorem SameShape.equivalent (h : SameShape v w) (hv : v.WellFormed) (hw : w.WellFormed) :
    v.equivalent w = true := by
  induction h with
  | null => rfl
  | bool b => simp [Value.equivalent, agree]
  | string s => simp [Value.equivalent, agree]
  | number h => exact (Number.equivalent_iff _ _).mpr h
  | array hlength _ ih =>
      refine agreeItems_iff.mpr (forall₂_of_getElem? hlength fun i x y hx hy => ?_)
      exact ih i x y hx hy (wellFormedItems_iff.mp hv x (List.mem_of_getElem? hx))
        (wellFormedItems_iff.mp hw y (List.mem_of_getElem? hy))
  | @object xs ys hkeys _ ih =>
      have hperm := (List.perm_ext_iff_of_nodup hv.1 hw.1).mpr hkeys
      rw [Value.equivalent, agree, Bool.and_eq_true, beq_iff_eq, agreeMembers_iff]
      refine ⟨by simpa using hperm.length_eq, fun m hm => ?_⟩
      obtain ⟨y, hy⟩ := exists_lookup ((hkeys m.1).mp (List.mem_map_of_mem hm))
      exact ⟨y, hy, ih m.1 m.2 y (hv.lookup hm) hy (hv.of_mem hm) (hw.of_mem (mem_of_lookup hy))⟩

theorem equivalent_iff (hv : v.WellFormed) (hw : w.WellFormed) :
    v.equivalent w = true ↔ SameShape v w :=
  ⟨sameShape_of_equivalent v w hv, fun h => h.equivalent hv hw⟩

/-- Equality is reflexive and symmetric, does not depend on the order of members in any of the
objects, and is having the same shape. -/
theorem equivalent_laws (hv : v.WellFormed) (hw : w.WellFormed) :
    v.equivalent v = true ∧ v.equivalent w = w.equivalent v ∧
      (∀ v' w', v.Reordered v' → w.Reordered w' → v.equivalent w = v'.equivalent w') ∧
      (v.equivalent w = true ↔ SameShape v w) := by
  refine ⟨agree_refl Number.equivalent_refl v hv, ?_, fun v' w' hv' hw' => ?_,
    equivalent_iff hv hw⟩
  · rw [Bool.eq_iff_iff, equivalent_iff hv hw, equivalent_iff hw hv]
    exact ⟨.symm, .symm⟩
  · exact (agree_reordered_left hv' hv w).trans (agree_reordered_right hw' v')

/-- A range that is open below and ends at `2 ^ 53`. -/
def wordRange : Value :=
  .object [("low", .null), ("high", .array [.number Number.largeWord])]

/-- The same range with the other key first and a double for its end. -/
def doubleRange : Value :=
  .object [("high", .array [.number Number.largeDouble]), ("low", .null)]

theorem equivalent_ranges :
    wordRange.WellFormed ∧ doubleRange.WellFormed ∧ SameShape wordRange doubleRange ∧
      doubleRange.equivalent wordRange = true := by
  have hword : wordRange.WellFormed := by decide
  have hdouble : doubleRange.WellFormed := by decide
  obtain ⟨-, hsymm, -, hshape⟩ := equivalent_laws hword hdouble
  have h : wordRange.equivalent doubleRange = true := by decide +kernel
  exact ⟨hword, hdouble, hshape.mp h, hsymm.symm.trans h⟩

end Value
end JsonSchema
