import JsonSchema.Proofs.Value.Identity

/-!
# Values with their members in another order

Two values that differ in the order of object members, at any depth. They have the same positions,
are identical, and are equal to the same values.
-/

namespace JsonSchema

/-- Two values differ at most in the order of object members, in any of the objects in them. -/
inductive Value.Reordered : Value → Value → Prop
  | null : Reordered .null .null
  | bool (b : Bool) : Reordered (.bool b) (.bool b)
  | number (n : Number) : Reordered (.number n) (.number n)
  | string (s : String) : Reordered (.string s) (.string s)
  | array {items items'} (hlength : items.length = items'.length)
      (hitems : ∀ (i : Nat) v v', items[i]? = some v → items'[i]? = some v' → Reordered v v') :
      Reordered (.array items) (.array items')
  | object {members members'} (hkeys : (members.map Prod.fst).Perm (members'.map Prod.fst))
      (hmembers : ∀ key v v', members.lookup key = some v → members'.lookup key = some v' →
        Reordered v v') : Reordered (.object members) (.object members')

theorem exists_lookup_iff {α : Type} {members : List (String × α)} {key : String} :
    (∃ a, members.lookup key = some a) ↔ key ∈ members.map Prod.fst := by
  refine ⟨fun ⟨a, ha⟩ => List.mem_map_of_mem (mem_of_lookup ha), exists_lookup⟩

namespace Value

variable {v v' w x x' : Value} {members members' : List (String × Value)} {key : String}

/-! ## The relation -/

theorem Reordered.refl (v : Value) : v.Reordered v := by
  induction v using induction_parts with
  | null => exact .null
  | bool b => exact .bool b
  | number n => exact .number n
  | string s => exact .string s
  | array items ih =>
      refine .array rfl fun i v v' hv hv' => ?_
      obtain rfl : v = v' := Option.some.inj (hv.symm.trans hv')
      exact ih v (List.mem_of_getElem? hv)
  | object members ih =>
      refine .object (.refl _) fun key v v' hv hv' => ?_
      obtain rfl : v = v' := Option.some.inj (hv.symm.trans hv')
      exact ih (key, v) (mem_of_lookup hv)

/-- An object with its members in another order. -/
theorem Reordered.of_perm (h : members.Perm members') (hwf : (Value.object members).WellFormed) :
    (Value.object members).Reordered (Value.object members') := by
  refine .object (h.map Prod.fst) fun key v v' hv hv' => ?_
  have hlookup : members.lookup key = some v' :=
    hwf.lookup (h.mem_iff.mpr (mem_of_lookup hv'))
  obtain rfl : v = v' := Option.some.inj (hv.symm.trans hlookup)
  exact .refl v

theorem Reordered.symm (h : v.Reordered v') : v'.Reordered v := by
  induction h with
  | null => exact .null
  | bool b => exact .bool b
  | number n => exact .number n
  | string s => exact .string s
  | array hlength _ ih => exact .array hlength.symm fun i x x' hx hx' => ih i x' x hx' hx
  | object hkeys _ ih => exact .object hkeys.symm fun key x x' hx hx' => ih key x' x hx' hx

theorem Reordered.exists_lookup (h : (Value.object members).Reordered (Value.object members'))
    (hx : members.lookup key = some x) :
    ∃ x', members'.lookup key = some x' ∧ x.Reordered x' := by
  cases h with
  | object hkeys hmembers =>
      obtain ⟨x', hx'⟩ := exists_lookup_iff.mpr
        (hkeys.mem_iff.mp (List.mem_map_of_mem (mem_of_lookup hx)))
      exact ⟨x', hx', hmembers key x x' hx hx'⟩

/-- What stands under a key of the one and of the other. -/
theorem Reordered.lookup (h : (Value.object members).Reordered (Value.object members'))
    (key : String) : Option.Rel Reordered (members.lookup key) (members'.lookup key) := by
  cases hx : members.lookup key with
  | some x =>
      obtain ⟨x', hx', hreordered⟩ := h.exists_lookup hx
      rw [hx']
      exact .some hreordered
  | none =>
      cases hx' : members'.lookup key with
      | none => exact .none
      | some x' =>
          obtain ⟨x, hx₀, -⟩ := h.symm.exists_lookup hx'
          cases hx.symm.trans hx₀

theorem Reordered.isSome_lookup (h : (Value.object members).Reordered (Value.object members'))
    (key : String) : (members.lookup key).isSome = (members'.lookup key).isSome := by
  have hrel := h.lookup key
  generalize members.lookup key = found at hrel ⊢
  generalize members'.lookup key = found' at hrel ⊢
  cases hrel <;> rfl

theorem Reordered.get? (h : v.Reordered v') (key : String) :
    Option.Rel Reordered (v.get? key) (v'.get? key) := by
  cases h with
  | object hkeys hmembers => exact (Reordered.object hkeys hmembers).lookup key
  | _ => exact .none

theorem Reordered.wellFormed (h : v.Reordered v') (hv : v.WellFormed) : v'.WellFormed := by
  induction h with
  | null | bool | number | string => trivial
  | @array items items' hlength _ ih =>
      refine wellFormedItems_iff.mpr fun x' hx' => ?_
      obtain ⟨i, hi⟩ := List.mem_iff_getElem?.mp hx'
      have hlt : i < items.length := hlength ▸ (List.getElem?_eq_some_iff.mp hi).1
      have hx := List.getElem?_eq_getElem hlt
      exact ih i _ x' hx hi (wellFormedItems_iff.mp hv _ (List.mem_of_getElem? hx))
  | @object members members' hkeys hmembers ih =>
      have hdistinct : (members'.map Prod.fst).Nodup := hkeys.nodup_iff.mp hv.1
      refine ⟨hdistinct, wellFormedMembers_iff.mpr fun m hm => ?_⟩
      have hx' := lookup_of_mem hdistinct hm
      obtain ⟨x, hx⟩ := exists_lookup_iff.mpr
        (hkeys.mem_iff.mpr (List.mem_map_of_mem (f := Prod.fst) hm))
      exact ih m.1 x m.2 hx hx' (hv.of_mem (mem_of_lookup hx))

/-! ## Agreement -/

section Agree

variable {same : Number → Number → Bool}

/-- A value agrees with another one in whichever order this has its members. -/
theorem agree_of_reordered_right (h : x.Reordered x') (v : Value) (hagree : agree same v x = true) :
    agree same v x' = true := by
  induction h generalizing v with
  | null | bool | number | string => exact hagree
  | array hlength _ ih =>
      cases v with
      | array vs =>
          have hvs := agreeItems_iff.mp hagree
          refine agreeItems_iff.mpr (forall₂_of_getElem? (hvs.length_eq.trans hlength) ?_)
          intro i y x' hy hx'
          obtain ⟨x, hx, hagree⟩ := exists_getElem?_of_forall₂ hvs.flip hy
          exact ih i x x' hx hx' y hagree
      | _ => cases hagree
  | @object members members' hkeys hmembers ih =>
      cases v with
      | object vs =>
          rw [agree, Bool.and_eq_true, beq_iff_eq, agreeMembers_iff] at hagree ⊢
          have hlength : members.length = members'.length := by simpa using hkeys.length_eq
          refine ⟨hagree.1.trans hlength, fun m hm => ?_⟩
          obtain ⟨y, hy, hm⟩ := hagree.2 m hm
          obtain ⟨y', hy', -⟩ := (Reordered.object hkeys hmembers).exists_lookup hy
          exact ⟨y', hy', ih m.1 y y' hy hy' m.2 hm⟩
      | _ => cases hagree

/-- So it does in whichever order it has its own members. -/
theorem agree_of_reordered_left (h : v.Reordered v') (hv : v.WellFormed) (x : Value)
    (hagree : agree same v x = true) : agree same v' x = true := by
  have hv' := h.wellFormed hv
  induction h generalizing x with
  | null | bool | number | string => exact hagree
  | @array items items' hlength _ ih =>
      cases x with
      | array xs =>
          have hxs := agreeItems_iff.mp hagree
          refine agreeItems_iff.mpr (forall₂_of_getElem? (hlength.symm.trans hxs.length_eq) ?_)
          intro i y' x hy' hx
          obtain ⟨y, hy, hagree⟩ := exists_getElem?_of_forall₂ hxs hx
          exact ih i y y' hy hy' (wellFormedItems_iff.mp hv y (List.mem_of_getElem? hy)) x hagree
            (wellFormedItems_iff.mp hv' y' (List.mem_of_getElem? hy'))
      | _ => cases hagree
  | @object members members' hkeys hmembers ih =>
      cases x with
      | object xs =>
          rw [agree, Bool.and_eq_true, beq_iff_eq, agreeMembers_iff] at hagree ⊢
          have hlength : members.length = members'.length := by simpa using hkeys.length_eq
          refine ⟨hlength.symm.trans hagree.1, fun m hm => ?_⟩
          obtain ⟨y, hy, -⟩ := (Reordered.object hkeys hmembers).symm.exists_lookup (hv'.lookup hm)
          obtain ⟨z, hz, hagree'⟩ := hagree.2 (m.1, y) (mem_of_lookup hy)
          exact ⟨z, hz, ih m.1 y m.2 hy (hv'.lookup hm) (hv.of_mem (mem_of_lookup hy)) z hagree'
            (hv'.of_mem hm)⟩
      | _ => cases hagree

theorem agree_reordered_right (h : x.Reordered x') (v : Value) :
    agree same v x = agree same v x' :=
  Bool.eq_iff_iff.mpr ⟨agree_of_reordered_right h v, agree_of_reordered_right h.symm v⟩

theorem agree_reordered_left (h : v.Reordered v') (hv : v.WellFormed) (x : Value) :
    agree same v x = agree same v' x :=
  Bool.eq_iff_iff.mpr ⟨agree_of_reordered_left h hv x,
    agree_of_reordered_left h.symm (h.wellFormed hv) x⟩

end Agree

theorem reordered_of_agree (v v' : Value) (hv : v.WellFormed)
    (hagree : agree (fun m n => decide (m = n)) v v' = true) : v.Reordered v' := by
  induction v using induction_parts generalizing v' with
  | array items ih =>
      cases v' with
      | array items' =>
          refine .array (agreeItems_iff.mp hagree).length_eq fun i x x' hx hx' => ?_
          have hmem := List.mem_of_getElem? hx
          exact ih x hmem x' (wellFormedItems_iff.mp hv x hmem) (agree_of_getElem? hagree hx hx')
      | _ => cases hagree
  | object members ih =>
      cases v' with
      | object members' =>
          refine .object (agree_object_keys hagree hv.1) fun key x x' hx hx' => ?_
          have hmem := mem_of_lookup hx
          exact ih (key, x) hmem x' (hv.of_mem hmem) (agree_of_lookup hagree hv.1 hx hx')
      | _ => cases hagree
  | null | bool b | number n | string s =>
      cases v' <;> simp [agree] at hagree
      all_goals first
        | exact .null
        | exact hagree ▸ .refl _

/-- To be in another order is to agree, numbers being the same. -/
theorem reordered_iff (hv : v.WellFormed) :
    v.Reordered v' ↔ agree (fun m n => decide (m = n)) v v' = true :=
  ⟨fun h => agree_of_reordered_right h v (agree_refl (by simp) v hv), reordered_of_agree v v' hv⟩

theorem Reordered.identical (h : v.Reordered v') (hv : v.WellFormed) : v.identical v' = true :=
  agree_of_reordered_right h v (identical_refl hv)

/-! ## Positions -/

theorem Reordered.exists_child? (h : v.Reordered v') {token : String}
    (hw : v.child? token = some w) : ∃ w', v'.child? token = some w' ∧ w.Reordered w' := by
  cases h with
  | @array items items' hlength hitems =>
      obtain ⟨i, hi, hitem⟩ := Option.bind_eq_some_iff.mp hw
      have hlt : i < items'.length := hlength ▸ (List.getElem?_eq_some_iff.mp hitem).1
      have hitem' := List.getElem?_eq_getElem hlt
      exact ⟨items'[i], by rw [child?, hi, Option.bind_some, hitem'],
        hitems i w _ hitem hitem'⟩
  | object hkeys hmembers => exact (Reordered.object hkeys hmembers).exists_lookup hw
  | _ => simp [child?] at hw

/-- A path leads to the same in both, up to the order of members. -/
theorem Reordered.exists_follow? (h : v.Reordered v') {path : List String}
    (hw : v.follow? path = some w) : ∃ w', v'.follow? path = some w' ∧ w.Reordered w' := by
  induction path generalizing v v' with
  | nil =>
      cases hw
      exact ⟨v', rfl, h⟩
  | cons token path ih =>
      obtain ⟨child, hchild, hw⟩ := Option.bind_eq_some_iff.mp hw
      obtain ⟨child', hchild', hreordered⟩ := h.exists_child? hchild
      obtain ⟨w', hw', hresult⟩ := ih hreordered hw
      exact ⟨w', (follow?_cons hchild').trans hw', hresult⟩

/-! ## Values without objects -/

theorem Reordered.eq_string {s : String} (h : (Value.string s).Reordered v') :
    v' = Value.string s := by
  cases h
  rfl

theorem Reordered.eq_number {n : Number} (h : (Value.number n).Reordered v') :
    v' = Value.number n := by
  cases h
  rfl

/-- There is only one order to an array of strings. -/
theorem Reordered.eq_strings {names : List Value} (h : (Value.array names).Reordered v')
    (hnames : ∀ x ∈ names, ∃ s, x = Value.string s) : v' = Value.array names := by
  cases h with
  | @array _ items' hlength hitems =>
      have hsame : items' = names := by
        refine List.ext_getElem hlength.symm fun i hi' hi => ?_
        have hreordered := hitems i _ _ (List.getElem?_eq_getElem hi) (List.getElem?_eq_getElem hi')
        obtain ⟨s, hs⟩ := hnames names[i] (List.getElem_mem hi)
        rw [hs] at hreordered ⊢
        exact hreordered.eq_string
      rw [hsame]

end Value
end JsonSchema
