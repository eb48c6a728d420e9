import JsonSchema.Proofs.Outcome
import JsonSchema.Proofs.Value.Position
import Mathlib.Data.List.Perm.Subperm

/-!
# The same value in another order

Values that are the same up to the order of object members have the same positions: whatever a path
leads to in one of them, it leads to the same value in the other one.
-/

namespace JsonSchema

theorem Number.identical_refl (n : Number) : n.identical n = true := by
  cases n with
  | integer m _ => simp [identical]
  | float x => simp [identical, Binary64.compare]

namespace Value

/-- Induction on the items and the members of values. -/
@[elab_as_elim]
theorem induction_parts {P : Value → Prop} (null : P .null) (bool : ∀ b, P (.bool b))
    (number : ∀ n, P (.number n)) (string : ∀ s, P (.string s))
    (array : ∀ items, (∀ x ∈ items, P x) → P (.array items))
    (object : ∀ members, (∀ m ∈ members, P m.2) → P (.object members)) : ∀ v, P v
  | .null => null
  | .bool b => bool b
  | .number n => number n
  | .string s => string s
  | .array items => array items fun x _ =>
    induction_parts null bool number string array object x
  | .object members => object members fun (key, x) hm =>
    have : sizeOf x < sizeOf members := by
      have hlt := List.sizeOf_lt_of_mem hm
      simp only [Prod.mk.sizeOf_spec] at hlt
      omega
    induction_parts null bool number string array object x

/-! ## Agreement part by part -/

section Agree

variable {same : Number → Number → Bool}

theorem agreeItems_iff {xs ys : List Value} :
    agreeItems same xs ys = true ↔ List.Forall₂ (fun x y => agree same x y = true) xs ys := by
  induction xs generalizing ys with
  | nil => cases ys <;> simp [agreeItems]
  | cons x xs ih => cases ys <;> simp [agreeItems, ih]

theorem agreeMembers_iff {xs ys : List (String × Value)} :
    agreeMembers same xs ys = true ↔
      ∀ m ∈ xs, ∃ y, ys.lookup m.1 = some y ∧ agree same m.2 y = true := by
  induction xs with
  | nil => simp [agreeMembers]
  | cons m xs ih =>
      obtain ⟨key, x⟩ := m
      rw [agreeMembers, Bool.and_eq_true, ih, List.forall_mem_cons]
      cases ys.lookup key <;> simp

theorem agree_refl (hsame : ∀ n, same n n = true) (v : Value) (h : v.WellFormed) :
    agree same v v = true := by
  induction v using induction_parts with
  | null => rfl
  | bool b => simp [agree]
  | string s => simp [agree]
  | number n => exact hsame n
  | array items ih =>
      exact agreeItems_iff.mpr (List.forall₂_same.mpr fun x hx =>
        ih x hx (wellFormedItems_iff.mp h x hx))
  | object members ih =>
      rw [agree, Bool.and_eq_true, agreeMembers_iff]
      exact ⟨by simp, fun m hm => ⟨m.2, h.lookup hm, ih m hm (h.of_mem hm)⟩⟩

/-- Objects that agree have the same keys. -/
theorem agree_object_keys {xs ys : List (String × Value)}
    (h : agree same (.object xs) (.object ys) = true) (hx : (xs.map Prod.fst).Nodup) :
    (xs.map Prod.fst).Perm (ys.map Prod.fst) := by
  rw [agree, Bool.and_eq_true, agreeMembers_iff] at h
  obtain ⟨hlength, hmembers⟩ := h
  have hsub : xs.map Prod.fst ⊆ ys.map Prod.fst := by
    intro key hkey
    obtain ⟨m, hm, rfl⟩ := List.mem_map.mp hkey
    obtain ⟨y, hy, -⟩ := hmembers m hm
    exact List.mem_map.mpr ⟨(m.1, y), mem_of_lookup hy, rfl⟩
  -- As many different keys as there are on the other side are all of them.
  refine (hx.subperm hsub).perm_of_length_le ?_
  simpa using (beq_iff_eq.mp hlength).ge

theorem agree_object_lookup {xs ys : List (String × Value)}
    (h : agree same (.object xs) (.object ys) = true) (hx : (xs.map Prod.fst).Nodup)
    {key : String} {y : Value} (hy : ys.lookup key = some y) :
    ∃ x, xs.lookup key = some x ∧ agree same x y = true := by
  have hkey : key ∈ xs.map Prod.fst :=
    (agree_object_keys h hx).symm.subset (List.mem_map_of_mem (mem_of_lookup hy))
  rw [agree, Bool.and_eq_true, agreeMembers_iff] at h
  obtain ⟨⟨_, x⟩, hmem, rfl⟩ := List.mem_map.mp hkey
  obtain ⟨y', hy', hagree⟩ := h.2 _ hmem
  obtain rfl : y' = y := Option.some.inj (hy'.symm.trans hy)
  exact ⟨x, lookup_of_mem hx hmem, hagree⟩

/-- Arrays that agree do so item by item. -/
theorem agree_of_getElem? {xs ys : List Value}
    (h : agree same (.array xs) (.array ys) = true) {i : Nat} {x y : Value}
    (hx : xs[i]? = some x) (hy : ys[i]? = some y) : agree same x y = true := by
  obtain ⟨x', hx', hagree⟩ := exists_getElem?_of_forall₂ (agreeItems_iff.mp h) hy
  obtain rfl : x' = x := Option.some.inj (hx'.symm.trans hx)
  exact hagree

/-- Objects that agree do so key by key. -/
theorem agree_of_lookup {xs ys : List (String × Value)}
    (h : agree same (.object xs) (.object ys) = true) (hx : (xs.map Prod.fst).Nodup)
    {key : String} {x y : Value} (hkey : xs.lookup key = some x) (hy : ys.lookup key = some y) :
    agree same x y = true := by
  obtain ⟨x', hx', hagree⟩ := agree_object_lookup h hx hy
  obtain rfl : x' = x := Option.some.inj (hx'.symm.trans hkey)
  exact hagree

end Agree

/-! ## Identity -/

theorem identical_refl {v : Value} (h : v.WellFormed) : v.identical v = true :=
  agree_refl Number.identical_refl v h

variable {a b y : Value}

theorem identical_child? (h : a.identical b = true) (ha : a.WellFormed) {token : String}
    (hy : b.child? token = some y) : ∃ x, a.child? token = some x ∧ x.identical y = true := by
  cases b with
  | object ys =>
      cases a with
      | object xs => exact agree_object_lookup h ha.1 hy
      | _ => simp [identical, agree] at h
  | array ys =>
      cases a with
      | array xs =>
          obtain ⟨i, hi, hget⟩ := Option.bind_eq_some_iff.mp hy
          have hitems := agreeItems_iff.mp h
          have hlt : i < xs.length := hitems.length_eq ▸ (List.getElem?_eq_some_iff.mp hget).1
          refine ⟨xs[i], by simp [child?, hi, hlt], ?_⟩
          obtain ⟨hlt', rfl⟩ := List.getElem?_eq_some_iff.mp hget
          exact (List.forall₂_iff_get.mp hitems).2 i hlt hlt'
      | _ => simp [identical, agree] at h
  | _ => simp [child?] at hy

/-- A path that leads somewhere in a value leads to the same in an identical one. -/
theorem identical_follow? (h : a.identical b = true) (ha : a.WellFormed) {path : List String}
    (hy : b.follow? path = some y) : ∃ x, a.follow? path = some x ∧ x.identical y = true := by
  induction path generalizing a b with
  | nil =>
      cases hy
      exact ⟨a, rfl, h⟩
  | cons token path ih =>
      obtain ⟨child, hchild, hy⟩ := Option.bind_eq_some_iff.mp hy
      obtain ⟨x, hx, hidentical⟩ := identical_child? h ha hchild
      obtain ⟨x', hx', hresult⟩ := ih hidentical (ha.of_child? hx) hy
      exact ⟨x', (follow?_cons hx).trans hx', hresult⟩

theorem eq_string_of_identical {text : String} (h : a.identical (.string text) = true) :
    a = .string text := by
  cases a with
  | string s => simpa [identical, agree] using h
  | _ => simp [identical, agree] at h

theorem eq_of_string_identical {text : String} (h : identical (.string text) b = true) :
    b = .string text := by
  cases b with
  | string s =>
      obtain rfl : text = s := by simpa [identical, agree] using h
      rfl
  | _ => simp [identical, agree] at h

/-- Identical values have the same strings under a key. -/
theorem get?_string_iff_of_identical (h : a.identical b = true) (ha : a.WellFormed)
    {name text : String} :
    a.get? name = some (.string text) ↔ b.get? name = some (.string text) := by
  constructor
  · intro hget
    cases a with
    | object xs =>
        cases b with
        | object ys =>
            rw [identical, agree, Bool.and_eq_true, agreeMembers_iff] at h
            obtain ⟨y, hy, hagree⟩ := h.2 _ (mem_of_lookup hget)
            rw [get?, hy, eq_of_string_identical hagree]
        | _ => simp [identical, agree] at h
    | _ => simp [get?] at hget
  · intro hget
    cases b with
    | object ys =>
        cases a with
        | object xs =>
            obtain ⟨x, hx, hagree⟩ := agree_object_lookup h ha.1 hget
            rw [get?, hx, eq_string_of_identical hagree]
        | _ => simp [identical, agree] at h
    | _ => simp [get?] at hget

end Value
end JsonSchema
