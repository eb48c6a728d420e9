import JsonSchema.Proofs.Value.Position

/-!
# All positions of a value

The paths to the positions of a value are listed, one for each position. A path that leads
somewhere is in the list, so there are no more of them than positions.
-/

namespace JsonSchema.Value

/-! ## Parts have fewer positions -/

theorem one_le_positions (v : Value) : 1 ≤ v.positions := by
  cases v <;> simp [positions]

theorem positions_le_of_mem_items {v : Value} {items : List Value} (h : v ∈ items) :
    v.positions ≤ itemPositions items := by
  induction items with
  | nil => simp at h
  | cons x xs ih =>
      rw [itemPositions]
      rcases List.mem_cons.mp h with rfl | h
      · omega
      · have := ih h
        omega

theorem positions_le_of_mem_members {name : String} {v : Value} {members : List (String × Value)}
    (h : (name, v) ∈ members) : v.positions ≤ memberPositions members := by
  induction members with
  | nil => simp at h
  | cons m members ih =>
      obtain ⟨key, x⟩ := m
      rw [memberPositions]
      rcases List.mem_cons.mp h with heq | h
      · cases heq
        omega
      · have := ih h
        omega

theorem positions_lt_of_child? {v child : Value} {token : String}
    (h : v.child? token = some child) : child.positions < v.positions := by
  cases v with
  | object members =>
      have := positions_le_of_mem_members (mem_of_lookup h)
      rw [positions]
      omega
  | array items =>
      obtain ⟨i, -, hi⟩ := Option.bind_eq_some_iff.mp h
      have := positions_le_of_mem_items (List.mem_of_getElem? hi)
      rw [positions]
      omega
  | _ => simp [child?] at h

theorem positions_le_of_follow? {v w : Value} {path : List String}
    (h : v.follow? path = some w) : w.positions ≤ v.positions := by
  induction path generalizing v with
  | nil =>
      cases h
      exact le_rfl
  | cons token path ih =>
      obtain ⟨child, hchild, h⟩ := Option.bind_eq_some_iff.mp h
      exact (ih h).trans (positions_lt_of_child? hchild).le

/-! ## Paths -/

mutual

/-- The paths to the positions of a value, the empty one first. -/
def paths : Value → List (List String)
  | .array items => [] :: itemPaths 0 items
  | .object members => [] :: memberPaths members
  | _ => [[]]

/-- The paths into the items of an array, counted from an index. -/
def itemPaths (i : Nat) : List Value → List (List String)
  | [] => []
  | x :: xs => (paths x).map (toString i :: ·) ++ itemPaths (i + 1) xs

/-- The paths into the members of an object. -/
def memberPaths : List (String × Value) → List (List String)
  | [] => []
  | (key, x) :: xs => (paths x).map (key :: ·) ++ memberPaths xs

end

mutual

/-- There are as many paths as positions. -/
theorem length_paths : ∀ v : Value, v.paths.length = v.positions
  | .array items => by
    rw [paths, positions, List.length_cons, length_itemPaths 0 items, Nat.add_comm]
  | .object members => by
    rw [paths, positions, List.length_cons, length_memberPaths members, Nat.add_comm]
  | .null | .bool _ | .number _ | .string _ => rfl

theorem length_itemPaths (i : Nat) :
    ∀ items : List Value, (itemPaths i items).length = itemPositions items
  | [] => rfl
  | x :: xs => by
    rw [itemPaths, itemPositions, List.length_append, List.length_map, length_paths x,
      length_itemPaths (i + 1) xs]

theorem length_memberPaths :
    ∀ members : List (String × Value), (memberPaths members).length = memberPositions members
  | [] => rfl
  | (_, x) :: xs => by
    rw [memberPaths, memberPositions, List.length_append, List.length_map, length_paths x,
      length_memberPaths xs]

end

theorem mem_itemPaths {items : List Value} {i j : Nat} {v : Value} {path : List String}
    (h : items[j]? = some v) (hpath : path ∈ v.paths) :
    toString (i + j) :: path ∈ itemPaths i items := by
  induction items generalizing i j with
  | nil => simp at h
  | cons x xs ih =>
      rw [itemPaths, List.mem_append]
      cases j with
      | zero =>
          obtain rfl : x = v := by simpa using h
          exact .inl (List.mem_map_of_mem hpath)
      | succ j =>
          have hrest := ih (i := i + 1) (j := j) (by simpa using h)
          rw [Nat.add_assoc, Nat.add_comm 1 j] at hrest
          exact .inr hrest

theorem mem_memberPaths {members : List (String × Value)} {key : String} {v : Value}
    {path : List String} (h : (key, v) ∈ members) (hpath : path ∈ v.paths) :
    key :: path ∈ memberPaths members := by
  induction members with
  | nil => simp at h
  | cons m members ih =>
      obtain ⟨name, x⟩ := m
      rw [memberPaths, List.mem_append]
      rcases List.mem_cons.mp h with heq | h
      · cases heq
        exact .inl (List.mem_map_of_mem hpath)
      · exact .inr (ih h)

/-- A path that leads somewhere is listed. -/
theorem mem_paths_of_follow? {v w : Value} {path : List String} (h : v.follow? path = some w) :
    path ∈ v.paths := by
  induction path generalizing v with
  | nil => cases v <;> simp [paths]
  | cons token path ih =>
      obtain ⟨child, hchild, hrest⟩ := Option.bind_eq_some_iff.mp h
      cases v with
      | object members =>
          exact List.mem_cons_of_mem _ (mem_memberPaths (mem_of_lookup hchild) (ih hrest))
      | array items =>
          obtain ⟨i, hi, hitem⟩ := Option.bind_eq_some_iff.mp hchild
          have hpath := mem_itemPaths (i := 0) hitem (ih hrest)
          rw [Nat.zero_add, ← Pointer.eq_toString_of_indexOf? hi] at hpath
          exact List.mem_cons_of_mem _ hpath
      | _ => simp [child?] at hchild

end JsonSchema.Value
