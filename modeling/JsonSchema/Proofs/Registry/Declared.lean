import JsonSchema.Proofs.Registry.Scan

/-!
# Nothing on the walk is missed

A document is kept only if the walk for declarations was made to its end. So wherever the walk comes
in it, what an object there declares of itself is among what the document declares. The walk comes
to every position that no step under the key of a data keyword leads to, and it fails only where an
`$id` joins to no URL.
-/

namespace JsonSchema

namespace Declarations

variable {base b inner : Url} {place p : Place} {v w : Value} {declared : Declarations}
variable {e : ResolutionError}

/-- All that is declared in one is declared in the other. -/
structure Sub (a b : Declarations) : Prop where
  resources : a.resources ⊆ b.resources
  anchors : a.anchors ⊆ b.anchors

theorem Sub.refl (a : Declarations) : Sub a a := ⟨List.Subset.refl _, List.Subset.refl _⟩

theorem Sub.trans {a b c : Declarations} (h : Sub a b) (h' : Sub b c) : Sub a c :=
  ⟨List.Subset.trans h.resources h'.resources, List.Subset.trans h.anchors h'.anchors⟩

theorem Sub.append_right {a b : Declarations} (h : Sub a b) (c : Declarations) : Sub a (b ++ c) :=
  ⟨List.subset_append_of_subset_left _ h.resources, List.subset_append_of_subset_left _ h.anchors⟩

theorem Sub.append_left {a b : Declarations} (h : Sub a b) (c : Declarations) : Sub a (c ++ b) :=
  ⟨List.subset_append_of_subset_right _ h.resources, List.subset_append_of_subset_right _ h.anchors⟩

/-! ## What was read -/

theorem exists_declared_of_mem {members : List (String × Value)}
    (h : ofMembers base place members = .ok declared) {key : String} (hmem : (key, v) ∈ members)
    (hdata : isDataKeyword key = false) :
    ∃ own, ofValue base { place with pointer := place.pointer.key key } v = .ok own ∧
      Sub own declared := by
  induction members generalizing declared with
  | nil => simp at hmem
  | cons m rest ih =>
      obtain ⟨name, x⟩ := m
      obtain ⟨first, others, hfirst, hothers, rfl⟩ := ofMembers_cons_iff.mp h
      rcases List.mem_cons.mp hmem with heq | hmem
      · cases heq
        rw [hdata] at hfirst
        exact ⟨first, hfirst, (Sub.refl first).append_right others⟩
      · obtain ⟨own, hown, hsub⟩ := ih hothers hmem
        exact ⟨own, hown, hsub.append_left first⟩

theorem exists_declared_of_getElem? {items : List Value} {i j : Nat}
    (h : ofItems base place i items = .ok declared) (hv : items[j]? = some v) :
    ∃ own, ofValue base { place with pointer := place.pointer.index (i + j) } v = .ok own ∧
      Sub own declared := by
  induction items generalizing i j declared with
  | nil => simp at hv
  | cons x rest ih =>
      obtain ⟨first, others, hfirst, hothers, rfl⟩ := ofItems_cons_iff.mp h
      cases j with
      | zero =>
          obtain rfl : x = v := by simpa using hv
          exact ⟨first, hfirst, (Sub.refl first).append_right others⟩
      | succ j =>
          obtain ⟨own, hown, hsub⟩ := ih hothers (by simpa using hv)
          rw [Nat.add_assoc, Nat.add_comm 1 j] at hown
          exact ⟨own, hown, hsub.append_left first⟩

/-- Wherever the walk comes, what stands there was read. -/
theorem Scanned.exists_declared (hscanned : Scanned base place v b p w)
    (h : ofValue base place v = .ok declared) :
    ∃ own, ofValue b p w = .ok own ∧ Sub own declared := by
  induction hscanned generalizing declared with
  | here => exact ⟨declared, h, .refl declared⟩
  | member hinner hmem hdata _ ih =>
      obtain ⟨inner', found, below, hobject, hbelow, rfl⟩ := exists_of_ofValue_object h
      rw [hinner] at hobject
      cases hobject
      obtain ⟨child, hchild, hsub⟩ := exists_declared_of_mem hbelow hmem hdata
      obtain ⟨inside, hinside, hsub'⟩ := ih hchild
      exact ⟨inside, hinside, (hsub'.trans hsub).append_left _⟩
  | item hi _ ih =>
      obtain ⟨child, hchild, hsub⟩ := exists_declared_of_getElem? h hi
      obtain ⟨found, hfound, hsub'⟩ := ih (by simpa using hchild)
      exact ⟨found, hfound, hsub'.trans hsub⟩

/-- Wherever the walk comes to an object, what it declares of itself is declared. -/
theorem Scanned.exists_own {members : List (String × Value)}
    (hscanned : Scanned base place v b p (.object members))
    (h : ofValue base place v = .ok declared) :
    ∃ inner own, ofObject b p members = .ok (inner, own) ∧ Sub own declared := by
  obtain ⟨found, hfound, hsub⟩ := hscanned.exists_declared h
  obtain ⟨inner, own, below, hobject, -, rfl⟩ := exists_of_ofValue_object hfound
  exact ⟨inner, own, hobject, ((Sub.refl own).append_right below).trans hsub⟩

/-! ## Where the walk comes -/

theorem isDataKeyword_toString (i : Nat) : isDataKeyword (toString i) = false := by
  rw [← Bool.not_eq_true]
  intro hdata
  have hmem : toString i ∈ ["enum", "const", "default", "examples"] := by
    simpa [isDataKeyword] using hdata
  have hindex := Pointer.indexOf?_toString i
  have hnone : ∀ key ∈ ["enum", "const", "default", "examples"],
      Pointer.indexOf? key = none := by decide
  rw [hnone _ hmem] at hindex
  cases hindex

/-- The walk comes to each position on a path without data keywords. -/
theorem exists_scanned_of_follow? {path : List String} (h : ofValue base place v = .ok declared)
    (hpath : v.follow? path = some w) (hdata : ∀ token ∈ path, isDataKeyword token = false) :
    ∃ b, Scanned base place v b { place with pointer := place.pointer ++ ⟨path⟩ } w := by
  induction path generalizing base place v declared with
  | nil =>
      cases hpath
      exact ⟨base, by simpa [Pointer.append_eq] using Scanned.here⟩
  | cons token path ih =>
      obtain ⟨child, hchild, hrest⟩ := Option.bind_eq_some_iff.mp hpath
      obtain ⟨htoken, hdata⟩ := List.forall_mem_cons.mp hdata
      cases v with
      | object members =>
          obtain ⟨inner, own, below, hobject, hbelow, -⟩ := exists_of_ofValue_object h
          have hmem : (token, child) ∈ members := mem_of_lookup hchild
          obtain ⟨_, hown, -⟩ := exists_declared_of_mem hbelow hmem htoken
          obtain ⟨b, hb⟩ := ih hown hrest hdata
          refine ⟨b, .member hobject hmem htoken ?_⟩
          simpa [Pointer.append_eq, Pointer.key] using hb
      | array items =>
          obtain ⟨i, hi, hitem⟩ := Option.bind_eq_some_iff.mp hchild
          obtain ⟨_, hown, -⟩ := exists_declared_of_getElem? h hitem
          obtain ⟨b, hb⟩ := ih hown hrest hdata
          refine ⟨b, .item hitem ?_⟩
          simpa [Pointer.append_eq, Pointer.index, Pointer.key,
            Pointer.eq_toString_of_indexOf? hi] using hb
      | _ => simp [Value.child?] at hchild

/-- It comes to no other position. -/
theorem Scanned.exists_path (h : Scanned base place v b p w) :
    ∃ path, p = { place with pointer := place.pointer ++ ⟨path⟩ } ∧
      ∀ token ∈ path, isDataKeyword token = false := by
  induction h with
  | here => exact ⟨[], by simp [Pointer.append_eq], by simp⟩
  | @member _ _ place _ _ key _ _ _ _ _ _ hdata _ ih =>
      obtain ⟨path, rfl, hpath⟩ := ih
      refine ⟨key :: path, by simp [Pointer.append_eq, Pointer.key], ?_⟩
      exact List.forall_mem_cons.mpr ⟨hdata, hpath⟩
  | @item _ place _ i _ _ _ _ _ _ ih =>
      obtain ⟨path, rfl, hpath⟩ := ih
      refine ⟨toString i :: path, by simp [Pointer.append_eq, Pointer.index, Pointer.key], ?_⟩
      exact List.forall_mem_cons.mpr ⟨isDataKeyword_toString i, hpath⟩

/-! ## Why reading fails -/

mutual

/-- If reading fails, it does so at an object that the walk comes to. -/
theorem exists_scanned_of_error (base : Url) (place : Place) : ∀ v : Value,
    ofValue base place v = .error e → ∃ b p members,
      Scanned base place v b p (.object members) ∧ ofObject b p members = .error e
  | .object members, h => by
    rw [ofValue] at h
    rcases bind_eq_error.mp h with h | ⟨⟨inner, own⟩, hobject, h⟩
    · exact ⟨base, place, members, .here, h⟩
    · rcases bind_eq_error.mp h with h | ⟨_, _, h⟩
      · obtain ⟨key, v, b, p, found, hmem, hdata, hscanned, herror⟩ :=
          exists_scanned_of_membersError inner place members h
        exact ⟨b, p, found, .member hobject hmem hdata hscanned, herror⟩
      · cases h
  | .array items, h => by
    obtain ⟨j, v, b, p, found, hv, hscanned, herror⟩ :=
      exists_scanned_of_itemsError base place 0 items h
    exact ⟨b, p, found, .item hv (by simpa using hscanned), herror⟩
  | .null, h | .bool _, h | .number _, h | .string _, h => by cases h

theorem exists_scanned_of_membersError (base : Url) (place : Place) :
    ∀ members : List (String × Value), ofMembers base place members = .error e →
      ∃ key v b p found, (key, v) ∈ members ∧ isDataKeyword key = false ∧
        Scanned base { place with pointer := place.pointer.key key } v b p (.object found) ∧
          ofObject b p found = .error e
  | [], h => by cases h
  | (key, v) :: rest, h => by
    rw [ofMembers] at h
    have hlater (h : ofMembers base place rest = .error e) : ∃ name x b p found,
        (name, x) ∈ (key, v) :: rest ∧ isDataKeyword name = false ∧
          Scanned base { place with pointer := place.pointer.key name } x b p (.object found) ∧
            ofObject b p found = .error e := by
      obtain ⟨name, x, b, p, found, hmem, hfound⟩ :=
        exists_scanned_of_membersError base place rest h
      exact ⟨name, x, b, p, found, List.mem_cons_of_mem _ hmem, hfound⟩
    split at h
    · rcases bind_eq_error.mp h with h | ⟨_, _, h⟩
      · cases h
      · rcases bind_eq_error.mp h with h | ⟨_, _, h⟩
        · exact hlater h
        · cases h
    · rename_i hdata
      rcases bind_eq_error.mp h with h | ⟨_, _, h⟩
      · obtain ⟨b, p, found, hscanned, herror⟩ := exists_scanned_of_error base _ v h
        exact ⟨key, v, b, p, found, List.mem_cons_self, by simpa using hdata, hscanned, herror⟩
      · rcases bind_eq_error.mp h with h | ⟨_, _, h⟩
        · exact hlater h
        · cases h

theorem exists_scanned_of_itemsError (base : Url) (place : Place) (i : Nat) :
    ∀ items : List Value, ofItems base place i items = .error e →
      ∃ (j : Nat) (v : Value) (b : Url) (p : Place) (found : List (String × Value)),
        items[j]? = some v ∧
        Scanned base { place with pointer := place.pointer.index (i + j) } v b p (.object found) ∧
          ofObject b p found = .error e
  | [], h => by cases h
  | v :: rest, h => by
    rw [ofItems] at h
    rcases bind_eq_error.mp h with hfirst | ⟨_, _, h⟩
    · obtain ⟨b, p, found, hscanned, herror⟩ := exists_scanned_of_error base _ v hfirst
      exact ⟨0, v, b, p, found, rfl, hscanned, herror⟩
    · rcases bind_eq_error.mp h with h | ⟨_, _, h⟩
      · obtain ⟨j, x, b, p, found, hx, hscanned, herror⟩ :=
          exists_scanned_of_itemsError base place (i + 1) rest h
        refine ⟨j + 1, x, b, p, found, by simpa using hx, ?_, herror⟩
        rwa [Nat.add_comm j 1, ← Nat.add_assoc]
      · cases h

end

/-- On the walk there is an `$id` that joins to no URL at the base of its object. -/
def Unresolvable (base : Url) (place : Place) (v : Value) : Prop :=
  ∃ b p members id fault, Scanned base place v b p (.object members) ∧
    members.lookup "$id" = some (.string id) ∧ b.join id = .error fault

theorem exists_id_of_ofObject {members : List (String × Value)}
    (h : ofObject base place members = .error e) :
    ∃ id fault, members.lookup "$id" = some (.string id) ∧ base.join id = .error fault := by
  cases hid : members.lookup "$id" with
  | none => simp [ofObject, hid, bind, Except.bind, pure, Except.pure] at h
  | some x =>
      cases x with
      | string id =>
          cases hjoin : base.join id with
          | error fault => exact ⟨id, fault, rfl, hjoin⟩
          | ok url =>
              simp [ofObject, hid, ofId, joinId, hjoin, bind, Except.bind, pure, Except.pure] at h
      | _ => simp [ofObject, hid, bind, Except.bind, pure, Except.pure] at h

/-- The declarations of a value are read unless an `$id` joins to no URL. -/
theorem exists_error_iff :
    (∃ e, ofValue base place v = .error e) ↔ Unresolvable base place v := by
  constructor
  · rintro ⟨e, h⟩
    obtain ⟨b, p, members, hscanned, herror⟩ := exists_scanned_of_error base place v h
    obtain ⟨id, fault, hid, hjoin⟩ := exists_id_of_ofObject herror
    exact ⟨b, p, members, id, fault, hscanned, hid, hjoin⟩
  · rintro ⟨b, p, members, id, fault, hscanned, hid, hjoin⟩
    cases h : ofValue base place v with
    | error e => exact ⟨e, rfl⟩
    | ok declared =>
        obtain ⟨inner, own, hobject, -⟩ := hscanned.exists_own h
        simp [ofObject, hid, ofId, joinId, hjoin, bind, Except.bind] at hobject

theorem not_unresolvable_of_toBool (h : (ofValue base place v).toBool) :
    ¬Unresolvable base place v := by
  intro hunresolvable
  obtain ⟨e, he⟩ := exists_error_iff.mpr hunresolvable
  rw [he] at h
  cases h

end Declarations
end JsonSchema
