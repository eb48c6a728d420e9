import JsonSchema.Proofs.Value.Position

/-!
# Values with one member more

Two values that are the same but for one member, which an object at a path has in the other one
only. What a path leads to in the one, it leads to in the other as well; it is the same there,
unless the object is in it.
-/

namespace JsonSchema

/-- Two values are the same but for one object at a path, which has one member more in the other:
a key that it does not have yet, wherever among its members. -/
inductive Value.Extended (entry : String × Value) : List String → Value → Value → Prop
  | here (before : List (String × Value)) {after}
      (habsent : entry.1 ∉ (before ++ after).map Prod.fst) :
      Extended entry [] (.object (before ++ after)) (.object (before ++ entry :: after))
  | member (before : List (String × Value)) {name after path v v'}
      (h : Extended entry path v v') :
      Extended entry (name :: path) (.object (before ++ (name, v) :: after))
        (.object (before ++ (name, v') :: after))
  | item (before : List Value) {after path v v'} (h : Extended entry path v v') :
      Extended entry (toString before.length :: path) (.array (before ++ v :: after))
        (.array (before ++ v' :: after))

/-- What is in front of a position of the two values: the same, or the object is in it. -/
def Value.ExtendedFrom (entry : String × Value) (front path : List String) (v v' : Value) : Prop :=
  v' = v ∨ ∃ rest, path = front ++ rest ∧ v.Extended entry rest v'

namespace Value

variable {entry : String × Value} {name token : String} {v v' w : Value} {path : List String}
variable {before after members members' : List (String × Value)}

theorem lookup_insert_of_ne (h : name ≠ entry.1) :
    (before ++ entry :: after).lookup name = (before ++ after).lookup name := by
  have hbeq : (name == entry.1) = false := by simpa using h
  rw [List.lookup_append, List.lookup_append, List.lookup_cons, hbeq]

theorem lookup_middle (h : name ∉ before.map Prod.fst) :
    (before ++ (name, v) :: after).lookup name = some v := by
  have hnone : before.lookup name = none := by
    rw [List.lookup_eq_none_iff]
    intro e he
    simpa using fun heq : name = e.1 => h (heq ▸ List.mem_map_of_mem he)
  rw [List.lookup_append, hnone, Option.none_or, List.lookup_cons_self]

/-- Between members of the two objects under one key there is no more difference than that. -/
theorem Extended.lookup (h : (Value.object members).Extended entry path (.object members'))
    (hwf : (Value.object members).WellFormed)
    (hname : name ≠ entry.1 ∨ name ∈ members.map Prod.fst) :
    Option.Rel (ExtendedFrom entry [name] path) (members.lookup name)
      (members'.lookup name) := by
  have hsame : Option.Rel (ExtendedFrom entry [name] path) (members.lookup name)
      (members.lookup name) := by
    cases members.lookup name with
    | none => exact .none
    | some w => exact .some (.inl rfl)
  cases h with
  | @here before after habsent =>
      have hne : name ≠ entry.1 := hname.elim id fun hmem heq => habsent (heq ▸ hmem)
      rw [lookup_insert_of_ne hne]
      exact hsame
  | @member before other after path v v' h =>
      by_cases hother : name = other
      · obtain rfl := hother
        have hbefore : name ∉ before.map Prod.fst := by
          have hdistinct := hwf.1
          rw [List.map_append, List.map_cons, List.nodup_middle, List.nodup_cons] at hdistinct
          exact fun hmem => hdistinct.1 (List.mem_append_left _ hmem)
        rw [lookup_middle hbefore, lookup_middle hbefore]
        exact .some (.inr ⟨path, rfl, h⟩)
      · rw [lookup_insert_of_ne hother] at hsame ⊢
        rw [lookup_insert_of_ne hother]
        exact hsame

theorem Extended.exists_child? (h : v.Extended entry path v') (hv : v.WellFormed)
    (hw : v.child? token = some w) :
    ∃ w', v'.child? token = some w' ∧ ExtendedFrom entry [token] path w w' := by
  have hobject {members members' : List (String × Value)}
      (h : (Value.object members).Extended entry path (.object members'))
      (hwf : (Value.object members).WellFormed) (hw : members.lookup token = some w) :
      ∃ w', members'.lookup token = some w' ∧ ExtendedFrom entry [token] path w w' := by
    have hrel := h.lookup hwf (.inr (List.mem_map_of_mem (mem_of_lookup hw)))
    rw [hw] at hrel
    generalize members'.lookup token = found at hrel ⊢
    cases hrel with
    | some hrel => exact ⟨_, rfl, hrel⟩
  cases h with
  | here before habsent => exact hobject (.here before habsent) hv hw
  | member before h => exact hobject (.member before h) hv hw
  | @item before after path x x' h =>
      obtain ⟨i, hi, hitem⟩ := Option.bind_eq_some_iff.mp hw
      rw [child?, hi, Option.bind_some]
      by_cases hlength : i = before.length
      · obtain rfl := hlength
        obtain rfl : x = w := by simpa using hitem
        rw [Pointer.eq_toString_of_indexOf? hi]
        exact ⟨x', by simp, .inr ⟨path, rfl, h⟩⟩
      · refine ⟨w, ?_, .inl rfl⟩
        rw [← hitem, List.getElem?_append, List.getElem?_append]
        split
        · rfl
        · obtain ⟨j, hj⟩ : ∃ j, i - before.length = j + 1 :=
            Nat.exists_eq_succ_of_ne_zero (by omega)
          rw [hj, List.getElem?_cons_succ, List.getElem?_cons_succ]

/-- A path that leads somewhere in the one leads to the same in the other, unless the object is
below its end. -/
theorem Extended.exists_follow? (h : v.Extended entry path v') (hv : v.WellFormed)
    {front : List String} (hw : v.follow? front = some w) :
    ∃ w', v'.follow? front = some w' ∧ ExtendedFrom entry front path w w' := by
  induction front generalizing v v' path with
  | nil =>
      cases hw
      exact ⟨v', rfl, .inr ⟨path, rfl, h⟩⟩
  | cons token front ih =>
      obtain ⟨child, hchild, hw⟩ := Option.bind_eq_some_iff.mp hw
      obtain ⟨child', hchild', hfrom⟩ := h.exists_child? hv hchild
      rcases hfrom with rfl | ⟨rest, rfl, hbelow⟩
      · exact ⟨w, (follow?_cons hchild').trans hw, .inl rfl⟩
      · obtain ⟨w', hw', hfrom⟩ := ih hbelow (hv.of_child? hchild) hw
        refine ⟨w', (follow?_cons hchild').trans hw', hfrom.imp_right ?_⟩
        rintro ⟨rest', rfl, hresult⟩
        exact ⟨rest', rfl, hresult⟩

theorem Extended.ne_string (h : v.Extended entry path v') :
    (∀ s, v ≠ string s) ∧ ∀ s, v' ≠ string s := by
  cases h <;> exact ⟨nofun, nofun⟩

/-- Both values have the same strings under the other keys. -/
theorem Extended.get?_string_iff (h : v.Extended entry path v') (hv : v.WellFormed)
    (hname : name ≠ entry.1) (s : String) :
    v.get? name = some (.string s) ↔ v'.get? name = some (.string s) := by
  have hobject {members members' : List (String × Value)}
      (h : (Value.object members).Extended entry path (.object members'))
      (hwf : (Value.object members).WellFormed) :
      members.lookup name = some (.string s) ↔ members'.lookup name = some (.string s) := by
    have hrel := h.lookup hwf (.inl hname)
    generalize members.lookup name = found at hrel ⊢
    generalize members'.lookup name = found' at hrel ⊢
    cases hrel with
    | none => rfl
    | some hrel =>
        rcases hrel with rfl | ⟨rest, -, h⟩
        · rfl
        · exact ⟨fun heq => absurd (Option.some.inj heq) (h.ne_string.1 s),
            fun heq => absurd (Option.some.inj heq) (h.ne_string.2 s)⟩
  cases h with
  | here before habsent => exact hobject (.here before habsent) hv
  | member before h => exact hobject (.member before h) hv
  | item before h => simp [get?]

theorem Extended.wellFormed (h : v.Extended entry path v') (hv : v.WellFormed)
    (hentry : entry.2.WellFormed) : v'.WellFormed := by
  induction h with
  | @here before after habsent =>
      refine ⟨?_, wellFormedMembers_iff.mpr ?_⟩
      · rw [List.map_append, List.map_cons, List.nodup_middle, List.nodup_cons, ← List.map_append]
        exact ⟨habsent, hv.1⟩
      · intro m hm
        rcases List.mem_append.mp hm with hm | hm
        · exact hv.of_mem (List.mem_append_left _ hm)
        · rcases List.mem_cons.mp hm with rfl | hm
          · exact hentry
          · exact hv.of_mem (List.mem_append_right _ hm)
  | @member before name after path v v' _ ih =>
      have hkeys : (before ++ (name, v') :: after).map Prod.fst =
          (before ++ (name, v) :: after).map Prod.fst := by simp
      refine ⟨hkeys ▸ hv.1, wellFormedMembers_iff.mpr ?_⟩
      intro m hm
      rcases List.mem_append.mp hm with hm | hm
      · exact hv.of_mem (List.mem_append_left _ hm)
      · rcases List.mem_cons.mp hm with rfl | hm
        · exact ih (hv.of_mem (List.mem_append_right _ List.mem_cons_self))
        · exact hv.of_mem (List.mem_append_right _ (List.mem_cons_of_mem _ hm))
  | @item before after path v v' _ ih =>
      have hitems := wellFormedItems_iff.mp hv
      refine wellFormedItems_iff.mpr fun x hx => ?_
      rcases List.mem_append.mp hx with hx | hx
      · exact hitems x (List.mem_append_left _ hx)
      · rcases List.mem_cons.mp hx with rfl | hx
        · exact ih (hitems v (List.mem_append_right _ List.mem_cons_self))
        · exact hitems x (List.mem_append_right _ (List.mem_cons_of_mem _ hx))

end Value
end JsonSchema
