import JsonSchema.Pointer.Evaluate
import JsonSchema.Proofs.Outcome
import Mathlib.Data.List.Induction
import Mathlib.Data.List.Nodup
import Mathlib.Data.Nat.Digits.Defs
import Mathlib.Tactic.IntervalCases

/-!
# Positions in values

Each item of an array and, where no key is there twice, each member of an object is one step down,
under the token that writes its index or its key. Paths of tokens are followed one after the other.
-/

namespace JsonSchema

namespace Pointer

theorem append_eq (p q : Pointer) : p ++ q = ⟨p.tokens ++ q.tokens⟩ := rfl

@[simp] theorem tokens_append (p q : Pointer) : (p ++ q).tokens = p.tokens ++ q.tokens := rfl

@[simp] theorem tokens_root : root.tokens = [] := rfl

@[simp] theorem append_root (p : Pointer) : p ++ root = p := by simp [append_eq]

@[simp] theorem root_append (p : Pointer) : root ++ p = p := by simp [append_eq]

theorem append_assoc (p q r : Pointer) : p ++ q ++ r = p ++ (q ++ r) := by simp [append_eq]

theorem isDigit_of_mem_toDigits {i : Nat} {c : Char} (h : c ∈ Nat.toDigits 10 i) :
    isDigit c = true := by
  have hdigit := Nat.isDigit_of_mem_toDigits (by decide) (by decide) h
  simpa [Char.isDigit, isDigit, Char.le_def] using hdigit

theorem all_isDigit_toDigits (i : Nat) : (Nat.toDigits 10 i).all isDigit = true :=
  List.all_eq_true.mpr fun _ h => isDigit_of_mem_toDigits h

theorem digitsValue_toDigits (i : Nat) : digitsValue (Nat.toDigits 10 i) = i :=
  Nat.ofDigitChars_ten_toDigits

/-- The decimal digits of a positive number begin with no zero. -/
theorem head?_toDigits_ne {i : Nat} (h : 0 < i) : (Nat.toDigits 10 i).head? ≠ some '0' := by
  induction i using Nat.strong_induction_on with
  | _ i ih =>
      rw [Nat.toDigits_eq_if (by decide)]
      split
      · rename_i hsmall
        interval_cases i <;> decide
      · rename_i hlarge
        have hhead := ih (i / 10) (by omega) (by omega)
        rwa [List.head?_append_of_ne_nil _ Nat.toDigits_ne_nil]

/-- The text of an index writes that index. -/
theorem indexOf?_toString (i : Nat) : indexOf? (toString i) = some i := by
  have hne : Nat.toDigits 10 i ≠ [] := Nat.toDigits_ne_nil
  have hzero : ¬((Nat.toDigits 10 i).head? = some '0' ∧ 1 < (Nat.toDigits 10 i).length) := by
    rintro ⟨hhead, hlength⟩
    obtain rfl : i = 0 := Nat.eq_zero_of_not_pos fun hpos => head?_toDigits_ne hpos hhead
    exact absurd hlength (by decide)
  simp only [indexOf?, Nat.toString_eq_ofList_toDigits, String.toList_ofList, hne, hzero,
    all_isDigit_toDigits, digitsValue_toDigits, false_or, not_true_eq_false, ite_false]

theorem exists_digit_of_isDigit {c : Char} (h : isDigit c = true) :
    c.toNat - 48 < 10 ∧ Nat.toDigits 10 (c.toNat - 48) = [c] := by
  have hrange : 48 ≤ c.toNat ∧ c.toNat ≤ 57 := by
    simpa [isDigit, Char.le_def, UInt32.le_iff_toNat_le] using h
  have hlt : c.toNat - 48 < 10 := by omega
  have hchar : Char.ofNat c.toNat = c := c.ofNat_toNat
  refine ⟨hlt, ?_⟩
  rw [Nat.toDigits_of_lt_base hlt, ← hchar]
  generalize c.toNat = n at hrange
  obtain ⟨hlow, hhigh⟩ := hrange
  interval_cases n <;> rfl

theorem digitsValue_append (ds : List Char) (c : Char) :
    digitsValue (ds ++ [c]) = 10 * digitsValue ds + (c.toNat - 48) := by
  simp [digitsValue]

/-- Decimal digits without a leading zero are those of the number that they write. -/
theorem toDigits_digitsValue {ds : List Char} (hne : ds ≠ []) (hall : ∀ c ∈ ds, isDigit c = true)
    (hzero : ds.head? = some '0' → ds.length = 1) :
    Nat.toDigits 10 (digitsValue ds) = ds ∧ (ds.head? ≠ some '0' → 0 < digitsValue ds) := by
  induction ds using List.reverseRecOn with
  | nil => exact absurd rfl hne
  | append_singleton ds c ih =>
      obtain ⟨hlt, hdigit⟩ := exists_digit_of_isDigit (hall c (by simp))
      rw [digitsValue_append]
      by_cases hds : ds = []
      · subst hds
        refine ⟨by simpa [digitsValue] using hdigit, fun hhead => ?_⟩
        by_contra hvalue
        have hc : c.toNat - 48 = 0 := by
          simp only [digitsValue, List.foldl_nil] at hvalue
          omega
        rw [hc, Nat.toDigits_zero] at hdigit
        exact hhead (congrArg List.head? hdigit.symm)
      · have hhead : ds.head? ≠ some '0' := by
          intro hhead
          have hlength := hzero (by rw [List.head?_append_of_ne_nil _ hds, hhead])
          exact hds (List.eq_nil_of_length_eq_zero (by simpa using hlength))
        obtain ⟨hdigits, hpos⟩ := ih hds (fun c hc => hall c (by simp [hc]))
          fun h => absurd h hhead
        have hvalue := hpos hhead
        refine ⟨?_, fun _ => by omega⟩
        rw [← Nat.toDigits_append_toDigits (by decide) hvalue hlt, hdigits, hdigit]

/-- There is one token for an index. -/
theorem eq_toString_of_indexOf? {token : String} {i : Nat} (h : indexOf? token = some i) :
    token = toString i := by
  unfold indexOf? at h
  dsimp only at h
  split at h
  · cases h
  · rename_i hform
    push Not at hform
    obtain ⟨hne, hzero, hall⟩ := hform
    cases h
    have hdigits := (toDigits_digitsValue hne (List.all_eq_true.mp hall) fun hhead => ?_).1
    · rw [Nat.toString_eq_ofList_toDigits, hdigits, String.ofList_toList]
    · have hpos := List.length_pos_of_ne_nil hne
      have hshort := hzero hhead
      omega

/-- What the strict reading of an index takes, the lax one reads alike. -/
theorem laxIndexOf?_of_indexOf? {token : String} {i : Nat} (h : indexOf? token = some i) :
    laxIndexOf? token = some i := by
  unfold indexOf? at h
  unfold laxIndexOf?
  dsimp only at h ⊢
  split at h
  · cases h
  · rename_i hform
    push Not at hform
    obtain ⟨hne, -, hall⟩ := hform
    split
    · rename_i ds hds
      have hplus : isDigit '+' = true := List.all_eq_true.mp hall '+' (by simp [hds])
      exact absurd hplus (by decide)
    · simpa [hne, hall] using h

end Pointer

theorem lookup_of_mem {α : Type} {members : List (String × α)} {key : String} {a : α}
    (hdistinct : (members.map Prod.fst).Nodup) (h : (key, a) ∈ members) :
    members.lookup key = some a := by
  induction members with
  | nil => simp at h
  | cons m members ih =>
      obtain ⟨name, b⟩ := m
      rw [List.map_cons, List.nodup_cons] at hdistinct
      rcases List.mem_cons.mp h with heq | h
      · cases heq
        simp
      · have hne : (key == name) = false := by
          have hmem : key ∈ members.map Prod.fst := List.mem_map_of_mem h
          simpa using fun heq : key = name => hdistinct.1 (heq ▸ hmem)
        rw [List.lookup_cons, hne]
        exact ih hdistinct.2 h

namespace Value

/-! ## Well-formed parts -/

theorem wellFormedItems_iff {items : List Value} :
    WellFormedItems items ↔ ∀ v ∈ items, v.WellFormed := by
  induction items with
  | nil => simp [WellFormedItems]
  | cons v items ih => simp [WellFormedItems, ih]

theorem wellFormedMembers_iff {members : List (String × Value)} :
    WellFormedMembers members ↔ ∀ m ∈ members, m.2.WellFormed := by
  induction members with
  | nil => simp [WellFormedMembers]
  | cons m members ih =>
      obtain ⟨name, v⟩ := m
      simp [WellFormedMembers, ih]

mutual

/-- Whether the objects in a value have each key once. -/
def decidableWellFormed : ∀ v : Value, Decidable v.WellFormed
  | .array items => decidableWellFormedItems items
  | .object members => @instDecidableAnd _ _ inferInstance (decidableWellFormedMembers members)
  | .null | .bool _ | .number _ | .string _ => .isTrue trivial

def decidableWellFormedItems : ∀ items : List Value, Decidable (WellFormedItems items)
  | [] => .isTrue trivial
  | v :: rest => @instDecidableAnd _ _ (decidableWellFormed v) (decidableWellFormedItems rest)

def decidableWellFormedMembers :
    ∀ members : List (String × Value), Decidable (WellFormedMembers members)
  | [] => .isTrue trivial
  | (_, v) :: rest =>
    @instDecidableAnd _ _ (decidableWellFormed v) (decidableWellFormedMembers rest)

end

instance : DecidablePred WellFormed := decidableWellFormed

theorem WellFormed.of_mem {members : List (String × Value)} (h : (object members).WellFormed)
    {name : String} {v : Value} (hmem : (name, v) ∈ members) : v.WellFormed :=
  wellFormedMembers_iff.mp h.2 (name, v) hmem

/-- A member of an object is under its key. -/
theorem WellFormed.lookup {members : List (String × Value)} (h : (object members).WellFormed)
    {name : String} {v : Value} (hmem : (name, v) ∈ members) : members.lookup name = some v :=
  lookup_of_mem h.1 hmem

theorem WellFormed.of_child? {v child : Value} {token : String} (h : v.WellFormed)
    (hchild : v.child? token = some child) : child.WellFormed := by
  cases v with
  | object members =>
      obtain ⟨before, after, rfl, -⟩ := List.lookup_eq_some_iff.mp hchild
      exact h.of_mem (List.mem_append_right before List.mem_cons_self)
  | array items =>
      obtain ⟨i, -, hi⟩ := Option.bind_eq_some_iff.mp hchild
      exact wellFormedItems_iff.mp h child (List.mem_of_getElem? hi)
  | _ => simp [child?] at hchild

theorem WellFormed.of_follow? {v w : Value} {path : List String} (h : v.WellFormed)
    (hw : v.follow? path = some w) : w.WellFormed := by
  induction path generalizing v with
  | nil =>
      cases hw
      exact h
  | cons token path ih =>
      obtain ⟨child, hchild, hw⟩ := Option.bind_eq_some_iff.mp hw
      exact ih (h.of_child? hchild) hw

/-! ## Steps -/

theorem child?_of_mem {members : List (String × Value)} (h : (object members).WellFormed)
    {name : String} {v : Value} (hmem : (name, v) ∈ members) :
    (object members).child? name = some v :=
  h.lookup hmem

theorem child?_toString {items : List Value} {i : Nat} {v : Value} (h : items[i]? = some v) :
    (array items).child? (toString i) = some v := by
  rw [child?, Pointer.indexOf?_toString, Option.bind_some, h]

theorem laxChild?_of_child? {v child : Value} {token : String} (h : v.child? token = some child) :
    v.laxChild? token = some child := by
  cases v with
  | object members => exact h
  | array items =>
      obtain ⟨i, hi, hitem⟩ := Option.bind_eq_some_iff.mp h
      rw [laxChild?, Pointer.laxIndexOf?_of_indexOf? hi, Option.bind_some, hitem]
  | _ => simp [child?] at h

theorem child?_of_get? {v child : Value} {name : String} (h : v.get? name = some child) :
    v.child? name = some child := by
  cases v with
  | object members => exact h
  | _ => simp [get?] at h

theorem follow?_cons {v child : Value} {token : String} {p : List String}
    (h : v.child? token = some child) : v.follow? (token :: p) = child.follow? p := by
  rw [follow?, h, Option.bind_some]

theorem follow?_append (v : Value) (p q : List String) :
    v.follow? (p ++ q) = (v.follow? p).bind (follow? · q) := by
  induction p generalizing v with
  | nil => rfl
  | cons token p ih =>
      rw [List.cons_append, follow?, follow?]
      cases v.child? token with
      | none => rfl
      | some child => exact ih child

theorem follow?_append_of_eq {v w : Value} {p q : List String} (h : v.follow? p = some w) :
    v.follow? (p ++ q) = w.follow? q := by
  rw [follow?_append, h, Option.bind_some]

theorem follow?_singleton {v : Value} {token : String} : v.follow? [token] = v.child? token := by
  cases h : v.child? token <;> simp [follow?, h]

theorem at?_append {v w : Value} {p q : Pointer} (h : v.at? p = some w) :
    v.at? (p ++ q) = w.at? q :=
  follow?_append_of_eq h

theorem eq_of_child?_singleton {key token : String} {v child : Value}
    (h : (object [(key, v)]).child? token = some child) : token = key ∧ child = v := by
  simpa using mem_of_lookup h

/-- Of three objects one inside the other and nothing else, only the innermost can have a string
for a member. -/
theorem path_of_nested {outer middle inner key text s : String} {path : List String}
    {members : List (String × Value)}
    (hpath : (object [(outer, object [(middle, object [(inner, .string text)])])]).follow? path =
      some (.object members))
    (h : members.lookup key = some (.string s)) : path = [outer, middle] := by
  have hnone {name : String} {ms : List (String × Value)} :
      List.lookup key [(name, object ms)] ≠ some (.string s) := by
    intro hlookup
    simpa using mem_of_lookup hlookup
  cases path with
  | nil =>
      cases hpath
      exact absurd h hnone
  | cons token path =>
      obtain ⟨child, hchild, hpath⟩ := Option.bind_eq_some_iff.mp hpath
      obtain ⟨rfl, rfl⟩ := eq_of_child?_singleton hchild
      cases path with
      | nil =>
          cases hpath
          exact absurd h hnone
      | cons token path =>
          obtain ⟨child, hchild, hpath⟩ := Option.bind_eq_some_iff.mp hpath
          obtain ⟨rfl, rfl⟩ := eq_of_child?_singleton hchild
          cases path with
          | nil => rfl
          | cons token path =>
              obtain ⟨child, hchild, hpath⟩ := Option.bind_eq_some_iff.mp hpath
              obtain ⟨rfl, rfl⟩ := eq_of_child?_singleton hchild
              cases path <;> cases hpath

end Value
end JsonSchema
