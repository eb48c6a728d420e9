import JsonSchema.Proofs.Pointer.Written
import JsonSchema.Proofs.Registry.Soundness

/-!
# Addresses of positions

A position of a value is reached by steps to members and elements. The pointer that is written
along these steps leads there, and no other one does: a token is the key itself in an object, and
in an array there is one token for an index. The base of a document is found wherever a pointer
leads, although the walk to it reads indexes less strictly.
-/

namespace JsonSchema

namespace Value

/-- One step into a value: to the member under a key or to the element at an index. -/
inductive Step
  | key (k : String)
  | index (i : Nat)
  deriving DecidableEq

/-- The token that a step is written with. -/
def Step.token : Step → String
  | key k => k
  | index i => toString i

/-- The value one step further in. -/
def part? : Value → Step → Option Value
  | .object members, .key k => members.lookup k
  | .array items, .index i => items[i]?
  | _, _ => none

/-- The value at the end of a path of steps. -/
def walk? : Value → List Step → Option Value
  | v, [] => some v
  | v, step :: path => (v.part? step).bind (walk? · path)

/-- The steps that are taken where tokens are followed: a token is the key of a member of an object
and writes the index of an element of an array. -/
inductive Addresses : Value → List String → List Step → Prop
  | here (v) : Addresses v [] []
  | member {members token child tokens path} (hchild : members.lookup token = some child)
      (h : Addresses child tokens path) :
      Addresses (.object members) (token :: tokens) (.key token :: path)
  | element {items token i child tokens path} (hi : Pointer.indexOf? token = some i)
      (hchild : items[i]? = some child) (h : Addresses child tokens path) :
      Addresses (.array items) (token :: tokens) (.index i :: path)

variable {v w : Value} {tokens : List String} {path path' : List Step}

/-- The steps determine the tokens. -/
theorem Addresses.tokens_eq (h : Addresses v tokens path) : tokens = path.map Step.token := by
  induction h with
  | here v => rfl
  | member _ _ ih => rw [List.map_cons, ← ih, Step.token]
  | element hi _ _ ih => rw [List.map_cons, ← ih, Step.token, Pointer.eq_toString_of_indexOf? hi]

/-- The tokens determine the steps. -/
theorem Addresses.path_eq (h : Addresses v tokens path) (h' : Addresses v tokens path') :
    path = path' := by
  induction h generalizing path' with
  | here v =>
      cases h'
      rfl
  | member hchild _ ih =>
      cases h' with
      | member hchild' hrest =>
          obtain rfl := Option.some.inj (hchild.symm.trans hchild')
          rw [ih hrest]
  | element hi hchild _ ih =>
      cases h' with
      | element hi' hchild' hrest =>
          obtain rfl := Option.some.inj (hi.symm.trans hi')
          obtain rfl := Option.some.inj (hchild.symm.trans hchild')
          rw [ih hrest]

theorem exists_addresses_of_follow? (h : v.follow? tokens = some w) :
    ∃ path, Addresses v tokens path ∧ v.walk? path = some w := by
  induction tokens generalizing v with
  | nil => exact ⟨[], .here v, h⟩
  | cons token tokens ih =>
      obtain ⟨child, hchild, hrest⟩ := Option.bind_eq_some_iff.mp h
      obtain ⟨path, hpath, hwalk⟩ := ih hrest
      cases v with
      | object members =>
          refine ⟨.key token :: path, .member hchild hpath, ?_⟩
          change (members.lookup token).bind (walk? · path) = some w
          have hmember : members.lookup token = some child := hchild
          rw [hmember, Option.bind_some, hwalk]
      | array items =>
          obtain ⟨i, hi, hitem⟩ := Option.bind_eq_some_iff.mp hchild
          refine ⟨.index i :: path, .element hi hitem hpath, ?_⟩
          rw [walk?, part?, hitem, Option.bind_some, hwalk]
      | _ => simp [child?] at hchild

theorem addresses_of_walk? (h : v.walk? path = some w) :
    Addresses v (path.map Step.token) path ∧ v.follow? (path.map Step.token) = some w := by
  induction path generalizing v with
  | nil => exact ⟨.here v, h⟩
  | cons step path ih =>
      obtain ⟨child, hchild, hrest⟩ := Option.bind_eq_some_iff.mp h
      obtain ⟨hpath, hfollow⟩ := ih hrest
      rw [List.map_cons]
      cases v with
      | object members =>
          cases step with
          | key k =>
              have hmember : (object members).child? k = some child := hchild
              exact ⟨.member hchild hpath, (follow?_cons hmember).trans hfollow⟩
          | index i => simp [part?] at hchild
      | array items =>
          cases step with
          | key k => simp [part?] at hchild
          | index i =>
              refine ⟨.element (Pointer.indexOf?_toString i) hchild hpath, ?_⟩
              exact (follow?_cons (child?_toString hchild)).trans hfollow
      | _ => simp [part?] at hchild

end Value

namespace WrittenPointer

/-- A step is written behind a pointer. -/
def step (p : WrittenPointer) : Value.Step → WrittenPointer
  | .key k => p.key k
  | .index i => p.index i

/-- The pointer that is written along a path. -/
def along (path : List Value.Step) : WrittenPointer := path.foldl step root

theorem tokens_step (p : WrittenPointer) (s : Value.Step) :
    (p.step s).tokens = p.tokens ++ [s.token] := by
  cases s with
  | key k => exact tokens_key p k
  | index i => exact tokens_index p i

theorem tokens_along (path : List Value.Step) :
    (along path).tokens = path.map Value.Step.token := by
  induction path using List.reverseRecOn with
  | nil => rfl
  | append_singleton path s ih =>
      rw [along, List.foldl_append, List.foldl_cons, List.foldl_nil, tokens_step, ← along, ih,
        List.map_append, List.map_singleton]

end WrittenPointer

namespace Document

theorem malformed_of_baseInside {base : Url} {v : Value} {e : ResolutionError}
    (h : baseInside base v = .error e) : Declarations.Malformed e := by
  unfold baseInside at h
  split at h
  · rename_i id _
    cases hid : Declarations.joinId base id with
    | ok url =>
        rw [hid] at h
        cases h
    | error e' =>
        rw [hid] at h
        cases h
        exact Declarations.malformed_of_joinId hid
  · cases h

/-- Where a path leads somewhere, only an `$id` on the way can keep the base from being found. -/
theorem malformed_of_baseAlong {base : Url} {v w : Value} {tokens : List String}
    {missing e : ResolutionError} (hw : v.follow? tokens = some w)
    (h : baseAlong missing base v tokens = .error e) : Declarations.Malformed e := by
  induction tokens generalizing base v with
  | nil => cases h
  | cons token tokens ih =>
      obtain ⟨child, hchild, hrest⟩ := Option.bind_eq_some_iff.mp hw
      cases hinside : baseInside base v with
      | ok inner =>
          rw [baseAlong_cons hinside hchild] at h
          exact ih hrest h
      | error e' =>
          rw [baseAlong, hinside] at h
          cases h
          exact malformed_of_baseInside hinside

end Document

/-- Each position of a value has one address: the pointer that is written along the steps to it. A
pointer that leads anywhere is written along exactly one path, and no other pointer is followed by
the same steps. Pointers are followed one after the other, and there is a base wherever one leads,
unless an `$id` on the way is malformed. -/
theorem Value.unique_address (v : Value) :
    (∀ path w, v.walk? path = some w → (WrittenPointer.along path).evaluate v = some w) ∧
      (∀ (p : WrittenPointer) w, p.evaluate v = some w →
        ∃! path, v.walk? path = some w ∧ WrittenPointer.along path = p) ∧
      (∀ (p : WrittenPointer) w, p.evaluate v = some w ↔
        ∃ path, v.Addresses p.tokens path ∧ v.walk? path = some w) ∧
      (∀ (p q : WrittenPointer) path,
        v.Addresses p.tokens path → v.Addresses q.tokens path → p = q) ∧
      (∀ p q : WrittenPointer, (p ++ q).evaluate v = (p.evaluate v).bind q.evaluate) ∧
      ∀ (d : Document) (p : WrittenPointer) w, d.contents = v → p.evaluate v = some w →
        ∀ uri q, d.baseAt p.pointer ≠ .error (.pointerNotFound uri q) := by
  refine ⟨?_, ?_, ?_, ?_, ?_, ?_⟩
  · intro path w hw
    rw [WrittenPointer.evaluate, WrittenPointer.tokens_along]
    exact (addresses_of_walk? hw).2
  · intro p w hw
    obtain ⟨path, haddress, hwalk⟩ := exists_addresses_of_follow? hw
    refine ⟨path, ⟨hwalk, ?_⟩, ?_⟩
    · rw [← WrittenPointer.tokens_inj, WrittenPointer.tokens_along, ← haddress.tokens_eq]
    · rintro path' ⟨hwalk', rfl⟩
      rw [WrittenPointer.tokens_along] at haddress
      exact (addresses_of_walk? hwalk').1.path_eq haddress
  · intro p w
    constructor
    · exact exists_addresses_of_follow?
    · rintro ⟨path, haddress, hwalk⟩
      rw [WrittenPointer.evaluate, haddress.tokens_eq]
      exact (addresses_of_walk? hwalk).2
  · intro p q path hp hq
    rw [← WrittenPointer.tokens_inj, hp.tokens_eq, hq.tokens_eq]
  · intro p q
    rw [WrittenPointer.evaluate, WrittenPointer.tokens_append, follow?_append]
    rfl
  · rintro d p w rfl hw uri q hmissing
    obtain ⟨base, reference, fault, h⟩ := Document.malformed_of_baseAlong hw hmissing
    cases h

namespace WrittenPointer

/-- A value with keys that are escaped, empty and spelled like an index. -/
def shelves : Value := .object [("a/b", .array [.null, .object [("~1", .bool true)]]),
  ("", .object [("1", .string "top")])]

/-- The steps to an element of an array. -/
def toShelf : List Value.Step := [.key "a/b", .index 1, .key "~1"]

theorem address_of_toShelf : shelves.walk? toShelf = some (.bool true) ∧
    (along toShelf).text = "/a~1b/1/~01" ∧ (along toShelf).evaluate shelves = some (.bool true) ∧
    (∃! path, shelves.walk? path = some (.bool true) ∧ along path = along toShelf) ∧
    (∀ p, shelves.Addresses p.tokens toShelf → p = along toShelf) ∧
    ∀ uri q, (Document.mk Url.ownBase Url.ownBase shelves).baseAt (along toShelf).pointer ≠
      .error (.pointerNotFound uri q) := by
  obtain ⟨hbuilt, hunique, hleads, hsame, -, hbase⟩ := Value.unique_address shelves
  have hwalk : shelves.walk? toShelf = some (.bool true) := rfl
  have hvalue := hbuilt toShelf (.bool true) hwalk
  refine ⟨hwalk, by decide, hvalue, hunique _ _ hvalue, ?_, hbase _ _ _ rfl hvalue⟩
  intro p hp
  obtain ⟨path, haddress, hpath⟩ := (hleads _ _).mp hvalue
  have halong : along path = along toShelf := by
    rw [← tokens_inj, tokens_along path, haddress.tokens_eq]
  have hsteps : path = toShelf := (hunique _ _ hvalue).unique ⟨hpath, halong⟩ ⟨hwalk, rfl⟩
  exact hsame p (along toShelf) toShelf hp (hsteps ▸ haddress)

end WrittenPointer
end JsonSchema
