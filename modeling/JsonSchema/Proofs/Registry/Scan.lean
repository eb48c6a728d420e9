import JsonSchema.Proofs.Registry.Growth
import JsonSchema.Proofs.Outcome
import JsonSchema.Proofs.Value.Identity

/-!
# Two walks down a document

One walk goes through a whole document and looks for declarations, another one goes down to a
pointer and looks for the base there. Wherever the first one comes, it has the base that the second
one finds, because an `$id` that is only a fragment keeps a base without fragment.
-/

namespace JsonSchema

namespace Url

/-- What a reference that is only a fragment writes as the fragment. -/
def ownFragment (reference : String) : String := readFragment ((significant reference).drop 1)

theorem exists_significant_of_isFragmentOnly {reference : String}
    (h : Declarations.isFragmentOnly reference = true) :
    ∃ rest, significant reference = '#' :: rest := by
  obtain ⟨tail, htail⟩ : ∃ tail, reference.toList = '#' :: tail := by
    rw [← List.head?_eq_some_iff]
    simpa [Declarations.isFragmentOnly] using h
  let isBlank (c : Char) : Bool := c.toNat ≤ 0x20
  have hblank : isBlank '#' = false := by decide
  have hinner : ((reference.toList.dropWhile isBlank).reverse.dropWhile isBlank).reverse =
      '#' :: (tail.reverse.dropWhile isBlank).reverse := by
    rw [htail, List.dropWhile_cons_of_neg (by simp [hblank]), List.reverse_cons,
      List.dropWhile_append]
    split
    · rename_i hempty
      rw [List.isEmpty_iff.mp hempty, List.dropWhile_cons_of_neg (by simp [hblank])]
      rfl
    · simp
  have hfilter : significant reference =
      ('#' :: (tail.reverse.dropWhile isBlank).reverse).filter _ := congrArg (List.filter _) hinner
  rw [hfilter, List.filter_cons_of_pos (by decide)]
  exact ⟨_, rfl⟩

theorem join_of_isFragmentOnly (base : Url) {reference : String}
    (h : Declarations.isFragmentOnly reference = true) :
    base.join reference = .ok { base with fragment := some (ownFragment reference) } := by
  obtain ⟨rest, hrest⟩ := exists_significant_of_isFragmentOnly h
  have hscheme : splitScheme ('#' :: rest) = none := rfl
  simp [join, read, ownFragment, hrest, hscheme]

end Url

/-- A fragment that is empty or a pointer, and so names no anchor. -/
def isPointerFragment (fragment : String) : Bool :=
  match fragment.toList with
  | [] | '/' :: _ => true
  | _ => false

theorem isName_eq (name : String) :
    (name != "" && name.toList.head? != some '/') = !isPointerFragment name := by
  have hempty : name = "" ↔ name.toList = [] := by simp
  unfold isPointerFragment
  split
  · rename_i h
    simp [hempty.mpr h]
  · rename_i h
    simp [h]
  · rename_i hne hslash
    have hhead : name.toList.head? ≠ some '/' := by
      intro h
      obtain ⟨rest, hrest⟩ := List.head?_eq_some_iff.mp h
      exact hslash rest hrest
    have hname : name ≠ "" := mt hempty.mp hne
    simp [hname, hhead]

/-- A value has no string under `$id`. -/
def Value.Unnamed (v : Value) : Prop := ∀ id, v.get? "$id" ≠ some (.string id)

theorem Value.unnamed_array (items : List Value) : (array items).Unnamed := by
  simp [Unnamed, get?]

namespace Document

variable {base inner b b' : Url} {v w x : Value} {missing missing' : ResolutionError}
variable {p q : List String}

/-- What has no `$id` keeps the base. -/
theorem baseInside_of_unnamed (h : v.Unnamed) (base : Url) : baseInside base v = .ok base := by
  unfold baseInside
  split
  · rename_i id hid
    exact absurd hid (h id)
  · rfl

/-- Inside a value there is no fragment in the base either. -/
theorem withoutFragment_of_baseInside (hbare : base.withoutFragment = base)
    (h : baseInside base v = .ok inner) : inner.withoutFragment = inner := by
  unfold baseInside at h
  split at h
  · obtain ⟨url, -, rfl⟩ := map_eq_ok.mp h
    exact url.withoutFragment_withoutFragment
  · cases h
    exact hbare

/-- The base inside a value depends on the string under `$id`. -/
theorem baseInside_congr
    (h : ∀ id, v.get? "$id" = some (.string id) ↔ w.get? "$id" = some (.string id)) (base : Url) :
    baseInside base v = baseInside base w := by
  unfold baseInside
  split
  · rename_i id hid
    rw [(h id).mp hid]
  · rename_i hnone
    split
    · rename_i id hid
      exact absurd ((h id).mpr hid) (hnone id)
    · rfl

/-- Identical values set up the same base. -/
theorem baseInside_of_identical (h : v.identical w = true) (hv : v.WellFormed) (base : Url) :
    baseInside base v = baseInside base w :=
  baseInside_congr (fun _ => Value.get?_string_iff_of_identical h hv) base

theorem baseAlong_cons {token : String} {child : Value}
    (hinside : baseInside base v = .ok inner) (hchild : v.child? token = some child) :
    baseAlong missing base v (token :: p) = baseAlong missing inner child p := by
  simp only [baseAlong, hinside, Value.laxChild?_of_child? hchild]

/-- What would be said of a missing position does not matter where there is none. -/
theorem baseAlong_missing (h : baseAlong missing base v p = .ok b) :
    baseAlong missing' base v p = .ok b := by
  induction p generalizing base v with
  | nil => exact h
  | cons token path ih =>
      unfold baseAlong at h ⊢
      split at h
      · cases h
      · split at h
        · exact ih h
        · cases h

/-- A path leads down from one value to another, and from the base at the one to that at the
other. -/
structure Along (base : Url) (v : Value) (p : List String) (b : Url) (w : Value) : Prop where
  follow : v.follow? p = some w
  base : ∀ missing, baseAlong missing base v p = .ok b

theorem Along.refl (base : Url) (v : Value) : Along base v [] base v := ⟨rfl, fun _ => rfl⟩

theorem Along.cons {token : String} {child : Value} (hinside : baseInside base v = .ok inner)
    (hchild : v.child? token = some child) (h : Along inner child p b w) :
    Along base v (token :: p) b w :=
  ⟨(Value.follow?_cons hchild).trans h.follow,
    fun missing => (baseAlong_cons hinside hchild).trans (h.base missing)⟩

/-- The first step of a path. -/
theorem Along.exists_step {token : String} (h : Along base v (token :: p) b w) :
    ∃ inner child, baseInside base v = .ok inner ∧ v.child? token = some child ∧
      Along inner child p b w := by
  obtain ⟨child, hchild, hw⟩ := Option.bind_eq_some_iff.mp h.follow
  have hbase := h.base
  cases hinside : baseInside base v with
  | error e => simpa [baseAlong, hinside] using hbase (.unretrievable base)
  | ok inner =>
      simp only [baseAlong_cons hinside hchild] at hbase
      exact ⟨inner, child, rfl, hchild, hw, hbase⟩

theorem Along.append (h : Along base v p b w) (h' : Along b w q b' x) :
    Along base v (p ++ q) b' x := by
  induction p generalizing base v with
  | nil =>
      obtain rfl : v = w := Option.some.inj h.follow
      obtain rfl : base = b := Except.ok.inj (h.base (.unretrievable base))
      exact h'
  | cons token p ih =>
      obtain ⟨inner, child, hinside, hchild, hrest⟩ := h.exists_step
      exact .cons hinside hchild (ih hrest)

/-- At the end of a path there is no fragment in the base either. -/
theorem Along.withoutFragment (h : Along base v p b w) (hbare : base.withoutFragment = base) :
    b.withoutFragment = b := by
  induction p generalizing base v with
  | nil =>
      obtain rfl : base = b := Except.ok.inj (h.base (.unretrievable base))
      exact hbare
  | cons token p ih =>
      obtain ⟨inner, child, hinside, -, hrest⟩ := h.exists_step
      exact ih hrest (withoutFragment_of_baseInside hbare hinside)

/-- A path leads to the same in an identical value. -/
theorem Along.of_identical (h : Along base w p b x) (hidentical : v.identical w = true)
    (hv : v.WellFormed) : ∃ y, Along base v p b y ∧ y.identical x = true := by
  induction p generalizing base v w with
  | nil =>
      obtain rfl : w = x := Option.some.inj h.follow
      obtain rfl : base = b := Except.ok.inj (h.base (.unretrievable base))
      exact ⟨v, .refl base v, hidentical⟩
  | cons token p ih =>
      obtain ⟨inner, child, hinside, hchild, hrest⟩ := h.exists_step
      obtain ⟨child', hchild', hidentical'⟩ := Value.identical_child? hidentical hv hchild
      obtain ⟨y, hy, hresult⟩ := ih hrest hidentical' (hv.of_child? hchild')
      exact ⟨y, .cons ((baseInside_of_identical hidentical hv base).trans hinside) hchild' hy,
        hresult⟩

theorem along_iff {d : Document} {p : Pointer} :
    Along d.base d.contents p.tokens b w ↔ d.contents.at? p = some w ∧ d.baseAt p = .ok b :=
  ⟨fun h => ⟨h.follow, h.base _⟩, fun h => ⟨h.1, fun _ => baseAlong_missing h.2⟩⟩

end Document

namespace Declarations

/-- The walk that looks for declarations comes to a value. The arguments are base, place and value,
first at the start of the walk and then where it comes to. -/
inductive Scanned : Url → Place → Value → Url → Place → Value → Prop
  | here {base place v} : Scanned base place v base place v
  | member {base inner place members own key v b p w}
      (hinner : ofObject base place members = .ok (inner, own)) (hmem : (key, v) ∈ members)
      (hdata : isDataKeyword key = false)
      (h : Scanned inner { place with pointer := place.pointer.key key } v b p w) :
      Scanned base place (.object members) b p w
  | item {base place items i v b p w} (hi : items[i]? = some v)
      (h : Scanned base { place with pointer := place.pointer.index i } v b p w) :
      Scanned base place (.array items) b p w

theorem Scanned.document_eq {base b : Url} {place p : Place} {v w : Value}
    (h : Scanned base place v b p w) : p.document = place.document := by
  induction h with
  | here => rfl
  | member _ _ _ _ ih => exact ih
  | item _ _ ih => exact ih

/-! ## What is declared -/

variable {base inner : Url} {place : Place} {members : List (String × Value)}
variable {own declared : Declarations} {v : Value}

theorem joinId_eq_ok {base url : Url} {id : String} :
    joinId base id = .ok url ↔ base.join id = .ok url := by
  unfold joinId
  split <;> simp [*]

/-- What the `$id` of an object declares, and the base inside it. -/
def identified (base : Url) (place : Place) (members : List (String × Value)) :
    Except ResolutionError (Url × Declarations) :=
  match members.lookup "$id" with
  | some (.string id) => ofId base place id
  | _ => .ok (base, {})

/-- What its `$anchor` declares. -/
def anchored (inner : Url) (place : Place) (members : List (String × Value)) : Declarations :=
  match members.lookup "$anchor" with
  | some (.string name) => { anchors := [((inner, name), place)] }
  | _ => {}

theorem identified_of_some {id : String} (h : members.lookup "$id" = some (.string id)) :
    identified base place members = ofId base place id := by
  simp only [identified, h]

theorem identified_of_none (h : ∀ id, members.lookup "$id" ≠ some (.string id)) :
    identified base place members = .ok (base, {}) := by
  unfold identified
  split
  · exact absurd ‹_› (h _)
  · rfl

theorem anchored_of_some {name : String} (h : members.lookup "$anchor" = some (.string name)) :
    anchored inner place members = { anchors := [((inner, name), place)] } := by
  simp only [anchored, h]

theorem anchored_of_none (h : ∀ name, members.lookup "$anchor" ≠ some (.string name)) :
    anchored inner place members = {} := by
  unfold anchored
  split
  · exact absurd ‹_› (h _)
  · rfl

/-- An object declares what its `$id` and what its `$anchor` does. -/
theorem ofObject_eq (base : Url) (place : Place) (members : List (String × Value)) :
    ofObject base place members = (identified base place members).map fun p =>
      (p.1, p.2 ++ anchored p.1 place members) := by
  unfold ofObject
  split
  · rename_i hname
    simp only [anchored_of_some hname]
    split
    · rw [identified_of_some ‹_›]
      cases ofId base place _ <;> rfl
    · rw [identified_of_none ‹_›]
      rfl
  · rename_i hnone
    simp only [anchored_of_none hnone]
    split
    · rw [identified_of_some ‹_›]
      cases ofId base place _ <;> rfl
    · rw [identified_of_none ‹_›]
      rfl

/-- What the object at a place declares of itself: by `$id` the URL of a resource, or a name if it
has a fragment, and a name by `$anchor`. -/
structure SelfDeclared (base : Url) (place : Place) (members : List (String × Value)) (inner : Url)
    (own : Declarations) : Prop where
  id : (∃ id url, members.lookup "$id" = some (.string id) ∧ joinId base id = .ok url ∧
      inner = (if isFragmentOnly id then base else url.withoutFragment) ∧
      own.resources = (if isFragmentOnly id then [] else [(inner, place)])) ∨
    (∀ id, members.lookup "$id" ≠ some (.string id)) ∧ inner = base ∧ own.resources = []
  anchors : ∀ e, e ∈ own.anchors ↔ ∃ name, e = ((inner, name), place) ∧
    (members.lookup "$anchor" = some (.string name) ∨ isPointerFragment name = false ∧
      ∃ id url, members.lookup "$id" = some (.string id) ∧ joinId base id = .ok url ∧
        url.fragment = some name)

theorem mem_anchored {e : (Url × String) × Place} :
    e ∈ (anchored inner place members).anchors ↔
      ∃ name, e = ((inner, name), place) ∧ members.lookup "$anchor" = some (.string name) := by
  by_cases h : ∃ name, members.lookup "$anchor" = some (.string name)
  · obtain ⟨name, hname⟩ := h
    simp [anchored_of_some hname, hname]
  · rw [anchored_of_none fun name hname => h ⟨name, hname⟩]
    constructor
    · intro h
      cases h
    · rintro ⟨name, -, hname⟩
      exact absurd ⟨name, hname⟩ h

theorem resources_anchored (inner : Url) (place : Place) (members : List (String × Value)) :
    (anchored inner place members).resources = [] := by
  unfold anchored
  split <;> rfl

/-- A fragment that names something is among the anchors of an `$id`. -/
theorem mem_anchors_of_ofId {id : String} (h : ofId base place id = .ok (inner, own)) {url : Url}
    (hurl : joinId base id = .ok url) {e : (Url × String) × Place} :
    e ∈ own.anchors ↔ ∃ name, e = ((inner, name), place) ∧ isPointerFragment name = false ∧
      url.fragment = some name := by
  simp only [ofId, hurl, isName_eq, Except.ok.injEq, Prod.mk.injEq] at h
  obtain ⟨hinner, rfl⟩ := h
  rw [hinner]
  cases hfragment : url.fragment with
  | none => simp [isPointerFragment]
  | some name =>
      dsimp only [Option.getD_some]
      by_cases hname : isPointerFragment name = true <;> simp [hname]

theorem anchors_append (a b : Declarations) : (a ++ b).anchors = a.anchors ++ b.anchors := rfl

theorem resources_append (a b : Declarations) : (a ++ b).resources = a.resources ++ b.resources :=
  rfl

theorem selfDeclared_of_ofObject (h : ofObject base place members = .ok (inner, own)) :
    SelfDeclared base place members inner own := by
  rw [ofObject_eq] at h
  obtain ⟨⟨inner', named⟩, hnamed, heq⟩ := map_eq_ok.mp h
  obtain ⟨hinner, rfl⟩ := Prod.mk.inj heq
  obtain rfl : inner' = inner := hinner
  by_cases hsome : ∃ id, members.lookup "$id" = some (.string id)
  · obtain ⟨id, hid⟩ := hsome
    rw [identified_of_some hid] at hnamed
    cases hurl : joinId base id with
    | error e => simp [ofId, hurl] at hnamed
    | ok url =>
        have hresources := hnamed
        simp only [ofId, hurl, Except.ok.injEq, Prod.mk.injEq] at hresources
        obtain ⟨hinner, hnamed'⟩ := hresources
        refine ⟨.inl ⟨id, url, hid, hurl, hinner.symm, ?_⟩, fun e => ?_⟩
        · rw [resources_append, resources_anchored, List.append_nil, ← hnamed', ← hinner]
        · rw [anchors_append, List.mem_append, mem_anchors_of_ofId hnamed hurl, mem_anchored,
            ← exists_or]
          simp only [hid, Option.some.injEq, Value.string.injEq, ← and_or_left]
          refine exists_congr fun name => and_congr_right fun _ => ?_
          rw [or_comm]
          simp [hurl]
  · have hnone : ∀ id, members.lookup "$id" ≠ some (.string id) := fun id hid => hsome ⟨id, hid⟩
    rw [identified_of_none hnone] at hnamed
    cases hnamed
    refine ⟨.inr ⟨hnone, rfl, ?_⟩, fun e => ?_⟩
    · rw [resources_append, resources_anchored, List.append_nil]
    · rw [anchors_append, List.mem_append, mem_anchored]
      simp [hnone]

/-! ## Reading part by part -/

theorem bind_append_eq_ok {x y : Except ResolutionError Declarations} :
    (do
      let first ← x
      let others ← y
      return first ++ others) = .ok declared ↔
      ∃ first others, x = .ok first ∧ y = .ok others ∧ declared = first ++ others := by
  constructor
  · intro h
    obtain ⟨first, hfirst, h⟩ := bind_eq_ok.mp h
    obtain ⟨others, hothers, h⟩ := bind_eq_ok.mp h
    cases h
    exact ⟨first, others, hfirst, hothers, rfl⟩
  · rintro ⟨first, others, rfl, rfl, rfl⟩
    rfl

theorem ofMembers_cons_iff {key : String} {rest : List (String × Value)} :
    ofMembers base place ((key, v) :: rest) = .ok declared ↔
      ∃ first others, (if isDataKeyword key then .ok {}
          else ofValue base { place with pointer := place.pointer.key key } v) = .ok first ∧
        ofMembers base place rest = .ok others ∧ declared = first ++ others := by
  rw [ofMembers]
  cases isDataKeyword key <;> exact bind_append_eq_ok

theorem ofItems_cons_iff {rest : List Value} {i : Nat} :
    ofItems base place i (v :: rest) = .ok declared ↔
      ∃ first others,
        ofValue base { place with pointer := place.pointer.index i } v = .ok first ∧
        ofItems base place (i + 1) rest = .ok others ∧ declared = first ++ others := by
  rw [ofItems]
  exact bind_append_eq_ok

/-- An object whose declarations were read has set a base, and its members were read with it. -/
theorem exists_of_ofValue_object (h : ofValue base place (.object members) = .ok declared) :
    ∃ inner own below, ofObject base place members = .ok (inner, own) ∧
      ofMembers inner place members = .ok below ∧ declared = own ++ below := by
  rw [ofValue] at h
  obtain ⟨⟨inner, own⟩, hobject, h⟩ := bind_eq_ok.mp h
  obtain ⟨below, hbelow, h⟩ := bind_eq_ok.mp h
  cases h
  exact ⟨inner, own, below, hobject, hbelow, rfl⟩

section Induction

variable {P : Declarations → Prop} (hempty : P {}) (happend : ∀ a b, P a → P b → P (a ++ b))

include hempty happend

mutual

/-- What holds of no declarations, of those of two parts together, and of those that each object on
the walk makes of itself, holds of all that is declared. -/
theorem of_scanned (base : Url) (place : Place) : ∀ (v : Value) (declared : Declarations),
    ofValue base place v = .ok declared →
    (∀ b p members inner own, Scanned base place v b p (.object members) →
      ofObject b p members = .ok (inner, own) → P own) → P declared
  | .object members, declared, h, hown => by
    obtain ⟨inner, own, below, hobject, hbelow, rfl⟩ := exists_of_ofValue_object h
    refine happend own below (hown _ _ _ _ _ .here hobject) ?_
    refine of_scannedMembers inner place members below hbelow ?_
    intro key v hmem hdata b p members' inner' own' hscanned
    exact hown b p members' inner' own' (.member hobject hmem hdata hscanned)
  | .array items, declared, h, hown => by
    refine of_scannedItems base place 0 items declared h ?_
    intro i v hi b p members inner own hscanned
    exact hown b p members inner own (.item hi (by simpa using hscanned))
  | .null, _, h, _ | .bool _, _, h, _ | .number _, _, h, _ | .string _, _, h, _ => by
    cases h
    exact hempty

theorem of_scannedMembers (base : Url) (place : Place) :
    ∀ (members : List (String × Value)) (declared : Declarations),
      ofMembers base place members = .ok declared →
      (∀ key v, (key, v) ∈ members → isDataKeyword key = false → ∀ b p members' inner own,
        Scanned base { place with pointer := place.pointer.key key } v b p (.object members') →
          ofObject b p members' = .ok (inner, own) → P own) → P declared
  | [], _, h, _ => by
    cases h
    exact hempty
  | (key, v) :: rest, declared, h, hown => by
    obtain ⟨first, others, hfirst, hothers, rfl⟩ := ofMembers_cons_iff.mp h
    have hrest := of_scannedMembers base place rest others hothers
      fun key v hmem => hown key v (List.mem_cons_of_mem _ hmem)
    refine happend first others ?_ hrest
    split at hfirst
    · cases hfirst
      exact hempty
    · rename_i hdata
      have hown' := hown key v List.mem_cons_self (by simpa using hdata)
      exact of_scanned base _ v first hfirst hown'

theorem of_scannedItems (base : Url) (place : Place) (i : Nat) :
    ∀ (items : List Value) (declared : Declarations),
      ofItems base place i items = .ok declared →
      (∀ j v, items[j]? = some v → ∀ b p members inner own,
        Scanned base { place with pointer := place.pointer.index (i + j) } v b p (.object members) →
          ofObject b p members = .ok (inner, own) → P own) → P declared
  | [], _, h, _ => by
    cases h
    exact hempty
  | v :: rest, declared, h, hown => by
    obtain ⟨first, others, hfirst, hothers, rfl⟩ := ofItems_cons_iff.mp h
    refine happend first others (of_scanned base _ v first hfirst (hown 0 v rfl)) ?_
    refine of_scannedItems base place (i + 1) rest others hothers fun j v hj => ?_
    have hnext := hown (j + 1) v (by simpa using hj)
    rwa [Nat.add_comm j 1, ← Nat.add_assoc] at hnext

end

end Induction

/-! ## The bases of the walk -/

/-- The base inside an object is the same for both walks. -/
theorem baseInside_of_ofObject (hbare : base.withoutFragment = base)
    (h : ofObject base place members = .ok (inner, own)) :
    Document.baseInside base (.object members) = .ok inner := by
  unfold Document.baseInside
  simp only [Value.get?]
  rcases (selfDeclared_of_ofObject h).id with ⟨id, url, hid, hurl, rfl, -⟩ | ⟨hnone, rfl, -⟩
  · simp only [hid, hurl, Except.map]
    split
    · rename_i hfragment
      rw [joinId, Url.join_of_isFragmentOnly base hfragment] at hurl
      cases hurl
      exact congrArg Except.ok hbare
    · rfl
  · split
    · rename_i id hid
      exact absurd hid (hnone id)
    · rfl

variable {b : Url} {p : Place} {v w : Value}

/-- Wherever the walk comes, the other walk finds the same base there. -/
theorem Scanned.along (h : Scanned base place v b p w) (hbare : base.withoutFragment = base)
    (hv : v.WellFormed) : ∃ path, p = { place with pointer := place.pointer ++ ⟨path⟩ } ∧
      Document.Along base v path b w ∧ b.withoutFragment = b := by
  induction h with
  | here => exact ⟨[], by simp [Pointer.append_eq], .refl _ _, hbare⟩
  | @member base inner place members own key v b p w hinner hmem hdata h ih =>
      have hinside := baseInside_of_ofObject hbare hinner
      obtain ⟨path, rfl, halong, hb⟩ :=
        ih (Document.withoutFragment_of_baseInside hbare hinside) (hv.of_mem hmem)
      refine ⟨key :: path, ?_, .cons hinside (Value.child?_of_mem hv hmem) halong, hb⟩
      simp [Pointer.append_eq, Pointer.key]
  | @item base place items i v b p w hi h ih =>
      obtain ⟨path, rfl, halong, hb⟩ :=
        ih hbare (Value.wellFormedItems_iff.mp hv v (List.mem_of_getElem? hi))
      refine ⟨toString i :: path, ?_,
        .cons (Document.baseInside_of_unnamed (Value.unnamed_array items) base)
          (Value.child?_toString hi) halong, hb⟩
      simp [Pointer.append_eq, Pointer.index, Pointer.key]

/-- In a whole document. -/
theorem Scanned.baseAt {d : Document} (hbare : d.base.withoutFragment = d.base)
    (hd : d.contents.WellFormed) (h : Scanned d.base ⟨d.uri, .root⟩ d.contents b p w) :
    p.document = d.uri ∧ d.contents.at? p.pointer = some w ∧ d.baseAt p.pointer = .ok b ∧
      b.withoutFragment = b := by
  obtain ⟨path, rfl, halong, hb⟩ := h.along hbare hd
  have hpath : Pointer.root ++ ⟨path⟩ = ⟨path⟩ := Pointer.root_append _
  obtain ⟨hat, hbase⟩ := Document.along_iff.mp halong
  rw [hpath]
  exact ⟨rfl, hat, hbase, hb⟩

end Declarations
end JsonSchema
