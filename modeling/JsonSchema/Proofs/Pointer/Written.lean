import JsonSchema.Proofs.Pointer.Grammar
import JsonSchema.Proofs.Value.Position

/-!
# Written pointers are lists of tokens

A written pointer has the text of exactly one list of tokens, and every list of tokens has such a
text. What is done to texts is done to the lists: steps come behind, joining is appending, and
taking off a beginning is taking off a beginning of the list.
-/

namespace JsonSchema

namespace Pointer

variable {p q : Pointer}

theorem text_inj : p.text = q.text ↔ p = q := by
  constructor
  · intro h
    have hread := ofText?_text p
    rw [h, ofText?_text] at hread
    exact (Option.some.inj hread).symm
  · intro h
    rw [h]

theorem text_append (p q : Pointer) : (p ++ q).text = p.text ++ q.text := by
  rw [← String.toList_inj, String.toList_append, toList_text, toList_text, toList_text,
    tokens_append, List.flatMap_append]

theorem text_key (p : Pointer) (k : String) :
    (p.key k).text = p.text ++ ("/" ++ String.ofList (encode k.toList)) := by
  rw [← String.toList_inj, String.toList_append, String.toList_append, String.toList_ofList,
    toList_text, toList_text, key, List.flatMap_append]
  simp

theorem encode_eq_self {cs : List Char} (htilde : '~' ∉ cs) (hslash : '/' ∉ cs) :
    encode cs = cs := by
  induction cs with
  | nil => rfl
  | cons c cs ih =>
      rw [List.mem_cons, not_or] at htilde hslash
      rw [encode, ih htilde.2 hslash.2]
      · exact Ne.symm htilde.1
      · exact Ne.symm hslash.1

theorem text_index (p : Pointer) (i : Nat) :
    (p.index i).text = p.text ++ ("/" ++ toString i) := by
  have hdigit : ∀ c ∈ (toString i).toList, isDigit c = true := by
    intro c hc
    rw [Nat.toString_eq_ofList_toDigits, String.toList_ofList] at hc
    exact isDigit_of_mem_toDigits hc
  have hself : encode (toString i).toList = (toString i).toList := by
    apply encode_eq_self
    · intro htilde
      exact absurd (hdigit '~' htilde) (by decide)
    · intro hslash
      exact absurd (hdigit '/' hslash) (by decide)
  rw [index, text_key, hself, String.ofList_toList]

theorem dropBeginning_eq_some_iff {xs ys zs : List String} :
    dropBeginning xs ys = some zs ↔ ys = xs ++ zs := by
  induction xs generalizing ys with
  | nil => simp [dropBeginning]
  | cons x xs ih =>
      cases ys with
      | nil => simp [dropBeginning]
      | cons y ys =>
          by_cases hxy : x = y
          · simp [dropBeginning, hxy, ih]
          · simp [dropBeginning, hxy, Ne.symm hxy]

theorem below_eq_some_iff {r : Pointer} : p.below q = some r ↔ p = q ++ r := by
  obtain ⟨ps⟩ := p
  obtain ⟨rs⟩ := r
  simp [below, dropBeginning_eq_some_iff, append_eq]

/-- The pieces behind the slashes are the tokens. -/
theorem drop_pieces_text (p : Pointer) :
    (pieces p.text.toList).drop 1 = p.tokens.map fun token => encode token.toList := by
  rw [toList_text]
  cases h : p.tokens with
  | nil => rfl
  | cons token tokens =>
      rw [List.flatMap_cons, List.cons_append, pieces, List.drop_one, List.tail_cons,
        pieces_tokens]

end Pointer

namespace WrittenPointer

variable {p q r : WrittenPointer}

theorem tokens_eq {p : Pointer} {w : WrittenPointer} (h : p.text = w.text) :
    w.tokens = p.tokens := by
  rw [tokens, ← h, Pointer.drop_pieces_text, List.map_map]
  simp [Function.comp_def, Pointer.unescape_encode]

/-- The text of the pointer that is written is the one it is kept in. -/
@[simp] theorem text_pointer (p : WrittenPointer) : p.pointer.text = p.text := by
  obtain ⟨q, hq⟩ := Pointer.exists_text_eq p.rooted p.escaped
  rw [pointer, tokens_eq hq, hq]

theorem pointer_eq_iff {q : Pointer} : p.pointer = q ↔ p.text = q.text := by
  rw [← Pointer.text_inj, text_pointer]

theorem text_inj : p.text = q.text ↔ p = q := by
  cases p
  cases q
  simp

theorem pointer_inj : p.pointer = q.pointer ↔ p = q := by
  rw [pointer_eq_iff, text_pointer, text_inj]

theorem tokens_inj : p.tokens = q.tokens ↔ p = q := by
  rw [← pointer_inj, pointer, pointer, Pointer.mk.injEq]

/-! ## Reading -/

theorem ofText?_eq_some_iff {s : String} : ofText? s = some p ↔ p.text = s := by
  unfold ofText?
  split
  · rename_i h
    rw [Option.some.injEq, ← text_inj]
    exact eq_comm
  · rename_i h
    refine ⟨by simp, ?_⟩
    rintro rfl
    exact absurd ⟨p.rooted, p.escaped⟩ h

theorem isJsonPointer (p : WrittenPointer) : Pointer.IsJsonPointer p.text.toList := by
  rw [← text_pointer]
  exact Pointer.isJsonPointer_text p.pointer

theorem exists_ofText?_iff {s : String} :
    (∃ p, ofText? s = some p) ↔ Pointer.IsJsonPointer s.toList := by
  constructor
  · rintro ⟨p, hp⟩
    rw [← ofText?_eq_some_iff.mp hp]
    exact p.isJsonPointer
  · intro h
    obtain ⟨hrooted, hescaped⟩ := Pointer.isEscaped_of_isJsonPointer h
    exact ⟨⟨s, hrooted, hescaped⟩, ofText?_eq_some_iff.mpr rfl⟩

/-- A text is read as the pointer that is written in it. -/
theorem map_pointer_ofText? (s : String) : (ofText? s).map pointer = Pointer.ofText? s := by
  cases h : ofText? s with
  | some p =>
      rw [Option.map_some, ← ofText?_eq_some_iff.mp h, ← text_pointer, Pointer.ofText?_text]
  | none =>
      rw [Option.map_none]
      symm
      by_contra hread
      obtain ⟨q, hq⟩ := Option.ne_none_iff_exists'.mp hread
      have hgrammar := Pointer.isJsonPointer_text q
      rw [Pointer.text_of_ofText? hq] at hgrammar
      obtain ⟨p, hp⟩ := exists_ofText?_iff.mpr hgrammar
      rw [h] at hp
      cases hp

/-! ## Steps -/

theorem text_append (p q : WrittenPointer) : (p ++ q).text = p.text ++ q.text := rfl

@[simp] theorem pointer_append (p q : WrittenPointer) :
    (p ++ q).pointer = p.pointer ++ q.pointer := by
  rw [pointer_eq_iff, Pointer.text_append, text_pointer, text_pointer, text_append]

@[simp] theorem pointer_key (p : WrittenPointer) (k : String) :
    (p.key k).pointer = p.pointer.key k := by
  rw [pointer_eq_iff, Pointer.text_key, text_pointer]
  rfl

@[simp] theorem pointer_index (p : WrittenPointer) (i : Nat) :
    (p.index i).pointer = p.pointer.index i := by
  rw [pointer_eq_iff, Pointer.text_index, text_pointer]
  rfl

theorem tokens_append (p q : WrittenPointer) : (p ++ q).tokens = p.tokens ++ q.tokens :=
  congrArg Pointer.tokens (pointer_append p q)

theorem tokens_key (p : WrittenPointer) (k : String) : (p.key k).tokens = p.tokens ++ [k] :=
  congrArg Pointer.tokens (pointer_key p k)

theorem tokens_index (p : WrittenPointer) (i : Nat) :
    (p.index i).tokens = p.tokens ++ [toString i] :=
  congrArg Pointer.tokens (pointer_index p i)

theorem below_eq_some_iff : p.below q = some r ↔ p.text = q.text ++ r.text := by
  rw [← String.toList_inj, String.toList_append]
  unfold below
  split
  · rename_i h
    refine ⟨by simp, ?_⟩
    intro htext
    rw [Pointer.dropText_eq_some_iff.mpr ⟨htext, r.rooted⟩] at h
    cases h
  · rename_i rest h
    have hwhole := (Pointer.dropText_eq_some_iff.mp h).1
    rw [Option.some.injEq, ← text_inj, ← String.toList_inj, String.toList_ofList]
    constructor
    · intro hrest
      rw [hwhole, hrest]
    · intro htext
      rw [hwhole] at htext
      exact List.append_cancel_left htext

/-- Taking off the text of a beginning takes off the beginning. -/
theorem map_pointer_below (p q : WrittenPointer) :
    (p.below q).map pointer = p.pointer.below q.pointer := by
  apply Option.ext
  intro r
  rw [Pointer.below_eq_some_iff, Option.map_eq_some_iff]
  constructor
  · rintro ⟨s, hs, rfl⟩
    rw [← pointer_append, pointer_inj, ← text_inj, text_append]
    exact below_eq_some_iff.mp hs
  · intro h
    refine ⟨⟨r.text, ?_, ?_⟩, ?_, ?_⟩
    · exact (Pointer.isEscaped_of_isJsonPointer (Pointer.isJsonPointer_text r)).1
    · exact (Pointer.isEscaped_of_isJsonPointer (Pointer.isJsonPointer_text r)).2
    · rw [below_eq_some_iff, ← text_pointer, h, Pointer.text_append, text_pointer]
    · rw [pointer_eq_iff]

/-! ## Lists of tokens -/

theorem tokens_foldl_key (keys : List String) (p : WrittenPointer) :
    (keys.foldl key p).tokens = p.tokens ++ keys := by
  induction keys generalizing p with
  | nil => rw [List.foldl_nil, List.append_nil]
  | cons k keys ih =>
      rw [List.foldl_cons, ih, tokens_key, List.append_assoc, List.singleton_append]

/-- Written pointers are lists of tokens: what is read as one is what the grammar derives, kept as
it is; the steps that make one up are its tokens and make up no other; joining appends the tokens,
and taking off a beginning takes off the beginning of the list. They are the written forms of
pointers as lists, one for each. -/
theorem token_lists :
    (∀ s, (∃ p, ofText? s = some p) ↔ Pointer.IsJsonPointer s.toList) ∧
      (∀ s p, ofText? s = some p ↔ p.text = s) ∧
      (∀ keys : List String, (keys.foldl key root).tokens = keys) ∧
      (∀ p : WrittenPointer, p.tokens.foldl key root = p) ∧
      (∀ (p : WrittenPointer) (i : Nat), (p.index i).tokens = p.tokens ++ [toString i]) ∧
      (∀ p q : WrittenPointer, (p ++ q).tokens = p.tokens ++ q.tokens) ∧
      (∀ p q r : WrittenPointer, p.below q = some r ↔ p.tokens = q.tokens ++ r.tokens) ∧
      (∀ p q : WrittenPointer, p.below q = none ↔ ¬q.tokens <+: p.tokens) ∧
      (∀ s, Pointer.ofText? s = (ofText? s).map pointer) ∧
      ∀ p q : WrittenPointer, p.pointer.text = p.text ∧
        p.pointer.below q.pointer = (p.below q).map pointer := by
  have hsteps (keys : List String) : (keys.foldl key root).tokens = keys :=
    tokens_foldl_key keys root
  have hbelow (p q r : WrittenPointer) : p.below q = some r ↔ p.tokens = q.tokens ++ r.tokens := by
    rw [below_eq_some_iff, ← tokens_append, tokens_inj, ← text_append, text_inj]
  refine ⟨fun _ => exists_ofText?_iff, fun _ _ => ofText?_eq_some_iff, hsteps, ?_, tokens_index,
    tokens_append, hbelow, ?_, fun s => (map_pointer_ofText? s).symm, ?_⟩
  · intro p
    rw [← tokens_inj, hsteps]
  · intro p q
    rw [Option.eq_none_iff_forall_not_mem]
    constructor
    · rintro h ⟨rest, hrest⟩
      refine h (rest.foldl key root) ?_
      rw [Option.mem_def, hbelow, hsteps, hrest]
    · intro h r hr
      exact h ⟨r.tokens, ((hbelow p q r).mp hr).symm⟩
  · intro p q
    exact ⟨text_pointer p, (map_pointer_below p q).symm⟩

end WrittenPointer
end JsonSchema
