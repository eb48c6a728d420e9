import JsonSchema.Pointer.Evaluate

/-!
# Pointers as they are written

A pointer can be kept as its text alone. A step is written behind the text, texts are joined, a
beginning is taken off where it ends in front of a slash, and tokens are read from the stretches
between the slashes. No operation leaves the texts that are pointers.
-/

namespace JsonSchema

namespace Pointer

/-- Nothing, or something behind a slash. -/
def isRooted (cs : List Char) : Bool := cs.head?.all (· == '/')

/-- Every tilde has a zero or a one behind it. -/
def isEscaped : List Char → Bool
  | [] => true
  | '~' :: '0' :: rest => isEscaped rest
  | '~' :: '1' :: rest => isEscaped rest
  | c :: rest => c != '~' && isEscaped rest

/-- One character in the place of each pair of others, from the left. -/
def replacePair (first second single : Char) : List Char → List Char
  | x :: y :: rest =>
    if x = first ∧ y = second then single :: replacePair first second single rest
    else x :: replacePair first second single (y :: rest)
  | rest => rest

/-- The token that is written between two slashes: slashes are put back first, then tildes. -/
def unescape (piece : List Char) : List Char :=
  replacePair '~' '0' '~' (replacePair '~' '1' '/' piece)

/-- What follows a beginning that ends in front of a slash or at the end. -/
def dropText (whole beginning : List Char) : Option (List Char) :=
  let rest := whole.drop beginning.length
  if beginning.isPrefixOf whole && isRooted rest then some rest else none

variable {cs ds : List Char}

theorem isRooted_append (h : isRooted cs = true) (hd : isRooted ds = true) :
    isRooted (cs ++ ds) = true := by
  cases cs with
  | nil => exact hd
  | cons c cs => exact h

theorem isEscaped_append (h : isEscaped cs = true) (ds : List Char) :
    isEscaped (cs ++ ds) = isEscaped ds := by
  fun_induction isEscaped cs with
  | case1 => rfl
  | case2 rest ih => exact ih h
  | case3 rest ih => exact ih h
  | case4 c rest hzero hone ih =>
      rw [Bool.and_eq_true, bne_iff_ne] at h
      obtain ⟨hc, hrest⟩ := h
      rw [List.cons_append, isEscaped, ih hrest, bne_iff_ne.mpr hc, Bool.true_and]
      · intro _ heq
        exact absurd heq hc
      · intro _ heq
        exact absurd heq hc

theorem isEscaped_of_notMem (h : '~' ∉ cs) : isEscaped cs = true := by
  induction cs with
  | nil => rfl
  | cons c cs ih =>
      have hc : c ≠ '~' := by
        intro heq
        exact h (by simp [heq])
      have hrest : isEscaped cs = true := ih (by intro hmem; exact h (by simp [hmem]))
      rw [isEscaped, hrest, bne_iff_ne.mpr hc, Bool.true_and]
      · intro _ heq
        exact absurd heq hc
      · intro _ heq
        exact absurd heq hc

theorem isEscaped_encode (cs : List Char) : isEscaped (encode cs) = true := by
  induction cs with
  | nil => rfl
  | cons c cs ih =>
      unfold encode
      split <;> rename_i h
      · cases h
      · cases h
        exact ih
      · cases h
        exact ih
      · rename_i htilde _
        cases h
        have hc : isEscaped [c] = true := isEscaped_of_notMem (by simpa using Ne.symm htilde)
        exact (isEscaped_append hc _).trans ih

theorem dropText_eq_some_iff {whole beginning rest : List Char} :
    dropText whole beginning = some rest ↔ whole = beginning ++ rest ∧ isRooted rest = true := by
  unfold dropText
  simp only [Option.ite_none_right_eq_some, Bool.and_eq_true, List.isPrefixOf_iff_prefix,
    Option.some.injEq]
  constructor
  · rintro ⟨⟨⟨after, rfl⟩, hrooted⟩, rfl⟩
    rw [List.drop_left] at hrooted ⊢
    exact ⟨rfl, hrooted⟩
  · rintro ⟨rfl, hrooted⟩
    rw [List.drop_left]
    exact ⟨⟨⟨rest, rfl⟩, hrooted⟩, rfl⟩

end Pointer

/-- A pointer that is kept as its text. -/
structure WrittenPointer where
  text : String
  rooted : Pointer.isRooted text.toList = true
  escaped : Pointer.isEscaped text.toList = true

namespace WrittenPointer

/-- A text that is a pointer. -/
def ofText? (s : String) : Option WrittenPointer :=
  if h : Pointer.isRooted s.toList = true ∧ Pointer.isEscaped s.toList = true then
    some ⟨s, h.1, h.2⟩
  else none

/-- The pointer to the whole value. -/
def root : WrittenPointer := ⟨"", rfl, rfl⟩

instance : Inhabited WrittenPointer := ⟨root⟩

/-- The pointer to the whole value has no text. -/
def isRoot (p : WrittenPointer) : Bool := p.text.isEmpty

/-- Joined texts. -/
def append (p q : WrittenPointer) : WrittenPointer where
  text := p.text ++ q.text
  rooted := by
    rw [String.toList_append]
    exact Pointer.isRooted_append p.rooted q.rooted
  escaped := by
    rw [String.toList_append, Pointer.isEscaped_append p.escaped]
    exact q.escaped

instance : Append WrittenPointer := ⟨append⟩

/-- A slash and something escaped. -/
def ofToken (token : String) (h : Pointer.isEscaped token.toList = true) : WrittenPointer where
  text := "/" ++ token
  rooted := by rw [String.toList_append]; rfl
  escaped := by rw [String.toList_append]; exact h

/-- A key is escaped and written behind a slash. -/
def key (p : WrittenPointer) (k : String) : WrittenPointer :=
  p ++ ofToken (String.ofList (Pointer.encode k.toList)) (by
    rw [String.toList_ofList]
    exact Pointer.isEscaped_encode k.toList)

/-- An index is written behind a slash. -/
def index (p : WrittenPointer) (i : Nat) : WrittenPointer :=
  p ++ ofToken (toString i) (by
    apply Pointer.isEscaped_of_notMem
    intro hmem
    rw [Nat.toString_eq_ofList_toDigits, String.toList_ofList] at hmem
    exact absurd (Nat.isDigit_of_mem_toDigits (by decide) (by decide) hmem) (by decide))

/-- The rest of a text below another one, which must end where a token does. -/
def below (p ancestor : WrittenPointer) : Option WrittenPointer :=
  match h : Pointer.dropText p.text.toList ancestor.text.toList with
  | none => none
  | some rest => some
    { text := String.ofList rest
      rooted := by
        rw [String.toList_ofList]
        exact (Pointer.dropText_eq_some_iff.mp h).2
      escaped := by
        have htext := p.escaped
        rw [(Pointer.dropText_eq_some_iff.mp h).1,
          Pointer.isEscaped_append ancestor.escaped] at htext
        rwa [String.toList_ofList] }

/-- The tokens behind the slashes. -/
def tokens (p : WrittenPointer) : List String :=
  ((Pointer.pieces p.text.toList).drop 1).map fun piece => String.ofList (Pointer.unescape piece)

/-- The value that a text leads to. -/
def evaluate (p : WrittenPointer) (v : Value) : Option Value := v.follow? p.tokens

/-- The pointer that is written. -/
def pointer (p : WrittenPointer) : Pointer := ⟨p.tokens⟩

end WrittenPointer
end JsonSchema
