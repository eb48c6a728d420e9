import JsonSchema.Pointer.Written
import JsonSchema.Proofs.Pointer.Text

/-!
# The grammar of pointers

The texts of pointers are those of RFC 6901: tokens behind slashes, in which a tilde is followed by
a zero or a one. Undoing the escapes of slashes before those of tildes reads such a token in the
same way as going through it once.
-/

namespace JsonSchema.Pointer

/-! ## The grammar -/

/-- A character that stands for itself: `%x00-2E / %x30-7D / %x7F-10FFFF`. -/
def IsUnescaped (c : Char) : Prop :=
  c.toNat ≤ 0x2E ∨ (0x30 ≤ c.toNat ∧ c.toNat ≤ 0x7D) ∨ 0x7F ≤ c.toNat

/-- The rule `reference-token = *( unescaped / escaped )`, where `escaped = "~" ( "0" / "1" )`. -/
inductive IsReferenceToken : List Char → Prop
  | empty : IsReferenceToken []
  | unescaped {c cs} (hc : IsUnescaped c) (h : IsReferenceToken cs) : IsReferenceToken (c :: cs)
  | tilde {cs} (h : IsReferenceToken cs) : IsReferenceToken ('~' :: '0' :: cs)
  | slash {cs} (h : IsReferenceToken cs) : IsReferenceToken ('~' :: '1' :: cs)

/-- The rule `json-pointer = *( "/" reference-token )`. -/
inductive IsJsonPointer : List Char → Prop
  | empty : IsJsonPointer []
  | token {token rest} (ht : IsReferenceToken token) (h : IsJsonPointer rest) :
      IsJsonPointer ('/' :: (token ++ rest))

variable {cs ds : List Char}

theorem isUnescaped_iff {c : Char} : IsUnescaped c ↔ c ≠ '/' ∧ c ≠ '~' := by
  have hslash : c = '/' ↔ c.toNat = 0x2F := Char.toNat_inj.symm
  have htilde : c = '~' ↔ c.toNat = 0x7E := Char.toNat_inj.symm
  unfold IsUnescaped
  rw [ne_eq, ne_eq, hslash, htilde]
  omega

theorem isReferenceToken_encode (cs : List Char) : IsReferenceToken (encode cs) := by
  induction cs with
  | nil => exact .empty
  | cons c cs ih =>
      unfold encode
      split <;> rename_i h
      · cases h
      · cases h
        exact .tilde ih
      · cases h
        exact .slash ih
      · rename_i htilde hslash
        cases h
        exact .unescaped (isUnescaped_iff.mpr ⟨hslash, htilde⟩) ih

theorem isEscaped_of_isReferenceToken (h : IsReferenceToken cs) : isEscaped cs = true := by
  induction h with
  | empty => rfl
  | @unescaped c cs hc _ ih =>
      have hne : c ≠ '~' := (isUnescaped_iff.mp hc).2
      have hone : isEscaped [c] = true := isEscaped_of_notMem (by simpa using hne.symm)
      exact (isEscaped_append hone cs).trans ih
  | tilde _ ih => exact ih
  | slash _ ih => exact ih

theorem isJsonPointer_text (p : Pointer) : IsJsonPointer p.text.toList := by
  obtain ⟨tokens⟩ := p
  rw [toList_text]
  induction tokens with
  | nil => exact .empty
  | cons token tokens ih =>
      rw [List.flatMap_cons]
      exact .token (isReferenceToken_encode token.toList) ih

theorem isEscaped_of_isJsonPointer (h : IsJsonPointer cs) :
    isRooted cs = true ∧ isEscaped cs = true := by
  induction h with
  | empty => exact ⟨rfl, rfl⟩
  | @token token rest ht _ ih =>
      refine ⟨rfl, ?_⟩
      change isEscaped (token ++ rest) = true
      rw [isEscaped_append (isEscaped_of_isReferenceToken ht)]
      exact ih.2

/-! ## Two passes over a token -/

theorem replacePair_of_ne {first second single c : Char} (h : c ≠ first) (cs : List Char) :
    replacePair first second single (c :: cs) = c :: replacePair first second single cs := by
  cases cs with
  | nil => rfl
  | cons d cs =>
      rw [replacePair, if_neg]
      intro hpair
      exact h hpair.1

theorem unescape_of_ne {c : Char} (h : c ≠ '~') (cs : List Char) :
    unescape (c :: cs) = c :: unescape cs := by
  rw [unescape, replacePair_of_ne h, replacePair_of_ne h, ← unescape]

/-- Undoing one escape after the other reads a token as undoing them all at once does. -/
theorem unescape_of_decode (h : decode cs = some ds) : unescape cs = ds := by
  fun_induction decode cs generalizing ds with
  | case1 =>
      cases h
      rfl
  | case2 rest ih =>
      obtain ⟨es, hes, rfl⟩ := Option.map_eq_some_iff.mp h
      -- The first pass lets the pair be: its zero begins no pair of its own.
      have hfirst : replacePair '~' '1' '/' ('~' :: '0' :: rest) =
          '~' :: '0' :: replacePair '~' '1' '/' rest := by
        rw [replacePair, if_neg (by decide), replacePair_of_ne (by decide)]
      rw [unescape, hfirst, replacePair, if_pos ⟨rfl, rfl⟩, ← unescape, ih hes]
  | case3 rest ih =>
      obtain ⟨es, hes, rfl⟩ := Option.map_eq_some_iff.mp h
      rw [unescape, replacePair, if_pos ⟨rfl, rfl⟩, replacePair_of_ne (by decide), ← unescape,
        ih hes]
  | case4 => cases h
  | case5 c rest _ _ hc ih =>
      obtain ⟨es, hes, rfl⟩ := Option.map_eq_some_iff.mp h
      rw [unescape_of_ne hc, ih hes]

theorem unescape_encode (cs : List Char) : unescape (encode cs) = cs :=
  unescape_of_decode (decode_encode cs)

/-! ## Pieces of a text -/

theorem exists_decode (h : isEscaped cs = true) : ∃ ds, decode cs = some ds := by
  fun_induction isEscaped cs with
  | case1 => exact ⟨[], rfl⟩
  | case2 rest ih =>
      obtain ⟨ds, hds⟩ := ih h
      exact ⟨'~' :: ds, by rw [decode, hds, Option.map_some]⟩
  | case3 rest ih =>
      obtain ⟨ds, hds⟩ := ih h
      exact ⟨'/' :: ds, by rw [decode, hds, Option.map_some]⟩
  | case4 c rest hzero hone ih =>
      rw [Bool.and_eq_true, bne_iff_ne] at h
      obtain ⟨hc, hrest⟩ := h
      obtain ⟨ds, hds⟩ := ih hrest
      refine ⟨c :: ds, ?_⟩
      rw [decode, if_neg hc, hds, Option.map_some]
      · intro _ heq
        exact absurd heq hc
      · intro _ heq
        exact absurd heq hc

theorem exists_pieces_eq_cons (cs : List Char) : ∃ p ps, pieces cs = p :: ps := by
  fun_induction pieces cs with
  | case1 => exact ⟨[], [], rfl⟩
  | case2 rest => exact ⟨[], pieces rest, rfl⟩
  | case3 c => exact ⟨[c], [], rfl⟩
  | case4 c _ _ p ps => exact ⟨c :: p, ps, rfl⟩

theorem pieces_cons_of_ne {c : Char} {p : List Char} {ps : List (List Char)} (hc : c ≠ '/')
    (h : pieces cs = p :: ps) : pieces (c :: cs) = (c :: p) :: ps := by
  rw [pieces, h]
  exact hc

/-- A slash ends no escape, so each of the pieces is escaped on its own. -/
theorem isEscaped_of_mem_pieces (h : isEscaped cs = true) (hd : ds ∈ pieces cs) :
    isEscaped ds = true := by
  fun_induction isEscaped cs generalizing ds with
  | case1 =>
      rw [List.mem_singleton.mp hd]
      rfl
  | case2 rest ih =>
      obtain ⟨p, ps, hrest⟩ := exists_pieces_eq_cons rest
      rw [pieces_cons_of_ne (by decide) (pieces_cons_of_ne (by decide) hrest)] at hd
      rw [hrest] at ih
      rcases List.mem_cons.mp hd with rfl | hd
      · have hp : isEscaped p = true := ih h List.mem_cons_self
        exact hp
      · exact ih h (List.mem_cons_of_mem p hd)
  | case3 rest ih =>
      obtain ⟨p, ps, hrest⟩ := exists_pieces_eq_cons rest
      rw [pieces_cons_of_ne (by decide) (pieces_cons_of_ne (by decide) hrest)] at hd
      rw [hrest] at ih
      rcases List.mem_cons.mp hd with rfl | hd
      · have hp : isEscaped p = true := ih h List.mem_cons_self
        exact hp
      · exact ih h (List.mem_cons_of_mem p hd)
  | case4 c rest hzero hone ih =>
      rw [Bool.and_eq_true, bne_iff_ne] at h
      obtain ⟨hc, hrest⟩ := h
      by_cases hslash : c = '/'
      · subst hslash
        rcases List.mem_cons.mp hd with rfl | hd
        · rfl
        · exact ih hrest hd
      · obtain ⟨p, ps, hpieces⟩ := exists_pieces_eq_cons rest
        rw [pieces_cons_of_ne hslash hpieces] at hd
        rw [hpieces] at ih
        rcases List.mem_cons.mp hd with rfl | hd
        · have hsingle : isEscaped [c] = true := isEscaped_of_notMem (by simpa using Ne.symm hc)
          exact (isEscaped_append hsingle p).trans (ih hrest List.mem_cons_self)
        · exact ih hrest (List.mem_cons_of_mem p hd)

/-- Every text that is rooted and escaped is that of a pointer. -/
theorem exists_text_eq {s : String} (hrooted : isRooted s.toList = true)
    (hescaped : isEscaped s.toList = true) : ∃ p : Pointer, p.text = s := by
  unfold isRooted at hrooted
  cases hs : s.toList with
  | nil => exact ⟨root, by rw [← String.toList_inj, hs]; rfl⟩
  | cons c rest =>
      rw [hs] at hrooted hescaped
      obtain rfl : c = '/' := by simpa using hrooted
      change isEscaped rest = true at hescaped
      obtain ⟨ts, hts⟩ := exists_mapM_some (f := decode) (l := pieces rest) fun piece hpiece =>
        Option.isSome_iff_exists.mpr (exists_decode (isEscaped_of_mem_pieces hescaped hpiece))
      refine ⟨⟨ts.map String.ofList⟩, text_of_ofText? ?_⟩
      unfold ofText?
      rw [hs]
      simp only [hts, Option.map_some]

end JsonSchema.Pointer
