import JsonSchema.Pointer.Basic
import JsonSchema.Proofs.Outcome

/-!
# A pointer and its text

Every pointer has one text and every text at most one pointer: writing a pointer and reading one
undo each other.
-/

namespace JsonSchema.Pointer

variable {cs ds : List Char}

/-! ## Tokens -/

theorem decode_encode (cs : List Char) : decode (encode cs) = some cs := by
  induction cs with
  | nil => rfl
  | cons c cs ih =>
      unfold encode
      split
      · rename_i h
        cases h
      · rename_i h
        cases h
        rw [decode, ih, Option.map_some]
      · rename_i h
        cases h
        rw [decode, ih, Option.map_some]
      · rename_i htilde hslash h
        cases h
        have hc : c ≠ '~' := fun hc => htilde hc
        rw [decode, ih, if_neg hc, Option.map_some]
        · exact fun _ hc _ => htilde hc
        · exact fun _ hc _ => htilde hc

theorem encode_of_decode (hslash : '/' ∉ cs) (h : decode cs = some ds) : encode ds = cs := by
  fun_induction decode cs generalizing ds with
  | case1 =>
      cases h
      rfl
  | case2 rest ih =>
      obtain ⟨es, hes, rfl⟩ := Option.map_eq_some_iff.mp h
      rw [encode, ih (by simpa using hslash) hes]
  | case3 rest ih =>
      obtain ⟨es, hes, rfl⟩ := Option.map_eq_some_iff.mp h
      rw [encode, ih (by simpa using hslash) hes]
  | case4 => cases h
  | case5 c rest _ _ hc ih =>
      obtain ⟨es, hes, rfl⟩ := Option.map_eq_some_iff.mp h
      have hne : c ≠ '/' := (List.ne_of_not_mem_cons hslash).symm
      rw [encode, ih (List.not_mem_of_not_mem_cons hslash) hes]
      · exact hc
      · exact hne

theorem slash_notMem_encode (cs : List Char) : '/' ∉ encode cs := by
  induction cs with
  | nil => exact List.not_mem_nil
  | cons c cs ih =>
      unfold encode
      split <;> rename_i h <;> cases h
      · simpa using ih
      · simpa using ih
      · rename_i hslash
        simpa [ih] using Ne.symm hslash

/-! ## Pieces -/

/-- The pieces with a slash in front of each are the whole. -/
theorem flatMap_pieces (cs : List Char) : (pieces cs).flatMap ('/' :: ·) = '/' :: cs := by
  fun_induction pieces cs with
  | case1 => rfl
  | case2 rest ih => rw [List.flatMap_cons, ih]; rfl
  | case3 => simp_all
  | case4 c rest hc p ps hps ih =>
      rw [hps, List.flatMap_cons, List.cons_append, List.cons.injEq] at ih
      rw [List.flatMap_cons, List.cons_append, List.cons_append, ih.2]

theorem slash_notMem_pieces (h : ds ∈ pieces cs) : '/' ∉ ds := by
  fun_induction pieces cs generalizing ds with
  | case1 =>
      rw [List.mem_singleton.mp h]
      exact List.not_mem_nil
  | case2 rest ih =>
      rcases List.mem_cons.mp h with rfl | h
      · exact List.not_mem_nil
      · exact ih h
  | case3 c rest hc _ =>
      rw [List.mem_singleton.mp h, List.mem_singleton]
      exact Ne.symm hc
  | case4 c rest hc p ps hps ih =>
      have hslash : c ≠ '/' := hc
      rw [hps] at ih
      rcases List.mem_cons.mp h with rfl | h
      · simpa [hslash.symm] using ih List.mem_cons_self
      · exact ih (List.mem_cons_of_mem _ h)

theorem pieces_append (h : '/' ∉ cs) (rest : List Char) :
    pieces (cs ++ '/' :: rest) = cs :: pieces rest := by
  induction cs with
  | nil => rfl
  | cons c cs ih =>
      have hc : c ≠ '/' := (List.ne_of_not_mem_cons h).symm
      rw [List.cons_append, pieces, ih (List.not_mem_of_not_mem_cons h)]
      exact hc

theorem pieces_eq_self (h : '/' ∉ cs) : pieces cs = [cs] := by
  induction cs with
  | nil => rfl
  | cons c cs ih =>
      have hc : c ≠ '/' := (List.ne_of_not_mem_cons h).symm
      rw [pieces, ih (List.not_mem_of_not_mem_cons h)]
      exact hc

/-! ## Texts -/

theorem toList_text (p : Pointer) :
    p.text.toList = p.tokens.flatMap fun token => '/' :: encode token.toList := by
  rw [text, String.toList_ofList]

/-- The text of a pointer is a list of pieces, one for each token. -/
theorem pieces_tokens (token : String) (tokens : List String) :
    pieces (encode token.toList ++ tokens.flatMap fun t => '/' :: encode t.toList) =
      (token :: tokens).map fun t => encode t.toList := by
  induction tokens generalizing token with
  | nil =>
      rw [List.flatMap_nil, List.append_nil]
      exact pieces_eq_self (slash_notMem_encode _)
  | cons next tokens ih =>
      rw [List.flatMap_cons, List.cons_append, pieces_append (slash_notMem_encode _), ih]
      rfl

/-- The text of a pointer is read as that pointer. -/
theorem ofText?_text (p : Pointer) : ofText? p.text = some p := by
  obtain ⟨tokens⟩ := p
  unfold ofText?
  rw [toList_text]
  cases tokens with
  | nil => rfl
  | cons token tokens =>
      have hdecode : (((token :: tokens).map fun t => encode t.toList).mapM decode) =
          some ((token :: tokens).map String.toList) := by
        apply mapM_eq_some_of_forall₂
        rw [List.forall₂_map_left_iff, List.forall₂_map_right_iff, List.forall₂_same]
        intro t _
        exact decode_encode t.toList
      rw [List.flatMap_cons, List.cons_append]
      change ((pieces _).mapM decode).map _ = _
      rw [pieces_tokens, hdecode]
      simp

theorem eq_map_encode {ps ts : List (List Char)} (hslash : ∀ p ∈ ps, '/' ∉ p)
    (h : List.Forall₂ (fun p t => decode p = some t) ps ts) : ps = ts.map encode := by
  induction h with
  | nil => rfl
  | cons ht _ ih =>
      obtain ⟨hp, hps⟩ := List.forall_mem_cons.mp hslash
      rw [List.map_cons, encode_of_decode hp ht, ← ih hps]

/-- What is read as a pointer is its text. -/
theorem text_of_ofText? {s : String} {p : Pointer} (h : ofText? s = some p) : p.text = s := by
  rw [← String.toList_inj, toList_text]
  unfold ofText? at h
  split at h
  · rename_i hs
    cases h
    rw [hs]
    rfl
  · rename_i rest hs
    obtain ⟨ts, hts, rfl⟩ := Option.map_eq_some_iff.mp h
    have hpieces := eq_map_encode (fun _ => slash_notMem_pieces) (forall₂_of_mapM_some hts)
    rw [hs, ← flatMap_pieces, hpieces, List.flatMap_map, List.flatMap_map]
    simp
  · cases h

end JsonSchema.Pointer
