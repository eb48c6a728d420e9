import JsonSchema.Url.Percent

/-!
# Escapes and what they stand for

Escaping leaves only characters that need no escape, and undoing it gives back the bytes of the
text, unless the text has percent signs that read as escapes themselves.
-/

namespace JsonSchema

namespace Percent

variable {reserved : Char → Bool} {cs : List Char} {c : Char}

/-! ## Characters -/

theorem range_of_fragment (h : fragment c = false) : 0x20 < c.toNat ∧ c.toNat < 0x7F := by
  simp only [fragment, control, Bool.or_eq_false_iff, decide_eq_false_iff_not] at h
  obtain ⟨⟨⟨⟨⟨⟨hlow, hhigh⟩, hspace⟩, -⟩, -⟩, -⟩, -⟩ := h
  have hne : c.toNat ≠ 0x20 := fun heq => hspace (Char.toNat_inj.mp heq)
  omega

/-- What needs no escape in a fragment, range and exceptions. -/
theorem fragment_of_range (hlow : 0x20 < c.toNat) (hhigh : c.toNat < 0x7F)
    (h : c ∉ ['"', '<', '>', '`']) : fragment c = false := by
  have hspace : c ≠ ' ' := by
    rintro rfl
    exact absurd hlow (by decide)
  simp only [List.mem_cons, List.not_mem_nil, or_false, not_or] at h
  obtain ⟨hquote, hless, hgreater, hbacktick⟩ := h
  simp [fragment, control, hspace, hquote, hless, hgreater, hbacktick, hhigh]
  omega

theorem lt_of_query (h : query c = false) : 0x20 < c.toNat := by
  simp only [query, control, Bool.or_eq_false_iff, decide_eq_false_iff_not] at h
  obtain ⟨⟨⟨⟨⟨⟨hlow, -⟩, hspace⟩, -⟩, -⟩, -⟩, -⟩ := h
  have hne : c.toNat ≠ 0x20 := fun heq => hspace (Char.toNat_inj.mp heq)
  omega

theorem hexValue?_eq_some_iff {n : Nat} : hexValue? c = some n ↔ n < 10 ∧ c.toNat = 0x30 + n ∨
    10 ≤ n ∧ n < 16 ∧ (c.toNat = 0x57 + n ∨ c.toNat = 0x37 + n) := by
  have hle (a b : Char) : a ≤ b ↔ a.toNat ≤ b.toNat := by
    rw [Char.le_def, UInt32.le_iff_toNat_le]
    rfl
  have hbounds : '0'.toNat = 0x30 ∧ '9'.toNat = 0x39 ∧ 'a'.toNat = 0x61 ∧ 'f'.toNat = 0x66 ∧
      'A'.toNat = 0x41 ∧ 'F'.toNat = 0x46 := by decide
  simp only [hexValue?, hle, hbounds]
  split
  · rw [Option.some_inj]
    omega
  · split
    · rw [Option.some_inj]
      omega
    · split
      · rw [Option.some_inj]
        omega
      · simp only [reduceCtorEq, false_iff]
        omega

theorem hexDigit_range {n : Nat} (h : n < 16) :
    fragment (hexDigit n) = false ∧ hexValue? (hexDigit n) = some n ∧
      hexDigit n ≠ '+' ∧ hexDigit n ≠ '%' := by
  revert n
  decide

/-! ## Escaping -/

theorem encode_cons (reserved : Char → Bool) (c : Char) (cs : List Char) :
    encode reserved (c :: cs) = (if reserved c then escapeChar c else [c]) ++ encode reserved cs :=
  List.flatMap_cons

/-- What needs no escape stays as it is. -/
theorem encode_eq_self (h : ∀ c ∈ cs, reserved c = false) : encode reserved cs = cs := by
  induction cs with
  | nil => rfl
  | cons c cs ih =>
      obtain ⟨hc, hcs⟩ := List.forall_mem_cons.mp h
      rw [encode_cons, ih hcs, hc]
      rfl

theorem fragment_of_mem_escapeByte {b : UInt8} (h : c ∈ escapeByte b) : fragment c = false := by
  have hb := b.toNat_lt
  simp only [escapeByte, List.mem_cons, List.not_mem_nil, or_false] at h
  rcases h with rfl | rfl | rfl
  · decide
  · exact (hexDigit_range (by omega)).1
  · exact (hexDigit_range (by omega)).1

/-- After escaping nothing needs an escape. -/
theorem fragment_of_mem_encode (h : c ∈ encode fragment cs) : fragment c = false := by
  obtain ⟨d, -, hc⟩ := List.mem_flatMap.mp h
  split at hc
  · obtain ⟨b, -, hc⟩ := List.mem_flatMap.mp hc
    exact fragment_of_mem_escapeByte hc
  · rename_i hd
    rw [List.mem_singleton.mp hc]
    simpa using hd

/-! ## UTF-8 -/

theorem utf8_cons (c : Char) (cs : List Char) :
    utf8 (c :: cs) = String.utf8EncodeChar c ++ utf8 cs :=
  List.flatMap_cons

theorem utf8_append (cs cs' : List Char) : utf8 (cs ++ cs') = utf8 cs ++ utf8 cs' :=
  List.flatMap_append

theorem length_utf8_cons (c : Char) (cs : List Char) :
    (utf8 cs).length < (utf8 (c :: cs)).length := by
  have hpos := List.length_pos_iff.mpr (String.utf8EncodeChar_ne_nil (c := c))
  rw [utf8_cons, List.length_append]
  omega

/-- Leaving characters out takes bytes away. -/
theorem length_utf8_of_sublist {cs' : List Char} (h : cs.Sublist cs') :
    (utf8 cs).length ≤ (utf8 cs').length ∧
      ((utf8 cs).length = (utf8 cs').length → cs = cs') := by
  induction h with
  | slnil => exact ⟨Nat.le_refl _, fun _ => rfl⟩
  | @cons l l' c _ ih =>
      have hlt := length_utf8_cons c l'
      exact ⟨by omega, fun h => by omega⟩
  | @cons_cons l l' c _ ih =>
      simp only [utf8_cons, List.length_append]
      refine ⟨by omega, fun h => ?_⟩
      rw [ih.2 (by omega)]

theorem utf8_eq (cs : List Char) : (⟨(utf8 cs).toArray⟩ : ByteArray) = cs.utf8Encode := by
  apply ByteArray.ext
  rw [List.utf8Encode, List.data_toByteArray]
  rfl

theorem ofUtf8?_utf8 (cs : List Char) : ofUtf8? (utf8 cs) = some (String.ofList cs) := by
  have hvalid : (⟨(utf8 cs).toArray⟩ : ByteArray).IsValidUTF8 := utf8_eq cs ▸
    ByteArray.isValidUTF8_utf8Encode
  unfold ofUtf8? String.fromUTF8?
  rw [dif_pos hvalid, Option.some.injEq, ← String.toByteArray_inj, String.toByteArray_ofList,
    ← utf8_eq]
  rfl

/-- Bytes that are UTF-8 are those of the text that they write. -/
theorem eq_utf8_of_ofUtf8? {bytes : List UInt8} {s : String} (h : ofUtf8? bytes = some s) :
    bytes = utf8 s.toList := by
  unfold ofUtf8? String.fromUTF8? at h
  split at h
  · have hs : s.toByteArray = ⟨bytes.toArray⟩ := by
      rw [← Option.some.inj h]
      rfl
    rw [← String.utf8Encode_toList, ← utf8_eq] at hs
    simpa using congrArg (fun b => b.data.toList) hs.symm
  · cases h

/-- A character of ASCII is one byte. -/
theorem utf8EncodeChar_of_lt (h : c.toNat < 0x80) :
    String.utf8EncodeChar c = [UInt8.ofNat c.toNat] := by
  have hle : c.val.toNat ≤ 0x7F := Nat.le_of_lt_succ h
  simp only [String.utf8EncodeChar, if_pos hle]
  rfl

end Percent

end JsonSchema
