import JsonSchema.Proofs.Url.Percent
import JsonSchema.Registry.Reference
import Mathlib.Tactic.Common

/-!
# What a fragment gives back

A text is put into a fragment by escaping what is reserved there, and taken out of it by undoing all
escapes. Percent signs of the text itself are not escaped, so those that read as escapes are undone
as well; tabs and line ends are lost. Any other text comes back as it was.
-/

namespace JsonSchema

open Percent

namespace Reference

variable {cs : List Char} {c : Char} {b : UInt8} {bytes : List UInt8}

/-! ## Bytes -/

theorem unescape_cons_of_ne (h : b ≠ 0x25) (bytes : List UInt8) :
    unescape (b :: bytes) = b :: unescape bytes := by
  rw [unescape]
  rintro _ _ _ rfl
  exact absurd rfl h

theorem unescape_percent {x y : UInt8} {m n : Nat} (hx : leadingHex? x = some m)
    (hy : byteHexValue? y = some n) (bytes : List UInt8) :
    unescape (0x25 :: x :: y :: bytes) = (16 * m + n).toUInt8 :: unescape bytes := by
  rw [unescape]
  simp only [hx, hy]

/-- A percent sign that is no escape stays. -/
theorem unescape_percent_of_not
    (h : ∀ x y rest, bytes = x :: y :: rest → leadingHex? x = none ∨ byteHexValue? y = none) :
    unescape (0x25 :: bytes) = 0x25 :: unescape bytes := by
  match bytes with
  | [] => rfl
  | [x] => rw [unescape]; nofun
  | x :: y :: rest =>
      rw [unescape]
      rcases h x y rest rfl with hx | hy
      · simp only [hx]
      · simp only [hy]
        split <;> simp_all

/-! ## Characters -/

/-- After a percent sign, two characters read as a byte. -/
def ReadsAsByte (x y : Char) : Prop := (x = '+' ∨ (hexValue? x).isSome) ∧ (hexValue? y).isSome

theorem toNat_ofNat_toNat (h : c.toNat < 0x80) : (UInt8.ofNat c.toNat).toNat = c.toNat := by
  rw [UInt8.toNat_ofNat']
  omega

theorem byteHexValue?_ofNat (h : c.toNat < 0x80) :
    byteHexValue? (UInt8.ofNat c.toNat) = hexValue? c := by
  rw [byteHexValue?, toNat_ofNat_toNat h, Char.ofNat_toNat]

theorem byte_eq_iff {d : Char} (h : c.toNat < 0x80) (hd : d.toNat < 0x80) :
    UInt8.ofNat c.toNat = UInt8.ofNat d.toNat ↔ c = d := by
  rw [← UInt8.toNat_inj, toNat_ofNat_toNat h, toNat_ofNat_toNat hd, Char.toNat_inj]

theorem leadingHex?_ofNat (h : c.toNat < 0x80) :
    leadingHex? (UInt8.ofNat c.toNat) = if c = '+' then some 0 else hexValue? c := by
  have hplus : UInt8.ofNat c.toNat = 0x2B ↔ c = '+' := byte_eq_iff h (d := '+') (by decide)
  unfold leadingHex?
  simp only [hplus, byteHexValue?_ofNat h]

/-- An escape is undone. -/
theorem unescape_escapeByte (b : UInt8) (bytes : List UInt8) :
    unescape (utf8 (escapeByte b) ++ bytes) = b :: unescape bytes := by
  have hb := b.toNat_lt
  obtain ⟨hhigh, hvalue, hplus, -⟩ := hexDigit_range (n := b.toNat / 16) (by omega)
  obtain ⟨hlow, hvalue', -⟩ := hexDigit_range (n := b.toNat % 16) (by omega)
  have hlt := Nat.lt_trans (range_of_fragment hhigh).2 (by decide : 0x7F < 0x80)
  have hlt' := Nat.lt_trans (range_of_fragment hlow).2 (by decide : 0x7F < 0x80)
  have hleading := leadingHex?_ofNat hlt
  rw [if_neg hplus, hvalue] at hleading
  have hlast := (byteHexValue?_ofNat hlt').trans hvalue'
  have hbytes : utf8 (escapeByte b) = [0x25, UInt8.ofNat (Percent.hexDigit (b.toNat / 16)).toNat,
      UInt8.ofNat (Percent.hexDigit (b.toNat % 16)).toNat] := by
    rw [escapeByte, utf8_cons, utf8_cons, utf8_cons, utf8EncodeChar_of_lt (by decide),
      utf8EncodeChar_of_lt hlt, utf8EncodeChar_of_lt hlt']
    rfl
  rw [hbytes]
  have hvalue : 16 * (b.toNat / 16) + b.toNat % 16 = b.toNat := by omega
  rw [List.cons_append, List.cons_append, List.cons_append, List.nil_append,
    unescape_percent hleading hlast, hvalue]
  simp

theorem unescape_escapeBytes (bytes rest : List UInt8) :
    unescape (utf8 (bytes.flatMap escapeByte) ++ rest) = bytes ++ unescape rest := by
  induction bytes with
  | nil => rfl
  | cons b bytes ih =>
      rw [List.flatMap_cons, utf8_append, List.append_assoc, unescape_escapeByte, ih,
        List.cons_append]

/-- A character that is escaped comes back as its bytes. -/
theorem unescape_escapeChar (c : Char) (rest : List UInt8) :
    unescape (utf8 (Percent.escapeChar c) ++ rest) = String.utf8EncodeChar c ++ unescape rest :=
  unescape_escapeBytes (String.utf8EncodeChar c) rest

/-! ## Texts -/

/-- The bytes of a text as a fragment writes it. -/
def written (cs : List Char) : List UInt8 := utf8 (encode fragment cs)

theorem written_cons (c : Char) (cs : List Char) :
    written (c :: cs) = utf8 (if fragment c then Percent.escapeChar c else [c]) ++ written cs := by
  rw [written, encode_cons, utf8_append]
  rfl

theorem exists_escapeChar (c : Char) : ∃ rest, Percent.escapeChar c = '%' :: rest := by
  obtain ⟨b, bytes, hbytes⟩ := List.exists_cons_of_ne_nil (String.utf8EncodeChar_ne_nil (c := c))
  rw [Percent.escapeChar, hbytes]
  exact ⟨_, rfl⟩

/-- Where no escape begins, a character was written as itself. -/
theorem exists_cons_of_encode {d : Char} {ds : List Char} (hd : d ≠ '%')
    (h : encode fragment cs = d :: ds) : ∃ rest, cs = d :: rest ∧ encode fragment rest = ds := by
  cases cs with
  | nil => cases h
  | cons c cs =>
      rw [encode_cons] at h
      split at h
      · obtain ⟨rest, hrest⟩ := exists_escapeChar c
        rw [hrest] at h
        cases h
        exact absurd rfl hd
      · cases h
        exact ⟨cs, rfl, rfl⟩

theorem lt_of_fragment (h : fragment c = false) : c.toNat < 0x80 :=
  Nat.lt_trans (range_of_fragment h).2 (by decide)

theorem utf8_cons_of_lt (h : c.toNat < 0x80) (cs : List Char) :
    utf8 (c :: cs) = UInt8.ofNat c.toNat :: utf8 cs := by
  rw [utf8_cons, utf8EncodeChar_of_lt h]
  rfl

theorem written_cons_of_fragment (h : fragment c = false) (cs : List Char) :
    written (c :: cs) = UInt8.ofNat c.toNat :: written cs := by
  rw [written_cons, h, if_neg Bool.false_ne_true, utf8_cons_of_lt (lt_of_fragment h)]
  rfl

/-- Any character but the percent sign comes back as its bytes. -/
theorem unescape_written_cons (hc : c ≠ '%') (cs : List Char) :
    unescape (written (c :: cs)) = String.utf8EncodeChar c ++ unescape (written cs) := by
  cases hplain : fragment c with
  | true =>
      rw [written_cons, hplain]
      exact unescape_escapeChar c _
  | false =>
      have hlt := lt_of_fragment hplain
      have hbyte : UInt8.ofNat c.toNat ≠ 0x25 := mt (byte_eq_iff hlt (d := '%') (by decide)).mp hc
      rw [written_cons_of_fragment hplain, utf8EncodeChar_of_lt hlt]
      exact unescape_cons_of_ne hbyte _

theorem not_percent_of_readsAsByte {x y : Char} (h : ReadsAsByte x y) : x ≠ '%' ∧ y ≠ '%' := by
  have hpercent : hexValue? '%' = none := by decide
  obtain ⟨hx, hy⟩ := h
  constructor
  · rintro rfl
    simp [hpercent] at hx
  · rintro rfl
    simp [hpercent] at hy

theorem leadingHex?_isSome (h : c.toNat < 0x80) :
    (leadingHex? (UInt8.ofNat c.toNat)).isSome ↔ c = '+' ∨ (hexValue? c).isSome := by
  rw [leadingHex?_ofNat h]
  by_cases hc : c = '+' <;> simp [hc]

/-- So does a percent sign that does not read as an escape. -/
theorem unescape_written_percent (h : ∀ x y rest, cs = x :: y :: rest → ¬ReadsAsByte x y) :
    unescape (written ('%' :: cs)) = 0x25 :: unescape (written cs) := by
  rw [written_cons_of_fragment (by decide)]
  refine unescape_percent_of_not fun a b bytes hbytes => ?_
  rw [written] at hbytes
  have hlt : ∀ c ∈ encode fragment cs, c.toNat < 0x80 :=
    fun c hc => lt_of_fragment (fragment_of_mem_encode hc)
  match hes : encode fragment cs with
  | [] => simp [hes, utf8] at hbytes
  | [x] =>
      rw [hes, utf8_cons_of_lt (hlt x (by simp [hes]))] at hbytes
      cases hbytes
  | x :: y :: es =>
      have hx := hlt x (by simp [hes])
      have hy := hlt y (by simp [hes])
      rw [hes, utf8_cons_of_lt hx, utf8_cons_of_lt hy] at hbytes
      cases hbytes
      by_contra hreads
      rw [not_or, ← ne_eq, ← ne_eq, Option.ne_none_iff_isSome, Option.ne_none_iff_isSome,
        leadingHex?_isSome hx, byteHexValue?_ofNat hy] at hreads
      obtain ⟨hxne, hyne⟩ := not_percent_of_readsAsByte hreads
      obtain ⟨rest, rfl, hrest⟩ := exists_cons_of_encode hxne hes
      obtain ⟨more, rfl, -⟩ := exists_cons_of_encode hyne hrest
      exact h x y more rfl hreads

theorem range_of_hexValue? (h : (hexValue? c).isSome) : 0x30 ≤ c.toNat ∧ c.toNat ≤ 0x66 := by
  obtain ⟨n, hn⟩ := Option.isSome_iff_exists.mp h
  have hdigit := hexValue?_eq_some_iff.mp hn
  omega

theorem fragment_of_hexDigit (h : c = '+' ∨ (hexValue? c).isSome) : Percent.fragment c = false := by
  rcases h with rfl | h
  · decide
  · obtain ⟨hlow, hhigh⟩ := range_of_hexValue? h
    refine fragment_of_range (by omega) (by omega) fun hc => ?_
    simp only [List.mem_cons, List.not_mem_nil, or_false] at hc
    obtain rfl | rfl | rfl | rfl := hc <;> exact absurd h (by decide)

/-- One that does is lost with the two characters behind it. -/
theorem unescape_written_escape {x y : Char} (h : ReadsAsByte x y) (cs : List Char) :
    ∃ b, unescape (written ('%' :: x :: y :: cs)) = b :: unescape (written cs) := by
  have hx := fragment_of_hexDigit h.1
  have hy := fragment_of_hexDigit (.inr h.2)
  obtain ⟨m, hm⟩ := Option.isSome_iff_exists.mp ((leadingHex?_isSome (lt_of_fragment hx)).mpr h.1)
  obtain ⟨n, hn⟩ := Option.isSome_iff_exists.mp h.2
  rw [← byteHexValue?_ofNat (lt_of_fragment hy)] at hn
  rw [written_cons_of_fragment (by decide), written_cons_of_fragment hx,
    written_cons_of_fragment hy]
  exact ⟨_, unescape_percent hm hn _⟩

/-- A text without percent signs that read as escapes. -/
def Unescaped (cs : List Char) : Prop := ∀ x y, ['%', x, y] <:+: cs → ¬ReadsAsByte x y

theorem Unescaped.of_cons (h : Unescaped (c :: cs)) : Unescaped cs :=
  fun x y hwithin => h x y (hwithin.trans (List.suffix_cons c cs).isInfix)

/-- Such a text comes back as its bytes. -/
theorem unescape_written (h : Unescaped cs) : unescape (written cs) = utf8 cs := by
  induction cs with
  | nil => rfl
  | cons c cs ih =>
      rw [utf8_cons, ← ih h.of_cons]
      by_cases hc : c = '%'
      · subst hc
        refine unescape_written_percent ?_
        rintro x y rest rfl
        exact h x y (List.IsPrefix.isInfix ⟨rest, rfl⟩)
      · exact unescape_written_cons hc cs

theorem Unescaped.cons (h : Unescaped cs)
    (hc : ∀ x y rest, c = '%' → cs = x :: y :: rest → ¬ReadsAsByte x y) : Unescaped (c :: cs) := by
  intro x y hwithin
  rcases List.infix_cons_iff.mp hwithin with hprefix | hwithin
  · obtain ⟨rest, hrest⟩ := hprefix
    cases hrest
    exact hc x y rest rfl rfl
  · exact h x y hwithin

/-- Nothing that comes back is longer than the text, and any other text comes back shorter. -/
theorem length_unescape_written : ∀ cs : List Char,
    (unescape (written cs)).length ≤ (utf8 cs).length ∧
      ((unescape (written cs)).length = (utf8 cs).length → Unescaped cs)
  | [] => ⟨Nat.le_refl _, fun _ x y h => by simp at h⟩
  | c :: cs => by
    obtain ⟨hle, hunescaped⟩ := length_unescape_written cs
    by_cases hescape : ∃ x y rest, c = '%' ∧ cs = x :: y :: rest ∧ ReadsAsByte x y
    · obtain ⟨x, y, rest, rfl, rfl, hreads⟩ := hescape
      obtain ⟨b, hb⟩ := unescape_written_escape hreads rest
      have hle := (length_unescape_written rest).1
      have hlt := length_utf8_cons y rest
      have hlt' := length_utf8_cons x (y :: rest)
      have hlt'' := length_utf8_cons '%' (x :: y :: rest)
      rw [hb, List.length_cons]
      exact ⟨by omega, fun h => by omega⟩
    · have hnone : ∀ x y rest, c = '%' → cs = x :: y :: rest → ¬ReadsAsByte x y :=
        fun x y rest hc hcs hreads => hescape ⟨x, y, rest, hc, hcs, hreads⟩
      have hbytes : unescape (written (c :: cs)) =
          String.utf8EncodeChar c ++ unescape (written cs) := by
        by_cases hc : c = '%'
        · subst hc
          exact unescape_written_percent fun x y rest => hnone x y rest rfl
        · exact unescape_written_cons hc cs
      rw [hbytes, utf8_cons, List.length_append, List.length_append]
      exact ⟨by omega, fun h => (hunescaped (by omega)).cons hnone⟩

/-! ## Fragments -/

/-- A text that a fragment keeps: it has no tabs and line ends, and no percent signs that read as
escapes. -/
structure KeptByFragment (cs : List Char) : Prop where
  unbroken : ∀ c ∈ cs, c ≠ '\t' ∧ c ≠ '\n' ∧ c ≠ '\r'
  unescaped : Unescaped cs

theorem keptByFragment_of_all
    (h : cs.all fun c => c ≠ '%' && c ≠ '\t' && c ≠ '\n' && c ≠ '\r') : KeptByFragment cs := by
  have hne : ∀ c ∈ cs, c ≠ '%' ∧ c ≠ '\t' ∧ c ≠ '\n' ∧ c ≠ '\r' := by
    simpa [and_assoc] using h
  refine ⟨fun c hc => (hne c hc).2, fun x y hwithin _ => ?_⟩
  exact (hne '%' (hwithin.subset List.mem_cons_self)).1 rfl

/-- Those are the texts that a fragment gives back. -/
theorem unescapeText?_encodeFragment (s : String) :
    unescapeText? (Url.encodeFragment s) = some s ↔ KeptByFragment s.toList := by
  have hfragment : unescapeText? (Url.encodeFragment s) =
      ofUtf8? (unescape (written (s.toList.filter fun c => c ≠ '\t' && c ≠ '\n' && c ≠ '\r'))) := by
    rw [unescapeText?, Url.encodeFragment, String.toList_ofList]
    rfl
  rw [hfragment]
  constructor
  · intro h
    have hbytes := congrArg List.length (eq_utf8_of_ofUtf8? h)
    have hsublist := length_utf8_of_sublist (List.filter_sublist
      (p := fun c => c ≠ '\t' && c ≠ '\n' && c ≠ '\r') (l := s.toList))
    have hwritten := length_unescape_written
      (s.toList.filter fun c => c ≠ '\t' && c ≠ '\n' && c ≠ '\r')
    have hall := hsublist.2 (by omega)
    have hunescaped := hwritten.2 (by omega)
    rw [hall] at hunescaped
    refine ⟨fun c hc => ?_, hunescaped⟩
    simpa [and_assoc] using List.filter_eq_self.mp hall c hc
  · rintro ⟨hunbroken, hunescaped⟩
    have hall : s.toList.filter (fun c => c ≠ '\t' && c ≠ '\n' && c ≠ '\r') = s.toList :=
      List.filter_eq_self.mpr fun c hc => by simpa [and_assoc] using hunbroken c hc
    rw [hall, unescape_written hunescaped, ofUtf8?_utf8, String.ofList_toList]

end Reference

end JsonSchema
