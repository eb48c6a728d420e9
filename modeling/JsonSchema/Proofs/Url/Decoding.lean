import JsonSchema.Proofs.Url.Unescape

/-!
# What counts as an escape

Escapes are read from left to right. In URLs a percent sign escapes a byte if two hexadecimal digits
stand behind it. In fragments a plus sign passes for the first of the two digits as well. Apart from
that a fragment is decoded as any part of a URL: it is UTF-8 in the same cases, and a text that was
encoded comes back, since no percent sign of an encoded text is in front of a plus sign.
-/

namespace JsonSchema

namespace Percent

/-- A byte that is a hexadecimal digit of a given value. -/
inductive HexByte (b : UInt8) : Nat → Prop
  | digit {n} (hn : n < 10) (hb : b.toNat = 0x30 + n) : HexByte b n
  | lower {n} (hn : n < 6) (hb : b.toNat = 0x61 + n) : HexByte b (10 + n)
  | upper {n} (hn : n < 6) (hb : b.toNat = 0x41 + n) : HexByte b (10 + n)

/-- Two hexadecimal digits and the byte that they write. -/
def HexPair (x y b : UInt8) : Prop := ∃ m n, HexByte x m ∧ HexByte y n ∧ b.toNat = 16 * m + n

/-- Bytes read from left to right: behind a percent sign, pairs of bytes that write a byte are
replaced by it together with the sign, and all other bytes are copied. -/
inductive Decodes (pair : UInt8 → UInt8 → UInt8 → Prop) : List UInt8 → List UInt8 → Prop
  | nil : Decodes pair [] []
  | escape {x y b bytes decoded} (hpair : pair x y b) (h : Decodes pair bytes decoded) :
      Decodes pair (0x25 :: x :: y :: bytes) (b :: decoded)
  | copy {b bytes decoded}
      (hnone : ∀ x y c rest, b :: bytes = 0x25 :: x :: y :: rest → ¬pair x y c)
      (h : Decodes pair bytes decoded) : Decodes pair (b :: bytes) (b :: decoded)

/-- Bytes as they are written with all percent signs and perhaps other bytes escaped. -/
inductive Encodes : List UInt8 → List UInt8 → Prop
  | nil : Encodes [] []
  | escape {x y b bytes encoded} (hpair : HexPair x y b) (h : Encodes bytes encoded) :
      Encodes (b :: bytes) (0x25 :: x :: y :: encoded)
  | copy {b bytes encoded} (hne : b ≠ 0x25) (h : Encodes bytes encoded) :
      Encodes (b :: bytes) (b :: encoded)

variable {pair : UInt8 → UInt8 → UInt8 → Prop} {b x y : UInt8} {m n : Nat}
variable {bytes decoded encoded : List UInt8}

/-! ## Digits -/

theorem HexByte.lt (h : HexByte b n) : n < 16 := by
  cases h <;> omega

theorem HexByte.range (h : HexByte b n) : 0x30 ≤ b.toNat ∧ b.toNat ≤ 0x66 := by
  cases h <;> omega

theorem HexByte.ne_percent (h : HexByte b n) : b ≠ 0x25 := by
  rintro rfl
  exact absurd h.range (by decide)

theorem HexByte.ne_plus (h : HexByte b n) : b ≠ 0x2B := by
  rintro rfl
  exact absurd h.range (by decide)

theorem HexByte.unique (h : HexByte b m) (h' : HexByte b n) : m = n := by
  cases h <;> cases h' <;> omega

theorem HexPair.ne (h : HexPair x y b) : x ≠ 0x25 ∧ x ≠ 0x2B ∧ y ≠ 0x25 := by
  obtain ⟨m, n, hx, hy, -⟩ := h
  exact ⟨hx.ne_percent, hx.ne_plus, hy.ne_percent⟩

theorem HexPair.unique {c : UInt8} (h : HexPair x y b) (h' : HexPair x y c) : b = c := by
  obtain ⟨m, n, hx, hy, hb⟩ := h
  obtain ⟨m', n', hx', hy', hc⟩ := h'
  rw [← UInt8.toNat_inj, hb, hc, hx.unique hx', hy.unique hy']

theorem toNat_charOfByte (b : UInt8) : (Char.ofNat b.toNat).toNat = b.toNat := by
  have hlt := b.toNat_lt
  rw [Char.ofNat, dif_pos (.inl (by omega))]
  rfl

theorem byteHexValue?_eq_some_iff : byteHexValue? b = some n ↔ HexByte b n := by
  rw [byteHexValue?, hexValue?_eq_some_iff, toNat_charOfByte]
  constructor
  · rintro (⟨hn, hb⟩ | ⟨hten, hn, hb | hb⟩)
    · exact .digit hn hb
    · obtain ⟨k, rfl⟩ := Nat.exists_eq_add_of_le hten
      exact .lower (by omega) (by omega)
    · obtain ⟨k, rfl⟩ := Nat.exists_eq_add_of_le hten
      exact .upper (by omega) (by omega)
  · rintro (⟨hn, hb⟩ | ⟨hn, hb⟩ | ⟨hn, hb⟩) <;> omega

theorem toNat_toUInt8 (h : n < 0x100) : n.toUInt8.toNat = n := UInt8.toNat_ofNat_of_lt h

/-! ## Reading from left to right -/

theorem Decodes.of_escape (h : Decodes pair (0x25 :: x :: y :: bytes) decoded)
    (hpair : pair x y b) :
    ∃ c rest, pair x y c ∧ decoded = c :: rest ∧ Decodes pair bytes rest := by
  cases h with
  | escape hpair' h => exact ⟨_, _, hpair', rfl, h⟩
  | copy hnone _ => exact absurd hpair (hnone _ _ _ _ rfl)

theorem Decodes.of_copy (h : Decodes pair (b :: bytes) decoded)
    (hnone : ∀ x y c rest, b :: bytes = 0x25 :: x :: y :: rest → ¬pair x y c) :
    ∃ rest, decoded = b :: rest ∧ Decodes pair bytes rest := by
  cases h with
  | escape hpair _ => exact absurd hpair (hnone _ _ _ _ rfl)
  | copy _ h => exact ⟨_, rfl, h⟩

/-- There is one way to read bytes if pairs write one byte. -/
theorem Decodes.unique {decoded' : List UInt8} (h : Decodes pair bytes decoded)
    (h' : Decodes pair bytes decoded') (hunique : ∀ x y b c, pair x y b → pair x y c → b = c) :
    decoded = decoded' := by
  induction h generalizing decoded' with
  | nil =>
      cases h'
      rfl
  | escape hpair _ ih =>
      obtain ⟨c, rest, hpair', rfl, hrest⟩ := h'.of_escape hpair
      rw [hunique _ _ _ _ hpair hpair', ih hrest]
  | copy hnone _ ih =>
      obtain ⟨rest, rfl, hrest⟩ := h'.of_copy hnone
      rw [ih hrest]

theorem decodes_decodeBytes (bytes : List UInt8) : Decodes HexPair bytes (decodeBytes bytes) := by
  fun_induction decodeBytes bytes with
  | case1 x y rest m n hn hm ih =>
      have hx := byteHexValue?_eq_some_iff.mp hm
      have hy := byteHexValue?_eq_some_iff.mp hn
      have hlt := hx.lt
      have hlt' := hy.lt
      exact .escape ⟨m, n, hx, hy, toNat_toUInt8 (by omega)⟩ ih
  | case2 x y rest hnone ih =>
      refine .copy ?_ ih
      rintro _ _ _ _ ⟨⟩ ⟨m, n, hx, hy, -⟩
      exact hnone m n (byteHexValue?_eq_some_iff.mpr hx) (byteHexValue?_eq_some_iff.mpr hy)
  | case3 b rest hnone ih =>
      refine .copy ?_ ih
      rintro x y _ rest' ⟨⟩ -
      exact hnone x y rest' rfl rfl
  | case4 => exact .nil

theorem decodes_iff : Decodes HexPair bytes decoded ↔ decoded = decodeBytes bytes :=
  ⟨fun h => h.unique (decodes_decodeBytes bytes) fun _ _ _ _ => HexPair.unique,
    fun h => h ▸ decodes_decodeBytes bytes⟩

/-- What was encoded is read as it was, also if more pairs write a byte. -/
theorem Encodes.decodes (hpair : ∀ x y b, HexPair x y b → pair x y b)
    (h : Encodes bytes encoded) : Decodes pair encoded bytes := by
  induction h with
  | nil => exact .nil
  | escape hhex _ ih => exact .escape (hpair _ _ _ hhex) ih
  | copy hne _ ih =>
      refine .copy ?_ ih
      rintro _ _ _ _ ⟨⟩
      exact absurd rfl hne

/-! ## Bytes of ASCII divide a text -/

/-- Bytes that are UTF-8. -/
def IsText (bytes : List UInt8) : Prop := ∃ cs, bytes = utf8 cs

theorem ofUtf8?_eq_none_iff : ofUtf8? bytes = none ↔ ¬IsText bytes := by
  rw [Option.eq_none_iff_forall_ne_some]
  constructor
  · rintro h ⟨cs, rfl⟩
    exact h _ (ofUtf8?_utf8 cs)
  · intro h s hs
    exact h ⟨s.toList, eq_utf8_of_ofUtf8? hs⟩

theorem ofUtf8?_eq_some_iff {s : String} : ofUtf8? bytes = some s ↔ bytes = utf8 s.toList := by
  refine ⟨eq_utf8_of_ofUtf8?, ?_⟩
  rintro rfl
  rw [ofUtf8?_utf8, String.ofList_toList]

/-- A byte of ASCII is a character of its own. -/
theorem utf8EncodeChar_of_mem {c : Char} (hb : b.toNat < 0x80) (h : b ∈ String.utf8EncodeChar c) :
    String.utf8EncodeChar c = [b] := by
  unfold String.utf8EncodeChar at h ⊢
  simp only at h ⊢
  split at h
  · rw [if_pos (by assumption), List.mem_singleton.mp h]
  · exfalso
    have htoNat (k : Nat) : (UInt8.ofNat k).toNat = k % 256 := UInt8.toNat_ofNat'
    split at h
    · simp only [List.mem_cons, List.not_mem_nil, or_false] at h
      rcases h with rfl | rfl <;> rw [htoNat] at hb <;> omega
    · split at h
      · simp only [List.mem_cons, List.not_mem_nil, or_false] at h
        rcases h with rfl | rfl | rfl <;> rw [htoNat] at hb <;> omega
      · simp only [List.mem_cons, List.not_mem_nil, or_false] at h
        rcases h with rfl | rfl | rfl | rfl <;> rw [htoNat] at hb <;> omega

/-- Bytes around one of ASCII are a text if those on each side are. -/
theorem isText_append_cons (hb : b.toNat < 0x80) (before after : List UInt8) :
    IsText (before ++ b :: after) ↔ IsText before ∧ IsText after := by
  constructor
  · rintro ⟨cs, hcs⟩
    induction cs generalizing before with
    | nil => simp [utf8] at hcs
    | cons c cs ih =>
        rw [utf8_cons] at hcs
        rcases List.append_eq_append_iff.mp hcs with ⟨rest, hc, hrest⟩ | ⟨rest, rfl, hrest⟩
        · cases rest with
          | nil =>
              rw [List.append_nil] at hc
              obtain ⟨-, hafter⟩ := ih [] hrest
              exact ⟨⟨[c], by simp [utf8, hc]⟩, hafter⟩
          | cons d rest =>
              obtain ⟨rfl, hafter⟩ := List.cons.inj hrest
              have hmem : b ∈ String.utf8EncodeChar c := by simp [hc]
              rw [utf8EncodeChar_of_mem hb hmem] at hc
              obtain ⟨rfl, rfl⟩ : before = [] ∧ rest = [] := by
                cases before <;> simp_all
              exact ⟨⟨[], rfl⟩, ⟨cs, hafter⟩⟩
        · obtain ⟨⟨cs', rfl⟩, hafter⟩ := ih rest hrest.symm
          exact ⟨⟨c :: cs', (utf8_cons c cs').symm⟩, hafter⟩
  · rintro ⟨⟨cs, rfl⟩, ⟨cs', rfl⟩⟩
    have hchar := toNat_charOfByte b
    refine ⟨cs ++ Char.ofNat b.toNat :: cs', ?_⟩
    rw [utf8_append, utf8_cons, utf8EncodeChar_of_lt (by omega), hchar]
    simp

end Percent

namespace Reference

open Percent

/-! ## Signs in front of digits -/

/-- A plus sign and a hexadecimal digit, and the byte of the value of the digit. -/
def SignPair (x y b : UInt8) : Prop := x = 0x2B ∧ HexByte y b.toNat

/-- Two bytes that a fragment takes for a byte, behind a percent sign. -/
def FragmentPair (x y b : UInt8) : Prop := HexPair x y b ∨ SignPair x y b

/-- A percent sign is in front of a plus sign and a hexadecimal digit. -/
def HasSignedEscape (bytes : List UInt8) : Prop := ∃ y n, HexByte y n ∧ [0x25, 0x2B, y] <:+: bytes

variable {x y b : UInt8} {n : Nat} {bytes decoded decoded' : List UInt8}

theorem SignPair.lt (h : SignPair x y b) : b.toNat < 16 := h.2.lt

theorem FragmentPair.unique {c : UInt8} (h : FragmentPair x y b) (h' : FragmentPair x y c) :
    b = c := by
  rcases h with h | h <;> rcases h' with h' | h'
  · exact h.unique h'
  · exact absurd h'.1 h.ne.2.1
  · exact absurd h.1 h'.ne.2.1
  · exact UInt8.toNat_inj.mp (h.2.unique h'.2)

theorem fragmentPair_iff : FragmentPair x y b ↔
    ∃ m n, leadingHex? x = some m ∧ byteHexValue? y = some n ∧ b.toNat = 16 * m + n := by
  have hplus : ¬∃ m, HexByte 0x2B m := fun ⟨m, hm⟩ => hm.ne_plus rfl
  simp only [FragmentPair, SignPair, HexPair, leadingHex?, byteHexValue?_eq_some_iff]
  by_cases hx : x = 0x2B
  · subst hx
    constructor
    · rintro (⟨m, n, hm, -⟩ | ⟨-, hy⟩)
      · exact absurd ⟨m, hm⟩ hplus
      · exact ⟨0, b.toNat, rfl, hy, by omega⟩
    · rintro ⟨m, n, hm, hy, hb⟩
      obtain rfl : 0 = m := by simpa using hm
      obtain rfl : b.toNat = n := by omega
      exact .inr ⟨rfl, hy⟩
  · simp [hx, byteHexValue?_eq_some_iff]

theorem leadingHex?_lt (h : leadingHex? x = some n) : n < 16 := by
  unfold leadingHex? at h
  split at h
  · cases h
    decide
  · exact (byteHexValue?_eq_some_iff.mp h).lt

theorem decodes_unescape (bytes : List UInt8) : Decodes FragmentPair bytes (unescape bytes) := by
  fun_induction unescape bytes with
  | case1 x y rest m n hn hm ih =>
      have hlt := leadingHex?_lt hm
      have hlt' := (byteHexValue?_eq_some_iff.mp hn).lt
      exact .escape (fragmentPair_iff.mpr ⟨m, n, hm, hn, toNat_toUInt8 (by omega)⟩) ih
  | case2 x y rest hnone ih =>
      refine .copy ?_ ih
      rintro _ _ _ _ ⟨⟩ hpair
      obtain ⟨m, n, hx, hy, -⟩ := fragmentPair_iff.mp hpair
      exact hnone m n hx hy
  | case3 b rest hnone ih =>
      refine .copy ?_ ih
      rintro x y _ rest' ⟨⟩ -
      exact hnone x y rest' rfl rfl
  | case4 => exact .nil

theorem hasSignedEscape_cons_iff : HasSignedEscape (b :: bytes) ↔
    (∃ y n rest, HexByte y n ∧ b :: bytes = 0x25 :: 0x2B :: y :: rest) ∨ HasSignedEscape bytes := by
  constructor
  · rintro ⟨y, n, hy, hwithin⟩
    rcases List.infix_cons_iff.mp hwithin with ⟨rest, hrest⟩ | hwithin
    · exact .inl ⟨y, n, rest, hy, hrest.symm⟩
    · exact .inr ⟨y, n, hy, hwithin⟩
  · rintro (⟨y, n, rest, hy, hrest⟩ | ⟨y, n, hy, hwithin⟩)
    · exact ⟨y, n, hy, List.IsPrefix.isInfix ⟨rest, hrest.symm⟩⟩
    · exact ⟨y, n, hy, hwithin.trans (List.suffix_cons b bytes).isInfix⟩

theorem SignPair.hasSignedEscape (h : SignPair x y b) (bytes : List UInt8) :
    HasSignedEscape (0x25 :: x :: y :: bytes) := by
  obtain ⟨rfl, hy⟩ := h
  exact hasSignedEscape_cons_iff.mpr (.inl ⟨y, b.toNat, bytes, hy, rfl⟩)

/-- An escape of two digits has no sign in it. -/
theorem hasSignedEscape_hexPair (h : HexPair x y b) :
    HasSignedEscape (0x25 :: x :: y :: bytes) ↔ HasSignedEscape bytes := by
  obtain ⟨hx, hplus, hy⟩ := h.ne
  simp [hasSignedEscape_cons_iff, hx, hplus, hy]

/-- Where no escape is read, none is signed. -/
theorem hasSignedEscape_copy
    (hnone : ∀ x y c rest, b :: bytes = 0x25 :: x :: y :: rest → ¬FragmentPair x y c) :
    HasSignedEscape (b :: bytes) ↔ HasSignedEscape bytes := by
  rw [hasSignedEscape_cons_iff, or_iff_right]
  rintro ⟨y, n, rest, hy, hrest⟩
  have hn := hy.lt
  refine hnone _ y n.toUInt8 rest hrest (.inr ⟨rfl, ?_⟩)
  rwa [toNat_toUInt8 (by omega)]

/-- As a part of a URL, bytes with a signed escape in front are copied. -/
theorem SignPair.decodes (h : SignPair x y b)
    (hdecodes : Decodes HexPair (0x25 :: x :: y :: bytes) decoded) :
    ∃ rest, decoded = 0x25 :: x :: y :: rest ∧ Decodes HexPair bytes rest := by
  obtain ⟨rfl, hy⟩ := h
  obtain ⟨_, rfl, hplus⟩ := hdecodes.of_copy fun _ _ _ _ heq hpair => by
    cases heq
    exact hpair.ne.2.1 rfl
  obtain ⟨_, rfl, hdigit⟩ := hplus.of_copy fun _ _ _ _ heq _ =>
    absurd (List.cons.inj heq).1 (by decide)
  obtain ⟨rest, rfl, hrest⟩ := hdigit.of_copy fun _ _ _ _ heq _ =>
    hy.ne_percent (List.cons.inj heq).1
  exact ⟨rest, rfl, hrest⟩

/-- A fragment is read as any part of a URL if and only if it has no signed escape. -/
theorem decodes_hexPair_iff (h : Decodes FragmentPair bytes decoded) :
    Decodes HexPair bytes decoded ↔ ¬HasSignedEscape bytes := by
  induction h with
  | nil => exact iff_of_true .nil fun ⟨_, _, _, hwithin⟩ => by simp at hwithin
  | @escape x y b bytes decoded hpair h ih =>
      rcases hpair with hpair | hpair
      · rw [hasSignedEscape_hexPair hpair, ← ih]
        constructor
        · intro h
          obtain ⟨c, rest, -, heq, h⟩ := h.of_escape hpair
          exact (List.cons.inj heq).2 ▸ h
        · exact .escape hpair
      · refine iff_of_false (fun h => ?_) (not_not_intro (hpair.hasSignedEscape bytes))
        obtain ⟨rest, heq, -⟩ := hpair.decodes h
        have hlt := hpair.lt
        rw [(List.cons.inj heq).1] at hlt
        exact absurd hlt (by decide)
  | @copy b bytes decoded hnone h ih =>
      have hhex x y c rest (heq : b :: bytes = 0x25 :: x :: y :: rest) : ¬HexPair x y c :=
        fun hpair => hnone x y c rest heq (.inl hpair)
      rw [hasSignedEscape_copy hnone, ← ih]
      constructor
      · intro h
        obtain ⟨rest, heq, h⟩ := h.of_copy hhex
        exact (List.cons.inj heq).2 ▸ h
      · exact .copy hhex

/-- A signed escape is read as one byte of ASCII or as three, which makes no difference to the text
around it. -/
theorem isText_append_iff (h : Decodes FragmentPair bytes decoded)
    (h' : Decodes HexPair bytes decoded') (before : List UInt8) :
    IsText (before ++ decoded) ↔ IsText (before ++ decoded') := by
  induction h generalizing before decoded' with
  | nil =>
      cases h'
      rfl
  | @escape x y b bytes decoded hpair h ih =>
      rcases hpair with hpair | hpair
      · obtain ⟨c, rest, hpair', rfl, hrest⟩ := h'.of_escape hpair
        rw [← hpair.unique hpair']
        simpa using ih hrest (before ++ [b])
      · obtain ⟨rest, rfl, hrest⟩ := hpair.decodes h'
        obtain ⟨rfl, hy⟩ := hpair
        have hlt := hy.lt
        have hrange := hy.range
        have hnil : IsText [] := ⟨[], rfl⟩
        have hplus := isText_append_cons (b := 0x2B) (by decide) [] (y :: rest)
        have hdigit := isText_append_cons (b := y) (by omega) [] rest
        rw [List.nil_append] at hplus hdigit
        rw [isText_append_cons (by omega), isText_append_cons (by decide), hplus, hdigit]
        simpa [hnil] using fun _ => ih hrest []
  | @copy b bytes decoded hnone h ih =>
      obtain ⟨rest, rfl, hrest⟩ := h'.of_copy fun x y c rest heq hpair =>
        hnone x y c rest heq (.inl hpair)
      simpa using ih hrest (before ++ [b])

/-! ## Texts -/

/-- The bytes that a fragment stands for as any part of a URL, read from left to right, are one list
of bytes. The fragment is not UTF-8 if and only if these are not. What it stands for is the text
that they write unless an escape in it is signed, and in all cases the text whose bytes are read
with signed pairs. A text that was encoded comes back. -/
theorem unescapeText?_exact (s : String) :
    (∃ decoded, (∀ bytes, Decodes HexPair (utf8 s.toList) bytes ↔ bytes = decoded) ∧
      (unescapeText? s = none ↔ ofUtf8? decoded = none) ∧
      (unescapeText? s = ofUtf8? decoded ↔
        unescapeText? s = none ∨ ¬HasSignedEscape (utf8 s.toList))) ∧
    (∀ text, unescapeText? s = some text ↔
      Decodes FragmentPair (utf8 s.toList) (utf8 text.toList)) ∧
    ∀ text : String, Encodes (utf8 text.toList) (utf8 s.toList) → unescapeText? s = some text := by
  have hfragment := decodes_unescape (utf8 s.toList)
  have hurl := decodes_decodeBytes (utf8 s.toList)
  have hnone : unescapeText? s = none ↔ ofUtf8? (decodeBytes (utf8 s.toList)) = none := by
    rw [unescapeText?, ofUtf8?_eq_none_iff, ofUtf8?_eq_none_iff]
    exact not_congr (isText_append_iff hfragment hurl [])
  have hsome text : unescapeText? s = some text ↔
      Decodes FragmentPair (utf8 s.toList) (utf8 text.toList) := by
    rw [unescapeText?, ofUtf8?_eq_some_iff]
    refine ⟨fun h => h ▸ hfragment, fun h => ?_⟩
    exact hfragment.unique h fun _ _ _ _ => FragmentPair.unique
  refine ⟨⟨decodeBytes (utf8 s.toList), fun _ => decodes_iff, hnone, ?_⟩, hsome, ?_⟩
  · cases htext : unescapeText? s with
    | none => simp [hnone.mp htext]
    | some text =>
        have hread := (hsome text).mp htext
        rw [eq_comm, ofUtf8?_eq_some_iff, eq_comm, ← decodes_iff, decodes_hexPair_iff hread]
        simp
  · exact fun text h => (hsome text).mpr (h.decodes fun _ _ _ => .inl)

/-- The signs, and digits in lower case, of what was encoded make no difference. -/
theorem unescapeText?_accented :
    Encodes (utf8 "é%+5".toList) (utf8 "%c3%A9%25+5".toList) ∧
      unescapeText? "%c3%A9%25+5" = some "é%+5" := by
  have hencodes : Encodes (utf8 "é%+5".toList) (utf8 "%c3%A9%25+5".toList) := by
    have htext : utf8 "é%+5".toList = [0xC3, 0xA9, 0x25, 0x2B, 0x35] := by decide +kernel
    have hwritten : utf8 "%c3%A9%25+5".toList =
        [0x25, 0x63, 0x33, 0x25, 0x41, 0x39, 0x25, 0x32, 0x35, 0x2B, 0x35] := by decide +kernel
    have hlead : HexPair 0x63 0x33 0xC3 :=
      ⟨12, 3, .lower (n := 2) (by decide) rfl, .digit (by decide) rfl, rfl⟩
    have hnext : HexPair 0x41 0x39 0xA9 :=
      ⟨10, 9, .upper (n := 0) (by decide) rfl, .digit (by decide) rfl, rfl⟩
    have hpercent : HexPair 0x32 0x35 0x25 :=
      ⟨2, 5, .digit (by decide) rfl, .digit (by decide) rfl, rfl⟩
    rw [htext, hwritten]
    exact .escape hlead (.escape hnext (.escape hpercent
      (.copy (by decide) (.copy (by decide) .nil))))
  exact ⟨hencodes, (unescapeText?_exact "%c3%A9%25+5").2.2 "é%+5" hencodes⟩

/-- A percent sign in front of a plus sign and a digit is read as an escape in a fragment, and is
none in any other part of a URL. -/
theorem unescapeText?_signed :
    unescapeText? "/%+5" = some "/\x05" ∧
      Decodes HexPair (utf8 "/%+5".toList) (utf8 "/%+5".toList) ∧
      ofUtf8? (utf8 "/%+5".toList) = some "/%+5" := by
  refine ⟨?_, decodes_iff.mpr (by decide +kernel), ofUtf8?_eq_some_iff.mpr rfl⟩
  rw [unescapeText?, ofUtf8?_eq_some_iff]
  decide +kernel

end Reference
end JsonSchema
