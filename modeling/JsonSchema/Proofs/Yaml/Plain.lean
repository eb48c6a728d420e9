import JsonSchema.Proofs.Yaml.Numeral
import JsonSchema.Yaml.Json

/-!
# Scalars read what keys are written as

The text of a key that is no string, read as a plain scalar, is the key itself. So the texts of two
such keys differ wherever the keys do.
-/

namespace JsonSchema.Yaml

open Pointer (isDigit_of_mem_toDigits head?_toDigits_ne all_isDigit_toDigits digitsValue_toDigits)

variable {cs : List Char} {negative : Bool} {c : Char}

/-! ## Whole numbers -/

theorem hexValue?_of_isDigit (h : isDigit c = true) : hexValue? c = some (c.toNat - 48) := by
  rw [hexValue?, if_pos (by simpa [isDigit] using h)]

/-- A character that is no digit of radix ten has no value below ten. -/
theorem ten_le_of_hexValue? {d : Nat} (h : isDigit c = false) (hd : hexValue? c = some d) :
    10 ≤ d := by
  rw [hexValue?, if_neg (by simpa [isDigit] using h)] at hd
  simp only [Char.le_def, UInt32.le_iff_toNat_le] at hd
  split_ifs at hd with hsmall hlarge
  · have hlow : 97 ≤ c.toNat := hsmall.1
    have hvalue := Option.some_inj.mp hd
    omega
  · have hlow : 65 ≤ c.toNat := hlarge.1
    have hvalue := Option.some_inj.mp hd
    omega

theorem addDigit?_ten (n : Nat) (c : Char) :
    addDigit? 10 n c = if isDigit c then some (10 * n + (c.toNat - 48)) else none := by
  cases hdigit : isDigit c with
  | true =>
      have hlt := (Pointer.exists_digit_of_isDigit hdigit).1
      simp [addDigit?, hexValue?_of_isDigit hdigit, hlt]
  | false =>
      cases hd : hexValue? c with
      | none => simp [addDigit?, hd]
      | some d =>
          have hle := ten_le_of_hexValue? hdigit hd
          simp [addDigit?, hd, hle]

/-- Digits of radix ten write a number, and nothing else does. -/
theorem natural?_ten (ds : List Char) :
    natural? 10 ds = if ds ≠ [] ∧ ds.all isDigit then some (digitsValue ds) else none := by
  have hfold (n : Nat) : ds.foldlM (addDigit? 10) n =
      if ds.all isDigit then some (ds.foldl (fun n c => 10 * n + (c.toNat - 48)) n) else none := by
    induction ds generalizing n with
    | nil => rfl
    | cons c ds ih =>
        rw [List.foldlM_cons, addDigit?_ten, List.all_cons, List.foldl_cons]
        cases isDigit c with
        | true => exact ih _
        | false => rfl
  cases ds with
  | nil => rfl
  | cons c ds =>
      rw [natural?, hfold 0]
      simp only [List.isEmpty_cons, Bool.false_eq_true, if_false, ne_eq, reduceCtorEq,
        not_false_eq_true, true_and, digitsValue]

/-- The characters of a number without its sign: it begins with a digit, has none of the letters
that mark a radix, and no zero in front of other digits. -/
structure Unsigned (cs : List Char) : Prop where
  head : cs.head?.any isDigit = true
  mem : ∀ c ∈ cs, isDigit c = true ∨ c ∈ ['.', 'e', '-']
  zero : cs.all isDigit = true → cs.head? = some '0' → cs.length ≤ 1

theorem radixNumber?_unsigned (h : Unsigned cs) : radixNumber? cs = natural? 10 cs := by
  have hx : 'x' ∉ cs := fun hmem => by simpa [isDigit] using h.mem _ hmem
  have ho : 'o' ∉ cs := fun hmem => by simpa [isDigit] using h.mem _ hmem
  have hb : 'b' ∉ cs := fun hmem => by simpa [isDigit] using h.mem _ hmem
  unfold radixNumber?
  split <;> simp_all

theorem hasLeadingZero_signed (h : Unsigned cs) : hasLeadingZero (signed negative cs) = false := by
  rw [hasLeadingZero, splitSign_signed h.head]
  split
  · next c rest heq =>
      obtain rfl : cs = '0' :: c :: rest := heq
      by_contra hall
      have hlength := h.zero (Bool.eq_true_of_not_eq_false hall) rfl
      simp at hlength
  · rfl

/-- Behind a sign, digits write a whole number, and a decimal does not. -/
theorem integer?_signed (h : Unsigned cs)
    (hsmall : cs.all isDigit = true → digitsValue cs < 0x10000000000000000) :
    integer? (signed negative cs) = if cs.all isDigit then
      some (if negative then -(digitsValue cs : Int) else digitsValue cs) else none := by
  have hne : cs ≠ [] := by
    rintro rfl
    cases h.head
  simp only [integer?, splitSign_signed h.head, hasLeadingZero_signed h, radixNumber?_unsigned h,
    natural?_ten]
  cases hall : cs.all isDigit with
  | false => simp
  | true =>
      have hlt := hsmall hall
      have hle : digitsValue cs ≤ 0x80000000000000000000000000000000 := by omega
      have hlt' : digitsValue cs < 0x100000000000000000000000000000000 := by omega
      cases negative <;> simp [hne, hle, hlt']

/-! ## Plain scalars -/

/-- Whether a text begins with a digit, behind any sign. -/
def beginsNumber (s : String) : Bool := (splitSign s.toList).2.head?.any isDigit

theorem contains_eq_false {words : List String} {s : String} (hs : beginsNumber s = true)
    (hwords : words.all (!beginsNumber ·) = true) : words.contains s = false := by
  rw [List.contains_eq_mem, decide_eq_false_iff_not]
  intro hmem
  simpa [hs] using List.all_eq_true.mp hwords s hmem

/-- A plain scalar that begins with a digit is a number, if it is written like one. -/
theorem ofPlain?_signed {s : String} (h : Unsigned cs) (hs : s.toList = signed negative cs) :
    ofPlain? s = (integer? (signed negative cs)).elim
      (some (((decimal? (signed negative cs)).map fun x => .number (.float x)).getD (.string s)))
      ofInteger? := by
  have hbegins : beginsNumber s = true := by
    rw [beginsNumber, hs, splitSign_signed h.head]
    exact h.head
  have hempty : s ≠ "" := by
    rintro rfl
    cases hbegins
  have hnull : isNullText s = false := contains_eq_false hbegins (by decide)
  have hbool : boolean? s = none := by
    rw [boolean?, contains_eq_false hbegins (by decide), contains_eq_false hbegins (by decide)]
    rfl
  have hplus : withoutPlus (signed negative cs) = signed negative cs ∧
      hasOneSign (signed negative cs) = true := by
    cases negative with
    | true => exact ⟨rfl, rfl⟩
    | false =>
        cases cs with
        | nil => exact ⟨rfl, rfl⟩
        | cons c rest =>
            have hne := (ne_sign_of_head h.head).2
            simp [signed, withoutPlus, hasOneSign, hne]
  have hfloat : float? s = (decimal? (signed negative cs)).map fun x => .number (.float x) := by
    have hbare : String.ofList (withoutPlus (signed negative cs)) = s := by
      rw [hplus.1, ← hs, String.ofList_toList]
    have hinfinity : [".inf", ".Inf", ".INF"].contains s = false :=
      contains_eq_false hbegins (by decide)
    have hminus : ["-.inf", "-.Inf", "-.INF"].contains s = false :=
      contains_eq_false hbegins (by decide)
    have hnan : [".nan", ".NaN", ".NAN"].contains s = false :=
      contains_eq_false hbegins (by decide)
    simp only [float?, hs, hbare, hplus.2, hinfinity, hminus, hnan, not_true_eq_false,
      Bool.false_eq_true, if_false]
  cases hinteger : integer? (signed negative cs) <;>
    simp only [ofPlain?, hempty, hnull, hbool, hs, hinteger, hasLeadingZero_signed h,
      hfloat, Bool.false_eq_true, or_self, if_false, Option.elim_none, Option.elim_some]

/-! ## The texts of keys -/

theorem unsigned_toDigits (n : Nat) : Unsigned (Nat.toDigits 10 n) := by
  refine ⟨head?_toDigits n, fun c hc => .inl (isDigit_of_mem_toDigits hc), fun _ hhead => ?_⟩
  have hzero : n = 0 := by
    by_contra hne
    exact head?_toDigits_ne (Nat.pos_of_ne_zero hne) hhead
  rw [hzero]
  decide

theorem ofPlain?_integer (n : Int) (fits : FitsWord n) :
    ofPlain? (toString n) = some (.number (.integer n fits)) := by
  have hunsigned := unsigned_toDigits n.natAbs
  have hsmall : digitsValue (Nat.toDigits 10 n.natAbs) < 0x10000000000000000 := by
    rw [digitsValue_toDigits]
    unfold FitsWord at fits
    omega
  rw [ofPlain?_signed hunsigned (toList_toString n), integer?_signed hunsigned fun _ => hsmall,
    all_isDigit_toDigits, digitsValue_toDigits]
  simp only [signed_natAbs, if_true, Option.elim_some, ofInteger?, dif_pos fits]

theorem unsigned_text (n : Numeral) : Unsigned n.text := by
  refine ⟨n.head?_text, fun _ => n.mem_text, fun hall => ?_⟩
  rw [n.all_isDigit_text] at hall
  cases hall

theorem ofPlain?_float (x : Binary64) :
    ofPlain? (Decimal.Layout.yaml.text x) = some (.number (.float x)) := by
  obtain ⟨n, htext, hread⟩ := exists_numeral_text x
  have hunsigned := unsigned_text n
  have hnone : integer? (signed x.negative n.text) = none := by
    rw [integer?_signed hunsigned, n.all_isDigit_text]
    · rfl
    · rw [n.all_isDigit_text]
      nofun
  rw [ofPlain?_signed hunsigned htext, hnone, n.decimal?_text, hread]
  rfl

/-- The text of a key that is no string is read as the key. -/
theorem ofPlain?_keyText {key : Yaml} {s : String} (hkey : keyText key = .ok s)
    (hstring : ∀ t, key ≠ string t) : ofPlain? s = some key := by
  cases key with
  | bool b =>
      cases hkey
      cases b <;> rfl
  | number n =>
      cases hkey
      cases n with
      | integer n fits => exact ofPlain?_integer n fits
      | float x => exact ofPlain?_float x
  | nonFinite x =>
      cases hkey
      rcases x with ⟨negative⟩ | _
      · cases negative <;> rfl
      · rfl
  | string t => exact absurd rfl (hstring t)
  | null | sequence items | mapping entries | tagged tag content => cases hkey

end JsonSchema.Yaml
