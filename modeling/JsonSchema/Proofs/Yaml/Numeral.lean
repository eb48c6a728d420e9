import JsonSchema.Decimal.Layout
import JsonSchema.Proofs.Decimal.Reading
import JsonSchema.Proofs.Value.Position
import JsonSchema.Yaml.Scalar

/-!
# Written decimals

A decimal is written as digits, digits behind a point, and an exponent. It is read as these say, and
the text of a double is one that is read as the double.
-/

namespace JsonSchema.Yaml

open Pointer (isDigit_of_mem_toDigits all_isDigit_toDigits digitsValue_toDigits)

variable {cs ds tail : List Char} {negative : Bool} {c : Char}

/-! ## Digits and signs -/

theorem digitsValue_append_zeros (ds : List Char) (n : Nat) :
    digitsValue (ds ++ List.replicate n '0') = digitsValue ds * 10 ^ n := by
  induction n with
  | zero => simp
  | succ n ih =>
      rw [List.replicate_succ', ← List.append_assoc, Pointer.digitsValue_append, ih]
      simp only [Char.reduceToNat, Nat.sub_self, Nat.add_zero]
      ring

theorem digitsValue_zeros_append (n : Nat) (ds : List Char) :
    digitsValue (List.replicate n '0' ++ ds) = digitsValue ds := by
  induction n with
  | zero => rfl
  | succ n ih => exact ih

/-- The digits in front of something that is no digit. -/
theorem digitsOf_append (hds : ds.all isDigit = true) (htail : tail.head?.any isDigit = false) :
    digitsOf (ds ++ tail) = ds := by
  rw [digitsOf, List.takeWhile_append_of_pos (List.all_eq_true.mp hds)]
  cases tail with
  | nil => simp
  | cons c tail => simpa [List.takeWhile_cons] using htail

/-- Some characters behind a minus sign, or alone. -/
def signed (negative : Bool) (cs : List Char) : List Char := if negative then '-' :: cs else cs

theorem mem_signed (h : c ∈ signed negative cs) : c = '-' ∨ c ∈ cs := by
  cases negative with
  | true => exact List.mem_cons.mp h
  | false => exact .inr h

theorem ne_sign_of_head {rest : List Char} (h : (c :: rest).head?.any isDigit = true) :
    c ≠ '-' ∧ c ≠ '+' := by
  constructor <;> rintro rfl <;> cases h

theorem splitSign_signed (h : cs.head?.any isDigit = true) :
    splitSign (signed negative cs) = (negative, cs) := by
  cases negative with
  | true => rfl
  | false =>
      cases cs with
      | nil => cases h
      | cons c rest =>
          obtain ⟨hminus, hplus⟩ := ne_sign_of_head h
          simp [signed, splitSign, withoutPlus, hminus, hplus]

theorem toList_toString (n : Int) :
    (toString n).toList = signed (decide (n < 0)) (Nat.toDigits 10 n.natAbs) := by
  rw [Int.toString_eq_repr, Int.repr_eq_if]
  by_cases hn : 0 ≤ n
  · have habs : n.toNat = n.natAbs := by omega
    simp [signed, hn, habs, Nat.repr_eq_ofList_toDigits]
  · have habs : (-n).toNat = n.natAbs := by omega
    simp [signed, hn, habs, Nat.repr_eq_ofList_toDigits]

theorem signed_natAbs (n : Int) :
    (if decide (n < 0) = true then -(n.natAbs : Int) else n.natAbs) = n := by
  simp only [decide_eq_true_eq]
  split <;> omega

theorem head?_toDigits (n : Nat) : (Nat.toDigits 10 n).head?.any isDigit = true := by
  obtain ⟨c, rest, h⟩ := List.exists_cons_of_ne_nil (Nat.toDigits_ne_nil (b := 10) (n := n))
  rw [h]
  exact isDigit_of_mem_toDigits (h ▸ List.mem_cons_self)

/-! ## Decimals -/

/-- A decimal as it is written: digits, digits behind a point, and an exponent. -/
structure Numeral where
  whole : List Char
  fraction : List Char
  exponent : Option Int
  whole_ne_nil : whole ≠ []
  whole_digits : whole.all isDigit = true
  fraction_digits : fraction.all isDigit = true
  isDecimal : fraction ≠ [] ∨ exponent.isSome = true

namespace Numeral

/-- Digits behind a point; nothing if there are none. -/
def pointed : List Char → List Char
  | [] => []
  | ds => '.' :: ds

/-- An exponent behind its mark. -/
def marked : Option Int → List Char
  | none => []
  | some e => 'e' :: (toString e).toList

def text (n : Numeral) : List Char := n.whole ++ pointed n.fraction ++ marked n.exponent

/-- The digits of the decimal, which has as many places as there are digits behind the point. -/
def digits (n : Numeral) : Nat := digitsValue (n.whole ++ n.fraction)

/-- The exponent of the last digit. -/
def scale (n : Numeral) : Int := n.exponent.getD 0 - n.fraction.length

theorem mem_pointed (h : c ∈ pointed ds) : c = '.' ∨ c ∈ ds := by
  cases ds with
  | nil => cases h
  | cons d ds => exact List.mem_cons.mp h

theorem digitsOf_marked (hds : ds.all isDigit = true) (exponent : Option Int) :
    digitsOf (ds ++ marked exponent) = ds := by
  cases exponent with
  | none => exact digitsOf_append hds rfl
  | some e => exact digitsOf_append hds rfl

variable (n : Numeral)

theorem head?_text : n.text.head?.any isDigit = true := by
  obtain ⟨c, rest, hwhole⟩ := List.exists_cons_of_ne_nil n.whole_ne_nil
  have hdigits := n.whole_digits
  rw [hwhole, List.all_cons, Bool.and_eq_true] at hdigits
  simp [text, hwhole, hdigits.1]

theorem mem_text (h : c ∈ n.text) : isDigit c = true ∨ c ∈ ['.', 'e', '-'] := by
  rw [text, List.append_assoc, List.mem_append, List.mem_append] at h
  rcases h with hwhole | hpointed | hmarked
  · exact .inl (List.all_eq_true.mp n.whole_digits c hwhole)
  · rcases mem_pointed hpointed with rfl | hfraction
    · simp
    · exact .inl (List.all_eq_true.mp n.fraction_digits c hfraction)
  · cases hexponent : n.exponent with
    | none => simp [hexponent, marked] at hmarked
    | some e =>
        rw [hexponent, marked, toList_toString, List.mem_cons] at hmarked
        rcases hmarked with rfl | hmarked
        · simp
        · rcases mem_signed hmarked with rfl | hdigit
          · simp
          · exact .inl (isDigit_of_mem_toDigits hdigit)

/-- No decimal is written as a whole number. -/
theorem all_isDigit_text : n.text.all isDigit = false := by
  rw [List.all_eq_false]
  rcases n.isDecimal with hfraction | hexponent
  · obtain ⟨c, rest, hcons⟩ := List.exists_cons_of_ne_nil hfraction
    exact ⟨'.', by simp [text, hcons, pointed], by decide⟩
  · obtain ⟨e, he⟩ := Option.isSome_iff_exists.mp hexponent
    exact ⟨'e', by simp [text, he, marked], by decide⟩

theorem exponent?_marked (exponent : Option Int) :
    exponent? (marked exponent) = some (exponent.getD 0) := by
  cases exponent with
  | none => rfl
  | some e =>
      have hhead := head?_toDigits e.natAbs
      simp only [marked, exponent?, toList_toString, splitSign_signed hhead, all_isDigit_toDigits,
        digitsValue_toDigits]
      have hne : (Nat.toDigits 10 e.natAbs).isEmpty = false := by
        rw [List.isEmpty_eq_false_iff]
        exact Nat.toDigits_ne_nil
      simp only [hne, signed_natAbs, true_or, Bool.false_eq_true, not_false_eq_true, and_self,
        if_true, Option.getD_some]

theorem decimal?_text : decimal? (signed negative n.text) =
    Binary64.ofDecimal negative n.digits n.scale := by
  have hwhole : digitsOf n.text = n.whole := by
    rw [text, List.append_assoc]
    cases hcons : n.fraction with
    | nil => exact digitsOf_marked n.whole_digits n.exponent
    | cons d ds => exact digitsOf_append n.whole_digits rfl
  have hfraction : splitFraction (pointed n.fraction ++ marked n.exponent) =
      (n.fraction, marked n.exponent) := by
    cases hcons : n.fraction with
    | nil => cases n.exponent <;> rfl
    | cons d ds =>
        have hdigits := digitsOf_marked n.fraction_digits n.exponent
        rw [hcons] at hdigits
        rw [pointed, List.cons_append, splitFraction, hdigits, List.drop_left]
        nofun
  have hdrop : n.text.drop n.whole.length = pointed n.fraction ++ marked n.exponent := by
    rw [text, List.append_assoc, List.drop_left]
  simp only [decimal?, splitSign_signed n.head?_text, hwhole, hdrop, hfraction, exponent?_marked]
  simp [n.whole_ne_nil, digits, scale]

end Numeral

/-! ## The texts of doubles -/

variable {d : Decimal}

/-- A numeral that stands for a decimal. -/
def Numeral.Denotes (n : Numeral) (d : Decimal) : Prop :=
  n.digits * (10 : ℚ) ^ n.scale = d.value

/-- Zeros behind the digits are made up for by the exponent. -/
theorem Numeral.denotes_of_zeros {n : Numeral} (zeros : Nat)
    (hdigits : n.digits = d.digits * 10 ^ zeros) (hscale : n.scale + zeros = d.exponent) :
    n.Denotes d := by
  rw [Denotes, Decimal.value, hdigits, ← hscale, zpow_add₀ (by norm_num), zpow_natCast]
  push_cast
  ring

/-- A whole number has its zeros and one digit behind the point. -/
theorem exists_numeral_whole (h : 0 ≤ d.exponent) : ∃ n : Numeral,
    (Decimal.Layout.yaml.fixed d).toList = n.text ∧ n.Denotes d := by
  refine ⟨⟨Nat.toDigits 10 d.digits ++ List.replicate d.exponent.toNat '0', ['0'], none,
    List.append_ne_nil_of_left_ne_nil Nat.toDigits_ne_nil _,
    by simp [all_isDigit_toDigits, isDigit], rfl, .inl (List.cons_ne_nil _ _)⟩, ?_,
    Numeral.denotes_of_zeros (d.exponent.toNat + 1) ?_ ?_⟩
  · rw [Decimal.Layout.fixed, if_pos h]
    simp [Decimal.Layout.yaml, Numeral.text, Numeral.pointed, Numeral.marked]
  · simp only [Numeral.digits, List.append_assoc]
    rw [← List.replicate_succ', digitsValue_append_zeros, digitsValue_toDigits]
  · simp only [Numeral.scale, Option.getD_none, List.length_singleton]
    omega

/-- The last digits stand behind the point, with zeros in front of them where there are too few. -/
theorem exists_numeral_places (h : d.exponent < 0) : ∃ n : Numeral,
    (Decimal.Layout.yaml.fixed d).toList = n.text ∧ n.Denotes d := by
  rw [Decimal.Layout.fixed, if_neg h.not_ge]
  dsimp only
  generalize hpadded : List.replicate ((-d.exponent).toNat + 1 -
    (Nat.toDigits 10 d.digits).length) '0' ++ Nat.toDigits 10 d.digits = padded
  have hlength : (-d.exponent).toNat < padded.length := by
    rw [← hpadded, List.length_append, List.length_replicate]
    omega
  have hvalue : digitsValue padded = d.digits := by
    rw [← hpadded, digitsValue_zeros_append, digitsValue_toDigits]
  have hdigits : ∀ c ∈ padded, isDigit c = true := by
    apply List.all_eq_true.mp
    rw [← hpadded]
    simp [all_isDigit_toDigits, isDigit]
  have hwhole : padded.take (padded.length - (-d.exponent).toNat) ≠ [] := by
    intro hnil
    have hzero := congrArg List.length hnil
    rw [List.length_take, List.length_nil] at hzero
    omega
  have hfraction : padded.drop (padded.length - (-d.exponent).toNat) ≠ [] := by
    intro hnil
    have hle := List.drop_eq_nil_iff.mp hnil
    omega
  refine ⟨⟨_, _, none, hwhole, ?_, ?_, .inl hfraction⟩, ?_, Numeral.denotes_of_zeros 0 ?_ ?_⟩
  · exact List.all_eq_true.mpr fun c hc => hdigits c (List.mem_of_mem_take hc)
  · exact List.all_eq_true.mpr fun c hc => hdigits c (List.mem_of_mem_drop hc)
  · obtain ⟨c, rest, hcons⟩ := List.exists_cons_of_ne_nil hfraction
    simp [Numeral.text, hcons, Numeral.pointed, Numeral.marked]
  · simp [Numeral.digits, hvalue]
  · simp only [Numeral.scale, Option.getD_none, List.length_drop]
    omega

/-- With one digit in front of the point the exponent is that of the leading digit. -/
theorem exists_numeral_scientific (d : Decimal) : ∃ n : Numeral,
    (Decimal.Layout.yaml.scientific d
      (d.exponent + (Nat.toDigits 10 d.digits).length - 1)).toList = n.text ∧ n.Denotes d := by
  obtain ⟨first, rest, hcons⟩ :=
    List.exists_cons_of_ne_nil (Nat.toDigits_ne_nil (b := 10) (n := d.digits))
  have hdigits := all_isDigit_toDigits d.digits
  have hvalue := digitsValue_toDigits d.digits
  rw [hcons] at hdigits hvalue
  rw [List.all_cons, Bool.and_eq_true] at hdigits
  refine ⟨⟨[first], rest, some (d.exponent + (Nat.toDigits 10 d.digits).length - 1),
    List.cons_ne_nil _ _, by simp [hdigits.1], hdigits.2, .inr rfl⟩, ?_,
    Numeral.denotes_of_zeros 0 ?_ ?_⟩
  · generalize d.exponent + (Nat.toDigits 10 d.digits).length - 1 = leading
    have hexponent : (if leading < 0 then "-" ++ toString leading.natAbs
        else "" ++ toString leading.natAbs).toList = (toString leading).toList := by
      rw [toList_toString]
      split <;> simp [signed, *]
    simp only [Decimal.Layout.scientific, Decimal.Layout.yaml, String.toList_append, hexponent,
      hcons, Numeral.text, Numeral.marked]
    cases rest <;> simp [Numeral.pointed]
  · simp [Numeral.digits, hvalue]
  · simp only [Numeral.scale, Option.getD_some, hcons, List.length_cons]
    omega

theorem exists_numeral_decimal (d : Decimal) : ∃ n : Numeral,
    (Decimal.Layout.yaml.decimal d).toList = n.text ∧ n.Denotes d := by
  have hdecimal : Decimal.Layout.yaml.decimal d =
      if -5 ≤ d.exponent + (Nat.toDigits 10 d.digits).length - 1 ∧
          d.exponent + (Nat.toDigits 10 d.digits).length - 1 ≤ 15 then
        Decimal.Layout.yaml.fixed d
      else Decimal.Layout.yaml.scientific d
        (d.exponent + (Nat.toDigits 10 d.digits).length - 1) := rfl
  rw [hdecimal]
  split
  · rcases lt_or_ge d.exponent 0 with hplaces | hwhole
    · exact exists_numeral_places hplaces
    · exact exists_numeral_whole hwhole
  · exact exists_numeral_scientific d

/-- The text of a double is a numeral that is read as the double. -/
theorem exists_numeral_text (x : Binary64) : ∃ n : Numeral,
    (Decimal.Layout.yaml.text x).toList = signed x.negative n.text ∧
      Binary64.ofDecimal x.negative n.digits n.scale = some x := by
  have htext (body : String) : (if x.negative then "-" ++ body else body).toList =
      signed x.negative body.toList := by
    cases x.negative <;> simp [signed]
  rw [Decimal.Layout.text, htext]
  by_cases hzero : x.rank = 0
  · refine ⟨⟨['0'], ['0'], none, List.cons_ne_nil _ _, rfl, rfl, .inl (List.cons_ne_nil _ _)⟩,
      ?_, ?_⟩
    · rw [if_pos hzero]
      rfl
    · obtain ⟨negative, rank, hrank⟩ := x
      obtain rfl : rank = 0 := hzero
      rfl
  · obtain ⟨n, htext, hdenotes⟩ := exists_numeral_decimal (Decimal.shortest .toEven x)
    have howns := Decimal.owns_shortest .toEven (Nat.pos_of_ne_zero hzero)
    rw [← hdenotes] at howns
    refine ⟨n, ?_, Binary64.ofDecimal_of_owns x.negative (Nat.pos_of_ne_zero hzero) howns⟩
    rw [if_neg hzero]
    exact congrArg _ htext

end JsonSchema.Yaml
