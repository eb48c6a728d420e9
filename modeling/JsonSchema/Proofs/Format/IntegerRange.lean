import JsonSchema.Format.Builtin
import JsonSchema.Proofs.Number.Value

/-!
# Ranges of whole numbers decide by the value

The largest signed word of 64 bits is no double: it is rounded up to the next power of two, and one
more is rounded back to that. So doubles strictly below what comes out are those up to the limit,
and a double is judged as the whole number of the same value would be.
-/

namespace JsonSchema.Format.IntegerRange

open Binary64 (unitsPerOne)

variable {r : IntegerRange}

/-- A value of the range. -/
def Spans (r : IntegerRange) (value : ℚ) : Prop :=
  ∃ whole : Int, value = whole ∧ r.min ≤ whole ∧ whole ≤ r.max

/-- The limits stand for themselves as doubles, however they are rounded: the lower limit is a
double, and doubles are below the upper one if they are below the next whole number. -/
structure Sharp (r : IntegerRange) : Prop where
  lower : (Binary64.ofInt r.min).value = r.min
  upper : ∃ upper, r.upperDouble = some upper ∧ upper.value = r.max + 1

theorem sharp_of_units (hlower : (Binary64.ofInt r.min).units = r.min * unitsPerOne)
    (hupper : r.upperDouble.map Binary64.units = some ((r.max + 1) * unitsPerOne)) : r.Sharp := by
  obtain ⟨upper, hsome, hunits⟩ := Option.map_eq_some_iff.mp hupper
  have hunit : (unitsPerOne : ℚ) ≠ 0 := Number.unit_pos.ne'
  refine ⟨?_, upper, hsome, ?_⟩
  · rw [Binary64.value, hlower, Int.cast_mul, Int.cast_natCast, mul_div_cancel_right₀ _ hunit]
  · rw [Binary64.value, hunits, Int.cast_mul, Int.cast_natCast, mul_div_cancel_right₀ _ hunit,
      Int.cast_add, Int.cast_one]

theorem sharp_int32 : int32.Sharp := sharp_of_units (by decide +kernel) (by decide +kernel)

theorem sharp_int64 : int64.Sharp := sharp_of_units (by decide +kernel) (by decide +kernel)

theorem spans_iff_of_value {value : ℚ} {whole : Int} (h : value = whole) :
    r.Spans value ↔ r.min ≤ whole ∧ whole ≤ r.max := by
  constructor
  · rintro ⟨whole', h', hbounds⟩
    obtain rfl : whole' = whole := Int.cast_injective (h'.symm.trans h)
    exact hbounds
  · exact fun hbounds => ⟨whole, h, hbounds⟩

theorem compare_eq_lt_iff {x y : Binary64} : x.compare y = .lt ↔ x.value < y.value := by
  rw [Binary64.compare, compare_lt_iff_lt]
  exact (Number.value_lt_iff (a := .float x) (b := .float y)).symm

/-- A double that is a whole number lies between the limits as doubles just where the whole number
lies between the limits. -/
theorem Sharp.spans_iff (h : r.Sharp) {x : Binary64} {whole : Int} (hx : x.value = whole) :
    r.spans x = true ↔ r.min ≤ whole ∧ whole ≤ r.max := by
  obtain ⟨upper, hsome, hupper⟩ := h.upper
  have hlow : x.compare (.ofInt r.min) ≠ .lt ↔ r.min ≤ whole := by
    rw [Ne, compare_eq_lt_iff, hx, h.lower, Int.cast_lt, Int.not_lt]
  have hhigh : x.compare upper = .lt ↔ whole ≤ r.max := by
    rw [compare_eq_lt_iff, hx, hupper, ← Int.cast_one, ← Int.cast_add, Int.cast_lt,
      Int.lt_add_one_iff]
  rw [spans, hsome, Option.all_some, Bool.and_eq_true, bne_iff_ne, beq_iff_eq, hlow, hhigh]

/-- A whole number is compared with the limits, and a double that is whole is judged alike. -/
theorem Sharp.isValid_check_iff (h : r.Sharp) (n : Number) :
    (r.check n).isValid = true ↔ r.Spans n.value := by
  cases n with
  | integer n fits =>
      have hvalue : (Number.integer n fits).value = n := rfl
      rw [spans_iff_of_value hvalue, check]
      split <;> simp_all [outside, Verdict.isValid]
  | float x =>
      by_cases hwhole : x.isWhole = true
      · obtain ⟨whole, hvalue⟩ := (Number.isInteger_iff (.float x)).mp hwhole
        rw [spans_iff_of_value hvalue, ← h.spans_iff hvalue, check]
        cases r.spans x <;> simp [hwhole, outside, Verdict.isValid]
      · have hnot : ¬r.Spans (Number.float x).value := by
          rintro ⟨whole, hvalue, -⟩
          exact hwhole ((Number.isInteger_iff (.float x)).mpr ⟨whole, hvalue⟩)
        rw [Bool.not_eq_true] at hwhole
        simp [check, hwhole, Verdict.isValid, hnot]

/-- A range is decided by the exact value of a number, however the number is kept. -/
structure Exact (r : IntegerRange) : Prop where
  /-- The format of the name decides numbers by the range. -/
  format : ∃ f, builtin? r.name = some f ∧ ∀ n, f.check (.number n) = r.check n
  isValid_iff : ∀ n, (r.check n).isValid = true ↔
    ∃ whole : Int, n.value = whole ∧ r.min ≤ whole ∧ whole ≤ r.max
  isValid_eq : ∀ m n : Number, m.value = n.value → (r.check m).isValid = (r.check n).isValid
  /-- What is compared as whole numbers fits in a signed word of 128 bits. -/
  words : ∀ n, FitsWord n ∨ n = r.min ∨ n = r.max → -2 ^ 127 ≤ n ∧ n < 2 ^ 127
  /-- What is compared as doubles is finite and is the limit that is meant. -/
  doubles : r.Sharp

theorem Sharp.exact (h : r.Sharp)
    (hformat : ∃ f, builtin? r.name = some f ∧ ∀ n, f.check (.number n) = r.check n)
    (hwords : FitsWord r.min ∧ FitsWord r.max) : r.Exact where
  format := hformat
  isValid_iff := h.isValid_check_iff
  isValid_eq m n hvalue := by
    rw [Bool.eq_iff_iff, h.isValid_check_iff, h.isValid_check_iff, hvalue]
  words n hn := by
    have hfits : FitsWord n := by
      rcases hn with hn | rfl | rfl
      · exact hn
      · exact hwords.1
      · exact hwords.2
    obtain ⟨hlow, hhigh⟩ := hfits
    constructor <;> omega
  doubles := h

theorem exact_signed_words : int32.Exact ∧ int64.Exact :=
  ⟨sharp_int32.exact ⟨_, rfl, fun _ => rfl⟩ (by decide),
    sharp_int64.exact ⟨_, rfl, fun _ => rfl⟩ (by decide)⟩

/-- The double `2 ^ 63`, to which the largest signed word is rounded, is refused. -/
example : (int64.check (.float ⟨false, 0x43E0000000000000, by decide⟩)).isValid = false := by
  decide +kernel

end JsonSchema.Format.IntegerRange
