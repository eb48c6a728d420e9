import JsonSchema.Proofs.Number.Value
import JsonSchema.Schema.Check

/-!
# The order of numbers

Numbers are compared by their exact values, with one exception: a whole number that no double is
equal to is taken for the double that it is rounded to. This happens only beyond `2 ^ 53`, where
both are whole.
-/

namespace JsonSchema

namespace Number

variable {a b c : Number}

/-! ## Rounding keeps the order -/

/-- A comparison in which a double takes part does not turn round. -/
theorem toBinary64_units_le (hmixed : ¬(a.IsWord ∧ b.IsWord)) (h : a.units ≤ b.units) :
    a.toBinary64.units ≤ b.toBinary64.units := by
  cases b with
  | float y =>
      cases a with
      | float x => exact h
      | integer m fits => exact (Binary64.units_ofInt_side y (natAbs_le_of_fitsWord fits)).1 h
  | integer n fits =>
      cases a with
      | float x => exact (Binary64.units_ofInt_side x (natAbs_le_of_fitsWord fits)).2 h
      | integer m _ => exact absurd ⟨trivial, trivial⟩ hmixed

/-! ## Where rounding hides a difference -/

/-- Two numbers that rounding takes for the same though they are not. -/
structure Conflated (a b : Number) : Prop where
  mixed : ¬(a.IsWord ∧ b.IsWord)
  apart : a.value ≠ b.value
  alike : a.toBinary64.value = b.toBinary64.value

theorem toBinary64_value_eq_iff :
    a.toBinary64.value = b.toBinary64.value ↔ a.toBinary64.units = b.toBinary64.units :=
  value_eq_iff (a := .float a.toBinary64) (b := .float b.toBinary64)

theorem Conflated.symm (h : Conflated a b) : Conflated b a :=
  ⟨fun hwords => h.mixed hwords.symm, h.apart.symm, h.alike.symm⟩

/-- Two whole numbers of `2 ^ 53` or more that differ by at most one part in `2 ^ 53`. -/
structure Neighbours (a b : Number) : Prop where
  whole : a.isInteger = true ∧ b.isInteger = true
  large : 2 ^ 53 ≤ |a.value| ∧ 2 ^ 53 ≤ |b.value|
  near : 2 ^ 53 * |a.value - b.value| ≤ |a.value| ∧ 2 ^ 53 * |a.value - b.value| ≤ |b.value|

theorem Neighbours.symm (h : Neighbours a b) : Neighbours b a :=
  ⟨h.whole.symm, h.large.symm, abs_sub_comm a.value b.value ▸ h.near.symm⟩

theorem Conflated.neighbours_word {n : Int} {fits : FitsWord n} {x : Binary64}
    (h : Conflated (integer n fits) (float x)) : Neighbours (integer n fits) (float x) := by
  have hle := natAbs_le_of_fitsWord fits
  have halike : (Binary64.ofInt n).units = x.units := toBinary64_value_eq_iff.mp h.alike
  have hmagnitude : (Binary64.ofInt n).magnitude = x.magnitude := by
    rw [← Binary64.natAbs_units, ← Binary64.natAbs_units, halike]
  -- Smaller whole numbers are doubles themselves.
  have hlarge : 0x20000000000000 ≤ n.natAbs := by
    by_contra hsmall
    exact h.apart (value_eq_iff.mpr ((Binary64.units_ofInt_eq (by omega)).symm.trans halike))
  have hdouble := Binary64.le_magnitude_ofInt_of_le hle hlarge
  obtain ⟨hword, hfloat⟩ := Binary64.close_units_ofInt hle
  rw [hmagnitude] at hdouble hfloat
  rw [halike] at hword hfloat
  have hunits : (integer n fits).units.natAbs = n.natAbs * Binary64.unitsPerOne := by
    rw [units, Int.natAbs_mul, Int.natAbs_natCast]
  have hcast : (2 : ℚ) ^ 53 = (0x20000000000000 : ℕ) := by norm_num
  refine ⟨⟨rfl, ?_⟩, hcast ▸ ⟨?_, ?_⟩, hcast ▸ ⟨?_, ?_⟩⟩
  · refine (Binary64.isWhole_iff x).mpr (Binary64.dvd_magnitude (le_trans ?_ hdouble))
    exact Nat.mul_le_mul_right _ (by decide)
  · rw [le_abs_value_iff, hunits]
    exact Nat.mul_le_mul_right _ hlarge
  · rw [le_abs_value_iff, units, Binary64.natAbs_units]
    exact hdouble
  · rw [mul_abs_sub_le_iff, hunits]
    exact hword
  · rw [mul_abs_sub_le_iff, units, units, Binary64.natAbs_units]
    exact hfloat

/-- What is taken for the same are neighbours. -/
theorem Conflated.neighbours (h : Conflated a b) : Neighbours a b := by
  cases a with
  | integer m _ =>
      cases b with
      | integer n _ => exact (h.mixed ⟨trivial, trivial⟩).elim
      | float y => exact h.neighbours_word
  | float x =>
      cases b with
      | integer n _ => exact h.symm.neighbours_word.symm
      | float y => exact (h.apart h.alike).elim

/-! ## Comparison -/

theorem compare_mixed (hmixed : ¬(a.IsWord ∧ b.IsWord)) :
    a.compare b = Ord.compare a.toBinary64.units b.toBinary64.units := by
  cases a <;> cases b <;> first | rfl | exact absurd ⟨trivial, trivial⟩ hmixed

theorem Conflated.compare_eq (h : Conflated a b) : a.compare b = .eq := by
  rw [compare_mixed h.mixed, compare_eq_iff_eq]
  exact toBinary64_value_eq_iff.mp h.alike

/-- Two comparisons that tell the same cases apart. -/
theorem compare_eq_compare {α β : Type} [LinearOrder α] [LinearOrder β] {x y : α} {u v : β}
    (hlt : x < y → u < v) (heq : x = y → u = v) (hgt : y < x → v < u) :
    Ord.compare x y = Ord.compare u v := by
  rcases lt_trichotomy x y with h | h | h
  · rw [compare_lt_iff_lt.mpr h, compare_lt_iff_lt.mpr (hlt h)]
  · rw [compare_eq_iff_eq.mpr h, compare_eq_iff_eq.mpr (heq h)]
  · rw [compare_gt_iff_gt.mpr h, compare_gt_iff_gt.mpr (hgt h)]

/-- Numbers that rounding keeps apart are compared by value. -/
theorem compare_of_not_conflated (h : ¬Conflated a b) :
    a.compare b = Ord.compare a.value b.value := by
  by_cases hmixed : a.IsWord ∧ b.IsWord
  · obtain ⟨ha, hb⟩ := hmixed
    cases a with
    | float x => exact ha.elim
    | integer m _ =>
        cases b with
        | float y => exact hb.elim
        | integer n _ =>
            exact compare_eq_compare Int.cast_lt.mpr (congrArg Int.cast) Int.cast_lt.mpr
  · rw [compare_mixed hmixed]
    refine compare_eq_compare (fun hlt => ?_) (fun heq => ?_) fun hgt => ?_
    · refine value_lt_iff.mpr (lt_of_not_ge fun hle => ?_)
      exact hlt.not_ge (toBinary64_units_le (fun hwords => hmixed hwords.symm) hle)
    · by_contra hapart
      exact h ⟨hmixed, hapart, toBinary64_value_eq_iff.mpr heq⟩
    · exact value_lt_iff.mpr (lt_of_not_ge fun hle => hgt.not_ge (toBinary64_units_le hmixed hle))

theorem compare_value_iff : a.compare b = Ord.compare a.value b.value ↔ ¬Conflated a b := by
  refine ⟨fun h hconflated => hconflated.apart ?_, compare_of_not_conflated⟩
  rw [← compare_eq_iff_eq, ← h, hconflated.compare_eq]

theorem compare_swap (a b : Number) : b.compare a = (a.compare b).swap := by
  by_cases h : Conflated a b
  · rw [h.compare_eq, h.symm.compare_eq, Ordering.swap_eq]
  · rw [compare_of_not_conflated h, compare_of_not_conflated fun h' => h h'.symm]
    exact Std.OrientedCmp.eq_swap

theorem compare_ne_gt_iff (h : ¬Conflated a b) : a.compare b ≠ .gt ↔ a.value ≤ b.value := by
  rw [compare_of_not_conflated h, Ne, compare_gt_iff_gt, not_lt]

end Number

/-! ## Bounds -/

namespace Bound

/-- What a bound asks of exact values. -/
def Satisfied (value limit : ℚ) : Bound → Prop
  | minimum => limit ≤ value
  | maximum => value ≤ limit
  | exclusiveMinimum => limit < value
  | exclusiveMaximum => value < limit

theorem admits_compare_iff (bound : Bound) (value limit : ℚ) :
    bound.admits (Ord.compare value limit) = true ↔ bound.Satisfied value limit := by
  cases bound with
  | minimum => simp [admits, Satisfied, compare_lt_iff_lt]
  | maximum => simp [admits, Satisfied, compare_gt_iff_gt]
  | exclusiveMinimum => simp [admits, Satisfied, compare_gt_iff_gt]
  | exclusiveMaximum => simp [admits, Satisfied, compare_lt_iff_lt]

end Bound

namespace Number

variable {a b c : Number}

/-- A number that is conflated with the limit passes the inclusive bounds, one of which it does not
satisfy. -/
theorem Conflated.exists_bound (h : Conflated a b) : ∃ bound : Bound,
    bound.admits (a.compare b) = true ∧ ¬bound.Satisfied a.value b.value := by
  rw [h.compare_eq]
  rcases lt_or_gt_of_ne h.apart with hlt | hgt
  · exact ⟨.minimum, rfl, hlt.not_ge⟩
  · exact ⟨.maximum, rfl, hgt.not_ge⟩

/-- The comparison is that of the exact values, and bounds are those on the exact values, just where
the two numbers are not conflated. Conflated numbers are whole, of `2 ^ 53` or more and apart by at
most one part in `2 ^ 53`, and count as equal. The comparison always turns round with its operands,
and is transitive among numbers of which no two are conflated. -/
theorem compare_exact (a b : Number) :
    (a.compare b = Ord.compare a.value b.value ↔ ¬Conflated a b) ∧
      (Conflated a b → a.compare b = .eq ∧ Neighbours a b) ∧
      b.compare a = (a.compare b).swap ∧
      (∀ c, ¬Conflated a b → ¬Conflated b c → ¬Conflated a c →
        a.compare b ≠ .gt → b.compare c ≠ .gt → a.compare c ≠ .gt) ∧
      ((∀ bound : Bound, (Check.bound bound b).holds (.number a) = true ↔
        bound.Satisfied a.value b.value) ↔ ¬Conflated a b) := by
  refine ⟨compare_value_iff, fun h => ⟨h.compare_eq, h.neighbours⟩, compare_swap a b, ?_, ?_, ?_⟩
  · intro c hab hbc hac hle hle'
    rw [compare_ne_gt_iff hab] at hle
    rw [compare_ne_gt_iff hbc] at hle'
    exact (compare_ne_gt_iff hac).mpr (hle.trans hle')
  · intro hbounds h
    obtain ⟨bound, hadmits, hunsatisfied⟩ := h.exists_bound
    exact hunsatisfied ((hbounds bound).mp hadmits)
  · intro h bound
    rw [Check.holds, compare_of_not_conflated h]
    exact bound.admits_compare_iff a.value b.value

/-- The number `2 ^ 53`, kept as a double. -/
def largeDouble : Number := .float ⟨false, 0x4340000000000000, by decide⟩

/-- The number `2 ^ 53`, kept as a whole number. -/
def largeWord : Number := .integer 0x20000000000000 (by decide)

/-- The number `2 ^ 53 + 1`, to which no double is equal. -/
def oddWord : Number := .integer 0x20000000000001 (by decide)

/-- A whole number just above the limit passes as a number up to it, and two different whole numbers
are both equal to one double. -/
theorem oddWord_conflated :
    largeDouble.value < oddWord.value ∧
      (Check.bound .maximum largeDouble).holds (.number oddWord) = true ∧
      ¬Bound.maximum.Satisfied oddWord.value largeDouble.value ∧
      oddWord.compare largeDouble = .eq ∧ largeDouble.compare largeWord = .eq ∧
      oddWord.compare largeWord = .gt := by
  have hlt : largeDouble.value < oddWord.value := value_lt_iff.mpr (by decide +kernel)
  exact ⟨hlt, by decide +kernel, hlt.not_ge, by decide +kernel, by decide +kernel, by decide⟩

end Number
end JsonSchema
