import JsonSchema.Proofs.Decimal.Shortest

/-!
# Reading what was written

A decimal that a double owns is read as that double.
-/

namespace JsonSchema.Binary64

variable {x : Binary64} {q : ℚ} {n : Nat}

/-- A double that is not zero owns nothing below half of a unit. -/
theorem Owns.one_le (hpos : 0 < x.rank) (h : Owns x.rank q) : 1 ≤ 2 * q := by
  have hmagnitude : magnitudeAt 0 < magnitudeAt x.rank := magnitudeAt_strictMono hpos
  have hunit : (1 : ℚ) ≤ magnitudeAt x.rank := by exact_mod_cast Nat.one_le_of_lt hmagnitude
  have hbefore : (0 : ℚ) ≤ magnitudeAt (x.rank - 1) := Nat.cast_nonneg _
  have hlow := h.low
  linarith

/-- The doubles end before `2 ^ 1024`. -/
theorem magnitudeAt_succ_le_ten_pow (x : Binary64) (hn : 342 ≤ n) :
    magnitudeAt (x.rank + 1) ≤ 10 ^ n * unitsPerOne := by
  obtain ⟨k, hk, hunit⟩ : ∃ k, 1074 ≤ k ∧ unitsPerOne = 2 ^ k := ⟨1074, le_rfl, by decide +kernel⟩
  obtain ⟨scale, hscale⟩ : ∃ scale, scale = 2046 := ⟨_, rfl⟩
  have hnormal : Normalized scale 0x10000000000000 := ⟨by omega, .inr le_rfl⟩
  have hlt := x.rank_lt
  calc magnitudeAt (x.rank + 1) ≤ magnitudeAt (scale * 0x10000000000000 + 0x10000000000000) :=
        magnitudeAt_strictMono.monotone (by omega)
    _ = 2 ^ 52 * 2 ^ scale := magnitudeAt_of_normalized hnormal
    _ = 2 ^ (52 + scale) := (Nat.pow_add 2 52 scale).symm
    _ ≤ 2 ^ (3 * n + k) := Nat.pow_le_pow_right (by decide) (by omega)
    _ = 8 ^ n * unitsPerOne := by rw [Nat.pow_add, Nat.pow_mul, hunit]
    _ ≤ 10 ^ n * unitsPerOne := Nat.mul_le_mul_right _ (Nat.pow_le_pow_left (by decide) n)

theorem Owns.le_ten_pow (hn : 342 ≤ n) (h : Owns x.rank q) : q ≤ 10 ^ n * unitsPerOne := by
  have hlimit : (magnitudeAt (x.rank + 1) : ℚ) ≤ 10 ^ n * unitsPerOne := by
    exact_mod_cast x.magnitudeAt_succ_le_ten_pow hn
  have hlt : (magnitudeAt x.rank : ℚ) < magnitudeAt (x.rank + 1) :=
    Nat.cast_lt.mpr (magnitudeAt_lt_succ _)
  have hhigh := h.high
  linarith

variable {digits : Nat} {exponent : Int}

theorem Owns.digits_pos (hpos : 0 < x.rank)
    (h : Owns x.rank (digits * 10 ^ exponent * unitsPerOne)) : 0 < digits := by
  have hlow := h.one_le hpos
  refine Nat.pos_of_ne_zero ?_
  rintro rfl
  rw [Nat.cast_zero, zero_mul, zero_mul, mul_zero] at hlow
  exact absurd hlow zero_lt_one.not_ge

/-- The leading digit of a decimal that is owned is not beyond the range that is looked at. -/
theorem Owns.leading_le (hpos : 0 < x.rank)
    (h : Owns x.rank (digits * 10 ^ exponent * unitsPerOne)) :
    exponent + (Nat.toDigits 10 digits).length ≤ 400 := by
  have hunit : (0 : ℚ) < unitsPerOne := Nat.cast_pos.mpr unitsPerOne_pos
  have hlimit := le_of_mul_le_mul_right (h.le_ten_pow (n := 399) (by decide)) hunit
  have hlength : 0 < (Nat.toDigits 10 digits).length := Nat.length_toDigits_pos
  have hdigits : (10 : ℚ) ^ ((Nat.toDigits 10 digits).length - 1 : Int) ≤ digits := by
    rw [← Nat.cast_pred hlength]
    exact_mod_cast Decimal.ten_pow_length_le (h.digits_pos hpos)
  have hle : (10 : ℚ) ^ ((Nat.toDigits 10 digits).length - 1 + exponent : Int) ≤
      10 ^ (399 : Int) := by
    rw [zpow_add₀ (by norm_num)]
    calc (10 : ℚ) ^ ((Nat.toDigits 10 digits).length - 1 : Int) * 10 ^ exponent
        ≤ digits * 10 ^ exponent := by gcongr
      _ ≤ 10 ^ (399 : Int) := by exact_mod_cast hlimit
  have hexponent := (zpow_le_zpow_iff_right₀ (by norm_num)).mp hle
  omega

/-- Nor is it before that range: half of a unit is not that small. -/
theorem Owns.le_leading (hpos : 0 < x.rank)
    (h : Owns x.rank (digits * 10 ^ exponent * unitsPerOne)) :
    -400 ≤ exponent + (Nat.toDigits 10 digits).length := by
  have hlow := h.one_le hpos
  have hunit : (0 : ℚ) < unitsPerOne := Nat.cast_pos.mpr unitsPerOne_pos
  have hunits : (unitsPerOne : ℚ) ≤ 10 ^ (358 : Int) := by
    exact_mod_cast Decimal.unitsPerOne_le_ten_pow (n := 358) le_rfl
  have hpower : (0 : ℚ) < 10 ^ exponent := zpow_pos (by norm_num) _
  have hdigits : (digits : ℚ) < 10 ^ ((Nat.toDigits 10 digits).length : Int) := by
    exact_mod_cast Decimal.lt_ten_pow_length digits
  generalize ((Nat.toDigits 10 digits).length : Int) = length at *
  by_contra hsmall
  have hlt : (digits * 10 ^ exponent * unitsPerOne : ℚ) < 10 ^ (-1 : Int) := by
    calc (digits * 10 ^ exponent * unitsPerOne : ℚ)
        < 10 ^ length * 10 ^ exponent * unitsPerOne :=
          mul_lt_mul_of_pos_right (mul_lt_mul_of_pos_right hdigits hpower) hunit
      _ ≤ 10 ^ length * 10 ^ exponent * 10 ^ (358 : Int) :=
          mul_le_mul_of_nonneg_left hunits (by positivity)
      _ = 10 ^ (length + exponent + 358) := by
          rw [← zpow_add₀ (by norm_num), ← zpow_add₀ (by norm_num)]
      _ ≤ 10 ^ (-1 : Int) := zpow_le_zpow_right₀ (by norm_num) (by omega)
  have htenth : 2 * (10 : ℚ) ^ (-1 : Int) < 1 := by norm_num
  linarith

/-- A decimal that a double owns is read as that double. -/
theorem ofDecimal_of_owns (negative : Bool) (hpos : 0 < x.rank)
    (h : Owns x.rank (digits * 10 ^ exponent * unitsPerOne)) :
    ofDecimal negative digits exponent = some { x with negative } := by
  have hzero := (h.digits_pos hpos).ne'
  simp only [ofDecimal, hzero, (h.le_leading hpos).not_gt, (h.leading_le hpos).not_gt, or_self,
    if_false]
  rw [Decimal.ten_zpow] at h
  split
  · next hexponent =>
      rw [Int.toNat_eq_zero.mpr (by omega : -exponent ≤ 0)] at h
      refine ofRatio_of_owns negative Nat.one_pos ?_
      convert h using 1
      push_cast [Nat.pow_eq]
      ring
  · next hexponent =>
      rw [Int.toNat_eq_zero.mpr (by omega : exponent ≤ 0)] at h
      refine ofRatio_of_owns negative (Nat.pow_pos (by decide)) ?_
      convert h using 1
      push_cast [Nat.pow_eq]
      ring

end JsonSchema.Binary64
