import JsonSchema.Decimal.Shortest
import JsonSchema.Proofs.Binary64.Owner
import Mathlib.Algebra.Order.Field.Power

/-!
# The shortest decimal belongs to its double

The search for the shortest decimal of a double always finds one, at the latest with eighteen
digits, and what it finds is owned by the double.
-/

namespace JsonSchema

theorem Tie.round_cases (tie : Tie) (num den : Nat) :
    tie.round num den = num / den ∧ 2 * (num % den) ≤ den ∨
      tie.round num den = num / den + 1 ∧ den ≤ 2 * (num % den) := by
  simp only [round]
  cases tie <;> simp only <;> split_ifs <;> omega

/-- Rounding is off by at most one half. -/
theorem Tie.round_near (tie : Tie) (num : Nat) {den : Nat} (hden : 0 < den) :
    2 * (tie.round num den * den) ≤ 2 * num + den ∧
      2 * num ≤ 2 * (tie.round num den * den) + den :=
  Binary64.near_of_cases hden (tie.round_cases num den)

namespace Decimal

theorem unitsPerOne_le_ten_pow {n : Nat} (h : 358 ≤ n) : Binary64.unitsPerOne ≤ 10 ^ n := by
  obtain ⟨k, -, hk, hunit⟩ := Binary64.exists_unitsPerOne_eq
  calc Binary64.unitsPerOne = 2 ^ k := hunit
    _ ≤ 2 ^ (3 * n) := Nat.pow_le_pow_right (by decide) (by omega)
    _ = 8 ^ n := Nat.pow_mul 2 3 n
    _ ≤ 10 ^ n := Nat.pow_le_pow_left (by decide) n

/-- The digits of a number bound it. -/
theorem lt_ten_pow_length (n : Nat) : n < 10 ^ (Nat.toDigits 10 n).length :=
  (Nat.length_toDigits_le_iff (by decide) Nat.length_toDigits_pos).mp le_rfl

theorem ten_pow_length_le {n : Nat} (h : 0 < n) : 10 ^ ((Nat.toDigits 10 n).length - 1) ≤ n := by
  by_contra hlt
  rcases Nat.eq_zero_or_pos ((Nat.toDigits 10 n).length - 1) with hzero | hpos
  · rw [hzero] at hlt
    exact hlt h
  · have hlength := (Nat.length_toDigits_le_iff (by decide) hpos).mpr (Nat.lt_of_not_le hlt)
    omega

/-- The number that a decimal stands for. -/
def value (d : Decimal) : ℚ := d.digits * 10 ^ d.exponent

/-- A power of ten as a quotient of two whole ones. -/
theorem ten_zpow (exponent : Int) :
    (10 : ℚ) ^ exponent =
      ((10 ^ exponent.toNat : Nat) : ℚ) / (10 ^ (-exponent).toNat : Nat) := by
  push_cast
  rw [← zpow_natCast, ← zpow_natCast, ← zpow_sub₀ (by norm_num)]
  congr 1
  omega

/-- Dropping final zeros keeps the number. -/
theorem value_trim (fuel digits : Nat) (exponent : Int) :
    (trim fuel digits exponent).value = digits * 10 ^ exponent := by
  induction fuel generalizing digits exponent with
  | zero => rfl
  | succ fuel ih =>
      rw [trim]
      split
      · next hzero =>
          have hdigits : ((digits / 10 * 10 : Nat) : ℚ) = digits :=
            congrArg Nat.cast (Nat.div_mul_cancel (Nat.dvd_of_mod_eq_zero hzero))
          rw [ih, zpow_add_one₀ (by norm_num), ← hdigits]
          push_cast
          ring
      · rfl

namespace Target

variable {t : Target} {tie : Tie}

/-! ## Grids -/

/-- On every grid a decimal is at most half a step away from the value. If it is in the interval, it
is the best one. -/
theorem onGrid_eq_nearest {exponent : Int} {n : Nat}
    (hn : n = tie.round (t.value * 10 ^ (-exponent).toNat) (t.den * 10 ^ exponent.toNat))
    (h : t.contains (n * 10 ^ exponent.toNat) (10 ^ (-exponent).toNat) = true) :
    t.onGrid tie exponent = some n := by
  simp only [onGrid, Nat.pow_eq, ← hn, h, if_true]

theorem contains_of_onGrid {exponent : Int} {n : Nat} (h : t.onGrid tie exponent = some n) :
    t.contains (n * 10 ^ exponent.toNat) (10 ^ (-exponent).toNat) = true := by
  simp only [onGrid, Nat.pow_eq] at h
  generalize tie.round _ _ = nearer at h
  generalize (if nearer = _ then _ else _) = other at h
  split at h
  · next hnearer => rwa [Option.some_inj.mp h] at hnearer
  · split at h
    · next hother => rwa [Option.some_inj.mp h] at hother
    · cases h

theorem contains_of_lt {num den : Nat} (hlow : t.low * den < num * t.den)
    (hhigh : num * t.den < t.high * den) : t.contains num den = true := by
  unfold contains
  split <;> simp only [Bool.and_eq_true, decide_eq_true_eq] <;> omega

/-- On a grid whose step is below twice the distance to the ends there is a decimal. -/
theorem onGrid_ne_none {margin : Nat} {exponent : Int} (hden : 0 < t.den)
    (hlow : t.low + margin ≤ t.value) (hhigh : t.value + margin ≤ t.high)
    (hstep : t.den * 10 ^ exponent.toNat < 2 * (margin * 10 ^ (-exponent).toNat)) :
    t.onGrid tie exponent ≠ none := by
  have hunit : 0 < t.den * 10 ^ exponent.toNat := Nat.mul_pos hden (Nat.pow_pos (by decide))
  obtain ⟨hnear, hnear'⟩ := tie.round_near (t.value * 10 ^ (-exponent).toNat) hunit
  have hlow := Nat.mul_le_mul_right (10 ^ (-exponent).toNat) hlow
  have hhigh := Nat.mul_le_mul_right (10 ^ (-exponent).toNat) hhigh
  rw [Nat.add_mul] at hlow hhigh
  refine ne_of_eq_of_ne (onGrid_eq_nearest rfl (contains_of_lt ?_ ?_)) (Option.some_ne_none _) <;>
    rw [Nat.mul_assoc, Nat.mul_comm (10 ^ _) t.den] <;> omega

/-! ## The leading digit -/

/-- The least number of zeros is enough to bring the value to one, if the fuel is. -/
theorem le_leadingZeros {fuel j : Nat} (h : t.den ≤ t.value * 10 ^ (fuel + j)) :
    t.den ≤ t.value * 10 ^ t.leadingZeros fuel j := by
  induction fuel generalizing j with
  | zero => simpa [leadingZeros] using h
  | succ fuel ih =>
      rw [leadingZeros]
      split
      · assumption
      · exact ih (by rwa [Nat.add_right_comm] at h)

/-- The power of ten of the leading digit does not exceed the value. -/
theorem leadingExponent_le (hden : 0 < t.den) (h : t.den ≤ t.value * 10 ^ (400 + 1)) :
    t.den * 10 ^ t.leadingExponent.toNat ≤ t.value * 10 ^ (-t.leadingExponent).toNat := by
  rw [leadingExponent]
  split
  · next hle =>
      have hpos : 0 < t.value / t.den := Nat.div_pos hle hden
      have hpower := ten_pow_length_le hpos
      obtain ⟨n, hn⟩ := Nat.exists_eq_add_one.mpr
        (Nat.length_toDigits_pos (b := 10) (n := t.value / t.den))
      simp only [hn, Nat.cast_add, Nat.cast_one, add_sub_cancel_right, Int.toNat_natCast,
        Nat.add_sub_cancel] at hpower ⊢
      calc t.den * 10 ^ n ≤ t.den * (t.value / t.den) := Nat.mul_le_mul_left _ hpower
        _ ≤ t.value := Nat.mul_div_le _ _
        _ ≤ _ := Nat.le_mul_of_pos_right _ (Nat.pow_pos (by decide))
  · have hzeros := le_leadingZeros h
    rw [neg_neg, Int.toNat_natCast, Int.toNat_neg_natCast]
    simpa using hzeros

/-- A search that meets a grid with a decimal gives the decimal of such a grid. -/
theorem exists_of_search {fuel k : Nat} {exponent : Int} (hk : k < fuel)
    (h : t.onGrid tie (exponent - k) ≠ none) :
    ∃ n own, t.onGrid tie own = some n ∧ (t.search tie fuel exponent).value = n * 10 ^ own := by
  induction fuel generalizing k exponent with
  | zero => omega
  | succ fuel ih =>
      rw [search]
      split
      · next digits hdigits => exact ⟨digits, exponent, hdigits, value_trim _ _ _⟩
      · next hnone =>
          cases k with
          | zero => exact absurd (by simpa using hnone) h
          | succ k =>
              refine ih (k := k) (by omega) ?_
              rwa [Nat.cast_succ, add_comm, ← sub_sub] at h

/-! ## The interval of a double -/

variable {x : Binary64}

/-- The low end of a binade. -/
theorem lowest_iff :
    x.fraction = 0 ∧ 1 < x.exponentField ↔ 0 < x.scale ∧ x.significand = 0x10000000000000 := by
  unfold Binary64.scale Binary64.significand Binary64.fraction Binary64.exponentField
  split <;> omega

theorem value_ofBinary64 : (ofBinary64 x).value = 4 * Binary64.magnitudeAt x.rank := by
  rw [← Binary64.magnitude_eq, Binary64.magnitude, ← Nat.mul_assoc]
  rfl

/-- The ends of the interval are the middles to the neighbours. -/
theorem low_ofBinary64 (hpos : 0 < x.rank) : (ofBinary64 x).low =
    2 * (Binary64.magnitudeAt (x.rank - 1) + Binary64.magnitudeAt x.rank) := by
  have hpred := Binary64.magnitudeAt_pred x.normalized (Binary64.significand_pos hpos)
  rw [← x.rank_eq] at hpred
  have hlow : (ofBinary64 x).low = (ofBinary64 x).value -
      if x.fraction = 0 ∧ 1 < x.exponentField then 2 ^ x.scale else 2 * 2 ^ x.scale := rfl
  rw [hlow, value_ofBinary64, if_congr lowest_iff rfl rfl]
  split_ifs at hpred ⊢ <;> omega

theorem high_ofBinary64 : (ofBinary64 x).high =
    2 * (Binary64.magnitudeAt x.rank + Binary64.magnitudeAt (x.rank + 1)) := by
  have hsucc := Binary64.magnitudeAt_succ x.normalized
  rw [← x.rank_eq, if_neg x.significand_lt.ne] at hsucc
  have hhigh : (ofBinary64 x).high = (ofBinary64 x).value + 2 * 2 ^ x.scale := rfl
  rw [hhigh, value_ofBinary64, hsucc]
  omega

theorem closed_ofBinary64 : (ofBinary64 x).closed = decide (x.rank % 2 = 0) := by
  have hclosed : (ofBinary64 x).closed = decide (x.significand % 2 = 0) := rfl
  rw [hclosed, x.rank_eq]
  congr 2
  omega

theorem den_ofBinary64 : (ofBinary64 x).den = 4 * Binary64.unitsPerOne := rfl

/-- What is in the interval of a double is owned by it. -/
theorem owns_of_contains {num den : Nat} (hpos : 0 < x.rank) (hden : 0 < den)
    (h : (ofBinary64 x).contains num den = true) :
    Binary64.Owns x.rank ((num * Binary64.unitsPerOne : Nat) / den) := by
  have hpoint : num * (ofBinary64 x).den = 2 * (2 * (num * Binary64.unitsPerOne)) := by
    rw [den_ofBinary64]
    ring
  have hlow : (ofBinary64 x).low * den =
      2 * (den * (Binary64.magnitudeAt (x.rank - 1) + Binary64.magnitudeAt x.rank)) := by
    rw [low_ofBinary64 hpos]
    ring
  have hhigh : (ofBinary64 x).high * den =
      2 * (den * (Binary64.magnitudeAt x.rank + Binary64.magnitudeAt (x.rank + 1))) := by
    rw [high_ofBinary64]
    ring
  rw [Binary64.owns_div_iff hden]
  simp only [contains, hpoint, hlow, hhigh, closed_ofBinary64, decide_eq_true_eq] at h
  generalize den * (Binary64.magnitudeAt (x.rank - 1) + _) = low at *
  generalize den * (_ + Binary64.magnitudeAt (x.rank + 1)) = high at *
  split at h <;> simp only [Bool.and_eq_true, decide_eq_true_eq] at h <;> omega

/-- The ends are at least a quarter of a step away, and the step is at least one part in `2 ^ 53` of
the value. -/
theorem margin_ofBinary64 (hpos : 0 < x.rank) :
    (ofBinary64 x).low + 2 ^ x.scale ≤ (ofBinary64 x).value ∧
      (ofBinary64 x).value + 2 ^ x.scale ≤ (ofBinary64 x).high ∧
      (ofBinary64 x).value < 2 ^ 55 * 2 ^ x.scale := by
  have hsignificand := Binary64.significand_pos hpos
  have hlt := x.significand_lt
  have hvalue : (ofBinary64 x).value = 4 * x.significand * 2 ^ x.scale := rfl
  have hlow : (ofBinary64 x).low = (ofBinary64 x).value -
      if x.fraction = 0 ∧ 1 < x.exponentField then 2 ^ x.scale else 2 * 2 ^ x.scale := rfl
  have hhigh : (ofBinary64 x).high = (ofBinary64 x).value + 2 * 2 ^ x.scale := rfl
  have hfour : 4 * 2 ^ x.scale ≤ 4 * x.significand * 2 ^ x.scale :=
    Nat.mul_le_mul_right _ (by omega)
  rw [hlow, hhigh, hvalue]
  refine ⟨?_, by omega, Nat.mul_lt_mul_of_pos_right (by omega) (Nat.two_pow_pos _)⟩
  split <;> omega

/-- On the grid of the eighteenth digit the nearest decimal is in the interval. -/
theorem onGrid_last (tie : Tie) {x : Binary64} (hpos : 0 < x.rank) :
    (ofBinary64 x).onGrid tie ((ofBinary64 x).leadingExponent - (17 : Nat)) ≠ none := by
  have hden : 0 < (ofBinary64 x).den := Nat.mul_pos (by decide) Binary64.unitsPerOne_pos
  have hsmall : (ofBinary64 x).den ≤ (ofBinary64 x).value * 10 ^ (400 + 1) := by
    rw [den_ofBinary64, value_ofBinary64, ← Binary64.magnitude_eq, Nat.mul_assoc]
    refine Nat.mul_le_mul_left _ ((unitsPerOne_le_ten_pow (n := 400 + 1) (by decide)).trans ?_)
    exact Nat.le_mul_of_pos_left _ (Nat.mul_pos (Binary64.significand_pos hpos) (Nat.two_pow_pos _))
  have hleading := leadingExponent_le hden hsmall
  obtain ⟨hlow, hhigh, hvalue⟩ := margin_ofBinary64 hpos
  refine onGrid_ne_none hden hlow hhigh ?_
  generalize (ofBinary64 x).leadingExponent = leading at *
  generalize hexponent : leading - (17 : Nat) = exponent
  have hpowers : 10 ^ 17 * (10 ^ exponent.toNat * 10 ^ (-leading).toNat) =
      10 ^ leading.toNat * 10 ^ (-exponent).toNat := by
    rw [← Nat.pow_add, ← Nat.pow_add, ← Nat.pow_add]
    congr 1
    omega
  have hpos' : 0 < 10 ^ (-leading).toNat * 10 ^ (-exponent).toNat := by positivity
  apply Nat.lt_of_mul_lt_mul_left (a := 10 ^ 17 * 10 ^ (-leading).toNat)
  calc 10 ^ 17 * 10 ^ (-leading).toNat * ((ofBinary64 x).den * 10 ^ exponent.toNat)
      = (ofBinary64 x).den * (10 ^ 17 * (10 ^ exponent.toNat * 10 ^ (-leading).toNat)) := by ring
    _ = (ofBinary64 x).den * 10 ^ leading.toNat * 10 ^ (-exponent).toNat := by
        rw [hpowers, Nat.mul_assoc]
    _ ≤ (ofBinary64 x).value * 10 ^ (-leading).toNat * 10 ^ (-exponent).toNat :=
        Nat.mul_le_mul_right _ hleading
    _ = (ofBinary64 x).value * (10 ^ (-leading).toNat * 10 ^ (-exponent).toNat) := by
        rw [Nat.mul_assoc]
    _ < 2 ^ 55 * 2 ^ x.scale * (10 ^ (-leading).toNat * 10 ^ (-exponent).toNat) :=
        Nat.mul_lt_mul_of_pos_right hvalue hpos'
    _ ≤ 2 * 10 ^ 17 * 2 ^ x.scale * (10 ^ (-leading).toNat * 10 ^ (-exponent).toNat) :=
        Nat.mul_le_mul_right _ (Nat.mul_le_mul_right _ (by norm_num))
    _ = 10 ^ 17 * 10 ^ (-leading).toNat * (2 * (2 ^ x.scale * 10 ^ (-exponent).toNat)) := by ring

end Target

/-- The shortest decimal of a double that is not zero is owned by it. -/
theorem owns_shortest (tie : Tie) {x : Binary64} (hpos : 0 < x.rank) :
    Binary64.Owns x.rank ((shortest tie x).value * Binary64.unitsPerOne) := by
  obtain ⟨n, exponent, hgrid, hvalue⟩ :=
    Target.exists_of_search (show 17 < 18 by decide) (Target.onGrid_last tie hpos)
  have howns := Target.owns_of_contains hpos (Nat.pow_pos (by decide))
    (Target.contains_of_onGrid hgrid)
  rw [shortest, hvalue, ten_zpow]
  convert howns using 1
  push_cast
  ring

end Decimal
end JsonSchema
