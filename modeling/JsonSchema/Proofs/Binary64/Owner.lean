import JsonSchema.Proofs.Binary64.Rounding
import Mathlib.Tactic.Linarith
import Mathlib.Tactic.FieldSimp
import Mathlib.Data.Rat.Cast.Order
import Mathlib.Algebra.Order.Field.Basic

/-!
# What a double owns

A double owns the reals between the middles to its two neighbours, the middles included if its
place is even. No real has two owners, and rounding takes every quotient to its owner.
-/

namespace JsonSchema.Binary64

variable {rank rank' scale significand num den : Nat} {q : ℚ}

/-! ## Neighbours -/

/-- The next double is one step above, or two where the significand is the first of the next
binade. -/
theorem magnitudeAt_succ (h : Normalized scale significand) :
    magnitudeAt (scale * 0x10000000000000 + significand + 1) =
      magnitudeAt (scale * 0x10000000000000 + significand) +
        (if significand = 0x20000000000000 then 2 else 1) * 2 ^ scale := by
  have hle := h.le
  rw [magnitudeAt_of_normalized h]
  split
  · next heq =>
      subst heq
      have hnext : Normalized (scale + 1) (0x10000000000000 + 1) := ⟨by omega, .inr (by omega)⟩
      rw [show scale * 0x10000000000000 + 0x20000000000000 + 1 =
        (scale + 1) * 0x10000000000000 + (0x10000000000000 + 1) by omega,
        magnitudeAt_of_normalized hnext]
      ring
  · have hnext : Normalized scale (significand + 1) := ⟨by omega, h.hidden.imp_right (by omega)⟩
    rw [Nat.add_assoc, magnitudeAt_of_normalized hnext, Nat.add_mul]

/-- The double before is one step below, or half of one at the low end of a binade. -/
theorem magnitudeAt_pred (h : Normalized scale significand) (hpos : 0 < significand) :
    2 * magnitudeAt (scale * 0x10000000000000 + significand - 1) +
        (if 0 < scale ∧ significand = 0x10000000000000 then 1 else 2) * 2 ^ scale =
      2 * magnitudeAt (scale * 0x10000000000000 + significand) := by
  have hle := h.le
  rw [magnitudeAt_of_normalized h]
  split
  · next hlow =>
      obtain ⟨hscale, rfl⟩ := hlow
      obtain ⟨scale, rfl⟩ := Nat.exists_eq_add_one.mpr hscale
      have hbefore : Normalized scale 0x1FFFFFFFFFFFFF := ⟨by omega, .inr (by omega)⟩
      rw [show (scale + 1) * 0x10000000000000 + 0x10000000000000 - 1 =
        scale * 0x10000000000000 + 0x1FFFFFFFFFFFFF by omega, magnitudeAt_of_normalized hbefore]
      ring
  · next hlow =>
      obtain ⟨significand, rfl⟩ := Nat.exists_eq_add_one.mpr hpos
      have hbefore : Normalized scale significand := by
        refine ⟨by omega, ?_⟩
        rcases h.hidden with hscale | hhidden
        · exact .inl hscale
        · by_cases hscale : scale = 0
          · exact .inl hscale
          · exact .inr (by omega)
      rw [← Nat.add_assoc, Nat.add_sub_cancel, magnitudeAt_of_normalized hbefore]
      ring

/-! ## Owners -/

/-- A real number, in units, between the middles to the neighbours of a place. The middles belong to
the places that are even. -/
@[mk_iff]
structure Owns (rank : Nat) (q : ℚ) : Prop where
  low : (magnitudeAt (rank - 1) + magnitudeAt rank : ℚ) ≤ 2 * q
  high : 2 * q ≤ magnitudeAt rank + magnitudeAt (rank + 1)
  ends : rank % 2 = 1 → (magnitudeAt (rank - 1) + magnitudeAt rank : ℚ) < 2 * q ∧
    2 * q < magnitudeAt rank + magnitudeAt (rank + 1)

theorem not_owns_of_lt (hlt : rank < rank') (h : Owns rank q) : ¬Owns rank' q := by
  intro h'
  have hhere : (magnitudeAt rank : ℚ) ≤ magnitudeAt (rank' - 1) :=
    Nat.cast_le.mpr (magnitudeAt_strictMono.monotone (by omega))
  have hnext : (magnitudeAt (rank + 1) : ℚ) ≤ magnitudeAt rank' :=
    Nat.cast_le.mpr (magnitudeAt_strictMono.monotone hlt)
  have hhigh := h.high
  have hlow := h'.low
  -- Only the middle of two neighbours is left, and one of them is odd.
  have hhere' : magnitudeAt rank = magnitudeAt (rank' - 1) := by
    exact_mod_cast le_antisymm hhere (by linarith)
  have hrank := magnitudeAt_strictMono.injective hhere'
  rcases Nat.mod_two_eq_zero_or_one rank with heven | hodd
  · have hstrict := (h'.ends (by omega)).1
    linarith
  · have hstrict := (h.ends hodd).2
    linarith

/-- No real has two owners. -/
theorem Owns.unique (h : Owns rank q) (h' : Owns rank' q) : rank = rank' := by
  rcases lt_trichotomy rank rank' with hlt | heq | hgt
  · exact absurd h' (not_owns_of_lt hlt h)
  · exact heq
  · exact absurd h (not_owns_of_lt hgt h')

/-! ## Rounding -/

/-- What lies in the middle of two whole numbers goes to the even one. -/
theorem roundHalfEven_middle (num : Nat) {den : Nat} (hden : 0 < den)
    (h : 2 * (roundHalfEven num den * den) = 2 * num + den ∨
      2 * num = 2 * (roundHalfEven num den * den) + den) : roundHalfEven num den % 2 = 0 := by
  have hdecomposed := Nat.div_add_mod num den
  rw [Nat.mul_comm] at hdecomposed
  have hlt := Nat.mod_lt num hden
  have hmiddle : 2 * (num % den) = den := by
    rcases roundHalfEven_cases num den with ⟨heq, hrest⟩ | ⟨heq, hrest⟩ <;> rw [heq] at h
    · omega
    · rw [Nat.add_one_mul (num / den)] at h
      omega
  rw [roundHalfEven]
  simp only [hmiddle, Nat.lt_irrefl, if_false]
  split <;> omega

/-- The bounds of an owner for a quotient, in whole numbers. -/
theorem owns_div_iff (hden : 0 < den) : Owns rank (num / den) ↔
    den * (magnitudeAt (rank - 1) + magnitudeAt rank) ≤ 2 * num ∧
      2 * num ≤ den * (magnitudeAt rank + magnitudeAt (rank + 1)) ∧
      (rank % 2 = 1 → den * (magnitudeAt (rank - 1) + magnitudeAt rank) < 2 * num ∧
        2 * num < den * (magnitudeAt rank + magnitudeAt (rank + 1))) := by
  have hpos : (0 : ℚ) < den := Nat.cast_pos.mpr hden
  have hle (a : Nat) : (a : ℚ) ≤ 2 * (num / den) ↔ den * a ≤ 2 * num := by
    rw [← mul_div_assoc, le_div_iff₀' hpos]
    norm_cast
  have hge (a : Nat) : 2 * (num / den : ℚ) ≤ a ↔ 2 * num ≤ den * a := by
    rw [← mul_div_assoc, div_le_iff₀' hpos]
    norm_cast
  rw [owns_iff]
  norm_cast at hle hge ⊢
  simp only [← not_le, hle, hge]

/-- Rounding takes a quotient to its owner. -/
theorem owns_nearestRank (num : Nat) (hden : 0 < den) :
    Owns (nearestRank num den) (num / den) := by
  obtain ⟨scale, hmagnitude, hnormal, hlow⟩ := exists_rounded num hden
  have hpos : 0 < den * 2 ^ scale := Nat.mul_pos hden (Nat.two_pow_pos _)
  obtain ⟨hnear, hnear'⟩ := roundHalfEven_near num hpos
  have hmiddle := roundHalfEven_middle num hpos
  generalize roundHalfEven num (den * 2 ^ scale) = significand at *
  have hrank : nearestRank num den = scale * 0x10000000000000 + significand :=
    magnitudeAt_strictMono.injective (hmagnitude.trans (magnitudeAt_of_normalized hnormal).symm)
  rw [hrank] at hmagnitude ⊢
  rw [owns_div_iff hden, Nat.mul_add, Nat.mul_add, hmagnitude, Nat.mul_left_comm]
  -- One step up is at least a whole one.
  have habove : significand * (den * 2 ^ scale) + den * 2 ^ scale ≤
      den * magnitudeAt (scale * 0x10000000000000 + significand + 1) := by
    rw [magnitudeAt_succ hnormal, hmagnitude, Nat.mul_left_comm, ← Nat.mul_add]
    refine Nat.mul_le_mul_left _ (Nat.add_le_add_left ?_ _)
    split <;> omega
  -- One step down is half of one only where the quotient is not below the double.
  have hbelow : significand = 0 ∨
      den * magnitudeAt (scale * 0x10000000000000 + significand - 1) + den * 2 ^ scale =
        significand * (den * 2 ^ scale) ∨
      den * magnitudeAt (scale * 0x10000000000000 + significand - 1) <
        significand * (den * 2 ^ scale) ∧ significand * (den * 2 ^ scale) ≤ num := by
    rcases Nat.eq_zero_or_pos significand with hzero | hpositive
    · exact .inl hzero
    · have hpred := congrArg (den * ·) (magnitudeAt_pred hnormal hpositive)
      simp only [hmagnitude, Nat.mul_add, Nat.mul_left_comm den] at hpred
      split at hpred
      · next hedge =>
          have hlow := hlow.resolve_left hedge.1.ne'
          rw [← hedge.2] at hlow
          exact .inr (.inr ⟨by omega, hlow⟩)
      · exact .inr (.inl (by omega))
  rcases hbelow with rfl | hbelow
  · obtain rfl : scale = 0 := hnormal.hidden.resolve_right (by omega)
    simp only [Nat.zero_mul, Nat.add_zero, Nat.zero_sub, magnitudeAt_zero] at habove hnear' ⊢
    omega
  · generalize significand * (den * 2 ^ scale) = here at *
    generalize den * 2 ^ scale = unit at *
    omega

/-- What a double owns is rounded to it. -/
theorem ofRatio_of_owns {x : Binary64} (negative : Bool) (hden : 0 < den)
    (h : Owns x.rank (num / den)) : ofRatio negative num den = some { x with negative } := by
  have hrank : nearestRank num den = x.rank := (owns_nearestRank num hden).unique h
  simp only [ofRatio, hrank, dif_pos x.rank_lt]

end JsonSchema.Binary64
