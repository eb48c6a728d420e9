import JsonSchema.Binary64.Basic
import Mathlib.Order.Monotone.Basic
import Mathlib.Tactic.Ring

/-!
# Magnitudes of doubles

The list of the non-negative doubles goes upwards. Above the lowest binade two neighbours are at
most one part in `2 ^ 52` apart and at least one part in `2 ^ 53`, and every number of 53 binary
digits is in the list at every scale.
-/

namespace JsonSchema.Binary64

/-- The magnitude at a place in the list of the non-negative doubles, which here goes on beyond the
largest finite one. -/
def magnitudeAt (rank : Nat) : Nat :=
  (if rank / 0x10000000000000 = 0 then rank % 0x10000000000000
    else 0x10000000000000 + rank % 0x10000000000000) * Nat.pow 2 (rank / 0x10000000000000 - 1)

theorem magnitude_eq (x : Binary64) : x.magnitude = magnitudeAt x.rank := rfl

/-- A significand with the scale at which doubles have it: the hidden bit is there except at the
lowest scale. What is one too large for a significand is the least of the next binade. -/
structure Normalized (scale significand : Nat) : Prop where
  le : significand ≤ 0x20000000000000
  hidden : scale = 0 ∨ 0x10000000000000 ≤ significand

theorem magnitudeAt_of_normalized {scale significand : Nat} (h : Normalized scale significand) :
    magnitudeAt (scale * 0x10000000000000 + significand) = significand * 2 ^ scale := by
  have hle := h.le
  by_cases hlow : significand < 0x10000000000000
  · -- Without the hidden bit the scale is the lowest one.
    obtain rfl : scale = 0 := h.hidden.resolve_right (by omega)
    have hfield : significand / 0x10000000000000 = 0 := by omega
    simp [magnitudeAt, hfield, Nat.mod_eq_of_lt hlow]
  · by_cases hhigh : significand = 0x20000000000000
    · subst hhigh
      have hfield : (scale * 0x10000000000000 + 0x20000000000000) / 0x10000000000000 =
          scale + 2 := by omega
      have hfraction : (scale * 0x10000000000000 + 0x20000000000000) % 0x10000000000000 = 0 := by
        omega
      rw [magnitudeAt, hfield, hfraction, if_neg (by omega), Nat.pow_eq,
        show scale + 2 - 1 = scale + 1 by omega]
      ring
    · have hfield : (scale * 0x10000000000000 + significand) / 0x10000000000000 = scale + 1 := by
        omega
      have hfraction : 0x10000000000000 +
          (scale * 0x10000000000000 + significand) % 0x10000000000000 = significand := by omega
      rw [magnitudeAt, hfield, hfraction, if_neg (by omega), Nat.pow_eq, Nat.add_sub_cancel]

theorem rank_eq (x : Binary64) : x.rank = x.scale * 0x10000000000000 + x.significand := by
  unfold scale significand exponentField fraction
  split <;> omega

theorem significand_lt (x : Binary64) : x.significand < 0x20000000000000 := by
  unfold significand fraction
  split <;> omega

theorem normalized (x : Binary64) : Normalized x.scale x.significand := by
  refine ⟨x.significand_lt.le, ?_⟩
  unfold scale significand
  split <;> omega

theorem significand_pos {x : Binary64} (h : 0 < x.rank) : 0 < x.significand := by
  have hrank := x.rank_eq
  rcases x.normalized.hidden with hscale | hhidden <;> omega

/-- Every place has a scale and a significand that leaves room for the next one. -/
theorem exists_normalized (rank : Nat) :
    ∃ scale significand, rank = scale * 0x10000000000000 + significand ∧
      significand < 0x20000000000000 ∧ Normalized scale significand := by
  refine ⟨rank / 0x10000000000000 - 1,
    rank - (rank / 0x10000000000000 - 1) * 0x10000000000000, ?_, ?_, ?_, ?_⟩ <;> omega

/-- A place and the next one: the significands are neighbours at one scale. -/
theorem exists_step (rank : Nat) :
    ∃ scale significand, Normalized scale significand ∧ significand < 0x20000000000000 ∧
      magnitudeAt rank = significand * 2 ^ scale ∧
      magnitudeAt (rank + 1) = (significand + 1) * 2 ^ scale := by
  obtain ⟨scale, significand, rfl, hlt, h⟩ := exists_normalized rank
  have hnext : Normalized scale (significand + 1) := ⟨hlt, h.hidden.imp_right (by omega)⟩
  refine ⟨scale, significand, h, hlt, magnitudeAt_of_normalized h, ?_⟩
  rw [Nat.add_assoc, magnitudeAt_of_normalized hnext]

theorem magnitudeAt_strictMono : StrictMono magnitudeAt := by
  refine strictMono_nat_of_lt_succ fun rank => ?_
  obtain ⟨scale, significand, -, -, hrank, hnext⟩ := exists_step rank
  rw [hrank, hnext]
  exact Nat.mul_lt_mul_of_pos_right (Nat.lt_succ_self _) (Nat.two_pow_pos _)

theorem magnitudeAt_lt_succ (rank : Nat) : magnitudeAt rank < magnitudeAt (rank + 1) :=
  magnitudeAt_strictMono (Nat.lt_succ_self rank)

theorem magnitudeAt_zero : magnitudeAt 0 = 0 := by simp [magnitudeAt]

/-- The step to the next double is at least one part in `2 ^ 53` of that. -/
theorem magnitudeAt_le_succ (rank : Nat) :
    0x20000000000000 * magnitudeAt rank ≤ 0x1FFFFFFFFFFFFF * magnitudeAt (rank + 1) := by
  obtain ⟨scale, significand, -, hlt, hrank, hnext⟩ := exists_step rank
  rw [hrank, hnext, ← Nat.mul_assoc, ← Nat.mul_assoc]
  exact Nat.mul_le_mul_right _ (by omega)

/-- Above the lowest binade the step to the next double is at most one part in `2 ^ 52`. -/
theorem magnitudeAt_succ_le {rank : Nat} (h : 0x10000000000000 ≤ magnitudeAt rank) :
    0x10000000000000 * magnitudeAt (rank + 1) ≤ 0x10000000000001 * magnitudeAt rank := by
  obtain ⟨scale, significand, hnormal, -, hrank, hnext⟩ := exists_step rank
  have hsignificand : 0x10000000000000 ≤ significand := by
    rcases hnormal.hidden with rfl | hhidden
    · simpa [hrank] using h
    · exact hhidden
  rw [hrank, hnext, ← Nat.mul_assoc, ← Nat.mul_assoc]
  exact Nat.mul_le_mul_right _ (by omega)

/-- At every scale a double is a multiple of the power of two, or too small for that scale. -/
theorem exists_multiple (rank scale : Nat) :
    (∃ significand, magnitudeAt rank = significand * 2 ^ scale) ∨
      0 < scale ∧ magnitudeAt rank < 0x10000000000000 * 2 ^ scale := by
  obtain ⟨own, significand, -, hlt, hrank, -⟩ := exists_step rank
  rcases Nat.le_total scale own with hle | hle
  · refine .inl ⟨significand * 2 ^ (own - scale), ?_⟩
    rw [hrank, Nat.mul_assoc, ← Nat.pow_add, Nat.sub_add_cancel hle]
  · rcases hle.eq_or_lt with rfl | hlt'
    · exact .inl ⟨significand, hrank⟩
    · refine .inr ⟨by omega, ?_⟩
      calc magnitudeAt rank = significand * 2 ^ own := hrank
        _ < 0x20000000000000 * 2 ^ own := Nat.mul_lt_mul_of_pos_right hlt (Nat.two_pow_pos _)
        _ = 0x10000000000000 * 2 ^ (own + 1) := by ring
        _ ≤ 0x10000000000000 * 2 ^ scale :=
          Nat.mul_le_mul_left _ (Nat.pow_le_pow_right (by decide) hlt')

/-- Numbers of 53 binary digits are doubles at every scale. -/
theorem exists_magnitudeAt_eq {significand : Nat} (h : significand ≤ 0x20000000000000)
    (scale : Nat) : ∃ rank, magnitudeAt rank = significand * 2 ^ scale := by
  induction scale generalizing significand with
  | zero => exact ⟨_, magnitudeAt_of_normalized ⟨h, .inl rfl⟩⟩
  | succ scale ih =>
      by_cases hhidden : 0x10000000000000 ≤ significand
      · exact ⟨_, magnitudeAt_of_normalized ⟨h, .inr hhidden⟩⟩
      · -- A digit that is missing in front is made up for by one at the end.
        have hdouble : 2 * significand ≤ 0x20000000000000 := by omega
        obtain ⟨rank, hrank⟩ := ih hdouble
        exact ⟨rank, by rw [hrank]; ring⟩

end JsonSchema.Binary64
