import JsonSchema.Proofs.Number.Value

/-!
# Counts

A number writes a count if its value is a natural number below `2 ^ 64`, whichever way the number is
kept. Doubles are held against the largest count rounded to a double, which is `2 ^ 64`. So this one
number passes as well, and is taken for the largest count.
-/

namespace JsonSchema.Number

variable {n : Number} {whole : Int} {k : Nat}

theorem count?_integer (m : Int) (fits : FitsWord m) :
    (integer m fits).count? = if 0 ≤ m then some m.toNat else none :=
  rfl

theorem count?_float (x : Binary64) (h : x.units = whole * Binary64.unitsPerOne) :
    (float x).count? = if 0 ≤ whole ∧ whole ≤ 0x10000000000000000 then
      some (min whole.toNat 0xFFFFFFFFFFFFFFFF) else none := by
  have hpos : (Binary64.unitsPerOne : Int) ≠ 0 := by exact_mod_cast Binary64.unitsPerOne_pos.ne'
  have hwhole : x.isWhole = true := by
    rw [Binary64.isWhole, h, Int.mul_emod_left, beq_self_eq_true]
  simp only [count?, h, Int.mul_ediv_cancel _ hpos, hwhole, true_and]

/-- The count is read off the value, in both ways of keeping it. -/
theorem count?_of_value (h : n.value = whole) : n.count? =
    if 0 ≤ whole ∧ whole ≤ 0x10000000000000000 then some (min whole.toNat 0xFFFFFFFFFFFFFFFF)
    else none := by
  cases n with
  | float x => exact count?_float x (units_eq_of_value h)
  | integer m fits =>
      obtain rfl : m = whole := Int.cast_injective h
      have hlt := fits.2
      rw [count?_integer]
      split
      · rw [if_pos ⟨by assumption, by omega⟩, Option.some_inj]
        omega
      · rw [if_neg (by omega)]

/-- A number with a fractional part writes no count. -/
theorem count?_of_fractional (h : ¬∃ whole : Int, n.value = whole) : n.count? = none := by
  cases n with
  | integer m _ => exact absurd ⟨m, rfl⟩ h
  | float x =>
      have hwhole : x.isWhole = false := by
        rw [Bool.eq_false_iff]
        exact fun hwhole => h ((isInteger_iff (.float x)).mp hwhole)
      simp only [count?, hwhole, Bool.false_eq_true, false_and, if_false]

theorem count?_eq_some_iff : n.count? = some k ↔
    n.value = k ∧ k < 2 ^ 64 ∨ n.value = 2 ^ 64 ∧ k = 2 ^ 64 - 1 := by
  by_cases h : ∃ whole : Int, n.value = whole
  · obtain ⟨whole, hvalue⟩ := h
    have hcount : n.value = k ↔ whole = k := by
      rw [hvalue]
      exact_mod_cast Iff.rfl
    have hexcess : n.value = 2 ^ 64 ↔ whole = 2 ^ 64 := by
      rw [hvalue]
      exact_mod_cast Iff.rfl
    rw [count?_of_value hvalue, hcount, hexcess]
    split
    · rw [Option.some_inj]
      omega
    · simp only [reduceCtorEq, false_iff]
      omega
  · rw [count?_of_fractional h]
    simp only [reduceCtorEq, false_iff, not_or, not_and]
    refine ⟨fun hvalue => absurd ⟨k, hvalue⟩ h, fun hvalue => ?_⟩
    exact absurd ⟨2 ^ 64, by exact_mod_cast hvalue⟩ h

theorem count?_eq_none_iff : n.count? = none ↔ ¬∃ k : Nat, n.value = k ∧ k ≤ 2 ^ 64 := by
  rw [Option.eq_none_iff_forall_ne_some]
  constructor
  · rintro h ⟨k, hvalue, hle⟩
    rcases Nat.lt_or_eq_of_le hle with hlt | rfl
    · exact h k (count?_eq_some_iff.mpr (.inl ⟨hvalue, hlt⟩))
    · exact h _ (count?_eq_some_iff.mpr (.inr ⟨by exact_mod_cast hvalue, rfl⟩))
  · rintro h k hk
    rcases count?_eq_some_iff.mp hk with ⟨hvalue, hlt⟩ | ⟨hvalue, -⟩
    · exact h ⟨k, hvalue, hlt.le⟩
    · exact h ⟨2 ^ 64, by exact_mod_cast hvalue, le_rfl⟩

/-- Below the excess a count as a number keeps its value. -/
theorem value_ofCount (h : k < 2 ^ 64) : (ofCount k).value = k := by
  have hfits : FitsWord k := ⟨by omega, by omega⟩
  rw [ofCount, dif_pos hfits]
  rfl

end JsonSchema.Number
