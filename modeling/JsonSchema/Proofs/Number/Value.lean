import JsonSchema.Json.Number
import JsonSchema.Proofs.Binary64.Rounding
import Mathlib.Algebra.Order.Ring.Abs
import Mathlib.Data.Rat.Cast.Order

/-!
# Exact values of numbers

A number stands for a rational number, whichever way it is kept. The values are multiples of one
unit, and compare as the numbers of units do.
-/

namespace JsonSchema

/-- The rational number that a double is. -/
def Binary64.value (x : Binary64) : ℚ := x.units / unitsPerOne

namespace Number

/-- The exact value, in the units of the doubles. -/
def units : Number → Int
  | integer n _ => n * (Binary64.unitsPerOne : Int)
  | float x => x.units

/-- The rational number that a number stands for. -/
def value : Number → ℚ
  | integer n _ => n
  | float x => x.value

/-- A number that is kept as a whole number of 64 bits. -/
def IsWord : Number → Prop
  | integer _ _ => True
  | float _ => False

theorem natAbs_le_of_fitsWord {n : Int} (h : FitsWord n) : n.natAbs ≤ 0x10000000000000000 := by
  obtain ⟨hlow, hhigh⟩ := h
  omega

variable {a b c : Number}

theorem unit_pos : (0 : ℚ) < (Binary64.unitsPerOne : ℚ) :=
  Nat.cast_pos.mpr Binary64.unitsPerOne_pos

theorem units_eq (n : Number) : (n.units : ℚ) = n.value * Binary64.unitsPerOne := by
  cases n with
  | integer m _ => rw [units, value, Int.cast_mul, Int.cast_natCast]
  | float x => rw [units, value, Binary64.value, div_mul_cancel₀ _ unit_pos.ne']

theorem value_lt_iff : a.value < b.value ↔ a.units < b.units := by
  rw [← mul_lt_mul_iff_left₀ unit_pos, ← units_eq, ← units_eq, Int.cast_lt]

theorem value_eq_iff : a.value = b.value ↔ a.units = b.units := by
  rw [← mul_left_inj' unit_pos.ne', ← units_eq, ← units_eq, Int.cast_inj]

theorem units_eq_of_value {v : Number} {V : Int} (h : v.value = V) :
    v.units = V * Binary64.unitsPerOne := by
  have hunits := units_eq v
  rw [h] at hunits
  exact_mod_cast hunits

theorem value_of_units_eq {v : Number} {V : Int} (h : v.units = V * Binary64.unitsPerOne) :
    v.value = V := by
  have hunits := units_eq v
  rw [h, Int.cast_mul, Int.cast_natCast] at hunits
  exact (mul_right_cancel₀ unit_pos.ne' hunits).symm

theorem abs_value_mul (n : Number) :
    |n.value| * Binary64.unitsPerOne = (n.units.natAbs : ℚ) := by
  rw [Nat.cast_natAbs, Int.cast_abs, units_eq, abs_mul, abs_of_pos unit_pos]

theorem abs_sub_mul (a b : Number) :
    |a.value - b.value| * Binary64.unitsPerOne = ((a.units - b.units).natAbs : ℚ) := by
  rw [Nat.cast_natAbs, Int.cast_abs, Int.cast_sub, units_eq, units_eq, ← sub_mul, abs_mul,
    abs_of_pos unit_pos]

/-- A size that is a whole number, in units. -/
theorem le_abs_value_iff {n : Nat} :
    (n : ℚ) ≤ |a.value| ↔ n * Binary64.unitsPerOne ≤ a.units.natAbs := by
  rw [← mul_le_mul_iff_left₀ unit_pos, abs_value_mul, ← Nat.cast_mul, Nat.cast_le]

/-- A relative difference, in units. -/
theorem mul_abs_sub_le_iff {n : Nat} :
    n * |a.value - b.value| ≤ |c.value| ↔ n * (a.units - b.units).natAbs ≤ c.units.natAbs := by
  rw [← mul_le_mul_iff_left₀ unit_pos, mul_assoc, abs_value_mul, abs_sub_mul, ← Nat.cast_mul,
    Nat.cast_le]

/-- The integers are the numbers of whole value. -/
theorem isInteger_iff (n : Number) : n.isInteger = true ↔ ∃ whole : Int, n.value = whole := by
  cases n with
  | integer m _ => simp [isInteger, value]
  | float x =>
      rw [isInteger, Binary64.isWhole, beq_iff_eq, ← Int.dvd_iff_emod_eq_zero]
      simp only [value, Binary64.value, div_eq_iff unit_pos.ne']
      refine exists_congr fun whole => ?_
      rw [Int.mul_comm]
      exact_mod_cast Iff.rfl

end Number
end JsonSchema
