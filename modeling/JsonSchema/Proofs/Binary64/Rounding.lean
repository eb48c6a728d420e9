import JsonSchema.Binary64.Rounding
import JsonSchema.Proofs.Binary64.Magnitude
import Mathlib.Data.Nat.Log

/-!
# What rounding to the nearest double does

Rounding never passes a double: what is rounded lies on the same side of every double as the result,
or the result is that double. So doubles are rounded to themselves, and larger numbers to no
smaller ones. Above the lowest binade the result is off by at most one part in `2 ^ 53`.
-/

namespace JsonSchema.Binary64

/-! ## Whole numbers -/

theorem roundHalfEven_cases (num den : Nat) :
    roundHalfEven num den = num / den ∧ 2 * (num % den) ≤ den ∨
      roundHalfEven num den = num / den + 1 ∧ den ≤ 2 * (num % den) := by
  simp only [roundHalfEven]
  split
  · exact .inl ⟨rfl, by omega⟩
  · split
    · exact .inr ⟨rfl, by omega⟩
    · split
      · exact .inl ⟨rfl, by omega⟩
      · exact .inr ⟨rfl, by omega⟩

theorem roundHalfEven_le {num den k : Nat} (hden : 0 < den) (h : num ≤ k * den) :
    roundHalfEven num den ≤ k := by
  have hquotient : num / den ≤ k := (Nat.div_le_div_right h).trans (Nat.mul_div_cancel k hden).le
  rcases roundHalfEven_cases num den with ⟨heq, -⟩ | ⟨heq, hrest⟩
  · exact heq ▸ hquotient
  · -- A remainder leaves room below `k`.
    have hlt : num / den < k := by
      refine lt_of_le_of_ne hquotient fun hk => ?_
      have hdecomposed := Nat.div_add_mod num den
      rw [hk, Nat.mul_comm] at hdecomposed
      omega
    omega

theorem le_roundHalfEven {num den k : Nat} (hden : 0 < den) (h : k * den ≤ num) :
    k ≤ roundHalfEven num den := by
  have hquotient : k ≤ num / den := (Nat.le_div_iff_mul_le hden).mpr h
  rcases roundHalfEven_cases num den with ⟨heq, -⟩ | ⟨heq, -⟩ <;> omega

/-- A whole number beside a quotient is at most one half away, if the remainder says so. -/
theorem near_of_cases {num den n : Nat} (hden : 0 < den)
    (h : n = num / den ∧ 2 * (num % den) ≤ den ∨ n = num / den + 1 ∧ den ≤ 2 * (num % den)) :
    2 * (n * den) ≤ 2 * num + den ∧ 2 * num ≤ 2 * (n * den) + den := by
  have hdecomposed := Nat.div_add_mod num den
  rw [Nat.mul_comm] at hdecomposed
  have hlt := Nat.mod_lt num hden
  rcases h with ⟨rfl, hrest⟩ | ⟨rfl, hrest⟩
  · omega
  · rw [Nat.add_one_mul (num / den)]
    omega

/-- The nearest whole number is at most one half away. -/
theorem roundHalfEven_near (num : Nat) {den : Nat} (hden : 0 < den) :
    2 * (roundHalfEven num den * den) ≤ 2 * num + den ∧
      2 * num ≤ 2 * (roundHalfEven num den * den) + den :=
  near_of_cases hden (roundHalfEven_cases num den)

/-! ## Doubles -/

variable {num den rank : Nat}

/-- The quotient that is rounded to a significand, at the scale of its binade. -/
theorem exists_binade (num : Nat) (hden : 0 < den) :
    ∃ scale, (num / den).log2 - 52 = scale ∧
      num ≤ 0x20000000000000 * (den * 2 ^ scale) ∧
      (scale = 0 ∨ 0x10000000000000 * (den * 2 ^ scale) ≤ num) := by
  refine ⟨_, rfl, ?_, ?_⟩
  · have hlt : num / den < 2 ^ (53 + ((num / den).log2 - 52)) :=
      Nat.lt_log2_self.trans_le (Nat.pow_le_pow_right (by decide) (by omega))
    calc num ≤ 2 ^ (53 + ((num / den).log2 - 52)) * den :=
          ((Nat.div_lt_iff_lt_mul hden).mp hlt).le
      _ = _ := by ring
  · by_cases hzero : num / den = 0
    · simp [hzero]
    · rcases Nat.eq_zero_or_pos ((num / den).log2 - 52) with hscale | hscale
      · exact .inl hscale
      · refine .inr ?_
        have hle : 2 ^ (52 + ((num / den).log2 - 52)) ≤ num / den := by
          rw [Nat.add_sub_cancel' (by omega)]
          exact Nat.log2_self_le hzero
        calc _ = den * 2 ^ (52 + ((num / den).log2 - 52)) := by ring
          _ ≤ den * (num / den) := Nat.mul_le_mul_left _ hle
          _ ≤ num := Nat.mul_div_le num den

/-- The magnitude that a quotient is rounded to is a rounded significand at the scale of its
binade. -/
theorem exists_rounded (num : Nat) (hden : 0 < den) :
    ∃ scale, let significand := roundHalfEven num (den * 2 ^ scale)
      magnitudeAt (nearestRank num den) = significand * 2 ^ scale ∧
      Normalized scale significand ∧
      (scale = 0 ∨ 0x10000000000000 * (den * 2 ^ scale) ≤ num) := by
  obtain ⟨scale, hscale, hhigh, hlow⟩ := exists_binade num hden
  have hpos : 0 < den * 2 ^ scale := Nat.mul_pos hden (Nat.two_pow_pos _)
  have hnormal : Normalized scale (roundHalfEven num (den * 2 ^ scale)) :=
    ⟨roundHalfEven_le hpos hhigh, hlow.imp_right (le_roundHalfEven hpos)⟩
  refine ⟨scale, ?_, hnormal, hlow⟩
  rw [← magnitudeAt_of_normalized hnormal, nearestRank, hscale, Nat.pow_eq]

/-- A quotient that is not above a double is not rounded above it. -/
theorem nearestRank_le (hden : 0 < den) (h : num ≤ den * magnitudeAt rank) :
    nearestRank num den ≤ rank := by
  obtain ⟨scale, hmagnitude, -, hlow⟩ := exists_rounded num hden
  have hpos : 0 < den * 2 ^ scale := Nat.mul_pos hden (Nat.two_pow_pos _)
  rw [← magnitudeAt_strictMono.le_iff_le, hmagnitude]
  rcases exists_multiple rank scale with ⟨k, hk⟩ | ⟨hscale, hsmall⟩
  · rw [hk]
    refine Nat.mul_le_mul_right _ (roundHalfEven_le hpos ?_)
    calc num ≤ den * magnitudeAt rank := h
      _ = k * (den * 2 ^ scale) := by rw [hk]; ring
  · -- The quotient is in a binade above the double.
    have hlow := hlow.resolve_left (by omega)
    have hlt : den * magnitudeAt rank < den * (0x10000000000000 * 2 ^ scale) :=
      Nat.mul_lt_mul_of_pos_left hsmall hden
    rw [Nat.mul_left_comm] at hlt
    omega

/-- A quotient that is not below a double is not rounded below it. -/
theorem le_nearestRank (hden : 0 < den) (h : den * magnitudeAt rank ≤ num) :
    rank ≤ nearestRank num den := by
  obtain ⟨scale, hmagnitude, hnormal, -⟩ := exists_rounded num hden
  have hpos : 0 < den * 2 ^ scale := Nat.mul_pos hden (Nat.two_pow_pos _)
  rw [← magnitudeAt_strictMono.le_iff_le, hmagnitude]
  rcases exists_multiple rank scale with ⟨k, hk⟩ | ⟨hscale, hsmall⟩
  · rw [hk]
    refine Nat.mul_le_mul_right _ (le_roundHalfEven hpos ?_)
    calc k * (den * 2 ^ scale) = den * magnitudeAt rank := by rw [hk]; ring
      _ ≤ num := h
  · exact hsmall.le.trans (Nat.mul_le_mul_right _ (hnormal.hidden.resolve_left (by omega)))

/-- A double is rounded to itself. -/
theorem nearestRank_eq (hden : 0 < den) (h : num = den * magnitudeAt rank) :
    nearestRank num den = rank :=
  le_antisymm (nearestRank_le hden h.le) (le_nearestRank hden h.ge)

/-! ## Errors -/

/-- Two natural numbers that differ by at most one part in `2 ^ 53` of each. -/
structure Close (a b : Nat) : Prop where
  left : 0x20000000000000 * a ≤ 0x20000000000001 * b
  right : 0x20000000000000 * b ≤ 0x20000000000001 * a

theorem Close.refl (a : Nat) : Close a a := ⟨by omega, by omega⟩

theorem Close.symm {a b : Nat} (h : Close a b) : Close b a := ⟨h.right, h.left⟩

theorem Close.mul_right {a b : Nat} (h : Close a b) (c : Nat) : Close (a * c) (b * c) := by
  obtain ⟨hleft, hright⟩ := h
  constructor <;> rw [← Nat.mul_assoc, ← Nat.mul_assoc]
  · exact Nat.mul_le_mul_right c hleft
  · exact Nat.mul_le_mul_right c hright

/-- Above the lowest binade rounding is off by at most one part in `2 ^ 53`. -/
theorem close_nearestRank (hden : 0 < den) (h : 0x10000000000000 * den ≤ num) :
    Close (den * magnitudeAt (nearestRank num den)) num := by
  obtain ⟨scale, hmagnitude, -, hlow⟩ := exists_rounded num hden
  have hpos : 0 < den * 2 ^ scale := Nat.mul_pos hden (Nat.two_pow_pos _)
  have hunit : 0x10000000000000 * (den * 2 ^ scale) ≤ num := by
    rcases hlow with rfl | hlow
    · simpa using h
    · exact hlow
  have hsignificand := Nat.mul_le_mul_right (den * 2 ^ scale) (le_roundHalfEven hpos hunit)
  obtain ⟨habove, hbelow⟩ := roundHalfEven_near num hpos
  rw [hmagnitude, Nat.mul_left_comm]
  constructor <;> omega

/-! ## Whole numbers as doubles -/

theorem unitsPerOne_pos : 0 < unitsPerOne := by decide +kernel

theorem exists_unitsPerOne_eq : ∃ k, 105 ≤ k ∧ k ≤ 1074 ∧ unitsPerOne = 2 ^ k :=
  ⟨1074, by decide, le_rfl, by decide +kernel⟩

/-- Whole numbers up to `2 ^ 64` are rounded to finite doubles. -/
theorem nearestRank_lt_of_le {n : Nat} (h : n ≤ 0x10000000000000000) :
    nearestRank (n * unitsPerOne) 1 < 0x7FF0000000000000 := by
  obtain ⟨k, -, hk, hunit⟩ := exists_unitsPerOne_eq
  have hnormal : Normalized (12 + k) 0x10000000000000 := ⟨by omega, .inr le_rfl⟩
  have hlimit : n * unitsPerOne ≤
      1 * magnitudeAt ((12 + k) * 0x10000000000000 + 0x10000000000000) := by
    calc n * unitsPerOne ≤ 0x10000000000000000 * 2 ^ k := hunit ▸ Nat.mul_le_mul_right _ h
      _ = 1 * (0x10000000000000 * 2 ^ (12 + k)) := by rw [Nat.pow_add]; omega
      _ = _ := by rw [magnitudeAt_of_normalized hnormal]
  have hle := nearestRank_le Nat.one_pos hlimit
  omega

variable {n : Int}

theorem ofInt_eq (h : n.natAbs ≤ 0x10000000000000000) :
    ofInt n = ⟨n < 0, nearestRank (n.natAbs * unitsPerOne) 1, nearestRank_lt_of_le h⟩ := by
  rw [ofInt, ofRatio, dif_pos (nearestRank_lt_of_le h)]
  rfl

theorem magnitude_ofInt (h : n.natAbs ≤ 0x10000000000000000) :
    (ofInt n).magnitude = magnitudeAt (nearestRank (n.natAbs * unitsPerOne) 1) := by
  rw [ofInt_eq h, magnitude_eq]

theorem magnitude_ofInt_le (rank : Nat) (h : n.natAbs ≤ 0x10000000000000000)
    (hle : n.natAbs * unitsPerOne ≤ magnitudeAt rank) : (ofInt n).magnitude ≤ magnitudeAt rank := by
  rw [magnitude_ofInt h, magnitudeAt_strictMono.le_iff_le]
  exact nearestRank_le Nat.one_pos (by rwa [Nat.one_mul])

theorem le_magnitude_ofInt (rank : Nat) (h : n.natAbs ≤ 0x10000000000000000)
    (hle : magnitudeAt rank ≤ n.natAbs * unitsPerOne) : magnitudeAt rank ≤ (ofInt n).magnitude := by
  rw [magnitude_ofInt h, magnitudeAt_strictMono.le_iff_le]
  exact le_nearestRank Nat.one_pos (by rwa [Nat.one_mul])

/-- Whole numbers of 53 binary digits are doubles. -/
theorem exists_magnitudeAt_whole {m : Nat} (h : m ≤ 0x20000000000000) :
    ∃ rank, magnitudeAt rank = m * unitsPerOne := by
  obtain ⟨k, -, -, hunit⟩ := exists_unitsPerOne_eq
  exact hunit ▸ exists_magnitudeAt_eq h k

theorem magnitude_ofInt_eq (h : n.natAbs ≤ 0x20000000000000) :
    (ofInt n).magnitude = n.natAbs * unitsPerOne := by
  obtain ⟨rank, hrank⟩ := exists_magnitudeAt_whole h
  have hle := magnitude_ofInt_le rank (h.trans (by omega)) hrank.ge
  have hge := le_magnitude_ofInt rank (h.trans (by omega)) hrank.le
  omega

/-- Beyond that they are doubles of at least that size. -/
theorem le_magnitude_ofInt_of_le (h : n.natAbs ≤ 0x10000000000000000)
    (hlarge : 0x20000000000000 ≤ n.natAbs) :
    0x20000000000000 * unitsPerOne ≤ (ofInt n).magnitude := by
  obtain ⟨rank, hrank⟩ := exists_magnitudeAt_whole (le_refl 0x20000000000000)
  rw [← hrank]
  exact le_magnitude_ofInt rank h (hrank.trans_le (Nat.mul_le_mul_right _ hlarge))

/-- A double of 53 or more binary digits before the point has none after it. -/
theorem dvd_magnitude {x : Binary64} (h : 0x10000000000000 * unitsPerOne ≤ x.magnitude) :
    unitsPerOne ∣ x.magnitude := by
  obtain ⟨k, -, -, hunit⟩ := exists_unitsPerOne_eq
  rw [hunit] at h ⊢
  rcases exists_multiple x.rank k with ⟨significand, hmagnitude⟩ | ⟨-, hlt⟩
  · exact ⟨significand, by rw [magnitude_eq, hmagnitude, Nat.mul_comm]⟩
  · exact absurd h hlt.not_ge

/-- A whole number is off by at most one part in `2 ^ 53` as a double. -/
theorem close_ofInt (h : n.natAbs ≤ 0x10000000000000000) :
    Close (ofInt n).magnitude (n.natAbs * unitsPerOne) := by
  by_cases hsmall : n.natAbs ≤ 0x20000000000000
  · rw [magnitude_ofInt_eq hsmall]
    exact .refl _
  · have hnormal : 0x10000000000000 * 1 ≤ n.natAbs * unitsPerOne :=
      Nat.mul_le_mul (by omega) unitsPerOne_pos
    rw [magnitude_ofInt h, ← Nat.one_mul (magnitudeAt _)]
    exact close_nearestRank Nat.one_pos hnormal

/-! The same with the sign. -/

theorem units_cases (x : Binary64) : x.units = x.magnitude ∨ x.units = -x.magnitude := by
  unfold units
  split
  · exact .inr rfl
  · exact .inl rfl

theorem natAbs_units (x : Binary64) : x.units.natAbs = x.magnitude := by
  rcases x.units_cases with hx | hx <;> omega

theorem units_ofInt (h : n.natAbs ≤ 0x10000000000000000) :
    (ofInt n).units = if n < 0 then -((ofInt n).magnitude : Int) else (ofInt n).magnitude := by
  simp only [units, ofInt_eq h, decide_eq_true_eq]

theorem mul_unitsPerOne (n : Int) :
    n * unitsPerOne = if n < 0 then -((n.natAbs * unitsPerOne : Nat) : Int)
      else (n.natAbs * unitsPerOne : Nat) := by
  split <;> push_cast
  · rw [abs_of_neg (by omega)]
    ring
  · rw [abs_of_nonneg (by omega)]

theorem isWhole_iff (x : Binary64) : x.isWhole = true ↔ unitsPerOne ∣ x.magnitude := by
  rw [isWhole, beq_iff_eq, ← Int.dvd_iff_emod_eq_zero, Int.natCast_dvd, natAbs_units]

theorem units_ofInt_eq (h : n.natAbs ≤ 0x20000000000000) : (ofInt n).units = n * unitsPerOne := by
  rw [mul_unitsPerOne, units_ofInt (h.trans (by omega)), magnitude_ofInt_eq h]

theorem close_units_ofInt (h : n.natAbs ≤ 0x10000000000000000) :
    0x20000000000000 * (n * unitsPerOne - (ofInt n).units).natAbs ≤ n.natAbs * unitsPerOne ∧
      0x20000000000000 * (n * unitsPerOne - (ofInt n).units).natAbs ≤ (ofInt n).magnitude := by
  obtain ⟨hleft, hright⟩ := close_ofInt h
  rw [mul_unitsPerOne, units_ofInt h]
  generalize n.natAbs * unitsPerOne = exact at hleft hright
  split <;> omega

/-- Rounding a whole number does not pass a double. -/
theorem units_ofInt_side (x : Binary64) (h : n.natAbs ≤ 0x10000000000000000) :
    (n * unitsPerOne ≤ x.units → (ofInt n).units ≤ x.units) ∧
      (x.units ≤ n * unitsPerOne → x.units ≤ (ofInt n).units) := by
  have habove := magnitude_ofInt_le x.rank h
  have hbelow := le_magnitude_ofInt x.rank h
  rw [← magnitude_eq] at habove hbelow
  rw [mul_unitsPerOne, units_ofInt h]
  generalize n.natAbs * unitsPerOne = exact at habove hbelow
  -- Where the signs differ, only zero is on both sides.
  rcases x.units_cases with hx | hx <;> rw [hx] <;> split <;> omega

end JsonSchema.Binary64
