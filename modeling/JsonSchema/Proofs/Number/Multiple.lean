import JsonSchema.Proofs.Binary64.Quotient
import JsonSchema.Proofs.Number.Value

/-!
# Multiples among whole numbers

Multiples are never missed, whichever way the numbers are kept. A number that is no multiple passes
for one only if one of the two is a double, and only if it is as near to a multiple as one part in
`2 ^ 50`. So whole numbers below `2 ^ 50` are divided exactly.
-/

namespace JsonSchema.Number

open Binary64 (Close Operands NearlyWhole quotientMagnitude unitsPerOne)

variable {v d : Number} {V D : Int}

/-! ## Whole numbers as doubles -/

theorem magnitude_of_not_isWord (h : v.value = V) (hword : ¬v.IsWord) :
    v.toBinary64.magnitude = V.natAbs * unitsPerOne := by
  cases v with
  | integer n _ => exact absurd trivial hword
  | float x =>
      have hunits : x.units = V * unitsPerOne := units_eq_of_value h
      rw [toBinary64, ← Binary64.natAbs_units, hunits, Int.natAbs_mul, Int.natAbs_natCast]

theorem close_toBinary64 (h : v.value = V) :
    Close v.toBinary64.magnitude (V.natAbs * unitsPerOne) := by
  cases v with
  | integer n fits =>
      obtain rfl : n = V := Int.cast_injective h
      exact Binary64.close_ofInt (natAbs_le_of_fitsWord fits)
  | float x => exact magnitude_of_not_isWord h not_false ▸ .refl _

/-- A whole number other than zero is a double of one or more. -/
theorem one_le_toBinary64 (h : v.value = V) (hV : V ≠ 0) :
    unitsPerOne ≤ v.toBinary64.magnitude := by
  have hle : 1 * unitsPerOne ≤ V.natAbs * unitsPerOne :=
    Nat.mul_le_mul_right _ (Int.natAbs_pos.mpr hV)
  rw [← Nat.one_mul unitsPerOne]
  cases v with
  | integer n fits =>
      obtain rfl : n = V := Int.cast_injective h
      obtain ⟨place, hplace⟩ := Binary64.exists_magnitudeAt_whole (m := 1) (by decide)
      rw [← hplace] at hle ⊢
      exact Binary64.le_magnitude_ofInt place (natAbs_le_of_fitsWord fits) hle
  | float x => exact hle.trans (magnitude_of_not_isWord h not_false).ge

theorem operands (hV : v.value = V) (hD : d.value = D) (hpos : 0 < D)
    (hmixed : ¬(v.IsWord ∧ d.IsWord)) :
    Operands v.toBinary64 d.toBinary64 V.natAbs D.natAbs where
  dividend := close_toBinary64 hV
  divisor := close_toBinary64 hD
  exact := (not_and_or.mp hmixed).imp (magnitude_of_not_isWord hV) (magnitude_of_not_isWord hD)
  one_le := one_le_toBinary64 hD hpos.ne'

/-! ## Divisibility -/

/-- Numbers kept as whole numbers are divided exactly. -/
theorem isMultipleOf_words (hV : v.value = V) (hD : d.value = D) (hpos : 0 < D)
    (hwords : v.IsWord ∧ d.IsWord) : v.isMultipleOf d = true ↔ D ∣ V := by
  obtain ⟨hv, hd⟩ := hwords
  cases v with
  | float x => exact hv.elim
  | integer m _ =>
      cases d with
      | float y => exact hd.elim
      | integer n _ =>
          obtain rfl : m = V := Int.cast_injective hV
          obtain rfl : n = D := Int.cast_injective hD
          simp [isMultipleOf, hpos.ne', Int.dvd_iff_tmod_eq_zero]

/-- In all other cases the rounded quotient decides. -/
theorem isMultipleOf_mixed (hD : d.value = D) (hpos : 0 < D) (hmixed : ¬(v.IsWord ∧ d.IsWord)) :
    v.isMultipleOf d = true ↔ NearlyWhole (quotientMagnitude v.toBinary64 d.toBinary64) := by
  obtain ⟨quotient, hdivide, hmagnitude⟩ :=
    Binary64.divide_eq (x := v.toBinary64) (one_le_toBinary64 hD hpos.ne')
  have hforms : ∀ m hm n hn, v = integer m hm → d = integer n hn → False := by
    rintro m hm n hn rfl rfl
    exact hmixed ⟨trivial, trivial⟩
  rw [isMultipleOf, hdivide, ← hmagnitude, Binary64.isNearlyWhole_iff]
  exact hforms

/-- Multiples are never missed. -/
theorem isMultipleOf_of_dvd (hV : v.value = V) (hD : d.value = D) (hpos : 0 < D) (h : D ∣ V) :
    v.isMultipleOf d = true := by
  by_cases hwords : v.IsWord ∧ d.IsWord
  · exact (isMultipleOf_words hV hD hpos hwords).mpr h
  · obtain ⟨k, hk⟩ := Int.natAbs_dvd_natAbs.mpr h
    rw [isMultipleOf_mixed hD hpos hwords]
    exact (operands hV hD hpos hwords).nearlyWhole_of_eq_mul (hk.trans (Nat.mul_comm _ _))

/-- Quotients that are very large or very small pass, unless both numbers are kept as whole
numbers. -/
theorem isMultipleOf_of_extreme (hV : v.value = V) (hD : d.value = D) (hpos : 0 < D)
    (hmixed : ¬(v.IsWord ∧ d.IsWord)) (h : 2 ^ 52 * D ≤ |V| ∨ 2 ^ 53 * |V| ≤ D) :
    v.isMultipleOf d = true := by
  rw [isMultipleOf_mixed hD hpos hmixed]
  rw [Int.abs_eq_natAbs] at h
  rcases h with hlarge | htiny
  · exact (operands hV hD hpos hmixed).nearlyWhole_of_large (by omega)
  · exact (operands hV hD hpos hmixed).nearlyWhole_of_tiny (by omega)

/-- What passes is nearly a multiple. -/
theorem exists_multiple_near (hV : v.value = V) (hD : d.value = D) (hpos : 0 < D)
    (hmixed : ¬(v.IsWord ∧ d.IsWord)) (h : v.isMultipleOf d = true) :
    ∃ K : Int, 2 ^ 50 * |V - K * D| ≤ max |V| D := by
  rw [isMultipleOf_mixed hD hpos hmixed] at h
  obtain ⟨k, hleft, hright⟩ := (operands hV hD hpos hmixed).exists_multiple_near h
  have hmul : ((k * D.natAbs : Nat) : Int) = k * D := by
    rw [Nat.cast_mul, Int.natAbs_of_nonneg hpos.le]
  rw [Int.abs_eq_natAbs V]
  rcases Int.le_total 0 V with hsign | hsign
  · refine ⟨k, ?_⟩
    rw [← hmul, Int.abs_eq_natAbs]
    omega
  · refine ⟨-k, ?_⟩
    rw [Int.neg_mul, ← hmul, Int.abs_eq_natAbs]
    omega

/-- Below `2 ^ 50` divisibility is exact, in every way of keeping the numbers. -/
theorem isMultipleOf_iff_of_lt (hV : v.value = V) (hD : d.value = D) (hpos : 0 < D)
    (hV' : |V| < 2 ^ 50) (hD' : D < 2 ^ 50) : v.isMultipleOf d = true ↔ D ∣ V := by
  by_cases hwords : v.IsWord ∧ d.IsWord
  · exact isMultipleOf_words hV hD hpos hwords
  · refine ⟨fun h => ?_, isMultipleOf_of_dvd hV hD hpos⟩
    obtain ⟨K, hK⟩ := exists_multiple_near hV hD hpos hwords h
    have hlt : 2 ^ 50 * |V - K * D| < 2 ^ 50 * 1 := hK.trans_lt (max_lt hV' hD')
    have hzero : V - K * D = 0 := Int.abs_lt_one_iff.mp (lt_of_mul_lt_mul_left hlt (by decide))
    exact ⟨K, by rw [Int.mul_comm]; exact sub_eq_zero.mp hzero⟩

/-- Divisibility among whole numbers. Numbers kept as whole numbers are divided exactly. Where a
double takes part multiples pass, and so does every quotient that is large or small enough, but
nothing passes that is not nearly a multiple. Below `2 ^ 50` it makes no difference how the numbers
are kept. -/
theorem isMultipleOf_whole (hv : v.isInteger = true) (hd : d.isInteger = true)
    (hpos : 0 < d.value) :
    ∃ V D : Int, v.value = V ∧ d.value = D ∧
      (v.IsWord ∧ d.IsWord → (v.isMultipleOf d = true ↔ D ∣ V)) ∧
      (D ∣ V → v.isMultipleOf d = true) ∧
      (¬(v.IsWord ∧ d.IsWord) →
        (v.isMultipleOf d = true → ∃ K : Int, 2 ^ 50 * |V - K * D| ≤ max |V| D) ∧
        (2 ^ 52 * D ≤ |V| ∨ 2 ^ 53 * |V| ≤ D → v.isMultipleOf d = true)) ∧
      (|V| < 2 ^ 50 → D < 2 ^ 50 → ∀ v' d' : Number, v'.value = v.value → d'.value = d.value →
        (v'.isMultipleOf d' = true ↔ D ∣ V)) := by
  obtain ⟨V, hV⟩ := (isInteger_iff v).mp hv
  obtain ⟨D, hD⟩ := (isInteger_iff d).mp hd
  have hpos : 0 < D := by rwa [hD, Int.cast_pos] at hpos
  exact ⟨V, D, hV, hD, isMultipleOf_words hV hD hpos, isMultipleOf_of_dvd hV hD hpos,
    fun hmixed => ⟨exists_multiple_near hV hD hpos hmixed,
      isMultipleOf_of_extreme hV hD hpos hmixed⟩,
    fun hV' hD' v' d' hv' hd' =>
      isMultipleOf_iff_of_lt (hv'.trans hV) (hd'.trans hD) hpos hV' hD'⟩

/-- The number `3`, kept as a whole number. -/
def three : Number := .ofNat 3

/-- The number `6`, kept as a double. -/
def sixDouble : Number := .float ⟨false, 0x4018000000000000, by decide⟩

theorem isMultipleOf_sixDouble :
    sixDouble.isInteger = true ∧ three.isInteger = true ∧ 0 < three.value ∧
      sixDouble.isMultipleOf three = true := by
  have hsix : sixDouble.isInteger = true := by decide +kernel
  have hthree : three.value = 3 := rfl
  have hpos : 0 < three.value := hthree ▸ by norm_num
  obtain ⟨V, D, hV, hD, -, hdvd, -⟩ := isMultipleOf_whole hsix rfl hpos
  have hvalue : sixDouble.value = (ofNat 6).value := value_eq_iff.mpr (by decide +kernel)
  have hV' : V = 6 := Int.cast_injective (hV.symm.trans hvalue)
  have hD' : D = 3 := Int.cast_injective (hD.symm.trans hthree)
  exact ⟨hsix, rfl, hpos, hdvd ⟨2, by rw [hV', hD']; rfl⟩⟩

/-- The number `10 ^ 17`, kept as a double. -/
def hugeDouble : Number := .float ⟨false, 0x4376345785D8A000, by decide⟩

/-- The number `10 ^ 17`, kept as a whole number. -/
def hugeWord : Number := .integer 100000000000000000 (by decide)

/-- The same number passes as a multiple of `3` where it is kept as a double. -/
theorem isMultipleOf_hugeDouble :
    hugeDouble.isInteger = true ∧ hugeDouble.value = hugeWord.value ∧
      hugeDouble.isMultipleOf three = true ∧ hugeWord.isMultipleOf three = false ∧
      ¬(3 : Int) ∣ 100000000000000000 := by
  have hvalue : hugeDouble.value = hugeWord.value := value_eq_iff.mpr (by decide +kernel)
  exact ⟨by decide +kernel, hvalue, by decide +kernel, by decide, by decide⟩

end JsonSchema.Number
