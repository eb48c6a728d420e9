import JsonSchema.Proofs.Binary64.Rounding

/-!
# Quotients of doubles

The quotient by a double of one or more is finite. It is off by at most one part in `2 ^ 53`, so
where it should be a whole number that is a double it is that number or one of the two doubles
beside it, and these are all nearly whole.
-/

namespace JsonSchema.Binary64

variable {num den rank m : Nat}

/-! ## Nearly whole magnitudes -/

/-- Two natural numbers that differ by at most one part of a size. -/
structure Within (part a b size : Nat) : Prop where
  left : part * a ≤ part * b + size
  right : part * b ≤ part * a + size

theorem Within.mul_right {part a b size : Nat} (h : Within part a b size) (c : Nat) :
    Within part (a * c) (b * c) (size * c) := by
  obtain ⟨hleft, hright⟩ := h
  constructor <;> rw [← Nat.mul_assoc, ← Nat.mul_assoc, ← Nat.add_mul]
  · exact Nat.mul_le_mul_right c hleft
  · exact Nat.mul_le_mul_right c hright

theorem Within.of_mul_right {part a b size c : Nat} (hc : 0 < c)
    (h : Within part (a * c) (b * c) (size * c)) : Within part a b size := by
  obtain ⟨hleft, hright⟩ := h
  rw [← Nat.mul_assoc, ← Nat.mul_assoc, ← Nat.add_mul] at hleft hright
  exact ⟨Nat.le_of_mul_le_mul_right hleft hc, Nat.le_of_mul_le_mul_right hright hc⟩

/-- What a rounded quotient `q` by `b` shows of the exact operands `m` and `n`: where the one is
nearly `p`, the other is nearly `k`. The errors of the rounding add up to four parts in
`2 ^ 53`. -/
theorem Within.of_close {q a m b n p k : Nat} (hquotient : Close q a) (hdividend : Close a m)
    (hdivisor : Close b n) (hmultiple : Close p k) (hexact : a = m ∨ p = k)
    (h : Within 0x10000000000000 q p (max q b)) : Within 0x4000000000000 m k (max m n) := by
  obtain ⟨hquotient, hquotient'⟩ := hquotient
  obtain ⟨hdividend, hdividend'⟩ := hdividend
  obtain ⟨hdivisor, hdivisor'⟩ := hdivisor
  obtain ⟨hmultiple, hmultiple'⟩ := hmultiple
  obtain ⟨hleft, hright⟩ := h
  have hm := le_max_left m n
  have hn := le_max_right m n
  generalize max m n = size at hm hn
  rcases max_cases q b with ⟨hmax, -⟩ | ⟨hmax, -⟩ <;> rw [hmax] at hleft hright <;>
    rcases hexact with rfl | rfl <;> constructor <;> omega

/-- A magnitude that misses a whole number by at most one part in `2 ^ 52`, or by that part of one
where the magnitude is smaller. -/
def NearlyWhole (m : Nat) : Prop :=
  ∃ k, Within 0x10000000000000 m (k * unitsPerOne) (max m unitsPerOne)

/-- Some whole number is at most one half away. -/
theorem whole_near (m : Nat) :
    2 * m ≤ 2 * ((2 * m + unitsPerOne) / (2 * unitsPerOne) * unitsPerOne) + unitsPerOne ∧
      2 * ((2 * m + unitsPerOne) / (2 * unitsPerOne) * unitsPerOne) ≤ 2 * m + unitsPerOne := by
  have hdecomposed := Nat.div_add_mod (2 * m + unitsPerOne) (2 * unitsPerOne)
  have hlt := Nat.mod_lt (2 * m + unitsPerOne) (Nat.mul_pos Nat.two_pos unitsPerOne_pos)
  rw [Nat.mul_comm, Nat.mul_left_comm] at hdecomposed
  omega

/-- No whole number is nearer than the nearest one. -/
theorem distanceToWhole_le (x : Binary64) (k : Nat) :
    x.distanceToWhole ≤ ((x.magnitude : Int) - (k * unitsPerOne : Nat)).natAbs := by
  obtain ⟨habove, hbelow⟩ := whole_near x.magnitude
  rw [← nearestWhole] at habove hbelow
  unfold distanceToWhole
  rcases lt_trichotomy k x.nearestWhole with hlt | rfl | hgt
  · have hle := Nat.mul_le_mul_right unitsPerOne hlt
    rw [Nat.succ_mul] at hle
    omega
  · exact le_rfl
  · have hle := Nat.mul_le_mul_right unitsPerOne hgt
    rw [Nat.succ_mul] at hle
    omega

theorem isNearlyWhole_iff (x : Binary64) : x.isNearlyWhole = true ↔ NearlyWhole x.magnitude := by
  rw [isNearlyWhole, decide_eq_true_iff]
  constructor
  · intro h
    unfold distanceToWhole at h
    exact ⟨x.nearestWhole, by omega, by omega⟩
  · rintro ⟨k, habove, hbelow⟩
    have hle := distanceToWhole_le x k
    omega

theorem nearlyWhole_whole (k : Nat) : NearlyWhole (k * unitsPerOne) := ⟨k, by omega, by omega⟩

/-- From `2 ^ 51` on, the half by which a magnitude may miss a whole number is no more than the
part. -/
theorem nearlyWhole_of_le (h : 0x8000000000000 * unitsPerOne ≤ m) : NearlyWhole m := by
  obtain ⟨habove, hbelow⟩ := whole_near m
  exact ⟨(2 * m + unitsPerOne) / (2 * unitsPerOne), by omega, by omega⟩

theorem nearlyWhole_of_small (h : 0x10000000000000 * m ≤ unitsPerOne) : NearlyWhole m :=
  ⟨0, by omega, by omega⟩

theorem pow_le_unitsPerOne : 2 ^ 105 ≤ unitsPerOne := by
  obtain ⟨k, hk, -, hunit⟩ := exists_unitsPerOne_eq
  exact hunit ▸ Nat.pow_le_pow_right (by decide) hk

/-- The doubles beside a whole number are nearly that number. -/
theorem nearlyWhole_of_beside {place k : Nat} (hk : 0 < k)
    (hwhole : magnitudeAt place = k * unitsPerOne) (hhigh : rank ≤ place + 1)
    (hlow : place ≤ rank + 1) : NearlyWhole (magnitudeAt rank) := by
  have hlarge : 0x10000000000000 < magnitudeAt place :=
    hwhole ▸ (pow_le_unitsPerOne.trans (Nat.le_mul_of_pos_left _ hk)).trans_lt' (by decide)
  obtain rfl | rfl | rfl : rank = place + 1 ∨ rank = place ∨ place = rank + 1 := by omega
  · have hlt := magnitudeAt_lt_succ place
    have hstep := magnitudeAt_succ_le hlarge.le
    exact ⟨k, by omega, by omega⟩
  · exact hwhole ▸ nearlyWhole_whole k
  · have hlt := magnitudeAt_lt_succ rank
    -- The place below is not in the lowest binade either.
    have hlowest : Normalized 0 0x10000000000000 := ⟨by decide, .inl rfl⟩
    have hnormal : magnitudeAt 0x10000000000000 = 0x10000000000000 := by
      simpa using magnitudeAt_of_normalized hlowest
    have hplace : 0x10000000000000 ≤ rank := by
      rw [← hnormal, magnitudeAt_strictMono.lt_iff_lt] at hlarge
      omega
    have hstep := magnitudeAt_succ_le (hnormal ▸ magnitudeAt_strictMono.monotone hplace)
    exact ⟨k, by omega, by omega⟩

/-! ## The rounded quotient -/

/-- What is close to a double is rounded to it or to one beside it. -/
theorem nearestRank_beside {place : Nat} (hden : 0 < den)
    (h : Close num (den * magnitudeAt place)) :
    nearestRank num den ≤ place + 1 ∧ place ≤ nearestRank num den + 1 := by
  obtain ⟨hleft, hright⟩ := h
  constructor
  · refine nearestRank_le hden ?_
    have hstep := Nat.mul_le_mul_left den (magnitudeAt_le_succ place)
    rw [Nat.mul_left_comm, Nat.mul_left_comm den] at hstep
    omega
  · cases place with
    | zero => exact Nat.zero_le _
    | succ below =>
        refine Nat.succ_le_succ (le_nearestRank hden ?_)
        have hstep := Nat.mul_le_mul_left den (magnitudeAt_le_succ below)
        rw [Nat.mul_left_comm, Nat.mul_left_comm den] at hstep
        omega

/-- The magnitude of the rounded quotient. -/
def quotientMagnitude (x y : Binary64) : Nat :=
  magnitudeAt (nearestRank (x.magnitude * unitsPerOne) y.magnitude)

/-- The quotient by a double of one or more is not larger than the dividend. -/
theorem divide_eq {x y : Binary64} (h : unitsPerOne ≤ y.magnitude) :
    ∃ quotient, x.divide y = some quotient ∧ quotient.magnitude = quotientMagnitude x y := by
  have hpos : 0 < y.magnitude := unitsPerOne_pos.trans_le h
  have hle : nearestRank (x.magnitude * unitsPerOne) y.magnitude ≤ x.rank := by
    refine nearestRank_le hpos ?_
    rw [← magnitude_eq, Nat.mul_comm]
    exact Nat.mul_le_mul_right _ h
  refine ⟨⟨x.negative != y.negative, _, hle.trans_lt x.rank_lt⟩, ?_, rfl⟩
  rw [divide, if_neg hpos.ne', ofRatio, dif_pos (hle.trans_lt x.rank_lt)]

/-! ## Quotients of whole numbers -/

/-- Doubles for a dividend and a divisor that are whole numbers. One of the two may be rounded. -/
structure Operands (x y : Binary64) (m n : Nat) : Prop where
  dividend : Close x.magnitude (m * unitsPerOne)
  divisor : Close y.magnitude (n * unitsPerOne)
  exact : x.magnitude = m * unitsPerOne ∨ y.magnitude = n * unitsPerOne
  one_le : unitsPerOne ≤ y.magnitude

namespace Operands

variable {x y : Binary64} {m n : Nat}

theorem pos (h : Operands x y m n) : 0 < y.magnitude := unitsPerOne_pos.trans_le h.one_le

/-- A quotient of `2 ^ 52` or more is nearly whole, whatever the operands. -/
theorem nearlyWhole_of_large (h : Operands x y m n) (hlarge : 0x10000000000000 * n ≤ m) :
    NearlyWhole (quotientMagnitude x y) := by
  obtain ⟨place, hplace⟩ := exists_magnitudeAt_whole (m := 0x8000000000000) (by decide)
  have hunits := Nat.mul_le_mul_right unitsPerOne hlarge
  have hdividend := h.dividend.right
  have hdivisor := h.divisor.left
  rw [Nat.mul_assoc] at hunits
  have hle : y.magnitude * 0x8000000000000 ≤ x.magnitude := by omega
  apply nearlyWhole_of_le
  rw [← hplace, quotientMagnitude, magnitudeAt_strictMono.le_iff_le]
  refine le_nearestRank h.pos ?_
  rw [hplace, ← Nat.mul_assoc]
  exact Nat.mul_le_mul_right _ hle

/-- So is a quotient of one part in `2 ^ 53` or less. -/
theorem nearlyWhole_of_tiny (h : Operands x y m n) (htiny : 0x20000000000000 * m ≤ n) :
    NearlyWhole (quotientMagnitude x y) := by
  obtain ⟨k, hk, -, hunit⟩ := exists_unitsPerOne_eq
  obtain ⟨place, hplace⟩ := exists_magnitudeAt_eq (show 1 ≤ 0x20000000000000 by decide) (k - 52)
  have hpart : 0x10000000000000 * magnitudeAt place = unitsPerOne := by
    rw [hplace, hunit, Nat.one_mul, ← Nat.pow_sub_mul_pow 2 (show 52 ≤ k by omega), Nat.mul_comm]
  have hunits := Nat.mul_le_mul_right unitsPerOne htiny
  have hdividend := h.dividend.left
  have hdivisor := h.divisor.right
  rw [Nat.mul_assoc] at hunits
  have hle : x.magnitude * 0x10000000000000 ≤ y.magnitude := by omega
  refine nearlyWhole_of_small (le_trans ?_ hpart.le)
  refine Nat.mul_le_mul_left _ (magnitudeAt_strictMono.monotone (nearestRank_le h.pos ?_))
  rw [← hpart, ← Nat.mul_assoc]
  exact Nat.mul_le_mul_right _ hle

/-- A quotient that is whole is nearly whole after rounding. -/
theorem nearlyWhole_of_eq_mul {k : Nat} (h : Operands x y m n) (hmul : m = k * n) :
    NearlyWhole (quotientMagnitude x y) := by
  rcases Nat.eq_zero_or_pos k with rfl | hk
  · have hzero : x.magnitude = 0 := by
      have hleft := h.dividend.left
      rw [hmul] at hleft
      omega
    have hrank : nearestRank (x.magnitude * unitsPerOne) y.magnitude = 0 :=
      nearestRank_eq h.pos (by rw [hzero, magnitudeAt_zero, Nat.zero_mul, Nat.mul_zero])
    rw [quotientMagnitude, hrank, magnitudeAt_zero, ← Nat.zero_mul unitsPerOne]
    exact nearlyWhole_whole 0
  · rcases Nat.le_total k 0x20000000000000 with hle | hge
    · obtain ⟨place, hplace⟩ := exists_magnitudeAt_whole hle
      have hclose : Close (x.magnitude * unitsPerOne) (y.magnitude * magnitudeAt place) := by
        rw [hplace]
        rcases h.exact with heq | heq
        · have hdivisor := h.divisor.symm.mul_right (k * unitsPerOne)
          rwa [heq, hmul, show k * n * unitsPerOne * unitsPerOne =
            n * unitsPerOne * (k * unitsPerOne) by ring]
        · have hdividend := h.dividend.mul_right unitsPerOne
          rwa [heq, show n * unitsPerOne * (k * unitsPerOne) =
            m * unitsPerOne * unitsPerOne by rw [hmul]; ring]
      obtain ⟨hhigh, hlow⟩ := nearestRank_beside h.pos hclose
      exact nearlyWhole_of_beside hk hplace hhigh hlow
    · refine h.nearlyWhole_of_large (hmul ▸ Nat.mul_le_mul_right n ?_)
      exact le_trans (by decide) hge

/-- Unless the dividend is too small for it, the quotient is off by at most one part in `2 ^ 53`. -/
theorem close_quotient (h : Operands x y m n) (hle : n ≤ 0x4000000000000 * m) :
    Close (y.magnitude * quotientMagnitude x y) (x.magnitude * unitsPerOne) := by
  have hunits := Nat.mul_le_mul_right unitsPerOne hle
  have hscale := Nat.mul_le_mul_left x.magnitude pow_le_unitsPerOne
  have hdividend := h.dividend.right
  have hdivisor := h.divisor.left
  rw [Nat.mul_assoc] at hunits
  exact close_nearestRank h.pos (by omega)

/-- Where the rounded quotient is nearly whole, the dividend is nearly a multiple of the divisor. -/
theorem exists_multiple_near (h : Operands x y m n)
    (hnearly : NearlyWhole (quotientMagnitude x y)) :
    ∃ k, Within 0x4000000000000 m (k * n) (max m n) := by
  rcases Nat.lt_or_ge (0x4000000000000 * m) n with hlt | hle
  · exact ⟨0, by omega, by omega⟩
  have hquotient := h.close_quotient hle
  obtain ⟨k, hwithin⟩ := hnearly
  generalize quotientMagnitude x y = q at *
  -- All is measured in squares of the unit, since the quotient is of numbers of units.
  have hwithin := hwithin.mul_right y.magnitude
  rw [← Nat.mul_max_mul_right, Nat.mul_comm q, Nat.mul_comm unitsPerOne] at hwithin
  have hmultiple := h.divisor.mul_right (k * unitsPerOne)
  have hexact : x.magnitude * unitsPerOne = m * unitsPerOne * unitsPerOne ∨
      y.magnitude * (k * unitsPerOne) = n * unitsPerOne * (k * unitsPerOne) :=
    h.exact.imp (congrArg (· * unitsPerOne)) (congrArg (· * (k * unitsPerOne)))
  rw [show n * unitsPerOne * (k * unitsPerOne) = k * n * unitsPerOne * unitsPerOne by ring,
    Nat.mul_comm y.magnitude (k * unitsPerOne)] at hmultiple hexact
  have hnear := hwithin.of_close hquotient (h.dividend.mul_right unitsPerOne)
    (h.divisor.mul_right unitsPerOne) hmultiple hexact
  rw [Nat.mul_max_mul_right, Nat.mul_max_mul_right] at hnear
  exact ⟨k, (hnear.of_mul_right unitsPerOne_pos).of_mul_right unitsPerOne_pos⟩

end Operands

end JsonSchema.Binary64
