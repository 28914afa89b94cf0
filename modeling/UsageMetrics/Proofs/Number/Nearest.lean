import UsageMetrics.Proofs.Number.Sixteen

namespace UsageMetrics.Number

attribute [local instance (high)] instPowNat

namespace Binary64

def mantissa (n : Nat) : Nat := roundDiv (n * 2 ^ (52 - n.log2)) (2 ^ (n.log2 - 52))

def nearestWhole (n : Nat) : Nat := roundDiv n (2 ^ (n.log2 - 52)) * 2 ^ (n.log2 - 52)

/-- Integers from here on are rounded beyond all numbers. -/
def outOfRange : Nat := (2 ^ 54 - 1) * 2 ^ 970

theorem le_outOfRange : 2 ^ 54 - 1 ≤ outOfRange :=
  Nat.le_mul_of_pos_right _ (Nat.pos_of_neZero _)

section Whole

variable {n : Nat}

theorem le_mantissa (written : n ≠ 0) : 2 ^ 52 ≤ mantissa n := by
  have unit : 0 < 2 ^ (n.log2 - 52) := Nat.pow_pos (by decide)
  have scaled : 2 ^ 52 * 2 ^ (n.log2 - 52) ≤ n * 2 ^ (52 - n.log2) :=
    calc 2 ^ 52 * 2 ^ (n.log2 - 52) = 2 ^ n.log2 * 2 ^ (52 - n.log2) := by
          rw [← Nat.pow_add, ← Nat.pow_add]
          congr 1
          omega
      _ ≤ n * 2 ^ (52 - n.log2) := Nat.mul_le_mul_right _ (Nat.log2_self_le written)
  rw [mantissa, le_roundDiv_iff (by decide) unit]
  omega

theorem lt_pow_log2 (n : Nat) : n * 2 ^ (52 - n.log2) < 2 ^ 53 * 2 ^ (n.log2 - 52) :=
  calc n * 2 ^ (52 - n.log2) < 2 ^ (n.log2 + 1) * 2 ^ (52 - n.log2) :=
        Nat.mul_lt_mul_of_pos_right Nat.lt_log2_self (Nat.pow_pos (by decide))
    _ = 2 ^ 53 * 2 ^ (n.log2 - 52) := by
        rw [← Nat.pow_add, ← Nat.pow_add]
        congr 1
        omega

theorem mantissa_le (n : Nat) : mantissa n ≤ 2 ^ 53 :=
  roundDiv_le_of_le (Nat.pow_pos (by decide)) (lt_pow_log2 n).le

theorem mantissa_scaled (n : Nat) :
    mantissa n * 2 ^ (n.log2 - 52) = nearestWhole n * 2 ^ (52 - n.log2) := by
  rcases Nat.le_total n.log2 52 with small | large
  · rw [mantissa, nearestWhole, Nat.sub_eq_zero_of_le small, Nat.pow_zero, roundDiv_one,
      roundDiv_one, Nat.mul_one, Nat.mul_one]
  · rw [mantissa, nearestWhole, Nat.sub_eq_zero_of_le large, Nat.pow_zero, Nat.mul_one,
      Nat.mul_one]

theorem nearestWhole_of_log2 (small : n.log2 ≤ 52) : nearestWhole n = n := by
  rw [nearestWhole, Nat.sub_eq_zero_of_le small, Nat.pow_zero, roundDiv_one, Nat.mul_one]

theorem nearestWhole_pos (written : n ≠ 0) : 0 < nearestWhole n := by
  have rounded : 0 < mantissa n := Nat.lt_of_lt_of_le (by decide) (le_mantissa written)
  have units : 0 < nearestWhole n * 2 ^ (52 - n.log2) := by
    rw [← mantissa_scaled]
    positivity
  exact Nat.pos_of_mul_pos_right units

theorem le_log2_of_carry (carry : mantissa n = 2 ^ 53) : 52 ≤ n.log2 := by
  by_contra small
  have below := lt_pow_log2 n
  have scaled := mantissa_scaled n
  rw [carry, nearestWhole_of_log2 (by omega)] at scaled
  omega

theorem nearestWhole_of_carry (carry : mantissa n = 2 ^ 53) :
    nearestWhole n = 2 ^ 53 * 2 ^ (n.log2 - 52) := by
  have scaled := mantissa_scaled n
  rw [carry, Nat.sub_eq_zero_of_le (le_log2_of_carry carry), Nat.pow_zero, Nat.mul_one] at scaled
  exact scaled.symm

theorem nearest_whole (written : n ≠ 0) (negative : Bool) : nearest negative n 1 =
    if mantissa n = 2 ^ 53 then
      if 971 < (n.log2 : Int) - 52 + 1 then .infinite negative
      else .finite negative (2 ^ 52) ((n.log2 : Int) - 52 + 1)
    else if 971 < (n.log2 : Int) - 52 then .infinite negative
    else .finite negative (mantissa n) ((n.log2 : Int) - 52) := by
  have log := logTwo_whole (Nat.pos_of_ne_zero written) 0
  rw [Nat.pow_zero, Nat.mul_one] at log
  have exponent : max (logTwo n 1 - 52) smallestExponent = (n.log2 : Int) - 52 := by
    rw [log, smallestExponent]
    omega
  have above : ((n.log2 : Int) - 52).toNat = n.log2 - 52 := by omega
  have below : (-((n.log2 : Int) - 52)).toNat = 52 - n.log2 := by omega
  simp only [nearest, if_neg written, exponent, above, below, Nat.one_mul, largestExponent,
    ← mantissa.eq_1]
  split <;> rfl

theorem ratio_shifted (significand size : Nat) :
    ratio significand ((size : Int) - 52) =
      (significand * 2 ^ (size - 52), 2 ^ (52 - size)) := by
  have above : ((size : Int) - 52).toNat = size - 52 := by omega
  have below : (-((size : Int) - 52)).toNat = 52 - size := by omega
  rw [ratio, above, below]

theorem exists_significand (written : n ≠ 0) : ∃ significand exponent places,
    significand ≠ 0 ∧ ratio significand exponent = (nearestWhole n * 2 ^ places, 2 ^ places) ∧
    ∀ negative, nearest negative n 1 = if 1024 ≤ (nearestWhole n).log2 then .infinite negative
      else .finite negative significand exponent := by
  have low := le_mantissa written
  have high := mantissa_le n
  by_cases carry : mantissa n = 2 ^ 53
  -- Only dropped bits are carried, and then no zeros were filled in.
  · have large := le_log2_of_carry carry
    have size : (nearestWhole n).log2 = 53 + (n.log2 - 52) := by
      rw [nearestWhole_of_carry carry, ← Nat.pow_add, Nat.log2_two_pow]
    have fits : 971 < (n.log2 : Int) - 52 + 1 ↔ 1024 ≤ (nearestWhole n).log2 := by omega
    refine ⟨2 ^ 52, (n.log2 : Int) - 52 + 1, 0, by decide, ?_, fun negative => ?_⟩
    · have next : (n.log2 : Int) - 52 + 1 = ((n.log2 + 1 : Nat) : Int) - 52 := by omega
      have shift : n.log2 + 1 - 52 = n.log2 - 52 + 1 := by omega
      have back : 52 - (n.log2 + 1) = 0 := by omega
      rw [next, ratio_shifted, nearestWhole_of_carry carry, shift, back]
      ring_nf
    · rw [nearest_whole written, if_pos carry]
      simp only [fits]
  · have scaled := mantissa_scaled n
    have size : (mantissa n).log2 = 52 := (Nat.log2_eq_iff (by omega)).mpr ⟨low, by omega⟩
    have shifts := log2_mul_pow (show 0 < mantissa n by omega) (n.log2 - 52)
    rw [scaled, log2_mul_pow (nearestWhole_pos written), size] at shifts
    have fits : 971 < (n.log2 : Int) - 52 ↔ 1024 ≤ (nearestWhole n).log2 := by omega
    refine ⟨mantissa n, (n.log2 : Int) - 52, 52 - n.log2, by omega, ?_, fun negative => ?_⟩
    · rw [ratio_shifted, scaled]
    · rw [nearest_whole written, if_neg carry]
      simp only [fits]

/-- Beyond 53 bits one more of them leaves the even integers. -/
theorem nearestWhole_eq_iff (few : n < 2 ^ 54) : nearestWhole n = n ↔ n ≤ 2 ^ 53 ∨ n % 2 = 0 := by
  by_cases small : n.log2 ≤ 52
  · have below : n < 2 ^ 53 :=
      Nat.lt_log2_self.trans_le (Nat.pow_le_pow_right (by decide) (Nat.succ_le_succ small))
    exact iff_of_true (nearestWhole_of_log2 small) (.inl below.le)
  · have written : n ≠ 0 := by
      rintro rfl
      exact small (by decide)
    have size : n.log2 = 53 := by
      have most := (Nat.log2_lt written).mpr few
      omega
    have many : 2 ^ 53 ≤ n := (Nat.le_log2 written).mp size.ge
    rw [nearestWhole, size]
    simp only [roundDiv]
    split
    · omega
    · split <;> omega

theorem log2_nearestWhole (written : n ≠ 0) :
    n.log2 ≤ (nearestWhole n).log2 ∧ (nearestWhole n).log2 ≤ n.log2 + 1 := by
  have positive := nearestWhole_pos written
  have low := Nat.mul_le_mul_right (2 ^ (n.log2 - 52)) (le_mantissa written)
  have high := Nat.mul_le_mul_right (2 ^ (n.log2 - 52)) (mantissa_le n)
  have size := log2_mul_pow positive (52 - n.log2)
  rw [mantissa_scaled, ← Nat.pow_add] at low high
  rw [← Nat.le_log2 (by positivity)] at low
  have above := high.trans_lt (Nat.pow_lt_pow_right (by decide) (Nat.lt_succ_self _))
  rw [← Nat.log2_lt (by positivity)] at above
  omega

theorem outOfRange_iff (written : n ≠ 0) :
    1024 ≤ (nearestWhole n).log2 ↔ outOfRange ≤ n := by
  obtain ⟨low, high⟩ := log2_nearestWhole written
  obtain ⟨top, known⟩ : ∃ top, top = 970 := ⟨_, rfl⟩
  have limit : outOfRange = (2 ^ 54 - 1) * 2 ^ top := by rw [outOfRange, known]
  have power (places : Nat) : 2 ^ (top + places) = 2 ^ places * 2 ^ top := by
    rw [Nat.pow_add, Nat.mul_comm]
  have bounded {places : Nat} (most : n.log2 < top + places) : n < 2 ^ places * 2 ^ top := by
    rw [← power]
    exact (Nat.log2_lt written).mp most
  -- Rounding decides for the integers of 1024 bits alone.
  rcases Nat.lt_trichotomy n.log2 (top + 53) with below | same | above
  · have few := bounded below
    exact iff_of_false (by omega) (by omega)
  · have few := bounded (show n.log2 < top + 54 by omega)
    have positive : 0 < 2 * 2 ^ top := by omega
    have last : 2 ^ (n.log2 - 52) = 2 * 2 ^ top := by
      rw [same]
      exact power 1
    have whole : 1024 = 53 + (n.log2 - 52) := by omega
    rw [Nat.le_log2 (nearestWhole_pos written).ne', whole, Nat.pow_add, nearestWhole, last,
      Nat.mul_le_mul_right_iff positive, le_roundDiv_iff (by decide) positive, limit]
    omega
  · have many := (Nat.le_log2 written).mp (show top + 54 ≤ n.log2 by omega)
    rw [power] at many
    exact iff_of_true (by omega) (by omega)

end Whole

section Integers

variable {n : Int}

theorem ofInt_isFinite_iff (n : Int) : (ofInt n).isFinite = true ↔ n.natAbs < outOfRange := by
  by_cases zero : n = 0
  · subst zero
    exact iff_of_true rfl (Nat.lt_of_lt_of_le (by decide) le_outOfRange)
  · obtain ⟨significand, exponent, places, -, -, nearest⟩ :=
      exists_significand (Int.natAbs_ne_zero.mpr zero)
    rw [ofInt, nearest, ← Nat.not_le, ← outOfRange_iff (Int.natAbs_ne_zero.mpr zero)]
    split
    · exact iff_of_false Bool.false_ne_true (not_not_intro ‹_›)
    · exact iff_of_true rfl ‹_›

theorem renderSixteen_ofInt (written : n ≠ 0) (few : nearestWhole n.natAbs < 10 ^ 16) :
    (ofInt n).renderSixteen = withSign (n < 0) (toString (nearestWhole n.natAbs)) := by
  have positive := nearestWhole_pos (Int.natAbs_ne_zero.mpr written)
  have bits : (nearestWhole n.natAbs).log2 < 54 :=
    (Nat.log2_lt positive.ne').mpr (few.trans (by decide))
  obtain ⟨significand, exponent, places, some, value, nearest⟩ :=
    exists_significand (Int.natAbs_ne_zero.mpr written)
  rw [ofInt, nearest, if_neg (by omega), renderSixteen_whole _ positive few some value]

theorem mem_renderSixteen_ofInt (written : n ≠ 0) (many : 10 ^ 16 ≤ nearestWhole n.natAbs)
    (inside : n.natAbs < outOfRange) : 'e' ∈ (ofInt n).renderSixteen.toList := by
  rw [← Nat.not_le, ← outOfRange_iff (Int.natAbs_ne_zero.mpr written), Nat.not_le] at inside
  obtain ⟨significand, exponent, places, some, value, nearest⟩ :=
    exists_significand (Int.natAbs_ne_zero.mpr written)
  rw [ofInt, nearest, if_neg inside.not_ge]
  exact mem_renderSixteen_exponent _ many inside some value

end Integers

end Binary64

end UsageMetrics.Number
