import UsageMetrics.Proofs.Number.Exact

namespace UsageMetrics.Number

theorem lt_pow_digitCountWithin {fuel n : Nat} (enough : n < 10 ^ fuel) :
    n < 10 ^ digitCountWithin fuel n := by
  induction fuel generalizing n with
  | zero => exact Nat.lt_of_lt_of_le enough (Nat.pow_le_pow_right (by decide) (Nat.zero_le _))
  | succ fuel ih =>
    unfold digitCountWithin
    split
    · assumption
    · rename_i large
      have rest := ih (show n / 10 < 10 ^ fuel by omega)
      rw [Nat.pow_succ]
      omega

theorem lt_pow_digitCount (n : Nat) : n < 10 ^ digitCount n := by
  apply lt_pow_digitCountWithin
  calc n < 2 ^ (n.log2 + 1) := Nat.lt_log2_self
    _ ≤ 10 ^ (n.log2 + 1) := Nat.pow_le_pow_left (by decide) _

namespace Decimal

variable {a b d : Decimal}

theorem abs_value_lt (d : Decimal) : |d.value| < (10 : ℚ) ^ (d.leading + 1) := by
  have split : d.leading + 1 = (digitCount d.coefficient : Int) + d.exponent := by
    unfold leading
    omega
  rw [abs_value, split, zpow_add₀ (by norm_num), zpow_natCast]
  refine mul_lt_mul_of_pos_right ?_ (zpow_pos (by norm_num) _)
  exact_mod_cast lt_pow_digitCount d.coefficient

theorem shifted_value {exponent : Int} (below : exponent ≤ d.exponent) :
    (shifted d.coefficient (d.exponent - exponent) : ℚ) * 10 ^ exponent = |d.value| := by
  rw [← scaled_value below, abs_mul, scaled, abs_signed,
    abs_of_pos (zpow_pos (by norm_num : (0 : ℚ) < 10) exponent)]

theorem abs_value_lt_of_leading (written : b.coefficient ≠ 0) (below : a.leading < b.leading) :
    |a.value| < |b.value| :=
  calc |a.value| < (10 : ℚ) ^ (a.leading + 1) := abs_value_lt a
    _ ≤ 10 ^ b.leading := zpow_le_zpow_right₀ (by norm_num) below
    _ ≤ |b.value| := pow_leading_le written

theorem compare_cast (m n : Nat) (exponent : Int) :
    compare m n = compare ((m : ℚ) * 10 ^ exponent) (n * 10 ^ exponent) := by
  have unit : (0 : ℚ) < 10 ^ exponent := zpow_pos (by norm_num) exponent
  rcases lt_trichotomy m n with below | rfl | above
  · have scaled : (m : ℚ) * 10 ^ exponent < n * 10 ^ exponent :=
      mul_lt_mul_of_pos_right (by exact_mod_cast below) unit
    rw [compare_lt_iff_lt.mpr below, compare_lt_iff_lt.mpr scaled]
  · rw [compare_eq_iff_eq.mpr rfl, compare_eq_iff_eq.mpr rfl]
  · have scaled : (n : ℚ) * 10 ^ exponent < m * 10 ^ exponent :=
      mul_lt_mul_of_pos_right (by exact_mod_cast above) unit
    rw [compare_gt_iff_gt.mpr above, compare_gt_iff_gt.mpr scaled]

theorem compare_neg (x y : ℚ) : compare (-x) (-y) = compare y x := by
  rcases lt_trichotomy y x with below | rfl | above
  · rw [compare_lt_iff_lt.mpr below, compare_lt_iff_lt.mpr (neg_lt_neg below)]
  · rw [compare_eq_iff_eq.mpr rfl, compare_eq_iff_eq.mpr rfl]
  · rw [compare_gt_iff_gt.mpr above, compare_gt_iff_gt.mpr (neg_lt_neg above)]

theorem compareMagnitude_eq (left : a.coefficient ≠ 0) (right : b.coefficient ≠ 0) :
    compareMagnitude a b = compare |a.value| |b.value| := by
  unfold compareMagnitude
  rcases lt_trichotomy a.leading b.leading with below | same | above
  · rw [compare_lt_iff_lt.mpr below,
      compare_lt_iff_lt.mpr (abs_value_lt_of_leading right below)]
  · rw [compare_eq_iff_eq.mpr same, ← shifted_value (Int.min_le_left a.exponent b.exponent),
      ← shifted_value (Int.min_le_right a.exponent b.exponent)]
    exact compare_cast _ _ _
  · rw [compare_gt_iff_gt.mpr above,
      compare_gt_iff_gt.mpr (abs_value_lt_of_leading left above)]

theorem sign_cases (d : Decimal) :
    (d.sign = 0 ∧ d.value = 0) ∨ (d.sign = -1 ∧ d.coefficient ≠ 0 ∧ d.value < 0) ∨
      (d.sign = 1 ∧ d.coefficient ≠ 0 ∧ 0 < d.value) := by
  have unit : (0 : ℚ) < 10 ^ d.exponent := zpow_pos (by norm_num) _
  by_cases zero : d.coefficient = 0
  · refine .inl ⟨by rw [sign, if_pos zero], ?_⟩
    cases negative : d.negative <;> simp [value, signed, zero, negative]
  · have digits : (0 : ℚ) < d.coefficient := by exact_mod_cast Nat.pos_of_ne_zero zero
    have size := mul_pos digits unit
    cases negative : d.negative with
    | true =>
      refine .inr (.inl ⟨by simp [sign, zero, negative], zero, ?_⟩)
      simp only [value, signed, negative, if_true]
      push_cast
      linarith
    | false =>
      refine .inr (.inr ⟨by simp [sign, zero, negative], zero, ?_⟩)
      simpa [value, signed, negative] using size

theorem value_lt_of_sign_lt (less : a.sign < b.sign) : a.value < b.value := by
  rcases sign_cases a with ⟨left, zero⟩ | ⟨left, -, low⟩ | ⟨left, -, high⟩ <;>
    rcases sign_cases b with ⟨right, zero'⟩ | ⟨right, -, low'⟩ | ⟨right, -, high'⟩ <;>
    first | omega | linarith

theorem order_eq_compare (a b : Decimal) : order a b = compare a.value b.value := by
  unfold order
  rcases lt_trichotomy a.sign b.sign with below | same | above
  · rw [compare_lt_iff_lt.mpr below, compare_lt_iff_lt.mpr (value_lt_of_sign_lt below)]
  · rw [compare_eq_iff_eq.mpr same]
    dsimp only
    -- The signs are the same, so only the cases on the diagonal are left.
    rcases sign_cases b with ⟨right, zero⟩ | ⟨right, written, low⟩ | ⟨right, written, high⟩
    · have zero' : a.value = 0 := by
        rcases sign_cases a with ⟨-, zero'⟩ | ⟨left, -⟩ | ⟨left, -⟩
        · exact zero'
        · omega
        · omega
      rw [if_pos (same.trans right), compare_eq_iff_eq.mpr (zero'.trans zero.symm)]
    · have low' : a.coefficient ≠ 0 ∧ a.value < 0 := by
        rcases sign_cases a with ⟨left, -⟩ | ⟨-, known⟩ | ⟨left, -⟩
        · omega
        · exact known
        · omega
      rw [if_neg (by omega), if_pos (by omega), compareMagnitude_eq written low'.1,
        abs_of_neg low, abs_of_neg low'.2, compare_neg]
    · have high' : a.coefficient ≠ 0 ∧ 0 < a.value := by
        rcases sign_cases a with ⟨left, -⟩ | ⟨left, -⟩ | ⟨-, known⟩
        · omega
        · omega
        · exact known
      rw [if_neg (by omega), if_neg (by omega), compareMagnitude_eq high'.1 written,
        abs_of_pos high, abs_of_pos high'.2]
  · rw [compare_gt_iff_gt.mpr above, compare_gt_iff_gt.mpr (value_lt_of_sign_lt above)]

end Decimal

end UsageMetrics.Number
