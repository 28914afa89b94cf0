import Mathlib.Algebra.Order.Field.Basic
import Mathlib.Algebra.Order.Ring.Rat
import Mathlib.Tactic.Linarith
import Mathlib.Tactic.NormNum
import Mathlib.Tactic.Positivity
import Mathlib.Tactic.Ring
import UsageMetrics.Number.Decimal

namespace UsageMetrics.Number

theorem one_le_digitCountWithin (fuel n : Nat) : 1 ≤ digitCountWithin fuel n := by
  cases fuel with
  | zero => exact Nat.le_refl 1
  | succ fuel => unfold digitCountWithin; split <;> omega

theorem pow_digitCountWithin_le (fuel : Nat) {n : Nat} (positive : 0 < n) :
    10 ^ (digitCountWithin fuel n - 1) ≤ n := by
  induction fuel generalizing n with
  | zero => exact positive
  | succ fuel ih =>
    unfold digitCountWithin
    split
    · exact positive
    · rename_i large
      have rest := ih (show 0 < n / 10 by omega)
      have first := one_le_digitCountWithin fuel (n / 10)
      calc 10 ^ (digitCountWithin fuel (n / 10) + 1 - 1)
          = 10 ^ (digitCountWithin fuel (n / 10) - 1) * 10 := by
            rw [← Nat.pow_succ]
            congr 1
            omega
        _ ≤ n / 10 * 10 := Nat.mul_le_mul_right 10 rest
        _ ≤ n := Nat.div_mul_le_self n 10

namespace Decimal

variable {k : Nat} {a b d : Decimal}

def value (d : Decimal) : ℚ := (signed d.negative d.coefficient : ℚ) * 10 ^ d.exponent

def AtMostPlaces (k : Nat) (d : Decimal) : Prop := -(k : Int) ≤ d.exponent

instance (k : Nat) (d : Decimal) : Decidable (d.AtMostPlaces k) :=
  inferInstanceAs (Decidable (-(k : Int) ≤ d.exponent))

theorem value_zero : zero.value = 0 := by
  simp [value, zero, signed]

theorem abs_signed (negative : Bool) (n : Nat) : |(signed negative n : ℚ)| = n := by
  cases negative <;> simp [signed]

theorem signed_natAbs {negative : Bool} {n : Int} (sign : n ≠ 0 → negative = decide (n < 0)) :
    signed negative n.natAbs = n := by
  by_cases zero : n = 0
  · subst n
    cases negative <;> rfl
  · rw [sign zero, signed]
    by_cases below : n < 0
    · rw [if_pos (decide_eq_true below)]
      omega
    · rw [if_neg (by simpa using below)]
      omega

theorem abs_value (d : Decimal) : |d.value| = d.coefficient * 10 ^ d.exponent := by
  rw [value, abs_mul, abs_signed, abs_of_pos (zpow_pos (by norm_num) _)]

theorem value_negate (d : Decimal) : d.negate.value = -d.value := by
  cases sign : d.negative <;> simp [value, negate, signed, sign]

theorem pow_leading_le (written : d.coefficient ≠ 0) : (10 : ℚ) ^ d.leading ≤ |d.value| := by
  have digits := pow_digitCountWithin_le (d.coefficient.log2 + 1) (Nat.pos_of_ne_zero written)
  have first := one_le_digitCountWithin (d.coefficient.log2 + 1) d.coefficient
  have split : d.leading = ((digitCount d.coefficient - 1 : Nat) : Int) + d.exponent := by
    unfold leading digitCount
    omega
  rw [abs_value, split, zpow_add₀ (by norm_num), zpow_natCast]
  refine mul_le_mul_of_nonneg_right ?_ (zpow_pos (by norm_num) _).le
  exact_mod_cast digits

theorem leading_lt (small : k ≤ precision) (written : d.coefficient ≠ 0)
    (bounded : |d.value| < 10 ^ (precision - k)) : d.leading < precision - k := by
  have below := lt_of_le_of_lt (pow_leading_le written) bounded
  rw [← zpow_natCast, zpow_lt_zpow_iff_right₀ (by norm_num)] at below
  omega

/-- No amount is far below another one as long as both fit into the digits that count. -/
theorem standIn_eq (small : k ≤ precision) (places : b.AtMostPlaces k)
    (bounded : |a.value| < 10 ^ (precision - k)) : standIn a b = b := by
  apply if_neg
  intro known
  rcases known with ⟨written, far⟩
  have high := leading_lt small written bounded
  have low := one_le_digitCountWithin (b.coefficient.log2 + 1) b.coefficient
  simp only [AtMostPlaces, leading, farBelow, digitCount, precision] at places high far
  omega

theorem scaled_value {exponent : Int} (below : exponent ≤ d.exponent) :
    (d.scaled exponent : ℚ) * 10 ^ exponent = d.value := by
  have split : d.exponent = ((d.exponent - exponent).toNat : Int) + exponent := by omega
  have shift : signed d.negative (shifted d.coefficient (d.exponent - exponent)) =
      signed d.negative d.coefficient * 10 ^ (d.exponent - exponent).toNat := by
    unfold shifted
    split
    · rename_i zero
      cases d.negative <;> simp [signed, zero]
    · cases d.negative <;> simp [signed]
  rw [scaled, shift, value]
  conv_rhs => rw [split, zpow_add₀ (by norm_num), zpow_natCast]
  push_cast
  ring

theorem exactSum_value (a b : Decimal) : (exactSum a b).value = a.value + b.value := by
  rw [← scaled_value (Int.min_le_left a.exponent b.exponent),
    ← scaled_value (Int.min_le_right a.exponent b.exponent), ← add_mul, ← Int.cast_add]
  simp only [exactSum, value]
  rw [signed_natAbs fun other => if_neg other]

theorem exactSum_atMostPlaces (left : a.AtMostPlaces k) (right : b.AtMostPlaces k) :
    (exactSum a b).AtMostPlaces k := by
  simp only [AtMostPlaces, exactSum] at *
  omega

theorem fit?_written (small : k ≤ precision) (places : d.AtMostPlaces k)
    (written : d.coefficient ≠ 0) (bounded : |d.value| < 10 ^ (precision - k)) :
    d.fit? = some d := by
  have leading := leading_lt small written bounded
  simp only [AtMostPlaces, precision] at places small leading
  have within : ¬highestExponent < d.leading := by
    unfold highestExponent
    omega
  have kept : d.roundTo (max (d.leading - precision + 1) lastExponent) = d := by
    apply if_pos
    simp only [precision, lastExponent]
    omega
  unfold fit?
  rw [if_neg written, if_neg within]
  simp only [kept, within, and_false, if_false]

theorem fit?_exact (small : k ≤ precision) (places : d.AtMostPlaces k)
    (bounded : |d.value| < 10 ^ (precision - k)) :
    ∃ fitted, d.fit? = some fitted ∧ fitted.AtMostPlaces k ∧ fitted.value = d.value := by
  by_cases zero : d.coefficient = 0
  · refine ⟨_, if_pos zero, ?_, ?_⟩
    · simp only [AtMostPlaces, precision, lastExponent, highestExponent] at *
      omega
    · cases sign : d.negative <;> simp [value, signed, zero, sign]
  · exact ⟨d, fit?_written small places zero bounded, places, rfl⟩

theorem add?_eq_fit? (small : k ≤ precision) (left : a.AtMostPlaces k) (right : b.AtMostPlaces k)
    (bounded : |a.value| + |b.value| < 10 ^ (precision - k)) :
    a.add? b = (exactSum a b).fit? ∧ (exactSum a b).AtMostPlaces k ∧
      |(exactSum a b).value| < 10 ^ (precision - k) := by
  have first : |a.value| < 10 ^ (precision - k) := by linarith [abs_nonneg b.value]
  have second : |b.value| < 10 ^ (precision - k) := by linarith [abs_nonneg a.value]
  refine ⟨?_, exactSum_atMostPlaces left right, ?_⟩
  · unfold add?
    rw [standIn_eq small left second, standIn_eq small right first, ite_self]
  · rw [exactSum_value]
    exact lt_of_le_of_lt (abs_add_le _ _) bounded

theorem add?_exact (small : k ≤ precision) (left : a.AtMostPlaces k) (right : b.AtMostPlaces k)
    (bounded : |a.value| + |b.value| < 10 ^ (precision - k)) :
    ∃ sum, a.add? b = some sum ∧ sum.AtMostPlaces k ∧ sum.value = a.value + b.value := by
  obtain ⟨added, places, whole⟩ := add?_eq_fit? small left right bounded
  obtain ⟨sum, fits, kept, exact⟩ := fit?_exact small places whole
  exact ⟨sum, added.trans fits, kept, exact.trans (exactSum_value a b)⟩

theorem sub?_exact (small : k ≤ precision) (left : a.AtMostPlaces k) (right : b.AtMostPlaces k)
    (bounded : |a.value| + |b.value| < 10 ^ (precision - k)) :
    ∃ difference, a.sub? b = some difference ∧ difference.value = a.value - b.value := by
  have opposite : |a.value| + |b.negate.value| < 10 ^ (precision - k) := by
    rw [value_negate, abs_neg]
    exact bounded
  obtain ⟨sum, added, -, exact⟩ := add?_exact (b := b.negate) small left right opposite
  exact ⟨sum, added, by rw [exact, value_negate, sub_eq_add_neg]⟩

end Decimal

end UsageMetrics.Number
