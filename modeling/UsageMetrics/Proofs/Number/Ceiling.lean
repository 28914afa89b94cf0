import UsageMetrics.Proofs.Number.Order

namespace UsageMetrics.Number

section Quotient

variable {n numerator denominator : Nat}

theorem roundDiv_le (numerator denominator : Nat) :
    roundDiv numerator denominator ≤ numerator / denominator + 1 := by
  have even := Nat.mod_lt (numerator / denominator) (show 2 > 0 by decide)
  simp only [roundDiv]
  split
  · omega
  · split <;> omega

theorem roundDiv_le_of_le (positive : 0 < denominator) (bounded : numerator ≤ n * denominator) :
    roundDiv numerator denominator ≤ n := by
  have quotient : numerator / denominator ≤ n := Nat.div_le_of_le_mul (by rwa [Nat.mul_comm])
  rcases Nat.lt_or_eq_of_le quotient with below | same
  · exact (roundDiv_le numerator denominator).trans below
  · have whole := Nat.div_add_mod' numerator denominator
    rw [same] at whole
    have rest : numerator % denominator = 0 := by omega
    simp [roundDiv, same, rest, positive]

theorem le_roundDiv_iff (even : n % 2 = 0) (positive : 0 < denominator) :
    n ≤ roundDiv numerator denominator ↔
      2 * (n * denominator) ≤ 2 * numerator + denominator := by
  obtain ⟨quotient, known⟩ : ∃ quotient, quotient = numerator / denominator := ⟨_, rfl⟩
  have whole := Nat.div_add_mod' numerator denominator
  have rest := Nat.mod_lt numerator positive
  simp only [roundDiv, ← known] at *
  rcases Nat.lt_trichotomy n (quotient + 1) with below | rfl | above
  · have product := Nat.mul_le_mul_right denominator (Nat.le_of_lt_succ below)
    refine iff_of_true ?_ (by omega)
    split
    · omega
    · split <;> omega
  · rw [Nat.add_one_mul quotient denominator]
    split
    · omega
    · split <;> omega
  · have product := Nat.mul_le_mul_right denominator (Nat.succ_le_of_lt above)
    rw [Nat.succ_mul, Nat.add_one_mul quotient] at product
    have odd := Nat.mod_lt quotient (show 2 > 0 by decide)
    refine iff_of_false ?_ (by omega)
    split
    · omega
    · split <;> omega

end Quotient

namespace Decimal

variable {d : Decimal}

theorem digitCount_le_iff {n m : Nat} (positive : 1 ≤ m) : digitCount n ≤ m ↔ n < 10 ^ m := by
  constructor
  · intro few
    exact Nat.lt_of_lt_of_le (lt_pow_digitCount n) (Nat.pow_le_pow_right (by decide) few)
  · intro below
    have first := one_le_digitCountWithin (n.log2 + 1) n
    unfold digitCount
    by_cases zero : n = 0
    · subst n
      simpa [digitCountWithin] using positive
    · have digits := pow_digitCountWithin_le (n.log2 + 1) (Nat.pos_of_ne_zero zero)
      have fewer := (Nat.pow_lt_pow_iff_right (by decide)).mp (Nat.lt_of_le_of_lt digits below)
      omega

inductive Rounded (d : Decimal) (place : Int) : Decimal → Prop where
  | kept (fine : place ≤ d.exponent) : Rounded d place d
  | lost (coarse : d.leading + 1 < place) :
      Rounded d place { d with coefficient := 0, exponent := place }
  | dropped (digits : Nat) (count : place = digits + d.exponent)
      (few : roundDiv d.coefficient (10 ^ digits) < 10 ^ precision) :
      Rounded d place
        { d with coefficient := roundDiv d.coefficient (10 ^ digits), exponent := place }
  | carried (digits : Nat) (count : place = digits + d.exponent)
      (many : 10 ^ precision ≤ roundDiv d.coefficient (10 ^ digits)) :
      Rounded d place
        { d with coefficient := roundDiv d.coefficient (10 ^ digits) / 10, exponent := place + 1 }

theorem roundTo_rounded (d : Decimal) (place : Int) : Rounded d place (d.roundTo place) := by
  unfold roundTo
  dsimp only
  split
  · exact .kept (by omega)
  · obtain ⟨digits, dropped⟩ : ∃ digits, digits = (place - d.exponent).toNat := ⟨_, rfl⟩
    have count : place = digits + d.exponent := by omega
    rw [← dropped]
    split
    · refine .lost ?_
      rw [leading]
      omega
    · split
      · rename_i few
        exact .dropped digits count ((digitCount_le_iff (by decide)).mp few)
      · rename_i many
        exact .carried digits count (Nat.le_of_not_lt ((digitCount_le_iff (by decide)).not.mp many))

theorem roundDiv_le_pow {place : Int} {digits : Nat} (room : d.leading - precision + 1 ≤ place)
    (count : place = digits + d.exponent) :
    roundDiv d.coefficient (10 ^ digits) ≤ 10 ^ precision := by
  refine roundDiv_le_of_le (Nat.pow_pos (by decide)) ?_
  rw [← Nat.pow_add]
  refine (lt_pow_digitCount _).le.trans (Nat.pow_le_pow_right (by decide) ?_)
  rw [leading] at room
  omega

theorem leading_roundTo {place : Int} (room : d.leading - precision + 1 ≤ place) :
    (d.roundTo place).coefficient = 0 ∨ (d.roundTo place).leading ≤ d.leading ∨
      (d.roundTo place).leading ≤ place + precision := by
  obtain ⟨rounded, round⟩ : ∃ rounded, rounded = d.roundTo place := ⟨_, rfl⟩
  have how := roundTo_rounded d place
  rw [← round] at how ⊢
  cases how with
  | kept fine => exact .inr (.inl le_rfl)
  | lost coarse => exact .inl rfl
  | dropped digits count few =>
    have digit := (digitCount_le_iff (by decide)).mpr few
    refine .inr (.inr ?_)
    simp only [leading]
    omega
  | carried digits count many =>
    have most := roundDiv_le_pow room count
    have fewer : roundDiv d.coefficient (10 ^ digits) / 10 < 10 ^ precision := by
      simp only [precision] at most ⊢
      omega
    have digit := (digitCount_le_iff (by decide)).mpr fewer
    refine .inr (.inr ?_)
    simp only [leading]
    omega

/-- Amounts from here on are rounded up beyond all that can be written. -/
noncomputable def ceiling : ℚ :=
  10 ^ (highestExponent + 1) - 10 ^ (highestExponent + 1 - precision) / 2

theorem ceiling_eq : ceiling = (10 ^ 29 - 5 : Nat) * 10 ^ (highestExponent - precision) := by
  have first : highestExponent + 1 = 29 + (highestExponent - precision) := by
    unfold precision
    omega
  have second : highestExponent + 1 - precision = 1 + (highestExponent - precision) := by omega
  rw [ceiling, second, first, zpow_add₀ (by norm_num), zpow_add₀ (by norm_num)]
  push_cast
  ring

theorem ceiling_lt : ceiling < 10 ^ (highestExponent + 1) :=
  sub_lt_self _ (div_pos (zpow_pos (by norm_num) _) (by norm_num))

theorem pow_lt_ceiling : (10 : ℚ) ^ highestExponent < ceiling := by
  have split : highestExponent = 28 + (highestExponent - precision) := by
    unfold precision
    omega
  rw [ceiling_eq]
  conv_lhs => rw [split, zpow_add₀ (by norm_num)]
  exact mul_lt_mul_of_pos_right (by norm_num) (zpow_pos (by norm_num) _)

theorem fit?_of_leading_lt (below : d.leading < highestExponent) :
    ∃ fitted, d.fit? = some fitted := by
  by_cases zero : d.coefficient = 0
  · exact ⟨_, if_pos zero⟩
  · have room := le_max_left (d.leading - precision + 1) lastExponent
    have rounded : ¬((d.roundTo (max (d.leading - precision + 1) lastExponent)).coefficient ≠ 0 ∧
        highestExponent < (d.roundTo (max (d.leading - precision + 1) lastExponent)).leading) := by
      intro known
      obtain ⟨written, high⟩ := known
      have moved := (leading_roundTo room).resolve_left written
      simp only [highestExponent, precision, lastExponent] at below high moved
      omega
    unfold fit?
    rw [if_neg zero, if_neg below.not_gt]
    exact ⟨_, if_neg rounded⟩

theorem fit?_eq_none_of_rounded (written : d.coefficient ≠ 0) (top : d.leading = highestExponent)
    {rounded : Decimal} (round : d.roundTo (highestExponent + 1 - precision) = rounded) :
    d.fit? = none ↔ rounded.coefficient ≠ 0 ∧ highestExponent < rounded.leading := by
  have place : max (d.leading - precision + 1) lastExponent = highestExponent + 1 - precision := by
    simp only [top, highestExponent, precision, lastExponent]
    omega
  unfold fit?
  rw [if_neg written, if_neg top.not_gt, place, round]
  dsimp only
  split
  · exact iff_of_true rfl ‹_›
  · exact iff_of_false (Option.some_ne_none _) ‹_›

theorem pow_highest : (10 : ℚ) ^ (highestExponent + 1) =
    10 ^ precision * 10 ^ (highestExponent + 1 - precision) := by
  rw [← zpow_natCast, ← zpow_add₀ (by norm_num)]
  congr 1

theorem lt_ceiling_of_kept (top : d.leading = highestExponent)
    (kept : highestExponent + 1 - precision ≤ d.exponent) : |d.value| < ceiling := by
  have unit : (0 : ℚ) < 10 ^ (highestExponent + 1 - precision) := zpow_pos (by norm_num) _
  have bounded := abs_value_lt d
  rw [top, pow_highest, ← shifted_value kept] at bounded
  have few : shifted d.coefficient (d.exponent - (highestExponent + 1 - precision)) <
      10 ^ precision := by
    exact_mod_cast lt_of_mul_lt_mul_right bounded unit.le
  have most : (shifted d.coefficient (d.exponent - (highestExponent + 1 - precision)) : ℚ) ≤
      10 ^ precision - 1 := by
    rw [le_sub_iff_add_le]
    exact_mod_cast Nat.succ_le_of_lt few
  rw [← shifted_value kept, ceiling, pow_highest]
  linarith [mul_le_mul_of_nonneg_right most unit.le]

theorem ceiling_le_iff_of_dropped {dropped : Nat}
    (place : highestExponent + 1 - precision = dropped + d.exponent) :
    ceiling ≤ |d.value| ↔ 10 ^ precision ≤ roundDiv d.coefficient (10 ^ dropped) := by
  have unit : (0 : ℚ) < 10 ^ d.exponent := zpow_pos (by norm_num) _
  have scaled : ceiling = (10 ^ precision * 10 ^ dropped - 10 ^ dropped / 2) * 10 ^ d.exponent := by
    rw [ceiling, pow_highest, place, zpow_add₀ (by norm_num), zpow_natCast]
    ring
  rw [le_roundDiv_iff (by decide) (Nat.pow_pos (by decide)), abs_value, scaled,
    mul_le_mul_iff_of_pos_right unit, ← Nat.cast_le (α := ℚ)]
  push_cast
  constructor <;> intro known <;> linarith

/-- Among the amounts whose first digit is the highest one, those are lost whose digits are rounded
up to the next power of ten. -/
theorem fit?_of_leading_eq (written : d.coefficient ≠ 0) (top : d.leading = highestExponent) :
    d.fit? = none ↔ ceiling ≤ |d.value| := by
  obtain ⟨rounded, round⟩ : ∃ rounded, d.roundTo (highestExponent + 1 - precision) = rounded :=
    ⟨_, rfl⟩
  have how := roundTo_rounded d (highestExponent + 1 - precision)
  rw [fit?_eq_none_of_rounded written top round]
  rw [round] at how
  cases how with
  | kept fine =>
    exact iff_of_false (fun known => absurd known.2 top.not_gt)
      (not_le.mpr (lt_ceiling_of_kept top fine))
  | lost coarse =>
    rw [top, precision] at coarse
    omega
  | dropped digits count few =>
    rw [ceiling_le_iff_of_dropped count]
    refine iff_of_false (fun known => ?_) (not_le.mpr few)
    have high := known.2
    have digit := (digitCount_le_iff (by decide)).mpr few
    simp only [leading, precision] at high digit
    omega
  | carried digits count many =>
    rw [ceiling_le_iff_of_dropped count]
    refine iff_of_true ?_ many
    -- The digit that is carried stands one place above the first one.
    obtain ⟨kept, same⟩ : ∃ kept, kept = roundDiv d.coefficient (10 ^ digits) := ⟨_, rfl⟩
    rw [← same] at many ⊢
    have still : ¬kept / 10 < 10 ^ 27 := by
      unfold precision at many
      omega
    have digit := (digitCount_le_iff (by decide)).not.mpr still
    refine ⟨?_, ?_⟩
    · simp only [ne_eq]
      omega
    · simp only [leading, precision]
      omega

theorem fit?_eq_none_iff : d.fit? = none ↔ ceiling ≤ |d.value| := by
  by_cases zero : d.coefficient = 0
  · have nothing : |d.value| = 0 := by rw [abs_value, zero, Nat.cast_zero, zero_mul]
    refine iff_of_false (by simp [fit?, zero]) ?_
    rw [nothing, not_le]
    exact lt_trans (zpow_pos (by norm_num) _) pow_lt_ceiling
  · rcases lt_trichotomy d.leading highestExponent with below | top | above
    · obtain ⟨fitted, fits⟩ := fit?_of_leading_lt below
      refine iff_of_false (by simp [fits]) (not_le.mpr ?_)
      calc |d.value| < 10 ^ (d.leading + 1) := abs_value_lt d
        _ ≤ 10 ^ highestExponent := zpow_le_zpow_right₀ (by norm_num) below
        _ < ceiling := pow_lt_ceiling
    · exact fit?_of_leading_eq zero top
    · refine iff_of_true (by rw [fit?, if_neg zero, if_pos above]) ?_
      calc ceiling ≤ 10 ^ (highestExponent + 1) := ceiling_lt.le
        _ ≤ 10 ^ d.leading := zpow_le_zpow_right₀ (by norm_num) above
        _ ≤ |d.value| := pow_leading_le zero

section Bounds

variable {n : Nat} {e : Int} {fitted : Decimal}

theorem leading_le_of_bounded (few : n < 10 ^ precision) (written : d.coefficient ≠ 0)
    (bounded : |d.value| ≤ n * 10 ^ e) : d.leading - precision + 1 ≤ e := by
  have digits : (n : ℚ) < 10 ^ precision := by exact_mod_cast few
  have unit : (0 : ℚ) < 10 ^ e := zpow_pos (by norm_num) _
  have below : (10 : ℚ) ^ d.leading < 10 ^ (precision + e) := by
    rw [zpow_add₀ (by norm_num), zpow_natCast]
    calc (10 : ℚ) ^ d.leading ≤ |d.value| := pow_leading_le written
      _ ≤ n * 10 ^ e := bounded
      _ < 10 ^ precision * 10 ^ e := mul_lt_mul_of_pos_right digits unit
  rw [zpow_lt_zpow_iff_right₀ (by norm_num)] at below
  omega

theorem mul_zpow_places (n places : Nat) (e : Int) :
    (n * 10 ^ ((places : Int) + e) : ℚ) = (n * 10 ^ places : Nat) * 10 ^ e := by
  rw [zpow_add₀ (by norm_num), zpow_natCast, ← mul_assoc]
  push_cast
  rfl

theorem roundDiv_mul_le {place : Int} {digits : Nat} (fine : place ≤ e)
    (bounded : |d.value| ≤ n * 10 ^ e) (count : place = digits + d.exponent) {kept : Nat}
    (few : kept ≤ roundDiv d.coefficient (10 ^ digits)) :
    (kept * 10 ^ place : ℚ) ≤ n * 10 ^ e := by
  obtain ⟨places, rfl⟩ : ∃ places : Nat, e = places + place := ⟨(e - place).toNat, by omega⟩
  have small : d.coefficient ≤ n * 10 ^ places * 10 ^ digits := by
    have last : (0 : ℚ) < 10 ^ d.exponent := zpow_pos (by norm_num) _
    rw [mul_zpow_places, abs_value, count, mul_zpow_places] at bounded
    exact_mod_cast le_of_mul_le_mul_right bounded last
  have within := few.trans (roundDiv_le_of_le (Nat.pow_pos (by decide)) small)
  rw [mul_zpow_places]
  exact mul_le_mul_of_nonneg_right (by exact_mod_cast within) (zpow_pos (by norm_num) _).le

theorem abs_roundTo_le {place : Int} (fine : place ≤ e) (bounded : |d.value| ≤ n * 10 ^ e) :
    |(d.roundTo place).value| ≤ n * 10 ^ e := by
  obtain ⟨rounded, round⟩ : ∃ rounded, rounded = d.roundTo place := ⟨_, rfl⟩
  have how := roundTo_rounded d place
  rw [← round] at how ⊢
  cases how with
  | kept => exact bounded
  | lost =>
    rw [abs_value, Nat.cast_zero, zero_mul]
    exact (abs_nonneg _).trans bounded
  | dropped digits count =>
    rw [abs_value]
    exact roundDiv_mul_le fine bounded count le_rfl
  | carried digits count =>
    have fewer := Nat.div_mul_le_self (roundDiv d.coefficient (10 ^ digits)) 10
    have within := roundDiv_mul_le fine bounded count fewer
    rw [abs_value, zpow_add_one₀ (by norm_num), mul_comm _ (10 : ℚ), ← mul_assoc]
    exact_mod_cast within

theorem abs_fit?_le (few : n < 10 ^ precision) (fine : lastExponent ≤ e)
    (bounded : |d.value| ≤ n * 10 ^ e) (fits : d.fit? = some fitted) :
    |fitted.value| ≤ n * 10 ^ e := by
  unfold fit? at fits
  split at fits
  · rename_i zero
    obtain rfl := Option.some.inj fits
    rw [abs_value, zero, Nat.cast_zero, zero_mul]
    exact (abs_nonneg _).trans bounded
  · rename_i written
    split at fits
    · cases fits
    · dsimp only at fits
      split at fits
      · cases fits
      · obtain rfl := Option.some.inj fits
        exact abs_roundTo_le (max_le (leading_le_of_bounded few written bounded) fine) bounded

end Bounds

end Decimal

end UsageMetrics.Number
