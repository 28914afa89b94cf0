import UsageMetrics.Proofs.Number.Ceiling
import UsageMetrics.Proofs.Number.Summation

namespace UsageMetrics.Number.Decimal

variable {a b d high low : Decimal}

section StandIn

theorem value_nonneg_iff : 0 ≤ d.value ↔ 0 ≤ d.sign := by
  rcases sign_cases d with ⟨sign, zero⟩ | ⟨sign, -, below⟩ | ⟨sign, -, above⟩
  · simp [sign, zero]
  · simp [sign, below.not_ge]
  · simp [sign, above.le]

theorem value_nonpos_iff : d.value ≤ 0 ↔ d.sign ≤ 0 := by
  rcases sign_cases d with ⟨sign, zero⟩ | ⟨sign, -, below⟩ | ⟨sign, -, above⟩
  · simp [sign, zero]
  · simp [sign, below.le]
  · simp [sign, above.not_ge]

theorem sign_standIn (high low : Decimal) : (standIn high low).sign = low.sign := by
  unfold standIn
  split
  · by_cases zero : low.coefficient = 0
    · simp [sign, zero]
    · have one : min 1 low.coefficient ≠ 0 := by omega
      simp [sign, zero, one]
  · rfl

/-- Neither an amount that is far below another one nor what stands in for it reaches the digits of
that. -/
theorem abs_far_le (far : low.leading < high.farBelow) :
    |low.value| ≤ 10 ^ high.farBelow ∧ |(standIn high low).value| ≤ 10 ^ high.farBelow := by
  have own : |low.value| ≤ 10 ^ high.farBelow :=
    (abs_value_lt low).le.trans (zpow_le_zpow_right₀ (by norm_num) far)
  refine ⟨own, ?_⟩
  unfold standIn
  split
  · have digit : ((min 1 low.coefficient : Nat) : ℚ) ≤ 1 := by exact_mod_cast Nat.min_le_left _ _
    rw [abs_value]
    exact mul_le_of_le_one_left (zpow_pos (by norm_num) _).le digit
  · exact own

theorem farBelow_bounds (d : Decimal) :
    d.farBelow + 1 ≤ d.exponent ∧ d.farBelow + 29 ≤ d.leading := by
  simp only [farBelow, leading, precision]
  omega

theorem eq_or_apart {unit : ℚ} (positive : 0 < unit) (m n : Nat) :
    m * (unit * 10) = n * (unit * 10) ∨ m * (unit * 10) + unit < n * (unit * 10) ∨
      n * (unit * 10) + unit < m * (unit * 10) := by
  have apart {m n : Nat} (below : m < n) : m * (unit * 10) + unit < n * (unit * 10) := by
    have succ : (m + 1 : ℚ) ≤ n := by exact_mod_cast Nat.succ_le_of_lt below
    linarith [mul_le_mul_of_nonneg_right succ (mul_pos positive (by norm_num : (0 : ℚ) < 10)).le]
  rcases Nat.lt_trichotomy m n with below | same | above
  · exact .inr (.inl (apart below))
  · exact .inl (by rw [same])
  · exact .inr (.inr (apart above))

/-- Below 29 digits and far from all digits of an amount there is no room for a bound, unless it is
the amount itself. -/
theorem eq_bound_or_apart {n : Nat} {e : Int} (written : d.coefficient ≠ 0)
    (few : n + 1 < 10 ^ 29) :
    |d.value| = n * 10 ^ e ∨ |d.value| + 10 ^ d.farBelow < n * 10 ^ e ∨
      n * 10 ^ e + 10 ^ d.farBelow < |d.value| := by
  obtain ⟨ends, leads⟩ := farBelow_bounds d
  have unit : (0 : ℚ) < 10 ^ d.farBelow := zpow_pos (by norm_num) _
  have next : (10 : ℚ) ^ (d.farBelow + 1) = 10 ^ d.farBelow * 10 := zpow_add_one₀ (by norm_num) _
  by_cases fine : d.farBelow + 1 ≤ e
  · obtain ⟨places, rfl⟩ : ∃ places : Nat, e = places + (d.farBelow + 1) :=
      ⟨(e - (d.farBelow + 1)).toNat, by omega⟩
    rw [mul_zpow_places, ← shifted_value ends, next]
    exact eq_or_apart unit _ _
  · -- The first digit is above the bound, and what is far below is too small to bring it down.
    refine .inr (.inr ?_)
    have coarse : (10 : ℚ) ^ e ≤ 10 ^ d.farBelow := zpow_le_zpow_right₀ (by norm_num) (by omega)
    have product := mul_le_mul_of_nonneg_left coarse (Nat.cast_nonneg (α := ℚ) n)
    have digits : (n + 1 : ℚ) < 10 ^ 29 := by exact_mod_cast few
    have first : (10 : ℚ) ^ 29 * 10 ^ d.farBelow ≤ |d.value| := by
      refine le_trans ?_ (pow_leading_le written)
      rw [← zpow_natCast, ← zpow_add₀ (by norm_num), add_comm]
      exact zpow_le_zpow_right₀ (by norm_num) leads
    linarith [mul_lt_mul_of_pos_right digits unit]

theorem abs_add_of_small {whole part : ℚ} (small : |part| < |whole|) :
    0 < whole ∧ |whole + part| = |whole| + part ∨ whole < 0 ∧ |whole + part| = |whole| - part := by
  obtain ⟨lower, upper⟩ := abs_lt.mp small
  rcases lt_trichotomy whole 0 with below | rfl | above
  · rw [abs_of_neg below] at *
    rw [abs_of_neg (by linarith)]
    exact .inr ⟨below, by ring⟩
  · rw [abs_zero] at small
    exact absurd small (abs_nonneg part).not_gt
  · rw [abs_of_pos above] at *
    exact .inl ⟨above, abs_of_pos (by linarith)⟩

theorem abs_add_sides {whole part : ℚ} (small : |part| < |whole|) :
    (|whole| ≤ |whole + part| ↔ 0 < whole ∧ 0 ≤ part ∨ whole < 0 ∧ part ≤ 0) ∧
      (|whole + part| ≤ |whole| ↔ 0 < whole ∧ part ≤ 0 ∨ whole < 0 ∧ 0 ≤ part) := by
  rcases abs_add_of_small small with ⟨above, sum⟩ | ⟨below, sum⟩
  · simp [sum, above, above.not_gt]
  · simp [sum, below, below.not_gt]

theorem standIn_side {n : Nat} (e : Int) (few : n + 1 < 10 ^ 29) (high low : Decimal) :
    (n * 10 ^ e ≤ |high.value + (standIn high low).value| ↔
        n * 10 ^ e ≤ |high.value + low.value|) ∧
      (|high.value + (standIn high low).value| ≤ n * 10 ^ e ↔
        |high.value + low.value| ≤ n * 10 ^ e) := by
  by_cases far : high.coefficient ≠ 0 ∧ low.leading < high.farBelow
  · obtain ⟨written, below⟩ := far
    obtain ⟨own, other⟩ := abs_far_le below
    have grown := abs_add_le high.value low.value
    have grown' := abs_add_le high.value (standIn high low).value
    have left := abs_sub_abs_le_abs_sub high.value (-low.value)
    have left' := abs_sub_abs_le_abs_sub high.value (-(standIn high low).value)
    rw [abs_neg, sub_neg_eq_add] at left left'
    rcases eq_bound_or_apart written few (e := e) with same | less | more
    · -- At the bound the signs decide, and what stands in has the sign of the amount.
      have tiny : (10 : ℚ) ^ high.farBelow < |high.value| := by
        refine lt_of_lt_of_le (zpow_lt_zpow_right₀ (by norm_num) ?_) (pow_leading_le written)
        have := (farBelow_bounds high).2
        omega
      obtain ⟨grows, shrinks⟩ := abs_add_sides (own.trans_lt tiny)
      obtain ⟨grows', shrinks'⟩ := abs_add_sides (other.trans_lt tiny)
      rw [← same, grows, grows', shrinks, shrinks']
      simp only [value_nonneg_iff, value_nonpos_iff, sign_standIn, and_self]
    · exact ⟨iff_of_false (by linarith) (by linarith), iff_of_true (by linarith) (by linarith)⟩
    · exact ⟨iff_of_true (by linarith) (by linarith), iff_of_false (by linarith) (by linarith)⟩
  · rw [standIn, if_neg far]
    exact ⟨Iff.rfl, Iff.rfl⟩

/-- A sum is that of two exact amounts which is rounded once; on which side of a bound it lies is
told by the exact sum. -/
theorem add?_side (a b : Decimal) : ∃ exact : Decimal, a.add? b = exact.fit? ∧
    ∀ (n : Nat) (e : Int), n + 1 < 10 ^ 29 →
      ((n * 10 ^ e : ℚ) ≤ |exact.value| ↔ n * 10 ^ e ≤ |a.value + b.value|) ∧
        (|exact.value| ≤ n * 10 ^ e ↔ |a.value + b.value| ≤ n * 10 ^ e) := by
  unfold add?
  split
  · refine ⟨_, rfl, fun n e few => ?_⟩
    rw [exactSum_value, add_comm, add_comm a.value]
    exact standIn_side e few b a
  · refine ⟨_, rfl, fun n e few => ?_⟩
    rw [exactSum_value]
    exact standIn_side e few a b

theorem add?_eq_none_iff (a b : Decimal) : a.add? b = none ↔ ceiling ≤ |a.value + b.value| := by
  obtain ⟨exact, added, side⟩ := add?_side a b
  rw [added, fit?_eq_none_iff, ceiling_eq]
  exact (side _ _ (by decide)).1

theorem sub?_eq_none_iff (a b : Decimal) : a.sub? b = none ↔ ceiling ≤ |a.value - b.value| := by
  rw [sub?, add?_eq_none_iff, value_negate, sub_eq_add_neg]

end StandIn

theorem abs_add?_le {n : Nat} {e : Int} {sum : Decimal} (few : n < 10 ^ precision)
    (fine : lastExponent ≤ e) (bounded : |a.value + b.value| ≤ n * 10 ^ e)
    (added : a.add? b = some sum) : |sum.value| ≤ n * 10 ^ e := by
  obtain ⟨exact, fits, side⟩ := add?_side a b
  have room : n + 1 < 10 ^ 29 := by
    unfold precision at few
    omega
  exact abs_fit?_le few fine ((side n e room).2.mpr bounded) (fits.symm.trans added)

section Sums

variable {ds : List Decimal} {start : Decimal}

theorem foldlM_eq_none_iff {α β : Type} {f : β → α → Option β} {start : β} {as : List α} :
    as.foldlM f start = none ↔ ∃ before a after reached,
      as = before ++ a :: after ∧ before.foldlM f start = some reached ∧ f reached a = none := by
  -- The list is cut at the first step that fails.
  induction as generalizing start with
  | nil => simp
  | cons a rest ih =>
    rw [List.foldlM_cons]
    cases step : f start a with
    | none => exact iff_of_true rfl ⟨[], a, rest, start, rfl, rfl, step⟩
    | some next =>
      rw [Option.bind_eq_bind, Option.bind_some, ih]
      constructor
      · rintro ⟨before, b, after, reached, rfl, summed, lost⟩
        exact ⟨a :: before, b, after, reached, rfl, by simp [step, summed], lost⟩
      · rintro ⟨before, b, after, reached, same, summed, lost⟩
        cases before with
        | nil =>
          obtain ⟨rfl, rfl⟩ := List.cons.inj same
          obtain rfl := Option.some.inj summed
          rw [step] at lost
          cases lost
        | cons first before =>
          obtain ⟨rfl, rfl⟩ := List.cons.inj same
          refine ⟨before, b, after, reached, rfl, ?_, lost⟩
          simpa [step] using summed

def SumLost (ds : List Decimal) : Prop := ∃ before d after reached,
  ds = before ++ d :: after ∧ sum? before = some reached ∧ ceiling ≤ |reached.value + d.value|

theorem sum?_eq_none_iff : sum? ds = none ↔ SumLost ds := by
  rw [sum?, foldlM_eq_none_iff, SumLost]
  simp only [add?_eq_none_iff, sum?]

def unitExponent : Int := highestExponent - precision

theorem units_lt_ceiling {n : Nat} (few : n < 10 ^ precision) :
    (n * 10 ^ unitExponent : ℚ) < ceiling := by
  have digits : (n : ℚ) < (10 ^ 29 - 5 : Nat) := by
    unfold precision at few
    exact_mod_cast (show n < 10 ^ 29 - 5 by omega)
  rw [ceiling_eq]
  exact mul_lt_mul_of_pos_right digits (zpow_pos (by norm_num) _)

theorem add?_within {m n : Nat} (left : |a.value| ≤ m * 10 ^ unitExponent)
    (right : |b.value| ≤ n * 10 ^ unitExponent) (few : m + n < 10 ^ precision) :
    ∃ sum, a.add? b = some sum ∧ |sum.value| ≤ (m + n : Nat) * 10 ^ unitExponent := by
  have bounded : |a.value + b.value| ≤ (m + n : Nat) * 10 ^ unitExponent := by
    push_cast
    linarith [abs_add_le a.value b.value]
  have kept : a.add? b ≠ none := by
    rw [Ne, add?_eq_none_iff, not_le]
    exact bounded.trans_lt (units_lt_ceiling few)
  obtain ⟨sum, added⟩ := Option.ne_none_iff_exists'.mp kept
  exact ⟨sum, added, abs_add?_le few (by decide) bounded added⟩

theorem foldlM_within {α β : Type} {f : α → Decimal} {parts : α → List β} {as : List α} {m : Nat}
    (begun : |start.value| ≤ m * 10 ^ unitExponent)
    (each : ∀ a ∈ as, |(f a).value| ≤ (parts a).length * 10 ^ unitExponent)
    (few : m + (as.flatMap parts).length < 10 ^ precision) :
    ∃ total, (as.map f).foldlM add? start = some total ∧
      |total.value| ≤ (m + (as.flatMap parts).length : Nat) * 10 ^ unitExponent := by
  -- What has been added so far is at most a unit for each of its parts.
  induction as generalizing start m with
  | nil => exact ⟨start, rfl, begun⟩
  | cons a rest ih =>
    obtain ⟨first, others⟩ := List.forall_mem_cons.mp each
    rw [List.flatMap_cons, List.length_append, ← Nat.add_assoc] at few ⊢
    obtain ⟨next, added, within⟩ := add?_within begun first (by omega)
    obtain ⟨total, summed, bounded⟩ := ih within others few
    exact ⟨total, by simpa [added] using summed, bounded⟩

end Sums

end UsageMetrics.Number.Decimal
