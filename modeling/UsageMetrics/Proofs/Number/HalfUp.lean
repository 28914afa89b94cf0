import Mathlib.Data.Rat.Floor
import UsageMetrics.Feed.Arithmetic
import UsageMetrics.Proofs.Number.Percentage

namespace UsageMetrics.Number

open UsageMetrics.Feed

variable {part other whole : Int}

theorem percentage_of_nonpos (nothing : whole ≤ 0) : percentage part whole = 0 :=
  if_pos nothing

theorem percentage_eq_iff {rate : Int} (positive : 0 < whole) :
    percentage part whole = rate ↔
      2 * whole * rate ≤ 200 * part + whole ∧ 200 * part + whole < 2 * whole * (rate + 1) := by
  rw [Int.mul_comm (2 * whole), Int.mul_comm (2 * whole), ← le_percentage_iff positive,
    ← percentage_lt_iff positive]
  omega

theorem percentage_eq_round (part : Int) (positive : 0 < whole) :
    percentage part whole = round (100 * part / whole : ℚ) := by
  have divisor : (0 : ℚ) < whole := Int.cast_pos.mpr positive
  obtain ⟨lower, upper⟩ := (percentage_eq_iff positive).mp (Eq.refl (percentage part whole))
  have lower : (2 * whole * percentage part whole : ℚ) ≤ 200 * part + whole := by exact_mod_cast lower
  have upper : (200 * part + whole : ℚ) < 2 * whole * (percentage part whole + 1) := by
    exact_mod_cast upper
  symm
  rw [round_eq_iff, Set.mem_Ico, le_div_iff₀ divisor, div_lt_iff₀ divisor]
  constructor
  · linarith
  · linarith

theorem percentage_mono (more : part ≤ other) : percentage part whole ≤ percentage other whole := by
  rcases Int.lt_or_le 0 whole with positive | nothing
  · have own := (le_percentage_iff positive).mp (Int.le_refl (percentage part whole))
    exact (le_percentage_iff positive).mpr (by omega)
  · rw [percentage_of_nonpos nothing, percentage_of_nonpos nothing]

theorem percentage_anti {wider : Int} (nonneg : 0 ≤ part) (positive : 0 < whole)
    (wide : whole ≤ wider) : percentage part wider ≤ percentage part whole := by
  have own := (le_percentage_iff (by omega)).mp (Int.le_refl (percentage part wider))
  rw [le_percentage_iff positive]
  generalize percentage part wider = rate at own ⊢
  rcases Int.lt_or_le 0 rate with some | none
  · -- Without the half that is rounded up, a rate is a multiple of the whole.
    have shrunk : (2 * rate - 1) * whole ≤ (2 * rate - 1) * wider :=
      Int.mul_le_mul_of_nonneg_left wide (by omega)
    linarith
  · have below : rate * (2 * whole) ≤ 0 := Int.mul_nonpos_of_nonpos_of_nonneg none (by omega)
    omega

theorem percentage_scaled {factor : Int} (scale : 0 < factor) (part whole : Int) :
    percentage (factor * part) (factor * whole) = percentage part whole := by
  have sign : factor * whole ≤ 0 ↔ whole ≤ 0 := by
    rw [← not_lt, ← not_lt, mul_pos_iff_of_pos_left scale]
  have raised : 200 * (factor * part) + factor * whole = factor * (200 * part + whole) := by ring
  have doubled : 2 * (factor * whole) = factor * (2 * whole) := by ring
  simp only [percentage, sign, raised, doubled, Int.mul_ediv_mul_of_pos _ _ scale]

theorem percentage_eq_hundred_iff (positive : 0 < whole) (nonneg : 0 ≤ part)
    (most : part ≤ whole) : percentage part whole = 100 ↔ 199 * whole ≤ 200 * part := by
  have ceiling := (percentage_isPercent nonneg most).2
  have reached : 100 ≤ percentage part whole ↔ 100 * (2 * whole) ≤ 200 * part + whole :=
    le_percentage_iff positive
  omega

/-- A share and what is left of the whole are rounded up both where they end in a half. -/
theorem percentage_add_rest (positive : 0 < whole) :
    percentage part whole + percentage (whole - part) whole = 100 ∨
      percentage part whole + percentage (whole - part) whole = 101 := by
  obtain ⟨lower, upper⟩ := (percentage_eq_iff positive).mp (Eq.refl (percentage part whole))
  obtain ⟨lowerRest, upperRest⟩ :=
    (percentage_eq_iff positive).mp (Eq.refl (percentage (whole - part) whole))
  generalize percentage part whole = rate at lower upper ⊢
  generalize percentage (whole - part) whole = rest at lowerRest upperRest ⊢
  have most : whole * (rate + rest) < whole * 102 := by linarith
  have least : whole * 99 < whole * (rate + rest) := by linarith
  have below := lt_of_mul_lt_mul_left most (by omega)
  have above := lt_of_mul_lt_mul_left least (by omega)
  omega

def quotient? (dividend divisor : Int) : Option Int :=
  if divisor = 0 then none else some (dividend.fdiv divisor)

/-- The same percentage, were it not known that its divisor is never zero. -/
def percentage? (part whole : Int) : Option Int :=
  if whole ≤ 0 then some 0 else quotient? (200 * part + whole) (2 * whole)

theorem percentage?_eq (part whole : Int) : percentage? part whole = some (percentage part whole) := by
  unfold percentage? percentage
  split
  · rfl
  · rename_i positive
    rw [quotient?, if_neg (by omega), Int.fdiv_eq_ediv_of_nonneg _ (by omega)]

structure HalfUp (rate : Int → Int → Int) : Prop where
  bracketed : ∀ n d r, 0 < d →
    (rate n d = r ↔ 2 * d * r ≤ 200 * n + d ∧ 200 * n + d < 2 * d * (r + 1))
  nearest : ∀ n d, 0 < d → rate n d = round (100 * n / d : ℚ)
  mono : ∀ n m d, 0 < d → n ≤ m → rate n d ≤ rate m d
  anti : ∀ n d e, 0 ≤ n → 0 < d → d ≤ e → rate n e ≤ rate n d
  scaled : ∀ n d k, 0 < d → 0 < k → rate (k * n) (k * d) = rate n d
  percent : ∀ n d, 0 < d → 0 ≤ n → n ≤ d → IsPercent (rate n d)
  hundred : ∀ n d, 0 < d → 0 ≤ n → n ≤ d → (rate n d = 100 ↔ 199 * d ≤ 200 * n)
  rest : ∀ n d, 0 < d → 0 ≤ n → n ≤ d →
    rate n d + rate (d - n) d = 100 ∨ rate n d + rate (d - n) d = 101
  nothing : ∀ n d, d ≤ 0 → rate n d = 0

/-- A percentage goes up from a half, and divides by nothing but positive numbers. -/
theorem percentage_halfUp : HalfUp percentage ∧ ∀ part whole : Int,
    percentage? part whole = some (percentage part whole) ∧
      (Value.integer part).share (.integer whole) = .ok (.integer (percentage part whole)) := by
  refine ⟨{
    bracketed := fun n d r positive => percentage_eq_iff positive
    nearest := fun n d positive => percentage_eq_round n positive
    mono := fun n m d _ more => percentage_mono more
    anti := fun n d e nonneg positive wide => percentage_anti nonneg positive wide
    scaled := fun n d k _ scale => percentage_scaled scale n d
    percent := fun n d _ nonneg most => percentage_isPercent nonneg most
    hundred := fun n d positive nonneg most => percentage_eq_hundred_iff positive nonneg most
    rest := fun n d positive _ _ => percentage_add_rest positive
    nothing := fun n d nothing => percentage_of_nonpos nothing }, fun part whole =>
      ⟨percentage?_eq part whole, ?_⟩⟩
  rcases Int.lt_or_le 0 whole with positive | nothing
  · simp [Value.share, Value.amount?, Amount.isPositive, positive]
  · simp [Value.share, Value.amount?, Amount.isPositive, nothing, percentage_of_nonpos nothing]

example : percentage 1 8 = 13 ∧ percentage 7 8 = 88 ∧ percentage (-1) 8 = -12 := by decide

end UsageMetrics.Number
