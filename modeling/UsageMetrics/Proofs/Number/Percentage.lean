import Mathlib.Algebra.Ring.Int.Defs
import Mathlib.Tactic.Linarith
import UsageMetrics.Number.Percentage

namespace UsageMetrics.Number

def IsPercent (n : Int) : Prop := 0 ≤ n ∧ n ≤ 100

theorem percentage_isPercent {part whole : Int} (nonneg : 0 ≤ part) (most : part ≤ whole) :
    IsPercent (percentage part whole) := by
  unfold percentage
  split
  · exact ⟨Int.le_refl 0, by decide⟩
  · rename_i positive
    -- A whole accepted in full is a hundred and a half before it is cut off.
    have below : (200 * part + whole) / (2 * whole) < 101 :=
      Int.ediv_lt_of_lt_mul (by omega) (by omega)
    exact ⟨Int.ediv_nonneg (by omega) (by omega), by omega⟩

theorem le_percentage_iff {part whole n : Int} (positive : 0 < whole) :
    n ≤ percentage part whole ↔ n * (2 * whole) ≤ 200 * part + whole := by
  rw [percentage, if_neg (by omega), Int.le_ediv_iff_mul_le (by omega)]

theorem percentage_lt_iff {part whole n : Int} (positive : 0 < whole) :
    percentage part whole < n ↔ 200 * part + whole < n * (2 * whole) := by
  rw [← Int.not_le, le_percentage_iff positive, Int.not_le]

def Between (n : Int) (among : List Int) : Prop :=
  ∃ least most, among.min? = some least ∧ among.max? = some most ∧ least ≤ n ∧ n ≤ most

section Mean

variable {α : Type} {part whole : α → Int} {parts : List α}
  (within : ∀ a ∈ parts, 0 ≤ part a ∧ part a ≤ whole a)

include within

theorem le_percentage_sum (least : Int)
    (each : ∀ a ∈ parts, 0 < whole a → least ≤ percentage (part a) (whole a))
    (positive : 0 < (parts.map whole).sum) :
    least ≤ percentage (parts.map part).sum (parts.map whole).sum := by
  rw [le_percentage_iff positive]
  clear positive
  induction parts with
  | nil => simp
  | cons a rest ih =>
    obtain ⟨⟨nonneg, most⟩, others⟩ := List.forall_mem_cons.mp within
    obtain ⟨first, eachOther⟩ := List.forall_mem_cons.mp each
    have tail := ih others eachOther
    have head : least * (2 * whole a) ≤ 200 * part a + whole a := by
      rcases Int.lt_or_eq_of_le (Int.le_trans nonneg most) with positive | nothing
      · exact (le_percentage_iff positive).mp (first positive)
      · rw [← nothing]
        omega
    simp only [List.map_cons, List.sum_cons]
    linarith

theorem percentage_sum_lt (above : Int)
    (each : ∀ a ∈ parts, 0 < whole a → percentage (part a) (whole a) < above)
    (positive : 0 < (parts.map whole).sum) :
    percentage (parts.map part).sum (parts.map whole).sum < above := by
  rw [percentage_lt_iff positive]
  -- A part without a whole is on the bound, so one with a whole has to be below it.
  suffices bounded : 200 * (parts.map part).sum + (parts.map whole).sum ≤
      above * (2 * (parts.map whole).sum) ∧ (0 < (parts.map whole).sum →
        200 * (parts.map part).sum + (parts.map whole).sum <
          above * (2 * (parts.map whole).sum)) from bounded.2 positive
  clear positive
  induction parts with
  | nil => simp
  | cons a rest ih =>
    obtain ⟨⟨nonneg, most⟩, others⟩ := List.forall_mem_cons.mp within
    obtain ⟨first, eachOther⟩ := List.forall_mem_cons.mp each
    obtain ⟨tail, strictTail⟩ := ih others eachOther
    simp only [List.map_cons, List.sum_cons]
    rcases Int.lt_or_eq_of_le (Int.le_trans nonneg most) with positive | nothing
    · have head := (percentage_lt_iff positive).mp (first positive)
      constructor
      · linarith
      · intro _
        linarith
    · have noPart : part a = 0 := by omega
      rw [← nothing, noPart, Int.zero_add, Int.zero_add]
      exact ⟨tail, strictTail⟩

/-- The percentage of sums is a mean of those of the parts that have a whole. -/
theorem percentage_sum_between {rate : α → Int}
    (rates : ∀ a ∈ parts, percentage (part a) (whole a) = rate a)
    (positive : 0 < (parts.map whole).sum) :
    Between (percentage (parts.map part).sum (parts.map whole).sum)
      ((parts.filter fun a => 0 < whole a).map rate) := by
  have listed (a : α) (member : a ∈ parts) (filled : 0 < whole a) :
      percentage (part a) (whole a) ∈ (parts.filter fun a => 0 < whole a).map rate := by
    rw [rates a member]
    exact List.mem_map_of_mem (by simpa using ⟨member, filled⟩)
  generalize (parts.filter fun a => 0 < whole a).map rate = among at listed
  have nonempty : among ≠ [] := by
    rintro rfl
    -- Without a rate of a part any number is below the mean and above it.
    have low := le_percentage_sum within 0 fun a member filled => nomatch listed a member filled
    have high := percentage_sum_lt within 0 fun a member filled => nomatch listed a member filled
    exact absurd (low positive) (Int.not_le.mpr (high positive))
  obtain ⟨least, isLeast⟩ := Option.ne_none_iff_exists'.mp (mt List.min?_eq_none_iff.mp nonempty)
  obtain ⟨most, isMost⟩ := Option.ne_none_iff_exists'.mp (mt List.max?_eq_none_iff.mp nonempty)
  refine ⟨least, most, isLeast, isMost, ?_, ?_⟩
  · refine le_percentage_sum within least (fun a member filled => ?_) positive
    exact (List.min?_eq_some_iff.mp isLeast).2 _ (listed a member filled)
  · refine Int.le_of_lt_add_one (percentage_sum_lt within (most + 1) (fun a member filled => ?_)
      positive)
    exact Int.lt_add_one_of_le ((List.max?_eq_some_iff.mp isMost).2 _ (listed a member filled))

end Mean

end UsageMetrics.Number
