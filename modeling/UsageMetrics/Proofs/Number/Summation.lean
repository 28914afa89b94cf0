import Mathlib.Algebra.BigOperators.Group.List.Basic
import Mathlib.Algebra.Order.BigOperators.Group.List
import UsageMetrics.Proofs.Number.Order

namespace UsageMetrics.Number.Decimal

variable {k : Nat} {a b d start : Decimal} {ds others : List Decimal}

def Plain (d : Decimal) : Prop := d.coefficient = 0 → d.negative = false

theorem signed_inj {negative negative' : Bool} {m n : Nat} (plain : m = 0 → negative = false)
    (plain' : n = 0 → negative' = false) (same : signed negative m = signed negative' n) :
    negative = negative' ∧ m = n := by
  cases negative <;> cases negative' <;> simp [signed] at * <;> omega

theorem Plain.ext (left : a.Plain) (right : b.Plain) (places : a.exponent = b.exponent)
    (same : a.value = b.value) : a = b := by
  obtain ⟨negative, coefficient, exponent⟩ := a
  obtain ⟨negative', coefficient', exponent'⟩ := b
  obtain rfl : exponent = exponent' := places
  have unit : (10 : ℚ) ^ exponent ≠ 0 := (zpow_pos (by norm_num) _).ne'
  have digits : signed negative coefficient = signed negative' coefficient' := by
    exact_mod_cast mul_right_cancel₀ unit same
  obtain ⟨rfl, rfl⟩ := signed_inj left right digits
  rfl

theorem scaled_of_negative (negative : d.negative = true) (exponent : Int) :
    d.scaled exponent ≤ 0 ∧ (d.scaled exponent = 0 → d.coefficient = 0) := by
  simp only [scaled, signed, negative, if_true, shifted]
  split
  · rename_i zero
    exact ⟨by simp, fun _ => zero⟩
  · rename_i written
    have digits := Nat.mul_pos (Nat.pos_of_ne_zero written)
      (Nat.pow_pos (n := (d.exponent - exponent).toNat) (show 0 < 10 by decide))
    constructor
    · omega
    · intro none
      omega

theorem exactSum_plain (plain : a.Plain) (b : Decimal) : (exactSum a b).Plain := by
  intro zero
  have total := Int.natAbs_eq_zero.mp zero
  simp only [exactSum, total, if_true]
  cases left : a.negative with
  | false => rfl
  | true =>
    cases right : b.negative with
    | false => rfl
    | true =>
      -- Two numbers that are not positive add up to zero only if the first is zero.
      obtain ⟨low, nothing⟩ := scaled_of_negative left (min a.exponent b.exponent)
      obtain ⟨low', -⟩ := scaled_of_negative right (min a.exponent b.exponent)
      rw [plain (nothing (by omega))] at left
      cases left

theorem add?_eq (small : k ≤ precision) (left : a.AtMostPlaces k) (right : b.AtMostPlaces k)
    (top : a.exponent ≤ 0) (bounded : |a.value| + |b.value| < 10 ^ (precision - k)) :
    a.add? b = some (exactSum a b) := by
  obtain ⟨added, places, whole⟩ := add?_eq_fit? small left right bounded
  rw [added]
  by_cases zero : (exactSum a b).coefficient = 0
  · have inside : min (max (exactSum a b).exponent lastExponent) highestExponent =
        (exactSum a b).exponent := by
      simp only [AtMostPlaces, exactSum, precision, lastExponent, highestExponent] at *
      omega
    rw [fit?, if_pos zero, inside]
  · exact fit?_written small places zero whole

def leastExponent (ds : List Decimal) : Int := ds.foldr (fun d least => min d.exponent least) 0

theorem leastExponent_perm (order : ds.Perm others) : leastExponent ds = leastExponent others := by
  induction order with
  | nil => rfl
  | cons d _ ih => exact congrArg (min d.exponent) ih
  | swap a b rest => exact min_left_comm b.exponent a.exponent (leastExponent rest)
  | trans _ _ first second => exact first.trans second

theorem leastExponent_le (ds : List Decimal) : leastExponent ds ≤ 0 := by
  induction ds with
  | nil => exact le_rfl
  | cons d rest ih => exact (Int.min_le_right _ _).trans ih

theorem leastExponent_places (places : ∀ d ∈ ds, d.AtMostPlaces k) :
    -(k : Int) ≤ leastExponent ds := by
  induction ds with
  | nil => exact Int.neg_nonpos_of_nonneg (Int.natCast_nonneg k)
  | cons d rest ih =>
    obtain ⟨own, later⟩ := List.forall_mem_cons.mp places
    exact le_min own (ih later)

def sum? (ds : List Decimal) : Option Decimal := ds.foldlM add? zero

/-- What a sum is if nothing is rounded: nothing of it depends on the order of its summands. -/
structure IsSum (ds : List Decimal) (total : Decimal) : Prop where
  plain : total.Plain
  exponent : total.exponent = leastExponent ds
  value : total.value = (ds.map Decimal.value).sum

/-- Amounts that add up in the digits that count, in whatever order. -/
def SumFits (ds : List Decimal) : Prop :=
  ∃ k ≤ precision, (∀ d ∈ ds, d.AtMostPlaces k) ∧
    (ds.map fun d => |d.value|).sum < 10 ^ (precision - k)

theorem foldlM_add?_eq (small : k ≤ precision) (begun : start.AtMostPlaces k)
    (top : start.exponent ≤ 0) (plain : start.Plain) (places : ∀ d ∈ ds, d.AtMostPlaces k)
    (bounded : |start.value| + (ds.map fun d => |d.value|).sum < 10 ^ (precision - k)) :
    ∃ total, ds.foldlM add? start = some total ∧ total.Plain ∧
      total.exponent = min start.exponent (leastExponent ds) ∧
      total.value = start.value + (ds.map Decimal.value).sum := by
  induction ds generalizing start with
  | nil => exact ⟨start, rfl, plain, (min_eq_left top).symm, (add_zero _).symm⟩
  | cons d rest ih =>
    obtain ⟨own, later⟩ := List.forall_mem_cons.mp places
    rw [List.map_cons, List.sum_cons] at bounded
    have others : 0 ≤ (rest.map fun d => |d.value|).sum :=
      List.sum_nonneg (List.forall_mem_map.mpr fun d _ => abs_nonneg d.value)
    have added := add?_eq small begun own top (by linarith)
    have grown := abs_add_le start.value d.value
    rw [← exactSum_value] at grown
    obtain ⟨total, summed, ends, exponent, value⟩ := ih (exactSum_atMostPlaces begun own)
      ((Int.min_le_left _ _).trans top) (exactSum_plain plain d) later (by linarith)
    refine ⟨total, ?_, ends, ?_, ?_⟩
    · rw [List.foldlM_cons, added]
      exact summed
    · exact exponent.trans (min_assoc _ _ _)
    · rw [value, exactSum_value, List.map_cons, List.sum_cons, add_assoc]

theorem sum?_isSum (fits : SumFits ds) : ∃ total, sum? ds = some total ∧ IsSum ds total := by
  obtain ⟨k, small, places, bounded⟩ := fits
  have begun : zero.AtMostPlaces k := Int.neg_nonpos_of_nonneg (Int.natCast_nonneg k)
  obtain ⟨total, summed, plain, exponent, value⟩ := foldlM_add?_eq small begun le_rfl
    (fun _ => rfl) places (by rwa [value_zero, abs_zero, zero_add])
  exact ⟨total, summed, plain, exponent.trans (min_eq_right (leastExponent_le ds)),
    by rw [value, value_zero, zero_add]⟩

theorem IsSum.eq {total other : Decimal} (left : IsSum ds total) (right : IsSum others other)
    (order : ds.Perm others) : total = other :=
  left.plain.ext right.plain
    (left.exponent.trans ((leastExponent_perm order).trans right.exponent.symm))
    (left.value.trans (((order.map _).sum_eq).trans right.value.symm))

theorem IsSum.abs_value_le {total : Decimal} (isSum : IsSum ds total) :
    |total.value| ≤ (ds.map fun d => |d.value|).sum := by
  rw [isSum.value]
  clear isSum
  induction ds with
  | nil => simp
  | cons d rest ih =>
    simp only [List.map_cons, List.sum_cons]
    exact (abs_add_le _ _).trans (add_le_add_right ih _)

theorem IsSum.abs_value_lt {total : Decimal} (isSum : IsSum ds total) (fits : SumFits ds) :
    |total.value| < 10 ^ precision := by
  obtain ⟨k, -, -, bounded⟩ := fits
  exact lt_of_le_of_lt isSum.abs_value_le (lt_of_lt_of_le bounded
    (pow_le_pow_right₀ (by norm_num) (Nat.sub_le _ _)))

theorem SumFits.perm (fits : SumFits ds) (order : ds.Perm others) : SumFits others := by
  obtain ⟨k, small, places, bounded⟩ := fits
  refine ⟨k, small, fun d member => places d (order.mem_iff.mpr member), ?_⟩
  rwa [← (order.map _).sum_eq]

theorem SumFits.sublist (fits : SumFits ds) (part : others.Sublist ds) : SumFits others := by
  obtain ⟨k, small, places, bounded⟩ := fits
  refine ⟨k, small, fun d member => places d (part.subset member), lt_of_le_of_lt ?_ bounded⟩
  exact (part.map _).sum_le_sum (List.forall_mem_map.mpr fun d _ => abs_nonneg d.value)

end UsageMetrics.Number.Decimal
