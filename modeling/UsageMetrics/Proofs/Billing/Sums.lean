import UsageMetrics.Billing.Costs
import UsageMetrics.Proofs.Number.Summation

namespace UsageMetrics.Billing

open UsageMetrics.Number

inductive Amount where
  | requests
  | includedRequests
  | gross
  | discount
  deriving DecidableEq, Repr

namespace Amounts

variable {k : Nat} {a b : Amounts}

def get (a : Amounts) : Amount → Decimal
  | .requests => a.requests
  | .includedRequests => a.includedRequests
  | .gross => a.gross
  | .discount => a.discount

def magnitude (a : Amounts) : ℚ :=
  |a.requests.value| + |a.includedRequests.value| + |a.gross.value| + |a.discount.value|

def AtMostPlaces (k : Nat) (a : Amounts) : Prop := ∀ amount, (a.get amount).AtMostPlaces k

theorem atMostPlaces_iff : a.AtMostPlaces k ↔ a.requests.AtMostPlaces k ∧
    a.includedRequests.AtMostPlaces k ∧ a.gross.AtMostPlaces k ∧ a.discount.AtMostPlaces k := by
  constructor
  · exact fun every => ⟨every .requests, every .includedRequests, every .gross, every .discount⟩
  · intro known amount
    rcases known with ⟨requests, included, gross, discount⟩
    cases amount <;> assumption

instance (k : Nat) (a : Amounts) : Decidable (a.AtMostPlaces k) :=
  decidable_of_iff _ atMostPlaces_iff.symm

theorem get_zero (amount : Amount) : zero.get amount = .zero := by
  cases amount <;> rfl

theorem magnitude_nonneg (a : Amounts) : 0 ≤ a.magnitude := by
  unfold magnitude
  positivity

theorem abs_get_le (a : Amounts) (amount : Amount) : |(a.get amount).value| ≤ a.magnitude := by
  have requests := abs_nonneg a.requests.value
  have included := abs_nonneg a.includedRequests.value
  have gross := abs_nonneg a.gross.value
  have discount := abs_nonneg a.discount.value
  cases amount <;> simp only [get, magnitude] <;> linarith

section Columns

variable {as others : List Amounts} {start total : Amounts}

def ofColumns (f : Amount → Decimal) : Amounts :=
  ⟨f .requests, f .includedRequests, f .gross, f .discount⟩

@[simp] theorem get_ofColumns (f : Amount → Decimal) (amount : Amount) :
    (ofColumns f).get amount = f amount := by
  cases amount <;> rfl

theorem ext_get {a b : Amounts} (same : ∀ amount, a.get amount = b.get amount) : a = b := by
  have requests := same .requests
  have included := same .includedRequests
  have gross := same .gross
  have discount := same .discount
  obtain ⟨⟩ := a
  obtain ⟨⟩ := b
  simp only [get] at requests included gross discount
  simp only [requests, included, gross, discount]

theorem add?_of_columns {a b sum : Amounts}
    (columns : ∀ amount, (a.get amount).add? (b.get amount) = some (sum.get amount)) :
    a.add? b = some sum := by
  have requests := columns .requests
  have included := columns .includedRequests
  have gross := columns .gross
  have discount := columns .discount
  simp only [get] at requests included gross discount
  simp [add?, requests, included, gross, discount]

def column (amount : Amount) (as : List Amounts) : List Decimal := as.map fun a => a.get amount

theorem foldlM_of_columns
    (columns : ∀ amount, (column amount as).foldlM Decimal.add? (start.get amount) =
      some (total.get amount)) : as.foldlM add? start = some total := by
  induction as generalizing start with
  | nil => exact congrArg some (ext_get fun amount => Option.some.inj (columns amount))
  | cons a rest ih =>
    have each (amount : Amount) : ∃ next, (start.get amount).add? (a.get amount) = some next ∧
        (column amount rest).foldlM Decimal.add? next = some (total.get amount) := by
      have step := columns amount
      rw [column, List.map_cons, List.foldlM_cons] at step
      exact Option.bind_eq_some_iff.mp step
    choose next added later using each
    have first : start.add? a = some (ofColumns next) :=
      add?_of_columns fun amount => by rw [added, get_ofColumns]
    rw [List.foldlM_cons, first]
    exact ih fun amount => by rw [get_ofColumns, later]

def Fit (as : List Amounts) : Prop := ∀ amount, Decimal.SumFits (column amount as)

structure IsSum (as : List Amounts) (total : Amounts) : Prop where
  column : ∀ amount, Decimal.IsSum (column amount as) (total.get amount)

theorem sum?_isSum (fit : Fit as) : ∃ total, sum? as = some total ∧ IsSum as total := by
  choose total summed isSum using fun amount => Decimal.sum?_isSum (fit amount)
  refine ⟨ofColumns total, foldlM_of_columns fun amount => ?_, ⟨fun amount => ?_⟩⟩
  · rw [get_zero, get_ofColumns]
    exact summed amount
  · rw [get_ofColumns]
    exact isSum amount

theorem Fit.perm (fit : Fit as) (order : as.Perm others) : Fit others :=
  fun amount => (fit amount).perm (order.map _)

theorem Fit.sublist (fit : Fit as) (part : others.Sublist as) : Fit others :=
  fun amount => (fit amount).sublist (part.map _)

theorem sum?_perm (fit : Fit as) (order : as.Perm others) : sum? as = sum? others := by
  obtain ⟨total, summed, isSum⟩ := sum?_isSum fit
  obtain ⟨other, summed', isSum'⟩ := sum?_isSum (fit.perm order)
  have same : total = other :=
    ext_get fun amount => (isSum.column amount).eq (isSum'.column amount) (order.map _)
  rw [summed, summed', same]

end Columns

theorem sum_magnitude (as : List Amounts) : (as.map magnitude).sum =
    (as.map fun a => |a.requests.value|).sum + (as.map fun a => |a.includedRequests.value|).sum +
      (as.map fun a => |a.gross.value|).sum + (as.map fun a => |a.discount.value|).sum := by
  simp only [← List.sum_map_add]
  rfl

section Exact

variable {amounts : List Amounts} (small : k ≤ Decimal.precision)
  (places : ∀ a ∈ amounts, a.AtMostPlaces k)
  (bounded : (amounts.map magnitude).sum < 10 ^ (Decimal.precision - k))

include small places bounded

theorem fit_of_magnitude : Fit amounts := by
  intro amount
  refine ⟨k, small, List.forall_mem_map.mpr fun a member => places a member amount, ?_⟩
  refine lt_of_le_of_lt ?_ bounded
  rw [column, List.map_map]
  exact List.sum_le_sum fun a _ => abs_get_le a amount

theorem sum?_exact :
    ∃ total, sum? amounts = some total ∧ total.AtMostPlaces k ∧
      total.magnitude ≤ (amounts.map magnitude).sum ∧
      ∀ amount, (total.get amount).value = (amounts.map fun a => (a.get amount).value).sum := by
  obtain ⟨total, summed, isSum⟩ := sum?_isSum (fit_of_magnitude small places bounded)
  refine ⟨total, summed, fun amount => ?_, ?_, fun amount => ?_⟩
  · rw [Decimal.AtMostPlaces, (isSum.column amount).exponent]
    exact Decimal.leastExponent_places
      (List.forall_mem_map.mpr fun a member => places a member amount)
  · have each (amount : Amount) := (isSum.column amount).abs_value_le
    have requests := each .requests
    have included := each .includedRequests
    have gross := each .gross
    have discount := each .discount
    simp only [column, List.map_map, Function.comp_def, get] at requests included gross discount
    rw [sum_magnitude, magnitude]
    linarith
  · rw [(isSum.column amount).value, column, List.map_map]
    rfl

end Exact

end Amounts

structure Costs.SumsUp (c : Costs) (amounts : List Amounts) : Prop where
  amounts : ∀ amount,
    (c.amounts.get amount).value = (amounts.map fun a => (a.get amount).value).sum
  billedRequests : c.billedRequests.value =
    c.amounts.requests.value - c.amounts.includedRequests.value
  net : c.net.value = c.amounts.gross.value - c.amounts.discount.value

theorem ofAmounts?_exact {k : Nat} (small : k ≤ Decimal.precision) {a : Amounts}
    (places : a.AtMostPlaces k) (bounded : a.magnitude < 10 ^ (Decimal.precision - k)) :
    ∃ c, Costs.ofAmounts? a = some c ∧ c.amounts = a ∧
      c.billedRequests.value = a.requests.value - a.includedRequests.value ∧
      c.net.value = a.gross.value - a.discount.value := by
  have requests := abs_nonneg a.requests.value
  have included := abs_nonneg a.includedRequests.value
  have gross := abs_nonneg a.gross.value
  have discount := abs_nonneg a.discount.value
  unfold Amounts.magnitude at bounded
  obtain ⟨billed, used, billedExact⟩ := Decimal.sub?_exact small (places .requests)
    (places .includedRequests) (by simp only [Amounts.get]; linarith)
  obtain ⟨net, paid, netExact⟩ := Decimal.sub?_exact small (places .gross) (places .discount)
    (by simp only [Amounts.get]; linarith)
  simp only [Amounts.get] at used paid
  exact ⟨⟨a, billed, net⟩, by simp [Costs.ofAmounts?, used, paid], rfl, billedExact, netExact⟩

theorem costs_exact {k : Nat} (small : k ≤ Decimal.precision) {amounts : List Amounts}
    (places : ∀ a ∈ amounts, a.AtMostPlaces k)
    (bounded : (amounts.map Amounts.magnitude).sum < 10 ^ (Decimal.precision - k)) :
    ∃ c, (Amounts.sum? amounts).bind Costs.ofAmounts? = some c ∧ c.SumsUp amounts ∧
      c.amounts.AtMostPlaces k ∧ c.amounts.magnitude ≤ (amounts.map Amounts.magnitude).sum := by
  obtain ⟨total, summed, ends, within, sums⟩ := Amounts.sum?_exact small places bounded
  obtain ⟨c, made, rfl, billed, net⟩ := ofAmounts?_exact small ends (lt_of_le_of_lt within bounded)
  exact ⟨c, by rw [summed]; exact made, ⟨sums, billed, net⟩, ends, within⟩

end UsageMetrics.Billing
