import UsageMetrics.Proofs.Billing.Grouping
import UsageMetrics.Proofs.Billing.Sums
import UsageMetrics.Proofs.Number.Overflow

namespace UsageMetrics.Billing

open UsageMetrics.Number

theorem sub?_isSome {ds others : List Decimal} {a b : Decimal} (left : Decimal.IsSum ds a)
    (right : Decimal.IsSum others b) (fits : Decimal.SumFits ds) (fits' : Decimal.SumFits others) :
    ∃ difference, a.sub? b = some difference := by
  have room : (10 : ℚ) ^ Decimal.precision + 10 ^ Decimal.precision < Decimal.ceiling := by
    refine lt_of_le_of_lt ?_ Decimal.pow_lt_ceiling
    calc (10 : ℚ) ^ Decimal.precision + 10 ^ Decimal.precision
      _ ≤ 10 ^ (29 : Int) := by norm_num [Decimal.precision]
      _ ≤ 10 ^ Decimal.highestExponent := zpow_le_zpow_right₀ (by norm_num) (by decide)
  rw [← Option.ne_none_iff_exists', Ne, Decimal.sub?_eq_none_iff, not_le]
  linarith [abs_sub a.value b.value, left.abs_value_lt fits, right.abs_value_lt fits']

theorem ofAmounts?_isSome {as : List Amounts} {total : Amounts} (fit : Amounts.Fit as)
    (isSum : Amounts.IsSum as total) : ∃ costs, Costs.ofAmounts? total = some costs ∧
      costs.amounts = total := by
  obtain ⟨billed, used⟩ := sub?_isSome (isSum.column .requests) (isSum.column .includedRequests)
    (fit .requests) (fit .includedRequests)
  obtain ⟨net, paid⟩ := sub?_isSome (isSum.column .gross) (isSum.column .discount)
    (fit .gross) (fit .discount)
  simp only [Amounts.get] at used paid
  exact ⟨⟨total, billed, net⟩, by simp [Costs.ofAmounts?, used, paid], rfl⟩

section Items

variable {κ : Type} [DecidableEq κ] {items others : List Item}

def ItemsFit (items : List Item) : Prop := Amounts.Fit (items.map Amounts.ofItem)

theorem ItemsFit.sublist (fit : ItemsFit items) (part : others.Sublist items) : ItemsFit others :=
  Amounts.Fit.sublist fit (part.map _)

theorem ItemsFit.perm (fit : ItemsFit items) (order : items.Perm others) : ItemsFit others :=
  Amounts.Fit.perm fit (order.map _)

theorem amountsUnder?_perm (fit : ItemsFit items) (order : items.Perm others) (keyOf : Item → κ)
    (key : κ) : amountsUnder? keyOf items key = amountsUnder? keyOf others key :=
  Amounts.sum?_perm (fit.sublist List.filter_sublist) ((order.filter _).map _)

theorem costsUnder?_perm (fit : ItemsFit items) (order : items.Perm others) (keyOf : Item → κ)
    (key : κ) : costsUnder? keyOf items key = costsUnder? keyOf others key := by
  rw [costsUnder?, costsUnder?, amountsUnder?_perm fit order]

theorem costsUnder?_isSum (fit : ItemsFit items) (keyOf : Item → κ) (key : κ) :
    ∃ costs, costsUnder? keyOf items key = some costs ∧
      Amounts.IsSum ((items.filter fun i => keyOf i = key).map Amounts.ofItem) costs.amounts := by
  have part := fit.sublist (List.filter_sublist (p := fun i => keyOf i = key))
  obtain ⟨total, summed, isSum⟩ := Amounts.sum?_isSum part
  obtain ⟨costs, made, rfl⟩ := ofAmounts?_isSome part isSum
  refine ⟨costs, ?_, isSum⟩
  rw [costsUnder?, amountsUnder?, summed]
  exact made

theorem firstSeen_perm {keys keys' : List κ} (order : keys.Perm keys') :
    (firstSeen keys).Perm (firstSeen keys') := by
  rw [List.perm_ext_iff_of_nodup (nodup_firstSeen keys) (nodup_firstSeen keys')]
  intro key
  rw [mem_firstSeen, mem_firstSeen, order.mem_iff]

theorem fit_grouped (fit : ItemsFit items) (keyOf : Item → κ) {total : κ → Amounts}
    (each : ∀ key, Amounts.IsSum ((items.filter fun i => keyOf i = key).map Amounts.ofItem)
      (total key)) : Amounts.Fit ((firstSeen (items.map keyOf)).map total) := by
  intro amount
  obtain ⟨k, small, places, bounded⟩ := fit amount
  have places : ∀ i ∈ items, ((Amounts.ofItem i).get amount).AtMostPlaces k :=
    fun i member => places _ (List.mem_map_of_mem (List.mem_map_of_mem member))
  have whole : (items.map fun i => |((Amounts.ofItem i).get amount).value|).sum <
      10 ^ (Decimal.precision - k) := by
    simpa only [Amounts.column, List.map_map, Function.comp_def] using bounded
  refine ⟨k, small, ?_, ?_⟩
  · simp only [Amounts.column, List.map_map, List.forall_mem_map]
    intro key _
    rw [Decimal.AtMostPlaces, Function.comp_apply, ((each key).column amount).exponent]
    apply Decimal.leastExponent_places
    simp only [Amounts.column, List.map_map, List.forall_mem_map]
    exact fun i member => places i (List.mem_of_mem_filter member)
  · -- No group exceeds what its own items amount to, and each item is in one group.
    refine lt_of_le_of_lt ?_ whole
    rw [← sum_grouped keyOf]
    simp only [Amounts.column, List.map_map, Function.comp_def]
    apply List.sum_le_sum
    intro key _
    have part := ((each key).column amount).abs_value_le
    simpa only [Amounts.column, List.map_map, Function.comp_def] using part

end Items

end UsageMetrics.Billing
