import Mathlib.Algebra.Order.BigOperators.Group.List
import Mathlib.Tactic.Choose
import UsageMetrics.Proofs.Billing.Costs
import UsageMetrics.Proofs.Billing.Grouping
import UsageMetrics.Proofs.Billing.Sums

namespace UsageMetrics.Billing

open UsageMetrics.Number UsageMetrics.Feed

inductive Column where
  | amount (name : Amount)
  | billedRequests
  | net
  deriving DecidableEq, Repr

def Costs.get (c : Costs) : Column → Decimal
  | .amount name => c.amounts.get name
  | .billedRequests => c.billedRequests
  | .net => c.net

/-- A breakdown that has a row for every model that an item is billed under, each worked out of just
the items of its model, and a total that agrees with the rows as well as with the items. -/
structure Reconciled (billedAs : Item → Option String) (items : List Item)
    (rows : List ModelCost) (total : Costs) : Prop where
  distinct : (rows.map ModelCost.model).Nodup
  complete : ∀ i ∈ items, ∃ row ∈ rows, billedAs i = some row.model
  each : ∀ row ∈ rows, row.costs.SumsUp
    ((items.filter fun i => billedAs i = some row.model).map Amounts.ofItem)
  whole : total.SumsUp (items.map Amounts.ofItem)
  columns : ∀ column,
    (total.get column).value = (rows.map fun row => (row.costs.get column).value).sum

theorem Costs.SumsUp.perm {c : Costs} {amounts others : List Amounts} (same : amounts.Perm others)
    (sums : c.SumsUp amounts) : c.SumsUp others :=
  ⟨fun amount => (sums.amounts amount).trans (same.map _).sum_eq, sums.billedRequests, sums.net⟩

theorem sum_sub {α : Type} (xs : List α) (f g : α → ℚ) :
    (xs.map fun x => f x - g x).sum = (xs.map f).sum - (xs.map g).sum := by
  induction xs with
  | nil => simp
  | cons x rest ih =>
    simp only [List.map_cons, List.sum_cons, ih]
    ring

theorem column_sum {rows : List ModelCost} {total : Costs}
    (each : ∀ row ∈ rows, ∃ amounts, row.costs.SumsUp amounts)
    (whole : total.SumsUp (rows.map fun row => row.costs.amounts)) (column : Column) :
    (total.get column).value = (rows.map fun row => (row.costs.get column).value).sum := by
  have amounts (amount : Amount) : (total.amounts.get amount).value =
      (rows.map fun row => (row.costs.amounts.get amount).value).sum := by
    rw [whole.amounts, List.map_map]
    rfl
  cases column with
  | amount name => exact amounts name
  | billedRequests =>
    have own : (rows.map fun row => (row.costs.get .billedRequests).value) = rows.map fun row =>
        (row.costs.amounts.get .requests).value - (row.costs.amounts.get .includedRequests).value :=
      List.map_congr_left fun row member => (each row member).choose_spec.billedRequests
    rw [own, sum_sub, ← amounts, ← amounts]
    exact whole.billedRequests
  | net =>
    have own : (rows.map fun row => (row.costs.get .net).value) = rows.map fun row =>
        (row.costs.amounts.get .gross).value - (row.costs.amounts.get .discount).value :=
      List.map_congr_left fun row member => (each row member).choose_spec.net
    rw [own, sum_sub, ← amounts, ← amounts]
    exact whole.net

theorem reconciled_of_rows {keyOf : Item → String} {billedAs : Item → Option String}
    {items : List Item} (named : ∀ i ∈ items, billedAs i = some (keyOf i))
    {rows : List ModelCost} {total : Costs}
    (models : (rows.map ModelCost.model).Perm (firstSeen (items.map keyOf)))
    (each : ∀ row ∈ rows, row.costs.SumsUp
      ((items.filter fun i => keyOf i = row.model).map Amounts.ofItem))
    (whole : total.SumsUp (rows.map fun row => row.costs.amounts)) :
    Reconciled billedAs items rows total where
  distinct := models.nodup_iff.mpr (nodup_firstSeen _)
  complete i member := by
    have listed := models.mem_iff.mpr (mem_firstSeen.mpr (List.mem_map_of_mem member))
    obtain ⟨row, found, model⟩ := List.mem_map.mp listed
    exact ⟨row, found, by rw [named i member, model]⟩
  each row member := by
    have same : (items.filter fun i => billedAs i = some row.model) =
        items.filter fun i => keyOf i = row.model := by
      apply List.filter_congr
      intro i listed
      rw [named i listed]
      simp
    rw [same]
    exact each row member
  whole := by
    refine ⟨fun amount => ?_, whole.billedRequests, whole.net⟩
    -- Rows group the items by their models, so the sums of the groups are those of the items.
    have own : (rows.map fun row => (row.costs.amounts.get amount).value) =
        (rows.map ModelCost.model).map fun model => ((items.filter fun i => keyOf i = model).map
          fun i => ((Amounts.ofItem i).get amount).value).sum := by
      rw [List.map_map]
      apply List.map_congr_left
      intro row member
      rw [(each row member).amounts, List.map_map]
      rfl
    rw [whole.amounts, List.map_map, List.map_map]
    exact (congrArg List.sum own).trans ((models.map _).sum_eq.trans (sum_grouped keyOf items _))
  columns := column_sum (fun row member => ⟨_, each row member⟩) whole

theorem breakdown?_of_rows {unknown : String} {items : List Item} {rows : List ModelCost}
    {total : Costs}
    (priced : (firstSeen (items.map (modelOf unknown))).mapM (modelCost? unknown items) = some rows)
    (summed : (Amounts.sum? (rows.map fun row => row.costs.amounts)).bind Costs.ofAmounts? =
      some total) :
    breakdown? unknown items = some (rows.mergeSort costBefore, total) := by
  obtain ⟨amounts, sums, costed⟩ := Option.bind_eq_some_iff.mp summed
  simp only [breakdown?, priced, Option.bind_eq_bind, Option.bind_some, sums, costed]
  rfl

section

variable {k : Nat} (small : k ≤ Decimal.precision) {items : List Item}
  (places : ∀ i ∈ items, (Amounts.ofItem i).AtMostPlaces k)
  (bounded : (items.map fun i => (Amounts.ofItem i).magnitude).sum <
    10 ^ (Decimal.precision - k))

include small places bounded

theorem modelCost?_exact (unknown model : String) :
    ∃ row, modelCost? unknown items model = some row ∧ row.model = model ∧
      row.costs.SumsUp ((items.filter fun i => modelOf unknown i = model).map Amounts.ofItem) ∧
      row.costs.amounts.AtMostPlaces k ∧ row.costs.amounts.magnitude ≤
        ((items.filter fun i => modelOf unknown i = model).map fun i =>
          (Amounts.ofItem i).magnitude).sum := by
  have own : ∀ a ∈ (items.filter fun i => modelOf unknown i = model).map Amounts.ofItem,
      a.AtMostPlaces k :=
    List.forall_mem_map.mpr fun i member => places i (List.mem_of_mem_filter member)
  have part : ((items.filter fun i => modelOf unknown i = model).map fun i =>
      (Amounts.ofItem i).magnitude).sum ≤
        (items.map fun i => (Amounts.ofItem i).magnitude).sum := by
    refine (List.filter_sublist.map _).sum_le_sum (List.forall_mem_map.mpr fun i _ => ?_)
    exact Amounts.magnitude_nonneg _
  have within := lt_of_le_of_lt part bounded
  obtain ⟨c, made, sums, ends, magnitude⟩ := costs_exact small own
    (by simpa only [List.map_map, Function.comp_def] using within)
  refine ⟨⟨model, c, (items.filter fun i => modelOf unknown i = model).length⟩, ?_, rfl, sums,
    ends, ?_⟩
  · simp [modelCost?, costsUnder?, amountsUnder?, made]
  · simpa only [List.map_map, Function.comp_def] using magnitude

theorem breakdown?_exact {unknown : String} {billedAs : Item → Option String}
    (named : ∀ i ∈ items, billedAs i = some (modelOf unknown i)) :
    ∃ rows total, breakdown? unknown items = some (rows, total) ∧
      Reconciled billedAs items rows total := by
  choose row made model sums ends magnitude using modelCost?_exact small places bounded unknown
  obtain ⟨models, seen⟩ : ∃ models, models = firstSeen (items.map (modelOf unknown)) := ⟨_, rfl⟩
  have priced : models.mapM (modelCost? unknown items) = some (models.map row) := by
    rw [funext made]
    exact List.mapM_pure
  have rowPlaces : ∀ a ∈ (models.map row).map fun r => r.costs.amounts, a.AtMostPlaces k := by
    simp only [List.forall_mem_map]
    exact fun model _ => ends model
  have rowBound : (((models.map row).map fun r => r.costs.amounts).map Amounts.magnitude).sum <
      10 ^ (Decimal.precision - k) := by
    refine lt_of_le_of_lt ?_ bounded
    rw [← sum_grouped (modelOf unknown), ← seen, List.map_map, List.map_map]
    exact List.sum_le_sum fun model _ => magnitude model
  obtain ⟨total, summed, whole, -, -⟩ := costs_exact small rowPlaces rowBound
  have sorted := List.mergeSort_perm (models.map row) costBefore
  refine ⟨_, total, breakdown?_of_rows (seen ▸ priced) summed, ?_⟩
  refine reconciled_of_rows named ?_ (fun r member => ?_) (whole.perm (sorted.symm.map _))
  · refine (sorted.map _).trans (.of_eq ?_)
    rw [List.map_map, ← seen]
    exact (List.map_congr_left fun key _ => model key).trans (List.map_id _)
  · obtain ⟨key, -, rfl⟩ := List.mem_map.mp (sorted.mem_iff.mp member)
    rw [model]
    exact sums key

end

/-- The costs of a period reconcile to the last digit as long as no more digits are needed than are
kept. -/
theorem premium_reconciled (settings : Settings) (raws : List Value) {k : Nat} (small : k ≤ 27)
    (present : validItems raws ≠ [])
    (places : ∀ i ∈ validItems raws, (Amounts.ofItem i).AtMostPlaces k)
    (bounded : ((validItems raws).map fun i => (Amounts.ofItem i).magnitude).sum < 10 ^ (28 - k)) :
    ((∃ m, premium settings raws = .ok (.found m)) ↔ Priceable settings (validItems raws)) ∧
      ∀ m, premium settings raws = .ok (.found m) →
        Reconciled (modelUnder settings) (validItems raws) m.breakdown m.total := by
  have few : k ≤ Decimal.precision := small.trans (by decide)
  have exact {unknown : String}
      (read : readUnknown settings.unknownModel (validItems raws) = .ok unknown) :
      ∃ rows total, breakdown? unknown (validItems raws) = some (rows, total) ∧
        Reconciled (modelUnder settings) (validItems raws) rows total :=
    breakdown?_exact few places bounded fun i member => modelUnder_of_readUnknown read member
  simp only [premium_found_iff present, costs_ok_iff]
  constructor
  · constructor
    · intro known
      rcases known with ⟨m, unknown, rows, total, currency, read, broken, money, rfl⟩
      exact ⟨readCurrency_ok_iff.mp ⟨currency, money⟩, readUnknown_ok_iff.mp ⟨unknown, read⟩⟩
    · intro known
      rcases known with ⟨currency, models⟩
      obtain ⟨currency, money⟩ := readCurrency_ok_iff.mpr currency
      obtain ⟨unknown, read⟩ := readUnknown_ok_iff.mpr models
      obtain ⟨rows, total, broken, -⟩ := exact read
      exact ⟨_, unknown, rows, total, currency, read, broken, money, rfl⟩
  · intro m priced
    rcases priced with ⟨unknown, rows, total, currency, read, broken, -, rfl⟩
    obtain ⟨rows', total', same, reconciled⟩ := exact read
    obtain ⟨rfl, rfl⟩ := Prod.mk.inj (Option.some.inj (same.symm.trans broken))
    exact reconciled

def refundedPeriod : List Value :=
  [.object [("model", .text "m"), ("grossQuantity", .integer 3), ("grossAmount", .text "0.120")],
    .object [("model", .text "m"), ("grossAmount", .text "-0.5"), ("discountAmount", .text "1E-1")],
    .object [("model", .text ""), ("grossAmount", .integer 2), ("discountQuantity", .text "0.5")]]

theorem refundedPeriod_named :
    ∀ i ∈ validItems refundedPeriod, (modelUnder .default i).isSome := by
  decide

theorem refundedPeriod_reconciled :
    ∃ m, premium .default refundedPeriod = .ok (.found m) ∧
      Reconciled (modelUnder .default) (validItems refundedPeriod) m.breakdown m.total := by
  have present : validItems refundedPeriod ≠ [] := by decide
  have places : ∀ i ∈ validItems refundedPeriod, (Amounts.ofItem i).AtMostPlaces 3 := by decide
  -- Arithmetic on rationals reduces in the kernel alone.
  have bounded : ((validItems refundedPeriod).map fun i => (Amounts.ofItem i).magnitude).sum <
      10 ^ (28 - 3) := by decide +kernel
  obtain ⟨priced, reconciles⟩ :=
    premium_reconciled .default refundedPeriod (by decide) present places bounded
  obtain ⟨m, found⟩ := priced.mpr ⟨⟨"USD", rfl⟩, refundedPeriod_named⟩
  exact ⟨m, found, reconciles m found⟩

end UsageMetrics.Billing
