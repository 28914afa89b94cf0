import UsageMetrics.Proofs.Billing.Fit
import UsageMetrics.Proofs.Billing.Reconciliation
import UsageMetrics.Proofs.Ledger.Commute
import UsageMetrics.Proofs.Standing
import UsageMetrics.Proofs.Window.Places

namespace UsageMetrics.Billing

open UsageMetrics.Feed UsageMetrics.Number

theorem costBefore_iff {a b : ModelCost} : costBefore a b = true ↔
    b.costs.amounts.gross.value < a.costs.amounts.gross.value ∨
      (b.costs.amounts.gross.value = a.costs.amounts.gross.value ∧ a.model ≤ b.model) := by
  unfold costBefore
  rw [Decimal.order_eq_compare]
  rcases lt_trichotomy b.costs.amounts.gross.value a.costs.amounts.gross.value with
    below | same | above
  · simp [compare_lt_iff_lt.mpr below, below]
  · simp [same]
  · simp [compare_gt_iff_gt.mpr above, above.not_gt, above.ne']

def ModelCost.standing (row : ModelCost) : Standing Rat :=
  ⟨row.costs.amounts.gross.value, row.model⟩

theorem costBefore_decides : Standing.Decides ModelCost.standing costBefore := by
  intro a b
  rw [costBefore_iff, Standing.before_or_eq_iff, eq_comm]
  rfl

section Breakdown

variable {items others : List Item}

theorem modelCost?_isSum (fit : ItemsFit items) (unknown model : String) :
    ∃ row, modelCost? unknown items model = some row ∧ row.model = model ∧
      Amounts.IsSum ((items.filter fun i => modelOf unknown i = model).map Amounts.ofItem)
        row.costs.amounts := by
  obtain ⟨costs, made, isSum⟩ := costsUnder?_isSum fit (modelOf unknown) model
  refine ⟨⟨model, costs, (items.filter fun i => modelOf unknown i = model).length⟩, ?_, rfl, isSum⟩
  simp [modelCost?, made]

theorem modelCost?_perm (fit : ItemsFit items) (order : items.Perm others) (unknown : String) :
    modelCost? unknown items = modelCost? unknown others := by
  funext model
  rw [modelCost?, modelCost?, costsUnder?_perm fit order, (order.filter _).length_eq]

theorem breakdown?_perm (fit : ItemsFit items) (order : items.Perm others) (unknown : String) :
    breakdown? unknown items = breakdown? unknown others := by
  choose row made model isSum using modelCost?_isSum fit unknown
  have models := firstSeen_perm (order.map (modelOf unknown))
  have rows := models.map row
  have priced (keys : List String) :
      keys.mapM (modelCost? unknown items) = some (keys.map row) := by
    rw [funext made]
    exact List.mapM_pure
  have whole : Amounts.Fit (((firstSeen (items.map (modelOf unknown))).map row).map fun r =>
      r.costs.amounts) := by
    rw [List.map_map]
    exact fit_grouped fit (modelOf unknown) isSum
  have total := Amounts.sum?_perm whole (rows.map _)
  have sorted : ((firstSeen (items.map (modelOf unknown))).map row).mergeSort costBefore =
      ((firstSeen (others.map (modelOf unknown))).map row).mergeSort costBefore := by
    -- Rows that tie name one model, and there is one row for each.
    refine mergeSort_perm costBefore_decides.trans costBefore_decides.total rows ?_
    intro a inRows b inRows' less back
    obtain ⟨key, -, rfl⟩ := List.mem_map.mp inRows
    obtain ⟨key', -, rfl⟩ := List.mem_map.mp inRows'
    have same : (row key).model = (row key').model :=
      congrArg Standing.name (costBefore_decides.antisymm less back)
    rw [model, model] at same
    rw [same]
  rw [breakdown?, breakdown?, ← modelCost?_perm fit order, priced, priced, Option.bind_eq_bind,
    Option.bind_eq_bind, Option.bind_some, Option.bind_some, total, sorted]

theorem mapM_of_mapM {α β γ : Type} {f : α → Option β} {g : α → Option γ} {h : β → γ}
    (each : ∀ a b, f a = some b → g a = some (h b)) {as : List α} {bs : List β}
    (mapped : as.mapM f = some bs) : as.mapM g = some (bs.map h) := by
  induction as generalizing bs with
  | nil =>
    obtain rfl : [] = bs := Option.some.inj mapped
    rfl
  | cons a rest ih =>
    simp only [List.mapM_cons, Option.bind_eq_bind, Option.bind_eq_some_iff] at mapped
    obtain ⟨b, first, others, later, made⟩ := mapped
    obtain rfl := Option.some.inj made
    simp [each a b first, ih later]

theorem breakdown?_counts {unknown : String} {rows : List ModelCost} {total : Costs}
    (broken : breakdown? unknown items = some (rows, total)) :
    (rows.map fun row => (row.model, row.itemCount)).Perm
      ((firstSeen (items.map (modelOf unknown))).map fun model =>
        (model, (items.filter fun i => modelOf unknown i = model).length)) := by
  simp only [breakdown?, Option.bind_eq_bind, Option.bind_eq_some_iff] at broken
  obtain ⟨unsorted, priced, _, -, _, -, made⟩ := broken
  obtain ⟨rfl, -⟩ := Prod.mk.inj (Option.some.inj made)
  refine ((List.mergeSort_perm unsorted costBefore).map _).trans (.of_eq ?_)
  refine Option.some.inj ((mapM_of_mapM (fun model row own => ?_) priced).symm.trans List.mapM_pure)
  simp only [modelCost?, Option.bind_eq_bind, Option.bind_eq_some_iff] at own
  obtain ⟨costs, -, made⟩ := own
  obtain rfl := Option.some.inj made
  rfl

end Breakdown

section Period

variable {items others : List Item} {raws turned : List Value}

theorem namelessFault_of_fit (fit : ItemsFit items) (unknown : Value) :
    namelessFault unknown items =
      if unknown.isHashable then .misnamed "ModelCost" "model" else .unhashable unknown.kind := by
  have summed {some : List Item} (part : some.Sublist items) (model : Option String) :
      (amountsUnder? nameOf? some model).isSome = true := by
    have own := (fit.sublist part).sublist (List.filter_sublist (p := fun i => nameOf? i = model))
    obtain ⟨total, summed, -⟩ := Amounts.sum?_isSum own
    rw [amountsUnder?, summed]
    rfl
  have priced (model : Option String) : (costsUnder? nameOf? items model).isSome = true := by
    obtain ⟨costs, made, -⟩ := costsUnder?_isSum fit nameOf? model
    rw [made]
    rfl
  have before := summed (List.takeWhile_sublist fun i => (nameOf? i).isSome)
  simp [namelessFault, summed (List.Sublist.refl items), priced, before]

theorem readUnknown_perm (fit : ItemsFit items) (order : items.Perm others) (unknown : Value) :
    readUnknown unknown items = readUnknown unknown others := by
  unfold readUnknown
  rw [order.all_eq, namelessFault_of_fit fit, namelessFault_of_fit (fit.perm order)]

theorem costs_perm (fit : ItemsFit items) (order : items.Perm others) (settings : Settings)
    (skipped : Nat) : costs settings items skipped = costs settings others skipped := by
  unfold costs
  simp only [readUnknown_perm fit order, breakdown?_perm fit order, order.length_eq]

theorem length_invalidItems (raws : List Value) :
    (invalidItems raws).length + (validItems raws).length = raws.length := by
  refine Window.length_picked_add_kept (fun raw i => ?_) raws 0
  dsimp only
  cases readItem raw <;> rfl

theorem length_invalidItems_congr (whole : raws.length = turned.length)
    (valid : (validItems raws).length = (validItems turned).length) :
    (invalidItems raws).length = (invalidItems turned).length := by
  have all := length_invalidItems raws
  have all' := length_invalidItems turned
  omega

theorem length_invalidItems_perm (order : raws.Perm turned) :
    (invalidItems raws).length = (invalidItems turned).length :=
  length_invalidItems_congr order.length_eq (List.Perm.length_eq (order.filterMap _))

theorem premium_congr {settings : Settings} (whole : raws.length = turned.length)
    (valid : (validItems raws).length = (validItems turned).length)
    (priced : ∀ skipped, costs settings (validItems raws) skipped =
      costs settings (validItems turned) skipped) :
    premium settings raws = premium settings turned := by
  have empty : (validItems raws).isEmpty = (validItems turned).isEmpty := by
    rw [Bool.eq_iff_iff, List.isEmpty_iff_length_eq_zero, List.isEmpty_iff_length_eq_zero, valid]
  unfold premium
  simp only [empty, whole, length_invalidItems_congr whole valid, priced]

theorem premium_perm (order : raws.Perm turned) (fit : ItemsFit (validItems raws))
    (settings : Settings) : premium settings raws = premium settings turned := by
  have valid : (validItems raws).Perm (validItems turned) := order.filterMap _
  exact premium_congr order.length_eq valid.length_eq (costs_perm fit valid settings)

theorem readUnknown_unique {unknown : Value} {name name' : String}
    (read : readUnknown unknown items = .ok name) (read' : readUnknown unknown others = .ok name') :
    name = name' := by
  cases unknown with
  | text given => exact Except.ok.inj (read.symm.trans read')
  | _ =>
    simp only [readUnknown] at read read'
    split at read
    · split at read'
      · exact Except.ok.inj (read.symm.trans read')
      · cases read'
    · cases read

theorem premium_found {settings : Settings} {m : PremiumMetrics}
    (found : premium settings raws = .ok (.found m)) :
    costs settings (validItems raws) (invalidItems raws).length = .ok m := by
  by_cases none : validItems raws = []
  · rw [premium, if_pos (List.isEmpty_iff.mpr none)] at found
    cases Except.ok.inj found
  · exact (premium_found_iff none).mp found

/-- What a period costs does not depend on the order of its items, as long as the amounts add up in
the digits that count. What is counted without adding amounts never does. -/
theorem premium_reordered (settings : Settings) {raws turned : List Value}
    (order : raws.Perm turned) :
    (ItemsFit (validItems raws) → premium settings raws = premium settings turned) ∧
      ∀ m m', premium settings raws = .ok (.found m) → premium settings turned = .ok (.found m') →
        m.currency = m'.currency ∧ m.itemCount = m'.itemCount ∧
          m.skippedRecords = m'.skippedRecords ∧
          (m.breakdown.map fun row => (row.model, row.itemCount)).Perm
            (m'.breakdown.map fun row => (row.model, row.itemCount)) := by
  refine ⟨fun fit => premium_perm order fit settings, fun m m' first second => ?_⟩
  have valid : (validItems raws).Perm (validItems turned) := order.filterMap _
  obtain ⟨unknown, rows, total, currency, named, broken, money, rfl⟩ :=
    costs_ok_iff.mp (premium_found first)
  obtain ⟨unknown', rows', total', currency', named', broken', money', rfl⟩ :=
    costs_ok_iff.mp (premium_found second)
  obtain rfl := readUnknown_unique named named'
  have models := (firstSeen_perm (valid.map (modelOf unknown))).map fun model =>
    (model, ((validItems raws).filter fun i => modelOf unknown i = model).length)
  have counts := breakdown?_counts broken'
  simp only [← (valid.filter _).length_eq] at counts
  exact ⟨Except.ok.inj (money.symm.trans money'), valid.length_eq,
    length_invalidItems_perm order, (breakdown?_counts broken).trans (models.trans counts.symm)⟩

end Period

def grossOf : Except CostsFault (Outcome PremiumMetrics) → Option Decimal
  | .ok (.found m) => some m.total.amounts.gross
  | _ => none

theorem refundedPeriod_reordered :
    refundedPeriod.Perm refundedPeriod.reverse ∧ ItemsFit (validItems refundedPeriod) ∧
      premium .default refundedPeriod = premium .default refundedPeriod.reverse ∧
      grossOf (premium .default refundedPeriod) = some ⟨false, 1620, -3⟩ := by
  have fit : ItemsFit (validItems refundedPeriod) := by
    intro amount
    refine ⟨3, by decide, ?_, ?_⟩
    · cases amount <;> decide
    · cases amount <;> decide +kernel
  have order := (List.reverse_perm refundedPeriod).symm
  exact ⟨order, fit, (premium_reordered .default order).1 fit, by decide⟩

def largeFirst : List Value :=
  [.object [("model", .text "m"), ("grossAmount", .integer 10000000000000000000000000000)],
    .object [("model", .text "m"), ("grossAmount", .integer 4)],
    .object [("model", .text "m"), ("grossAmount", .integer 4)]]

/-- Small amounts that come one by one after a large one are rounded away. -/
theorem largeFirst_not_reordered : largeFirst.Perm largeFirst.reverse ∧
    premium .default largeFirst ≠ premium .default largeFirst.reverse := by
  have differ : grossOf (premium .default largeFirst) ≠
      grossOf (premium .default largeFirst.reverse) := by decide
  exact ⟨(List.reverse_perm largeFirst).symm, fun same => differ (congrArg grossOf same)⟩

end UsageMetrics.Billing
