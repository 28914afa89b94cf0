import UsageMetrics.Proofs.Billing.Overflow

namespace UsageMetrics.Billing

open UsageMetrics.Feed UsageMetrics.Number UsageMetrics.Window

def ValidAt (raws : List Value) (place : Nat) (item : Item) : Prop :=
  ∃ raw, raws[place]? = some raw ∧ readItem raw = .ok item

def InvalidAt (raws : List Value) (place : Nat) (entry : Nat × Rejection) : Prop :=
  ∃ raw, raws[place]? = some raw ∧ readItem raw = .error entry.2 ∧ entry.1 = place

structure Partitions (raws : List Value) (valid : List Item) (invalid : List (Nat × Rejection)) :
    Prop where
  accepted : InOrder (ValidAt raws) valid
  rejected : InOrder (InvalidAt raws) invalid
  whole : valid.length + invalid.length = raws.length

structure PremiumMetrics.Accounts (m : PremiumMetrics) (settings : Settings) (items : List Item) :
    Prop where
  itemCount : m.itemCount = items.length
  distinct : (m.breakdown.map ModelCost.model).Nodup
  models : ∀ model, model ∈ m.breakdown.map ModelCost.model ↔
    ∃ i ∈ items, modelUnder settings i = some model
  counts : ∀ row ∈ m.breakdown, 1 ≤ row.itemCount ∧
    row.itemCount = (items.filter fun i => modelUnder settings i = some row.model).length
  sum : (m.breakdown.map fun row => (row.itemCount : Int)).sum = m.itemCount
  ordered : m.breakdown.Pairwise fun a b =>
    b.costs.amounts.gross.value < a.costs.amounts.gross.value ∨
      (b.costs.amounts.gross.value = a.costs.amounts.gross.value ∧ a.model < b.model)

section Places

theorem validItems_inOrder (raws : List Value) : InOrder (ValidAt raws) (validItems raws) := by
  refine inOrder_kept _ fun place item => exists_congr fun raw => and_congr_right fun _ => ?_
  rw [toOption_eq_some_iff]

theorem invalidItems_inOrder (raws : List Value) :
    InOrder (InvalidAt raws) (invalidItems raws) := by
  refine inOrder_picked _ fun place entry => exists_congr fun raw => and_congr_right fun _ => ?_
  dsimp only
  cases readItem raw with
  | ok item => simp
  | error rejection =>
    simp only [Except.error.injEq, Option.some.injEq, Prod.ext_iff]
    exact ⟨fun known => ⟨known.2.symm, known.1⟩, fun known => ⟨known.2, known.1.symm⟩⟩

theorem validateItems_partitions (raws : List Value) :
    validateItems (.list raws) = .ok (validItems raws, invalidItems raws) ∧
      Partitions raws (validItems raws) (invalidItems raws) := by
  refine ⟨rfl, validItems_inOrder raws, invalidItems_inOrder raws, ?_⟩
  rw [Nat.add_comm]
  exact length_invalidItems raws

theorem validItems_eq_of_interspersed {raws others : List Value}
    (interspersed : Interspersed (fun raw => ¬(readItem raw).isOk) raws others) :
    validItems others = validItems raws :=
  interspersed.filterMap_eq fun _ invalid => toOption_eq_none invalid

end Places

section Rows

variable {items : List Item} {unknown : String} {rows : List ModelCost} {total : Costs}
  (broken : breakdown? unknown items = some (rows, total))

include broken

theorem breakdown?_models :
    (rows.map ModelCost.model).Perm (firstSeen (items.map (modelOf unknown))) := by
  simpa [Function.comp_def] using (breakdown?_counts broken).map Prod.fst

theorem breakdown?_itemCount {row : ModelCost} (member : row ∈ rows) :
    row.itemCount = (items.filter fun i => modelOf unknown i = row.model).length := by
  have counted := (breakdown?_counts broken).mem_iff.mp (List.mem_map_of_mem member)
  obtain ⟨model, -, same⟩ := List.mem_map.mp counted
  obtain ⟨rfl, count⟩ := Prod.mk.inj same
  exact count.symm

theorem breakdown?_sum : (rows.map fun row => (row.itemCount : Int)).sum = items.length := by
  have counts := ((breakdown?_counts broken).map fun entry => (entry.2 : Int)).sum_eq
  rw [List.map_map, List.map_map] at counts
  -- Items are counted as they are summed up, each as one.
  have ones (some : List Item) : (some.map fun _ => (1 : Int)).sum = some.length := by simp
  have grouped := sum_grouped (modelOf unknown) items fun _ => (1 : Int)
  simp only [ones] at grouped
  exact counts.trans grouped

theorem breakdown?_sorted : rows.Pairwise fun a b => costBefore a b = true := by
  simp only [breakdown?, Option.bind_eq_bind, Option.bind_eq_some_iff] at broken
  obtain ⟨unsorted, -, _, -, _, -, made⟩ := broken
  obtain ⟨rfl, -⟩ := Prod.mk.inj (Option.some.inj made)
  exact List.pairwise_mergeSort costBefore_decides.trans costBefore_decides.total unsorted

theorem breakdown?_ordered : rows.Pairwise fun a b =>
    b.costs.amounts.gross.value < a.costs.amounts.gross.value ∨
      (b.costs.amounts.gross.value = a.costs.amounts.gross.value ∧ a.model < b.model) := by
  have distinct : rows.Pairwise fun a b => a.model ≠ b.model :=
    List.pairwise_map.mp ((breakdown?_models broken).nodup_iff.mpr (nodup_firstSeen _))
  refine (distinct.and (breakdown?_sorted broken)).imp fun pair => ?_
  obtain ⟨differ, before⟩ := pair
  rcases costBefore_iff.mp before with more | ⟨same, least⟩
  · exact .inl more
  · exact .inr ⟨same, String.not_le.mp fun back => differ (String.le_antisymm least back)⟩

end Rows

section Period

variable {settings : Settings} {raws others : List Value}

theorem premiumMetrics_ok_iff {outcome : Outcome PremiumMetrics} :
    premiumMetrics settings (.list raws) = .ok outcome ↔ premium settings raws = .ok outcome :=
  premiumSummary_ok_iff

theorem premium_of_some (present : validItems raws ≠ []) {outcome : Outcome PremiumMetrics}
    (answered : premium settings raws = .ok outcome) : ∃ m, outcome = .found m := by
  cases outcome with
  | found m => exact ⟨m, rfl⟩
  | noData n =>
    rw [premium, if_neg (mt List.isEmpty_iff.mp present)] at answered
    cases priced : costs settings (validItems raws) (invalidItems raws).length with
    | error fault => rw [priced] at answered; cases answered
    | ok m => rw [priced] at answered; cases answered

theorem costs_accounts {items : List Item} {skipped : Nat} {m : PremiumMetrics}
    (priced : costs settings items skipped = .ok m) :
    m.Accounts settings items ∧ m.skippedRecords = skipped := by
  obtain ⟨unknown, rows, total, currency, read, broken, -, rfl⟩ := costs_ok_iff.mp priced
  have billed {i : Item} (listed : i ∈ items) (model : String) :
      modelUnder settings i = some model ↔ modelOf unknown i = model := by
    rw [modelUnder_of_readUnknown read listed, Option.some.injEq]
  have models (model : String) : model ∈ rows.map ModelCost.model ↔
      ∃ i ∈ items, modelUnder settings i = some model := by
    rw [(breakdown?_models broken).mem_iff, mem_firstSeen, List.mem_map]
    exact exists_congr fun i => and_congr_right fun listed => (billed listed model).symm
  have counted {row : ModelCost} (member : row ∈ rows) :
      row.itemCount = (items.filter fun i => modelUnder settings i = some row.model).length := by
    rw [breakdown?_itemCount broken member]
    exact congrArg List.length (List.filter_congr fun i listed => by simp [billed listed])
  refine ⟨{
    itemCount := rfl
    distinct := (breakdown?_models broken).nodup_iff.mpr (nodup_firstSeen _)
    models
    counts := fun row member => ⟨?_, counted member⟩
    sum := breakdown?_sum broken
    ordered := breakdown?_ordered broken }, rfl⟩
  obtain ⟨i, listed, own⟩ := (models row.model).mp (List.mem_map_of_mem member)
  rw [counted member]
  exact List.length_pos_of_mem (List.mem_filter.mpr ⟨listed, by simpa using own⟩)

theorem costs_skipped {items : List Item} {skipped : Nat} {m : PremiumMetrics}
    (priced : costs settings items skipped = .ok m) (more : Nat) :
    costs settings items more = .ok { m with skippedRecords := more } := by
  obtain ⟨unknown, rows, total, currency, read, broken, money, rfl⟩ := costs_ok_iff.mp priced
  exact costs_ok_iff.mpr ⟨unknown, rows, total, currency, read, broken, money, rfl⟩

theorem premium_interspersed {m : PremiumMetrics} (found : premium settings raws = .ok (.found m))
    (present : validItems raws ≠ [])
    (interspersed : Interspersed (fun raw => ¬(readItem raw).isOk) raws others) :
    premium settings others = .ok (.found
      { m with skippedRecords := m.skippedRecords + (others.length - raws.length) }) := by
  have valid := validItems_eq_of_interspersed interspersed
  have priced := (premium_found_iff present).mp found
  have skipped := (costs_accounts priced).2
  have told : (invalidItems others).length =
      m.skippedRecords + (others.length - raws.length) := by
    have before := length_invalidItems raws
    have after := length_invalidItems others
    have longer := interspersed.length_le
    rw [valid] at after
    omega
  rw [← valid] at present
  rw [premium_found_iff present, valid, told]
  exact costs_skipped priced _

/-- Every value of a list that is priced at all is either one item of one row or skipped. -/
theorem premiumMetrics_accounts {outcome : Outcome PremiumMetrics}
    (returned : premiumMetrics settings (.list raws) = .ok outcome) :
    ∃ valid invalid, validateItems (.list raws) = .ok (valid, invalid) ∧
      Partitions raws valid invalid ∧
      (outcome = .noData ⟨.billing, raws.length, raws.length⟩ ↔ valid = []) ∧
      ((∃ m, outcome = .found m) ↔ valid ≠ []) ∧
      ∀ m, outcome = .found m →
        m.Accounts settings valid ∧ m.itemCount + m.skippedRecords = raws.length ∧
        ∀ others, Interspersed (fun raw => ¬(readItem raw).isOk) raws others →
          premiumMetrics settings (.list others) = .ok (.found
            { m with skippedRecords := m.skippedRecords + (others.length - raws.length) }) := by
  obtain ⟨validated, partitions⟩ := validateItems_partitions raws
  refine ⟨_, _, validated, partitions, ?_⟩
  rw [premiumMetrics_ok_iff] at returned
  by_cases none : validItems raws = []
  · rw [premium_of_none none] at returned
    obtain rfl := Except.ok.inj returned
    simp [none]
  · obtain ⟨m, rfl⟩ := premium_of_some none returned
    refine ⟨by simp [none], by simp [none], fun _ same => ?_⟩
    obtain rfl := Outcome.found.inj same
    obtain ⟨accounts, skipped⟩ := costs_accounts (premium_found returned)
    refine ⟨accounts, ?_, fun others interspersed =>
      premiumMetrics_ok_iff.mpr (premium_interspersed returned none interspersed)⟩
    rw [accounts.itemCount, skipped]
    exact partitions.whole

end Period

def evenPeriod : List Value :=
  [.object [("grossAmount", .text "0.5"), ("model", .text "")],
    .object [("grossAmount", .text "many"), ("model", .text "m")],
    .object [("grossAmount", .integer 1), ("model", .text "m")],
    .object [("grossAmount", .text "0.50"), ("model", .text "unknown")]]

theorem evenPeriod_accounts : ∃ m,
    premiumMetrics .default (.list evenPeriod) = .ok (.found m) ∧
      m.Accounts .default (validItems evenPeriod) ∧ m.itemCount + m.skippedRecords = 4 ∧
      premiumMetrics .default (.list (.null :: evenPeriod)) =
        .ok (.found { m with skippedRecords := m.skippedRecords + 1 }) := by
  have priced : (premium .default evenPeriod).isOk := by decide
  have present : validItems evenPeriod ≠ [] := by decide
  have invalid : ¬(readItem .null).isOk := by decide
  obtain ⟨outcome, answered⟩ := exists_ok priced
  have returned := premiumMetrics_ok_iff.mpr answered
  obtain ⟨valid, invalid, validated, -, -, found, accounts⟩ := premiumMetrics_accounts returned
  obtain ⟨rfl, rfl⟩ := Prod.mk.inj (Except.ok.inj validated)
  obtain ⟨m, rfl⟩ := found.mpr present
  obtain ⟨own, balance, unmoved⟩ := accounts m rfl
  exact ⟨m, returned, own, balance,
    unmoved _ (.added invalid (.kept _ (.kept _ (.kept _ (.kept _ .nil)))))⟩

end UsageMetrics.Billing
