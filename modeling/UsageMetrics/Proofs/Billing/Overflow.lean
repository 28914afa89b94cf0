import UsageMetrics.Proofs.Billing.Reordering
import UsageMetrics.Requests

namespace UsageMetrics.Billing

open UsageMetrics.Feed UsageMetrics.Number

namespace Amounts

variable {as : List Amounts} {a b start total : Amounts}

theorem columns_of_add? {sum : Amounts} (added : a.add? b = some sum) (amount : Amount) :
    (a.get amount).add? (b.get amount) = some (sum.get amount) := by
  simp only [add?, Option.bind_eq_bind, Option.bind_eq_some_iff] at added
  obtain ⟨requests, used, included, free, gross, paid, discount, off, made⟩ := added
  obtain rfl := Option.some.inj made
  cases amount <;> assumption

theorem columns_of_foldlM (summed : as.foldlM add? start = some total) (amount : Amount) :
    (column amount as).foldlM Decimal.add? (start.get amount) = some (total.get amount) := by
  induction as generalizing start with
  | nil =>
    obtain rfl := Option.some.inj summed
    rfl
  | cons a rest ih =>
    rw [List.foldlM_cons] at summed
    obtain ⟨next, added, later⟩ := Option.bind_eq_some_iff.mp summed
    rw [column, List.map_cons, List.foldlM_cons, columns_of_add? added amount]
    exact ih later

theorem sum?_eq_some_iff : sum? as = some total ↔
    ∀ amount, Decimal.sum? (column amount as) = some (total.get amount) := by
  simp only [sum?, Decimal.sum?]
  constructor
  · intro summed amount
    rw [← get_zero amount]
    exact columns_of_foldlM summed amount
  · intro columns
    refine foldlM_of_columns fun amount => ?_
    rw [get_zero]
    exact columns amount

theorem sum?_eq_none_iff : sum? as = none ↔ ∃ amount, Decimal.SumLost (column amount as) := by
  simp only [← Decimal.sum?_eq_none_iff]
  constructor
  · intro lost
    by_contra! kept
    choose sums summed using fun amount => Option.ne_none_iff_exists'.mp (kept amount)
    have known : sum? as = some (ofColumns sums) :=
      sum?_eq_some_iff.mpr fun amount => by rw [summed, get_ofColumns]
    rw [lost] at known
    cases known
  · rintro ⟨amount, lost⟩
    by_contra kept
    obtain ⟨total, summed⟩ := Option.ne_none_iff_exists'.mp kept
    rw [sum?_eq_some_iff.mp summed amount] at lost
    cases lost

end Amounts

section Costs

variable {as : List Amounts} {total : Amounts}

theorem ofAmounts?_eq_none_iff : Costs.ofAmounts? total = none ↔
    Decimal.ceiling ≤ |total.requests.value - total.includedRequests.value| ∨
      Decimal.ceiling ≤ |total.gross.value - total.discount.value| := by
  rw [← Decimal.sub?_eq_none_iff, ← Decimal.sub?_eq_none_iff, Costs.ofAmounts?]
  cases total.requests.sub? total.includedRequests <;> cases total.gross.sub? total.discount <;>
    simp

/-- Amounts of which a sum, or a difference of their sums, is beyond all that can be written. -/
inductive CostsLost (as : List Amounts) : Prop where
  | sum (amount : Amount) (lost : Decimal.SumLost (Amounts.column amount as))
  | billedRequests {total : Amounts} (summed : Amounts.sum? as = some total)
      (lost : Decimal.ceiling ≤ |total.requests.value - total.includedRequests.value|)
  | net {total : Amounts} (summed : Amounts.sum? as = some total)
      (lost : Decimal.ceiling ≤ |total.gross.value - total.discount.value|)

theorem costsLost_iff : CostsLost as ↔ (Amounts.sum? as).bind Costs.ofAmounts? = none := by
  cases summed : Amounts.sum? as with
  | none =>
    obtain ⟨amount, lost⟩ := Amounts.sum?_eq_none_iff.mp summed
    exact iff_of_true (.sum amount lost) rfl
  | some total =>
    rw [Option.bind_some, ofAmounts?_eq_none_iff]
    constructor
    · intro known
      cases known with
      | sum amount lost =>
        rw [Amounts.sum?_eq_none_iff.mpr ⟨amount, lost⟩] at summed
        cases summed
      | billedRequests summed' lost =>
        obtain rfl := Option.some.inj (summed.symm.trans summed')
        exact .inl lost
      | net summed' lost =>
        obtain rfl := Option.some.inj (summed.symm.trans summed')
        exact .inr lost
    · rintro (lost | lost)
      · exact .billedRequests summed lost
      · exact .net summed lost

end Costs

section Breakdown

variable {κ : Type} [DecidableEq κ] {items : List Item} {keyOf : Item → κ}

def sharing (keyOf : Item → κ) (items : List Item) (i : Item) : List Amounts :=
  (items.filter fun j => keyOf j = keyOf i).map Amounts.ofItem

inductive PeriodLost (keyOf : Item → κ) (items : List Item) : Prop where
  | part (i : Item) (listed : i ∈ items) (lost : CostsLost (sharing keyOf items i))
  | whole {totals : List Amounts}
      (summed : (firstSeen (items.map keyOf)).mapM (amountsUnder? keyOf items) = some totals)
      (lost : CostsLost totals)

theorem mapM_eq_none_iff {α β : Type} {f : α → Option β} {as : List α} :
    as.mapM f = none ↔ ∃ a ∈ as, f a = none := by
  induction as with
  | nil => simp
  | cons a rest ih =>
    rw [List.mapM_cons, List.exists_mem_cons_iff, ← ih]
    cases f a <;> cases rest.mapM f <;> simp

theorem modelCost?_eq_none_iff {unknown : String} {i : Item} :
    modelCost? unknown items (modelOf unknown i) = none ↔
      CostsLost (sharing (modelOf unknown) items i) := by
  rw [costsLost_iff, modelCost?, costsUnder?]
  change (((Amounts.sum? (sharing (modelOf unknown) items i)).bind Costs.ofAmounts?).bind _) = _ ↔ _
  cases (Amounts.sum? (sharing (modelOf unknown) items i)).bind Costs.ofAmounts? <;> simp

theorem amounts_of_ofAmounts? {a : Amounts} {c : Costs} (made : Costs.ofAmounts? a = some c) :
    c.amounts = a := by
  simp only [Costs.ofAmounts?, Option.bind_eq_bind, Option.bind_eq_some_iff] at made
  obtain ⟨_, -, _, -, same⟩ := made
  obtain rfl := Option.some.inj same
  rfl

theorem amountsUnder?_of_modelCost? {unknown model : String} {row : ModelCost}
    (made : modelCost? unknown items model = some row) :
    amountsUnder? (modelOf unknown) items model = some row.costs.amounts := by
  simp only [modelCost?, costsUnder?, Option.bind_eq_bind, Option.bind_eq_some_iff] at made
  obtain ⟨costs, ⟨total, summed, costed⟩, same⟩ := made
  obtain rfl := Option.some.inj same
  rw [summed, amounts_of_ofAmounts? costed]

theorem breakdown?_eq_none_iff {unknown : String} :
    breakdown? unknown items = none ↔ PeriodLost (modelOf unknown) items := by
  cases priced : (firstSeen (items.map (modelOf unknown))).mapM (modelCost? unknown items) with
  | none =>
    obtain ⟨model, seen, lost⟩ := mapM_eq_none_iff.mp priced
    obtain ⟨i, listed, rfl⟩ := List.mem_map.mp (mem_firstSeen.mp seen)
    refine iff_of_true ?_ (.part i listed (modelCost?_eq_none_iff.mp lost))
    rw [breakdown?, priced, Option.bind_eq_bind, Option.bind_none]
  | some rows =>
    -- Every model has its costs, so nothing but the total of the rows can be lost.
    have totals := mapM_of_mapM (fun model row => amountsUnder?_of_modelCost?) priced
    have summed : breakdown? unknown items = none ↔
        CostsLost (rows.map fun row => row.costs.amounts) := by
      rw [costsLost_iff, breakdown?, priced, Option.bind_eq_bind, Option.bind_some]
      cases Amounts.sum? (rows.map fun row => row.costs.amounts) with
      | none => simp
      | some total => cases made : Costs.ofAmounts? total <;> simp [made]
    rw [summed]
    constructor
    · exact .whole totals
    · intro lost
      cases lost with
      | part i listed lost =>
        have seen := mem_firstSeen.mpr (List.mem_map_of_mem (f := modelOf unknown) listed)
        have missing := mapM_eq_none_iff.mpr ⟨_, seen, modelCost?_eq_none_iff.mpr lost⟩
        rw [priced] at missing
        cases missing
      | whole summed lost =>
        rw [totals] at summed
        obtain rfl := Option.some.inj summed
        exact lost

theorem firstSeen_map_some (keys : List κ) :
    firstSeen (keys.map some) = (firstSeen keys).map some := by
  induction keys with
  | nil => rfl
  | cons key rest ih =>
    rw [List.map_cons, firstSeen, firstSeen, List.map_cons, ih, List.filter_map]
    congr 2
    apply List.filter_congr
    intro other _
    simp

theorem periodLost_congr {billedAs : Item → Option κ}
    (named : ∀ i ∈ items, billedAs i = some (keyOf i)) :
    PeriodLost billedAs items ↔ PeriodLost keyOf items := by
  have under (key : κ) :
      amountsUnder? billedAs items (some key) = amountsUnder? keyOf items key := by
    have same : (items.filter fun i => billedAs i = some key) =
        items.filter fun i => keyOf i = key :=
      List.filter_congr fun i listed => by simp [named i listed]
    rw [amountsUnder?, amountsUnder?, same]
  have shared {i : Item} (listed : i ∈ items) :
      sharing billedAs items i = sharing keyOf items i := by
    have same : (items.filter fun j => billedAs j = billedAs i) =
        items.filter fun j => keyOf j = keyOf i :=
      List.filter_congr fun j other => by simp [named i listed, named j other]
    rw [sharing, sharing, same]
  have sums : (firstSeen (items.map billedAs)).mapM (amountsUnder? billedAs items) =
      (firstSeen (items.map keyOf)).mapM (amountsUnder? keyOf items) := by
    have keys : items.map billedAs = (items.map keyOf).map some := by
      rw [List.map_map]
      exact List.map_congr_left named
    rw [keys, firstSeen_map_some, List.mapM_map]
    simp only [Function.comp_def, under]
  constructor
  · intro lost
    cases lost with
    | part i listed lost => exact .part i listed (shared listed ▸ lost)
    | whole summed lost => exact .whole (sums ▸ summed) lost
  · intro lost
    cases lost with
    | part i listed lost => exact .part i listed ((shared listed).symm ▸ lost)
    | whole summed lost => exact .whole (sums.symm ▸ summed) lost

end Breakdown

section Modest

def Amounts.Within (n : Nat) (a : Amounts) : Prop :=
  ∀ amount, |(a.get amount).value| ≤ n * 10 ^ Decimal.unitExponent

variable {α β : Type} {f : α → Amounts} {parts : α → List β} {as : List α}

theorem sum?_within (each : ∀ a ∈ as, (f a).Within (parts a).length)
    (few : (as.flatMap parts).length < 10 ^ Decimal.precision) :
    ∃ total, Amounts.sum? (as.map f) = some total ∧ total.Within (as.flatMap parts).length := by
  have begun : |Decimal.zero.value| ≤ (0 : Nat) * 10 ^ Decimal.unitExponent := by
    rw [Decimal.value_zero, abs_zero, Nat.cast_zero, zero_mul]
  have column (amount : Amount) : ∃ total,
      Decimal.sum? (Amounts.column amount (as.map f)) = some total ∧
        |total.value| ≤ (as.flatMap parts).length * 10 ^ Decimal.unitExponent := by
    have summed := Decimal.foldlM_within begun (fun a member => each a member amount)
      (by rwa [Nat.zero_add])
    rw [Nat.zero_add] at summed
    rwa [Amounts.column, List.map_map]
  choose total summed within using column
  refine ⟨Amounts.ofColumns total, Amounts.sum?_eq_some_iff.mpr fun amount => ?_, fun amount => ?_⟩
  · rw [summed, Amounts.get_ofColumns]
  · rw [Amounts.get_ofColumns]
    exact within amount

theorem not_costsLost (each : ∀ a ∈ as, (f a).Within (parts a).length)
    (few : (as.flatMap parts).length ≤ 10 ^ 27) : ¬CostsLost (as.map f) := by
  obtain ⟨total, summed, within⟩ := sum?_within each (few.trans_lt (by decide))
  have apart (amount amount' : Amount) :
      |(total.get amount).value - (total.get amount').value| < Decimal.ceiling := by
    refine lt_of_le_of_lt (abs_sub _ _) (lt_of_le_of_lt ?_ (Decimal.units_lt_ceiling
      (n := 2 * (as.flatMap parts).length) (by unfold Decimal.precision; omega)))
    push_cast
    linarith [within amount, within amount']
  rw [costsLost_iff, summed, Option.bind_some, ofAmounts?_eq_none_iff]
  rintro (lost | lost)
  · exact absurd lost (apart .requests .includedRequests).not_ge
  · exact absurd lost (apart .gross .discount).not_ge

variable {κ : Type} [DecidableEq κ] {items : List Item}

theorem not_periodLost (modest : ∀ i ∈ items, (Amounts.ofItem i).Within 1)
    (few : items.length ≤ 10 ^ 27) (keyOf : Item → κ) : ¬PeriodLost keyOf items := by
  have own {some : List Item} (part : some.Sublist items) :
      ∀ i ∈ some, (Amounts.ofItem i).Within [i].length :=
    fun i member => modest i (part.subset member)
  have fewer {some : List Item} (part : some.Sublist items) :
      (some.flatMap fun i => [i]).length ≤ 10 ^ 27 := by
    rw [List.flatMap_singleton']
    exact part.length_le.trans few
  intro lost
  cases lost with
  | part i listed lost =>
    exact not_costsLost (own List.filter_sublist) (fewer List.filter_sublist) lost
  | whole summed lost =>
    -- The sum of a model is at most a unit for each of its items, and each item has one model.
    have under (key : κ) : ∃ total, amountsUnder? keyOf items key = some total ∧
        total.Within (items.filter fun i => keyOf i = key).length := by
      have summed := sum?_within (own List.filter_sublist)
        ((fewer (List.filter_sublist (p := fun i => keyOf i = key))).trans_lt (by decide))
      rwa [List.flatMap_singleton'] at summed
    choose total made within using under
    rw [funext made] at summed
    obtain rfl := Option.some.inj (List.mapM_pure.symm.trans summed)
    have whole := (grouped_firstSeen_perm keyOf items).length_eq
    exact not_costsLost (fun key _ => within key) (whole.trans_le few) lost

end Modest

section Answers

variable {settings : Settings} {raws : List Value}

theorem premiumSummary_eq : premiumSummary settings (.list raws) =
    Phase.premium.run ((premium settings raws).mapError .costs) := rfl

theorem premiumSummary_ok_iff {outcome : Outcome PremiumMetrics} :
    premiumSummary settings (.list raws) = .ok outcome ↔ premium settings raws = .ok outcome := by
  rw [premiumSummary_eq]
  cases premium settings raws <;> simp [Except.mapError, Phase.run]

theorem costs_found_iff {items : List Item} {skipped : Nat} :
    (∃ m, costs settings items skipped = .ok m) ↔
      Priceable settings items ∧ ¬PeriodLost (modelUnder settings) items := by
  constructor
  · rintro ⟨m, priced⟩
    obtain ⟨unknown, rows, total, currency, read, broken, money, -⟩ := costs_ok_iff.mp priced
    refine ⟨⟨readCurrency_ok_iff.mp ⟨currency, money⟩, readUnknown_ok_iff.mp ⟨unknown, read⟩⟩, ?_⟩
    rw [periodLost_congr fun i member => modelUnder_of_readUnknown read member,
      ← breakdown?_eq_none_iff, broken]
    exact Option.some_ne_none _
  · rintro ⟨⟨paid, models⟩, kept⟩
    obtain ⟨currency, money⟩ := readCurrency_ok_iff.mpr paid
    obtain ⟨unknown, read⟩ := readUnknown_ok_iff.mpr models
    rw [periodLost_congr fun i member => modelUnder_of_readUnknown read member,
      ← breakdown?_eq_none_iff] at kept
    obtain ⟨⟨rows, total⟩, broken⟩ := Option.ne_none_iff_exists'.mp kept
    exact ⟨_, costs_ok_iff.mpr ⟨unknown, rows, total, currency, read, broken, money, rfl⟩⟩

theorem costs_overflow {items : List Item} {skipped : Nat} (priceable : Priceable settings items)
    (lost : PeriodLost (modelUnder settings) items) :
    costs settings items skipped = .error .overflow := by
  obtain ⟨unknown, read⟩ := readUnknown_ok_iff.mpr priceable.models
  rw [periodLost_congr fun i member => modelUnder_of_readUnknown read member,
    ← breakdown?_eq_none_iff] at lost
  simp [costs, read, lost, Bind.bind, Except.bind, throw, throwThe, MonadExceptOf.throw]

theorem premium_of_none (none : validItems raws = []) :
    premium settings raws = .ok (.noData ⟨.billing, raws.length, raws.length⟩) := by
  have skipped := length_invalidItems raws
  rw [none, List.length_nil, Nat.add_zero] at skipped
  rw [premium, if_pos (List.isEmpty_iff.mpr none), skipped]

/-- What the costs of a period are answered with, whatever is listed: no data if no item is valid,
else the costs, with every item priced or skipped, as long as all sums and differences of the
amounts can be written. -/
theorem premiumSummary_answers (settings : Settings) (raws : List Value) :
    (premiumSummary settings (.list raws) = .ok (.noData ⟨.billing, raws.length, raws.length⟩) ↔
      validItems raws = []) ∧
    ((∃ m, premiumSummary settings (.list raws) = .ok (.found m)) ↔ validItems raws ≠ [] ∧
      Priceable settings (validItems raws) ∧
      ¬PeriodLost (modelUnder settings) (validItems raws)) ∧
    (∀ m, premiumSummary settings (.list raws) = .ok (.found m) →
      m.itemCount = (validItems raws).length ∧ m.itemCount + m.skippedRecords = raws.length) ∧
    (validItems raws ≠ [] → Priceable settings (validItems raws) →
      PeriodLost (modelUnder settings) (validItems raws) →
      premiumSummary settings (.list raws) = .error (Phase.premium.wrap (.costs .overflow))) ∧
    ((∀ i ∈ validItems raws, (Amounts.ofItem i).Within 1) → (validItems raws).length ≤ 10 ^ 27 →
      ¬PeriodLost (modelUnder settings) (validItems raws)) := by
  simp only [premiumSummary_ok_iff]
  refine ⟨⟨fun none => ?_, premium_of_none⟩, ?_, fun m found => ?_, fun present named lost => ?_,
    fun modest few => not_periodLost modest few _⟩
  · by_contra present
    rw [premium, if_neg (by rwa [List.isEmpty_iff])] at none
    cases priced : costs settings (validItems raws) (invalidItems raws).length <;>
      simp [priced, Except.map] at none
  · rw [← costs_found_iff]
    constructor
    · rintro ⟨m, found⟩
      refine ⟨fun none => ?_, m, premium_found found⟩
      rw [premium_of_none none] at found
      cases found
    · rintro ⟨present, m, priced⟩
      exact ⟨m, (premium_found_iff present).mpr priced⟩
  · obtain ⟨_, _, _, _, -, -, -, rfl⟩ := costs_ok_iff.mp (premium_found found)
    exact ⟨rfl, (Nat.add_comm _ _).trans (length_invalidItems raws)⟩
  · rw [premiumSummary_eq, premium, if_neg (by rwa [List.isEmpty_iff]), costs_overflow named lost]
    rfl

end Answers

theorem refundedPeriod_answered :
    ∃ m, premiumSummary .default (.list refundedPeriod) = .ok (.found m) ∧
      m.itemCount = 3 ∧ m.skippedRecords = 0 := by
  obtain ⟨-, found, counts, -, modest⟩ := premiumSummary_answers .default refundedPeriod
  have small : ∀ i ∈ validItems refundedPeriod, (Amounts.ofItem i).Within 1 := by
    intro i member amount
    have digit : |((Amounts.ofItem i).get amount).value| ≤ 10 := by
      revert i
      cases amount <;> decide +kernel
    have unit : (10 : ℚ) ^ (1 : Int) ≤ 10 ^ Decimal.unitExponent :=
      zpow_le_zpow_right₀ (by norm_num) (by decide)
    rw [Nat.cast_one, one_mul]
    exact digit.trans unit
  obtain ⟨m, answered⟩ := found.mpr
    ⟨by decide, ⟨⟨"USD", rfl⟩, refundedPeriod_named⟩, modest small (by decide)⟩
  obtain ⟨items, whole⟩ := counts m answered
  have three : (validItems refundedPeriod).length = 3 := by decide
  have all : refundedPeriod.length = 3 := rfl
  exact ⟨m, answered, by omega, by omega⟩

def vastAmount : List Value :=
  [.object [("model", .text "m"), ("grossAmount", .text "0.04")],
    .object [("model", .text "x"), ("grossAmount", .text "1E+1000000")]]

theorem vastAmount_unanswered : (validItems vastAmount).length = 2 ∧
    ∀ outcome, premiumSummary .default (.list vastAmount) ≠ .ok outcome := by
  have failed : (premium .default vastAmount).isOk = false := by decide
  refine ⟨by decide, fun outcome answered => ?_⟩
  rw [premiumSummary_ok_iff.mp answered] at failed
  cases failed

end UsageMetrics.Billing
