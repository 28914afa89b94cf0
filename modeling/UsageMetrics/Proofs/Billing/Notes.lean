import UsageMetrics.Proofs.Billing.Reordering
import UsageMetrics.Requests

namespace UsageMetrics.Billing

open UsageMetrics.Feed

def pricedKeys : List String :=
  modelKeys ++ requestKeys ++ includedKeys ++ grossKeys ++ discountKeys

def noteKeys : List String :=
  ["date"] ++ ["multiplier"] ++ ["product"] ++ ["sku"] ++ ["unit_type", "unitType"] ++
    ["price_per_unit", "pricePerUnit"]

def Item.bare (i : Item) : Item where
  date := Item.blank.date
  modelName := i.modelName
  requests := i.requests
  includedRequests := i.includedRequests
  grossAmount := i.grossAmount
  discountAmount := i.discountAmount
  multiplier := Item.blank.multiplier
  product := Item.blank.product
  sku := Item.blank.sku
  unitType := Item.blank.unitType
  pricePerUnit := Item.blank.pricePerUnit

/-- Items of a feed that differ in nothing but notes and keys that are not read. Whether an item is
valid can depend on its notes only. -/
inductive Renoted : Value → Value → Prop where
  | same (raw : Value) : Renoted raw raw
  | item {i i' : Item} (priced : i.bare = i'.bare) : Renoted (.item i) (.item i')
  | object {given given' : List (String × Value)}
      (priced : ∀ key ∈ pricedKeys, given.lookup key = given'.lookup key)
      (valid : (∃ key ∈ noteKeys, given.lookup key ≠ given'.lookup key) →
        (readItem (.object given)).isOk = (readItem (.object given')).isOk) :
      Renoted (.object given) (.object given')

section Reading

variable {given given' : List (String × Value)} {raws renoted : List Value}

theorem given?_congr {keys : List String}
    (same : ∀ key ∈ keys, given.lookup key = given'.lookup key) :
    given? given keys = given? given' keys := by
  induction keys with
  | nil => rfl
  | cons key rest ih =>
    obtain ⟨first, later⟩ := List.forall_mem_cons.mp same
    rw [given?, given?, first, ih later]

theorem field_congr {α : Type} {keys : List String} {default : α} {read : Value → Except Cause α}
    (same : ∀ key ∈ keys, given.lookup key = given'.lookup key) :
    field given keys default read = field given' keys default read := by
  rw [field, field, given?_congr same]

theorem bare_readFields (priced : ∀ key ∈ pricedKeys, given.lookup key = given'.lookup key) :
    (readFields given).1.bare = (readFields given').1.bare := by
  simp only [pricedKeys, List.forall_mem_append] at priced
  obtain ⟨⟨⟨⟨model, requests⟩, included⟩, gross⟩, discount⟩ := priced
  simp only [readFields, Item.bare, field_congr model, field_congr requests, field_congr included,
    field_congr gross, field_congr discount]

theorem readFields_congr (priced : ∀ key ∈ pricedKeys, given.lookup key = given'.lookup key)
    (notes : ∀ key ∈ noteKeys, given.lookup key = given'.lookup key) :
    readFields given = readFields given' := by
  simp only [pricedKeys, List.forall_mem_append] at priced
  simp only [noteKeys, List.forall_mem_append] at notes
  obtain ⟨⟨⟨⟨model, requests⟩, included⟩, gross⟩, discount⟩ := priced
  obtain ⟨⟨⟨⟨⟨date, multiplier⟩, product⟩, sku⟩, unit⟩, price⟩ := notes
  simp only [readFields, field_congr model, field_congr requests, field_congr included,
    field_congr gross, field_congr discount, field_congr date, field_congr multiplier,
    field_congr product, field_congr sku, field_congr unit, field_congr price]

theorem readItem_ok_iff {i : Item} :
    readItem (.object given) = .ok i ↔ readFields given = (i, []) := by
  rw [readItem]
  rcases readFields given with ⟨item, issues⟩
  cases issues <;> simp

theorem Renoted.bare {raw raw' : Value} (renoted : Renoted raw raw') :
    (readItem raw).toOption.map Item.bare = (readItem raw').toOption.map Item.bare := by
  cases renoted with
  | same => rfl
  | item priced => exact congrArg some priced
  | object priced valid =>
    rename_i given given'
    -- With other notes both are valid or neither is; with the same ones both are read alike.
    by_cases noted : ∃ key ∈ noteKeys, given.lookup key ≠ given'.lookup key
    · have both := valid noted
      cases read : readItem (.object given) with
      | error rejection =>
        cases read' : readItem (.object given') with
        | error rejection' => rfl
        | ok i' =>
          rw [read, read'] at both
          cases both
      | ok i =>
        cases read' : readItem (.object given') with
        | error rejection' =>
          rw [read, read'] at both
          cases both
        | ok i' =>
          have same := bare_readFields priced
          rw [readItem_ok_iff.mp read, readItem_ok_iff.mp read'] at same
          exact congrArg some same
    · push Not at noted
      rw [readItem, readItem, readFields_congr priced noted]

theorem bare_validItems (edits : List.Forall₂ Renoted raws renoted) :
    (validItems raws).map Item.bare = (validItems renoted).map Item.bare := by
  simp only [validItems, List.map_filterMap]
  induction edits with
  | nil => rfl
  | cons first _ ih => rw [List.filterMap_cons, List.filterMap_cons, first.bare, ih]

end Reading

section Costs

variable {κ : Type} [DecidableEq κ] (items : List Item)

theorem nameOf?_bare (i : Item) : nameOf? i.bare = nameOf? i := rfl

theorem modelOf_bare (unknown : String) (i : Item) : modelOf unknown i.bare = modelOf unknown i :=
  rfl

theorem amountsUnder?_bare {keyOf : Item → κ} (blind : ∀ i, keyOf i.bare = keyOf i) (key : κ) :
    amountsUnder? keyOf (items.map Item.bare) key = amountsUnder? keyOf items key := by
  have alike : Amounts.ofItem ∘ Item.bare = Amounts.ofItem := rfl
  simp only [amountsUnder?, List.filter_map, List.map_map, alike, Function.comp_def, blind]

theorem costsUnder?_bare {keyOf : Item → κ} (blind : ∀ i, keyOf i.bare = keyOf i) (key : κ) :
    costsUnder? keyOf (items.map Item.bare) key = costsUnder? keyOf items key := by
  rw [costsUnder?, costsUnder?, amountsUnder?_bare items blind]

theorem breakdown?_bare (unknown : String) :
    breakdown? unknown (items.map Item.bare) = breakdown? unknown items := by
  have rows : modelCost? unknown (items.map Item.bare) = modelCost? unknown items := by
    funext model
    rw [modelCost?, modelCost?, costsUnder?_bare items (modelOf_bare unknown), List.filter_map,
      List.length_map]
    rfl
  simp only [breakdown?, rows, List.map_map, Function.comp_def, modelOf_bare]

theorem readUnknown_bare (unknown : Value) :
    readUnknown unknown (items.map Item.bare) = readUnknown unknown items := by
  have fault : namelessFault unknown (items.map Item.bare) = namelessFault unknown items := by
    simp only [namelessFault, List.map_map, List.takeWhile_map, Function.comp_def, nameOf?_bare,
      amountsUnder?_bare _ nameOf?_bare, costsUnder?_bare _ nameOf?_bare]
  simp only [readUnknown, fault, List.all_map, Function.comp_def, nameOf?_bare]

theorem costs_bare (settings : Settings) (skipped : Nat) :
    costs settings (items.map Item.bare) skipped = costs settings items skipped := by
  simp only [costs, readUnknown_bare, breakdown?_bare, List.length_map]

end Costs

theorem premium_renoted (settings : Settings) {raws renoted : List Value}
    (edits : List.Forall₂ Renoted raws renoted) :
    premium settings raws = premium settings renoted := by
  have bare := bare_validItems edits
  have valid : (validItems raws).length = (validItems renoted).length := by
    simpa only [List.length_map] using congrArg List.length bare
  refine premium_congr edits.length_eq valid fun skipped => ?_
  rw [← costs_bare (validItems raws), bare, costs_bare]

/-- What a period costs does not depend on what is noted of its items beside their amounts. -/
theorem premiumMetrics_renoted (settings : Settings) {raws renoted : List Value}
    (edits : List.Forall₂ Renoted raws renoted) :
    premiumMetrics settings (.list raws) = premiumMetrics settings (.list renoted) := by
  have whole (listed : List Value) : premiumMetrics settings (.list listed) =
      Phase.premium.run ((premium settings listed).mapError .costs) := rfl
  rw [whole, whole, premium_renoted settings edits]

def notedPeriod : List Value :=
  [.object [("model", .text "m"), ("grossAmount", .text "0.12"), ("netAmount", .integer 7)],
    .object [("multiplier", .integer (-1)), ("grossAmount", .integer 5)]]

def renotedPeriod : List Value :=
  [.object [("netQuantity", .null), ("multiplier", .text "0.5"), ("date", .text "2025-01-31"),
      ("model", .text "m"), ("grossAmount", .text "0.12")],
    .object [("grossAmount", .integer 5), ("multiplier", .text "many"), ("sku", .text "s")]]

theorem renotedPeriod_costs : List.Forall₂ Renoted notedPeriod renotedPeriod ∧
    premiumMetrics .default (.list notedPeriod) = premiumMetrics .default (.list renotedPeriod) ∧
    (validItems notedPeriod).length = 1 := by
  have first : Renoted notedPeriod[0] renotedPeriod[0] := by
    refine .object ?_ fun _ => by decide
    simp [pricedKeys, modelKeys, requestKeys, includedKeys, grossKeys, discountKeys,
      List.lookup_cons]
  have second : Renoted notedPeriod[1] renotedPeriod[1] := by
    refine .object ?_ fun _ => by decide
    simp [pricedKeys, modelKeys, requestKeys, includedKeys, grossKeys, discountKeys,
      List.lookup_cons]
  have edits : List.Forall₂ Renoted notedPeriod renotedPeriod := .cons first (.cons second .nil)
  exact ⟨edits, premiumMetrics_renoted .default edits, by decide⟩

end UsageMetrics.Billing
