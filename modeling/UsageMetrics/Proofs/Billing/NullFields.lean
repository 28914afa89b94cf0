import UsageMetrics.Proofs.Billing.Notes

namespace UsageMetrics.Billing

open UsageMetrics.Feed

def NullsDeleted (given others : List (String × Value)) : Prop :=
  ∃ dropped : List String, (∀ key ∈ dropped, given.lookup key = some .null) ∧
    others = given.filter fun entry => entry.1 ∉ dropped

/-- A field of an item: the keys that it is looked for under, one after another, its default, and
how its values are read. -/
structure SpelledField where
  {α : Type}
  keys : List String
  default : α
  read : Value → Except Cause α

def itemFields : List SpelledField :=
  [⟨["date"], Item.blank.date, readDay⟩, ⟨modelKeys, Item.blank.modelName, readName⟩,
    ⟨requestKeys, Item.blank.requests, readDecimal⟩,
    ⟨includedKeys, Item.blank.includedRequests, readDecimal⟩,
    ⟨grossKeys, Item.blank.grossAmount, readDecimal⟩,
    ⟨discountKeys, Item.blank.discountAmount, readDecimal⟩,
    ⟨["multiplier"], Item.blank.multiplier, readMultiplier⟩,
    ⟨["product"], Item.blank.product, readName⟩, ⟨["sku"], Item.blank.sku, readName⟩,
    ⟨["unit_type", "unitType"], Item.blank.unitType, readName⟩,
    ⟨["price_per_unit", "pricePerUnit"], Item.blank.pricePerUnit, readPrice⟩]

namespace SpelledField

def of (f : SpelledField) (given : List (String × Value)) : f.α × List Issue :=
  field given f.keys f.default f.read

/-- A key without a value stands before another key of the field, under which there is a value that
is not the default. -/
def Uncovers (f : SpelledField) (given others : List (String × Value)) : Prop :=
  ∃ key other value, given? given f.keys = some (key, .null) ∧
    given? others f.keys = some (other, value) ∧ value ≠ .null ∧ f.read value ≠ .ok f.default

end SpelledField

theorem field_eq_default_iff {α : Type} {given : List (String × Value)} {keys : List String}
    {default : α} {read : Value → Except Cause α} {key : String} {value : Value}
    (found : given? given keys = some (key, value)) (present : value ≠ .null) :
    field given keys default read = (default, []) ↔ read value = .ok default := by
  unfold field
  rw [found]
  cases value with
  | null => exact absurd rfl present
  | _ => dsimp only; split <;> simp_all

theorem lookup_filter_key {β : Type} (keep : String → Bool) (key : String)
    (entries : List (String × β)) :
    (entries.filter fun entry => keep entry.1).lookup key =
      if keep key then entries.lookup key else none := by
  induction entries with
  | nil => simp
  | cons entry rest ih =>
    obtain ⟨name, value⟩ := entry
    by_cases same : key = name
    · subst same
      cases kept : keep key <;> simp [kept, ih]
    · have other : (key == name) = false := beq_eq_false_iff_ne.mpr same
      cases kept : keep name <;> simp [kept, List.lookup_cons, other, ih]

section Reading

variable {given others : List (String × Value)} (deleted : NullsDeleted given others)

include deleted

theorem given?_nullsDeleted (keys : List String) :
    given? others keys = given? given keys ∨ ∃ key, given? given keys = some (key, .null) := by
  obtain ⟨dropped, null, rfl⟩ := deleted
  induction keys with
  | nil => exact .inl rfl
  | cons key rest ih =>
    rw [given?, given?, lookup_filter_key fun key => key ∉ dropped]
    by_cases gone : key ∈ dropped
    · exact .inr ⟨key, by rw [null key gone]⟩
    · rw [if_pos (by simpa using gone)]
      cases given.lookup key with
      | none => exact ih
      | some value => exact .inl rfl

theorem of_eq_iff (f : SpelledField) : f.of others = f.of given ↔ ¬f.Uncovers given others := by
  rcases given?_nullsDeleted deleted f.keys with same | ⟨key, null⟩
  · refine iff_of_true (by rw [SpelledField.of, field, same]; rfl) ?_
    rintro ⟨key, other, value, null, found, present, -⟩
    rw [same, null] at found
    cases found
    exact present rfl
  · have blank : f.of given = (f.default, []) := by rw [SpelledField.of, field, null]
    rw [blank]
    cases found : given? others f.keys with
    | none =>
      refine iff_of_true (by rw [SpelledField.of, field, found]) ?_
      rintro ⟨_, _, _, -, found', -⟩
      rw [found] at found'
      cases found'
    | some entry =>
      obtain ⟨other, value⟩ := entry
      have covered : f.Uncovers given others ↔ value ≠ .null ∧ f.read value ≠ .ok f.default := by
        simp [SpelledField.Uncovers, null, found]
      rw [covered, not_and_not_right, SpelledField.of]
      by_cases absent : value = .null
      · subst absent
        simp [field, found]
      · rw [field_eq_default_iff found absent]
        exact ⟨fun read _ => read, fun read => read absent⟩

theorem of_valid (f : SpelledField) (valid : (f.of others).2 = []) : (f.of given).2 = [] := by
  rcases given?_nullsDeleted deleted f.keys with same | ⟨key, null⟩
  · rwa [SpelledField.of, field, same] at valid
  · rw [SpelledField.of, field, null]

end Reading

theorem issues_readFields (given : List (String × Value)) :
    (readFields given).2 = [] ↔ ∀ f ∈ itemFields, (f.of given).2 = [] := by
  rw [← List.flatMap_eq_nil_iff]
  simp [readFields, itemFields, SpelledField.of]

theorem item_readFields (given others : List (String × Value)) :
    (readFields others).1 = (readFields given).1 ↔
      ∀ f ∈ itemFields, (f.of others).1 = (f.of given).1 := by
  simp only [readFields, Item.mk.injEq, itemFields, List.forall_mem_cons, List.not_mem_nil,
    false_implies, implies_true, and_true, SpelledField.of]

theorem isOk_readItem (given : List (String × Value)) :
    (readItem (.object given)).isOk = true ↔ (readFields given).2 = [] := by
  rw [readItem]
  rcases readFields given with ⟨item, _ | ⟨issue, issues⟩⟩
  · exact iff_of_true rfl rfl
  · exact iff_of_false Bool.false_ne_true (List.cons_ne_nil _ _)

theorem readItem_eq_iff {given : List (String × Value)} (others : List (String × Value))
    (valid : (readFields given).2 = []) :
    (readItem (.object others)).toOption = (readItem (.object given)).toOption ↔
      ∀ f ∈ itemFields, f.of others = f.of given := by
  have own : readItem (.object given) = .ok (readFields given).1 :=
    readItem_ok_iff.mpr (Prod.ext rfl valid)
  rw [own]
  refine toOption_eq_some_iff.trans ?_
  rw [readItem_ok_iff, Prod.ext_iff, item_readFields, issues_readFields, ← forall₂_and]
  refine forall₂_congr fun f member => ?_
  rw [Prod.ext_iff, (issues_readFields given).mp valid f member]

theorem readItem_nullsDeleted {given others : List (String × Value)}
    (deleted : NullsDeleted given others) :
    (readItem (.object others)).toOption = (readItem (.object given)).toOption ↔
      ((readItem (.object given)).isOk → ∀ f ∈ itemFields, ¬f.Uncovers given others) := by
  rw [isOk_readItem]
  by_cases valid : (readFields given).2 = []
  · rw [readItem_eq_iff others valid, forall_prop_of_true valid]
    exact forall₂_congr fun f _ => of_eq_iff deleted f
  · -- What cannot be read is not null, and stays where it is.
    have invalid : ¬(readFields others).2 = [] := fun clean => valid <|
      (issues_readFields given).mpr fun f member =>
        of_valid deleted f ((issues_readFields others).mp clean f member)
    rw [← isOk_readItem] at valid invalid
    exact iff_of_true ((toOption_eq_none invalid).trans (toOption_eq_none valid).symm)
      fun clean => absurd ((isOk_readItem given).mpr clean) valid

theorem premiumMetrics_replaced {raw other : Value}
    (same : (readItem other).toOption = (readItem raw).toOption) (settings : Settings)
    (before after : List Value) :
    premiumMetrics settings (.list (before ++ other :: after)) =
      premiumMetrics settings (.list (before ++ raw :: after)) := by
  have valid : validItems (before ++ other :: after) = validItems (before ++ raw :: after) := by
    simp only [validItems, List.filterMap_append, List.filterMap_cons, same]
  have whole : (before ++ other :: after).length = (before ++ raw :: after).length := by simp
  have priced : premium settings (before ++ other :: after) =
      premium settings (before ++ raw :: after) :=
    premium_congr whole (congrArg List.length valid) fun skipped => by rw [valid]
  exact congrArg (fun answer => Phase.premium.run (answer.mapError .costs)) priced

/-- The deletion of keys without values changes an item exactly if the item was valid and another
key of a field comes to light; otherwise it changes no costs either. -/
theorem readItem_without_nulls {given others : List (String × Value)}
    (deleted : NullsDeleted given others) :
    ((readItem (.object others)).toOption = (readItem (.object given)).toOption ↔
      ((readItem (.object given)).isOk → ∀ f ∈ itemFields, ¬f.Uncovers given others)) ∧
    (((readItem (.object given)).isOk → ∀ f ∈ itemFields, ¬f.Uncovers given others) →
      ∀ (settings : Settings) (before after : List Value),
        premiumMetrics settings (.list (before ++ .object others :: after)) =
          premiumMetrics settings (.list (before ++ .object given :: after))) :=
  ⟨readItem_nullsDeleted deleted, fun covered =>
    premiumMetrics_replaced ((readItem_nullsDeleted deleted).mpr covered)⟩

def sparseItem : List (String × Value) :=
  [("model_name", .text "m"), ("modelName", .null), ("request_count", .null),
    ("requestCount", .integer 0), ("gross_amount", .text "0.04"), ("sku", .null)]

def denseItem : List (String × Value) :=
  [("model_name", .text "m"), ("requestCount", .integer 0), ("gross_amount", .text "0.04")]

theorem denseItem_reads : NullsDeleted sparseItem denseItem ∧
    (readItem (.object sparseItem)).isOk ∧
    (∀ f ∈ itemFields, ¬f.Uncovers sparseItem denseItem) ∧
    ∀ settings : Settings, premiumMetrics settings (.list [.object denseItem]) =
      premiumMetrics settings (.list [.object sparseItem]) := by
  have deleted : NullsDeleted sparseItem denseItem := by
    refine ⟨["modelName", "request_count", "sku"], ?_, rfl⟩
    simp [sparseItem, List.lookup_cons]
  have valid : (readItem (.object sparseItem)).isOk := by decide
  obtain ⟨exactly, costs⟩ := readItem_without_nulls deleted
  have covered := exactly.mp (by decide) valid
  exact ⟨deleted, valid, covered, fun settings => costs (fun _ => covered) settings [] []⟩

/-- A key without a value is not the same as none: the null of the first item hides its model, and
that of the second one an amount that cannot be read. -/
theorem nullSpelling_hides :
    NullsDeleted [("model_name", .null), ("model", .text "m")] [("model", .text "m")] ∧
    (readItem (.object [("model_name", .null), ("model", .text "m")])).toOption.map
      Item.modelName = some none ∧
    (readItem (.object [("model", .text "m")])).toOption.map Item.modelName = some (some "m") ∧
    NullsDeleted [("gross_amount", .null), ("grossAmount", .text "abc")]
      [("grossAmount", .text "abc")] ∧
    (readItem (.object [("gross_amount", .null), ("grossAmount", .text "abc")])).isOk = true ∧
    (readItem (.object [("grossAmount", .text "abc")])).isOk = false := by
  refine ⟨⟨["model_name"], ?_, rfl⟩, by decide, by decide,
    ⟨["gross_amount"], ?_, rfl⟩, by decide, by decide⟩
  · simp
  · simp

end UsageMetrics.Billing
