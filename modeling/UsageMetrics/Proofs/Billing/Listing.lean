import UsageMetrics.Proofs.Billing.Notes

namespace UsageMetrics.Billing

open UsageMetrics.Feed

section Keys

variable {given : List (String × Value)} {keys : List String}

theorem given?_absent (absent : ∀ key ∈ keys, given.lookup key = none) :
    given? given keys = none := by
  induction keys with
  | nil => rfl
  | cons key rest ih =>
    obtain ⟨first, others⟩ := List.forall_mem_cons.mp absent
    rw [given?, first]
    exact ih others

theorem field_absent {α : Type} {default : α} {read : Value → Except Cause α}
    (absent : ∀ key ∈ keys, given.lookup key = none) :
    field given keys default read = (default, []) := by
  rw [field, given?_absent absent]

def Item.bill (i : Item) : Option String × Amounts := (i.modelName, Amounts.ofItem i)

theorem readFields_unbilled (absent : ∀ key ∈ itemKeys, given.lookup key = none) :
    (readFields given).1.bill = Item.blank.bill := by
  have among {α : Type} {default : α} {read : Value → Except Cause α} (keys : List String)
      (told : keys ⊆ itemKeys) : field given keys default read = (default, []) :=
    field_absent fun key member => absent key (told member)
  simp only [Item.bill, Amounts.ofItem, readFields, among modelKeys (by decide),
    among requestKeys (by decide), among includedKeys (by decide), among grossKeys (by decide),
    among discountKeys (by decide)]

/-- A key under which something may stand that shows in the bill of an item. -/
def Bills (key : String) : Prop :=
  ∃ value item, readItem (.object [(key, value)]) = .ok item ∧ item.bill ≠ Item.blank.bill

theorem bills_iff {key : String} : Bills key ↔ key ∈ itemKeys := by
  constructor
  · rintro ⟨value, item, read, billed⟩
    by_contra untold
    have fields : (readFields [(key, value)]).1 = item :=
      congrArg Prod.fst (readItem_ok_iff.mp read)
    refine billed (fields ▸ readFields_unbilled fun other told => ?_)
    have differ : other ≠ key := fun same => untold (same ▸ told)
    simp [differ]
  · intro told
    have shown : ∀ key ∈ itemKeys, ∃ value ∈ [Value.text "m", .integer 1],
        (readItem (.object [(key, value)])).toOption.any fun item =>
          item.bill ≠ Item.blank.bill := by decide
    obtain ⟨value, -, billed⟩ := shown key told
    obtain ⟨item, read, billed⟩ := (Option.any_eq_true _ _).mp billed
    exact ⟨value, item, toOption_eq_some_iff.mp read, of_decide_eq_true billed⟩

theorem hasAny_iff : hasAny keys given = true ↔ ∃ key ∈ keys, (given.lookup key).isSome := by
  rw [hasAny, List.any_eq_true]

end Keys

section Shapes

variable {settings : Settings} {given : List (String × Value)} {raws : List Value}

theorem premiumSummary_of_extract {usage : Value} (extracted : extract usage = .ok raws) :
    premiumSummary settings usage = premiumSummary settings (.list raws) := by
  rw [premiumSummary, extractItems, extracted]
  rfl

/-- An empty list counts as none, which makes no difference. -/
theorem listed_of_only (only : (listKeys.filterMap fun key => given.lookup key) = [.list raws]) :
    listed given = .list raws := by
  rw [listed, only]
  cases raws <;> rfl

theorem extract_of_listed (present : ∃ key ∈ listKeys, (given.lookup key).isSome)
    (only : listed given = .list raws) : extract (.object given) = .ok raws := by
  rw [extract, if_pos (hasAny_iff.mpr present), only]
  rfl

theorem extract_of_unlisted (first : given.lookup "usageItems" = none)
    (second : given.lookup "usage_items" = none) :
    extract (.object given) = .ok (if hasAny itemKeys given then [.object given] else []) := by
  have unlisted : hasAny listKeys given = false := by simp only [hasAny, listKeys, List.any_cons,
    List.any_nil, first, second, Option.isSome_none, Bool.or_self]
  rw [extract, unlisted]
  cases hasAny itemKeys given <;> rfl

end Shapes

/-- Items that are listed under either key cost what they cost in a list of their own, and so does
a single item that anything is billed under; without such a key there is nothing to bill. -/
theorem premiumSummary_shapes (settings : Settings) (given : List (String × Value)) :
    (∀ raws, given.lookup "usageItems" = some (.list raws) → given.lookup "usage_items" = none →
      premiumSummary settings (.object given) = premiumSummary settings (.list raws)) ∧
    (∀ raws, given.lookup "usage_items" = some (.list raws) → given.lookup "usageItems" = none →
      premiumSummary settings (.object given) = premiumSummary settings (.list raws)) ∧
    (given.lookup "usageItems" = none → given.lookup "usage_items" = none →
      (∃ key, Bills key ∧ (given.lookup key).isSome) →
        premiumSummary settings (.object given) =
          premiumSummary settings (.list [.object given])) ∧
    (given.lookup "usageItems" = none → given.lookup "usage_items" = none →
      (∀ key, Bills key → given.lookup key = none) →
        premiumSummary settings (.object given) = .ok (.noData ⟨.billing, 0, 0⟩)) := by
  simp only [bills_iff]
  refine ⟨fun raws own other => ?_, fun raws own other => ?_, fun first second present => ?_,
    fun first second absent => ?_⟩
  · exact premiumSummary_of_extract (extract_of_listed ⟨"usageItems", .head _, by simp [own]⟩
      (listed_of_only (by simp [listKeys, own, other])))
  · exact premiumSummary_of_extract (extract_of_listed
      ⟨"usage_items", .tail _ (.head _), by simp [own]⟩
      (listed_of_only (by simp [listKeys, own, other])))
  · refine premiumSummary_of_extract ?_
    rw [extract_of_unlisted first second, if_pos (hasAny_iff.mpr present)]
  · have untold : ¬hasAny itemKeys given = true := by
      rw [hasAny_iff]
      rintro ⟨key, told, present⟩
      rw [absent key told] at present
      cases present
    have extracted := extract_of_unlisted first second
    rw [if_neg untold] at extracted
    rw [premiumSummary_of_extract extracted]
    rfl

def coveredItem : List (String × Value) := [("sku", .text "s"), ("discountQuantity", .integer 3)]

theorem coveredItem_shapes : Bills "discountQuantity" ∧
    premiumSummary .default (.object [("usageItems", .list [.object coveredItem])]) =
      premiumSummary .default (.list [.object coveredItem]) ∧
    premiumSummary .default
        (.object [("timePeriod", .null), ("usage_items", .list [.object coveredItem])]) =
      premiumSummary .default (.list [.object coveredItem]) ∧
    premiumSummary .default (.object coveredItem) =
      premiumSummary .default (.list [.object coveredItem]) ∧
    premiumSummary .default (.object [("sku", .text "s")]) = .ok (.noData ⟨.billing, 0, 0⟩) := by
  have covers : Bills "discountQuantity" := bills_iff.mpr (by decide)
  have untold : ∀ key ∈ itemKeys, [("sku", Value.text "s")].lookup key = none := by
    simp [itemKeys, List.lookup_cons]
  exact ⟨covers, (premiumSummary_shapes .default _).1 _ rfl rfl,
    (premiumSummary_shapes .default _).2.1 _ rfl rfl,
    (premiumSummary_shapes .default _).2.2.1 rfl rfl ⟨_, covers, rfl⟩,
    (premiumSummary_shapes .default _).2.2.2 rfl rfl fun key bills =>
      untold key (bills_iff.mp bills)⟩

end UsageMetrics.Billing
