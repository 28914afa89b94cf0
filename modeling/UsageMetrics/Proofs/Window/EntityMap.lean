import UsageMetrics.Proofs.Ledger.Lookup
import UsageMetrics.Window.Aggregate

namespace UsageMetrics.Window.EntityMap

open UsageMetrics.Metric

def Holds (m : EntityMap) (group : MetricGroup) (dimension : Dimension) (name : String)
    (e : Entity) : Prop :=
  ∃ dimensions names, (group, dimensions) ∈ m.entries ∧ (dimension, names) ∈ dimensions.entries ∧
    (name, e) ∈ names.entries

theorem holds_iff {m : EntityMap} {group : MetricGroup} {dimension : Dimension} {name : String}
    {e : Entity} : m.Holds group dimension name e ↔ m.entity? group dimension name = some e := by
  simp only [Holds, entity?, slice, Ledger.mem_entries_iff]
  constructor
  · intro known
    rcases known with ⟨dimensions, names, inGroup, inDimension, found⟩
    simp [inGroup, inDimension, found]
  · intro found
    cases inGroup : m.get? group with
    | none => simp [inGroup] at found
    | some dimensions =>
      cases inDimension : dimensions.get? dimension with
      | none => simp [inGroup, inDimension] at found
      | some names =>
        simp only [inGroup, inDimension, Option.bind_some, Option.getD_some] at found
        exact ⟨dimensions, names, rfl, inDimension, found⟩

theorem slice_insert (m : EntityMap) (e : Entity) (group : MetricGroup) (dimension : Dimension) :
    (m.insert e).slice group dimension =
      if e.group == group && e.dimension == dimension then
        (m.slice group dimension).upsert e.name fun _ => e
      else m.slice group dimension := by
  simp only [slice, insert, Ledger.get?_upsert]
  cases sameGroup : e.group == group with
  | false =>
    have differ : (group == e.group) = false := by
      rw [beq_eq_false_iff_ne] at sameGroup ⊢
      exact sameGroup.symm
    simp [differ]
  | true =>
    obtain rfl := eq_of_beq sameGroup
    simp only [beq_self_eq_true, ↓reduceIte, Option.bind_some, Bool.true_and, Ledger.get?_upsert]
    cases sameDimension : e.dimension == dimension with
    | false =>
      have differ : (dimension == e.dimension) = false := by
        rw [beq_eq_false_iff_ne] at sameDimension ⊢
        exact sameDimension.symm
      simp only [differ, Bool.false_eq_true, ↓reduceIte]
      cases m.get? e.group <;> simp
    | true =>
      obtain rfl := eq_of_beq sameDimension
      simp only [beq_self_eq_true, ↓reduceIte, Option.getD_some]
      cases m.get? e.group <;> simp

theorem slice_foldl_insert (entities : List Entity) (m : EntityMap) (group : MetricGroup)
    (dimension : Dimension) :
    (entities.foldl insert m).slice group dimension =
      (entities.filter fun e => e.group == group && e.dimension == dimension).foldl
        (fun l e => l.upsert e.name fun _ => e) (m.slice group dimension) := by
  induction entities generalizing m with
  | nil => rfl
  | cons e rest ih =>
    rw [List.foldl_cons, ih, slice_insert, List.filter_cons]
    split <;> rfl

theorem name_before {a b : WindowKey} (less : KeyOrder.before a b = true) (group : a.1 = b.1)
    (dimension : a.2.1 = b.2.1) : KeyOrder.before a.2.2 b.2.2 = true := by
  obtain ⟨g, d, n⟩ := a
  obtain ⟨g', d', n'⟩ := b
  obtain rfl : g = g' := group
  obtain rfl : d = d' := dimension
  simpa [KeyOrder.before, String.lt_irrefl] using less

theorem slice_ofList (tallies : Ledger WindowKey Tally) (group : MetricGroup)
    (dimension : Dimension) :
    ((ofList (tallies.entries.map fun (key, t) => Entity.ofTally key t)).slice group
        dimension).entries =
      (tallies.entries.filter fun entry => entry.1.1 == group && entry.1.2.1 == dimension).map
        fun entry => (entry.1.2.2, Entity.ofTally entry.1 entry.2) := by
  rw [ofList, slice_foldl_insert, Ledger.entries_foldl_upsert Entity.name fun e => e]
  · rw [List.filter_map, List.map_map]
    rfl
  · rw [List.filter_map, List.pairwise_map]
    refine (tallies.sorted.sublist List.filter_sublist).imp_of_mem ?_
    intro a b inA inB less
    simp only [List.mem_filter, Function.comp_apply, Bool.and_eq_true, beq_iff_eq] at inA inB
    exact name_before less (inA.2.1.trans inB.2.1.symm) (inA.2.2.trans inB.2.2.symm)
  · intro entry member
    cases member

theorem entity?_ofList (tallies : Ledger WindowKey Tally) (group : MetricGroup)
    (dimension : Dimension) (name : String) :
    (ofList (tallies.entries.map fun (key, t) => Entity.ofTally key t)).entity? group dimension
        name =
      (tallies.get? (group, dimension, name)).map (Entity.ofTally (group, dimension, name)) := by
  apply Option.ext
  intro e
  rw [entity?, ← Ledger.mem_entries_iff, slice_ofList, Option.map_eq_some_iff]
  constructor
  · intro member
    obtain ⟨⟨⟨g, d, n⟩, t⟩, inSlice, same⟩ := List.mem_map.mp member
    simp only [List.mem_filter, Bool.and_eq_true, beq_iff_eq] at inSlice
    obtain ⟨stands, rfl, rfl⟩ := inSlice
    cases same
    exact ⟨t, Ledger.mem_entries_iff.mp stands, rfl⟩
  · intro known
    rcases known with ⟨t, found, rfl⟩
    refine List.mem_map.mpr ⟨((group, dimension, name), t), ?_, rfl⟩
    simpa using Ledger.mem_entries_iff.mpr found

def Filled (m : EntityMap) : Prop :=
  ∀ group dimensions, (group, dimensions) ∈ m.entries →
    dimensions.entries ≠ [] ∧
      ∀ dimension names, (dimension, names) ∈ dimensions.entries → names.entries ≠ []

theorem empty_filled : Filled .empty := fun _ _ member => nomatch member

theorem insert_filled {m : EntityMap} (filled : m.Filled) (e : Entity) : (m.insert e).Filled := by
  intro group dimensions member
  rcases Ledger.mem_upsert member with rfl | old
  · refine ⟨Ledger.upsert_entries_ne_nil _ _ _, fun dimension names inner => ?_⟩
    rcases Ledger.mem_upsert inner with rfl | old
    · exact Ledger.upsert_entries_ne_nil _ _ _
    · cases found : m.get? e.group with
      | none => rw [found] at old; cases old
      | some before =>
        rw [found] at old
        exact (filled e.group before (Ledger.mem_entries_iff.mpr found)).2 dimension names old
  · exact filled group dimensions old

theorem ofList_filled (entities : List Entity) : (ofList entities).Filled := by
  suffices kept : ∀ m : EntityMap, m.Filled → (entities.foldl insert m).Filled from
    kept _ empty_filled
  induction entities with
  | nil => exact fun m filled => filled
  | cons e rest ih => exact fun m filled => ih _ (insert_filled filled e)

end UsageMetrics.Window.EntityMap
