import Mathlib.Algebra.BigOperators.Group.List.Basic
import Mathlib.Algebra.Field.Rat
import UsageMetrics.Billing.Costs

namespace UsageMetrics.Billing

variable {κ : Type} [DecidableEq κ]

theorem mem_firstSeen {key : κ} {keys : List κ} : key ∈ firstSeen keys ↔ key ∈ keys := by
  induction keys with
  | nil => simp [firstSeen]
  | cons first rest ih =>
    by_cases same : key = first <;> simp [firstSeen, ih, same]

theorem nodup_firstSeen (keys : List κ) : (firstSeen keys).Nodup := by
  induction keys with
  | nil => exact List.nodup_nil
  | cons first rest ih =>
    refine List.nodup_cons.mpr ⟨?_, ih.filter _⟩
    simp

theorem grouped_perm {α : Type} (keyOf : α → κ) {keys : List κ} (unique : keys.Nodup)
    {items : List α} (covered : ∀ i ∈ items, keyOf i ∈ keys) :
    (keys.flatMap fun key => items.filter fun i => keyOf i = key).Perm items := by
  induction keys generalizing items with
  | nil =>
    cases items with
    | nil => exact .nil
    | cons first rest => exact absurd (covered first List.mem_cons_self) List.not_mem_nil
  | cons key rest ih =>
    obtain ⟨fresh, unique⟩ := List.nodup_cons.mp unique
    -- The other keys group what is left when the items of the first key are taken out.
    have others : (rest.flatMap fun key => items.filter fun i => keyOf i = key) =
        rest.flatMap fun other =>
          (items.filter fun i => ¬keyOf i = key).filter fun i => keyOf i = other := by
      apply List.flatMap_congr
      intro other member
      rw [List.filter_filter]
      apply List.filter_congr
      intro i _
      by_cases same : keyOf i = other
      · have differ : other ≠ key := fun same => fresh (same ▸ member)
        simp [same, differ]
      · simp [same]
    have left : ∀ i ∈ items.filter fun i => ¬keyOf i = key, keyOf i ∈ rest := by
      intro i member
      obtain ⟨listed, other⟩ := List.mem_filter.mp member
      exact (List.mem_cons.mp (covered i listed)).resolve_left (by simpa using other)
    rw [List.flatMap_cons, others]
    refine ((ih unique left).append_left _).trans ?_
    simpa using List.filter_append_perm (fun i => decide (keyOf i = key)) items

theorem grouped_firstSeen_perm {α : Type} (keyOf : α → κ) (items : List α) :
    ((firstSeen (items.map keyOf)).flatMap fun key =>
      items.filter fun i => keyOf i = key).Perm items :=
  grouped_perm keyOf (nodup_firstSeen _) fun _ member =>
    mem_firstSeen.mpr (List.mem_map_of_mem member)

theorem sum_grouped {α M : Type} [AddCommMonoid M] (keyOf : α → κ) (items : List α) (f : α → M) :
    ((firstSeen (items.map keyOf)).map fun key =>
      ((items.filter fun i => keyOf i = key).map f).sum).sum = (items.map f).sum := by
  have same := ((grouped_firstSeen_perm keyOf items).map f).sum_eq
  rw [List.flatMap_def, List.map_flatten, List.sum_flatten, List.map_map, List.map_map] at same
  exact same

end UsageMetrics.Billing
