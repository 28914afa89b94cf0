import UsageMetrics.Proofs.Ledger.Lookup

namespace UsageMetrics

open KeyOrder

namespace Entry

variable {κ α : Type} [KeyOrder κ]

theorem Sorted.nodup {entries : List (κ × α)} (sorted : Sorted entries) : entries.Nodup := by
  refine sorted.imp fun {a b} less same => ?_
  rw [same, before_irrefl] at less
  exact Bool.noConfusion less

theorem Sorted.ext {entries others : List (κ × α)} (sorted : Sorted entries)
    (sorted' : Sorted others) (same : ∀ entry, entry ∈ entries ↔ entry ∈ others) :
    entries = others := by
  have order := (List.perm_ext_iff_of_nodup sorted.nodup sorted'.nodup).mpr same
  refine order.eq_of_pairwise (fun a b _ _ less back => ?_) sorted sorted'
  have around := before_trans _ _ _ less back
  rw [before_irrefl] at around
  exact Bool.noConfusion around

end Entry

/-- A list can be sorted in one way only if no two of its elements come before each other. -/
theorem mergeSort_perm {α : Type} {before : α → α → Bool}
    (trans : ∀ a b c, before a b = true → before b c = true → before a c = true)
    (total : ∀ a b, (before a b || before b a) = true) {as others : List α}
    (order : as.Perm others)
    (untied : ∀ a ∈ as, ∀ b ∈ as, before a b = true → before b a = true → a = b) :
    as.mergeSort before = others.mergeSort before := by
  have sorted := List.pairwise_mergeSort trans total as
  have sorted' := List.pairwise_mergeSort trans total others
  have members := ((List.mergeSort_perm as before).trans order).trans
    (List.mergeSort_perm others before).symm
  refine members.eq_of_pairwise (fun a b inSorted inSorted' less back => ?_) sorted sorted'
  have first := List.mem_mergeSort.mp inSorted
  have second := order.mem_iff.mpr (List.mem_mergeSort.mp inSorted')
  exact untied a first b second less back

namespace Ledger

variable {κ α : Type} [KeyOrder κ]

theorem ext_get? {l other : Ledger κ α} (same : ∀ key, l.get? key = other.get? key) :
    l = other := by
  have entries : l.entries = other.entries := l.sorted.ext other.sorted fun entry => by
    rw [mem_entries_iff, mem_entries_iff, same]
  cases l
  cases other
  simp_all

theorem filter_entries_key (l : Ledger κ α) (key : κ) :
    (l.entries.filter fun entry => entry.1 == key) =
      ((l.get? key).map fun value => (key, value)).toList := by
  refine Entry.Sorted.ext (l.sorted.sublist List.filter_sublist) ?_ fun entry => ?_
  · cases l.get? key <;> simp [Entry.Sorted]
  · rw [List.mem_filter, mem_entries_iff, Option.mem_toList, Option.map_eq_some_iff, beq_iff_eq]
    constructor
    · intro known
      obtain ⟨found, rfl⟩ := known
      exact ⟨entry.2, found, rfl⟩
    · intro known
      obtain ⟨value, found, rfl⟩ := known
      exact ⟨found, rfl⟩

theorem filter_entries_congr {l other : Ledger κ α} (keep : κ → Bool)
    (same : ∀ key, keep key = true → l.get? key = other.get? key) :
    (l.entries.filter fun entry => keep entry.1) =
      other.entries.filter fun entry => keep entry.1 := by
  refine Entry.Sorted.ext (l.sorted.sublist List.filter_sublist)
    (other.sorted.sublist List.filter_sublist) fun entry => ?_
  rw [List.mem_filter, List.mem_filter]
  refine and_congr_left fun kept => ?_
  rw [mem_entries_iff, mem_entries_iff, same _ kept]

theorem upsert_comm {zero : α} {f g : α → α} {a b : κ}
    (commute : a = b → ∀ value, g (f value) = f (g value)) (l : Ledger κ α) :
    (l.upsert a fun old => f (old.getD zero)).upsert b (fun old => g (old.getD zero)) =
      (l.upsert b fun old => g (old.getD zero)).upsert a fun old => f (old.getD zero) := by
  apply ext_get?
  intro key
  by_cases same : a = b
  · subst same
    by_cases here : key = a <;> simp [get?_upsert, here, commute rfl]
  · have differ : b ≠ a := fun back => same back.symm
    by_cases first : key = a
    · subst first
      simp [get?_upsert, same]
    · simp [get?_upsert, first, differ]

variable {σ : Type} (keyOf : σ → κ) (zero : α) (meet : α → σ → α)

theorem replay_perm (commute : ∀ value a b, meet (meet value a) b = meet (meet value b) a)
    {steps others : List σ} (order : steps.Perm others) (l : Ledger κ α) :
    replay keyOf zero meet steps l = replay keyOf zero meet others l := by
  refine order.foldl_eq' (fun a _ b _ l => ?_) l
  exact upsert_comm (f := fun value => meet value a) (g := fun value => meet value b)
    (fun _ value => commute value a b) l

end Ledger

end UsageMetrics
