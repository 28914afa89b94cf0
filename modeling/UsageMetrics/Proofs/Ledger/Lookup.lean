import UsageMetrics.Ledger

namespace UsageMetrics

open KeyOrder

namespace Entry

variable {κ α : Type} [KeyOrder κ]

theorem mem_of_find? {key : κ} {value : α} {entries : List (κ × α)}
    (found : find? key entries = some value) : (key, value) ∈ entries := by
  induction entries with
  | nil => cases found
  | cons first rest ih =>
    simp only [find?] at found
    split at found
    · rename_i same
      cases found
      rw [eq_of_beq same]
      exact List.mem_cons_self
    · exact List.mem_cons_of_mem _ (ih found)

theorem find?_of_mem {key : κ} {value : α} {entries : List (κ × α)} (sorted : Sorted entries)
    (member : (key, value) ∈ entries) : find? key entries = some value := by
  induction entries with
  | nil => cases member
  | cons first rest ih =>
    obtain ⟨above, restSorted⟩ := List.pairwise_cons.mp sorted
    simp only [find?]
    rcases List.mem_cons.mp member with rfl | inRest
    · simp
    · have less := above _ inRest
      have differ : key ≠ first.1 := by
        intro same
        subst same
        rw [before_irrefl] at less
        exact Bool.noConfusion less
      rw [if_neg (by simpa using differ)]
      exact ih restSorted inRest

theorem update_above {key : κ} {change : Option α → α} {entries : List (κ × α)}
    (above : ∀ entry ∈ entries, before entry.1 key = true) :
    update key change entries = entries ++ [(key, change none)] := by
  induction entries with
  | nil => rfl
  | cons first rest ih =>
    have less := above first List.mem_cons_self
    have differ : key ≠ first.1 := by
      intro same
      subst same
      rw [before_irrefl] at less
      exact Bool.noConfusion less
    have notLess : before key first.1 = false := by
      cases back : before key first.1 with
      | false => rfl
      | true => exact absurd (before_trans _ _ _ less back) (by simp [before_irrefl])
    have inRest := ih fun entry member => above entry (List.mem_cons_of_mem _ member)
    simp [update, differ, notLess, inRest]

end Entry

namespace Ledger

variable {κ α : Type} [KeyOrder κ]

theorem mem_entries_iff {l : Ledger κ α} {key : κ} {value : α} :
    (key, value) ∈ l.entries ↔ l.get? key = some value :=
  ⟨Entry.find?_of_mem l.sorted, Entry.mem_of_find?⟩

theorem get?_upsert (l : Ledger κ α) (key other : κ) (change : Option α → α) :
    (l.upsert key change).get? other =
      if other == key then some (change (l.get? key)) else l.get? other := by
  cases same : other == key with
  | true =>
    rw [eq_of_beq same]
    exact get?_upsert_self l key change
  | false => exact get?_upsert_ne l (by simpa using same) change

theorem mem_upsert {l : Ledger κ α} {key other : κ} {change : Option α → α} {value : α}
    (member : (other, value) ∈ (l.upsert key change).entries) :
    value = change (l.get? key) ∨ (other, value) ∈ l.entries := by
  rw [mem_entries_iff, get?_upsert] at member
  split at member
  · exact .inl (Option.some.inj member).symm
  · exact .inr (mem_entries_iff.mpr member)

theorem mem_keys_iff {l : Ledger κ α} {key : κ} :
    key ∈ l.keys ↔ ∃ value, l.get? key = some value := by
  simp only [keys, List.mem_map, ← mem_entries_iff]
  constructor
  · intro known
    obtain ⟨entry, member, rfl⟩ := known
    exact ⟨entry.2, member⟩
  · intro known
    obtain ⟨value, member⟩ := known
    exact ⟨(key, value), member, rfl⟩

theorem mem_keys_upsert {l : Ledger κ α} {key other : κ} {change : Option α → α} :
    other ∈ (l.upsert key change).keys ↔ other = key ∨ other ∈ l.keys := by
  rw [mem_keys_iff, mem_keys_iff, get?_upsert]
  by_cases same : other = key
  · simp [same]
  · simp [same]

theorem keys_nodup (l : Ledger κ α) : l.keys.Nodup := by
  rw [keys, List.Nodup, List.pairwise_map]
  refine l.sorted.imp fun {a b} less same => ?_
  rw [same, before_irrefl] at less
  exact Bool.noConfusion less

theorem upsert_entries_ne_nil (l : Ledger κ α) (key : κ) (change : Option α → α) :
    (l.upsert key change).entries ≠ [] := by
  have found := get?_upsert_self l key change
  exact List.ne_nil_of_mem (mem_entries_iff.mpr found)

section Replay

variable {σ : Type} (keyOf : σ → κ) (zero : α) (meet : α → σ → α)

def replay (steps : List σ) (l : Ledger κ α) : Ledger κ α :=
  steps.foldl (fun l step => l.upsert (keyOf step) fun old => meet (old.getD zero) step) l

theorem get?_replay (steps : List σ) (l : Ledger κ α) (key : κ) :
    (replay keyOf zero meet steps l).get? key =
      if steps.any fun step => keyOf step == key then
        some ((steps.filter fun step => keyOf step == key).foldl meet ((l.get? key).getD zero))
      else l.get? key := by
  induction steps generalizing l with
  | nil => rfl
  | cons step rest ih =>
    have tail := ih (l.upsert (keyOf step) fun old => meet (old.getD zero) step)
    change (replay keyOf zero meet rest _).get? key = _
    rw [tail, get?_upsert, List.any_cons, List.filter_cons]
    cases same : keyOf step == key with
    | true =>
      obtain rfl := eq_of_beq same
      simp only [beq_self_eq_true, ↓reduceIte, Bool.true_or, Option.getD_some, List.foldl_cons]
      cases met : rest.any fun other => keyOf other == keyOf step with
      | true => rfl
      | false =>
        have unmet := List.filter_eq_nil_iff.mpr fun other member =>
          List.any_eq_false.mp met other member
        rw [unmet]
        rfl
    | false =>
      have differ : (key == keyOf step) = false := by
        rw [beq_eq_false_iff_ne] at same ⊢
        exact same.symm
      simp only [differ, Bool.false_eq_true, ↓reduceIte, Bool.false_or]

theorem get?_replay_congr {steps others : List σ} {key : κ}
    (same : (steps.filter fun step => keyOf step == key) =
      others.filter fun step => keyOf step == key) (l : Ledger κ α) :
    (replay keyOf zero meet steps l).get? key = (replay keyOf zero meet others l).get? key := by
  have occurs (steps : List σ) : (steps.any fun step => keyOf step == key) =
      (steps.filter fun step => keyOf step == key).any fun _ => true := by
    simp [List.any_filter]
  rw [get?_replay, get?_replay, occurs, occurs, same]

end Replay

theorem entries_foldl_upsert {σ : Type} (keyOf : σ → κ) (valueOf : σ → α) {steps : List σ}
    (increasing : steps.Pairwise fun a b => before (keyOf a) (keyOf b) = true) (l : Ledger κ α)
    (above : ∀ entry ∈ l.entries, ∀ step ∈ steps, before entry.1 (keyOf step) = true) :
    (steps.foldl (fun l step => l.upsert (keyOf step) fun _ => valueOf step) l).entries =
      l.entries ++ steps.map fun step => (keyOf step, valueOf step) := by
  induction steps generalizing l with
  | nil => simp
  | cons step rest ih =>
    obtain ⟨next, restIncreasing⟩ := List.pairwise_cons.mp increasing
    have placed : (l.upsert (keyOf step) fun _ => valueOf step).entries =
        l.entries ++ [(keyOf step, valueOf step)] :=
      Entry.update_above fun entry member => above entry member step List.mem_cons_self
    rw [List.foldl_cons, ih restIncreasing, placed]
    · simp
    · intro entry member later inRest
      rw [placed, List.mem_append, List.mem_singleton] at member
      rcases member with member | rfl
      · exact above entry member later (List.mem_cons_of_mem _ inRest)
      · exact next later inRest

end Ledger

end UsageMetrics
