import Mathlib.Algebra.Ring.Int.Defs
import UsageMetrics.Proofs.Ledger.Lookup

namespace UsageMetrics

variable {κ α : Type}

namespace Entry

def total (weight : κ → α → Int) (entries : List (κ × α)) : Int :=
  (entries.map fun entry => weight entry.1 entry.2).sum

@[simp] theorem total_cons (weight : κ → α → Int) (entry : κ × α) (entries : List (κ × α)) :
    total weight (entry :: entries) = weight entry.1 entry.2 + total weight entries := by
  simp [total]

theorem sum_filter (weight : κ → α → Int) (keep : κ → Bool) (entries : List (κ × α)) :
    ((entries.filter fun entry => keep entry.1).map fun entry => weight entry.1 entry.2).sum =
      total (fun key value => if keep key then weight key value else 0) entries := by
  induction entries with
  | nil => rfl
  | cons first rest ih =>
    rw [total_cons, ← ih, List.filter_cons]
    cases keep first.1 <;> simp

variable [KeyOrder κ]

theorem total_update (weight : κ → α → Int) (key : κ) (change : Option α → α)
    {entries : List (κ × α)} (sorted : Sorted entries) :
    total weight (update key change entries) + ((find? key entries).map (weight key)).getD 0 =
      total weight entries + weight key (change (find? key entries)) := by
  induction entries with
  | nil => simp [update, find?, total]
  | cons first rest ih =>
    obtain ⟨above, restSorted⟩ := List.pairwise_cons.mp sorted
    cases same : key == first.1 with
    | true =>
      obtain rfl := eq_of_beq same
      simp only [update, find?, same, ↓reduceIte, total_cons, Option.map_some, Option.getD_some]
      omega
    | false =>
      cases less : KeyOrder.before key first.1 with
      | true =>
        have absent := find?_eq_none key rest fun entry member =>
          KeyOrder.before_trans _ _ _ less (above entry member)
        simp only [update, find?, same, less, absent, Bool.false_eq_true, ↓reduceIte, total_cons,
          Option.map_none, Option.getD_none]
        omega
      | false =>
        have inRest := ih restSorted
        simp only [update, find?, same, less, Bool.false_eq_true, ↓reduceIte, total_cons]
        omega

end Entry

namespace Ledger

variable [KeyOrder κ]

def total (weight : κ → α → Int) (l : Ledger κ α) : Int := Entry.total weight l.entries

@[simp] theorem total_empty (weight : κ → α → Int) : (empty : Ledger κ α).total weight = 0 := rfl

theorem total_upsert (weight : κ → α → Int) (l : Ledger κ α) (key : κ) (change : Option α → α) :
    (l.upsert key change).total weight + ((l.get? key).map (weight key)).getD 0 =
      l.total weight + weight key (change (l.get? key)) :=
  Entry.total_update weight key change l.sorted

theorem total_upsert_add (weight : κ → α → Int) {zero : α} (l : Ledger κ α) {key : κ}
    {change : α → α} {amount : Int} (nothing : weight key zero = 0)
    (adds : ∀ value, weight key (change value) = weight key value + amount) :
    (l.upsert key fun old => change (old.getD zero)).total weight = l.total weight + amount := by
  have changed := total_upsert weight l key fun old => change (old.getD zero)
  cases found : l.get? key with
  | none =>
    simp only [found, Option.map_none, Option.getD_none, adds, nothing] at changed
    omega
  | some value =>
    simp only [found, Option.map_some, Option.getD_some, adds] at changed
    omega

theorem total_replay {σ : Type} {keyOf : σ → κ} {zero : α} {meet : α → σ → α}
    (weight : κ → α → Int) (amount : σ → Int) (nothing : ∀ key, weight key zero = 0)
    (adds : ∀ value step,
      weight (keyOf step) (meet value step) = weight (keyOf step) value + amount step)
    (steps : List σ) (l : Ledger κ α) :
    (replay keyOf zero meet steps l).total weight = l.total weight + (steps.map amount).sum := by
  induction steps generalizing l with
  | nil => simp [replay]
  | cons step rest ih =>
    have first : (l.upsert (keyOf step) fun old => meet (old.getD zero) step).total weight =
        l.total weight + amount step :=
      total_upsert_add weight l (nothing _) fun value => adds value step
    have tail := ih (l.upsert (keyOf step) fun old => meet (old.getD zero) step)
    change (replay keyOf zero meet rest _).total weight = _
    rw [tail, first, List.map_cons, List.sum_cons]
    omega

end Ledger

end UsageMetrics
