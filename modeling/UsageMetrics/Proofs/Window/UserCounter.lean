import Mathlib.Data.List.Nodup
import UsageMetrics.Proofs.Calendar.Order
import UsageMetrics.Window.UserCounter

namespace UsageMetrics.Window.UserCounter

open UsageMetrics.Calendar

def observeAll (statistic : Statistic) (c : UserCounter) (seen : List (Day × Int)) : UserCounter :=
  seen.foldl (fun c o => c.observe statistic o.1 o.2) c

theorem total_eq (statistic : Statistic) (seen : List (Day × Int)) :
    total statistic seen = (observeAll statistic empty seen).value := rfl

@[simp] theorem observeAll_cons (statistic : Statistic) (c : UserCounter) (o : Day × Int)
    (seen : List (Day × Int)) :
    observeAll statistic c (o :: seen) = observeAll statistic (c.observe statistic o.1 o.2) seen :=
  rfl

theorem observeAll_max (seen : List (Day × Int)) (c : UserCounter) :
    (observeAll .max c seen).value = (seen.map Prod.snd).foldl max c.value := by
  induction seen generalizing c with
  | nil => rfl
  | cons o rest ih =>
    rw [observeAll_cons, ih]
    rfl

theorem observe_comm (statistic : Statistic) {a b : Day × Int} (uneven : a.1 = b.1 → a = b)
    (c : UserCounter) :
    (c.observe statistic a.1 a.2).observe statistic b.1 b.2 =
      (c.observe statistic b.1 b.2).observe statistic a.1 a.2 := by
  by_cases same : a.1 = b.1
  · rw [uneven same]
  · cases statistic with
    | max =>
      simp only [observe, UserCounter.mk.injEq, true_and]
      omega
    | latest =>
      have differ : a.1.ordinal ≠ b.1.ordinal := fun level => same (Day.ordinal_injective level)
      obtain ⟨_ | day, value⟩ := c
      all_goals
        simp only [observe, Day.lt_iff]
        grind

theorem total_perm (statistic : Statistic) {seen others : List (Day × Int)}
    (order : seen.Perm others) (dated : (seen.map Prod.fst).Nodup) :
    total statistic seen = total statistic others := by
  rw [total_eq, total_eq]
  refine congrArg UserCounter.value (order.foldl_eq' (fun a inSeen b inSeen' c => ?_) empty)
  exact observe_comm statistic (List.inj_on_of_nodup_map dated inSeen inSeen') c

theorem total_max_perm {seen others : List (Day × Int)} (order : seen.Perm others) :
    total .max seen = total .max others := by
  have counts := order.map Prod.snd
  rw [total_eq, total_eq, observeAll_max, observeAll_max]
  refine counts.foldl_eq' (fun a _ b _ most => ?_) _
  omega

theorem total_reordered {statistic : Statistic} {seen others : List (Day × Int)}
    (order : seen.Perm others) (dated : statistic = .latest → (seen.map Prod.fst).Nodup) :
    total statistic seen = total statistic others := by
  cases statistic with
  | max => exact total_max_perm order
  | latest => exact total_perm .latest order (dated rfl)

theorem observe_within (statistic : Statistic) {c d : UserCounter} {n m : Int} (day : Day)
    (level : c.latest = d.latest) (within : 0 ≤ c.value ∧ c.value ≤ d.value)
    (seen : 0 ≤ n ∧ n ≤ m) :
    (c.observe statistic day n).latest = (d.observe statistic day m).latest ∧
      0 ≤ (c.observe statistic day n).value ∧
      (c.observe statistic day n).value ≤ (d.observe statistic day m).value := by
  obtain ⟨latest, value⟩ := c
  obtain ⟨latest', value'⟩ := d
  obtain rfl : latest = latest' := level
  cases statistic with
  | max =>
    refine ⟨rfl, ?_⟩
    simp only [observe] at within ⊢
    omega
  | latest =>
    cases latest with
    | none => exact ⟨rfl, seen⟩
    | some last =>
      simp only [observe]
      split
      · exact ⟨rfl, seen⟩
      · exact ⟨rfl, within⟩

theorem total_within {α : Type} (statistic : Statistic) (day : α → Day) {part whole : α → Int}
    {as : List α} (within : ∀ a ∈ as, 0 ≤ part a ∧ part a ≤ whole a) :
    0 ≤ total statistic (as.map fun a => (day a, part a)) ∧
      total statistic (as.map fun a => (day a, part a)) ≤
        total statistic (as.map fun a => (day a, whole a)) := by
  -- Both counters have last seen the same day, so a later day replaces both values or neither.
  suffices run : ∀ c d : UserCounter, c.latest = d.latest → 0 ≤ c.value ∧ c.value ≤ d.value →
      0 ≤ (observeAll statistic c (as.map fun a => (day a, part a))).value ∧
        (observeAll statistic c (as.map fun a => (day a, part a))).value ≤
          (observeAll statistic d (as.map fun a => (day a, whole a))).value from
    run empty empty rfl ⟨Int.le_refl 0, Int.le_refl 0⟩
  induction as with
  | nil => exact fun _ _ _ kept => kept
  | cons a rest ih =>
    obtain ⟨first, others⟩ := List.forall_mem_cons.mp within
    intro c d level kept
    obtain ⟨level, kept⟩ := observe_within statistic (day a) level kept first
    exact ih others _ _ level kept

end UsageMetrics.Window.UserCounter
