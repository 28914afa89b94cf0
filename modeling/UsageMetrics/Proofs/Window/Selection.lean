import UsageMetrics.Proofs.Calendar.Order
import UsageMetrics.Window.DateRange
import UsageMetrics.Window.Series

namespace UsageMetrics.Window

open UsageMetrics.Calendar UsageMetrics.Daily

structure Selects {α : Type} (below : α → α → Prop) (pick : α → α → α) : Prop where
  refl : ∀ a, below a a
  trans : ∀ a b c, below a b → below b c → below a c
  picks : ∀ a b, pick a b = a ∧ below b a ∨ pick a b = b ∧ below a b

namespace Selects

variable {α : Type} {below : α → α → Prop} {pick : α → α → α}

theorem above (selects : Selects below pick) (a b : α) :
    below a (pick a b) ∧ below b (pick a b) := by
  rcases selects.picks a b with ⟨same, under⟩ | ⟨same, under⟩ <;> rw [same]
  · exact ⟨selects.refl a, under⟩
  · exact ⟨under, selects.refl b⟩

theorem foldl_mem (selects : Selects below pick) (a : α) (rest : List α) :
    rest.foldl pick a ∈ a :: rest := by
  induction rest generalizing a with
  | nil => simp
  | cons b others ih =>
    rw [List.foldl_cons]
    rcases List.mem_cons.mp (ih (pick a b)) with kept | inOthers
    · rw [kept]
      rcases selects.picks a b with ⟨same, -⟩ | ⟨same, -⟩ <;> simp [same]
    · exact List.mem_cons_of_mem _ (List.mem_cons_of_mem _ inOthers)

theorem foldl_above (selects : Selects below pick) (a : α) (rest : List α) :
    ∀ b ∈ a :: rest, below b (rest.foldl pick a) := by
  induction rest generalizing a with
  | nil => simpa using selects.refl a
  | cons b others ih =>
    have higher := ih (pick a b)
    have kept := higher _ List.mem_cons_self
    obtain ⟨first, second⟩ := selects.above a b
    intro c member
    rw [List.foldl_cons]
    rcases List.mem_cons.mp member with rfl | member
    · exact selects.trans _ _ _ first kept
    · rcases List.mem_cons.mp member with rfl | inOthers
      · exact selects.trans _ _ _ second kept
      · exact higher c (List.mem_cons_of_mem _ inOthers)

/-- Where no two elements are level, the same one is picked in whatever order they come. -/
theorem foldl_perm (selects : Selects below pick) {a b : α} {rest others : List α}
    (order : (a :: rest).Perm (b :: others))
    (uneven : ∀ c ∈ a :: rest, ∀ d ∈ a :: rest, below c d → below d c → c = d) :
    rest.foldl pick a = others.foldl pick b := by
  have first := selects.foldl_mem a rest
  have second := order.mem_iff.mpr (selects.foldl_mem b others)
  -- Each of the two picks is above all elements, the other pick among them.
  refine uneven _ first _ second ?_ (selects.foldl_above a rest _ second)
  exact selects.foldl_above b others _ (order.mem_iff.mp first)

end Selects

/-- The later of two days; of two with one date the one that was met first. -/
def newer (best s : Snapshot) : Snapshot := if best.day < s.day then s else best

theorem newer_selects : Selects (fun a b : Snapshot => a.day ≤ b.day) newer where
  refl _ := Nat.le_refl _
  trans _ _ _ := Nat.le_trans
  picks a b := by
    unfold newer
    split
    · exact .inr ⟨rfl, Nat.le_of_lt ‹_›⟩
    · exact .inl ⟨rfl, Nat.not_lt.mp ‹_›⟩

theorem later_selects : Selects (fun a b : Day => a ≤ b) later where
  refl _ := Nat.le_refl _
  trans _ _ _ := Nat.le_trans
  picks a b := by
    unfold later
    split
    · exact .inr ⟨rfl, Nat.le_of_lt ‹_›⟩
    · exact .inl ⟨rfl, Nat.not_lt.mp ‹_›⟩

theorem earlier_selects : Selects (fun a b : Day => b ≤ a) earlier where
  refl _ := Nat.le_refl _
  trans _ _ _ first second := Nat.le_trans second first
  picks a b := by
    unfold earlier
    split
    · exact .inr ⟨rfl, Nat.le_of_lt ‹_›⟩
    · exact .inl ⟨rfl, Nat.not_lt.mp ‹_›⟩

theorem dayBefore_trans (a b c : Figures) (first : dayBefore a b = true)
    (second : dayBefore b c = true) : dayBefore a c = true :=
  decide_eq_true (Nat.le_trans (of_decide_eq_true first) (of_decide_eq_true second))

theorem dayBefore_total (a b : Figures) : (dayBefore a b || dayBefore b a) = true := by
  simpa [dayBefore, Day.le_iff] using Nat.le_total _ _

end UsageMetrics.Window
