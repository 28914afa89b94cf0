import Mathlib.Order.Lattice
import Mathlib.Tactic.Tauto

namespace UsageMetrics

/-- What decides the place of a row in a ranked list: how much there is of it, and its name. -/
structure Standing (α : Type) where
  amount : α
  name : String

namespace Standing

variable {α : Type} [LinearOrder α] {a b c : Standing α}

/-- More comes first, then the smaller name. -/
def Before (a b : Standing α) : Prop :=
  b.amount < a.amount ∨ (a.amount = b.amount ∧ a.name < b.name)

theorem Before.trans (first : a.Before b) (second : b.Before c) : a.Before c := by
  rcases first with more | ⟨same, less⟩
  · rcases second with more' | ⟨same', -⟩
    · exact .inl (more'.trans more)
    · exact .inl (same' ▸ more)
  · rcases second with more' | ⟨same', less'⟩
    · exact .inl (same ▸ more')
    · exact .inr ⟨same.trans same', String.lt_trans less less'⟩

theorem before_irrefl (a : Standing α) : ¬a.Before a := by
  rintro (more | ⟨-, less⟩)
  · exact lt_irrefl _ more
  · exact String.lt_irrefl _ less

theorem before_or_eq_or_before (a b : Standing α) : a.Before b ∨ a = b ∨ b.Before a := by
  rcases lt_trichotomy a.amount b.amount with fewer | same | more
  · exact .inr (.inr (.inl fewer))
  · by_cases named : a.name = b.name
    · exact .inr (.inl (by cases a; cases b; simp_all))
    · rcases String.le_total a.name b.name with least | least
      · exact .inl (.inr ⟨same, Std.lt_of_le_of_ne least named⟩)
      · exact .inr (.inr (.inr ⟨same.symm, Std.lt_of_le_of_ne least (Ne.symm named)⟩))
  · exact .inl (.inl more)

theorem before_or_eq_iff : a.Before b ∨ a = b ↔
    b.amount < a.amount ∨ (a.amount = b.amount ∧ a.name ≤ b.name) := by
  have smaller : a.name ≤ b.name ↔ a.name < b.name ∨ a.name = b.name := Std.le_iff_lt_or_eq
  have same : a = b ↔ a.amount = b.amount ∧ a.name = b.name := by
    cases a
    cases b
    simp
  rw [Before, smaller, same]
  tauto

/-- A comparison of rows that goes by their standings, either of two equal ones being before the
other. -/
def Decides {β : Type} (standing : β → Standing α) (before : β → β → Bool) : Prop :=
  ∀ a b, before a b = true ↔ (standing a).Before (standing b) ∨ standing a = standing b

namespace Decides

variable {β : Type} {standing : β → Standing α} {before : β → β → Bool}
  (decides : Decides standing before)

include decides

theorem trans (a b c : β) (first : before a b = true) (second : before b c = true) :
    before a c = true := by
  rw [decides] at *
  rcases first with first | first
  · rcases second with second | second
    · exact .inl (first.trans second)
    · exact .inl (second ▸ first)
  · rwa [first]

theorem total (a b : β) : (before a b || before b a) = true := by
  rw [Bool.or_eq_true, decides, decides]
  rcases before_or_eq_or_before (standing a) (standing b) with first | same | second
  · exact .inl (.inl first)
  · exact .inl (.inr same)
  · exact .inr (.inl second)

theorem antisymm {a b : β} (first : before a b = true) (second : before b a = true) :
    standing a = standing b := by
  rw [decides] at *
  rcases first with first | same
  · rcases second with second | same
    · exact absurd (first.trans second) (before_irrefl _)
    · exact same.symm
  · exact same

end Decides

end Standing

end UsageMetrics
