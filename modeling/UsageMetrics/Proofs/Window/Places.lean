import Mathlib.Data.List.Forall2
import Mathlib.Data.List.Range
import UsageMetrics.Proofs.Answers

namespace UsageMetrics.Window

variable {α β : Type}

def InOrder (standsAt : Nat → β → Prop) (results : List β) : Prop :=
  ∃ places : List Nat, places.Pairwise (· < ·) ∧ (∀ i b, standsAt i b → i ∈ places) ∧
    List.Forall₂ standsAt places results

theorem forall₂_picked {standsAt : Nat → β → Prop} {pick : α × Nat → Option β}
    {indexed : List (α × Nat)}
    (picked : ∀ entry ∈ indexed, ∀ b, pick entry = some b → standsAt entry.2 b) :
    List.Forall₂ standsAt ((indexed.filter fun entry => (pick entry).isSome).map Prod.snd)
      (indexed.filterMap pick) := by
  induction indexed with
  | nil => exact .nil
  | cons entry rest ih =>
    obtain ⟨first, others⟩ := List.forall_mem_cons.mp picked
    cases found : pick entry with
    | none =>
      rw [List.filter_cons_of_neg (by simp [found]), List.filterMap_cons_none found]
      exact ih others
    | some b =>
      rw [List.filter_cons_of_pos (by simp [found]), List.filterMap_cons_some found]
      exact .cons (first b found) (ih others)

theorem inOrder_picked {standsAt : Nat → β → Prop} {as : List α} (pick : α × Nat → Option β)
    (stands : ∀ i b, standsAt i b ↔ ∃ a, as[i]? = some a ∧ pick (a, i) = some b) :
    InOrder standsAt (as.zipIdx.filterMap pick) := by
  refine ⟨(as.zipIdx.filter fun entry => (pick entry).isSome).map Prod.snd, ?_, ?_, ?_⟩
  · have increasing : (as.zipIdx.map Prod.snd).Pairwise (· < ·) := by
      rw [List.zipIdx_map_snd]
      exact List.pairwise_lt_range'
    exact increasing.sublist (List.filter_sublist.map Prod.snd)
  · intro i b found
    obtain ⟨a, at_i, picked⟩ := (stands i b).mp found
    refine List.mem_map.mpr ⟨(a, i), List.mem_filter.mpr ⟨?_, by simp [picked]⟩, rfl⟩
    exact List.mk_mem_zipIdx_iff_getElem?.mpr at_i
  · refine forall₂_picked fun entry member b picked => (stands entry.2 b).mpr ⟨entry.1, ?_, picked⟩
    exact List.mk_mem_zipIdx_iff_getElem?.mp member

theorem inOrder_kept {standsAt : Nat → β → Prop} {as : List α} (keep : α → Option β)
    (stands : ∀ i b, standsAt i b ↔ ∃ a, as[i]? = some a ∧ keep a = some b) :
    InOrder standsAt (as.filterMap keep) := by
  have placed : as.filterMap keep = as.zipIdx.filterMap fun entry => keep entry.1 := by
    rw [← List.zipIdx_map_fst 0 as, List.filterMap_map, List.zipIdx_map_fst]
    rfl
  rw [placed]
  exact inOrder_picked _ stands

theorem length_picked_add_kept {γ : Type} {pick : α × Nat → Option β} {keep : α → Option γ}
    (either : ∀ a i, (pick (a, i)).isSome = (keep a).isNone) (as : List α) (n : Nat) :
    ((as.zipIdx n).filterMap pick).length + (as.filterMap keep).length = as.length := by
  induction as generalizing n with
  | nil => rfl
  | cons a rest ih =>
    have tail := ih (n + 1)
    have here := either a n
    rw [List.zipIdx_cons, List.length_cons]
    cases picked : pick (a, n) <;> cases kept : keep a <;> rw [picked, kept] at here
    · cases here
    · rw [List.filterMap_cons_none picked, List.filterMap_cons_some kept, List.length_cons]
      omega
    · rw [List.filterMap_cons_some picked, List.filterMap_cons_none kept, List.length_cons]
      omega
    · cases here

inductive Interspersed (extra : α → Prop) : List α → List α → Prop where
  | nil : Interspersed extra [] []
  | kept (a : α) {as others : List α} (rest : Interspersed extra as others) :
      Interspersed extra (a :: as) (a :: others)
  | added {a : α} {as others : List α} (more : extra a) (rest : Interspersed extra as others) :
      Interspersed extra as (a :: others)

namespace Interspersed

variable {extra : α → Prop} {as others : List α}

theorem filterMap_eq {keep : α → Option β} (nothing : ∀ a, extra a → keep a = none)
    (interspersed : Interspersed extra as others) : others.filterMap keep = as.filterMap keep := by
  induction interspersed with
  | nil => rfl
  | kept a rest ih => rw [List.filterMap_cons, List.filterMap_cons, ih]
  | added more rest ih => rw [List.filterMap_cons_none (nothing _ more), ih]

theorem length_le (interspersed : Interspersed extra as others) : as.length ≤ others.length := by
  induction interspersed with
  | nil => exact Nat.le_refl _
  | kept a rest ih => exact Nat.succ_le_succ ih
  | added more rest ih => exact Nat.le_succ_of_le ih

end Interspersed

end UsageMetrics.Window
