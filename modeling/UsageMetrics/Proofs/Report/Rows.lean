import UsageMetrics.Proofs.Answers
import UsageMetrics.Proofs.Report.Cells

namespace UsageMetrics.Report.Workbook

open UsageMetrics.Number UsageMetrics.Window UsageMetrics.Billing

section Lists

variable {α β : Type}

theorem filterMap_eq_iff {f : α → Option β} {as : List α} {bs : List β}
    (same : as.length = bs.length) :
    as.filterMap f = bs ↔ List.Forall₂ (fun a b => f a = some b) as bs := by
  induction as generalizing bs with
  | nil =>
    obtain rfl := List.eq_nil_of_length_eq_zero same.symm
    simp
  | cons a as ih =>
    cases bs with
    | nil => cases same
    | cons b bs =>
      have rest : as.length = bs.length := Nat.succ.inj same
      rw [List.forall₂_cons, ← ih rest]
      cases picked : f a with
      | none =>
        rw [List.filterMap_cons_none picked]
        refine iff_of_false (fun known => ?_) (by simp)
        have few := List.length_filterMap_le f as
        rw [known, rest] at few
        exact Nat.lt_irrefl _ few
      | some c => simp [List.filterMap_cons_some picked]

theorem filterMap_cons_eq_iff {f : α → Option β} {a : α} {b : β} {as : List α} :
    (a :: as).filterMap f = b :: as.filterMap f ↔ f a = some b := by
  cases picked : f a with
  | none =>
    rw [List.filterMap_cons_none picked]
    exact iff_of_false (List.cons_ne_self _ _).symm (Option.some_ne_none b).symm
  | some c => simp [List.filterMap_cons_some picked]

theorem forall_mem_zipIdx {p : α → Prop} {as : List α} :
    (∀ a ∈ as.zipIdx, p a.1) ↔ ∀ a ∈ as, p a := by
  rw [← List.forall_mem_map (f := Prod.fst), List.zipIdx_map_fst]

end Lists

def Cell.shown? (c : Cell) : Option (Nat × String × String) :=
  c.content.stored?.map fun text => (c.column, c.content.kind, text)

def Sheet.read (s : Sheet) (row : Nat) : List (Nat × String × String) :=
  (s.cells.filter fun c => c.row = row).filterMap Cell.shown?

section Rows

variable {α : Type} {cells : Nat → α → List Cell}

def stacked (cells : Nat → α → List Cell) (as : List α) : List Cell :=
  (as.zipIdx.map fun a => cells (a.2 + 2) a.1).flatten

theorem stacked_ok_iff (build : Nat → α → Except Failure (List Cell))
    (cells : Nat → α → List Cell) {p : α → Prop}
    (each : ∀ row a cs, build row a = .ok cs ↔ p a ∧ cs = cells row a) {as : List α}
    {rows : List (List Cell)} : as.zipIdx.mapM (fun a : α × Nat => build (a.2 + 2) a.1) = .ok rows ↔
      (∀ a ∈ as, p a) ∧ rows = as.zipIdx.map fun a : α × Nat => cells (a.2 + 2) a.1 := by
  rw [← forall_mem_zipIdx]
  exact mapM_ok_iff fun a : α × Nat => each (a.2 + 2) a.1

theorem forall_mem_stacked (cells : Nat → α → List Cell) {q : Cell → Prop} {p : α → Prop}
    (each : ∀ row a, (∀ c ∈ cells row a, q c) ↔ p a) {as : List α} :
    (∀ c ∈ stacked cells as, q c) ↔ ∀ a ∈ as, p a := by
  rw [stacked, List.forall_mem_flatten, List.forall_mem_map]
  exact (forall₂_congr fun (a : α × Nat) _ => each (a.2 + 2) a.1).trans forall_mem_zipIdx

theorem filter_row {cs : List Cell} {row : Nat} (placed : ∀ c ∈ cs, c.row = row) (other : Nat) :
    cs.filter (fun c => c.row = other) = if row = other then cs else [] := by
  split
  · rename_i same
    refine List.filter_eq_self.mpr fun c member => ?_
    rw [placed c member, decide_eq_true same]
  · rename_i apart
    refine List.filter_eq_nil_iff.mpr fun c member => ?_
    rw [placed c member, decide_eq_true_eq]
    exact apart

theorem filter_zipIdx (placed : ∀ row a, ∀ c ∈ cells row a, c.row = row) (as : List α)
    (first row : Nat) :
    (((as.zipIdx first).map fun a => cells (a.2 + 2) a.1).flatten.filter fun c => c.row = row) =
      if first + 2 ≤ row then (as[row - (first + 2)]?).elim [] (cells row) else [] := by
  -- The place of the first element stays general, as the rest of the list begins one further on.
  induction as generalizing first with
  | nil => simp
  | cons a as ih =>
    rw [List.zipIdx_cons, List.map_cons, List.flatten_cons, List.filter_append, ih,
      filter_row (placed _ a)]
    rcases Nat.lt_trichotomy row (first + 2) with above | rfl | below
    · rw [if_neg above.ne', if_neg (by omega), if_neg above.not_ge, List.append_nil]
    · rw [if_pos rfl, if_neg (by omega), if_pos le_rfl, List.append_nil, Nat.sub_self]
      rfl
    · have next : row - (first + 2) = row - (first + 1 + 2) + 1 := by omega
      rw [if_neg below.ne, if_pos (by omega), if_pos below.le, next, List.getElem?_cons_succ,
        List.nil_append]

theorem filter_stacked (placed : ∀ row a, ∀ c ∈ cells row a, c.row = row) (as : List α) (i : Nat) :
    (stacked cells as).filter (fun c => c.row = i + 2) = (as[i]?).elim [] (cells (i + 2)) := by
  rw [stacked, filter_zipIdx placed, if_pos (by omega)]
  rfl

theorem filter_headings (labels : List String) (i : Nat) :
    (headings 1 labels).filter (fun c => c.row = i + 2) = [] := by
  refine List.filter_eq_nil_iff.mpr fun c member => ?_
  obtain ⟨label, -, rfl⟩ := List.mem_map.mp member
  simp

/-- Below its heading a sheet has a row for each element of a list, in their order, then a last one
and nothing else. A row shows what it should just if its element can be kept. -/
structure Sheet.Lists (sheet : Sheet) (as : List α) (row : α → List (Nat × String × String))
    (kept : α → Prop) (last : List (Nat × String × String)) : Prop where
  each : ∀ (i : Nat) (a : α), as[i]? = some a → (sheet.read (i + 2) = row a ↔ kept a)
  last : sheet.read (as.length + 2) = last
  ended : ∀ i : Nat, as.length < i → sheet.read (i + 2) = []

variable {sheet : Sheet} {labels : List String} {as : List α} {last : List Cell}

theorem read_stacked (content : sheet.cells = headings 1 labels ++ stacked cells as ++ last)
    (placed : ∀ row a, ∀ c ∈ cells row a, c.row = row)
    (below : ∀ c ∈ last, c.row = as.length + 2) (i : Nat) : sheet.read (i + 2) =
      ((as[i]?).elim [] (cells (i + 2)) ++ if as.length = i then last else []).filterMap
        Cell.shown? := by
  rw [Sheet.read, content, List.filter_append, List.filter_append, filter_headings,
    filter_stacked placed, filter_row below, List.nil_append]
  simp only [Nat.add_right_cancel_iff]

theorem lists_of_stacked {row : α → List (Nat × String × String)} {kept : α → Prop}
    (content : sheet.cells = headings 1 labels ++ stacked cells as ++ last)
    (placed : ∀ row a, ∀ c ∈ cells row a, c.row = row)
    (below : ∀ c ∈ last, c.row = as.length + 2)
    (shown : ∀ i a, (cells i a).filterMap Cell.shown? = row a ↔ kept a) :
    sheet.Lists as row kept (last.filterMap Cell.shown?) where
  each i a here := by
    obtain ⟨inside, -⟩ := List.getElem?_eq_some_iff.mp here
    rw [read_stacked content placed below, here, if_neg inside.ne', List.append_nil]
    exact shown (i + 2) a
  last := by
    rw [read_stacked content placed below, if_pos rfl, List.getElem?_eq_none le_rfl]
    rfl
  ended i outside := by
    rw [read_stacked content placed below, if_neg outside.ne, List.getElem?_eq_none outside.le]
    rfl

end Rows

end UsageMetrics.Report.Workbook
