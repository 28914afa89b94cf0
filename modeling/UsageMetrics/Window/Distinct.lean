namespace UsageMetrics.Window

variable {α : Type} [DecidableEq α]

def distinct : List α → List α
  | [] => []
  | a :: rest => if a ∈ rest then distinct rest else a :: distinct rest

@[simp] theorem mem_distinct {a : α} {as : List α} : a ∈ distinct as ↔ a ∈ as := by
  induction as with
  | nil => simp [distinct]
  | cons first rest ih =>
    simp only [distinct]
    split
    · rename_i again
      rw [ih, List.mem_cons]
      exact ⟨.inr, fun either => either.elim (fun same => same ▸ again) id⟩
    · simp [ih]

theorem distinct_nodup (as : List α) : (distinct as).Nodup := by
  induction as with
  | nil => simp [distinct]
  | cons first rest ih =>
    simp only [distinct]
    split
    · exact ih
    · simpa using ⟨by assumption, ih⟩

end UsageMetrics.Window
