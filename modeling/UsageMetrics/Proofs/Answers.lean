import Mathlib.Data.List.Basic

namespace UsageMetrics

variable {α β ε : Type}

theorem exists_ok {answer : Except ε α} (answered : answer.isOk) : ∃ a, answer = .ok a := by
  cases answer with
  | error fault => cases answered
  | ok a => exact ⟨a, rfl⟩

theorem toOption_eq_none {answer : Except ε α} (failed : ¬answer.isOk) :
    answer.toOption = none := by
  cases answer with
  | error fault => rfl
  | ok a => exact absurd rfl failed

theorem toOption_eq_some_iff {answer : Except ε α} {a : α} :
    answer.toOption = some a ↔ answer = .ok a := by
  cases answer <;> simp [Except.toOption]

theorem bind_ok_iff {answer : Except ε α} {next : α → Except ε β} {result : β} :
    (answer >>= next) = .ok result ↔ ∃ a, answer = .ok a ∧ next a = .ok result := by
  cases answer <;> simp [Bind.bind, Except.bind]

section MapM

variable {f : α → Except ε β} {g : α → β} {as : List α}

theorem mapM_ok (each : ∀ a ∈ as, f a = .ok (g a)) : as.mapM f = .ok (as.map g) := by
  induction as with
  | nil => rfl
  | cons a rest ih =>
    obtain ⟨first, others⟩ := List.forall_mem_cons.mp each
    rw [List.mapM_cons, first, ih others]
    rfl

theorem mapM_ok_iff {p : α → Prop} {bs : List β} (each : ∀ a b, f a = .ok b ↔ p a ∧ b = g a) :
    as.mapM f = .ok bs ↔ (∀ a ∈ as, p a) ∧ bs = as.map g := by
  induction as generalizing bs with
  | nil =>
    have nothing : ([] : List α).mapM f = .ok [] := rfl
    rw [nothing, Except.ok.injEq, eq_comm]
    exact (and_iff_right (List.forall_mem_nil _)).symm
  | cons a as ih =>
    rw [List.mapM_cons, bind_ok_iff, List.forall_mem_cons, List.map_cons]
    constructor
    · rintro ⟨b, first, last⟩
      obtain ⟨rest, others, same⟩ := bind_ok_iff.mp last
      obtain ⟨holds, rfl⟩ := (each a b).mp first
      obtain ⟨hold, rfl⟩ := ih.mp others
      exact ⟨⟨holds, hold⟩, (Except.ok.inj same).symm⟩
    · rintro ⟨⟨holds, hold⟩, rfl⟩
      exact ⟨g a, (each a _).mpr ⟨holds, rfl⟩, bind_ok_iff.mpr ⟨as.map g, ih.mpr ⟨hold, rfl⟩, rfl⟩⟩

/-- Where there is one failure only, it does not matter who fails first. -/
theorem mapM_error {fault : ε} (each : ∀ a ∈ as, f a = .ok (g a) ∨ f a = .error fault)
    (failed : ∃ a ∈ as, f a = .error fault) : as.mapM f = .error fault := by
  induction as with
  | nil =>
    obtain ⟨a, member, -⟩ := failed
    cases member
  | cons a rest ih =>
    obtain ⟨first, others⟩ := List.forall_mem_cons.mp each
    rw [List.mapM_cons]
    rcases first with ok | error
    · have later : ∃ b ∈ rest, f b = .error fault := by
        obtain ⟨b, member, error⟩ := failed
        rcases List.mem_cons.mp member with rfl | behind
        · cases ok.symm.trans error
        · exact ⟨b, behind, error⟩
      rw [ok, ih others later]
      rfl
    · rw [error]
      rfl

end MapM

end UsageMetrics
