import Mathlib.Data.List.Forall2
import UsageMetrics.Sample.Draw

namespace UsageMetrics.Sample.Draw

variable {α β : Type}

/-- Whatever the register, something is drawn and has a property. -/
def Always (d : Draw α) (holds : α → Prop) : Prop :=
  ∀ t : Twister, ∃ a rest, d t = some (a, rest) ∧ holds a

namespace Always

variable {holds : α → Prop} {later : β → Prop}

theorem pure {a : α} (held : holds a) : Always (Pure.pure a) holds := fun t => ⟨a, t, rfl, held⟩

theorem bind {d : Draw α} {next : α → Draw β} (first : Always d holds)
    (rest : ∀ a, holds a → Always (next a) later) : Always (d >>= next) later := by
  intro t
  obtain ⟨a, t', drawn, held⟩ := first t
  obtain ⟨b, t'', follows, held'⟩ := rest a held t'
  refine ⟨b, t'', ?_, held'⟩
  calc (d >>= next) t = (d t).bind fun drawn => next drawn.1 drawn.2 := rfl
    _ = next a t' := by rw [drawn]; rfl
    _ = some (b, t'') := follows

theorem imp {d : Draw α} {weaker : α → Prop} (strong : Always d holds)
    (implies : ∀ a, holds a → weaker a) : Always d weaker := fun t =>
  let ⟨a, t', drawn, held⟩ := strong t
  ⟨a, t', drawn, implies a held⟩

theorem optional {known : Prop} [Decidable known] {a : α} {d : Draw α} {next : α → Draw β}
    (held : holds a) (drawn : Always d holds) (rest : ∀ a, holds a → Always (next a) later) :
    Always (if known then Pure.pure a >>= next else d >>= next) later := by
  split
  · exact (pure held).bind rest
  · exact drawn.bind rest

theorem mapM {related : α → β → Prop} {draw : α → Draw β} {as : List α}
    (each : ∀ a ∈ as, Always (draw a) (related a)) :
    Always (as.mapM draw) (List.Forall₂ related as) := by
  induction as with
  | nil => exact pure .nil
  | cons a rest ih =>
    obtain ⟨first, others⟩ := List.forall_mem_cons.mp each
    rw [List.mapM_cons]
    exact first.bind fun b related => (ih others).bind fun bs all => pure (.cons related all)

theorem mapM_all {draw : α → Draw β} {as : List α} (each : ∀ a ∈ as, Always (draw a) later) :
    Always (as.mapM draw) fun bs => ∀ b ∈ bs, later b := by
  refine (mapM each).imp fun bs all => ?_
  clear each
  induction all with
  | nil => exact List.forall_mem_nil _
  | cons first _ ih => exact List.forall_mem_cons.mpr ⟨first, ih⟩

end Always

theorem bits_drawn (count : Nat) : Always (bits count) fun _ => True :=
  fun _ => ⟨_, _, rfl, trivial⟩

theorem belowWithin_lt (attempts : Nat) {n : Nat} (positive : 0 < n) :
    Always (belowWithin attempts n) (· < n) := by
  induction attempts with
  | zero =>
    exact (bits_drawn _).bind fun drawn _ =>
      .pure (Nat.mod_lt drawn positive)
  | succ attempts ih =>
    refine (bits_drawn _).bind fun drawn _ => ?_
    split
    · exact .pure ‹_›
    · exact ih

theorem below_lt {n : Nat} (positive : 0 < n) : Always (below n) (· < n) := by
  rw [below, if_neg (Nat.ne_of_gt positive)]
  exact belowWithin_lt attempts positive

theorem between_within {low high : Nat} (ordered : low ≤ high) :
    Always (between low high) fun n => low ≤ n ∧ n ≤ high := by
  have some : 0 < high + 1 - low := by omega
  exact (below_lt some).bind fun n less => .pure (by omega)

theorem takeSome_mem {count : Nat} {pool : List α} (enough : count ≤ pool.length) :
    Always (takeSome count pool) fun chosen => ∀ a ∈ chosen, a ∈ pool := by
  induction count generalizing pool with
  | zero => exact .pure (List.forall_mem_nil _)
  | succ count ih =>
    have filled : 0 < pool.length := by omega
    refine (below_lt filled).bind fun j inside => ?_
    obtain ⟨last, final⟩ : ∃ last, pool.getLast? = some last :=
      ⟨_, List.getLast?_eq_some_getLast (List.length_pos_iff.mp filled)⟩
    have left : count ≤ ((pool.set j last).dropLast).length := by
      rw [List.length_dropLast, List.length_set]
      omega
    rw [List.getElem?_eq_getElem inside, final]
    refine (ih left).bind fun rest members => .pure (List.forall_mem_cons.mpr
      ⟨List.getElem_mem inside, fun a member => ?_⟩)
    rcases List.mem_or_eq_of_mem_set (List.dropLast_subset _ (members a member)) with old | rfl
    · exact old
    · exact List.mem_of_getLast? final

theorem swap_perm (as : List α) (i j : Nat) : (swap as i j).Perm as := by
  unfold swap
  split
  · rename_i a b here there
    obtain ⟨inside, rfl⟩ := List.getElem?_eq_some_iff.mp here
    obtain ⟨inside', rfl⟩ := List.getElem?_eq_some_iff.mp there
    exact List.set_set_perm inside inside'
  · exact .refl _

theorem shuffleFrom_perm (i : Nat) (as : List α) :
    Always (shuffleFrom i as) fun shuffled => shuffled.Perm as := by
  induction i generalizing as with
  | zero => exact .pure (.refl _)
  | succ i ih =>
    exact (below_lt (Nat.succ_pos _)).bind fun j _ =>
      (ih _).imp fun shuffled order => order.trans (swap_perm as (i + 1) j)

theorem shuffle_perm (as : List α) : Always (shuffle as) fun shuffled => shuffled.Perm as :=
  shuffleFrom_perm _ as

end UsageMetrics.Sample.Draw
