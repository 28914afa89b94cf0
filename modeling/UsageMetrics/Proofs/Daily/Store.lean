import UsageMetrics.Proofs.Daily.Naming
import UsageMetrics.Proofs.Daily.NormalForm

namespace UsageMetrics.Daily

open UsageMetrics.Metric UsageMetrics.Feed

def EntityCounts.key (e : EntityCounts) : EntityKey := (e.dimension, e.name)

namespace Action

def Proper (a : Action) : Prop :=
  (∀ key ∈ a.touched?, key.2 ≠ "") ∧ ∀ place ∈ a.places, place.2 ∈ Counter.all.map Counter.label

instance (a : Action) : Decidable a.Proper := inferInstanceAs (Decidable (_ ∧ _))

end Action

/-- A snapshot that lists what some changes touched, each key once and in order, and counts what
they added there or raised. -/
structure GroupSnapshot.Tells (s : GroupSnapshot) (group : MetricGroup) (engagedUsers : Int)
    (actions : List Action) : Prop where
  own : s.group = group ∧ ∀ e ∈ s.entities, e.group = group
  users : s.engagedUsers = engagedUsers
  once : ∀ key, (s.under key).length = if key ∈ touchedBy actions then 1 else 0
  ordered : s.entities.Pairwise EntityCounts.Precedes
  amended : ∀ e ∈ s.entities, ∀ counter : Counter,
    e.counts.get counter = actions.foldl (Action.amend e.key counter.label) 0
  added : ∀ e ∈ s.entities, ∀ counter : Counter,
    (∀ a ∈ actions, (e.key, counter.label) ∈ a.places → a.isRaise = false) →
      e.counts.get counter = addedAt e.key counter.label actions
  raised : ∀ e ∈ s.entities, ∀ counter : Counter,
    (∀ a ∈ actions, (e.key, counter.label) ∈ a.places → a.isRaise = true) →
      (0 :: raisedAt e.key counter.label actions).max? = some (e.counts.get counter)
  custom : ∀ e ∈ s.entities, e.isCustom = true ↔ e.key ∈ customBy actions

namespace Breakdown

variable (group : MetricGroup) (day : String)

theorem run_append (actions others : List Action) :
    run group day (actions ++ others) = others.foldl (apply group day) (run group day actions) :=
  List.foldl_append

section Told

variable {group} {day} {actions : List Action} {e : EntityCounts}

theorem eq_of_mem_run (member : e ∈ (run group day actions).entities group) :
    e = { group
          dimension := e.key.1
          name := e.key.2
          counts := .ofFn fun counter => actions.foldl (Action.amend e.key counter.label) 0
          isCustom := decide (e.key ∈ customBy actions) } := by
  have own : e ∈ ((run group day actions).snapshot group 0).under e.key :=
    List.mem_filter.mpr ⟨member, decide_eq_true rfl⟩
  rw [under_run] at own
  split at own
  · exact List.mem_singleton.mp own
  · cases own

theorem get_of_mem_run (member : e ∈ (run group day actions).entities group) (counter : Counter) :
    e.counts.get counter = actions.foldl (Action.amend e.key counter.label) 0 := by
  rw [congrArg EntityCounts.counts (eq_of_mem_run member), Counts.get_ofFn]

end Told

theorem run_tells (engagedUsers : Int) (actions : List Action) :
    ((run group day actions).snapshot group engagedUsers).Tells group engagedUsers actions where
  own := ⟨rfl, fun e member => congrArg EntityCounts.group (eq_of_mem_run member)⟩
  users := rfl
  once key := by
    rw [under_run]
    split <;> rfl
  ordered := entities_ordered group _
  amended e member := get_of_mem_run member
  added e member counter adds := by
    rw [get_of_mem_run member, foldl_amend_adding adds, Int.zero_add]
  raised e member counter raises := by
    rw [get_of_mem_run member, foldl_amend_raising raises, List.max?_cons']
  custom e member := by
    rw [congrArg EntityCounts.isCustom (eq_of_mem_run member), decide_eq_true_iff]

theorem snapshot?_run {actions : List Action} (proper : ∀ a ∈ actions, a.Proper)
    (engagedUsers : Int) :
    (run group day actions).snapshot? group engagedUsers =
      .ok ((run group day actions).snapshot group engagedUsers) := by
  apply snapshot?_ok
  intro key counted
  rw [mem_keys_run] at counted
  obtain ⟨a, member, touched⟩ := List.mem_filterMap.mp counted
  exact (proper a member).1 key touched

theorem snapshot?_swap {a b : Action} (independent : a.Independent b) (before after : List Action)
    (engagedUsers : Int) :
    (run group day (before ++ b :: a :: after)).snapshot? group engagedUsers =
      (run group day (before ++ a :: b :: after)).snapshot? group engagedUsers := by
  have counts : (before ++ b :: a :: after).foldl Action.recount .empty =
      (before ++ a :: b :: after).foldl Action.recount .empty := by
    rw [List.foldl_append, List.foldl_append, List.foldl_cons, List.foldl_cons, List.foldl_cons,
      List.foldl_cons, Action.recount_comm independent]
  have order : (before ++ b :: a :: after).Perm (before ++ a :: b :: after) :=
    (List.Perm.swap a b after).append_left before
  have entities := entities_run_congr group day counts fun key => order.mem_iff
  simp only [snapshot?, snapshot, counts_run, counts, entities]

theorem length_warningsOn (dimension : Dimension) (t : Tag) :
    (warningsOn group day dimension t).length = if t.IsNamed ∧ t.repaired = [] then 0 else 1 := by
  cases found : entryKey? dimension t with
  | none =>
    have unnamed : ¬t.IsNamed := fun named => by
      obtain ⟨name, key⟩ := entryKey?_named named dimension
      rw [found] at key
      cases key
    simp [warningsOn, found, unnamed]
  | some key =>
    obtain ⟨-, given, solid⟩ := entryKey?_eq_some_iff.mp found
    have named : t.IsNamed := ⟨key.2, given, solid⟩
    by_cases clean : t.repaired = [] <;> simp [warningsOn, found, named, clean]

end Breakdown

end UsageMetrics.Daily
