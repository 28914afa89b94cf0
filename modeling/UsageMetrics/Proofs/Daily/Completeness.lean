import UsageMetrics.Daily.Intake
import UsageMetrics.Daily.Figures

namespace UsageMetrics.Daily

open UsageMetrics.Calendar UsageMetrics.Metric UsageMetrics.Feed

theorem filter_key {groups : List (MetricGroup × GroupSnapshot)}
    (different : (groups.map Prod.fst).Nodup) (group : MetricGroup) :
    (groups.filter fun listed => listed.1 = group) =
      (groups.lookup group).toList.map fun listed => (group, listed) := by
  induction groups with
  | nil => rfl
  | cons first rest ih =>
    obtain ⟨other, listed⟩ := first
    rw [List.map_cons, List.nodup_cons] at different
    by_cases same : other = group
    · subst same
      have absent : (rest.filter fun listed => listed.1 = other) = [] := by
        rw [List.filter_eq_nil_iff]
        intro entry member found
        have key : entry.1 = other := by simpa using found
        exact different.1 (List.mem_map.mpr ⟨entry, member, key⟩)
      simp [absent]
    · have differ : (group == other) = false := by
        rw [beq_eq_false_iff_ne]
        exact fun back => same back.symm
      simp [List.lookup_cons, same, differ, ih different.2]

namespace Snapshot

def Complete (s : Snapshot) : Prop := (s.groups.map Prod.fst).Perm MetricGroup.all

instance (s : Snapshot) : Decidable s.Complete := inferInstanceAs (Decidable (List.Perm _ _))

def listed (s : Snapshot) (group : MetricGroup) : GroupSnapshot :=
  (s.group? group).getD ⟨group, 0, []⟩

def figures (s : Snapshot) : Figures :=
  .ofGroups s (s.listed .codeCompletions) (s.listed .ideChat) (s.listed .dotcomChat)
    (s.listed .pullRequests)

theorem Complete.group? {s : Snapshot} (complete : s.Complete) (group : MetricGroup) :
    s.group? group = some (s.listed group) := by
  have all : group ∈ MetricGroup.all := by cases group <;> decide
  obtain ⟨entry, member, rfl⟩ := List.mem_map.mp (complete.mem_iff.mpr all)
  cases found : s.groups.lookup entry.1 with
  | some listed => simp [Snapshot.listed, Snapshot.group?, found]
  | none =>
    have differ := List.lookup_eq_none_iff.mp found entry member
    simp at differ

theorem Complete.filter_group {s : Snapshot} (complete : s.Complete) (group : MetricGroup) :
    (s.groups.filter fun listed => listed.1 = group) = [(group, s.listed group)] := by
  have different : (s.groups.map Prod.fst).Nodup := complete.nodup_iff.mpr (by decide)
  have found : s.groups.lookup group = some (s.listed group) := complete.group? group
  rw [filter_key different, found]
  rfl

theorem Complete.listed_mem {s : Snapshot} (complete : s.Complete) (group : MetricGroup) :
    (group, s.listed group) ∈ s.groups := by
  have inFilter : (group, s.listed group) ∈ s.groups.filter fun listed => listed.1 = group := by
    rw [complete.filter_group group]
    exact List.mem_singleton_self _
  exact (List.mem_filter.mp inFilter).1

theorem Complete.figures_ok {s : Snapshot} (complete : s.Complete) :
    Figures.ofSnapshot s = .ok s.figures := by
  simp only [Figures.ofSnapshot, Snapshot.require, complete.group?]
  rfl

end Snapshot

theorem normalizeOn_complete (day : Day) (r : DailyRecord) : (normalizeOn day r).1.Complete := by
  simp [Snapshot.Complete, normalizeOn, ofGroups, Function.comp_def]

end UsageMetrics.Daily
