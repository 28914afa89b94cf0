import Mathlib.Algebra.BigOperators.Group.List.Basic
import UsageMetrics.Proofs.Answers
import UsageMetrics.Proofs.Daily.Completeness
import UsageMetrics.Proofs.Window.Conservation
import UsageMetrics.Window.Series

namespace UsageMetrics.Window

open UsageMetrics.Daily UsageMetrics.Metric

variable {snapshots : List Snapshot}

theorem series_ok (complete : ∀ s ∈ snapshots, s.Complete) :
    series snapshots = .ok ((snapshots.map Snapshot.figures).mergeSort dayBefore) := by
  rw [series, mapM_ok fun s member => (complete s member).figures_ok]
  rfl

theorem sum_rows (snapshots : List Snapshot) (column : Figures → Int) :
    (((snapshots.map Snapshot.figures).mergeSort dayBefore).map column).sum =
      (snapshots.map fun s => column s.figures).sum := by
  have sorted := ((snapshots.map Snapshot.figures).mergeSort_perm dayBefore).map column
  rw [sorted.sum_eq, List.map_map]
  rfl

theorem listedUnder_cons (group : MetricGroup) {s : Snapshot} (complete : s.Complete)
    (rest : List Snapshot) :
    listedUnder group (s :: rest) = (s.listed group).entities ++ listedUnder group rest := by
  have once : (s.groups.flatMap fun listed => if listed.1 = group then listed.2.entities else []) =
      (s.groups.filter fun listed => listed.1 = group).flatMap fun listed => listed.2.entities := by
    induction s.groups with
    | nil => rfl
    | cons listed others ih =>
      rw [List.flatMap_cons, ih, List.filter_cons]
      by_cases same : listed.1 = group <;> simp [same]
  simp [listedUnder, once, complete.filter_group]

theorem get_primarySum (group : MetricGroup) (listed : GroupSnapshot) (counter : Counter) :
    (listed.primarySum group).get counter =
      ((listed.entities.filter fun e => e.dimension == group.primary).map fun e =>
        e.counts.get counter).sum := by
  have sum := get_sumCounts ((listed.entities.filter fun e => e.dimension = group.primary).map
    EntityCounts.counts) counter
  rw [List.map_map] at sum
  exact sum

/-- Whether events are summed day by day or entity by entity makes no difference. -/
theorem sum_primarySum (statistic : Statistic) (complete : ∀ s ∈ snapshots, s.Complete)
    (group : MetricGroup) (counter : Counter) :
    (snapshots.map fun s => ((s.listed group).primarySum group).get counter).sum =
      (aggregateDays statistic snapshots).sliceSum group group.primary counter := by
  rw [sliceSum_listed]
  -- Induction on the days: what a day lists under the group is added on both sides.
  induction snapshots with
  | nil => rfl
  | cons s rest ih =>
    obtain ⟨first, others⟩ := List.forall_mem_cons.mp complete
    rw [List.map_cons, List.sum_cons, ih others, get_primarySum, listedUnder_cons group first,
      List.filter_append, List.map_append, List.sum_append]

structure Aggregate.SumsRows (a : Aggregate) (rows : List Figures) : Prop where
  suggestions : (rows.map Figures.suggestions).sum = a.suggestions
  acceptances : (rows.map Figures.acceptances).sum = a.acceptances
  linesSuggested : (rows.map Figures.linesSuggested).sum = a.linesSuggested
  linesAccepted : (rows.map Figures.linesAccepted).sum = a.linesAccepted
  ideChats : (rows.map Figures.ideChats).sum = a.ideChats
  dotcomChats : (rows.map Figures.dotcomChats).sum = a.dotcomChats
  chats : (rows.map Figures.chats).sum = a.chats
  copyEvents : (rows.map Figures.copyEvents).sum = a.copyEvents
  insertionEvents : (rows.map Figures.insertionEvents).sum = a.insertionEvents
  prSummaries : (rows.map Figures.prSummaries).sum = a.prSummaries

theorem sum_column (statistic : Statistic) (complete : ∀ s ∈ snapshots, s.Complete)
    (group : MetricGroup) (counter : Counter) {total : Int} {column : Figures → Int}
    (event : (counter, total) ∈ (aggregateDays statistic snapshots).eventTotals group)
    (shows : ∀ s : Snapshot, column s.figures = ((s.listed group).primarySum group).get counter) :
    (((snapshots.map Snapshot.figures).mergeSort dayBefore).map column).sum = total := by
  calc
    _ = (snapshots.map fun s => ((s.listed group).primarySum group).get counter).sum := by
      rw [sum_rows]
      simp only [shows]
    _ = (aggregateDays statistic snapshots).sliceSum group group.primary counter :=
      sum_primarySum statistic complete group counter
    _ = total := (Aggregate.eventTotals_primary statistic snapshots group event).symm

theorem sum_chats (statistic : Statistic) (complete : ∀ s ∈ snapshots, s.Complete) :
    (((snapshots.map Snapshot.figures).mergeSort dayBefore).map Figures.chats).sum =
      (aggregateDays statistic snapshots).chats := by
  let a := aggregateDays statistic snapshots
  have ide : (snapshots.map fun s => s.figures.ideChats).sum = a.ideChats := by
    rw [← sum_rows snapshots Figures.ideChats]
    exact sum_column statistic complete .ideChat .chats (.head _) fun _ => rfl
  have dotcom : (snapshots.map fun s => s.figures.dotcomChats).sum = a.dotcomChats := by
    rw [← sum_rows snapshots Figures.dotcomChats]
    exact sum_column statistic complete .dotcomChat .chats (.head _) fun _ => rfl
  calc
    _ = (snapshots.map fun s => s.figures.ideChats + s.figures.dotcomChats).sum := sum_rows _ _
    _ = a.ideChats + a.dotcomChats := by rw [List.sum_map_add, ide, dotcom]
    _ = a.chats := rfl

theorem aggregateDays_sumsRows (statistic : Statistic) (complete : ∀ s ∈ snapshots, s.Complete) :
    (aggregateDays statistic snapshots).SumsRows
      ((snapshots.map Snapshot.figures).mergeSort dayBefore) := by
  have completions := sum_column statistic complete .codeCompletions
  have ideChat := sum_column statistic complete .ideChat
  have dotcomChat := sum_column statistic complete .dotcomChat
  have pullRequests := sum_column statistic complete .pullRequests
  exact {
    suggestions := completions .suggestions (.head _) fun _ => rfl
    acceptances := completions .acceptances (.tail _ (.head _)) fun _ => rfl
    linesSuggested := completions .linesSuggested (.tail _ (.tail _ (.head _))) fun _ => rfl
    linesAccepted := completions .linesAccepted (.tail _ (.tail _ (.tail _ (.head _)))) fun _ => rfl
    ideChats := ideChat .chats (.head _) fun _ => rfl
    dotcomChats := dotcomChat .chats (.head _) fun _ => rfl
    chats := sum_chats statistic complete
    copyEvents := ideChat .copyEvents (.tail _ (.head _)) fun _ => rfl
    insertionEvents := ideChat .insertionEvents (.tail _ (.tail _ (.head _))) fun _ => rfl
    prSummaries := pullRequests .prSummaries (.head _) fun _ => rfl }

/-- The trend chart of days on which no group is missing adds up to the totals of their window. -/
theorem series_sumsUp (settings : Settings) {snapshots : List Snapshot}
    (complete : ∀ s ∈ snapshots, s.Complete) :
    ∃ rows, series snapshots = .ok rows ∧
      (snapshots = [] ∧ rows = [] ∧ aggregateWindow settings snapshots = .noData emptyWindow ∨
        ∃ a, aggregateWindow settings snapshots = .found a ∧ a.SumsRows rows) := by
  refine ⟨_, series_ok complete, ?_⟩
  cases snapshots with
  | nil => exact .inl ⟨rfl, by simp, rfl⟩
  | cons s rest =>
    exact .inr ⟨_, aggregateWindow_found settings (by simp),
      aggregateDays_sumsRows settings.statistic complete⟩

def repeatedDate : List Snapshot :=
  let entity (group : MetricGroup) (dimension : Dimension) (n : Int) : EntityCounts :=
    ⟨group, dimension, "default", .ofFn fun _ => n, false⟩
  let day (groups : List (MetricGroup × GroupSnapshot)) : Snapshot :=
    ⟨⟨2024, 2, 29, by decide⟩, 7, 5, groups⟩
  [day
    [(.codeCompletions, ⟨.codeCompletions, 3,
        [entity .codeCompletions .language 4, entity .codeCompletions .language (-9),
          entity .codeCompletions .editor 11]⟩),
      (.ideChat, ⟨.ideChat, 2, [entity .ideChat .editor 6]⟩), (.dotcomChat, ⟨.dotcomChat, 0, []⟩),
      (.pullRequests, ⟨.pullRequests, 1, [entity .pullRequests .model 8]⟩)],
    day
    [(.pullRequests, ⟨.pullRequests, 1, [entity .pullRequests .repository 2]⟩),
      (.dotcomChat, ⟨.dotcomChat, 4, [entity .dotcomChat .model 5]⟩),
      (.codeCompletions, ⟨.codeCompletions, 6, [entity .codeCompletions .language 1]⟩),
      (.ideChat, ⟨.ideChat, 0, []⟩)]]

theorem repeatedDate_sumsUp :
    (∀ s ∈ repeatedDate, s.Complete) ∧
      ∃ rows, series repeatedDate = .ok rows ∧
        (repeatedDate = [] ∧ rows = [] ∧
            aggregateWindow .default repeatedDate = .noData emptyWindow ∨
          ∃ a, aggregateWindow .default repeatedDate = .found a ∧ a.SumsRows rows) :=
  ⟨by decide, series_sumsUp .default (by decide)⟩

end UsageMetrics.Window
