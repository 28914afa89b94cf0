import UsageMetrics.Proofs.Window.Tally
import UsageMetrics.Requests

namespace UsageMetrics.Window

open UsageMetrics.Calendar UsageMetrics.Daily UsageMetrics.Metric UsageMetrics.Number

structure Entity.SumsUp (e : Entity) (key : WindowKey) (listed : List EntityCounts) : Prop where
  group : e.group = key.1
  dimension : e.dimension = key.2.1
  name : e.name = key.2.2
  counts : ∀ counter, e.counts.get counter = (listed.map fun o => o.counts.get counter).sum
  daysPresent : e.daysPresent = listed.length
  isCustom : e.isCustom = true ↔ ∃ o ∈ listed, o.isCustom = true
  acceptanceRate :
    e.acceptanceRate = percentage (e.counts.get .acceptances) (e.counts.get .suggestions)
  linesAcceptanceRate :
    e.linesAcceptanceRate = percentage (e.counts.get .linesAccepted) (e.counts.get .linesSuggested)

theorem Tally.sumsUp (key : WindowKey) (os : List Occurrence) :
    (Entity.ofTally key (.ofAll os)).SumsUp key (os.map Prod.snd) where
  group := rfl
  dimension := rfl
  name := rfl
  counts counter := by
    rw [List.map_map]
    exact get_ofAll os counter
  daysPresent := by
    rw [List.length_map, ← daysPresent_ofAll os]
    rfl
  isCustom := by
    have custom := isCustom_ofAll os
    simp only [Entity.ofTally, custom, List.any_eq_true, List.mem_map]
    constructor
    · intro known
      rcases known with ⟨o, member, marked⟩
      exact ⟨o.2, ⟨o, member, rfl⟩, marked⟩
    · intro known
      rcases known with ⟨_, ⟨o, member, rfl⟩, marked⟩
      exact ⟨o, member, marked⟩
  acceptanceRate := rfl
  linesAcceptanceRate := rfl

structure EntityMap.Increasing (m : EntityMap) : Prop where
  groups : m.entries.Pairwise fun a b => a.1.label < b.1.label
  dimensions : ∀ group dimensions, (group, dimensions) ∈ m.entries →
    dimensions.entries.Pairwise fun a b => a.1.label < b.1.label
  names : ∀ group dimensions, (group, dimensions) ∈ m.entries →
    ∀ dimension names, (dimension, names) ∈ dimensions.entries →
      names.entries.Pairwise fun a b => a.1 < b.1

theorem EntityMap.increasing (m : EntityMap) : m.Increasing where
  groups := m.sorted.imp of_decide_eq_true
  dimensions _ dimensions _ := dimensions.sorted.imp of_decide_eq_true
  names _ _ _ _ names _ := names.sorted.imp of_decide_eq_true

namespace Aggregate

def eventTotals (a : Aggregate) : MetricGroup → List (Counter × Int)
  | .codeCompletions =>
    [(.suggestions, a.suggestions), (.acceptances, a.acceptances),
      (.linesSuggested, a.linesSuggested), (.linesAccepted, a.linesAccepted)]
  | .ideChat =>
    [(.chats, a.ideChats), (.copyEvents, a.copyEvents), (.insertionEvents, a.insertionEvents)]
  | .dotcomChat => [(.chats, a.dotcomChats)]
  | .pullRequests => [(.prSummaries, a.prSummaries)]

def sliceSum (a : Aggregate) (group : MetricGroup) (dimension : Dimension) (counter : Counter) :
    Int :=
  ((a.slice group dimension).map fun e => e.counts.get counter).sum

theorem eventTotals_eq (statistic : Statistic) (snapshots : List Snapshot) (group : MetricGroup)
    {event : Counter × Int}
    (member : event ∈ (aggregateDays statistic snapshots).eventTotals group) :
    event.2 = (groupTotals (tally (occurrences snapshots)) group).get event.1 := by
  cases group <;> simp only [eventTotals, List.mem_cons, List.not_mem_nil, or_false] at member
  case codeCompletions => rcases member with rfl | rfl | rfl | rfl <;> rfl
  case ideChat => rcases member with rfl | rfl | rfl <;> rfl
  case dotcomChat => rw [member]; rfl
  case pullRequests => rw [member]; rfl

theorem sliceSum_eq (statistic : Statistic) (snapshots : List Snapshot) (group : MetricGroup)
    (dimension : Dimension) (counter : Counter) :
    (aggregateDays statistic snapshots).sliceSum group dimension counter =
      (((tally (occurrences snapshots)).entries.filter fun entry =>
        entry.1.1 == group && entry.1.2.1 == dimension).map fun entry =>
          entry.2.counts.get counter).sum := by
  have slice := EntityMap.slice_ofList (tally (occurrences snapshots)) group dimension
  simp only [sliceSum, Aggregate.slice, aggregateDays, Ledger.values, slice, List.map_map]
  rfl

theorem eventTotals_primary (statistic : Statistic) (snapshots : List Snapshot)
    (group : MetricGroup) {event : Counter × Int}
    (member : event ∈ (aggregateDays statistic snapshots).eventTotals group) :
    event.2 = (aggregateDays statistic snapshots).sliceSum group group.primary event.1 := by
  rw [eventTotals_eq statistic snapshots group member, sliceSum_eq, groupTotals, get_sumCounts,
    List.map_map]
  rfl

/-- What a window's totals have to be, said of its snapshots alone. -/
structure FoldsWindow (a : Aggregate) (snapshots : List Snapshot) : Prop where
  present : ∀ group dimension name, (∃ e, a.entities.Holds group dimension name e) ↔
    ∃ s ∈ snapshots, ∃ listed, (group, listed) ∈ s.groups ∧
      ∃ o ∈ listed.entities, o.dimension = dimension ∧ o.name = name
  sums : ∀ group dimension name e, a.entities.Holds group dimension name e →
    e.SumsUp (group, dimension, name) (listedAs (group, dimension, name) snapshots)
  found : ∀ group dimension name e,
    a.entities.entity? group dimension name = some e ↔ a.entities.Holds group dimension name e
  filled : a.entities.Filled
  increasing : a.entities.Increasing
  totals : ∀ group, ∀ event ∈ a.eventTotals group,
    event.2 = a.sliceSum group group.primary event.1
  chats : a.chats = a.ideChats + a.dotcomChats
  acceptanceRate : a.acceptanceRate = percentage a.acceptances a.suggestions
  linesAcceptanceRate : a.linesAcceptanceRate = percentage a.linesAccepted a.linesSuggested

end Aggregate

theorem entity?_aggregateDays (statistic : Statistic) (snapshots : List Snapshot)
    (group : MetricGroup) (dimension : Dimension) (name : String) :
    (aggregateDays statistic snapshots).entities.entity? group dimension name =
      ((tally (occurrences snapshots)).get? (group, dimension, name)).map
        (Entity.ofTally (group, dimension, name)) :=
  EntityMap.entity?_ofList (tally (occurrences snapshots)) group dimension name

theorem holds_aggregateDays {statistic : Statistic} {snapshots : List Snapshot}
    {group : MetricGroup} {dimension : Dimension} {name : String} {e : Entity}
    (holds : (aggregateDays statistic snapshots).entities.Holds group dimension name e) :
    e.group = group ∧ e.dimension = dimension ∧ e.name = name := by
  rw [EntityMap.holds_iff, entity?_aggregateDays, Option.map_eq_some_iff] at holds
  obtain ⟨t, -, rfl⟩ := holds
  exact ⟨rfl, rfl, rfl⟩

theorem listedAs_of_occurs {snapshots : List Snapshot} {key : WindowKey} :
    ((occurrences snapshots).any fun o => o.key == key) = true ↔
      ∃ e, e ∈ listedAs key snapshots := by
  rw [List.any_eq_true, ← occurrences_as]
  simp only [List.mem_map, List.mem_filter]
  constructor
  · intro known
    rcases known with ⟨o, member, same⟩
    exact ⟨o.2, o, ⟨member, same⟩, rfl⟩
  · intro known
    rcases known with ⟨_, o, ⟨member, same⟩, rfl⟩
    exact ⟨o, member, same⟩

theorem aggregateDays_present (statistic : Statistic) (snapshots : List Snapshot)
    (group : MetricGroup) (dimension : Dimension) (name : String) :
    (∃ e, (aggregateDays statistic snapshots).entities.Holds group dimension name e) ↔
      ∃ s ∈ snapshots, ∃ listed, (group, listed) ∈ s.groups ∧
        ∃ o ∈ listed.entities, o.dimension = dimension ∧ o.name = name := by
  have occurs : _ ↔ ∃ e, e ∈ listedAs (group, dimension, name) snapshots := listedAs_of_occurs
  simp only [EntityMap.holds_iff, entity?_aggregateDays, get?_tally]
  calc
    _ ↔ ((occurrences snapshots).any fun o => o.key == (group, dimension, name)) = true := by
      split
      · rename_i met
        simp [met]
      · rename_i unmet
        simpa using unmet
    _ ↔ ∃ e, e ∈ listedAs (group, dimension, name) snapshots := occurs
    _ ↔ _ := by
      simp only [listedAs, List.mem_filter, mem_listedUnder, Bool.and_eq_true, beq_iff_eq]
      constructor
      · intro known
        rcases known with ⟨e, ⟨s, inWindow, listed, inDay, member⟩, named⟩
        exact ⟨s, inWindow, listed, inDay, e, member, named⟩
      · intro known
        rcases known with ⟨s, inWindow, listed, inDay, e, member, named⟩
        exact ⟨e, ⟨s, inWindow, listed, inDay, member⟩, named⟩

theorem aggregateDays_sums (statistic : Statistic) (snapshots : List Snapshot)
    {group : MetricGroup} {dimension : Dimension} {name : String} {e : Entity}
    (holds : (aggregateDays statistic snapshots).entities.Holds group dimension name e) :
    e.SumsUp (group, dimension, name) (listedAs (group, dimension, name) snapshots) := by
  rw [EntityMap.holds_iff, entity?_aggregateDays, get?_tally] at holds
  split at holds
  · obtain rfl := Option.some.inj holds
    rw [← occurrences_as]
    exact Tally.sumsUp _ _
  · cases holds

theorem aggregateDays_foldsWindow (statistic : Statistic) (snapshots : List Snapshot) :
    (aggregateDays statistic snapshots).FoldsWindow snapshots where
  present := aggregateDays_present statistic snapshots
  sums _ _ _ _ holds := aggregateDays_sums statistic snapshots holds
  found _ _ _ _ := EntityMap.holds_iff.symm
  filled := EntityMap.ofList_filled _
  increasing := EntityMap.increasing _
  totals group _ member := Aggregate.eventTotals_primary statistic snapshots group member
  chats := rfl
  acceptanceRate := rfl
  linesAcceptanceRate := rfl

theorem aggregateWindow_found (settings : Settings) {snapshots : List Snapshot}
    (nonempty : snapshots ≠ []) :
    aggregateWindow settings snapshots = .found (aggregateDays settings.statistic snapshots) := by
  simp [aggregateWindow, aggregate?, nonempty]

/-- The totals of a window are one fold over all its occurrences, whatever their order. -/
theorem aggregateWindow_foldsWindow (settings : Settings) {snapshots : List Snapshot}
    (nonempty : snapshots ≠ []) :
    ∃ a, aggregateWindow settings snapshots = .found a ∧ a.FoldsWindow snapshots :=
  ⟨_, aggregateWindow_found settings nonempty,
    aggregateDays_foldsWindow settings.statistic snapshots⟩

def lopsidedDay : Snapshot where
  day := ⟨2025, 1, 1, by decide⟩
  activeUsers := 3
  engagedUsers := -1
  groups :=
    [(.ideChat, ⟨.ideChat, 2,
      [⟨.ideChat, .editor, "vim", .ofFn fun _ => -2, false⟩,
        ⟨.ideChat, .editor, "vim", .ofFn fun _ => 5, true⟩]⟩)]

theorem lopsidedDay_twice_foldsWindow :
    [lopsidedDay, lopsidedDay] ≠ [] ∧
      ∃ a, aggregateWindow .default [lopsidedDay, lopsidedDay] = .found a ∧
        a.FoldsWindow [lopsidedDay, lopsidedDay] :=
  ⟨by simp, aggregateWindow_foldsWindow .default (by simp)⟩

end UsageMetrics.Window
