import UsageMetrics.Proofs.Daily.Coherence
import UsageMetrics.Proofs.Number.Percentage
import UsageMetrics.Proofs.Window.Summary

namespace UsageMetrics.Window

open UsageMetrics.Calendar UsageMetrics.Daily UsageMetrics.Feed UsageMetrics.Metric
  UsageMetrics.Number

section Counts

theorem rates_isPercent {c : Counts} (coherent : c.Coherent) :
    IsPercent (percentage c.acceptances c.suggestions) ∧
      IsPercent (percentage c.linesAccepted c.linesSuggested) := by
  obtain ⟨someAccepted, accepted⟩ := coherent .suggestions
  obtain ⟨someLines, lines⟩ := coherent .lines
  exact ⟨percentage_isPercent someAccepted accepted, percentage_isPercent someLines lines⟩

theorem tally_coherent {os : List Occurrence} (each : ∀ o ∈ os, o.2.counts.Coherent) :
    ∀ entry ∈ (tally os).entries, entry.2.counts.Coherent := by
  intro entry member
  obtain ⟨key, t⟩ := entry
  rw [Ledger.mem_entries_iff, get?_tally] at member
  split at member
  · obtain rfl := Option.some.inj member
    have sums (counter : Counter) : (Tally.ofAll (os.filter fun o => o.key == key)).counts.get
        counter = (((os.filter fun o => o.key == key).map fun o => o.2.counts).map fun d =>
          d.get counter).sum := by
      rw [Tally.get_ofAll, List.map_map]
      rfl
    refine Counts.coherent_of_sum sums fun d inListed => ?_
    obtain ⟨o, inSlice, rfl⟩ := List.mem_map.mp inListed
    exact each o (List.mem_of_mem_filter inSlice)
  · cases member

theorem groupTotals_coherent {ledger : Ledger WindowKey Tally}
    (each : ∀ entry ∈ ledger.entries, entry.2.counts.Coherent) (group : MetricGroup) :
    (groupTotals ledger group).Coherent := by
  refine Counts.coherent_of_sum (get_sumCounts _) fun d member => ?_
  obtain ⟨entry, inSlice, rfl⟩ := List.mem_map.mp member
  exact each entry (List.mem_of_mem_filter inSlice)

theorem primarySum_coherent {listed : GroupSnapshot} {group : MetricGroup}
    (each : ∀ e ∈ listed.entities, e.dimension = group.primary → e.counts.Coherent) :
    (listed.primarySum group).Coherent := by
  refine Counts.coherent_of_sum (get_sumCounts _) fun d member => ?_
  obtain ⟨e, inSlice, rfl⟩ := List.mem_map.mp member
  obtain ⟨inListed, primary⟩ := List.mem_filter.mp inSlice
  exact each e inListed (of_decide_eq_true primary)

variable {snapshots : List Snapshot}

theorem occurrences_coherent (coherent : ∀ s ∈ snapshots, s.Coherent) :
    ∀ o ∈ occurrences snapshots, o.2.counts.Coherent := by
  intro o member
  obtain ⟨s, inWindow, inDay⟩ := List.mem_flatMap.mp member
  obtain ⟨listed, inGroups, inGroup⟩ := List.mem_flatMap.mp inDay
  obtain ⟨e, inEntities, rfl⟩ := List.mem_map.mp inGroup
  exact (coherent s inWindow).counts listed inGroups e inEntities

end Counts

theorem mem_rank {entities : List Entity} {top : Option Nat} {row : RankedEntity}
    (member : row ∈ rank entities top) : ∃ e ∈ entities, ∃ place, row = .ofEntity place e := by
  obtain ⟨indexed, inKept, rfl⟩ := List.mem_map.mp member
  have kept : indexed.1 ∈ keep top (ordered entities) := List.fst_mem_of_mem_zipIdx inKept
  have inOrdered : indexed.1 ∈ ordered entities := by
    cases top with
    | none => exact kept
    | some n => exact List.mem_of_mem_take kept
  exact ⟨indexed.1, List.mem_mergeSort.mp inOrdered, _, rfl⟩

theorem Aggregate.holds_of_mem_slice {a : Aggregate} {group : MetricGroup} {dimension : Dimension}
    {e : Entity} (member : e ∈ a.slice group dimension) :
    ∃ name, a.entities.Holds group dimension name e := by
  obtain ⟨entry, inSlice, rfl⟩ := List.mem_map.mp member
  exact ⟨entry.1, EntityMap.holds_iff.mpr (Ledger.mem_entries_iff.mp inSlice)⟩

structure Aggregate.RatesArePercent (a : Aggregate) : Prop where
  acceptanceRate : IsPercent a.acceptanceRate
  linesAcceptanceRate : IsPercent a.linesAcceptanceRate
  entities : ∀ group dimension name e, a.entities.Holds group dimension name e →
    IsPercent e.acceptanceRate ∧ IsPercent e.linesAcceptanceRate
  adoption : ∀ group, IsPercent (a.featureAdoption.rates.get group)

structure Summary.RatesArePercent (s : Summary) : Prop where
  aggregate : s.aggregate.RatesArePercent
  dailySeries : ∀ row ∈ s.dailySeries,
    IsPercent row.acceptanceRate ∧ IsPercent row.linesAcceptanceRate
  latestDay : IsPercent s.latestDay.acceptanceRate ∧ IsPercent s.latestDay.linesAcceptanceRate
  topLanguages : ∀ row ∈ s.topLanguages, IsPercent row.acceptanceRate
  editorStats : ∀ row ∈ s.editorStats, IsPercent row.acceptanceRate
  chatEditorStats : ∀ row ∈ s.chatEditorStats, IsPercent row.acceptanceRate
  modelUsage : ∀ row ∈ s.modelUsage, IsPercent row.acceptanceRate
  repositories : ∀ row ∈ s.pullRequestSummary.repositories, IsPercent row.acceptanceRate
  adoption : ∀ group, IsPercent (s.featureAdoption.rates.get group)

theorem rank_isPercent {a : Aggregate} (percent : a.RatesArePercent) (group : MetricGroup)
    (dimension : Dimension) (top : Option Nat) :
    ∀ row ∈ rank (a.slice group dimension) top, IsPercent row.acceptanceRate := by
  intro row member
  obtain ⟨e, inSlice, place, rfl⟩ := mem_rank member
  obtain ⟨name, holds⟩ := Aggregate.holds_of_mem_slice inSlice
  exact (percent.entities group dimension name e holds).1

theorem aggregateDays_ratesArePercent (statistic : Statistic) {snapshots : List Snapshot}
    (complete : ∀ s ∈ snapshots, s.Complete) (coherent : ∀ s ∈ snapshots, s.Coherent)
    (nonneg : ∀ s ∈ snapshots, ∀ count, 0 ≤ s.users count) :
    (aggregateDays statistic snapshots).RatesArePercent := by
  have tallies := tally_coherent (occurrences_coherent coherent)
  obtain ⟨suggestions, lines⟩ := rates_isPercent (groupTotals_coherent tallies .codeCompletions)
  refine ⟨suggestions, lines, fun group dimension name e holds => ?_, fun group => ?_⟩
  · rw [EntityMap.holds_iff, entity?_aggregateDays, Option.map_eq_some_iff] at holds
    obtain ⟨t, found, rfl⟩ := holds
    exact rates_isPercent (tallies _ (Ledger.mem_entries_iff.mpr found))
  · -- The most users of the group and the most active ones may be of different days, so the bound
    -- is one on the two counters and not on a day.
    have within : 0 ≤ UserCounter.total statistic (observations (.engagedIn group) snapshots) ∧
        UserCounter.total statistic (observations (.engagedIn group) snapshots) ≤
          UserCounter.total statistic (observations .active snapshots) :=
      UserCounter.total_within statistic Snapshot.day fun s member =>
        ⟨nonneg s member (.engagedIn group), (coherent s member).users group⟩
    rw [← users_aggregateDays statistic complete,
      ← users_aggregateDays statistic complete] at within
    rw [Aggregate.featureAdoption, PerGroup.get_ofFn]
    exact percentage_isPercent within.1 within.2

theorem figures_isPercent {s : Snapshot} (coherent : s.Coherent) :
    IsPercent s.figures.acceptanceRate ∧ IsPercent s.figures.linesAcceptanceRate :=
  rates_isPercent (primarySum_coherent fun e member _ => coherent.listed .codeCompletions e member)

/-- From coherent records nothing but percentages is made, on whatever days the users are
observed. -/
theorem usageSummary_ratesArePercent {settings : Settings} (plain : settings.Plain)
    {raws : List Value} (nonempty : raws ≠ [])
    (accepted : ∀ raw ∈ raws, (Daily.normalize raw).isOk)
    (coherent : ∀ r ∈ validated raws, r.Coherent) :
    ∃ summary, usageSummary settings (.list raws) = .ok (.found summary) ∧
      summary.RatesArePercent := by
  have complete := snapshots_complete raws
  have days : ∀ s ∈ (normalizeAll raws).1, s.Coherent := by
    intro s member
    obtain ⟨day, r, valid, rfl⟩ := exists_normalizeOn member
    exact normalizeOn_coherent (coherent r valid) day
  have aggregate := aggregateDays_ratesArePercent settings.statistic complete days
    fun s member count => users_nonneg member count
  obtain ⟨top, range, s, latest, found⟩ :=
    usageSummary_found plain (snapshots_ne_nil (exists_accepted accepted nonempty))
  refine ⟨_, found, {
    aggregate
    dailySeries := ?_
    latestDay := figures_isPercent (days s (latest?_spec latest).1)
    topLanguages := rank_isPercent aggregate _ _ _
    editorStats := rank_isPercent aggregate _ _ _
    chatEditorStats := rank_isPercent aggregate _ _ _
    modelUsage := ?_
    repositories := rank_isPercent aggregate _ _ _
    adoption := aggregate.adoption }⟩
  · intro row member
    obtain ⟨day, inWindow, rfl⟩ := List.mem_map.mp (List.mem_mergeSort.mp member)
    exact figures_isPercent (days day inWindow)
  · intro row member
    obtain ⟨group, -, inGroup⟩ := List.mem_flatMap.mp member
    exact rank_isPercent aggregate group _ _ row inGroup

def unevenDays : List Value :=
  let language (offered accepted : Int) : Value := .object
    [("name", .text "go"), ("total_code_suggestions", .integer offered),
      ("total_code_acceptances", .integer accepted),
      ("total_code_lines_suggested", .integer (3 * offered)),
      ("total_code_lines_accepted", .integer accepted)]
  let record (date : String) (active users : Int) (languages : List Value) : Value := .object
    [("date", .text date), ("total_active_users", .integer active),
      ("copilot_ide_code_completions", .object
        [("total_engaged_users", .integer users), ("editors", .list [.object
          [("name", .text "vim"), ("models", .list [.object
            [("name", .text "m"), ("languages", .list languages)]])]])])]
  [record "2025-01-02" 9 2 [language 8 8, language 1 0], record "2025-01-01" 12 1 [language 3 2],
    record "2025-01-02" 7 7 [language 0 0]]

theorem unevenDays_ratesArePercent :
    unevenDays ≠ [] ∧ (∀ raw ∈ unevenDays, (Daily.normalize raw).isOk) ∧
      (∀ r ∈ validated unevenDays, r.Coherent) ∧
      (∃ summary, usageSummary .default (.list unevenDays) = .ok (.found summary) ∧
        summary.RatesArePercent) ∧
      ∃ summary, usageSummary { Settings.default with statistic := .latest } (.list unevenDays) =
          .ok (.found summary) ∧ summary.RatesArePercent := by
  have nonempty : unevenDays ≠ [] := by simp [unevenDays]
  have accepted : ∀ raw ∈ unevenDays, (Daily.normalize raw).isOk := by decide
  have coherent : ∀ r ∈ validated unevenDays, r.Coherent := by decide
  exact ⟨nonempty, accepted, coherent,
    usageSummary_ratesArePercent (Settings.default_plain .max) nonempty accepted coherent,
    usageSummary_ratesArePercent (Settings.default_plain .latest) nonempty accepted coherent⟩

end UsageMetrics.Window
