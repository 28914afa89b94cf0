import UsageMetrics.Proofs.Window.Rates

namespace UsageMetrics.Daily

open UsageMetrics.Calendar UsageMetrics.Metric UsageMetrics.Feed UsageMetrics.Number

def Snapshot.LanguagesBounded (s : Snapshot) : Prop :=
  ∀ listed ∈ s.groups, listed.1 = .codeCompletions →
    ∀ e ∈ listed.2.entities, e.dimension = .language →
      e.counts.acceptances ≤ e.counts.suggestions ∧ e.counts.linesAccepted ≤ e.counts.linesSuggested

instance (s : Snapshot) : Decidable s.LanguagesBounded :=
  inferInstanceAs (Decidable (∀ listed ∈ s.groups, _))

theorem normalizeOn_eventsNonneg (day : Day) (r : DailyRecord) :
    ∀ listed ∈ (normalizeOn day r).1.groups, ∀ e ∈ listed.2.entities, e.counts.EventsNonneg := by
  intro listed member
  obtain ⟨_, inGroups, rfl⟩ := List.mem_map.mp member
  obtain ⟨group, -, rfl⟩ := List.mem_map.mp inGroups
  exact normalizeGroup_keeps Bucket.eventsNonneg_kept day.iso

theorem Snapshot.LanguagesBounded.coherent {s : Snapshot} (bounded : s.LanguagesBounded)
    (nonneg : ∀ listed ∈ s.groups, ∀ e ∈ listed.2.entities, e.counts.EventsNonneg)
    {listed : GroupSnapshot} (inDay : (.codeCompletions, listed) ∈ s.groups) :
    ∀ e ∈ listed.entities, e.dimension = .language → e.counts.Coherent := by
  intro e member language offer
  refine ⟨nonneg _ inDay e member offer.accepted offer.accepted_event, ?_⟩
  obtain ⟨suggestions, lines⟩ := bounded _ inDay rfl e member language
  cases offer with
  | suggestions => exact suggestions
  | lines => exact lines

def Figures.made (row : Figures) : Offer → Int
  | .suggestions => row.suggestions
  | .lines => row.linesSuggested

def Figures.accepted (row : Figures) : Offer → Int
  | .suggestions => row.acceptances
  | .lines => row.linesAccepted

def Figures.rate (row : Figures) : Offer → Int
  | .suggestions => row.acceptanceRate
  | .lines => row.linesAcceptanceRate

section Figures

variable (s : Snapshot) (offer : Offer)

theorem figures_made : s.figures.made offer =
    ((s.listed .codeCompletions).primarySum .codeCompletions).get offer.made := by
  cases offer <;> rfl

theorem figures_accepted : s.figures.accepted offer =
    ((s.listed .codeCompletions).primarySum .codeCompletions).get offer.accepted := by
  cases offer <;> rfl

theorem figures_rate :
    percentage (s.figures.accepted offer) (s.figures.made offer) = s.figures.rate offer := by
  cases offer <;> rfl

end Figures

end UsageMetrics.Daily

namespace UsageMetrics.Window

open UsageMetrics.Calendar UsageMetrics.Daily UsageMetrics.Feed UsageMetrics.Metric
  UsageMetrics.Number

def Aggregate.made (a : Aggregate) : Offer → Int
  | .suggestions => a.suggestions
  | .lines => a.linesSuggested

def Aggregate.accepted (a : Aggregate) : Offer → Int
  | .suggestions => a.acceptances
  | .lines => a.linesAccepted

def Aggregate.rate (a : Aggregate) : Offer → Int
  | .suggestions => a.acceptanceRate
  | .lines => a.linesAcceptanceRate

def Entity.rate (e : Entity) : Offer → Int
  | .suggestions => e.acceptanceRate
  | .lines => e.linesAcceptanceRate

/-- The rate of a window is a mean of those of its days, and of those of its languages. -/
structure Aggregate.IsMean (a : Aggregate) (rows : List Figures) (offer : Offer) : Prop where
  days : Between (a.rate offer)
    ((rows.filter fun row => 0 < row.made offer).map fun row => row.rate offer)
  languages : Between (a.rate offer)
    (((a.slice .codeCompletions .language).filter fun e => 0 < e.counts.get offer.made).map fun e =>
      e.rate offer)

theorem Entity.SumsUp.coherent {e : Entity} {key : WindowKey} {listed : List EntityCounts}
    (sumsUp : e.SumsUp key listed) (each : ∀ o ∈ listed, o.counts.Coherent) :
    e.counts.Coherent := by
  have sums (counter : Counter) : e.counts.get counter =
      ((listed.map EntityCounts.counts).map fun d => d.get counter).sum := by
    rw [sumsUp.counts, List.map_map]
    rfl
  exact Counts.coherent_of_sum sums (List.forall_mem_map.mpr each)

section Parts

variable {snapshots : List Snapshot} (statistic : Statistic)

theorem made_total (offer : Offer) : (offer.made, (aggregateDays statistic snapshots).made offer) ∈
    (aggregateDays statistic snapshots).eventTotals .codeCompletions := by
  cases offer with
  | suggestions => exact .head _
  | lines => exact .tail _ (.tail _ (.head _))

theorem accepted_total (offer : Offer) :
    (offer.accepted, (aggregateDays statistic snapshots).accepted offer) ∈
      (aggregateDays statistic snapshots).eventTotals .codeCompletions := by
  cases offer with
  | suggestions => exact .tail _ (.head _)
  | lines => exact .tail _ (.tail _ (.tail _ (.head _)))

theorem rate_aggregateDays (offer : Offer) : (aggregateDays statistic snapshots).rate offer =
    percentage ((aggregateDays statistic snapshots).accepted offer)
      ((aggregateDays statistic snapshots).made offer) := by
  cases offer <;> rfl

theorem days_mean (complete : ∀ s ∈ snapshots, s.Complete)
    (coherent : ∀ s ∈ snapshots, ∀ e ∈ (s.listed .codeCompletions).entities,
      e.dimension = .language → e.counts.Coherent) {offer : Offer}
    (positive : 0 < (aggregateDays statistic snapshots).made offer) :
    Between ((aggregateDays statistic snapshots).rate offer)
      ((((snapshots.map Snapshot.figures).mergeSort dayBefore).filter fun row =>
        0 < row.made offer).map fun row => row.rate offer) := by
  have made : (((snapshots.map Snapshot.figures).mergeSort dayBefore).map fun row =>
      row.made offer).sum = (aggregateDays statistic snapshots).made offer :=
    sum_column statistic complete .codeCompletions offer.made (made_total statistic offer)
      fun s => figures_made s offer
  have accepted : (((snapshots.map Snapshot.figures).mergeSort dayBefore).map fun row =>
      row.accepted offer).sum = (aggregateDays statistic snapshots).accepted offer :=
    sum_column statistic complete .codeCompletions offer.accepted (accepted_total statistic offer)
      fun s => figures_accepted s offer
  rw [rate_aggregateDays, ← accepted, ← made]
  rw [← made] at positive
  have rows {row : Figures} (member : row ∈ (snapshots.map Snapshot.figures).mergeSort dayBefore) :
      ∃ s ∈ snapshots, s.figures = row := List.mem_map.mp (List.mem_mergeSort.mp member)
  refine percentage_sum_between (fun row member => ?_) (fun row member => ?_) positive
  · obtain ⟨s, inWindow, rfl⟩ := rows member
    rw [figures_made, figures_accepted]
    exact primarySum_coherent (coherent s inWindow) offer
  · obtain ⟨s, -, rfl⟩ := rows member
    exact figures_rate s offer

theorem languages_mean (coherent : ∀ o ∈ listedUnder .codeCompletions snapshots,
      o.dimension = .language → o.counts.Coherent) {offer : Offer}
    (positive : 0 < (aggregateDays statistic snapshots).made offer) :
    Between ((aggregateDays statistic snapshots).rate offer)
      ((((aggregateDays statistic snapshots).slice .codeCompletions .language).filter fun e =>
        0 < e.counts.get offer.made).map fun e => e.rate offer) := by
  have made := Aggregate.eventTotals_primary statistic snapshots .codeCompletions
    (made_total statistic offer)
  have accepted := Aggregate.eventTotals_primary statistic snapshots .codeCompletions
    (accepted_total statistic offer)
  dsimp only at made accepted
  rw [rate_aggregateDays, accepted, made]
  rw [made] at positive
  have sums {e : Entity}
      (member : e ∈ (aggregateDays statistic snapshots).slice .codeCompletions .language) :
      ∃ name, e.SumsUp (.codeCompletions, .language, name)
        (listedAs (.codeCompletions, .language, name) snapshots) := by
    obtain ⟨name, holds⟩ := Aggregate.holds_of_mem_slice member
    exact ⟨name, aggregateDays_sums statistic snapshots holds⟩
  -- Both totals are sums over the languages now, so their rate is a mean.
  refine percentage_sum_between (fun e member => ?_) (fun e member => ?_) positive
  · obtain ⟨name, sumsUp⟩ := sums member
    refine sumsUp.coherent (fun o listed => ?_) offer
    simp only [listedAs, List.mem_filter, Bool.and_eq_true, beq_iff_eq] at listed
    exact coherent o listed.1 listed.2.1
  · obtain ⟨name, sumsUp⟩ := sums member
    cases offer with
    | suggestions => exact sumsUp.acceptanceRate.symm
    | lines => exact sumsUp.linesAcceptanceRate.symm

end Parts

theorem languages_coherent {raws : List Value}
    (bounded : ∀ s ∈ (normalizeAll raws).1, s.LanguagesBounded) {s : Snapshot}
    (inWindow : s ∈ (normalizeAll raws).1) {listed : GroupSnapshot}
    (inDay : (.codeCompletions, listed) ∈ s.groups) :
    ∀ e ∈ listed.entities, e.dimension = .language → e.counts.Coherent := by
  refine (bounded s inWindow).coherent ?_ inDay
  obtain ⟨day, r, -, rfl⟩ := exists_normalizeOn inWindow
  exact normalizeOn_eventsNonneg day r

/-- As long as no language accepts more than it was offered, both rates of a window are means, by
days as well as by languages. -/
theorem window_ratesAreMeans (settings : Settings) {raws : List Value}
    (nonempty : (normalizeAll raws).1 ≠ [])
    (bounded : ∀ s ∈ (normalizeAll raws).1, s.LanguagesBounded) :
    ∃ a rows, aggregateWindow settings (normalizeAll raws).1 = .found a ∧
      series (normalizeAll raws).1 = .ok rows ∧
      ∀ offer, 0 < a.made offer → a.IsMean rows offer := by
  have complete := snapshots_complete raws
  refine ⟨_, _, aggregateWindow_found settings nonempty, series_ok complete,
    fun offer positive => ⟨?_, ?_⟩⟩
  · exact days_mean settings.statistic complete (fun s inWindow =>
      languages_coherent bounded inWindow ((complete s inWindow).listed_mem _)) positive
  · refine languages_mean settings.statistic (fun o listed => ?_) positive
    obtain ⟨s, inWindow, snapshot, inDay, member⟩ := mem_listedUnder.mp listed
    exact languages_coherent bounded inWindow inDay o member

def sparseDays : List Value :=
  let language (name : String) (offered accepted : Int) : Value := .object
    [("name", .text name), ("total_code_suggestions", .integer offered),
      ("total_code_acceptances", .integer accepted),
      ("total_code_lines_suggested", .integer (3 * offered)),
      ("total_code_lines_accepted", .integer accepted)]
  let record (date : String) (languages : List Value) : Value := .object
    [("date", .text date), ("copilot_ide_code_completions", .object
      [("editors", .list [.object [("name", .text "vim"), ("models", .list [.object
        [("name", .text "m"), ("languages", .list languages)]])]])])]
  [record "2025-01-03" [language "go" 10 1, language "c" 0 0], record "2025-01-01" [],
    record "2025-01-02" [language "c" 30 20, language "go" 7 7]]

theorem sparseDays_ratesAreMeans :
    (normalizeAll sparseDays).1 ≠ [] ∧
      (∀ s ∈ (normalizeAll sparseDays).1, s.LanguagesBounded) ∧
      ∃ a rows, aggregateWindow .default (normalizeAll sparseDays).1 = .found a ∧
        series (normalizeAll sparseDays).1 = .ok rows ∧
        ∀ offer, 0 < a.made offer → a.IsMean rows offer := by
  have nonempty : (normalizeAll sparseDays).1 ≠ [] := by decide
  have bounded : ∀ s ∈ (normalizeAll sparseDays).1, s.LanguagesBounded := by decide
  exact ⟨nonempty, bounded, window_ratesAreMeans .default nonempty bounded⟩

end UsageMetrics.Window
