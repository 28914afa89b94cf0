import UsageMetrics.Proofs.Window.Users

namespace UsageMetrics

open UsageMetrics.Daily UsageMetrics.Feed UsageMetrics.Window

/-- A number of ranked entities that makes sense, and dates that are shown as usual. -/
structure Settings.Plain (settings : Settings) : Prop where
  topN : ∃ n : Nat, settings.topN = .integer n
  dateLabel : settings.dateLabel = Settings.default.dateLabel

theorem Settings.default_plain (statistic : Statistic) :
    Settings.Plain { Settings.default with statistic } := ⟨⟨5, rfl⟩, rfl⟩

theorem Settings.Plain.readLimit_ok {settings : Settings} (plain : settings.Plain) :
    ∃ top, readLimit settings.topN = .ok top := by
  obtain ⟨n, given⟩ := plain.topN
  exact ⟨some n, by simp [given, readLimit]⟩

theorem Settings.Plain.dateRange_ok {settings : Settings} (plain : settings.Plain)
    {snapshots : List Snapshot} (nonempty : snapshots ≠ []) :
    ∃ range, dateRange settings.dateLabel snapshots = .ok (some range) := by
  cases snapshots with
  | nil => exact absurd rfl nonempty
  | cons s rest => exact ⟨_, by rw [dateRange, plain.dateLabel]; rfl⟩

theorem usageSummary_list (settings : Settings) (raws : List Value) :
    usageSummary settings (.list raws) = (summarize settings raws).mapError ofSummaryFailure := by
  cases raws <;> rfl

theorem days?_found {settings : Settings} (plain : settings.Plain) {snapshots : List Snapshot}
    (complete : ∀ s ∈ snapshots, s.Complete) (nonempty : snapshots ≠ []) :
    ∃ range s, dateRange settings.dateLabel snapshots = .ok (some range) ∧
      latest? snapshots = some s ∧
      days? settings snapshots = .ok (some
        ⟨aggregateDays settings.statistic snapshots, range, s.figures,
          (snapshots.map Snapshot.figures).mergeSort dayBefore⟩) := by
  obtain ⟨range, dated⟩ := plain.dateRange_ok nonempty
  obtain ⟨s, latest⟩ := exists_latest nonempty
  have aggregate : aggregate? settings.statistic snapshots =
      some (aggregateDays settings.statistic snapshots) := by
    simp [aggregate?, nonempty]
  refine ⟨range, s, dated, latest, ?_⟩
  simp only [days?, aggregate, dated, latestFigures_ok complete latest, series_ok complete]
  rfl

theorem summarizeSnapshots_of_days {settings : Settings} {snapshots : List Snapshot}
    {top : Option Nat} {days : Days} (limit : readLimit settings.topN = .ok top)
    (found : days? settings snapshots = .ok (some days)) (report : Report) :
    summarizeSnapshots settings snapshots report =
      .ok (.found (summarizeDays top days report)) := by
  simp only [summarizeSnapshots, found, limit]
  rfl

theorem summarizeSnapshots_nil (settings : Settings) (report : Report) :
    summarizeSnapshots settings [] report =
      .ok (.noData ⟨.telemetry, report.inputRecords, report.skippedRecords⟩) := rfl

theorem usageSummary_of_days {settings : Settings} {raws : List Value} {top : Option Nat}
    {days : Days} (limit : readLimit settings.topN = .ok top)
    (found : days? settings (normalizeAll raws).1 = .ok (some days)) :
    usageSummary settings (.list raws) =
      .ok (.found (summarizeDays top days (normalizeAll raws).2)) := by
  rw [usageSummary_list, summarize, summarizeSnapshots_of_days limit found]
  rfl

theorem usageSummary_found {settings : Settings} (plain : settings.Plain) {raws : List Value}
    (nonempty : (normalizeAll raws).1 ≠ []) :
    ∃ top range s, latest? (normalizeAll raws).1 = some s ∧
      usageSummary settings (.list raws) = .ok (.found (summarizeDays top
        ⟨aggregateDays settings.statistic (normalizeAll raws).1, range, s.figures,
          ((normalizeAll raws).1.map Snapshot.figures).mergeSort dayBefore⟩
        (normalizeAll raws).2)) := by
  obtain ⟨top, limit⟩ := plain.readLimit_ok
  obtain ⟨range, s, -, latest, found⟩ := days?_found plain (snapshots_complete raws) nonempty
  exact ⟨top, range, s, latest, usageSummary_of_days limit found⟩

end UsageMetrics
