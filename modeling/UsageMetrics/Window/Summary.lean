import UsageMetrics.Outcome
import UsageMetrics.Window.DateRange
import UsageMetrics.Window.Intake
import UsageMetrics.Window.Series
import UsageMetrics.Window.Views

namespace UsageMetrics.Window

open UsageMetrics.Daily UsageMetrics.Feed

structure Summary where
  aggregate : Aggregate
  dateRange : DateRange
  latestDay : Figures
  dailySeries : List Figures
  topLanguages : List RankedEntity
  editorStats : List RankedEntity
  chatEditorStats : List RankedEntity
  modelUsage : List RankedEntity
  chatStats : ChatStats
  featureAdoption : FeatureAdoption
  pullRequestSummary : PullRequestSummary
  normalization : Report

inductive SummaryFailure where
  | label (f : LabelFault)
  | missingGroup (m : MissingGroup)
  | limit (f : LimitFault)
  deriving DecidableEq, Repr

structure Days where
  aggregate : Aggregate
  dateRange : DateRange
  latestDay : Figures
  dailySeries : List Figures

def days? (settings : Settings) (snapshots : List Snapshot) :
    Except SummaryFailure (Option Days) := do
  match aggregate? settings.statistic snapshots,
    ← (dateRange settings.dateLabel snapshots).mapError .label,
    ← (latestFigures snapshots).mapError .missingGroup with
  | some aggregate, some range, some latestDay =>
    return some ⟨aggregate, range, latestDay, ← (series snapshots).mapError .missingGroup⟩
  | _, _, _ => return none

def summarizeDays (top : Option Nat) (d : Days) (normalization : Report) : Summary where
  aggregate := d.aggregate
  dateRange := d.dateRange
  latestDay := d.latestDay
  dailySeries := d.dailySeries
  topLanguages := d.aggregate.topLanguages top
  editorStats := d.aggregate.editorStats none
  chatEditorStats := d.aggregate.chatEditorStats none
  modelUsage := d.aggregate.modelUsage none
  chatStats := d.aggregate.chatStats
  featureAdoption := d.aggregate.featureAdoption
  pullRequestSummary := d.aggregate.pullRequestSummary repositoryLimit
  normalization

def summarizeSnapshots (settings : Settings) (snapshots : List Snapshot) (report : Report) :
    Except SummaryFailure (Outcome Summary) := do
  match ← days? settings snapshots with
  | none => return .noData ⟨.telemetry, report.inputRecords, report.skippedRecords⟩
  | some days =>
    let top ← (readLimit settings.topN).mapError .limit
    return .found (summarizeDays top days report)

def summarize (settings : Settings) (raws : List Value) :
    Except SummaryFailure (Outcome Summary) :=
  let window := normalizeAll raws
  summarizeSnapshots settings window.1 window.2

end UsageMetrics.Window
