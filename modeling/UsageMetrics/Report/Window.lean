import UsageMetrics.Report.Telemetry
import UsageMetrics.Window.Summary

namespace UsageMetrics.Report

open UsageMetrics.Metric UsageMetrics.Window

namespace Document

def ofNoData (n : NoData) : Document :=
  .object [("feed", .text n.source.label), ("message", .text n.message),
    ("input_records", .integer n.inputRecords), ("skipped_records", .integer n.skippedRecords),
    ("has_data", .bool false)]

def ofOutcome {α : Type} (encode : α → Document) : Outcome α → Document
  | .noData n => ofNoData n
  | .found result => encode result

def ofEntity (e : Entity) : Document :=
  .object (ofPlace e.group e.dimension e.name ++ ofCounts e.counts ++
    [("is_custom_model", .bool e.isCustom), ("days_present", .integer e.daysPresent),
      ("acceptance_rate", .integer e.acceptanceRate),
      ("lines_acceptance_rate", .integer e.linesAcceptanceRate)])

def nestedEntities (m : EntityMap) : Document :=
  .object (m.entries.map fun (group, dimensions) => (group.label,
    .object (dimensions.entries.map fun (dimension, names) => (dimension.label,
      .object (names.entries.map fun (name, entity) => (name, ofEntity entity))))))

def listedEntities (m : EntityMap) : Document :=
  .list (m.entries.flatMap fun (group, dimensions) =>
    dimensions.entries.flatMap fun (dimension, names) =>
      names.entries.map fun (name, entity) =>
        .list [.text group.label, .text dimension.label, .text name, ofEntity entity])

def ofGroupUsers (users : PerGroup Int) : Document :=
  .object (users.toList.map fun (group, n) => (group.label, .integer n))

def totals (a : Aggregate) : List (String × Document) :=
  [("day_count", .integer a.dayCount), ("total_active_users", .integer a.activeUsers),
    ("total_engaged_users", .integer a.engagedUsers),
    ("group_engaged_users", ofGroupUsers a.groupEngagedUsers),
    ("total_suggestions", .integer a.suggestions), ("total_acceptances", .integer a.acceptances),
    ("total_lines_suggested", .integer a.linesSuggested),
    ("total_lines_accepted", .integer a.linesAccepted),
    ("total_ide_chats", .integer a.ideChats), ("total_dotcom_chats", .integer a.dotcomChats),
    ("total_chats", .integer a.chats), ("total_copy_events", .integer a.copyEvents),
    ("total_insertion_events", .integer a.insertionEvents),
    ("total_pr_summaries", .integer a.prSummaries),
    ("overall_acceptance_rate", .integer a.acceptanceRate),
    ("lines_acceptance_rate", .integer a.linesAcceptanceRate)]

def hasData : List (String × Document) := [("has_data", .bool true)]

def ofAggregate (entities : EntityMap → Document) (a : Aggregate) : Document :=
  .object (totals a ++ [("entities", entities a.entities)] ++ hasData)

def ofTotals (a : Aggregate) : Document := .object (totals a ++ hasData)

def ofDateRange (r : DateRange) : Document :=
  .object [("start_date", .text r.first.iso), ("end_date", .text r.last.iso),
    ("start_label", .text r.firstLabel), ("end_label", .text r.lastLabel),
    ("day_count", .integer r.dayCount)]

def ofRanked (r : RankedEntity) : Document :=
  .object ([("rank", .integer r.rank)] ++ ofPlace r.group r.dimension r.name ++
    ofCounts r.counts ++
    [("is_custom_model", .bool r.isCustom), ("acceptance_rate", .integer r.acceptanceRate)])

def ofRanking (rows : List RankedEntity) : Document := .list (rows.map ofRanked)

def ofChatStats (s : ChatStats) : Document :=
  .object [("total_chats", .integer s.chats), ("ide_chats", .integer s.ideChats),
    ("dotcom_chats", .integer s.dotcomChats), ("total_copy_events", .integer s.copyEvents),
    ("total_insertion_events", .integer s.insertionEvents), ("ide_users", .integer s.ideUsers),
    ("dotcom_users", .integer s.dotcomUsers)]

def ofFeatureAdoption (f : FeatureAdoption) : Document :=
  .object [("total_active_users", .integer f.activeUsers),
    ("code_completion_users", .integer f.users.codeCompletions),
    ("ide_chat_users", .integer f.users.ideChat),
    ("dotcom_chat_users", .integer f.users.dotcomChat),
    ("pr_summary_users", .integer f.users.pullRequests),
    ("adoption_rates", .object [("code_completion", .integer f.rates.codeCompletions),
      ("ide_chat", .integer f.rates.ideChat), ("dotcom_chat", .integer f.rates.dotcomChat),
      ("pr_summary", .integer f.rates.pullRequests)])]

def ofPullRequestSummary (p : PullRequestSummary) : Document :=
  .object [("total_engaged_users", .integer p.engagedUsers),
    ("total_pr_summaries", .integer p.summaries),
    ("repository_count", .integer p.repositoryCount),
    ("repository_stats", ofRanking p.repositories)]

def ofSummary (entities : EntityMap → Document) (s : Summary) : Document :=
  .object ([("aggregate", ofAggregate entities s.aggregate),
    ("date_range", ofDateRange s.dateRange), ("latest_day", ofFigures s.latestDay),
    ("daily_series", .list (s.dailySeries.map ofFigures)),
    ("top_languages", ofRanking s.topLanguages), ("editor_stats", ofRanking s.editorStats),
    ("chat_editor_stats", ofRanking s.chatEditorStats),
    ("model_usage", ofRanking s.modelUsage), ("chat_stats", ofChatStats s.chatStats),
    ("feature_adoption", ofFeatureAdoption s.featureAdoption),
    ("pr_summary", ofPullRequestSummary s.pullRequestSummary),
    ("normalization", ofReport s.normalization)] ++ hasData)

end Document

end UsageMetrics.Report
