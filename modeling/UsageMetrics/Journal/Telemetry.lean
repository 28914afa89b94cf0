import UsageMetrics.Journal.Entry
import UsageMetrics.Requests

namespace UsageMetrics.Journal

open UsageMetrics.Feed UsageMetrics.Daily UsageMetrics.Window UsageMetrics.Metric

def ofWarning (w : Warning) : Entry := ⟨"normalizer", .warning, "[NORMALIZE] " ++ w.message⟩

/-- Totals of the whole day that were reset are told, but give no warning. -/
def ofRepairs (r : DailyRecord) (day : String) : List Entry :=
  if r.repaired.isEmpty then []
  else
    [⟨"normalizer", .warning,
      "[NORMALIZE] Reset invalid " ++ ", ".intercalate r.repaired ++ " of snapshot on " ++ day⟩]

def ofRecord (raw : Value) : List Entry :=
  match readDaily raw, Daily.normalize raw with
  | .ok record, .ok (snapshot, warnings) =>
    ofRepairs record.daily snapshot.day.iso ++ warnings.map ofWarning
  | _, _ => []

def ofIndexed (raw : Value) (index : Nat) : List Entry :=
  match Daily.normalize raw with
  | .ok _ => ofRecord raw
  | .error refusal =>
    [⟨"normalizer", .warning,
      "[NORMALIZE] Skipping snapshot at index " ++ toString index ++ ": " ++ refusal.message⟩]

def ofReport (snapshots : Nat) (r : Report) : List Entry :=
  let losses : List Entry :=
    if r.skippedRecords = 0 ∧ r.droppedEntities = 0 then []
    else
      [⟨"normalizer", .warning,
        "[NORMALIZE] " ++ counted [(r.skippedRecords, " of "),
          (r.inputRecords, " snapshots skipped, "),
          (r.droppedEntities, " malformed entries dropped or repaired")]⟩]
  losses ++
    [⟨"normalizer", .info, "[NORMALIZE] Normalized " ++ counted [(snapshots, " snapshots")]⟩]

def ofWindow (raws : List Value) : List Entry :=
  let (snapshots, report) := normalizeAll raws
  raws.zipIdx.flatMap (fun (raw, index) => ofIndexed raw index) ++
    ofReport snapshots.length report

/-- A value that has no elements fails before anything is told. -/
def ofRecords (raws : Value) : List Entry :=
  match raws.elements? with
  | some records => ofWindow records
  | none => []

def aggregateWork (snapshots : List Snapshot) : List Entry :=
  if snapshots.isEmpty then
    [⟨"aggregator", .warning, "[AGGREGATE] Empty telemetry window, no data to aggregate"⟩]
  else
    let days := (distinctDays snapshots).length
    let repeated : List Entry :=
      if snapshots.length = days then []
      else
        [⟨"aggregator", .warning,
          "[AGGREGATE] Window holds " ++ counted [(snapshots.length, " snapshots for "),
            (days, " distinct days")]⟩]
    repeated ++
      [⟨"aggregator", .info,
        "[AGGREGATE] Aggregated " ++ counted [(days, " days into "),
          ((tally (occurrences snapshots)).size, " entities")]⟩]

def ofAggregate (snapshots : List Snapshot) : List Entry :=
  phase .aggregate (Except.ok ()) (aggregateWork snapshots)

def ofForeign (v : Value) : List Entry :=
  let work := match foreignTotals v with
    | .ok _ => aggregateWork []
    | .error _ => []
  phase .aggregate (foreignTotals v) work

def ofRanking (entities : List Entity) (top : Option Nat) : List Entry :=
  [⟨"rankings", .debug,
    "[RANK] Kept " ++ counted [((rank entities top).length, " of "),
      (entities.length, " entities")]⟩]

def ofModelUsage (a : Aggregate) (top : Option Nat) : List Entry :=
  MetricGroup.all.flatMap fun group => ofRanking (a.slice group .model) top

def ofSeries (snapshots : List Snapshot) : List Entry :=
  match series snapshots with
  | .ok rows =>
    [⟨"daily_metrics", .debug,
      "[DAILY] Built daily series with " ++ counted [(rows.length, " days")]⟩]
  | .error _ => []

def ofDateRange (snapshots : List Snapshot) : List Entry :=
  if snapshots.isEmpty then [⟨"date_range", .debug, "[DATE_RANGE] Empty window, no date range"⟩]
  else []

def ofResult (s : Summary) : Entry :=
  ⟨"metrics_service", .info,
    "[SUMMARY] Usage summary for " ++ s.dateRange.firstLabel ++ " to " ++ s.dateRange.lastLabel ++
      ": " ++ counted [(s.dateRange.dayCount, " days, "),
        (s.normalization.skippedRecords, " skipped snapshots")]⟩

def summaryRankings (top : Option Nat) (a : Aggregate) : List Entry :=
  ofRanking (a.slice .codeCompletions .language) top ++
    ofRanking (a.slice .codeCompletions .editor) none ++
    ofRanking (a.slice .ideChat .editor) none ++ ofModelUsage a none ++
    ofRanking (a.slice .pullRequests .repository) repositoryLimit

def summaryWork (settings : Settings) (raws : List Value) : List Entry :=
  let snapshots := (normalizeAll raws).1
  match aggregate? settings.statistic snapshots, readPattern settings.dateLabel with
  | some a, .ok _ =>
    ofSeries snapshots ++
      match readLimit settings.topN, summarize settings raws with
      | .ok top, .ok (.found summary) => summaryRankings top a ++ [ofResult summary]
      | _, _ => []
  | _, _ => []

def ofSummary (settings : Settings) (raws : Value) : List Entry :=
  match if raws.isHollow then some [] else raws.elements? with
  | none => []
  | some records =>
    ofWindow records ++ ofAggregate (normalizeAll records).1 ++ summaryWork settings records

end UsageMetrics.Journal
