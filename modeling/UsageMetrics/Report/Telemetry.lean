import UsageMetrics.Daily.Breakdown
import UsageMetrics.Daily.Figures
import UsageMetrics.Feed.Record
import UsageMetrics.Report.Document
import UsageMetrics.Window.Intake

namespace UsageMetrics.Report

open UsageMetrics.Metric UsageMetrics.Feed UsageMetrics.Daily UsageMetrics.Window

namespace Document

mutual

def ofField : Field → Document
  | .text value => ofOption .text value
  | .count value => .integer value
  | .flag value => .bool value
  | .one record => ofRecord record
  | .many records => .list (ofRecords records)

/-- The repaired fields of a record stand after its fields. -/
def ofRecord : Record → Document
  | .mk repaired fields => .object (ofFields fields ++ [("repaired_fields", texts repaired)])

def ofRecords : List Record → List Document
  | [] => []
  | record :: rest => ofRecord record :: ofRecords rest

def ofFields : List (String × Field) → List (String × Document)
  | [] => []
  | field :: rest => ofNamed field :: ofFields rest

def ofNamed : String × Field → String × Document
  | (name, field) => (name, ofField field)

end

def ofCounts (c : Counts) : List (String × Document) :=
  Counter.all.map fun counter => (counter.label, .integer (c.get counter))

def ofPlace (group : MetricGroup) (dimension : Dimension) (name : String) :
    List (String × Document) :=
  [("group", .text group.label), ("dimension", .text dimension.label), ("name", .text name)]

def ofEntityCounts (e : EntityCounts) : Document :=
  .object (ofPlace e.group e.dimension e.name ++ ofCounts e.counts ++
    [("is_custom_model", .bool e.isCustom)])

def ofGroupSnapshot (s : GroupSnapshot) : Document :=
  .object [("group", .text s.group.label), ("total_engaged_users", .integer s.engagedUsers),
    ("entities", .list (s.entities.map ofEntityCounts))]

def ofSnapshot (s : Snapshot) : Document :=
  .object [("date", .text s.day.iso), ("total_active_users", .integer s.activeUsers),
    ("total_engaged_users", .integer s.engagedUsers),
    ("groups", .list (s.groups.map fun (group, snapshot) =>
      .list [.text group.label, ofGroupSnapshot snapshot]))]

def ofWarning (w : Warning) : Document :=
  .object [("group", .text w.group), ("dimension", ofOption .text w.dimension),
    ("day", ofOption .text w.day), ("name", ofOption .text w.name),
    ("repaired_fields", texts w.repaired), ("message", .text w.message)]

def ofReport (r : Report) : Document :=
  .object [("input_records", .integer r.inputRecords),
    ("skipped_records", .integer r.skippedRecords),
    ("dropped_entities", .integer r.droppedEntities),
    ("skipped_reasons", texts r.skippedReasons)]

end Document

def figureColumns (f : Figures) : List (String × Int) :=
  [("active_users", f.activeUsers), ("engaged_users", f.engagedUsers),
    ("code_completion_users", f.completionUsers), ("ide_chat_users", f.ideChatUsers),
    ("dotcom_chat_users", f.dotcomChatUsers), ("pr_summary_users", f.prSummaryUsers),
    ("suggestions", f.suggestions), ("acceptances", f.acceptances),
    ("lines_suggested", f.linesSuggested), ("lines_accepted", f.linesAccepted),
    ("acceptance_rate", f.acceptanceRate), ("lines_acceptance_rate", f.linesAcceptanceRate),
    ("ide_chats", f.ideChats), ("dotcom_chats", f.dotcomChats), ("total_chats", f.chats),
    ("copy_events", f.copyEvents), ("insertion_events", f.insertionEvents),
    ("pr_summaries", f.prSummaries)]

def Document.ofFigures (f : Figures) : Document :=
  .object (("date", .text f.day.iso) ::
    (figureColumns f).map fun (column, n) => (column, .integer n))

end UsageMetrics.Report
