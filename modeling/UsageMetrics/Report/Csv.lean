import UsageMetrics.Number.Decimal.Text
import UsageMetrics.Phase
import UsageMetrics.Report.Telemetry
import UsageMetrics.Text.Quoted

namespace UsageMetrics.Report

open UsageMetrics.Number UsageMetrics.Text UsageMetrics.Daily UsageMetrics.Window
open UsageMetrics.Billing

inductive Table.Cell where
  | text (value : String)
  | count (value : Int)
  deriving DecidableEq, Repr

namespace Table.Cell

def render : Cell → String
  | text value => value
  | count value => toString value

def isLong : Cell → Bool
  | text _ => false
  | count value => Number.isLong value

end Table.Cell

structure Table where
  columns : List String
  rows : List (List Table.Cell)
  deriving DecidableEq, Repr

namespace Table

def needsMarks (cs : List Char) : Bool :=
  cs.any fun c => c = ',' || c = '\n' || c = Quoted.quotationMark

def double (c : Char) : List Char := if c = Quoted.quotationMark then [c, c] else [c]

def field (s : String) : List Char :=
  if needsMarks s.toList then
    [Quoted.quotationMark] ++ s.toList.flatMap double ++ [Quoted.quotationMark]
  else s.toList

def line (fields : List String) : List Char :=
  (List.intercalate [','] (fields.map field)) ++ ['\n']

def csv (t : Table) : String :=
  String.ofList ((t.columns :: t.rows.map fun row => row.map Cell.render).flatMap line)

def hasLongNumeral (t : Table) : Bool := t.rows.any fun row => row.any Cell.isLong

end Table

def seriesColumns : List String :=
  ["date", "active_users", "engaged_users", "code_completion_users", "ide_chat_users",
    "dotcom_chat_users", "pr_summary_users", "suggestions", "acceptances", "lines_suggested",
    "lines_accepted", "acceptance_rate", "lines_acceptance_rate", "ide_chats", "dotcom_chats",
    "total_chats", "copy_events", "insertion_events", "pr_summaries"]

def seriesRow (f : Figures) : List Table.Cell :=
  .text f.day.iso :: (figureColumns f).map fun (_, n) => .count n

def seriesTable (s : Summary) : Table := ⟨seriesColumns, s.dailySeries.map seriesRow⟩

def rankingColumns : List String :=
  ["rank", "group", "dimension", "name", "engaged_users", "suggestions", "acceptances",
    "acceptance_rate", "chats", "pr_summaries"]

def rankingRow (r : RankedEntity) : List Table.Cell :=
  [.count r.rank, .text r.group.label, .text r.dimension.label, .text r.name,
    .count r.counts.engagedUsers, .count r.counts.suggestions, .count r.counts.acceptances,
    .count r.acceptanceRate, .count r.counts.chats, .count r.counts.prSummaries]

def rankingTable (s : Summary) : Table :=
  ⟨rankingColumns,
    (s.topLanguages ++ s.editorStats ++ s.chatEditorStats ++ s.modelUsage).map rankingRow⟩

def costColumns : List String :=
  ["model", "requests", "included_requests", "billed_requests", "gross_amount",
    "discount_amount", "net_amount", "item_count"]

def costRow (m : ModelCost) : List Table.Cell :=
  let amount (d : Decimal) : Table.Cell := .text d.render
  [.text m.model, amount m.costs.amounts.requests, amount m.costs.amounts.includedRequests,
    amount m.costs.billedRequests, amount m.costs.amounts.gross, amount m.costs.amounts.discount,
    amount m.costs.net, .count m.itemCount]

def costTable (p : PremiumMetrics) : Table := ⟨costColumns, p.breakdown.map costRow⟩

structure Target where
  directory : String
  name : String
  exists? : Bool
  deriving DecidableEq, Repr

def Target.path (t : Target) : String := t.directory ++ "/" ++ t.name

def contentsOf {α : Type} (member : String) : Outcome α → Except Failure α
  | .found result => .ok result
  | .noData _ => .error (.lacksMember "NoDataResult" member)

def tableAt (target : Target) (table : Except Failure Table) : Except Failure Table := do
  let t ← table
  if !target.exists? then throw (.unknownDirectory target.directory)
  if t.hasLongNumeral then throw .longNumeral
  return t

inductive TableKind where
  | series
  | rankings
  | costs
  deriving DecidableEq, Repr

def TableKind.phase : TableKind → Phase
  | series => .seriesExport
  | rankings => .rankingsExport
  | costs => .costsExport

def seriesOf (summary : Outcome Summary) : Except Failure Table :=
  (contentsOf "daily_series" summary).map seriesTable

def rankingsOf (summary : Outcome Summary) : Except Failure Table :=
  (contentsOf "top_languages" summary).map rankingTable

def costsOf (premium : Outcome PremiumMetrics) : Except Failure Table :=
  (contentsOf "model_breakdown" premium).map costTable

def exportTable (kind : TableKind) (target : Target) (table : Except Failure Table) :
    Except Failure Table :=
  kind.phase.run (tableAt target table)

end UsageMetrics.Report
