import UsageMetrics.Journal.Entry
import UsageMetrics.Report.Workbook

namespace UsageMetrics.Journal

open UsageMetrics.Report UsageMetrics.Window UsageMetrics.Billing

def rowText : TableKind → String
  | .series => " days to "
  | .rankings => " ranked rows to "
  | .costs => " premium model rows to "

def ofTable (kind : TableKind) (target : Target) (table : Except Failure Table) : List Entry :=
  let result := tableAt target table
  let work : List Entry := match result with
    | .ok t =>
      [⟨"export_metrics", .info,
        "[EXPORT_CSV] Exported " ++ counted [(t.rows.length, rowText kind)] ++ target.path⟩]
    | .error _ => []
  phase kind.phase result work

def workbookEntry (level : Level) (message : String) : Entry :=
  ⟨"export_metrics_summary", level, "[EXPORT_EXCEL] " ++ message⟩

def reachesCosts (summary : Outcome Summary) : Bool :=
  match Workbook.sheets summary none with
  | .ok _ => true
  | .error _ => false

def ofWorkbook (target : Target) (summary : Outcome Summary)
    (premium? : Option (Outcome PremiumMetrics)) : List Entry :=
  let result := Workbook.build target summary premium?
  let skipped :=
    if premium?.isNone && reachesCosts summary then
      [workbookEntry .warning "No premium metrics provided, skipping 'Premium Requests' sheet"]
    else []
  let saved := match result with
    | .ok _ => [workbookEntry .info ("Successfully exported summary to " ++ target.path)]
    | .error _ => []
  phase .workbookExport result
    (workbookEntry .info ("Exporting usage summary to " ++ target.path) :: skipped ++ saved)

end UsageMetrics.Journal
