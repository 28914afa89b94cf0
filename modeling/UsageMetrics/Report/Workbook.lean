import UsageMetrics.Report.Csv

namespace UsageMetrics.Report

open UsageMetrics.Number UsageMetrics.Window UsageMetrics.Billing

namespace Workbook

inductive Content where
  | text (value : String)
  | formula (value : String)
  | errorLiteral (value : String)
  | number (value : Binary64)
  | oversized
  deriving DecidableEq, Repr

def longestText : Nat := 32767

def errorLiterals : List String :=
  ["#NULL!", "#DIV/0!", "#VALUE!", "#REF!", "#NAME?", "#NUM!", "#N/A"]

def isForbidden (c : Char) : Bool := c.toNat < 32 && c ≠ '\t' && c ≠ '\n' && c ≠ '\r'

def contentOfText (s : String) : Except Failure Content :=
  let cs := s.toList.take longestText
  let value := String.ofList cs
  if cs.any isForbidden then .error (.unprintable value)
  else if 1 < cs.length ∧ cs.head? = some '=' then .ok (.formula value)
  else if errorLiterals.contains value then .ok (.errorLiteral value)
  else .ok (.text value)

def contentOfInt (n : Int) : Content :=
  match Binary64.ofInt n with
  | .finite negative significand exponent => .number (.finite negative significand exponent)
  | _ => .oversized

structure Style where
  format : String
  bold : Bool
  size : Option Nat
  fill : Option String
  align : Option String
  deriving DecidableEq, Repr

def plain : Style := ⟨"General", false, some 11, none, none⟩

def heading : Style :=
  { plain with bold := true, size := some 12, fill := some "00366092", align := some "center" }

def title : Style := { plain with bold := true, size := some 13, fill := some "00D9E1F2" }

def figure : Style := { plain with align := some "right" }

def amount : Style := { plain with format := "0.00" }

/-- A bold font of which nothing else is said has no size. -/
def strong (s : Style) : Style := { s with bold := true, size := none }

structure Cell where
  row : Nat
  /-- Columns are counted from 1. -/
  column : Nat
  content : Content
  style : Style
  deriving DecidableEq, Repr

def columnName (column : Nat) : String := String.singleton (Char.ofNat (64 + column))

def Cell.place (c : Cell) : String := columnName c.column ++ toString c.row

structure Sheet where
  title : String
  merged : List String
  widths : List (String × Nat)
  cells : List Cell
  deriving DecidableEq, Repr

def textCell (row column : Nat) (s : String) (style : Style) : Except Failure Cell :=
  (contentOfText s).map fun content => ⟨row, column, content, style⟩

def intCell (row column : Nat) (n : Int) (style : Style) : Cell :=
  ⟨row, column, contentOfInt n, style⟩

def amountCell (row column : Nat) (d : Decimal) (style : Style) : Cell :=
  ⟨row, column, .number (.ofDecimal d), style⟩

def headings (row : Nat) (labels : List String) : List Cell :=
  labels.zipIdx.map fun (label, index) => ⟨row, index + 1, .text label, heading⟩

def keyFigures (s : Summary) : List (String × Int) :=
  [("Days", s.dateRange.dayCount), ("Active users", s.aggregate.activeUsers),
    ("Engaged users", s.aggregate.engagedUsers), ("Total suggestions", s.aggregate.suggestions),
    ("Accepted suggestions", s.aggregate.acceptances),
    ("Acceptance rate (%)", s.aggregate.acceptanceRate),
    ("Lines suggested", s.aggregate.linesSuggested),
    ("Lines accepted", s.aggregate.linesAccepted),
    ("Lines acceptance rate (%)", s.aggregate.linesAcceptanceRate),
    ("Total chats", s.aggregate.chats), ("PR summaries", s.aggregate.prSummaries)]

def usageSheet (s : Summary) : Except Failure Sheet := do
  let top ← textCell 1 1
    ("Copilot usage " ++ s.dateRange.firstLabel ++ " - " ++ s.dateRange.lastLabel) title
  let figures := (keyFigures s).zipIdx.flatMap fun ((label, n), index) =>
    [⟨index + 3, 1, .text label, plain⟩, intCell (index + 3) 2 n figure]
  return {
    title := "Usage Summary"
    merged := ["A1:B1"]
    widths := [("A", 35), ("B", 20)]
    cells := [top] ++ headings 2 ["METRIC", "VALUE"] ++ figures }

def languageRow (row : Nat) (r : RankedEntity) : Except Failure (List Cell) := do
  return [intCell row 1 r.rank plain, ← textCell row 2 r.name plain,
    intCell row 3 r.counts.engagedUsers plain, intCell row 4 r.acceptanceRate plain,
    intCell row 5 r.counts.acceptances plain, intCell row 6 r.counts.suggestions plain]

def languageSheet (s : Summary) : Except Failure Sheet := do
  let rows ← s.topLanguages.zipIdx.mapM fun (r, index) => languageRow (index + 2) r
  return {
    title := "Top Languages"
    merged := []
    widths := [("B", 25)]
    cells := headings 1 ["Rank", "Language", "Users", "Acceptance rate (%)", "Accepted",
      "Suggested"] ++ rows.flatten }

def costCells (row : Nat) (c : Costs) (style : Style) : List Cell :=
  [amountCell row 2 c.amounts.requests plain, amountCell row 3 c.amounts.gross style,
    amountCell row 4 c.amounts.discount style, amountCell row 5 c.net style]

def modelRow (row : Nat) (m : ModelCost) : Except Failure (List Cell) := do
  return (← textCell row 1 m.model plain) :: costCells row m.costs amount

def premiumSheet (p : PremiumMetrics) : Except Failure Sheet := do
  let rows ← p.breakdown.zipIdx.mapM fun (m, index) => modelRow (index + 2) m
  let last := p.breakdown.length + 2
  let total ← textCell last 1 ("Total (" ++ p.currency ++ ")") (strong plain)
  return {
    title := "Premium Requests"
    merged := []
    widths := [("A", 30)]
    cells := headings 1 ["Model", "Requests", "Gross", "Discount", "Net"] ++ rows.flatten ++
      total :: costCells last p.total (strong amount) }

def sheets (summary : Outcome Summary) (premium? : Option (Outcome PremiumMetrics)) :
    Except Failure (List Sheet) := do
  let s ← contentsOf "aggregate" summary
  let usage ← usageSheet s
  let languages ← languageSheet s
  match premium? with
  | none => return [usage, languages]
  | some premium =>
    return [usage, languages, ← premiumSheet (← contentsOf "model_breakdown" premium)]

def isOversized (s : Sheet) : Bool := s.cells.any fun c => c.content = .oversized

def build (target : Target) (summary : Outcome Summary)
    (premium? : Option (Outcome PremiumMetrics)) : Except Failure (List Sheet) := do
  let sheets ← sheets summary premium?
  if !target.exists? then throw (.unknownFile target.path)
  else if sheets.any isOversized then throw (.operand .oversized)
  else return sheets

def write (target : Target) (summary : Outcome Summary)
    (premium? : Option (Outcome PremiumMetrics)) : Except Failure (List Sheet) :=
  Phase.workbookExport.run (build target summary premium?)

end Workbook

end UsageMetrics.Report
