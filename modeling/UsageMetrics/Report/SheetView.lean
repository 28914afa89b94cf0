import UsageMetrics.Report.Workbook

namespace UsageMetrics.Report

open UsageMetrics.Number

namespace Workbook

/-- Sheets keep one character for each line end. -/
def lineEnds : List Char → List Char
  | '\r' :: '\n' :: cs => '\n' :: lineEnds cs
  | '\r' :: cs => '\n' :: lineEnds cs
  | c :: cs => c :: lineEnds cs
  | [] => []

def storedText (s : String) : String := String.ofList (lineEnds s.toList)

/-- A number is stored in at most 16 digits; it is read as a floating point number if these have a
point or an exponent, and as an integer otherwise. -/
def storedNumber? (x : Binary64) : Option String :=
  if x.isFinite then
    let stored := x.renderSixteen
    if stored.toList.any fun c => c = '.' || c = 'e' then
      (Binary64.parse? stored).map Binary64.render
    else if stored = "-0" then some "0"
    else some stored
  else none

def Content.stored? : Content → Option String
  | .text s => if s.isEmpty then none else some (storedText s)
  | .formula s => some (storedText s)
  | .errorLiteral s => some s
  | .number x => storedNumber? x
  | .oversized => none

def Content.kind : Content → String
  | .text _ => "s"
  | .formula _ => "f"
  | .errorLiteral _ => "e"
  | .number _ => "n"
  | .oversized => "n"

/-- Without a text of its own and without a look of its own a cell does not show at all. -/
def Cell.isShown (c : Cell) : Bool := c.content.stored?.isSome || c.style ≠ plain

def Cell.document (c : Cell) : Document :=
  .object [("at", .text c.place), ("type", .text c.content.kind),
    ("value", .ofOption .text c.content.stored?), ("format", .text c.style.format),
    ("bold", .bool c.style.bold),
    ("size", .ofOption (fun n => .text (toString n)) c.style.size),
    ("fill", .ofOption .text c.style.fill), ("align", .ofOption .text c.style.align)]

def Sheet.document (s : Sheet) : Document :=
  .object [("title", .text s.title), ("merged", .texts s.merged),
    ("widths", .object (s.widths.map fun (column, n) => (column, .text (toString n)))),
    ("cells", .list ((s.cells.filter Cell.isShown).map Cell.document))]

end Workbook

end UsageMetrics.Report
