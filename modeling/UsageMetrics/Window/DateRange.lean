import UsageMetrics.Calendar.Label
import UsageMetrics.Daily.Snapshot
import UsageMetrics.Feed.Value
import UsageMetrics.Window.Distinct

namespace UsageMetrics.Window

open UsageMetrics.Calendar UsageMetrics.Daily UsageMetrics.Feed

structure DateRange where
  first : Day
  last : Day
  firstLabel : String
  lastLabel : String
  dayCount : Nat
  deriving DecidableEq, Repr

def earlier (a b : Day) : Day := if b < a then b else a

def later (a b : Day) : Day := if a < b then b else a

structure LabelFault where
  given : String
  deriving DecidableEq, Repr

def LabelFault.message (f : LabelFault) : String :=
  "strftime() argument 1 must be str, not " ++ f.given

def readPattern : Value → Except LabelFault String
  | .text s => .ok s
  | .null => .error ⟨Value.null.literal⟩
  | v => .error ⟨v.kind⟩

def DateRange.ofDays (pattern : String) (day : Day) (rest : List Day) : DateRange :=
  let first := rest.foldl earlier day
  let last := rest.foldl later day
  { first
    last
    firstLabel := Label.render pattern first
    lastLabel := Label.render pattern last
    dayCount := (distinct (day :: rest)).length }

def dateRange (pattern : Value) (snapshots : List Snapshot) :
    Except LabelFault (Option DateRange) :=
  match snapshots.map Snapshot.day with
  | [] => .ok none
  | day :: rest => (readPattern pattern).map fun text => some (.ofDays text day rest)

end UsageMetrics.Window
