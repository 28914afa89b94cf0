import UsageMetrics.Daily.Figures

namespace UsageMetrics.Window

open UsageMetrics.Daily

def dayBefore (a b : Figures) : Bool := decide (a.day ≤ b.day)

/-- The figures of all days by date; days of one date stay in the order of the window. -/
def series (snapshots : List Snapshot) : Except MissingGroup (List Figures) :=
  (snapshots.mapM Figures.ofSnapshot).map fun rows => rows.mergeSort dayBefore

/-- The snapshot of the last day, the first one of several. -/
def latest? : List Snapshot → Option Snapshot
  | [] => none
  | first :: rest => some (rest.foldl (fun best s => if best.day < s.day then s else best) first)

def latestFigures (snapshots : List Snapshot) : Except MissingGroup (Option Figures) :=
  match latest? snapshots with
  | none => .ok none
  | some s => (Figures.ofSnapshot s).map some

end UsageMetrics.Window
