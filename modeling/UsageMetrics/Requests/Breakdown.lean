import UsageMetrics.Requests.Deed

namespace UsageMetrics

open UsageMetrics.Feed UsageMetrics.Metric UsageMetrics.Daily

namespace Deed

def amounts? (counters : List (String × Value)) : Option (List (String × Int)) :=
  counters.mapM fun counter =>
    match counter with
    | (label, .integer n) => (Counter.ofLabel? label).map fun _ => (label, n)
    | _ => none

def action? : Deed → Option Action
  | accept dimension tag => some (.accept dimension tag)
  | add (some (dimension, .text name)) (.object counters) =>
    (amounts? counters).map (.add (dimension, name))
  | raise (some (dimension, .text name)) (.text label) (.integer n) =>
    (Counter.ofLabel? label).map fun _ => .raise (dimension, name) label n
  | custom (some (dimension, .text name)) => some (.custom (dimension, name))
  | _ => none

def isPlain : Deed → Bool
  | snapshot _ => true
  | nothing => true
  | deed => deed.action?.isSome

end Deed

namespace Daily.Breakdown

def snapshotOf (group : MetricGroup) (engagedUsers : Value) (b : Breakdown) :
    Except Failure GroupSnapshot := do
  let s ← (b.snapshot? group 0).mapError .rejected
  return { s with engagedUsers := ← engagedUsersOf engagedUsers }

def perform (group : MetricGroup) (day : String) (b : Breakdown) (deed : Deed) :
    Breakdown × Except Failure Reply :=
  match deed with
  | .snapshot engagedUsers => (b, (b.snapshotOf group engagedUsers).map .group)
  | .accept dimension tag =>
    (b.apply group day (.accept dimension tag), .ok (.key (entryKey? dimension tag)))
  | _ => (deed.action?.elim b (b.apply group day), .ok .nothing)

def sight (b : Breakdown) : Sight where
  counts := b.counts.entries.map fun ((dimension, name), bucket) =>
    ((dimension, .text name), bucket.entries.map fun (label, n) => (.text label, .integer n))
  warnings := b.warnings

end Daily.Breakdown

end UsageMetrics
