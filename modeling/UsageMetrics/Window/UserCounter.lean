import UsageMetrics.Calendar.Day
import UsageMetrics.Settings

namespace UsageMetrics.Window

open UsageMetrics.Calendar

structure UserCounter where
  latest : Option Day
  value : Int
  deriving DecidableEq, Repr

namespace UserCounter

def empty : UserCounter := ⟨none, 0⟩

/-- Of several observations of the latest day the first one counts. -/
def observe (statistic : Statistic) (c : UserCounter) (day : Day) (count : Int) : UserCounter :=
  match statistic with
  | .max => { c with value := max c.value count }
  | .latest =>
    match c.latest with
    | none => ⟨some day, count⟩
    | some latest => if latest < day then ⟨some day, count⟩ else c

def total (statistic : Statistic) (observations : List (Day × Int)) : Int :=
  (observations.foldl (fun c (day, count) => c.observe statistic day count) empty).value

end UserCounter

end UsageMetrics.Window
