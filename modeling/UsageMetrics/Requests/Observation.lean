import UsageMetrics.Feed.Comparison
import UsageMetrics.Requests

namespace UsageMetrics

open UsageMetrics.Calendar UsageMetrics.Feed

structure Observer where
  latest : Option Day
  value : Value

namespace Observer

def start : Observer := ⟨none, .integer 0⟩

/-- The day decides alone whether the latest count is replaced, the largest one is compared. -/
def observe (statistic : Statistic) (o : Observer) (day : Day) (count : Value) :
    Except Failure Observer :=
  match statistic with
  | .max =>
    match count.exceeds? o.value with
    | some larger => .ok (if larger then { o with value := count } else o)
    | none => .error (.operand (.unordered ">" count.kind o.value.kind))
  | .latest =>
    if o.latest.all (· < day) then .ok ⟨some day, count⟩ else .ok o

def values (statistic : Statistic) : Observer → List (Day × Value) → Except Failure (List Value)
  | _, [] => .ok []
  | o, (day, count) :: rest => do
    let o ← o.observe statistic day count
    return o.value :: (← o.values statistic rest)

end Observer

end UsageMetrics
