namespace UsageMetrics

inductive Source where
  | telemetry
  | billing
  deriving DecidableEq, Repr

def Source.label : Source → String
  | telemetry => "telemetry"
  | billing => "billing"

structure NoData where
  source : Source
  inputRecords : Nat
  skippedRecords : Nat
  deriving DecidableEq, Repr

def NoData.message (n : NoData) : String :=
  match n.source with
  | .telemetry => "No usage data available for the selected window"
  | .billing => "No premium request data available for this period"

inductive Outcome (α : Type) where
  | noData (n : NoData)
  | found (result : α)
  deriving Repr

end UsageMetrics
