import UsageMetrics.Phase

namespace UsageMetrics

open UsageMetrics.Feed UsageMetrics.Daily UsageMetrics.Window UsageMetrics.Billing

def elementsOf (v : Value) : Except Failure (List Value) := v.elements.mapError .notIterable

def normalizeSnapshot (index raw : Value) :
    Except Failure (Snapshot × List Warning) :=
  (Daily.normalize raw).mapError fun refusal => .phase (.ofRefusal index refusal)

def normalizeWindow (raws : Value) : Except Failure (List Snapshot × Report) :=
  (elementsOf raws).map normalizeAll

def countingOf : Value → Except Failure Int
  | .integer n => .ok n
  | .bool b => .ok (if b then 1 else 0)
  | v => .error (.notCounting v.kind)

def limitOf (top : Value) : Except Failure (Option Nat) := (readLimit top).mapError .limit

def ranking (entities : List Entity) (top : Value) : Except Failure (List RankedEntity) :=
  (limitOf top).map (rank entities)

def rangeOf (settings : Settings) (snapshots : List Snapshot) :
    Except Failure (Option DateRange) :=
  (dateRange settings.dateLabel snapshots).mapError .pattern

/-- Something else than a list of days was given; its first element tells what is wrong with it. -/
def foreignFailure : Value → Failure
  | .moment m => .lacksMember (Value.moment m).kind "total_active_users"
  | .item i => .lacksMember (Value.item i).kind "total_active_users"
  | .snapshot r => .lacksMember (Value.snapshot r).kind "groups"
  | v => .lacksMember v.kind "date"

def emptyWindow : NoData := ⟨.telemetry, 0, 0⟩

def aggregateWindow (settings : Settings) (snapshots : List Snapshot) : Outcome Aggregate :=
  match aggregate? settings.statistic snapshots with
  | none => .noData emptyWindow
  | some aggregate => .found aggregate

def foreignTotals (v : Value) : Except Failure (Outcome Aggregate) := do
  match ← elementsOf v with
  | [] => return .noData emptyWindow
  | first :: _ => throw (foreignFailure first)

def aggregateForeign (v : Value) : Except Failure (Outcome Aggregate) :=
  Phase.aggregate.run (foreignTotals v)

def ofSummaryFailure : SummaryFailure → Failure
  | .label f => .pattern f
  | .missingGroup m => .missingGroup m
  | .limit f => .limit f

/-- The summary of a window; a hollow value counts as an empty one. -/
def usageSummary (settings : Settings) (raws : Value) : Except Failure (Outcome Summary) := do
  let records ← if raws.isHollow then pure [] else elementsOf raws
  (summarize settings records).mapError ofSummaryFailure

def deliveredSummary (settings : Settings) (ds : List Delivery) :
    Except Failure (Outcome Summary) := do
  let window ← (normalizeDeliveries ds).mapError .rejected
  (summarizeSnapshots settings window.1 window.2).mapError ofSummaryFailure

def premiumOf (settings : Settings) (items : Value) : Except Failure (Outcome PremiumMetrics) := do
  (premium settings (← elementsOf items)).mapError .costs

def premiumMetrics (settings : Settings) (items : Value) :
    Except Failure (Outcome PremiumMetrics) :=
  Phase.premium.run (premiumOf settings items)

def extractItems (usage : Value) : Except Failure (List Value) :=
  (extract usage).mapError .notIterable

/-- The costs of a period from whatever the billing interface answers. -/
def premiumSummary (settings : Settings) (usage : Value) :
    Except Failure (Outcome PremiumMetrics) := do
  premiumMetrics settings (.list (← extractItems usage))

/-- The valid items and the invalid ones; these are counted against the length of the whole, which
a validated record does not have. -/
def validateItems (items : Value) : Except Failure (List Item × List (Nat × Rejection)) := do
  let raws ← elementsOf items
  let invalid := invalidItems raws
  match items with
  | .item _ => throw (.unsized items.kind)
  | .snapshot _ => throw (.unsized items.kind)
  | _ => return (validItems raws, invalid)

end UsageMetrics
