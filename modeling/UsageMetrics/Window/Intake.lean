import UsageMetrics.Daily.Delivery

namespace UsageMetrics.Window

open UsageMetrics.Daily UsageMetrics.Feed

attribute [local instance (high)] Zero.ofOfNat0

structure Report where
  inputRecords : Nat
  skippedRecords : Nat
  droppedEntities : Nat
  skippedReasons : List String
  deriving DecidableEq, Repr

def Report.empty : Report := ⟨0, 0, 0, []⟩

def skippedFor (index : Nat) (reason : String) : String :=
  "index " ++ toString index ++ ": " ++ reason

def skippedReason (index : Nat) (refusal : Refusal) : String := skippedFor index refusal.message

def acceptedDays (raws : List Value) : List (Snapshot × List Warning) :=
  raws.filterMap fun raw => (normalize raw).toOption

def refusals (raws : List Value) : List (Nat × Refusal) :=
  raws.zipIdx.filterMap fun (raw, index) =>
    match normalize raw with
    | .ok _ => none
    | .error refusal => some (index, refusal)

def normalizeAll (raws : List Value) : List Snapshot × Report :=
  let accepted := acceptedDays raws
  let refused := refusals raws
  (accepted.map Prod.fst,
    { inputRecords := raws.length
      skippedRecords := refused.length
      droppedEntities := (accepted.map fun day => day.2.length).sum
      skippedReasons := refused.map fun (index, refusal) => skippedReason index refusal })

def reasonsIn (made : List (Except String (Snapshot × List Warning))) : List String :=
  made.zipIdx.filterMap fun (result, index) =>
    match result with
    | .ok _ => none
    | .error reason => some (skippedFor index reason)

def ofMade (made : List (Except String (Snapshot × List Warning))) : List Snapshot × Report :=
  let accepted := made.filterMap Except.toOption
  let reasons := reasonsIn made
  (accepted.map Prod.fst,
    { inputRecords := made.length
      skippedRecords := reasons.length
      droppedEntities := (accepted.map fun day => day.2.length).sum
      skippedReasons := reasons })

/-- A window as it is delivered. Refused records are skipped; a rejected name ends the work. -/
def normalizeDeliveries (ds : List Delivery) : Except Rejection (List Snapshot × Report) :=
  (ds.mapM normalizeDelivery).map ofMade

end UsageMetrics.Window
