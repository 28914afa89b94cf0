import UsageMetrics.Requests

namespace UsageMetrics

open UsageMetrics.Feed UsageMetrics.Window UsageMetrics.Billing

attribute [local instance (high)] instPowNat

structure Session where
  records : List Value
  items : List Value
  settings : Settings

namespace Session

def empty : Session := ⟨[], [], .default⟩

inductive Edit where
  | add (record : Value)
  | remove (position : Int)
  | reverse
  | clear
  | bill (item : Value)
  | keep

/-- Positions below zero count from the end. -/
def position? (length : Nat) (position : Int) : Option Nat :=
  let fromStart := if position < 0 then position + length else position
  if 0 ≤ fromStart ∧ fromStart < length then some fromStart.toNat else none

def isPosition (n : Int) : Bool := -(2 ^ (63 : Nat)) ≤ n && n < 2 ^ (63 : Nat)

def apply (s : Session) : Edit → Except Failure Session
  | .add record => .ok { s with records := s.records ++ [record] }
  | .remove position =>
    if !isPosition position then .error .oversizedPosition
    else if s.records.isEmpty then .error .emptyPop
    else
      match position? s.records.length position with
      | some index => .ok { s with records := s.records.eraseIdx index }
      | none => .error .positionOutOfRange
  | .reverse => .ok { s with records := s.records.reverse }
  | .clear => .ok { s with records := [], items := [] }
  | .bill item => .ok { s with items := s.items ++ [item] }
  | .keep => .ok s

def snapshots (s : Session) : List Daily.Snapshot := (normalizeAll s.records).1

def report (s : Session) : Report := (normalizeAll s.records).2

def aggregate (s : Session) : Outcome Aggregate := aggregateWindow s.settings s.snapshots

def topLanguages (s : Session) : Except Failure (Outcome (List RankedEntity)) :=
  match s.aggregate with
  | .noData n => .ok (.noData n)
  | .found a => (limitOf s.settings.topN).map fun top => .found (a.topLanguages top)

def summary (s : Session) : Except Failure (Outcome Summary) :=
  usageSummary s.settings (.list s.records)

def premium (s : Session) : Except Failure (Outcome PremiumMetrics) :=
  premiumSummary s.settings (.list s.items)

end Session

end UsageMetrics
