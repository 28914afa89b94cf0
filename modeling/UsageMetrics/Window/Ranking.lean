import UsageMetrics.Feed.Value
import UsageMetrics.Window.Aggregate

namespace UsageMetrics.Window

open UsageMetrics.Metric UsageMetrics.Feed

structure RankedEntity where
  rank : Nat
  group : MetricGroup
  dimension : Dimension
  name : String
  counts : Counts
  isCustom : Bool
  acceptanceRate : Int
  deriving DecidableEq, Repr

def RankedEntity.ofEntity (rank : Nat) (e : Entity) : RankedEntity where
  rank
  group := e.group
  dimension := e.dimension
  name := e.name
  counts := e.counts
  isCustom := e.isCustom
  acceptanceRate := e.acceptanceRate

inductive LimitFault where
  | negative (shown : String)
  | unordered (kind : String)
  | uncounted
  deriving DecidableEq, Repr

def LimitFault.message : LimitFault → String
  | negative shown => "top_n must be non-negative, got " ++ shown
  | unordered kind => "'<' not supported between instances of '" ++ kind ++ "' and 'int'"
  | uncounted => "slice indices must be integers or None or have an __index__ method"

def readLimit (v : Value) : Except LimitFault (Option Nat) :=
  match v with
  | .null => .ok none
  | .bool b => .ok (some (if b then 1 else 0))
  | .integer n => if n < 0 then .error (.negative v.plainText) else .ok (some n.toNat)
  | .float x => if x.isNegative then .error (.negative v.plainText) else .error .uncounted
  | _ => .error (.unordered v.kind)

/-- More users come first, then the smaller name. -/
def rankedBefore (a b : Entity) : Bool :=
  decide (b.counts.engagedUsers < a.counts.engagedUsers) ||
    (a.counts.engagedUsers == b.counts.engagedUsers && decide (a.name ≤ b.name))

def ordered (entities : List Entity) : List Entity := entities.mergeSort rankedBefore

def numbered (entities : List Entity) : List RankedEntity :=
  entities.zipIdx.map fun (e, index) => .ofEntity (index + 1) e

def keep (top : Option Nat) (entities : List Entity) : List Entity :=
  match top with
  | none => entities
  | some n => entities.take n

def defaultTop : Option Nat := some 5

def rank (entities : List Entity) (top : Option Nat) : List RankedEntity :=
  numbered (keep top (ordered entities))

end UsageMetrics.Window
