import UsageMetrics.Calendar.Day
import UsageMetrics.Metric.Counts
import UsageMetrics.Metric.Taxonomy

namespace UsageMetrics.Daily

open UsageMetrics.Calendar UsageMetrics.Metric

structure EntityCounts where
  group : MetricGroup
  dimension : Dimension
  name : String
  counts : Counts
  isCustom : Bool
  deriving DecidableEq, Repr

structure GroupSnapshot where
  group : MetricGroup
  engagedUsers : Int
  entities : List EntityCounts
  deriving DecidableEq, Repr

/-- A day of telemetry. A group may be missing only if the snapshot was not made from a record of
the feed. -/
structure Snapshot where
  day : Day
  activeUsers : Int
  engagedUsers : Int
  groups : List (MetricGroup × GroupSnapshot)
  deriving DecidableEq, Repr

def Snapshot.group? (s : Snapshot) (group : MetricGroup) : Option GroupSnapshot :=
  s.groups.lookup group

end UsageMetrics.Daily
