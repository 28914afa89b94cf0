import UsageMetrics.Daily.Snapshot
import UsageMetrics.Daily.Warning
import UsageMetrics.Feed.Issue
import UsageMetrics.Feed.Telemetry
import UsageMetrics.Text.Blank

namespace UsageMetrics.Daily

open UsageMetrics.Metric UsageMetrics.Feed UsageMetrics.Text

/-- The amounts of the counters of an entity that were touched, under their labels. -/
abbrev Bucket := Ledger String Int

namespace Bucket

def get (b : Bucket) (label : String) : Int := (b.get? label).getD 0

def add (b : Bucket) (label : String) (amount : Int) : Bucket :=
  b.upsert label fun old => old.getD 0 + amount

def addAll (b : Bucket) (amounts : List (String × Int)) : Bucket :=
  amounts.foldl (fun b (label, amount) => b.add label amount) b

def raise (b : Bucket) (label : String) (amount : Int) : Bucket :=
  b.upsert label fun old => max (old.getD 0) amount

def counts (b : Bucket) : Counts := .ofFn fun counter => get b counter.label

end Bucket

def entryKey? (dimension : Dimension) (tag : Tag) : Option EntityKey :=
  match tag.name with
  | some name => if allBlank name then none else some (dimension, name)
  | none => none

inductive Action where
  | accept (dimension : Dimension) (tag : Tag)
  | add (key : EntityKey) (amounts : List (String × Int))
  | raise (key : EntityKey) (label : String) (amount : Int)
  | custom (key : EntityKey)
  deriving DecidableEq, Repr

structure Breakdown where
  counts : Ledger EntityKey Bucket
  custom : List EntityKey
  warnings : List Warning

namespace Breakdown

def empty : Breakdown := ⟨.empty, [], []⟩

def warningsOn (group : MetricGroup) (day : String) (dimension : Dimension) (tag : Tag) :
    List Warning :=
  let about (name : Option String) (repaired : List String) : Warning :=
    ⟨group.label, some dimension.label, some day, name, repaired⟩
  match entryKey? dimension tag with
  | none => [about none []]
  | some (_, name) => if tag.repaired.isEmpty then [] else [about (some name) tag.repaired]

def change (b : Breakdown) (key : EntityKey) (f : Bucket → Bucket) : Breakdown :=
  { b with counts := b.counts.upsert key fun old => f (old.getD .empty) }

def apply (group : MetricGroup) (day : String) (b : Breakdown) : Action → Breakdown
  | .accept dimension tag => { b with warnings := b.warnings ++ warningsOn group day dimension tag }
  | .add key amounts => b.change key fun bucket => bucket.addAll amounts
  | .raise key label amount => b.change key fun bucket => bucket.raise label amount
  | .custom key => { b with custom := key :: b.custom }

def run (group : MetricGroup) (day : String) (actions : List Action) : Breakdown :=
  actions.foldl (apply group day) empty

def entities (group : MetricGroup) (b : Breakdown) : List EntityCounts :=
  b.counts.entries.map fun (key, bucket) =>
    { group
      dimension := key.1
      name := key.2
      counts := Bucket.counts bucket
      isCustom := b.custom.contains key }

def snapshot (group : MetricGroup) (engagedUsers : Int) (b : Breakdown) : GroupSnapshot :=
  ⟨group, engagedUsers, b.entities group⟩

def unnamed : Rejection := ⟨"EntityCounts", [⟨["name"], .tooShort 1⟩]⟩

/-- A name is looked at when its entity is made, not when the entry that has it is read. -/
def garbled : Rejection := ⟨"EntityCounts", [⟨["name"], .notUnicode⟩]⟩

/-- No snapshot can be taken while an entity has an empty name. -/
def snapshot? (group : MetricGroup) (engagedUsers : Int) (b : Breakdown) :
    Except Rejection GroupSnapshot :=
  if b.counts.keys.any fun key => key.2.isEmpty then .error unnamed
  else .ok (b.snapshot group engagedUsers)

def delivered? (garbledKeys : List EntityKey) (group : MetricGroup) (engagedUsers : Int)
    (b : Breakdown) : Except Rejection GroupSnapshot :=
  if b.counts.keys.any garbledKeys.contains then .error garbled
  else b.snapshot? group engagedUsers

end Breakdown

end UsageMetrics.Daily
