import UsageMetrics.Daily.Snapshot
import UsageMetrics.Feed.DateReading
import UsageMetrics.Feed.Fields

namespace UsageMetrics.Daily

open UsageMetrics.Calendar UsageMetrics.Metric UsageMetrics.Feed

def readGroupLabel : Value → Except Cause MetricGroup :=
  Value.readChoice MetricGroup.ofLabel? (MetricGroup.all.map MetricGroup.label)

def readDimension : Value → Except Cause Dimension :=
  Value.readChoice Dimension.ofLabel? (Dimension.all.map Dimension.label)

namespace EntityCounts

def shape : String := "EntityCounts"

def read : Value → EntityCounts × List Issue
  | .object given =>
    let group := requiredField given "group" .codeCompletions readGroupLabel
    let dimension := requiredField given "dimension" .language readDimension
    let name := requiredField given "name" "" (Value.readBounded 1 none)
    let isCustom := optionalField given "is_custom_model" false Value.readFlag
    (⟨group.1, dimension.1, name.1, .ofFn fun counter => (countField given counter.label).1,
        isCustom.1⟩,
      group.2 ++ dimension.2 ++ name.2 ++
        Counter.all.flatMap (fun counter => (countField given counter.label).2) ++ isCustom.2)
  | _ => (⟨.codeCompletions, .language, "", .zero, false⟩, [⟨[], .notRecord shape⟩])

end EntityCounts

def readEntities : Value → List EntityCounts × List Issue
  | v =>
    match v.listed? with
    | some values =>
      let entities := values.map EntityCounts.read
      (entities.map Prod.fst,
        entities.zipIdx.flatMap fun (entity, i) => entity.2.map (Issue.within (toString i)))
    | none => ([], [⟨[], .notList⟩])

namespace GroupSnapshot

def shape : String := "GroupSnapshot"

def read : Value → GroupSnapshot × List Issue
  | .object given =>
    let group := requiredField given "group" .codeCompletions readGroupLabel
    let engagedUsers := countField given "total_engaged_users"
    let entities := ((given.lookup "entities").map readEntities).getD ([], [])
    (⟨group.1, engagedUsers.1, entities.1⟩,
      group.2 ++ engagedUsers.2 ++ entities.2.map (Issue.within "entities"))
  | _ => (⟨.codeCompletions, 0, []⟩, [⟨[], .notRecord shape⟩])

end GroupSnapshot

namespace Snapshot

def shape : String := "DailySnapshot"

/-- A group under its label; what is wrong with the label comes before what is wrong with the
group. -/
def readEntry (entry : String × Value) : (MetricGroup × GroupSnapshot) × List Issue :=
  let group := GroupSnapshot.read entry.2
  match readGroupLabel (.text entry.1) with
  | .ok label => ((label, group.1), group.2.map (Issue.within entry.1))
  | .error cause =>
    ((.codeCompletions, group.1),
      ⟨[entry.1, "[key]"], cause⟩ :: group.2.map (Issue.within entry.1))

def readGroups : Option Value → List (MetricGroup × GroupSnapshot) × List Issue
  | some (.object entries) =>
    let groups := entries.map readEntry
    (groups.map Prod.fst, groups.flatMap Prod.snd)
  | some _ => ([], [⟨[], .notMapping⟩])
  | none => ([], [⟨[], .missing⟩])

def readFields (given : List (String × Value)) : Option Snapshot × List Issue :=
  let date := requiredField given "date" none fun v => v.readCalendarDay.map some
  let activeUsers := countField given "total_active_users"
  let engagedUsers := countField given "total_engaged_users"
  let groups := readGroups (given.lookup "groups")
  (date.1.map fun day => ⟨day, activeUsers.1, engagedUsers.1, groups.1⟩,
    date.2 ++ activeUsers.2 ++ engagedUsers.2 ++ groups.2.map (Issue.within "groups"))

/-- A day as it was saved, not as a record of the feed. -/
def read : Value → Except Rejection Snapshot
  | .object given =>
    match readFields given with
    | (some s, []) => .ok s
    | (_, issues) => .error ⟨shape, issues⟩
  | _ => .error ⟨shape, [⟨[], .notRecord shape⟩]⟩

end Snapshot

end UsageMetrics.Daily
