import UsageMetrics.Feed.Fields
import UsageMetrics.Window.Ranking

namespace UsageMetrics.Window

open UsageMetrics.Metric UsageMetrics.Feed

namespace Entity

def shape : String := "BreakdownEntity"

def readFields (given : List (String × Value)) : Entity × List Issue :=
  let group := requiredField given "group" .codeCompletions
    (Value.readChoice MetricGroup.ofLabel? (MetricGroup.all.map MetricGroup.label))
  let dimension := requiredField given "dimension" .language
    (Value.readChoice Dimension.ofLabel? (Dimension.all.map Dimension.label))
  let name := requiredField given "name" "" Value.readText
  let isCustom := optionalField given "is_custom_model" false Value.readFlag
  let daysPresent := countField given "days_present"
  let acceptanceRate := countField given "acceptance_rate"
  let linesAcceptanceRate := countField given "lines_acceptance_rate"
  ({ group := group.1
     dimension := dimension.1
     name := name.1
     counts := .ofFn fun counter => (countField given counter.label).1
     isCustom := isCustom.1
     daysPresent := daysPresent.1
     acceptanceRate := acceptanceRate.1
     linesAcceptanceRate := linesAcceptanceRate.1 },
    group.2 ++ dimension.2 ++ name.2 ++
      Counter.all.flatMap (fun counter => (countField given counter.label).2) ++ isCustom.2 ++
      daysPresent.2 ++ acceptanceRate.2 ++ linesAcceptanceRate.2)

def read (given : List (String × Value)) : Except Rejection Entity :=
  match readFields given with
  | (entity, []) => .ok entity
  | (_, issues) => .error ⟨shape, issues⟩

end Entity

/-- Entities under keys: a key that is given again keeps its place and takes the new entity. -/
def keyed (entities : List (String × Entity)) : List Entity :=
  let put (table : List (String × Entity)) (entry : String × Entity) : List (String × Entity) :=
    if (table.lookup entry.1).isSome then
      table.map fun old => if old.1 = entry.1 then entry else old
    else table ++ [entry]
  (entities.foldl put []).map Prod.snd

end UsageMetrics.Window
