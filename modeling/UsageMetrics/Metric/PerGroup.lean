import UsageMetrics.Metric.Taxonomy

namespace UsageMetrics.Metric

@[ext]
structure PerGroup (α : Type) where
  codeCompletions : α
  ideChat : α
  dotcomChat : α
  pullRequests : α
  deriving DecidableEq, Repr

namespace PerGroup

variable {α : Type}

def get (p : PerGroup α) : MetricGroup → α
  | .codeCompletions => p.codeCompletions
  | .ideChat => p.ideChat
  | .dotcomChat => p.dotcomChat
  | .pullRequests => p.pullRequests

def ofFn (f : MetricGroup → α) : PerGroup α :=
  ⟨f .codeCompletions, f .ideChat, f .dotcomChat, f .pullRequests⟩

@[simp] theorem get_ofFn (f : MetricGroup → α) (group : MetricGroup) :
    (ofFn f).get group = f group := by
  cases group <;> rfl

def toList (p : PerGroup α) : List (MetricGroup × α) :=
  MetricGroup.all.map fun group => (group, p.get group)

end PerGroup

end UsageMetrics.Metric
