import UsageMetrics.Ledger

namespace UsageMetrics.Metric

inductive MetricGroup where
  | codeCompletions
  | ideChat
  | dotcomChat
  | pullRequests
  deriving DecidableEq, Repr

namespace MetricGroup

def all : List MetricGroup := [codeCompletions, ideChat, dotcomChat, pullRequests]

def label : MetricGroup → String
  | codeCompletions => "code_completions"
  | ideChat => "ide_chat"
  | dotcomChat => "dotcom_chat"
  | pullRequests => "pull_requests"

def ofLabel? (s : String) : Option MetricGroup := all.find? fun group => group.label = s

theorem label_injective {a b : MetricGroup} (same : a.label = b.label) : a = b := by
  cases a <;> cases b <;> first | rfl | exact absurd same (by decide)

/-- Groups are sorted by their labels, not by their declaration. -/
instance : KeyOrder MetricGroup where
  before a b := decide (a.label < b.label)
  before_irrefl a := decide_eq_false (String.lt_irrefl a.label)
  before_trans a b c first second := by
    simp only [decide_eq_true_eq] at *
    exact String.lt_trans first second
  eq_of_not_before a b first second := by
    simp only [decide_eq_false_iff_not] at *
    exact label_injective (String.le_antisymm (String.not_lt.mp second) (String.not_lt.mp first))

end MetricGroup

inductive Dimension where
  | language
  | editor
  | model
  | repository
  deriving DecidableEq, Repr

namespace Dimension

def all : List Dimension := [language, editor, model, repository]

def label : Dimension → String
  | language => "language"
  | editor => "editor"
  | model => "model"
  | repository => "repository"

def ofLabel? (s : String) : Option Dimension := all.find? fun dimension => dimension.label = s

theorem label_injective {a b : Dimension} (same : a.label = b.label) : a = b := by
  cases a <;> cases b <;> first | rfl | exact absurd same (by decide)

instance : KeyOrder Dimension where
  before a b := decide (a.label < b.label)
  before_irrefl a := decide_eq_false (String.lt_irrefl a.label)
  before_trans a b c first second := by
    simp only [decide_eq_true_eq] at *
    exact String.lt_trans first second
  eq_of_not_before a b first second := by
    simp only [decide_eq_false_iff_not] at *
    exact label_injective (String.le_antisymm (String.not_lt.mp second) (String.not_lt.mp first))

end Dimension

/-- The dimension whose entities cover every event of their group exactly once. -/
def MetricGroup.primary : MetricGroup → Dimension
  | codeCompletions => .language
  | ideChat => .editor
  | dotcomChat => .model
  | pullRequests => .repository

abbrev EntityKey := Dimension × String

abbrev WindowKey := MetricGroup × EntityKey

end UsageMetrics.Metric
