import UsageMetrics.Proofs.Daily.Phases
import UsageMetrics.Window.Intake

namespace UsageMetrics.Daily

open UsageMetrics.Calendar UsageMetrics.Metric UsageMetrics.Feed

theorem readDate_ok_iff {r : DailyRecord} {text : String} {day : Day}
    (dated : r.date = some text) : readDate r = .ok day ↔ Day.ofIso? text = some day := by
  rw [readDate, dated]
  by_cases empty : text.isEmpty
  · obtain rfl := String.isEmpty_iff.mp empty
    exact iff_of_false nofun nofun
  · simp only [empty, Bool.false_eq_true, ↓reduceIte]
    cases Day.ofIso? text <;> simp

theorem normalize_ok {raw : Value} {result : Snapshot × List Warning}
    (accepted : normalize raw = .ok result) :
    ∃ record day, readDaily raw = .ok record ∧ readDate record.daily = .ok day ∧
      result = normalizeOn day record.daily := by
  unfold normalize at accepted
  cases read : readDaily raw with
  | error rejection => rw [read] at accepted; cases accepted
  | ok record =>
    rw [read] at accepted
    simp only [normalizeRecord] at accepted
    cases dated : readDate record.daily with
    | error refusal => rw [dated] at accepted; cases accepted
    | ok day =>
      rw [dated] at accepted
      exact ⟨record, day, rfl, dated, (Except.ok.inj accepted).symm⟩

def validated (raws : List Value) : List DailyRecord :=
  raws.filterMap fun raw => (readDaily raw).toOption.map Record.daily

theorem sum_normalizeGroup {r : DailyRecord} (named : r.AllNamed) (day : String)
    {group : MetricGroup} {dimension : Dimension} (sliced : dimension ∈ group.reslicings)
    {counter : Counter} (event : counter ≠ .engagedUsers) :
    (((normalizeGroup r day group).1.entities.filter fun e => e.dimension == dimension).map fun e =>
      e.counts.get counter).sum = eventSum counter (r.innermost group) := by
  have entities := Breakdown.sum_entities group dimension counter
    (Breakdown.run group day (groupFeed r group).actions)
  have run := Breakdown.sumOver_run group day dimension (groupFeed r group).actions
    (groupFeed_raises r group event)
  exact entities.trans (run.trans (addedBy_groupFeed named sliced event))

end UsageMetrics.Daily
