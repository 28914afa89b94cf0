import UsageMetrics.Calendar.IsoText
import UsageMetrics.Daily.Flatten
import UsageMetrics.Feed.Reading

namespace UsageMetrics.Daily

open UsageMetrics.Calendar UsageMetrics.Metric UsageMetrics.Feed UsageMetrics.Text

inductive Refusal where
  | invalid (rejection : Rejection)
  | undated
  | notDay (text : String)
  deriving DecidableEq, Repr

namespace Refusal

def notDayMessage (literal : String) : String := "Snapshot date is not a calendar day: " ++ literal

def message : Refusal → String
  | .invalid rejection => "Snapshot failed validation: " ++ rejection.message
  | .undated => "Snapshot has no date"
  | .notDay text => notDayMessage (Quoted.quoted text)

end Refusal

def readDate (r : DailyRecord) : Except Refusal Day :=
  match r.date with
  | none => .error .undated
  | some text =>
    if text.isEmpty then .error .undated
    else
      match Day.ofIso? text with
      | some day => .ok day
      | none => .error (.notDay text)

def groupRepairs (r : DailyRecord) (feed : GroupFeed) : List String :=
  feed.repaired ++ if r.repaired.contains feed.field then [feed.field] else []

def normalizeGroup (r : DailyRecord) (day : String) (group : MetricGroup) :
    GroupSnapshot × List Warning :=
  let feed := groupFeed r group
  let repairs := groupRepairs r feed
  let breakdown := Breakdown.run group day feed.actions
  let own : List Warning :=
    if repairs.isEmpty then [] else [⟨group.label, none, some day, none, repairs⟩]
  (breakdown.snapshot group feed.engagedUsers, own ++ breakdown.warnings)

def ofGroups (day : Day) (r : DailyRecord)
    (groups : List (MetricGroup × GroupSnapshot × List Warning)) : Snapshot × List Warning :=
  ({ day
     activeUsers := r.activeUsers
     engagedUsers := r.engagedUsers
     groups := groups.map fun (group, snapshot, _) => (group, snapshot) },
    groups.flatMap fun (_, _, warnings) => warnings)

def normalizeOn (day : Day) (r : DailyRecord) : Snapshot × List Warning :=
  ofGroups day r (MetricGroup.all.map fun group => (group, normalizeGroup r day.iso group))

def normalizeRecord (r : DailyRecord) : Except Refusal (Snapshot × List Warning) :=
  (readDate r).map fun day => normalizeOn day r

/-- A day of the feed, fully populated, and the warnings about entries dropped or repaired. -/
def normalize (raw : Value) : Except Refusal (Snapshot × List Warning) :=
  match readDaily raw with
  | .error rejection => .error (.invalid rejection)
  | .ok record => normalizeRecord record.daily

end UsageMetrics.Daily
