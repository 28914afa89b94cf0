import UsageMetrics.Daily.Intake
import UsageMetrics.Feed.Delivery

namespace UsageMetrics.Daily

open UsageMetrics.Calendar UsageMetrics.Metric UsageMetrics.Feed UsageMetrics.Text

def deliveredEntries (d : Delivery) (group : MetricGroup) : List DeliveredEntry :=
  deliveredIn (groupShape group).fields ((Delivery.at? d.given (recordKey group)).elim []
    Delivery.given)

def garbledKeys (d : Delivery) (group : MetricGroup) : List EntityKey :=
  (deliveredEntries d group).filterMap fun entry =>
    match entry.name? with
    | some name => if name.isUnicode then none else some (listDimension entry.list, name.shown)
    | none => none

def normalizeGroup? (r : DailyRecord) (day : String) (garbledKeys : List EntityKey)
    (group : MetricGroup) : Except Rejection (GroupSnapshot × List Warning) :=
  let feed := groupFeed r group
  ((Breakdown.run group day feed.actions).delivered? garbledKeys group feed.engagedUsers).map
    fun snapshot => (snapshot, (normalizeGroup r day group).2)

def normalizeOn? (day : Day) (r : DailyRecord) (garbledKeys : MetricGroup → List EntityKey) :
    Except Rejection (Snapshot × List Warning) := do
  let groups ← MetricGroup.all.mapM fun group =>
    (normalizeGroup? r day.iso (garbledKeys group) group).map fun made => (group, made)
  return ofGroups day r groups

def Refusal.messageOn (d : Delivery) : Refusal → String
  | .notDay _ => notDayMessage ((Delivery.textUnder d.given "date").getD []).quoted
  | refusal => refusal.message

/-- A delivered record makes a day, or is refused for a reason that can be reported. A rejected
name is no such reason: it is met after the record has been read. -/
def normalizeDelivery (d : Delivery) :
    Except Rejection (Except String (Snapshot × List Warning)) :=
  match readDaily d.shown with
  | .error rejection => .ok (.error (Refusal.messageOn d (.invalid rejection)))
  | .ok record =>
    match readDate record.daily with
    | .error refusal => .ok (.error (refusal.messageOn d))
    | .ok day => (normalizeOn? day record.daily (garbledKeys d)).map .ok

end UsageMetrics.Daily
