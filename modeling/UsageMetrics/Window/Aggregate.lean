import UsageMetrics.Daily.Snapshot
import UsageMetrics.Metric.PerGroup
import UsageMetrics.Number.Percentage
import UsageMetrics.Window.Distinct
import UsageMetrics.Window.UserCounter

namespace UsageMetrics.Window

open UsageMetrics.Calendar UsageMetrics.Daily UsageMetrics.Metric UsageMetrics.Number

structure Tally where
  counts : Counts
  daysPresent : Nat
  isCustom : Bool
  deriving DecidableEq, Repr

def Tally.zero : Tally := ⟨.zero, 0, false⟩

def Tally.meet (t : Tally) (e : EntityCounts) : Tally :=
  ⟨t.counts + e.counts, t.daysPresent + 1, t.isCustom || e.isCustom⟩

abbrev Occurrence := MetricGroup × EntityCounts

def Occurrence.key (o : Occurrence) : WindowKey := (o.1, o.2.dimension, o.2.name)

def occurrences (snapshots : List Snapshot) : List Occurrence :=
  snapshots.flatMap fun s => s.groups.flatMap fun (group, snapshot) =>
    snapshot.entities.map fun entity => (group, entity)

def tally (os : List Occurrence) : Ledger WindowKey Tally :=
  os.foldl (fun ledger o => ledger.upsert o.key fun old => (old.getD .zero).meet o.2) .empty

structure Entity where
  group : MetricGroup
  dimension : Dimension
  name : String
  counts : Counts
  isCustom : Bool
  daysPresent : Int
  acceptanceRate : Int
  linesAcceptanceRate : Int
  deriving DecidableEq, Repr

def acceptanceRate (c : Counts) : Int := percentage c.acceptances c.suggestions

def linesAcceptanceRate (c : Counts) : Int := percentage c.linesAccepted c.linesSuggested

/-- Rates are those of the sums and never made from other rates. -/
def Entity.ofTally (key : WindowKey) (t : Tally) : Entity where
  group := key.1
  dimension := key.2.1
  name := key.2.2
  counts := t.counts
  isCustom := t.isCustom
  daysPresent := t.daysPresent
  acceptanceRate := Window.acceptanceRate t.counts
  linesAcceptanceRate := Window.linesAcceptanceRate t.counts

abbrev EntityMap := Ledger MetricGroup (Ledger Dimension (Ledger String Entity))

namespace EntityMap

def insert (m : EntityMap) (e : Entity) : EntityMap :=
  m.upsert e.group fun dimensions? =>
    (dimensions?.getD .empty).upsert e.dimension fun names? =>
      (names?.getD .empty).upsert e.name fun _ => e

def ofList (entities : List Entity) : EntityMap := entities.foldl insert .empty

def slice (m : EntityMap) (group : MetricGroup) (dimension : Dimension) : Ledger String Entity :=
  ((m.get? group).bind fun dimensions => dimensions.get? dimension).getD .empty

def entity? (m : EntityMap) (group : MetricGroup) (dimension : Dimension) (name : String) :
    Option Entity :=
  (m.slice group dimension).get? name

def toList (m : EntityMap) : List Entity :=
  m.values.flatMap fun dimensions => dimensions.values.flatMap Ledger.values

end EntityMap

def sumCounts (counts : List Counts) : Counts := counts.foldl (· + ·) .zero

def groupTotals (ledger : Ledger WindowKey Tally) (group : MetricGroup) : Counts :=
  sumCounts ((ledger.entries.filter fun (key, _) =>
    key.1 = group && key.2.1 = group.primary).map fun (_, t) => t.counts)

structure Aggregate where
  dayCount : Nat
  activeUsers : Int
  engagedUsers : Int
  groupEngagedUsers : PerGroup Int
  suggestions : Int
  acceptances : Int
  linesSuggested : Int
  linesAccepted : Int
  ideChats : Int
  dotcomChats : Int
  chats : Int
  copyEvents : Int
  insertionEvents : Int
  prSummaries : Int
  acceptanceRate : Int
  linesAcceptanceRate : Int
  entities : EntityMap

def distinctDays (snapshots : List Snapshot) : List Day := distinct (snapshots.map Snapshot.day)

def userObservations (users : Snapshot → Int) (snapshots : List Snapshot) : List (Day × Int) :=
  snapshots.map fun s => (s.day, users s)

def groupObservations (group : MetricGroup) (snapshots : List Snapshot) : List (Day × Int) :=
  snapshots.flatMap fun s => (s.groups.filter fun (listed, _) => listed = group).map
    fun (_, snapshot) => (s.day, snapshot.engagedUsers)

def aggregateDays (statistic : Statistic) (snapshots : List Snapshot) : Aggregate :=
  let ledger := tally (occurrences snapshots)
  let completions := groupTotals ledger .codeCompletions
  let ideChat := groupTotals ledger .ideChat
  let dotcomChat := groupTotals ledger .dotcomChat
  let pullRequests := groupTotals ledger .pullRequests
  { dayCount := (distinctDays snapshots).length
    activeUsers := UserCounter.total statistic (userObservations Snapshot.activeUsers snapshots)
    engagedUsers := UserCounter.total statistic (userObservations Snapshot.engagedUsers snapshots)
    groupEngagedUsers := .ofFn fun group =>
      UserCounter.total statistic (groupObservations group snapshots)
    suggestions := completions.suggestions
    acceptances := completions.acceptances
    linesSuggested := completions.linesSuggested
    linesAccepted := completions.linesAccepted
    ideChats := ideChat.chats
    dotcomChats := dotcomChat.chats
    chats := ideChat.chats + dotcomChat.chats
    copyEvents := ideChat.copyEvents
    insertionEvents := ideChat.insertionEvents
    prSummaries := pullRequests.prSummaries
    acceptanceRate := acceptanceRate completions
    linesAcceptanceRate := linesAcceptanceRate completions
    entities := .ofList (ledger.entries.map fun (key, t) => Entity.ofTally key t) }

def aggregate? (statistic : Statistic) (snapshots : List Snapshot) : Option Aggregate :=
  if snapshots.isEmpty then none else some (aggregateDays statistic snapshots)

end UsageMetrics.Window
