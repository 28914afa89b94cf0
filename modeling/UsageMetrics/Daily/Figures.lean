import UsageMetrics.Daily.Snapshot
import UsageMetrics.Number.Percentage

namespace UsageMetrics.Daily

open UsageMetrics.Calendar UsageMetrics.Metric UsageMetrics.Number

structure MissingGroup where
  group : MetricGroup
  deriving DecidableEq, Repr

def MissingGroup.message (m : MissingGroup) : String :=
  let member := match m.group with
    | .codeCompletions => "CODE_COMPLETIONS"
    | .ideChat => "IDE_CHAT"
    | .dotcomChat => "DOTCOM_CHAT"
    | .pullRequests => "PULL_REQUESTS"
  "<MetricGroup." ++ member ++ ": '" ++ m.group.label ++ "'>"

def GroupSnapshot.primarySum (group : MetricGroup) (s : GroupSnapshot) : Counts :=
  ((s.entities.filter fun entity => entity.dimension = group.primary).map EntityCounts.counts).foldl
    (· + ·) .zero

def Snapshot.require (s : Snapshot) (group : MetricGroup) : Except MissingGroup GroupSnapshot :=
  match s.group? group with
  | some snapshot => .ok snapshot
  | none => .error ⟨group⟩

/-- The counters of a group over its primary dimension, which covers each event once. -/
def groupSum (s : Snapshot) (group : MetricGroup) : Except MissingGroup Counts :=
  (s.require group).map (GroupSnapshot.primarySum group)

structure Figures where
  day : Day
  activeUsers : Int
  engagedUsers : Int
  completionUsers : Int
  ideChatUsers : Int
  dotcomChatUsers : Int
  prSummaryUsers : Int
  suggestions : Int
  acceptances : Int
  linesSuggested : Int
  linesAccepted : Int
  acceptanceRate : Int
  linesAcceptanceRate : Int
  ideChats : Int
  dotcomChats : Int
  chats : Int
  copyEvents : Int
  insertionEvents : Int
  prSummaries : Int
  deriving DecidableEq, Repr

def Figures.ofGroups (s : Snapshot) (completions ideChat dotcomChat pullRequests : GroupSnapshot) :
    Figures :=
  let completed := completions.primarySum .codeCompletions
  let ide := ideChat.primarySum .ideChat
  let dotcom := dotcomChat.primarySum .dotcomChat
  let requests := pullRequests.primarySum .pullRequests
  { day := s.day
    activeUsers := s.activeUsers
    engagedUsers := s.engagedUsers
    completionUsers := completions.engagedUsers
    ideChatUsers := ideChat.engagedUsers
    dotcomChatUsers := dotcomChat.engagedUsers
    prSummaryUsers := pullRequests.engagedUsers
    suggestions := completed.suggestions
    acceptances := completed.acceptances
    linesSuggested := completed.linesSuggested
    linesAccepted := completed.linesAccepted
    acceptanceRate := percentage completed.acceptances completed.suggestions
    linesAcceptanceRate := percentage completed.linesAccepted completed.linesSuggested
    ideChats := ide.chats
    dotcomChats := dotcom.chats
    chats := ide.chats + dotcom.chats
    copyEvents := ide.copyEvents
    insertionEvents := ide.insertionEvents
    prSummaries := requests.prSummaries }

def Figures.ofSnapshot (s : Snapshot) : Except MissingGroup Figures := do
  let completions ← s.require .codeCompletions
  let ideChat ← s.require .ideChat
  let dotcomChat ← s.require .dotcomChat
  let pullRequests ← s.require .pullRequests
  return .ofGroups s completions ideChat dotcomChat pullRequests

end UsageMetrics.Daily
