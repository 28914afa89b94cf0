import UsageMetrics.Window.Ranking

namespace UsageMetrics.Window

open UsageMetrics.Metric UsageMetrics.Number

namespace Aggregate

def slice (a : Aggregate) (group : MetricGroup) (dimension : Dimension) : List Entity :=
  (a.entities.slice group dimension).values

def topLanguages (a : Aggregate) (top : Option Nat) : List RankedEntity :=
  rank (a.slice .codeCompletions .language) top

def editorStats (a : Aggregate) (top : Option Nat) : List RankedEntity :=
  rank (a.slice .codeCompletions .editor) top

def chatEditorStats (a : Aggregate) (top : Option Nat) : List RankedEntity :=
  rank (a.slice .ideChat .editor) top

def repositoryStats (a : Aggregate) (top : Option Nat) : List RankedEntity :=
  rank (a.slice .pullRequests .repository) top

/-- A model has a row for each group that it was used in; the groups are ranked one by one. -/
def modelUsage (a : Aggregate) (top : Option Nat) : List RankedEntity :=
  MetricGroup.all.flatMap fun group => rank (a.slice group .model) top

end Aggregate

structure ChatStats where
  chats : Int
  ideChats : Int
  dotcomChats : Int
  copyEvents : Int
  insertionEvents : Int
  ideUsers : Int
  dotcomUsers : Int
  deriving DecidableEq, Repr

def Aggregate.chatStats (a : Aggregate) : ChatStats where
  chats := a.chats
  ideChats := a.ideChats
  dotcomChats := a.dotcomChats
  copyEvents := a.copyEvents
  insertionEvents := a.insertionEvents
  ideUsers := a.groupEngagedUsers.ideChat
  dotcomUsers := a.groupEngagedUsers.dotcomChat

structure FeatureAdoption where
  activeUsers : Int
  users : PerGroup Int
  rates : PerGroup Int
  deriving DecidableEq, Repr

def Aggregate.featureAdoption (a : Aggregate) : FeatureAdoption where
  activeUsers := a.activeUsers
  users := a.groupEngagedUsers
  rates := .ofFn fun group => percentage (a.groupEngagedUsers.get group) a.activeUsers

structure PullRequestSummary where
  engagedUsers : Int
  summaries : Int
  repositoryCount : Nat
  repositories : List RankedEntity
  deriving DecidableEq, Repr

def repositoryLimit : Option Nat := some 10

def Aggregate.pullRequestSummary (a : Aggregate) (top : Option Nat) : PullRequestSummary where
  engagedUsers := a.groupEngagedUsers.pullRequests
  summaries := a.prSummaries
  repositoryCount := (a.slice .pullRequests .repository).length
  repositories := a.repositoryStats top

end UsageMetrics.Window
