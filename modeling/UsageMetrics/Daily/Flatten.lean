import UsageMetrics.Daily.Breakdown
import UsageMetrics.Feed.Shape

namespace UsageMetrics.Daily

open UsageMetrics.Metric UsageMetrics.Feed

def addTo (key? : Option EntityKey) (amounts : List (Counter × Nat)) : List Action :=
  match key? with
  | none => []
  | some key => [.add key (amounts.map fun (counter, n) => (counter.label, (n : Int)))]

def markCustom (key? : Option EntityKey) (isCustom : Bool) : List Action :=
  match key? with
  | none => []
  | some key => if isCustom then [.custom key] else []

namespace Completions

def amounts (l : LanguageActivity) : List (Counter × Nat) :=
  [(.suggestions, l.suggestions), (.acceptances, l.acceptances),
    (.linesSuggested, l.linesSuggested), (.linesAccepted, l.linesAccepted)]

/-- The completions of a language count for its editor, its model and itself. -/
def languageActions (editorKey? modelKey? : Option EntityKey) (l : LanguageActivity) :
    List Action :=
  addTo editorKey? (amounts l) ++ addTo modelKey? (amounts l) ++
    .accept .language l.tag :: addTo (entryKey? .language l.tag) (amounts l)

def modelActions (editorKey? : Option EntityKey) (m : CompletionModel) : List Action :=
  let modelKey? := entryKey? .model m.tag
  .accept .model m.tag :: addTo modelKey? [(.engagedUsers, m.engagedUsers)] ++
    markCustom modelKey? m.isCustom ++ m.languages.flatMap (languageActions editorKey? modelKey?)

def editorActions (e : CompletionEditor) : List Action :=
  let editorKey? := entryKey? .editor e.tag
  .accept .editor e.tag :: addTo editorKey? [(.engagedUsers, e.engagedUsers)] ++
    e.models.flatMap (modelActions editorKey?)

def listedKeys (c : Completions) : List EntityKey :=
  c.languages.filterMap fun l => entryKey? .language l.tag

def nestedLanguages (c : Completions) : List LanguageActivity :=
  c.editors.flatMap fun e => e.models.flatMap CompletionModel.languages

def listedUsers (l : LanguageUsers) : List Action :=
  addTo (entryKey? .language l.tag) [(.engagedUsers, l.engagedUsers)]

/-- The users of a language that the group does not list are at least those of each of its
entries. -/
def nestedUsers (c : Completions) (l : LanguageActivity) : List Action :=
  match entryKey? .language l.tag with
  | none => []
  | some key =>
    if (listedKeys c).contains key then []
    else [.raise key Counter.engagedUsers.label l.engagedUsers]

def actions (c : Completions) : List Action :=
  c.languages.map (fun l => .accept .language l.tag) ++ c.editors.flatMap editorActions ++
    c.languages.flatMap listedUsers ++ (nestedLanguages c).flatMap (nestedUsers c)

end Completions

namespace IdeChat

def amounts (m : ChatModel) : List (Counter × Nat) :=
  [(.chats, m.chats), (.copyEvents, m.copyEvents), (.insertionEvents, m.insertionEvents)]

def modelActions (editorKey? : Option EntityKey) (m : ChatModel) : List Action :=
  let modelKey? := entryKey? .model m.tag
  addTo editorKey? (amounts m) ++ .accept .model m.tag ::
    addTo modelKey? ((.engagedUsers, m.engagedUsers) :: amounts m) ++
    markCustom modelKey? m.isCustom

def editorActions (e : ChatEditor) : List Action :=
  let editorKey? := entryKey? .editor e.tag
  .accept .editor e.tag :: addTo editorKey? [(.engagedUsers, e.engagedUsers)] ++
    e.models.flatMap (modelActions editorKey?)

def actions (c : IdeChat) : List Action := c.editors.flatMap editorActions

end IdeChat

namespace DotcomChat

def modelActions (m : DotcomChatModel) : List Action :=
  let modelKey? := entryKey? .model m.tag
  .accept .model m.tag ::
    addTo modelKey? [(.engagedUsers, m.engagedUsers), (.chats, m.chats)] ++
    markCustom modelKey? m.isCustom

def actions (c : DotcomChat) : List Action := c.models.flatMap modelActions

end DotcomChat

namespace PullRequests

def modelActions (repositoryKey? : Option EntityKey) (m : PullRequestModel) : List Action :=
  let modelKey? := entryKey? .model m.tag
  addTo repositoryKey? [(.prSummaries, m.summaries)] ++ .accept .model m.tag ::
    addTo modelKey? [(.engagedUsers, m.engagedUsers), (.prSummaries, m.summaries)] ++
    markCustom modelKey? m.isCustom

def repositoryActions (r : Repository) : List Action :=
  let repositoryKey? := entryKey? .repository r.tag
  .accept .repository r.tag :: addTo repositoryKey? [(.engagedUsers, r.engagedUsers)] ++
    r.models.flatMap (modelActions repositoryKey?)

def actions (p : PullRequests) : List Action := p.repositories.flatMap repositoryActions

end PullRequests

def recordKey : MetricGroup → String
  | .codeCompletions => "copilot_ide_code_completions"
  | .ideChat => "copilot_ide_chat"
  | .dotcomChat => "copilot_dotcom_chat"
  | .pullRequests => "copilot_dotcom_pull_requests"

def groupShape : MetricGroup → Shape
  | .codeCompletions => .completions
  | .ideChat => .ideChat
  | .dotcomChat => .dotcomChat
  | .pullRequests => .pullRequests

def listDimension : String → Dimension
  | "languages" => .language
  | "editors" => .editor
  | "models" => .model
  | _ => .repository

/-- What the collector of a group hands over: its own repaired fields, its users and the changes
that its entries make. -/
structure GroupFeed where
  field : String
  repaired : List String
  engagedUsers : Nat
  actions : List Action

def groupFeed (r : DailyRecord) : MetricGroup → GroupFeed
  | .codeCompletions =>
    ⟨"copilot_ide_code_completions", r.completions.repaired, r.completions.engagedUsers,
      Completions.actions r.completions⟩
  | .ideChat =>
    ⟨"copilot_ide_chat", r.ideChat.repaired, r.ideChat.engagedUsers, IdeChat.actions r.ideChat⟩
  | .dotcomChat =>
    ⟨"copilot_dotcom_chat", r.dotcomChat.repaired, r.dotcomChat.engagedUsers,
      DotcomChat.actions r.dotcomChat⟩
  | .pullRequests =>
    ⟨"copilot_dotcom_pull_requests", r.pullRequests.repaired, r.pullRequests.engagedUsers,
      PullRequests.actions r.pullRequests⟩

end UsageMetrics.Daily
