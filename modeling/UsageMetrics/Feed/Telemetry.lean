import UsageMetrics.Feed.Record

namespace UsageMetrics.Feed

/-- What an entry of the feed says of itself: its name, and the fields that were reset. -/
structure Tag where
  name : Option String
  repaired : List String
  deriving DecidableEq, Repr

structure LanguageUsers where
  tag : Tag
  engagedUsers : Nat
  deriving DecidableEq, Repr

/-- The completions of a language under one model of one editor. -/
structure LanguageActivity where
  tag : Tag
  engagedUsers : Nat
  suggestions : Nat
  acceptances : Nat
  linesSuggested : Nat
  linesAccepted : Nat
  deriving DecidableEq, Repr

structure CompletionModel where
  tag : Tag
  engagedUsers : Nat
  isCustom : Bool
  languages : List LanguageActivity
  deriving DecidableEq, Repr

structure CompletionEditor where
  tag : Tag
  engagedUsers : Nat
  models : List CompletionModel
  deriving DecidableEq, Repr

structure Completions where
  repaired : List String
  engagedUsers : Nat
  languages : List LanguageUsers
  editors : List CompletionEditor
  deriving DecidableEq, Repr

structure ChatModel where
  tag : Tag
  engagedUsers : Nat
  isCustom : Bool
  chats : Nat
  copyEvents : Nat
  insertionEvents : Nat
  deriving DecidableEq, Repr

structure ChatEditor where
  tag : Tag
  engagedUsers : Nat
  models : List ChatModel
  deriving DecidableEq, Repr

structure IdeChat where
  repaired : List String
  engagedUsers : Nat
  editors : List ChatEditor
  deriving DecidableEq, Repr

structure DotcomChatModel where
  tag : Tag
  engagedUsers : Nat
  isCustom : Bool
  chats : Nat
  deriving DecidableEq, Repr

structure DotcomChat where
  repaired : List String
  engagedUsers : Nat
  models : List DotcomChatModel
  deriving DecidableEq, Repr

structure PullRequestModel where
  tag : Tag
  engagedUsers : Nat
  isCustom : Bool
  summaries : Nat
  deriving DecidableEq, Repr

structure Repository where
  tag : Tag
  engagedUsers : Nat
  models : List PullRequestModel
  deriving DecidableEq, Repr

structure PullRequests where
  repaired : List String
  engagedUsers : Nat
  repositories : List Repository
  deriving DecidableEq, Repr

structure DailyRecord where
  repaired : List String
  date : Option String
  activeUsers : Nat
  engagedUsers : Nat
  completions : Completions
  ideChat : IdeChat
  dotcomChat : DotcomChat
  pullRequests : PullRequests
  deriving DecidableEq, Repr

namespace Record

def tag (r : Record) : Tag := ⟨r.text "name", r.repaired⟩

def users (r : Record) : Nat := r.count "total_engaged_users"

def isCustom (r : Record) : Bool := r.flag "is_custom_model"

def languageUsers (r : Record) : LanguageUsers := ⟨r.tag, r.users⟩

def languageActivity (r : Record) : LanguageActivity where
  tag := r.tag
  engagedUsers := r.users
  suggestions := r.count "total_code_suggestions"
  acceptances := r.count "total_code_acceptances"
  linesSuggested := r.count "total_code_lines_suggested"
  linesAccepted := r.count "total_code_lines_accepted"

def completionModel (r : Record) : CompletionModel :=
  ⟨r.tag, r.users, r.isCustom, (r.many "languages").map languageActivity⟩

def completionEditor (r : Record) : CompletionEditor :=
  ⟨r.tag, r.users, (r.many "models").map completionModel⟩

def completions (r : Record) : Completions where
  repaired := r.repaired
  engagedUsers := r.users
  languages := (r.many "languages").map languageUsers
  editors := (r.many "editors").map completionEditor

def chatModel (r : Record) : ChatModel where
  tag := r.tag
  engagedUsers := r.users
  isCustom := r.isCustom
  chats := r.count "total_chats"
  copyEvents := r.count "total_chat_copy_events"
  insertionEvents := r.count "total_chat_insertion_events"

def chatEditor (r : Record) : ChatEditor := ⟨r.tag, r.users, (r.many "models").map chatModel⟩

def ideChat (r : Record) : IdeChat := ⟨r.repaired, r.users, (r.many "editors").map chatEditor⟩

def dotcomChatModel (r : Record) : DotcomChatModel :=
  ⟨r.tag, r.users, r.isCustom, r.count "total_chats"⟩

def dotcomChat (r : Record) : DotcomChat :=
  ⟨r.repaired, r.users, (r.many "models").map dotcomChatModel⟩

def pullRequestModel (r : Record) : PullRequestModel :=
  ⟨r.tag, r.users, r.isCustom, r.count "total_pr_summaries_created"⟩

def repository (r : Record) : Repository := ⟨r.tag, r.users, (r.many "models").map pullRequestModel⟩

def pullRequests (r : Record) : PullRequests :=
  ⟨r.repaired, r.users, (r.many "repositories").map repository⟩

def daily (r : Record) : DailyRecord where
  repaired := r.repaired
  date := r.text "date"
  activeUsers := r.count "total_active_users"
  engagedUsers := r.count "total_engaged_users"
  completions := (r.one "copilot_ide_code_completions").completions
  ideChat := (r.one "copilot_ide_chat").ideChat
  dotcomChat := (r.one "copilot_dotcom_chat").dotcomChat
  pullRequests := (r.one "copilot_dotcom_pull_requests").pullRequests

end Record

end UsageMetrics.Feed
