import UsageMetrics.Sample.Builder
import UsageMetrics.Sample.Draw

namespace UsageMetrics.Sample

open UsageMetrics.Calendar UsageMetrics.Feed Draw

def languages : List String := ["python", "typescript", "go", "java", "kotlin", "markdown"]

def editors : List String := ["vscode", "JetBrains", "neovim"]

def models : List String := ["default", "claude-sonnet-4", "gpt-4.1"]

def repositories : List String := ["navikt/my-copilot", "navikt/dp-soknad", "navikt/aksel"]

def drawLanguage (name : String) : Draw (Value × String × Nat) := do
  let suggestions ← between 0 400
  let acceptances ← between 0 suggestions
  let lines := suggestions * (← between 1 4)
  let linesAccepted ← between 0 lines
  let users ← between 1 20
  let entry := languageEntry (.text name) (count suggestions) (count acceptances) (count lines)
    (count linesAccepted) (count users)
  return (entry, name, ← between 1 10)

def drawModel (name : String) : Draw ((String × Value) × List (String × Nat)) := do
  let drawn ← (← takeSome 3 languages).mapM drawLanguage
  return ((name, .list (drawn.map Prod.fst)), drawn.map Prod.snd)

def drawEditor (name : String) :
    Draw ((String × List (String × Value)) × List (String × Nat)) := do
  let drawn ← (models.take 2).mapM drawModel
  return ((name, drawn.map Prod.fst), drawn.flatMap Prod.snd)

def tallyUsers : List (String × Nat) → List (String × Nat)
  | [] => []
  | (name, users) :: rest =>
    (name, users + ((rest.filter fun entry => entry.1 = name).map Prod.snd).sum) ::
      (tallyUsers rest).filter fun entry => entry.1 ≠ name

def drawChatModel (name : String) : Draw Value := do
  let users ← between 1 10
  let chats ← between 0 200
  let copies ← between 0 30
  let insertions ← between 0 30
  return .object [("name", .text name), ("total_engaged_users", count users),
    ("total_chats", count chats), ("total_chat_copy_events", count copies),
    ("total_chat_insertion_events", count insertions)]

def drawChatEditor (name : String) : Draw Value := do
  let users ← between 1 20
  let entries ← models.mapM drawChatModel
  return .object [("name", .text name), ("total_engaged_users", count users),
    ("models", .list entries)]

def drawIdeChat : Draw Value := do
  let users ← between 10 40
  let entries ← (editors.take 2).mapM drawChatEditor
  return .object [("total_engaged_users", count users), ("editors", .list entries)]

def drawDotcomChat : Draw Value := do
  let users ← between 1 15
  let modelUsers ← between 1 15
  let chats ← between 0 60
  return .object [("total_engaged_users", count users),
    ("models", .list [.object [("name", .text "default"),
      ("total_engaged_users", count modelUsers), ("total_chats", count chats)]])]

def drawRepository (name : String) : Draw Value := do
  let users ← between 1 4
  let summaries ← between 0 6
  return .object [("name", .text name), ("total_engaged_users", count users),
    ("models", .list [.object [("name", .text "default"), ("total_engaged_users", count 1),
      ("total_pr_summaries_created", count summaries)]])]

def drawPullRequests : Draw Value := do
  let users ← between 1 8
  let entries ← (← takeSome 2 repositories).mapM drawRepository
  return .object [("total_engaged_users", count users), ("repositories", .list entries)]

/-- A day of telemetry. Every seventh day has no chats on the site and every fifth one no pull
requests. -/
def drawDay (day : Day) (offset : Nat) : Draw Value := do
  let active ← between 80 120
  let engaged ← between 40 active
  let drawn ← editors.mapM drawEditor
  let ideChat ← drawIdeChat
  let completionUsers ← between 30 engaged
  let dotcomChat ← if offset % 7 = 6 then pure .null else drawDotcomChat
  let pullRequests ← if offset % 5 = 4 then pure .null else drawPullRequests
  let listed := (tallyUsers (drawn.flatMap Prod.snd)).map fun (name, n) => (name, count n)
  return dailyRecord (.text day.iso) (count active) (count engaged)
    (completionsGroup (drawn.map Prod.fst) listed (count completionUsers)) ideChat dotcomChat
    pullRequests

def drawWindow (days : List Day) : Draw (List Value) := do
  let records ← days.zipIdx.mapM fun (day, offset) => drawDay day offset
  shuffle records

/-- A window of made-up telemetry in no particular order, the same for each seed; the calendar must
have all its days. -/
def telemetry? (days : Int) (start : Day) (seed : Nat) : Option (List Value) :=
  (start.run? days.toNat).bind fun window =>
    ((drawWindow window).run (Twister.ofSeed seed)).map Prod.fst

end UsageMetrics.Sample
