import UsageMetrics.Feed.Signature

namespace UsageMetrics.Sample

open UsageMetrics.Feed

def count (n : Nat) : Value := .integer n

def languageEntry (name suggestions acceptances linesSuggested linesAccepted users : Value) :
    Value :=
  .object [("name", name), ("total_engaged_users", users),
    ("total_code_suggestions", suggestions), ("total_code_acceptances", acceptances),
    ("total_code_lines_suggested", linesSuggested), ("total_code_lines_accepted", linesAccepted)]

def modelEntry (model : String × Value) : Value :=
  .object [("name", .text model.1), ("is_custom_model", .bool false), ("languages", model.2)]

def editorEntry (users : Value) (editor : String × List (String × Value)) : Value :=
  .object [("name", .text editor.1), ("total_engaged_users", users),
    ("models", .list (editor.2.map modelEntry))]

/-- A group of completions from the languages of each model of each editor, and from the users of
each language; every editor has as many users as the group. -/
def completionsGroup (editors : List (String × List (String × Value)))
    (languages : List (String × Value)) (users : Value) : Value :=
  .object [("total_engaged_users", users),
    ("languages", .list (languages.map fun (name, n) =>
      .object [("name", .text name), ("total_engaged_users", n)])),
    ("editors", .list (editors.map (editorEntry users)))]

/-- A daily record; what is not given is left out, but for the date. -/
def dailyRecord (day : Value)
    (activeUsers engagedUsers completions ideChat dotcomChat pullRequests : Value) : Value :=
  let optional :=
    [("total_active_users", activeUsers), ("total_engaged_users", engagedUsers),
      ("copilot_ide_code_completions", completions), ("copilot_ide_chat", ideChat),
      ("copilot_dotcom_chat", dotcomChat), ("copilot_dotcom_pull_requests", pullRequests)]
  .object (("date", day) :: optional.filter fun field =>
    match field.2 with
    | .null => false
    | _ => true)

inductive BuildFault where
  | misfit (s : Signature) (m : Signature.Misfit)
  | noEntries (kind : String)
  deriving DecidableEq, Repr

def entriesOf : Value → Except BuildFault (List (String × Value))
  | .object entries => .ok entries
  | v => .error (.noEntries v.kind)

inductive Part where
  | languageEntry
  | completionsGroup
  | dailyRecord
  deriving DecidableEq, Repr

namespace Part

def signature : Part → Signature
  | languageEntry =>
    ⟨"language_entry()", ["name"],
      ["suggestions", "acceptances", "lines_suggested", "lines_accepted", "engaged_users"], false⟩
  | completionsGroup => ⟨"completions_group()", ["editors"], ["languages", "engaged_users"], false⟩
  | dailyRecord =>
    ⟨"make_snapshot()", ["day"],
      ["active_users", "engaged_users", "completions", "ide_chat", "dotcom_chat", "pull_requests"],
      false⟩

def build (p : Part) (named : List (String × Value)) : Except BuildFault Value := do
  let given ← (p.signature.bind [] named).mapError (.misfit p.signature)
  let part (name : String) : Value := (given.lookup name).getD .null
  let orZero (name : String) : Value := (given.lookup name).getD (count 0)
  match p with
  | languageEntry =>
    return Sample.languageEntry (part "name") (orZero "suggestions") (orZero "acceptances")
      (orZero "lines_suggested") (orZero "lines_accepted") (orZero "engaged_users")
  | completionsGroup =>
    let languages ← if (part "languages").isHollow then pure [] else entriesOf (part "languages")
    let editors ← (← entriesOf (part "editors")).mapM fun (editor, models) =>
      return (editor, ← entriesOf models)
    return Sample.completionsGroup editors languages (orZero "engaged_users")
  | dailyRecord =>
    return Sample.dailyRecord (part "day") (part "active_users") (part "engaged_users")
      (part "completions") (part "ide_chat") (part "dotcom_chat") (part "pull_requests")

end Part

end UsageMetrics.Sample
