import UsageMetrics.Feed.Record

namespace UsageMetrics.Feed

mutual

inductive Kind where
  | text
  | day
  | count
  | flag
  | one (shape : Shape)
  | many (shape : Shape)

inductive Shape where
  | mk (name : String) (fields : List (String × Kind))

end

namespace Shape

def name : Shape → String
  | .mk name _ => name

def fields : Shape → List (String × Kind)
  | .mk _ fields => fields

def entry (name : String) (fields : List (String × Kind)) : Shape :=
  .mk name ([("name", .text), ("total_engaged_users", .count)] ++ fields)

def modelEntry (name : String) (fields : List (String × Kind)) : Shape :=
  entry name ([("is_custom_model", .flag), ("custom_model_training_date", .text)] ++ fields)

def languageUsers : Shape := entry "RawNamedEntry" []

def languageActivity : Shape :=
  entry "RawCompletionLanguage"
    [("total_code_suggestions", .count), ("total_code_acceptances", .count),
      ("total_code_lines_suggested", .count), ("total_code_lines_accepted", .count)]

def completionModel : Shape :=
  modelEntry "RawCompletionModel" [("languages", .many languageActivity)]

def completionEditor : Shape := entry "RawCompletionEditor" [("models", .many completionModel)]

def completions : Shape :=
  .mk "RawCodeCompletions"
    [("total_engaged_users", .count), ("languages", .many languageUsers),
      ("editors", .many completionEditor)]

def chatModel : Shape :=
  modelEntry "RawIdeChatModel"
    [("total_chats", .count), ("total_chat_insertion_events", .count),
      ("total_chat_copy_events", .count)]

def chatEditor : Shape := entry "RawIdeChatEditor" [("models", .many chatModel)]

def ideChat : Shape :=
  .mk "RawIdeChat" [("total_engaged_users", .count), ("editors", .many chatEditor)]

def dotcomChatModel : Shape := modelEntry "RawDotcomChatModel" [("total_chats", .count)]

def dotcomChat : Shape :=
  .mk "RawDotcomChat" [("total_engaged_users", .count), ("models", .many dotcomChatModel)]

def pullRequestModel : Shape :=
  modelEntry "RawPullRequestModel" [("total_pr_summaries_created", .count)]

def repository : Shape := entry "RawPullRequestRepository" [("models", .many pullRequestModel)]

def pullRequests : Shape :=
  .mk "RawPullRequests" [("total_engaged_users", .count), ("repositories", .many repository)]

def daily : Shape :=
  .mk "RawDailySnapshot"
    [("date", .day), ("total_active_users", .count), ("total_engaged_users", .count),
      ("copilot_ide_code_completions", .one completions), ("copilot_ide_chat", .one ideChat),
      ("copilot_dotcom_chat", .one dotcomChat),
      ("copilot_dotcom_pull_requests", .one pullRequests)]

end Shape

mutual

def Kind.blank : Kind → Field
  | .text => .text none
  | .day => .text none
  | .count => .count 0
  | .flag => .flag false
  | .one shape => .one shape.blank
  | .many _ => .many []

def Shape.blank : Shape → Record
  | .mk _ fields => .mk [] (blankFields fields)

def blankFields : List (String × Kind) → List (String × Field)
  | [] => []
  | field :: rest => blankField field :: blankFields rest

def blankField : String × Kind → String × Field
  | (name, kind) => (name, kind.blank)

end

end UsageMetrics.Feed
