import UsageMetrics.Phase

namespace UsageMetrics.Journal

inductive Level where
  | debug
  | info
  | warning
  | error
  deriving DecidableEq, Repr

def Level.label : Level → String
  | debug => "DEBUG"
  | info => "INFO"
  | warning => "WARNING"
  | error => "ERROR"

structure Entry where
  source : String
  level : Level
  message : String
  deriving DecidableEq, Repr

def Entry.render (e : Entry) : String :=
  let text := e.source ++ " - " ++ e.level.label ++ " - " ++ e.message
  String.ofList (text.toList.reverse.dropWhile (· = '\n')).reverse

/-- The end of a phase. A failure that belongs to a phase already has been told there. -/
def phaseEnd {α : Type} (p : Phase) : Except Failure α → List Entry
  | .ok _ =>
    [⟨"error_handling", .debug,
      "[" ++ p.name ++ "] Completed phase '" ++ p.work ++ "' successfully"⟩]
  | .error (.phase _) => []
  | .error cause =>
    [⟨"error_handling", .error,
      "[" ++ p.name ++ "] Error in '" ++ p.work ++ "': " ++ cause.message⟩]

def phase {α : Type} (p : Phase) (result : Except Failure α) (work : List Entry) : List Entry :=
  ⟨"error_handling", .debug, "[" ++ p.name ++ "] Starting phase '" ++ p.work ++ "'"⟩ ::
    work ++ phaseEnd p result

def counted (parts : List (Nat × String)) : String :=
  String.join (parts.map fun (n, text) => toString n ++ text)

end UsageMetrics.Journal
