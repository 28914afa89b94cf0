import UsageMetrics.Billing.Costs
import UsageMetrics.Daily.Notice
import UsageMetrics.Feed.Arithmetic
import UsageMetrics.Feed.Elements
import UsageMetrics.Sample.Seed
import UsageMetrics.Window.Summary

namespace UsageMetrics

open UsageMetrics.Feed

/-- The classes of errors that belong to a phase of the work, with what is said of an error beside
its message. -/
inductive PhaseClass where
  | general (phase : Value)
  | dataValidation
  | invalidSnapshot (index : Value)
  | emptyWindow (source : Value)
  | calculation
  | exporting

namespace PhaseClass

def label : PhaseClass → String
  | general _ => "PipelinePhaseError"
  | dataValidation => "DataValidationError"
  | invalidSnapshot _ => "InvalidSnapshotError"
  | emptyWindow _ => "EmptyWindowError"
  | calculation => "MetricsCalculationError"
  | exporting => "ExportError"

def phase : PhaseClass → Value
  | general phase => phase
  | dataValidation => .text "VALIDATION"
  | invalidSnapshot _ => .text "VALIDATION"
  | emptyWindow _ => .text "AGGREGATE"
  | calculation => .text "CALCULATE"
  | exporting => .text "EXPORT"

def plain : List PhaseClass :=
  [general (.text ""), dataValidation, invalidSnapshot .null, emptyWindow (.text ""), calculation,
    exporting]

def ofLabel? (s : String) : Option PhaseClass := plain.find? fun c => c.label = s

def ownParameter? : PhaseClass → Option String
  | general _ => some "phase"
  | invalidSnapshot _ => some "index"
  | emptyWindow _ => some "feed"
  | _ => none

def signature (c : PhaseClass) : Signature where
  operation := c.label ++ ".__init__()"
  required := ["message"]
  optional := c.ownParameter?.toList ++ ["details"]
  ofObject := true

def saying (value : Value) : PhaseClass → PhaseClass
  | general _ => general value
  | invalidSnapshot _ => invalidSnapshot value
  | emptyWindow _ => emptyWindow value
  | c => c

end PhaseClass

structure PhaseError where
  phaseClass : PhaseClass
  message : String
  details : Value

/-- An error of a class from the arguments that it is made with; hollow details are none. -/
def PhaseError.ofGiven (c : PhaseClass) (args : List Value) (named : List (String × Value)) :
    Except Signature.Misfit PhaseError :=
  (c.signature.bind args named).map fun given =>
    let details := (given.lookup "details").getD .null
    { phaseClass :=
        match c.ownParameter?.bind fun name => given.lookup name with
        | some value => c.saying value
        | none => c
      message := ((given.lookup "message").getD .null).plainText
      details := if details.isHollow then .object [] else details }

inductive Failure where
  | phase (e : PhaseError)
  | rejected (r : Rejection)
  | notIterable (n : NotIterable)
  | unsized (kind : String)
  | lacksMember (kind member : String)
  | notMember (given : Value) (members : String)
  | operand (f : OperandFault)
  | notCounting (kind : String)
  | unhashable (kind : String)
  | unseedable
  /-- An operation is given named arguments that have no names. -/
  | notMapping (operation kind : String)
  | repeatedKeyword (operation name : String)
  | oddKeyword
  | notSequence (operation kind : String)
  | unknownMember (origin name : String)
  /-- Counts stand under no key. -/
  | keyless
  | notSubscriptable (kind : String)
  | misfit (s : Signature) (m : Signature.Misfit)
  | notice (f : Daily.NoticeFault)
  | settings (f : Settings.Fault)
  | limit (f : Window.LimitFault)
  | pattern (f : Window.LabelFault)
  | missingGroup (m : Daily.MissingGroup)
  | costs (f : Billing.CostsFault)
  | unknownDirectory (directory : String)
  | unknownFile (path : String)
  | unprintable (text : String)
  | longNumeral
  | dayOutOfRange
  | oversizedPosition
  | emptyPop
  | positionOutOfRange
  | raised (label : String) (arguments : List Value)

namespace Failure

def label : Failure → String
  | phase e => e.phaseClass.label
  | rejected _ => "ValidationError"
  | notIterable _ => "TypeError"
  | unsized _ => "TypeError"
  | lacksMember _ _ => "AttributeError"
  | notMember _ _ => "ValueError"
  | operand .oversized => "OverflowError"
  | operand _ => "TypeError"
  | notCounting _ => "TypeError"
  | unhashable _ => "TypeError"
  | unseedable => "TypeError"
  | notMapping _ _ => "TypeError"
  | repeatedKeyword _ _ => "TypeError"
  | oddKeyword => "TypeError"
  | notSequence _ _ => "TypeError"
  | unknownMember _ _ => "AttributeError"
  | keyless => "TypeError"
  | notSubscriptable _ => "TypeError"
  | misfit _ _ => "TypeError"
  | notice _ => "TypeError"
  | settings (.misfit _) => "TypeError"
  | settings (.unknownStatistic _) => "ValueError"
  | limit (.negative _) => "ValueError"
  | limit (.unordered _) => "TypeError"
  | limit .uncounted => "TypeError"
  | pattern _ => "TypeError"
  | missingGroup _ => "KeyError"
  | costs .overflow => "Overflow"
  | costs (.unhashable _) => "TypeError"
  | costs (.rejected _) => "ValidationError"
  | unknownDirectory _ => "OSError"
  | unknownFile _ => "FileNotFoundError"
  | unprintable _ => "IllegalCharacterError"
  | longNumeral => "ValueError"
  | dayOutOfRange => "OverflowError"
  | oversizedPosition => "OverflowError"
  | emptyPop => "IndexError"
  | positionOutOfRange => "IndexError"
  | raised label _ => label

def argumentText (label : String) (arguments : List Value) : String :=
  match arguments with
  | [] => ""
  | [only] => if label = "KeyError" then only.literal else only.plainText
  | several => (Value.tuple several).literal

def message : Failure → String
  | phase e => e.message
  | rejected r => r.message
  | notIterable n => n.message
  | unsized kind => "object of type '" ++ kind ++ "' has no len()"
  | lacksMember kind member =>
    "'" ++ kind ++ "' object has no attribute '" ++ member ++ "'"
  | notMember given members => given.literal ++ " is not a valid " ++ members
  | operand f => f.message
  | notCounting kind => "'" ++ kind ++ "' object cannot be interpreted as an integer"
  | unhashable kind => "unhashable type: '" ++ kind ++ "'"
  | unseedable => "The only supported seed types are: " ++ Sample.Seed.kinds ++ "."
  | notMapping operation kind =>
    operation ++ " argument after ** must be a mapping, not " ++ kind
  | repeatedKeyword operation name =>
    operation ++ " got multiple values for keyword argument '" ++ name ++ "'"
  | oddKeyword => "keywords must be strings"
  | notSequence operation kind =>
    operation ++ " argument after * must be an iterable, not " ++ kind
  | unknownMember origin name =>
    "module '" ++ origin ++ "' has no attribute '" ++ name ++ "'"
  | keyless => "cannot unpack non-iterable NoneType object"
  | notSubscriptable kind => "'" ++ kind ++ "' object is not subscriptable"
  | misfit s m => s.message m
  | notice f => f.message
  | settings f => f.message
  | limit f => f.message
  | pattern f => f.message
  | missingGroup m => m.message
  | costs f => f.message
  | unknownDirectory directory =>
    "Cannot save file into a non-existent directory: '" ++ directory ++ "'"
  | unknownFile path => "[Errno 2] No such file or directory: '" ++ path ++ "'"
  | unprintable text => text ++ " cannot be used in worksheets."
  | longNumeral => "Exceeds the limit (" ++ toString Number.longestNumeral ++
      " digits) for integer string conversion; " ++
      "use sys.set_int_max_str_digits() to increase the limit"
  | dayOutOfRange => "date value out of range"
  | oversizedPosition => "Python int too large to convert to C ssize_t"
  | emptyPop => "pop from empty list"
  | positionOutOfRange => "pop index out of range"
  | raised label arguments => argumentText label arguments

def plainLabels : List String :=
  ["ValueError", "KeyError", "TypeError", "RuntimeError", "ZeroDivisionError"]

def maker (label : String) : String :=
  (if plainLabels.contains label then "" else "error_handling.") ++ label ++ "()"

def ofArguments? (label : String) (arguments : List Value) : Option Failure :=
  match PhaseClass.ofLabel? label with
  | some c =>
    match PhaseError.ofGiven c arguments [] with
    | .ok e => some (.phase e)
    | .error m => some (.misfit c.signature m)
  | none =>
    if label = Daily.Notice.label then
      match Daily.Notice.ofGiven arguments [] with
      | .ok n => some (.raised label [.text n.message])
      | .error fault => some (.notice fault)
    else if plainLabels.contains label then some (.raised label arguments)
    else none

/-- The failure that comes of an error with a value to go through for its arguments. A class that is
not known is missing like a key. -/
def ofGiven (label arguments : Value) : Failure :=
  match label with
  | .text s =>
    match arguments.elements?, ofArguments? s (arguments.elements?.getD []) with
    | some _, some f => f
    | none, some _ => .notSequence (maker s) arguments.kind
    | _, none => .raised "KeyError" [label]
  | _ => if label.isHashable then .raised "KeyError" [label] else .unhashable label.kind

end Failure

structure Phase where
  name : String
  work : String
  failureClass : PhaseClass

namespace Phase

def aggregate : Phase := ⟨"AGGREGATE", "aggregate_window", .calculation⟩

def premium : Phase := ⟨"PREMIUM", "calculate_premium_metrics", .calculation⟩

def seriesExport : Phase := ⟨"EXPORT_CSV", "export_daily_series_to_csv", .exporting⟩

def rankingsExport : Phase := ⟨"EXPORT_CSV", "export_rankings_to_csv", .exporting⟩

def costsExport : Phase := ⟨"EXPORT_CSV", "export_premium_breakdown_to_csv", .exporting⟩

def workbookExport : Phase := ⟨"EXPORT_EXCEL", "export_summary_to_excel", .exporting⟩

/-- A failure inside a phase becomes one of the phase's class, unless it belongs to a phase
already. -/
def wrap (p : Phase) : Failure → Failure
  | .phase e => .phase e
  | cause =>
    .phase
      { phaseClass := p.failureClass
        message := p.name ++ " failed in " ++ p.work ++ ": " ++ cause.message
        details := .object [("function", .text p.work), ("original_error", .text cause.message)] }

def run {α : Type} (p : Phase) (result : Except Failure α) : Except Failure α :=
  result.mapError p.wrap

end Phase

def PhaseError.ofRefusal (index : Value) (r : Daily.Refusal) : PhaseError :=
  let details :=
    match r with
    | .invalid rejection => [("error", Value.text rejection.message)]
    | .undated => []
    | .notDay text => [("date", .text text)]
  { phaseClass := .invalidSnapshot index
    message := r.message
    details := .object (("index", index) :: details) }

def PhaseError.ofNoData (n : NoData) : PhaseError where
  phaseClass := .emptyWindow (.text n.source.label)
  message := n.message
  details := .object
    [("input_records", .integer n.inputRecords), ("skipped_records", .integer n.skippedRecords)]

end UsageMetrics
