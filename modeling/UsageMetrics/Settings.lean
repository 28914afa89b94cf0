import UsageMetrics.Feed.Fields
import UsageMetrics.Feed.Signature

namespace UsageMetrics

open UsageMetrics.Feed

inductive Statistic where
  | max
  | latest
  deriving DecidableEq, Repr

namespace Statistic

def label : Statistic → String
  | max => "max"
  | latest => "latest"

def ofLabel? (s : String) : Option Statistic :=
  [max, latest].find? fun statistic => statistic.label = s

end Statistic

/-- How a window is looked at. Only the statistic is sure to make sense: what is given for the
others is found out where it is used. -/
structure Settings where
  /-- How many entities the ranked lists keep; all without a value. -/
  topN : Value
  statistic : Statistic
  unknownModel : Value
  currency : Value
  dateLabel : Value

namespace Settings

def default : Settings where
  topN := .integer 5
  statistic := .max
  unknownModel := .text "unknown"
  currency := .text "USD"
  dateLabel := .text "%Y-%m-%d"

inductive Fault where
  | misfit (m : Signature.Misfit)
  | unknownStatistic (given : Value)

def signature : Signature where
  operation := "MetricsConfig.__init__()"
  required := []
  optional :=
    ["top_n", "window_user_statistic", "unknown_model_key", "currency", "date_label_format"]
  ofObject := true

def Fault.message : Fault → String
  | misfit m => signature.message m
  | unknownStatistic given =>
    "window_user_statistic must be one of ('max', 'latest'), got " ++ given.literal

def statisticOf? : Value → Option Statistic
  | .text s => Statistic.ofLabel? s
  | _ => none

def ofGiven (named : List (String × Value)) : Except Fault Settings :=
  match signature.bind [] named with
  | .error misfit => .error (.misfit misfit)
  | .ok given =>
    let valueOr (key : String) (default : Value) : Value := (given.lookup key).getD default
    let statistic := valueOr "window_user_statistic" (.text default.statistic.label)
    match statisticOf? statistic with
    | none => .error (.unknownStatistic statistic)
    | some known =>
      .ok
        { topN := valueOr "top_n" default.topN
          statistic := known
          unknownModel := valueOr "unknown_model_key" default.unknownModel
          currency := valueOr "currency" default.currency
          dateLabel := valueOr "date_label_format" default.dateLabel }

def readTopN (value : Value) : Except Cause Value :=
  match value.readInteger with
  | .ok n => if n < 0 then .error .negative else .ok (.integer n)
  | .error cause => .error cause

def readStatistic (value : Value) : Except Cause Statistic :=
  match value.readText with
  | .ok s => (Statistic.ofLabel? s).elim (.error (.mismatch "^(max|latest)$")) .ok
  | .error cause => .error cause

def readWording (least : Nat) (most : Option Nat) (value : Value) : Except Cause Value :=
  (value.readBounded least most).map .text

def shape : String := "MetricsConfigInput"

def read : Value → Except Rejection Settings
  | .object given =>
    let topN := optionalField given "top_n" default.topN readTopN
    let statistic := optionalField given "window_user_statistic" default.statistic readStatistic
    let unknownModel :=
      optionalField given "unknown_model_key" default.unknownModel (readWording 1 none)
    let currency := optionalField given "currency" default.currency (readWording 3 (some 3))
    let dateLabel := optionalField given "date_label_format" default.dateLabel (readWording 1 none)
    let issues := topN.2 ++ statistic.2 ++ unknownModel.2 ++ currency.2 ++ dateLabel.2
    if issues.isEmpty then
      .ok ⟨topN.1, statistic.1, unknownModel.1, currency.1, dateLabel.1⟩
    else .error ⟨shape, issues⟩
  | _ => .error ⟨shape, [⟨[], .notRecord shape⟩]⟩

end Settings

end UsageMetrics
