namespace UsageMetrics.Feed

inductive Cause where
  | notRecord (shape : String)
  | notText
  | notUnicode
  | notList
  | notMapping
  | notBool
  | notFlag
  | notInteger
  | unreadableInteger
  | fractionalInteger
  | oversizedInteger
  | notDecimal
  | unreadableDecimal
  | notFinite
  | negative
  | tooShort (least : Nat)
  | tooLong (most : Nat)
  | mismatch (pattern : String)
  | missing
  | notAmong (choices : List String)
  | notDate
  | unreadableDate (reason : String)
  | timedDate
  | yearZero
  deriving DecidableEq, Repr

namespace Cause

def enumerate : List String → String
  | [] => ""
  | [only] => only
  | [first, last] => first ++ " or " ++ last
  | first :: rest => first ++ ", " ++ enumerate rest

def characters (n : Nat) : String :=
  toString n ++ if n = 1 then " character" else " characters"

def message : Cause → String
  | .notRecord shape => "Input should be a valid dictionary or instance of " ++ shape
  | .notText => "Input should be a valid string"
  | .notUnicode =>
    "Input should be a valid string, unable to parse raw data as a unicode string"
  | .notList => "Input should be a valid list"
  | .notMapping => "Input should be a valid dictionary"
  | .notBool => "Input should be a valid boolean"
  | .notFlag => "Input should be a valid boolean, unable to interpret input"
  | .notInteger => "Input should be a valid integer"
  | .unreadableInteger => "Input should be a valid integer, unable to parse string as an integer"
  | .fractionalInteger => "Input should be a valid integer, got a number with a fractional part"
  | .oversizedInteger => "Unable to parse input string as an integer, exceeded maximum size"
  | .notDecimal => "Decimal input should be an integer, float, string or Decimal object"
  | .unreadableDecimal => "Input should be a valid decimal"
  | .notFinite => "Input should be a finite number"
  | .negative => "Input should be greater than or equal to 0"
  | .tooShort least => "String should have at least " ++ characters least
  | .tooLong most => "String should have at most " ++ characters most
  | .mismatch pattern => "String should match pattern '" ++ pattern ++ "'"
  | .missing => "Field required"
  | .notAmong choices => "Input should be " ++ enumerate (choices.map fun s => "'" ++ s ++ "'")
  | .notDate => "Input should be a valid date"
  | .unreadableDate reason => "Input should be a valid date or datetime, " ++ reason
  | .timedDate => "Datetimes provided to dates should have zero time - e.g. be exact dates"
  | .yearZero => "Input should be a valid date in the format YYYY-MM-DD, year 0 is out of range"

def code : Cause → String
  | .notRecord _ => "model_type"
  | .notText => "string_type"
  | .notUnicode => "string_unicode"
  | .notList => "list_type"
  | .notMapping => "dict_type"
  | .notBool => "bool_type"
  | .notFlag => "bool_parsing"
  | .notInteger => "int_type"
  | .unreadableInteger => "int_parsing"
  | .fractionalInteger => "int_from_float"
  | .oversizedInteger => "int_parsing_size"
  | .notDecimal => "decimal_type"
  | .unreadableDecimal => "decimal_parsing"
  | .notFinite => "finite_number"
  | .negative => "greater_than_equal"
  | .tooShort _ => "string_too_short"
  | .tooLong _ => "string_too_long"
  | .mismatch _ => "string_pattern_mismatch"
  | .missing => "missing"
  | .notAmong _ => "enum"
  | .notDate => "date_type"
  | .unreadableDate _ => "date_from_datetime_parsing"
  | .timedDate => "date_from_datetime_inexact"
  | .yearZero => "date_parsing"

end Cause

structure Issue where
  path : List String
  cause : Cause
  deriving DecidableEq, Repr

namespace Issue

def within (step : String) (i : Issue) : Issue := { i with path := step :: i.path }

/-- A step that has points in it stands between backticks. -/
def stepText (step : String) : String :=
  if step.toList.contains '.' then "`" ++ step ++ "`" else step

/-- The record itself has no path. -/
def lines (i : Issue) : List String :=
  let reason := "  " ++ i.cause.message ++ " [type=" ++ i.cause.code ++ "]"
  if i.path.isEmpty then [reason] else [".".intercalate (i.path.map stepText), reason]

end Issue

structure Rejection where
  shape : String
  issues : List Issue
  deriving DecidableEq, Repr

namespace Rejection

def message (r : Rejection) : String :=
  let count := r.issues.length
  let title := toString count ++ (if count = 1 then " validation error" else " validation errors")
  "\n".intercalate ((title ++ " for " ++ r.shape) :: r.issues.flatMap Issue.lines)

end Rejection

end UsageMetrics.Feed
