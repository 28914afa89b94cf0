import UsageMetrics.Daily.Warning
import UsageMetrics.Feed.Elements
import UsageMetrics.Feed.Signature

namespace UsageMetrics.Daily

open UsageMetrics.Feed

structure Notice where
  group : Value
  dimension : Value
  day : Value
  name : Value
  repaired : List Value
  message : String

inductive NoticeFault where
  | misfit (m : Signature.Misfit)
  | notIterable (n : NotIterable)
  | notText (position : Nat) (kind : String)
  deriving DecidableEq, Repr

namespace Notice

def label : String := "MalformedEntityWarning"

def signature : Signature where
  operation := label ++ ".__init__()"
  required := ["group", "dimension"]
  optional := ["day", "name", "repaired_fields"]
  ofObject := true

def readNames (v : Value) : Except NoticeFault (List Value) :=
  if v.isHollow then .ok [] else v.elements.mapError .notIterable

def readTexts (values : List Value) : Except NoticeFault (List String) :=
  values.zipIdx.mapM fun (value, position) =>
    match value with
    | .text s => .ok s
    | _ => .error (.notText position value.kind)

def dayLabel (day : Value) : String := if day.isHollow then Warning.unknownDate else day.plainText

def dimensionText? : Value → Option String
  | .null => none
  | v => some v.plainText

def ofParts (group dimension day name repaired : Value) : Except NoticeFault Notice := do
  let repaired ← readNames repaired
  let texts ← readTexts repaired
  return {
    group, dimension, day, name, repaired
    message := Warning.compose group.plainText (dayLabel day) (dimensionText? dimension)
      name.literal texts }

def ofGiven (args : List Value) (named : List (String × Value)) : Except NoticeFault Notice := do
  let given ← (signature.bind args named).mapError .misfit
  let part (name : String) : Value := (given.lookup name).getD .null
  ofParts (part "group") (part "dimension") (part "day") (part "name") (part "repaired_fields")

end Notice

namespace NoticeFault

def message : NoticeFault → String
  | misfit m => Notice.signature.message m
  | notIterable n => n.message
  | notText position kind =>
    "sequence item " ++ toString position ++ ": expected str instance, " ++ kind ++ " found"

end NoticeFault

end UsageMetrics.Daily
