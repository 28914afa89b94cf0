import UsageMetrics.Text.Quoted

namespace UsageMetrics.Daily

open UsageMetrics.Text

/-- A malformed part of a daily record: without repaired fields an entry without a name that was
dropped, with them an entry or, without a dimension, a whole group that was kept. -/
structure Warning where
  group : String
  dimension : Option String
  day : Option String
  name : Option String
  repaired : List String
  deriving DecidableEq, Repr

namespace Warning

def nothing : String := "None"

def compose (group day : String) (dimension : Option String) (name : String)
    (repaired : List String) : String :=
  let place := group ++ " on " ++ day
  let reset := "Reset invalid " ++ ", ".intercalate repaired ++ " of "
  if repaired.isEmpty then
    "Dropped unnamed " ++ dimension.getD nothing ++ " entity in " ++ place
  else
    match dimension with
    | none => reset ++ place
    | some dimension => reset ++ dimension ++ " " ++ name ++ " in " ++ place

def unknownDate : String := "unknown date"

def dayLabel (w : Warning) : String :=
  match w.day with
  | some day => if day.isEmpty then unknownDate else day
  | none => unknownDate

def message (w : Warning) : String :=
  compose w.group w.dayLabel w.dimension ((w.name.map Quoted.quoted).getD nothing) w.repaired

end Warning

end UsageMetrics.Daily
