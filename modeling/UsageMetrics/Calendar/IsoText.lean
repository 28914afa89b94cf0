import UsageMetrics.Calendar.Day
import UsageMetrics.Text.Quoted

namespace UsageMetrics.Calendar

open UsageMetrics.Text

attribute [local instance (high)] Zero.ofOfNat0

/-- The ordinal of the Monday that opens a year's first week, the one that has its first
Thursday. -/
def firstMonday (year : Nat) : Nat :=
  let newYear := Day.daysBeforeYear year + 1
  let weekday := (newYear + 6) % 7
  if weekday > 3 then newYear + 7 - weekday else newYear - weekday

/-- A long year begins on a Thursday, or on a Wednesday and has a leap day. -/
def isLongYear (year : Nat) : Bool :=
  let weekday := (Day.daysBeforeYear year + 7) % 7
  weekday = 3 || (weekday = 2 && isLeap year)

def isWeek (year week : Nat) : Bool :=
  1 ≤ week && (week ≤ 52 || (week = 53 && isLongYear year))

inductive DateFault where
  | unreadable
  | year (given : Nat)
  | month
  | day
  deriving DecidableEq, Repr

def DateFault.message (text : String) : DateFault → String
  | unreadable => "Invalid isoformat string: " ++ Quoted.quoted text
  | year given => "year " ++ toString given ++ " is out of range"
  | month => "month must be in 1..12"
  | day => "day is out of range for month"

def Day.ofParts (year month day : Nat) : Except DateFault Day :=
  if year < 1 ∨ 9999 < year then .error (.year year)
  else if month < 1 ∨ 12 < month then .error .month
  else
    match Day.of? year month day with
    | some d => .ok d
    | none => .error .day

/-- The day of a year's week, Monday being 1. The last week may go beyond the last year; weeks
before the first year have no month. -/
def Day.ofWeek (year week weekday : Nat) : Except DateFault Day :=
  if isWeek year week ∧ 1 ≤ weekday ∧ weekday ≤ 7 then
    if year < 1 then .error .month
    else
      match Day.ofOrdinal? (firstMonday year + 7 * (week - 1) + weekday - 1) with
      | some d => .ok d
      | none => .error (.year (year + 1))
  else .error .unreadable

def digits? (count : Nat) (cs : List Char) : Option (Nat × List Char) :=
  if count ≤ cs.length then (natural? (cs.take count)).map (·, cs.drop count) else none

def hyphen? (wanted : Bool) (cs : List Char) : Option (List Char) :=
  if wanted then
    match cs with
    | '-' :: rest => some rest
    | _ => none
  else some cs

inductive DateParts where
  | monthDay (year month day : Nat)
  | week (year week weekday : Nat)
  deriving DecidableEq, Repr

def DateParts.day : DateParts → Except DateFault Day
  | .monthDay year month day => Day.ofParts year month day
  | .week year n weekday => Day.ofWeek year n weekday

def DateParts.isReadable (parts : DateParts) : Bool :=
  match parts.day with
  | .error .unreadable => false
  | _ => true

/-- Behind the year either a month and a day or a week and perhaps a weekday; both parts are set
off by hyphens or neither is, and characters behind the last part do not count. -/
def afterYear? (year : Nat) (hyphens : Bool) : List Char → Option DateParts
  | 'W' :: cs => do
    let (week, cs) ← digits? 2 cs
    if cs.isEmpty then some (.week year week 1)
    else
      let cs ← hyphen? hyphens cs
      let (weekday, _) ← digits? 1 cs
      some (.week year week weekday)
  | cs => do
    let (month, cs) ← digits? 2 cs
    let cs ← hyphen? hyphens cs
    let (day, _) ← digits? 2 cs
    some (.monthDay year month day)

def dateParts? (cs : List Char) : Option DateParts := do
  let (year, cs) ← digits? 4 cs
  match cs with
  | '-' :: rest => afterYear? year true rest
  | _ => afterYear? year false cs

/-- A date text takes seven, eight or ten bytes. -/
def Day.ofDateText (cs : List Char) : Except DateFault Day :=
  if [7, 8, 10].contains (cs.map Char.utf8Size).sum then
    match dateParts? cs with
    | some parts => parts.day
    | none => .error .unreadable
  else .error .unreadable

def Day.ofIso? (s : String) : Option Day := (Day.ofDateText (s.toList.take 10)).toOption

end UsageMetrics.Calendar
