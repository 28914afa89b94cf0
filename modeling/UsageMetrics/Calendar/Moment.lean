import UsageMetrics.Calendar.IsoText

namespace UsageMetrics.Calendar

open UsageMetrics.Text

attribute [local instance (high)] instPowNat

structure Clock where
  hour : Nat
  minute : Nat
  second : Nat
  microsecond : Nat
  deriving DecidableEq, Repr

namespace Clock

def midnight : Clock := ⟨0, 0, 0, 0⟩

def microseconds (c : Clock) : Nat :=
  ((c.hour * 60 + c.minute) * 60 + c.second) * 1000000 + c.microsecond

def fraction (microsecond : Nat) : String :=
  if microsecond = 0 then "" else "." ++ padded 6 microsecond

def iso (c : Clock) : String :=
  padded 2 c.hour ++ ":" ++ padded 2 c.minute ++ ":" ++ padded 2 c.second ++ fraction c.microsecond

end Clock

/-- A day with a time and perhaps the microseconds that its clock is ahead of universal time. -/
structure Moment where
  day : Day
  clock : Clock
  offset : Option Int
  deriving DecidableEq, Repr

namespace Moment

def secondsInDay : Nat := 86400

def offsetText (offset : Int) : String :=
  let size := offset.natAbs
  let seconds := size / 1000000
  let rest := seconds % 60 * 1000000 + size % 1000000
  (if offset < 0 then "-" else "+") ++ padded 2 (seconds / 3600) ++ ":" ++
    padded 2 (seconds / 60 % 60) ++
    if rest = 0 then "" else ":" ++ padded 2 (seconds % 60) ++ Clock.fraction (size % 1000000)

def iso (m : Moment) : String :=
  m.day.iso ++ "T" ++ m.clock.iso ++ (m.offset.map offsetText).getD ""

end Moment

inductive MomentFault where
  | unreadable
  | offset (given : Int)
  | day (fault : DateFault)
  | hour
  | minute
  | second
  deriving DecidableEq, Repr

namespace MomentFault

/-- A span of time in whole days, then seconds and microseconds that are not negative; parts that
are zero are left out. -/
def spanText (microseconds : Int) : String :=
  let day := 86400 * 1000000
  let rest := microseconds.emod day
  let parts := [("days", microseconds.ediv day), ("seconds", rest / 1000000),
    ("microseconds", rest % 1000000)].filter fun part => part.2 ≠ 0
  "datetime.timedelta(" ++
    (if parts.isEmpty then "0"
      else ", ".intercalate (parts.map fun (unit, n) => unit ++ "=" ++ toString n)) ++ ")"

def message (text : String) : MomentFault → String
  | unreadable => "Invalid isoformat string: " ++ Quoted.quoted text
  | offset given =>
    "offset must be a timedelta strictly between -timedelta(hours=24) and timedelta(hours=24), " ++
      "not " ++ spanText given ++ "."
  | day .unreadable => "Invalid isoformat string: " ++ Quoted.quoted text
  | day fault => fault.message text
  | hour => "hour must be in 0..23"
  | minute => "minute must be in 0..59"
  | second => "second must be in 0..59"

end MomentFault

namespace Moment

/-- Where the date of a text ends. A week with a weekday is told from one without by the parity of
the digits that follow. -/
def dateLength? (cs : List Char) : Option Nat :=
  let isDigitAt (i : Nat) : Bool := (cs[i]?.map Char.isDigit).getD false
  if cs.length < 7 then none
  else if cs.length = 7 then some 7
  else if cs[4]? = some '-' then
    if cs[5]? ≠ some 'W' then some 10
    else if cs[8]? ≠ some '-' then some 8
    else if cs.length = 9 then none
    else if isDigitAt 10 then some 8
    else some 10
  else if cs[4]? = some 'W' then
    let digits := ((cs.drop 7).takeWhile Char.isDigit).length
    if digits < 2 then some (7 + digits) else if digits % 2 = 1 then some 7 else some 8
  else some 8

def isOver : List Char → Bool
  | [] => true
  | c :: _ => c = Char.ofNat 0

/-- Digits behind the sixth do not count, and before an offset nothing there does. -/
def fraction? (bounded : Bool) (cs : List Char) : Option Nat := do
  let digits := cs.take 6
  let n ← natural? digits
  if bounded || isOver ((cs.drop 6).dropWhile Char.isDigit) then
    some (n * 10 ^ (6 - digits.length))
  else none

/-- The parts of a time from an hour on, with colons between them or without; a fraction may follow
any of them. A single byte behind the parts does not count before an offset. -/
def clockFrom? (bounded first colons : Bool) : Nat → List Char → Option (List Nat × Nat)
  | 0, cs => (fraction? bounded cs).map ([], ·)
  | parts + 1, cs => do
    let (n, rest) ← digits? 2 cs
    match rest with
    | [] => some ([n], 0)
    | c :: more =>
      if more.isEmpty && c.utf8Size = 1 then
        if bounded || isOver rest then some ([n], 0) else none
      else
        let colons := if first then c = ':' else colons
        let below ←
          if colons && c = ':' then clockFrom? bounded false colons parts more
          else if c = '.' || c = ',' then (fraction? bounded more).map ([], ·)
          else if colons then none
          else clockFrom? bounded false colons parts rest
        some (n :: below.1, below.2)

def clock? (bounded : Bool) (cs : List Char) : Option Clock :=
  (clockFrom? bounded true false 3 cs).map fun (parts, microsecond) =>
    ⟨parts[0]?.getD 0, parts[1]?.getD 0, parts[2]?.getD 0, microsecond⟩

/-- The difference of a clock that is ahead by the time given or behind by it; one of less than a
second is none. -/
def offsetOf (behind : Bool) (size : Clock) : Int :=
  if size.microseconds < 1000000 then 0
  else if behind then -(size.microseconds : Int)
  else size.microseconds

def clockAndOffset? (cs : List Char) : Option (Clock × Option Int) := do
  let isMark (c : Char) : Bool := c = '+' || c = '-' || c = 'Z'
  let offset := cs.dropWhile (!isMark ·)
  let clock ← clock? (!offset.isEmpty) (cs.takeWhile (!isMark ·))
  match offset with
  | [] => some (clock, none)
  | 'Z' :: rest => if isOver rest then some (clock, some 0) else none
  | sign :: rest => some (clock, some (offsetOf (sign = '-') (← clock? false rest)))

def parts? (cs : List Char) : Option (DateParts × Clock × Option Int) := do
  let length ← dateLength? cs
  let date ← (dateParts? (cs.take length)).filter DateParts.isReadable
  match cs.drop length with
  | [] => some (date, .midnight, none)
  | _ :: rest =>
    let (clock, offset) ← clockAndOffset? rest
    some (date, clock, offset)

def checkClock (c : Clock) : Except MomentFault Clock :=
  if 23 < c.hour then .error .hour
  else if 59 < c.minute then .error .minute
  else if 59 < c.second then .error .second
  else .ok c

def checkOffset : Option Int → Except MomentFault (Option Int)
  | none => .ok none
  | some offset =>
    if offset.natAbs < secondsInDay * 1000000 then .ok (some offset) else .error (.offset offset)

def ofIso (s : String) : Except MomentFault Moment :=
  match parts? s.toList with
  | none => .error .unreadable
  | some (date, clock, offset) => do
    let offset ← checkOffset offset
    let day ← date.day.mapError .day
    return ⟨day, ← checkClock clock, offset⟩

end Moment

end UsageMetrics.Calendar
