import UsageMetrics.Feed.Reading
import UsageMetrics.Feed.Timestamp

namespace UsageMetrics.Feed

open UsageMetrics.Calendar UsageMetrics.Number UsageMetrics.Text

attribute [local instance (high)] Zero.ofOfNat0

namespace DatedTime

def row (count : Nat) (reason : String) (cs : List Char) : Except String (Nat × List Char) :=
  match digits? count cs with
  | some read => .ok read
  | none => .error reason

def mark (c : Char) (reason : String) : List Char → Except String (List Char)
  | d :: cs => if d = c then .ok cs else .error reason
  | [] => .error reason

def byteLength (cs : List Char) : Nat := (cs.map Char.utf8Size).sum

/-- Year, month and day with hyphens between them, and what is behind them. The year 0 has a leap
day. -/
def date (cs : List Char) : Except String (Option Day × List Char) := do
  if byteLength cs < 10 then throw "input is too short"
  let hyphen := "invalid date separator, expected `-`"
  let (year, cs) ← row 4 "invalid character in year" cs
  let (month, cs) ← row 2 "invalid character in month" (← mark '-' hyphen cs)
  let (day, cs) ← row 2 "invalid character in day" (← mark '-' hyphen cs)
  if month < 1 ∨ 12 < month then throw "month value is outside expected range of 1-12"
  if day < 1 ∨ daysInMonth year month < day then throw "day value is outside expected range"
  return (Day.of? year month day, cs)

def seconds (cs : List Char) : Except String (Bool × List Char) := do
  let (second, cs) ← row 2 "invalid character in second" cs
  if 59 < second then throw "second value is outside expected range of 0-59"
  match cs with
  | c :: more =>
    if c = '.' ∨ c = ',' then
      let digits := more.takeWhile Char.isDigit
      if digits.isEmpty then throw "second fraction digits missing after `.`"
      return (second = 0 && (digits.take 6).all (· = '0'), more.dropWhile Char.isDigit)
    else return (second = 0, cs)
  | [] => return (second = 0, cs)

def clock (cs : List Char) : Except String (Bool × List Char) := do
  if byteLength cs < 5 then throw "input is too short"
  let (hour, cs) ← row 2 "invalid character in hour" cs
  let cs ← mark ':' "invalid time separator, expected `:`" cs
  let (minute, cs) ← row 2 "invalid character in minute" cs
  if 23 < hour then throw "hour value is outside expected range of 0-23"
  if 59 < minute then throw "minute value is outside expected range of 0-59"
  let (isWhole, cs) ← match cs with
    | ':' :: more => seconds more
    | _ => pure (true, cs)
  return (hour = 0 && minute = 0 && isWhole, cs)

def offset : List Char → Except String (List Char)
  | [] => .ok []
  | c :: cs => do
    if c = 'Z' ∨ c = 'z' then return cs
    if ¬ ['+', '-', Char.ofNat 0x2212].contains c then throw "invalid timezone sign"
    let (hours, cs) ← row 2 "invalid timezone hour" cs
    let cs := match cs with
      | ':' :: more => more
      | _ => cs
    let (minutes, cs) ← row 2 "invalid timezone minute" cs
    if 59 < minutes then throw "timezone minute value is outside expected range of 0-59"
    if 23 < hours then throw "timezone offset must be less than 24 hours"
    return cs

def ofDateAndClock (cs : List Char) : Except String DatedTime := do
  let (day, cs) ← date cs
  match cs with
  | [] => throw "invalid datetime separator, expected `T`, `t`, `_` or space"
  | c :: cs =>
    if ¬ ['T', 't', '_', ' '].contains c then
      throw "invalid datetime separator, expected `T`, `t`, `_` or space"
    let (isMidnight, cs) ← clock cs
    if (← offset cs).isEmpty then return ⟨day, isMidnight⟩
    else throw "unexpected extra characters at the end of the input"

/-- A date and a time, or a timestamp in digits; what is said of neither is said of the former. -/
def ofText (cs : List Char) : Except String DatedTime :=
  match ofDateAndClock cs with
  | .ok read => .ok read
  | .error reason => (Timestamp.ofText? cs).getD (.error reason)

end DatedTime

def dayOf? (day? : Option Day) : Except Cause Day := day?.elim (.error .yearZero) .ok

def dayOfTimed (read : Except String DatedTime) : Except Cause Day :=
  match read with
  | .ok ⟨day?, true⟩ => dayOf? day?
  | .ok _ => .error .timedDate
  | .error reason => .error (.unreadableDate reason)

def Value.readCalendarDay : Value → Except Cause Day
  | .day d => .ok d
  | .moment m => if m.clock = .midnight then .ok m.day else .error .timedDate
  | .integer n => dayOfTimed (Timestamp.ofCount n)
  | .float x => dayOfTimed (Timestamp.ofFloat x)
  | .text s =>
    match DatedTime.date s.toList with
    | .ok (day?, []) => dayOf? day?
    | _ => dayOfTimed (DatedTime.ofText s.toList)
  | _ => .error .notDate

end UsageMetrics.Feed
