import UsageMetrics.Calendar.Day
import UsageMetrics.Number.Binary64.Arithmetic
import UsageMetrics.Number.Decimal.Text

namespace UsageMetrics.Feed

open UsageMetrics.Calendar UsageMetrics.Number UsageMetrics.Text

attribute [local instance (high)] instPowNat

/-- A day that was read together with the time of day, of which only midnight is welcome. The days
of the year 0 can be read, but are none. -/
structure DatedTime where
  day? : Option Day
  isMidnight : Bool

namespace Timestamp

/-- Seconds from here on, up or down, are taken for thousandths. -/
def watershed : Nat := 20000000000

def firstSecond : Int := -62167219200

def lastSecond : Int := 253402300799

def tooEarly : String := "dates before 0000 are not supported as unix timestamps"

def tooLate : String := "dates after 9999 are not supported as unix timestamps"

def ofSeconds (seconds : Int) (millionths : Nat) : Except String DatedTime :=
  let seconds := seconds + (millionths / 1000000 : Nat)
  if seconds < firstSecond then .error tooEarly
  else if lastSecond < seconds then .error tooLate
  else .ok ⟨Day.ofOrdinal? (seconds / 86400 + 719163).toNat,
    seconds % 86400 = 0 && millionths % 1000000 = 0⟩

def secondsOf (count : Int) : Int × Nat :=
  if watershed < count.natAbs then (count / 1000, (count % 1000).toNat * 1000) else (count, 0)

def ofCount (count : Int) : Except String DatedTime :=
  let (seconds, millionths) := secondsOf count
  ofSeconds seconds millionths

def partsAbove (parts : Nat) (whole : Int) (x : Binary64) : Nat :=
  (((x.plus (.ofInt (-whole))).times (.ofInt parts)).rounded?).getD 0

def ofFloat (x : Binary64) : Except String DatedTime :=
  match x, x.floor? with
  | _, some whole =>
    if x.isBeyond watershed then
      ofSeconds (whole / 1000) ((whole % 1000).toNat * 1000 + partsAbove 1000 whole x)
    else ofSeconds whole (partsAbove 1000000 whole x)
  | .infinite negative, none => .error (if negative then tooEarly else tooLate)
  | _, none => .error "NaN values not permitted"

def isWord (n : Int) : Bool := -(2 ^ (63 : Nat)) ≤ n && n < 2 ^ (63 : Nat)

/-- Digits, perhaps behind a sign. With a point among them they are a floating point number; without
one their seconds alone decide whether it is midnight. -/
def ofText? (cs : List Char) : Option (Except String DatedTime) :=
  let (negative, body) := Decimal.splitSign cs
  match body.dropWhile Char.isDigit with
  | [] => do
    let n := Decimal.signed negative (← natural? body)
    if isWord n then some (ofSeconds (secondsOf n).1 0) else none
  | c :: _ =>
    if c = '.' then (Decimal.unsigned? negative body).map fun d => ofFloat (.ofDecimal d) else none

end Timestamp

end UsageMetrics.Feed
