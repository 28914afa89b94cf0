import UsageMetrics.Text.Digit

namespace UsageMetrics.Calendar

open UsageMetrics.Text

attribute [local instance (high)] Zero.ofOfNat0

def isLeap (year : Nat) : Bool := year % 4 = 0 && (year % 100 ≠ 0 || year % 400 = 0)

def daysInMonth (year month : Nat) : Nat :=
  if month = 2 then if isLeap year then 29 else 28
  else if month = 4 ∨ month = 6 ∨ month = 9 ∨ month = 11 then 30
  else 31

def isDay (year month day : Nat) : Bool :=
  1 ≤ year && year ≤ 9999 && 1 ≤ month && month ≤ 12 && 1 ≤ day && day ≤ daysInMonth year month

/-- A day of the proleptic Gregorian calendar with a year of four digits. -/
structure Day where
  year : Nat
  month : Nat
  day : Nat
  valid : isDay year month day = true
  deriving DecidableEq, Repr

namespace Day

def of? (year month day : Nat) : Option Day :=
  if valid : isDay year month day = true then some ⟨year, month, day, valid⟩ else none

theorem of?_eq_some (d : Day) : of? d.year d.month d.day = some d := by
  simp [of?, d.valid]

def daysBeforeYear (year : Nat) : Nat :=
  365 * (year - 1) + (year - 1) / 4 - (year - 1) / 100 + (year - 1) / 400

def daysBeforeMonth (year month : Nat) : Nat :=
  ((List.range (month - 1)).map fun earlier => daysInMonth year (earlier + 1)).sum

def dayOfYear (d : Day) : Nat := daysBeforeMonth d.year d.month + d.day

def ordinal (d : Day) : Nat := daysBeforeYear d.year + d.dayOfYear

instance : LT Day := ⟨fun a b => a.ordinal < b.ordinal⟩

instance : LE Day := ⟨fun a b => a.ordinal ≤ b.ordinal⟩

instance (a b : Day) : Decidable (a < b) := inferInstanceAs (Decidable (a.ordinal < b.ordinal))

instance (a b : Day) : Decidable (a ≤ b) := inferInstanceAs (Decidable (a.ordinal ≤ b.ordinal))

def next? (d : Day) : Option Day :=
  if d.day < daysInMonth d.year d.month then of? d.year d.month (d.day + 1)
  else if d.month < 12 then of? d.year (d.month + 1) 1
  else of? (d.year + 1) 1 1

def run? (d : Day) : Nat → Option (List Day)
  | 0 => some []
  | 1 => some [d]
  | n + 2 => do
    let next ← d.next?
    return d :: (← next.run? (n + 1))

def ofDayOfYear? (year n : Nat) : Option Day :=
  (List.range 12).findSome? fun earlier =>
    let before := daysBeforeMonth year (earlier + 1)
    if before < n ∧ n ≤ before + daysInMonth year (earlier + 1) then
      of? year (earlier + 1) (n - before)
    else none

def ofOrdinal? (n : Nat) : Option Day :=
  let guess := n * 400 / 146097
  [guess, guess + 1, guess + 2].findSome? fun year =>
    if daysBeforeYear year < n ∧ n ≤ daysBeforeYear (year + 1) ∧ 1 ≤ year then
      ofDayOfYear? year (n - daysBeforeYear year)
    else none

/-- Days since Monday. -/
def weekday (d : Day) : Nat := (d.ordinal + 6) % 7

def iso (d : Day) : String :=
  padded 4 d.year ++ "-" ++ padded 2 d.month ++ "-" ++ padded 2 d.day

end Day

end UsageMetrics.Calendar
