import UsageMetrics.Feed.Reading

namespace UsageMetrics.Feed

open UsageMetrics.Number UsageMetrics.Text

/-- A decimal integer without leading zeros, which a minus sign may precede. A row of digits that
is too long is not looked at any further. -/
def strictInteger (cs : List Char) : Except Cause Int :=
  let negative := cs.head? = some '-'
  let body := if negative then cs.drop 1 else cs
  let digits := body.takeWhile Char.isDigit
  let rest := body.dropWhile Char.isDigit
  if digits.head? = some '0' ∧ digits.length ≠ 1 then .error .unreadableInteger
  else if longestNumeral < digits.length then .error .oversizedInteger
  else if rest.isEmpty then
    match natural? digits with
    | some n => .ok (if negative then -n else n)
    | none => .error .unreadableInteger
  else .error .unreadableInteger

/-- The text behind the zeros and underscores that follow a leading zero; a zero that a point or
nothing follows stays. -/
def behindZeros? (last : Char) : List Char → Option (List Char)
  | [] => some [last]
  | c :: cs =>
    if c = '0' ∨ c = '_' then behindZeros? c cs
    else if '1' ≤ c ∧ c ≤ '9' ∨ c = '-' then some (c :: cs)
    else if c = '.' then some (last :: c :: cs)
    else none

def stripLeadingZeros? : List Char → Option (List Char)
  | [] => none
  | c :: cs =>
    if c = '0' then behindZeros? c cs
    else if '1' ≤ c ∧ c ≤ '9' then some (c :: cs)
    else none

def stripFraction (cs : List Char) : List Char :=
  match cs.dropWhile (· ≠ '.') with
  | _ :: fraction =>
    if !fraction.isEmpty ∧ fraction.all (· = '0') then cs.takeWhile (· ≠ '.') else cs
  | [] => cs

def hasDoubledUnderscore : List Char → Bool
  | '_' :: '_' :: _ => true
  | _ :: cs => hasDoubledUnderscore cs
  | [] => false

def stripUnderscores? (cs : List Char) : Option (List Char) :=
  if cs.contains '_' ∧ cs.head? ≠ some '_' ∧ cs.getLast? ≠ some '_' ∧
      ¬ hasDoubledUnderscore cs then
    some (cs.filter (· ≠ '_'))
  else none

def tidyInteger? (cs : List Char) : Option (List Char) := do
  let bare ←
    match trimBy isSpace cs with
    | '+' :: rest => stripLeadingZeros? rest
    | '-' :: rest => (stripLeadingZeros? rest).map ('-' :: ·)
    | rest => stripLeadingZeros? rest
  let whole := stripFraction bare
  return (stripUnderscores? whole).getD whole

/-- Only an integer in the strict notation can be told to be too long. -/
def integerOfText (s : String) : Except Cause Int :=
  match strictInteger s.toList with
  | .error .unreadableInteger =>
    match tidyInteger? s.toList with
    | some cs => (strictInteger cs).mapError fun _ => .unreadableInteger
    | none => .error .unreadableInteger
  | result => result

def Value.readInteger : Value → Except Cause Int
  | .integer n => .ok n
  | .bool b => .ok (if b then 1 else 0)
  | .float x =>
    if !x.isFinite then .error .notFinite
    else
      match x.toInt? with
      | none => .error .fractionalInteger
      | some n => if floatingLimit ≤ n.natAbs then .error .oversizedInteger else .ok n
  | .text s => integerOfText s
  | _ => .error .notInteger

end UsageMetrics.Feed
