import UsageMetrics.Number.Decimal
import UsageMetrics.Text.Blank
import UsageMetrics.Text.Digit

namespace UsageMetrics.Number.Decimal

open UsageMetrics.Text

/-- Positional while the exponent is not positive and the leading digit is at most six places
behind the point; otherwise one digit before the point and a signed exponent. -/
def render (d : Decimal) : String :=
  let digits := (toString d.coefficient).toList
  let before := d.exponent + digits.length
  let sign := if d.negative then "-" else ""
  if d.exponent ≤ 0 ∧ -6 < before then
    let point :=
      if before ≤ 0 then ['0', '.'] ++ List.replicate (-before).toNat '0' ++ digits
      else if d.exponent = 0 then digits
      else digits.take before.toNat ++ '.' :: digits.drop before.toNat
    sign ++ String.ofList point
  else
    let mantissa := if digits.length = 1 then digits else digits.take 1 ++ '.' :: digits.drop 1
    let power := before - 1
    sign ++ String.ofList mantissa ++ "E" ++ (if power < 0 then "" else "+") ++ toString power

inductive Reading where
  | finite (value : Decimal)
  | special (text : String)
  deriving DecidableEq, Repr

def widestExponent : Int := 999999999999999999

def deepestExponent : Int := -1999999999999999997

def representable (d : Decimal) : Bool :=
  deepestExponent ≤ d.exponent && d.leading ≤ widestExponent

def splitSign : List Char → Bool × List Char
  | '-' :: cs => (true, cs)
  | '+' :: cs => (false, cs)
  | cs => (false, cs)

def exponent? : List Char → Option Int
  | [] => some 0
  | c :: cs =>
    if c = 'e' ∨ c = 'E' then
      let (negative, digits) := splitSign cs
      (natural? digits).map (signed negative)
    else none

def unsigned? (negative : Bool) (cs : List Char) : Option Decimal := do
  let isDigit (c : Char) : Bool := (asciiDigit? c).isSome
  let whole := cs.takeWhile isDigit
  let rest := cs.dropWhile isDigit
  let (fraction, tail) :=
    match rest with
    | '.' :: more => (more.takeWhile isDigit, more.dropWhile isDigit)
    | _ => ([], rest)
  let coefficient ← natural? (whole ++ fraction)
  let power ← exponent? tail
  return ⟨negative, coefficient, power - fraction.length⟩

def isWord (words : List String) (cs : List Char) : Bool :=
  words.contains (String.ofList (cs.map Char.toLower))

def special? (negative : Bool) (cs : List Char) : Option String :=
  let sign := if negative then "-" else ""
  let payload (digits : List Char) : Option String :=
    if digits.isEmpty then some ""
    else (natural? digits).map fun n => if n = 0 then "" else toString n
  if isWord ["inf", "infinity"] cs then some (sign ++ "Infinity")
  else if isWord ["snan"] (cs.take 4) then (payload (cs.drop 4)).map (sign ++ "sNaN" ++ ·)
  else if isWord ["nan"] (cs.take 3) then (payload (cs.drop 3)).map (sign ++ "NaN" ++ ·)
  else none

/-- A character as a decimal text takes it: digits of every script count, and nothing else outside
ASCII does. -/
def plain? (c : Char) : Option Char :=
  if 0 < c.toNat ∧ c.toNat < 128 then some c
  else if isBlank c then some ' '
  else (decimalDigit? c).map digitChar

/-- Blanks around the text and underscores anywhere do not count. -/
def read? (s : String) : Option Reading := do
  let cs ← ((trimBy isBlank s.toList).filter (· ≠ '_')).mapM plain?
  let (negative, body) := splitSign cs
  match special? negative body with
  | some text => some (.special text)
  | none => (unsigned? negative body).map .finite

def Reading.isRepresentable : Reading → Bool
  | .finite d => representable d
  | .special _ => true

def parse? (s : String) : Option Reading := (read? s).filter Reading.isRepresentable

end UsageMetrics.Number.Decimal
