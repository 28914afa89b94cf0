import UsageMetrics.Number.Binary64
import UsageMetrics.Number.Decimal.Text

namespace UsageMetrics.Number.Binary64

open UsageMetrics.Text

attribute [local instance (high)] instPowNat

def logTen (numerator denominator : Nat) : Int :=
  let guess := logTwo numerator denominator * 30103 / 100000
  let reaches (power : Int) : Bool :=
    denominator * 10 ^ power.toNat ≤ numerator * 10 ^ (-power).toNat
  if reaches (guess + 1) then guess + 1 else if reaches guess then guess else guess - 1

def onGrid (numerator denominator : Nat) (power : Int) : Nat × Nat × Nat :=
  let above := numerator * 10 ^ (-power).toNat
  let below := denominator * 10 ^ power.toNat
  (above / below, above % below, below)

/-- The reals that round to a number: the bounds as numerators over one denominator. The bounds
themselves round to it if its significand is even. -/
structure Interval where
  low : Nat
  value : Nat
  high : Nat
  denominator : Nat
  closed : Bool

def interval (significand : Nat) (exponent : Int) : Interval :=
  let (numerator, denominator) := ratio significand exponent
  let (unit, _) := ratio 1 exponent
  let gapBelow :=
    if significand = 2 ^ (52 : Nat) ∧ smallestExponent < exponent then unit else 2 * unit
  { low := 4 * numerator - gapBelow
    value := 4 * numerator
    high := 4 * numerator + 2 * unit
    denominator := 4 * denominator
    closed := significand % 2 = 0 }

def Interval.holds (i : Interval) (count : Nat) (power : Int) : Bool :=
  let point := count * i.denominator * 10 ^ power.toNat
  let scale := 10 ^ (-power).toNat
  if i.closed then i.low * scale ≤ point && point ≤ i.high * scale
  else i.low * scale < point && point < i.high * scale

/-- Of the two neighbours of the value on a decimal grid the nearer one that rounds to it. -/
def candidate? (i : Interval) (power : Int) : Option Nat :=
  let (below, rest, unit) := onGrid i.value i.denominator power
  let lower := i.holds below power
  let upper := i.holds (below + 1) power
  let nearer := if 2 * rest < unit then below
    else if unit < 2 * rest then below + 1 else below + below % 2
  if lower && upper then some nearer
  else if lower then some below
  else if upper then some (below + 1)
  else none

/-- The fewest digits that read back, and the exponent of the last of them. -/
def shortest (significand : Nat) (exponent : Int) : Nat × Int :=
  let i := interval significand exponent
  let leading := logTen i.value i.denominator
  let powers := (List.range 17).map fun (k : Nat) => leading - (k : Int)
  match powers.findSome? fun power => (candidate? i power).map fun count => (count, power) with
  | some found => found
  | none => (0, 0)

def significant (count : Nat) (significand : Nat) (exponent : Int) : Nat × Int :=
  let (numerator, denominator) := ratio significand exponent
  let power := logTen numerator denominator - count + 1
  let (below, rest, unit) := onGrid numerator denominator power
  let digits := if 2 * rest < unit then below
    else if unit < 2 * rest then below + 1 else below + below % 2
  (digits, power)

def isPositional (leading : Int) : Bool := -4 ≤ leading && leading < 16

structure Digits where
  count : Nat
  last : Int

def Digits.ofUnits (units : Nat × Int) : Digits :=
  let (count, zeros) := stripZeros (digitCount units.1) units.1
  ⟨count, units.2 + zeros⟩

def Digits.leading (d : Digits) : Int := d.last + digitCount d.count - 1

/-- An integer may be written with a point and a zero; exponents have a sign and two digits or
more. -/
def Digits.render (keepPoint : Bool) (d : Digits) : String :=
  let text := (toString d.count).toList
  let leading := d.leading
  if isPositional leading then
    if leading < 0 then
      "0." ++ String.ofList (List.replicate (-leading - 1).toNat '0' ++ text)
    else if d.last < 0 then
      let (whole, fraction) := text.splitAt (leading + 1).toNat
      String.ofList whole ++ "." ++ String.ofList fraction
    else
      String.ofList (text ++ List.replicate d.last.toNat '0') ++ (if keepPoint then ".0" else "")
  else
    let mantissa := if text.length = 1 then text else text.take 1 ++ '.' :: text.drop 1
    String.ofList mantissa ++ "e" ++ (if leading < 0 then "-" else "+") ++ padded 2 leading.natAbs

def withSign (negative : Bool) (text : String) : String := if negative then "-" ++ text else text

def renderWith (keepPoint : Bool) (units : Nat → Int → Nat × Int) : Binary64 → String
  | .finite negative significand exponent =>
    withSign negative
      (if significand = 0 then if keepPoint then "0.0" else "0"
      else (Digits.ofUnits (units significand exponent)).render keepPoint)
  | .infinite negative => withSign negative "inf"
  | .nan => "nan"

def render : Binary64 → String := renderWith true shortest

def renderSixteen : Binary64 → String := renderWith false (significant 16)

/-- The text without its underscores, each of which must stand between two digits. -/
def withoutUnderscores? : Option Char → List Char → Option (List Char)
  | _, [] => some []
  | before, '_' :: cs =>
    if (before.any Char.isDigit) && (cs.head?.any Char.isDigit) then withoutUnderscores? none cs
    else none
  | _, c :: cs => (withoutUnderscores? (some c) cs).map (c :: ·)

def parse? (s : String) : Option Binary64 := do
  let cs ← (trimBy isSpace s.toList).mapM Decimal.plain?
  let (negative, body) := Decimal.splitSign (← withoutUnderscores? none cs)
  if Decimal.isWord ["inf", "infinity"] body then some (.infinite negative)
  else if Decimal.isWord ["nan"] body then some .nan
  else (Decimal.unsigned? negative body).map ofDecimal

def toDecimal : Binary64 → Decimal.Reading
  | .finite negative significand exponent =>
    if significand = 0 then .finite ⟨negative, 0, -1⟩
    else
      let digits := Digits.ofUnits (shortest significand exponent)
      if isPositional digits.leading ∧ 0 ≤ digits.last then
        .finite ⟨negative, digits.count * 10 ^ (digits.last + 1).toNat, -1⟩
      else .finite ⟨negative, digits.count, digits.last⟩
  | .infinite negative => .special (withSign negative "Infinity")
  | .nan => .special "NaN"

def exactDecimal : Binary64 → Decimal.Reading
  | .finite negative significand exponent =>
    let (numerator, denominator) := ratio significand exponent
    let common := numerator.gcd denominator
    let places := (denominator / common).log2
    .finite ⟨negative, numerator / common * 5 ^ places, -places⟩
  | other => other.toDecimal

end UsageMetrics.Number.Binary64
