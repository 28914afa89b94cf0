import UsageMetrics.Number.Rounding

namespace UsageMetrics.Number

-- Powers are those of core, also where an algebra of numbers is at hand.
attribute [local instance (high)] instPowNat

/-- A signed coefficient times a power of ten. Equal values may differ in their exponents, and a
zero has a sign. -/
structure Decimal where
  negative : Bool
  coefficient : Nat
  exponent : Int
  deriving DecidableEq, Repr, Inhabited

namespace Decimal

def precision : Nat := 28

def highestExponent : Int := 999999

def lastExponent : Int := -1000026

def ofInt (n : Int) : Decimal := ⟨n < 0, n.natAbs, 0⟩

def zero : Decimal := ⟨false, 0, 0⟩

def negate (d : Decimal) : Decimal := { d with negative := !d.negative }

def leading (d : Decimal) : Int := d.exponent + digitCount d.coefficient - 1

def signed (negative : Bool) (n : Nat) : Int := if negative then -n else n

def shifted (n : Nat) (places : Int) : Nat := if n = 0 then 0 else n * 10 ^ places.toNat

def scaled (d : Decimal) (exponent : Int) : Int :=
  signed d.negative (shifted d.coefficient (d.exponent - exponent))

/-- Below this exponent a summand only tells on which side of the other one the sum lies. -/
def farBelow (d : Decimal) : Int :=
  d.exponent + min (-1) ((digitCount d.coefficient : Int) - precision - 2)

/-- A summand that is far below the other one is as good as a single unit just under the digits
that count. -/
def standIn (high low : Decimal) : Decimal :=
  if high.coefficient ≠ 0 ∧ low.leading < high.farBelow then
    { low with coefficient := min 1 low.coefficient, exponent := high.farBelow }
  else low

def exactSum (a b : Decimal) : Decimal :=
  let exponent := min a.exponent b.exponent
  let total := a.scaled exponent + b.scaled exponent
  let negative := if total = 0 then a.negative && b.negative else decide (total < 0)
  ⟨negative, total.natAbs, exponent⟩

def roundTo (d : Decimal) (exponent : Int) : Decimal :=
  let dropped := exponent - d.exponent
  if dropped ≤ 0 then d
  else if (digitCount d.coefficient : Int) < dropped then { d with coefficient := 0, exponent }
  else
    let kept := roundDiv d.coefficient (10 ^ dropped.toNat)
    if digitCount kept ≤ precision then { d with coefficient := kept, exponent }
    else { d with coefficient := kept / 10, exponent := exponent + 1 }

/-- The value in at most 28 digits, half to even; nothing if it is too large to be written. -/
def fit? (d : Decimal) : Option Decimal :=
  if d.coefficient = 0 then
    some { d with exponent := min (max d.exponent lastExponent) highestExponent }
  else if highestExponent < d.leading then none
  else
    let rounded := d.roundTo (max (d.leading - precision + 1) lastExponent)
    if rounded.coefficient ≠ 0 ∧ highestExponent < rounded.leading then none else some rounded

def add? (a b : Decimal) : Option Decimal :=
  if a.exponent < b.exponent then (exactSum (standIn b a) b).fit?
  else (exactSum a (standIn a b)).fit?

def sub? (a b : Decimal) : Option Decimal := a.add? b.negate

def neg? (d : Decimal) : Option Decimal :=
  (if d.coefficient = 0 then { d with negative := false } else d.negate).fit?

def sign (d : Decimal) : Int :=
  if d.coefficient = 0 then 0 else if d.negative then -1 else 1

def compareMagnitude (a b : Decimal) : Ordering :=
  match compare a.leading b.leading with
  | .eq =>
    let exponent := min a.exponent b.exponent
    compare (shifted a.coefficient (a.exponent - exponent))
      (shifted b.coefficient (b.exponent - exponent))
  | other => other

def order (a b : Decimal) : Ordering :=
  match compare a.sign b.sign with
  | .eq =>
    if a.sign = 0 then .eq
    else if a.sign < 0 then compareMagnitude b a
    else compareMagnitude a b
  | other => other

def isNegative (d : Decimal) : Bool := d.sign < 0

end Decimal

end UsageMetrics.Number
