import UsageMetrics.Number.Rounding
import UsageMetrics.Number.Decimal

namespace UsageMetrics.Number

attribute [local instance (high)] instPowNat

/-- A binary floating point number of 53 bits: a signed significand times a power of two. -/
inductive Binary64 where
  | finite (negative : Bool) (significand : Nat) (exponent : Int)
  | infinite (negative : Bool)
  | nan
  deriving DecidableEq, Repr, Inhabited

namespace Binary64

def smallestExponent : Int := -1074

def largestExponent : Int := 971

def ratio (significand : Nat) (exponent : Int) : Nat × Nat :=
  (significand * 2 ^ exponent.toNat, 2 ^ (-exponent).toNat)

def logTwo (numerator denominator : Nat) : Int :=
  let guess := (numerator.log2 : Int) - denominator.log2
  if denominator * 2 ^ guess.toNat ≤ numerator * 2 ^ (-guess).toNat then guess else guess - 1

/-- The number nearest to a quotient, ties going to the even significand. -/
def nearest (negative : Bool) (numerator denominator : Nat) : Binary64 :=
  if numerator = 0 then .finite negative 0 smallestExponent
  else
    let exponent := max (logTwo numerator denominator - 52) smallestExponent
    let significand :=
      roundDiv (numerator * 2 ^ (-exponent).toNat) (denominator * 2 ^ exponent.toNat)
    let (significand, exponent) :=
      if significand = 2 ^ (53 : Nat) then (2 ^ (52 : Nat), exponent + 1)
      else (significand, exponent)
    if largestExponent < exponent then .infinite negative
    else .finite negative significand exponent

def ofInt (n : Int) : Binary64 := nearest (n < 0) n.natAbs 1

/-- Leading digits beyond the range decide the result without any division. -/
def ofDecimal (d : Decimal) : Binary64 :=
  if d.coefficient = 0 ∨ d.leading < -400 then .finite d.negative 0 smallestExponent
  else if 400 < d.leading then .infinite d.negative
  else nearest d.negative (d.coefficient * 10 ^ d.exponent.toNat) (10 ^ (-d.exponent).toNat)

def toInt? : Binary64 → Option Int
  | .finite negative significand exponent =>
    let (numerator, denominator) := ratio significand exponent
    if numerator % denominator = 0 then
      some (Decimal.signed negative (numerator / denominator))
    else none
  | _ => none

def isNegative : Binary64 → Bool
  | .finite negative significand _ => negative && significand ≠ 0
  | .infinite negative => negative
  | .nan => false

def isZero : Binary64 → Bool
  | .finite _ significand _ => significand = 0
  | _ => false

def isFinite : Binary64 → Bool
  | .finite _ _ _ => true
  | _ => false

def times : Binary64 → Binary64 → Binary64
  | .finite negative significand exponent, .finite negative' significand' exponent' =>
    let (numerator, denominator) := ratio (significand * significand') (exponent + exponent')
    nearest (negative != negative') numerator denominator
  | .nan, _ => .nan
  | _, .nan => .nan
  | .infinite negative, .finite negative' significand _ =>
    if significand = 0 then .nan else .infinite (negative != negative')
  | .finite negative significand _, .infinite negative' =>
    if significand = 0 then .nan else .infinite (negative != negative')
  | .infinite negative, .infinite negative' => .infinite (negative != negative')

def roundedTo (places : Nat) : Binary64 → Binary64
  | .finite negative significand exponent =>
    let (numerator, denominator) := ratio significand exponent
    nearest negative (roundDiv (numerator * 10 ^ places) denominator) (10 ^ places)
  | other => other

end Binary64

end UsageMetrics.Number
