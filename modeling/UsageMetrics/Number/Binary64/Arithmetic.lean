import UsageMetrics.Number.Binary64

namespace UsageMetrics.Number.Binary64

def nearestSigned (negativeZero : Bool) (numerator : Int) (denominator : Nat) : Binary64 :=
  if numerator = 0 then .finite negativeZero 0 smallestExponent
  else nearest (numerator < 0) numerator.natAbs denominator

def plus : Binary64 → Binary64 → Binary64
  | .finite negative significand exponent, .finite negative' significand' exponent' =>
    let (a, b) := ratio significand exponent
    let (c, d) := ratio significand' exponent'
    nearestSigned (negative && negative')
      (Decimal.signed negative (a * d) + Decimal.signed negative' (c * b)) (b * d)
  | .nan, _ => .nan
  | _, .nan => .nan
  | .infinite negative, .infinite negative' =>
    if negative = negative' then .infinite negative else .nan
  | .infinite negative, .finite _ _ _ => .infinite negative
  | .finite _ _ _, .infinite negative => .infinite negative

def floor? : Binary64 → Option Int
  | .finite negative significand exponent =>
    let (numerator, denominator) := ratio significand exponent
    some (Decimal.signed negative numerator / denominator)
  | _ => none

def rounded? : Binary64 → Option Nat
  | .finite _ significand exponent =>
    let (numerator, denominator) := ratio significand exponent
    some ((2 * numerator + denominator) / (2 * denominator))
  | _ => none

def isBeyond (bound : Nat) : Binary64 → Bool
  | .finite _ significand exponent =>
    let (numerator, denominator) := ratio significand exponent
    bound * denominator < numerator
  | .infinite _ => true
  | .nan => false

/-- The integer nearest to a number that is all but an integer itself. -/
def snap : Binary64 → Binary64
  | .finite negative significand exponent =>
    let (numerator, denominator) := ratio significand exponent
    let doubled := 2 * Decimal.signed negative numerator
    nearestSigned negative ((doubled + denominator - 1) / (2 * denominator)) 1
  | other => other

/-- The quotient by a positive number, rounded down. The part that the divisor leaves over is taken
off first, and what remains is divided; both steps round. -/
def floorDivide : Binary64 → Binary64 → Binary64
  | .finite negative significand exponent, .finite _ significand' exponent' =>
    let (a, b) := ratio significand exponent
    let (c, d) := ratio significand' exponent'
    let times := a * d / (b * c)
    match nearest negative (times * c) d with
    | .finite _ whole exponent'' =>
      let (p, q) := ratio whole exponent''
      let quotient := nearest negative (p * d) (q * c)
      snap (if negative ∧ a * d % (b * c) ≠ 0 then quotient.plus (.ofInt (-1)) else quotient)
    | other => other
  | .finite negative significand _, .infinite _ =>
    if negative ∧ significand ≠ 0 then .ofInt (-1) else .finite negative 0 smallestExponent
  | _, _ => .nan

end UsageMetrics.Number.Binary64
