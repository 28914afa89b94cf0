import UsageMetrics.Feed.Arithmetic

namespace UsageMetrics.Feed

open UsageMetrics.Number

inductive Magnitude where
  | quotient (numerator : Int) (denominator : Nat)
  | infinite (negative : Bool)
  | nan
  deriving DecidableEq, Repr

namespace Magnitude

def ofFloat : Binary64 → Magnitude
  | .finite negative significand exponent =>
    let (numerator, denominator) := Binary64.ratio significand exponent
    .quotient (Decimal.signed negative numerator) denominator
  | .infinite negative => .infinite negative
  | .nan => .nan

/-- Whether the first is larger; what is no number is neither larger nor smaller. -/
def exceeds : Magnitude → Magnitude → Bool
  | .quotient a b, .quotient c d => c * b < a * d
  | .nan, _ => false
  | _, .nan => false
  | .infinite negative, .infinite negative' => !negative && negative'
  | .infinite negative, .quotient _ _ => !negative
  | .quotient _ _, .infinite negative => negative

def ofAmount : Amount → Magnitude
  | .whole n => .quotient n 1
  | .floating x => ofFloat x

end Magnitude

def Value.exceeds? (a b : Value) : Option Bool := do
  return (Magnitude.ofAmount (← a.amount?)).exceeds (.ofAmount (← b.amount?))

end UsageMetrics.Feed
