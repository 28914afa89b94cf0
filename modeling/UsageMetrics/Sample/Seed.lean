import UsageMetrics.Feed.Value
import UsageMetrics.Sample.Digest

namespace UsageMetrics.Sample

open UsageMetrics.Number UsageMetrics.Feed

attribute [local instance (high)] instPowNat

namespace Seed

/-- The prime by which the numbers that stand for floating point numbers are reduced. -/
def modulus : Nat := 2 ^ (61 : Nat) - 1

/-- The residue of a number, in which halving is done by the exponents that repeat after 61
places; minus one is kept free. A negative one is taken as a word of 64 bits. -/
def ofFloat : Binary64 → Nat
  | .finite negative significand exponent =>
    let residue := significand * 2 ^ (exponent % 61).toNat % modulus
    if negative ∧ residue ≠ 0 then 2 ^ (64 : Nat) - max residue 2 else residue
  | .infinite negative => if negative then 2 ^ (64 : Nat) - 314159 else 314159
  | .nan => 0

def ofText (s : String) : Nat :=
  let bytes := s.toUTF8.toList
  Digest.ofBytes bytes * 2 ^ (512 : Nat) + (Digest.ofMessage bytes).toNat

/-- The seed that a value is, if one can be made of it. The sign of an integer does not count, and
nothing counts as zero. -/
def read? : Value → Option Nat
  | .null => some 0
  | .bool b => some (if b then 1 else 0)
  | .integer n => some n.natAbs
  | .float x => some (ofFloat x)
  | .text s => some (ofText s)
  | _ => none

def kinds : String := "None,\nint, float, str, bytes, and bytearray"

end Seed

end UsageMetrics.Sample
