namespace UsageMetrics.Number

/-- The integer nearest to a quotient; of two equally near ones, the even one. -/
def roundDiv (numerator denominator : Nat) : Nat :=
  let quotient := numerator / denominator
  let doubled := 2 * (numerator % denominator)
  if doubled < denominator then quotient
  else if denominator < doubled then quotient + 1
  else quotient + quotient % 2

theorem roundDiv_one (n : Nat) : roundDiv n 1 = n := by
  simp [roundDiv, Nat.mod_one]

def digitCountWithin : Nat → Nat → Nat
  | 0, _ => 1
  | fuel + 1, n => if n < 10 then 1 else digitCountWithin fuel (n / 10) + 1

def digitCount (n : Nat) : Nat := digitCountWithin (n.log2 + 1) n

/-- Rows of digits that are longer are neither read nor written. -/
def longestNumeral : Nat := 4300

def isLong (n : Int) : Bool := longestNumeral < digitCount n.natAbs

def stripZeros : Nat → Nat → Nat × Nat
  | 0, n => (n, 0)
  | fuel + 1, n =>
    if n ≠ 0 ∧ n % 10 = 0 then
      let (rest, zeros) := stripZeros fuel (n / 10)
      (rest, zeros + 1)
    else (n, 0)

end UsageMetrics.Number
