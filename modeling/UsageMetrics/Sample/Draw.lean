import UsageMetrics.Sample.Twister

namespace UsageMetrics.Sample

attribute [local instance (high)] instPowNat

/-- Nothing is drawn from an empty range. -/
abbrev Draw := StateT Twister Option

namespace Draw

def bits (count : Nat) : Draw Nat := fun t =>
  let (y, t) := t.draw
  some (y.toNat / 2 ^ (32 - count), t)

def bitLength (n : Nat) : Nat := if n = 0 then 0 else n.log2 + 1

def belowWithin : Nat → Nat → Draw Nat
  | 0, n => return (← bits (bitLength n)) % n
  | attempts + 1, n => do
    let drawn ← bits (bitLength n)
    if drawn < n then return drawn else belowWithin attempts n

/-- The odds that as many draws in a row are too large are less than one in 2 to that number; only
then a remainder is taken. -/
def attempts : Nat := 1000

/-- A number below a positive bound: numbers of its length are drawn until one is small enough. -/
def below (n : Nat) : Draw Nat := if n = 0 then failure else belowWithin attempts n

def between (low high : Nat) : Draw Nat := return low + (← below (high + 1 - low))

/-- Takes the elements at drawn positions out of a pool that has as many; the last one fills each
gap. -/
def takeSome {α : Type} : Nat → List α → Draw (List α)
  | 0, _ => return []
  | count + 1, pool => do
    let j ← below pool.length
    match pool[j]?, pool.getLast? with
    | some chosen, some last => return chosen :: (← takeSome count ((pool.set j last).dropLast))
    | _, _ => failure

def swap {α : Type} (as : List α) (i j : Nat) : List α :=
  match as[i]?, as[j]? with
  | some a, some b => (as.set i b).set j a
  | _, _ => as

/-- Each element from the last one on changes places with one that is not behind it. -/
def shuffleFrom {α : Type} : Nat → List α → Draw (List α)
  | 0, as => return as
  | i + 1, as => do
    let j ← below (i + 2)
    shuffleFrom i (swap as (i + 1) j)

def shuffle {α : Type} (as : List α) : Draw (List α) := shuffleFrom (as.length - 1) as

end Draw

end UsageMetrics.Sample
