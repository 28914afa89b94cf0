namespace UsageMetrics.Feed.RunSort

attribute [local instance (high)] instPowNat

variable {α ε : Type}

/-- Puts an element into a sorted list, behind all that it does not precede. The middle of the list
tells which half it belongs to; a comparison that fails ends the search. -/
def insert (precedes : α → α → Except ε Bool) (a : α) (sorted : List α) : Except ε (List α) :=
  let half := sorted.length / 2
  if inside : half < sorted.length then do
    let below := sorted.take half
    let above := sorted.drop (half + 1)
    if ← precedes a sorted[half] then
      return (← insert precedes a below) ++ sorted[half] :: above
    else return below ++ sorted[half] :: (← insert precedes a above)
  else .ok [a]
termination_by sorted.length
decreasing_by
  · simp only [List.length_take]
    omega
  · simp only [List.length_drop]
    omega

/-- The elements that go on as the first two begin, up or down, and the elements behind them. -/
def run (precedes : α → α → Except ε Bool) (down : Bool) : α → List α →
    Except ε (List α × List α)
  | _, [] => .ok ([], [])
  | last, a :: rest => do
    if (← precedes a last) = down then
      let (more, behind) ← run precedes down a rest
      return (a :: more, behind)
    else return ([], a :: rest)

def opening (precedes : α → α → Except ε Bool) : List α → Except ε (List α × List α)
  | first :: second :: rest => do
    let down ← precedes second first
    let (more, behind) ← run precedes down second rest
    let found := first :: second :: more
    return (if down then found.reverse else found, behind)
  | short => .ok (short, [])

/-- A length below 64 as it is; a larger one divided by the power of two that leaves at least 32 of
it, and rounded up. -/
def leastLength (length : Nat) : Nat :=
  let parts := 2 ^ (length.log2 - 5)
  (length + parts - 1) / parts

/-- The runs of a list, of which a short one takes in the elements behind it. There are no more of
them than elements. -/
def runs (precedes : α → α → Except ε Bool) (least : Nat) : Nat → List α →
    Except ε (List (List α))
  | 0, _ | _, [] => .ok []
  | count + 1, as => do
    let (found, behind) ← opening precedes as
    let missing := least - found.length
    let sorted ← (behind.take missing).foldlM (fun sorted a => insert precedes a sorted) found
    return sorted :: (← runs precedes least count (behind.drop missing))

def merge (precedes : α → α → Except ε Bool) : List α → List α → Except ε (List α)
  | [], bs => .ok bs
  | as, [] => .ok as
  | a :: as, b :: bs => do
    if ← precedes b a then return b :: (← merge precedes (a :: as) bs)
    else return a :: (← merge precedes as (b :: bs))
termination_by as bs => as.length + bs.length

/-- Sorts by runs. The comparisons are made one after the other, so that the first one that fails
is the failure of the whole. -/
def sort (precedes : α → α → Except ε Bool) (as : List α) : Except ε (List α) := do
  (← runs precedes (leastLength as.length) as.length as).foldlM (merge precedes) []

end UsageMetrics.Feed.RunSort
