namespace UsageMetrics.Sample

attribute [local instance (high)] instPowNat

/-- A twisted generalised feedback shift register of 624 words. -/
structure Twister where
  words : Array UInt32
  /-- The position of the next word; at the end the register is renewed. -/
  next : Nat

namespace Twister

def size : Nat := 624

def word (words : Array UInt32) (i : Nat) : UInt32 := words.getD i 0

def grow (seed : UInt32) : Array UInt32 :=
  let next (words : Array UInt32) (i : Nat) : Array UInt32 :=
    let last := word words i
    words.push ((last ^^^ (last >>> 30)) * 1812433253 + UInt32.ofNat (i + 1))
  (List.range (size - 1)).foldl next #[seed]

def keyOf (n : Nat) : List UInt32 :=
  let count := (n.log2 + 1 + 31) / 32
  (List.range (max 1 count)).map fun i => UInt32.ofNat (n / 2 ^ (32 * i) % 2 ^ (32 : Nat))

/-- Positions run from 1 to the end; there the first word becomes the last one. -/
def advance (state : Array UInt32 × Nat) : Array UInt32 × Nat :=
  let (words, i) := state
  if i + 1 < size then (words, i + 1)
  else (words.setIfInBounds 0 (word words (size - 1)), 1)

def mixKey (key : List UInt32) (state : Array UInt32 × Nat) (step : Nat) : Array UInt32 × Nat :=
  let (words, i) := state
  let last := word words (i - 1)
  let j := step % key.length
  let mixed := word words i ^^^ ((last ^^^ (last >>> 30)) * 1664525)
  let mixed := mixed + key.getD j 0 + UInt32.ofNat j
  advance (words.setIfInBounds i mixed, i)

def mixPosition (state : Array UInt32 × Nat) : Array UInt32 × Nat :=
  let (words, i) := state
  let last := word words (i - 1)
  let mixed := (word words i ^^^ ((last ^^^ (last >>> 30)) * 1566083941)) - UInt32.ofNat i
  advance (words.setIfInBounds i mixed, i)

def ofSeed (seed : Nat) : Twister :=
  let key := keyOf seed
  let mixed := (List.range (max size key.length)).foldl (mixKey key) (grow 19650218, 1)
  let (words, _) := (List.range (size - 1)).foldl (fun state _ => mixPosition state) mixed
  ⟨words.setIfInBounds 0 0x80000000, size⟩

def renewWord (words : Array UInt32) (i : Nat) : Array UInt32 :=
  let joined := (word words i &&& 0x80000000) ||| (word words ((i + 1) % size) &&& 0x7fffffff)
  let twist : UInt32 := if joined &&& 1 = 1 then 0x9908b0df else 0
  words.setIfInBounds i (word words ((i + 397) % size) ^^^ (joined >>> 1) ^^^ twist)

def renew (words : Array UInt32) : Array UInt32 := (List.range size).foldl renewWord words

def temper (y : UInt32) : UInt32 :=
  let y := y ^^^ (y >>> 11)
  let y := y ^^^ ((y <<< 7) &&& 0x9d2c5680)
  let y := y ^^^ ((y <<< 15) &&& 0xefc60000)
  y ^^^ (y >>> 18)

def draw (t : Twister) : UInt32 × Twister :=
  let t := if t.next < size then t else ⟨renew t.words, 0⟩
  (temper (word t.words t.next), { t with next := t.next + 1 })

end Twister

end UsageMetrics.Sample
