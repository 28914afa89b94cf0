namespace UsageMetrics.Sample

attribute [local instance (high)] instPowNat

structure Digest where
  a : UInt64
  b : UInt64
  c : UInt64
  d : UInt64
  e : UInt64
  f : UInt64
  g : UInt64
  h : UInt64
  deriving DecidableEq, Repr

namespace Digest

def rootFrom (power bound : Nat) : Nat → Nat → Nat
  | 0, found => found
  | bit + 1, found =>
    let next := found + 2 ^ bit
    rootFrom power bound bit (if next ^ power ≤ bound then next else found)

/-- The first 64 bits behind the point of the root of a small number. -/
def rootFraction (power n : Nat) : UInt64 := .ofNat (rootFrom power (n * 2 ^ (64 * power)) 70 0)

def isPrime (n : Nat) : Bool := 2 ≤ n && (List.range n).all fun d => d < 2 || n % d ≠ 0

def primes : List Nat := (List.range 410).filter isPrime

def roundConstants : List UInt64 := primes.map (rootFraction 3)

def start : Digest :=
  let root (n : Nat) : UInt64 := rootFraction 2 n
  ⟨root 2, root 3, root 5, root 7, root 11, root 13, root 17, root 19⟩

def turn (x : UInt64) (places : UInt64) : UInt64 := (x >>> places) ||| (x <<< (64 - places))

def mixRecent (x : UInt64) : UInt64 := turn x 19 ^^^ turn x 61 ^^^ (x >>> 6)

def mixOld (x : UInt64) : UInt64 := turn x 1 ^^^ turn x 8 ^^^ (x >>> 7)

/-- As many words as wanted, of which each is made from the sixteen before it. -/
def schedule : Nat → List UInt64 → List UInt64
  | 0, _ => []
  | count + 1, window =>
    let word (i : Nat) : UInt64 := window.getD i 0
    let next := mixRecent (word 14) + word 9 + mixOld (word 1) + word 0
    word 0 :: schedule count (window.drop 1 ++ [next])

def step (s : Digest) (constant word : UInt64) : Digest :=
  let choice := (s.e &&& s.f) ^^^ ((~~~s.e) &&& s.g)
  let majority := (s.a &&& s.b) ^^^ (s.a &&& s.c) ^^^ (s.b &&& s.c)
  let first := s.h + (turn s.e 14 ^^^ turn s.e 18 ^^^ turn s.e 41) + choice + constant + word
  let second := (turn s.a 28 ^^^ turn s.a 34 ^^^ turn s.a 39) + majority
  ⟨first + second, s.a, s.b, s.c, s.d + first, s.e, s.f, s.g⟩

def plus (s t : Digest) : Digest :=
  ⟨s.a + t.a, s.b + t.b, s.c + t.c, s.d + t.d, s.e + t.e, s.f + t.f, s.g + t.g, s.h + t.h⟩

def absorb (s : Digest) (block : List UInt64) : Digest :=
  s.plus ((roundConstants.zip (schedule 80 block)).foldl (fun s (k, w) => s.step k w) s)

def ofBytes (bytes : List UInt8) : Nat := bytes.foldl (fun n byte => 256 * n + byte.toNat) 0

/-- The bytes with a mark, zeros and their length in bits behind them, as one number of so many
blocks of 1024 bits. -/
def padded (bytes : List UInt8) : Nat × Nat :=
  let length := 8 * bytes.length
  let blocks := (length + 1 + 128 + 1023) / 1024
  (blocks, (2 * ofBytes bytes + 1) * 2 ^ (1024 * blocks - length - 1) + length)

def blockAt (number blocks position : Nat) : List UInt64 :=
  (List.range 16).map fun i =>
    .ofNat (number / 2 ^ (1024 * (blocks - 1 - position) + 64 * (15 - i)))

def ofMessage (bytes : List UInt8) : Digest :=
  let (blocks, number) := padded bytes
  (List.range blocks).foldl (fun s i => s.absorb (blockAt number blocks i)) start

def toNat (s : Digest) : Nat :=
  [s.a, s.b, s.c, s.d, s.e, s.f, s.g, s.h].foldl (fun n word => 2 ^ (64 : Nat) * n + word.toNat) 0

end Digest

end UsageMetrics.Sample
