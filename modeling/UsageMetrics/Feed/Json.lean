import UsageMetrics.Feed.Delivery

namespace UsageMetrics.Feed.Json

open UsageMetrics.Number UsageMetrics.Text

def isGap (c : Char) : Bool := c = ' ' || c = '\n' || c = '\r' || c = '\t'

def skipGaps (cs : List Char) : List Char := cs.dropWhile isGap

def hexValue? (c : Char) : Option Nat :=
  if '0' ≤ c ∧ c ≤ '9' then some (c.toNat - 48)
  else if 'a' ≤ c ∧ c ≤ 'f' then some (c.toNat - 87)
  else if 'A' ≤ c ∧ c ≤ 'F' then some (c.toNat - 55)
  else none

def unit? : List Char → Option (Nat × List Char)
  | a :: b :: c :: d :: cs => do
    let digits ← [a, b, c, d].mapM hexValue?
    some (digits.foldl (fun n digit => 16 * n + digit) 0, cs)
  | _ => none

def lowHalf? : List Char → Option (Nat × List Char)
  | c :: 'u' :: cs =>
    if c = Quoted.backslash then
      (unit? cs).filter fun (low, _) => 0xdc00 ≤ low && low < 0xe000
    else none
  | _ => none

/-- A code point beyond the first plane is written as two units; a unit of a pair that stands alone
is kept as it is. -/
def escapedCode? (cs : List Char) : Option (Point × List Char) := do
  let (unit, cs) ← unit? cs
  if 0xd800 ≤ unit ∧ unit < 0xdc00 then
    match lowHalf? cs with
    | some (low, cs) =>
      some (.char (Char.ofNat (0x10000 + (unit - 0xd800) * 0x400 + (low - 0xdc00))), cs)
    | none => some (Point.ofUnit unit, cs)
  else some (Point.ofUnit unit, cs)

def escaped? : List Char → Option (Point × List Char)
  | 'n' :: cs => some (.char '\n', cs)
  | 'r' :: cs => some (.char '\r', cs)
  | 't' :: cs => some (.char '\t', cs)
  | 'b' :: cs => some (.char (Char.ofNat 8), cs)
  | 'f' :: cs => some (.char (Char.ofNat 12), cs)
  | 'u' :: cs => escapedCode? cs
  | c :: cs =>
    if c = '/' ∨ c = Quoted.quotationMark ∨ c = Quoted.backslash then some (.char c, cs) else none
  | [] => none

/-- The rest of a text behind its opening mark; the code points so far stand in reverse. -/
def text? : Nat → Points → List Char → Option (Points × List Char)
  | 0, _, _ => none
  | fuel + 1, found, cs =>
    match cs with
    | [] => none
    | c :: rest =>
      if c = Quoted.quotationMark then some (found.reverse, rest)
      else if c = Quoted.backslash then
        match escaped? rest with
        | some (point, rest) => text? fuel (point :: found) rest
        | none => none
      else text? fuel (.char c :: found) rest

def isNumeral (c : Char) : Bool :=
  ('0' ≤ c && c ≤ '9') || c = '+' || c = '-' || c = '.' || c = 'e' || c = 'E'

def word? (word : String) (value : Delivery) (cs : List Char) : Option (Delivery × List Char) :=
  if cs.take word.length = word.toList then some (value, cs.drop word.length) else none

def numeral? (cs : List Char) : Option (Delivery × List Char) :=
  let numeral := cs.takeWhile isNumeral
  let rest := cs.dropWhile isNumeral
  if numeral.any fun c => c = '.' || c = 'e' || c = 'E' then
    (Binary64.parse? (String.ofList numeral)).map fun x => (.float x, rest)
  else
    match numeral with
    | '-' :: digits => (natural? digits).map fun n => (.integer (-n), rest)
    | digits => (natural? digits).map fun n => (.integer n, rest)

def number? (cs : List Char) : Option (Delivery × List Char) :=
  match cs with
  | 'N' :: rest => word? "aN" (.float .nan) rest
  | 'I' :: rest => word? "nfinity" (.float (.infinite false)) rest
  | '-' :: 'I' :: rest => word? "nfinity" (.float (.infinite true)) rest
  | _ => numeral? cs

/-- Of fields with one key the last value counts, in the place of the first. -/
def put (fields : List (Points × Delivery)) (key : Points) (value : Delivery) :
    List (Points × Delivery) :=
  if (fields.lookup key).isSome then
    fields.map fun field => if field.1 = key then (key, value) else field
  else fields ++ [(key, value)]

mutual

def value? : Nat → List Char → Option (Delivery × List Char)
  | 0, _ => none
  | fuel + 1, cs =>
    match skipGaps cs with
    | '[' :: rest =>
      match skipGaps rest with
      | ']' :: rest => some (.list [], rest)
      | rest => (elements? fuel [] rest).map fun (values, rest) => (.list values, rest)
    | '\x7b' :: rest =>
      match skipGaps rest with
      | '\x7d' :: rest => some (.object [], rest)
      | rest => (fields? fuel [] rest).map fun (fields, rest) => (.object fields, rest)
    | 'n' :: rest => word? "ull" .null rest
    | 't' :: rest => word? "rue" (.bool true) rest
    | 'f' :: rest => word? "alse" (.bool false) rest
    | c :: rest =>
      if c = Quoted.quotationMark then
        (text? (rest.length + 1) [] rest).map fun (points, rest) => (.text points, rest)
      else number? (c :: rest)
    | [] => none

def elements? : Nat → List Delivery → List Char → Option (List Delivery × List Char)
  | 0, _, _ => none
  | fuel + 1, found, cs =>
    match value? fuel cs with
    | none => none
    | some (value, rest) =>
      match skipGaps rest with
      | ',' :: rest => elements? fuel (value :: found) rest
      | ']' :: rest => some ((value :: found).reverse, rest)
      | _ => none

def fields? : Nat → List (Points × Delivery) → List Char →
    Option (List (Points × Delivery) × List Char)
  | 0, _, _ => none
  | fuel + 1, found, cs =>
    match value? fuel cs with
    | some (.text key, rest) =>
      match skipGaps rest with
      | ':' :: rest =>
        match value? fuel rest with
        | none => none
        | some (value, rest) =>
          match skipGaps rest with
          | ',' :: rest => fields? fuel (put found key value) rest
          | '\x7d' :: rest => some (put found key value, rest)
          | _ => none
      | _ => none
    | _ => none

end

def parse? (s : String) : Option Delivery :=
  let cs := s.toList
  match value? (2 * cs.length + 2) cs with
  | some (value, rest) => if (skipGaps rest).isEmpty then some value else none
  | none => none

end UsageMetrics.Feed.Json
