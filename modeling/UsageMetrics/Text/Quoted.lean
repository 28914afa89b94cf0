import UsageMetrics.Text.Printable

namespace UsageMetrics.Text.Quoted

attribute [local instance (high)] instPowNat

def apostrophe : Char := Char.ofNat 39

def quotationMark : Char := Char.ofNat 34

def backslash : Char := Char.ofNat 92

def hexDigit (n : Nat) : Char := Char.ofNat (if n < 10 then 48 + n else 87 + n)

def hexText (width code : Nat) : List Char :=
  (List.range width).map fun i => hexDigit (code / 16 ^ (width - 1 - i) % 16)

/-- The mark around a text is an apostrophe, unless the text has one and no quotation mark. -/
def mark (cs : List Char) : Char :=
  if cs.contains apostrophe && !cs.contains quotationMark then quotationMark else apostrophe

def escape (around c : Char) : List Char :=
  if c = around ∨ c = backslash then [backslash, c]
  else if c = '\n' then [backslash, 'n']
  else if c = '\r' then [backslash, 'r']
  else if c = '\t' then [backslash, 't']
  else if isPrintable c then [c]
  else if c.toNat < 0x100 then [backslash, 'x'] ++ hexText 2 c.toNat
  else if c.toNat < 0x10000 then [backslash, 'u'] ++ hexText 4 c.toNat
  else [backslash, 'U'] ++ hexText 8 c.toNat

/-- The text as a literal: unprintable characters stand as their codes. -/
def quoted (s : String) : String :=
  let around := mark s.toList
  String.ofList ([around] ++ s.toList.flatMap (escape around) ++ [around])

end UsageMetrics.Text.Quoted
