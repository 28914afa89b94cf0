namespace UsageMetrics.Text

def spaceCodes : List Nat :=
  [0x09, 0x0a, 0x0b, 0x0c, 0x0d, 0x20, 0x85, 0xa0, 0x1680, 0x2000, 0x2001, 0x2002, 0x2003,
    0x2004, 0x2005, 0x2006, 0x2007, 0x2008, 0x2009, 0x200a, 0x2028, 0x2029, 0x202f, 0x205f, 0x3000]

/-- The four information separators, which separate text without being white space. -/
def separatorCodes : List Nat := [0x1c, 0x1d, 0x1e, 0x1f]

def isSpace (c : Char) : Bool := spaceCodes.contains c.toNat

/-- A name made of these characters alone is no name. -/
def isBlank (c : Char) : Bool := isSpace c || separatorCodes.contains c.toNat

def trimBy (drop : Char → Bool) (cs : List Char) : List Char :=
  ((cs.dropWhile drop).reverse.dropWhile drop).reverse

def allBlank (s : String) : Bool := s.toList.all isBlank

end UsageMetrics.Text
