import UsageMetrics.Calendar.IsoText
import UsageMetrics.Text.Capital

namespace UsageMetrics.Calendar.Label

open UsageMetrics.Text

def dayNames : List String :=
  ["Monday", "Tuesday", "Wednesday", "Thursday", "Friday", "Saturday", "Sunday"]

def monthNames : List String :=
  ["January", "February", "March", "April", "May", "June", "July", "August", "September",
    "October", "November", "December"]

def nameAt (names : List String) (i : Nat) : List Char := (names[i]?.getD "?").toList

def weekOf (d : Day) : Nat × Nat :=
  let year := d.year
  let (year, monday) :=
    if d.ordinal < firstMonday year then (year - 1, firstMonday (year - 1))
    else if firstMonday (year + 1) ≤ d.ordinal then (year + 1, firstMonday (year + 1))
    else (year, firstMonday year)
  (year, (d.ordinal - monday) / 7 + 1)

def seconds (d : Day) : Int := ((d.ordinal : Int) - 719163) * 86400

/-- What a conversion character stands for at midnight of a day. -/
inductive Meaning where
  | word (text : List Char)
  | half (small : Bool)
  | number (digits value : Nat)
  | spaced (digits value : Nat)
  | count (value : Int)
  | pattern (text : String)
  | nothing

def meaning? (d : Day) : Char → Option Meaning
  | '%' => some (.word ['%'])
  | 'n' => some (.word ['\n'])
  | 't' => some (.word ['\t'])
  | 'z' => some .nothing
  | 'Z' => some (.word [])
  | 'a' => some (.word ((nameAt dayNames d.weekday).take 3))
  | 'A' => some (.word (nameAt dayNames d.weekday))
  | 'b' | 'h' => some (.word ((nameAt monthNames (d.month - 1)).take 3))
  | 'B' => some (.word (nameAt monthNames (d.month - 1)))
  | 'p' => some (.half false)
  | 'P' => some (.half true)
  | 'C' => some (.number 1 (d.year / 100))
  | 'd' => some (.number 2 d.day)
  | 'e' => some (.spaced 2 d.day)
  | 'g' => some (.number 2 ((weekOf d).1 % 100))
  | 'G' => some (.number 1 (weekOf d).1)
  | 'H' | 'M' | 'S' => some (.number 2 0)
  | 'I' => some (.number 2 12)
  | 'j' => some (.number 3 d.dayOfYear)
  | 'k' => some (.spaced 2 0)
  | 'l' => some (.spaced 2 12)
  | 'm' => some (.number 2 d.month)
  | 's' => some (.count (seconds d))
  | 'u' => some (.number 1 (d.weekday + 1))
  | 'U' => some (.number 2 ((d.dayOfYear + 6 - (d.weekday + 1) % 7) / 7))
  | 'V' => some (.number 2 (weekOf d).2)
  | 'w' => some (.number 1 ((d.weekday + 1) % 7))
  | 'W' => some (.number 2 ((d.dayOfYear + 6 - d.weekday) / 7))
  | 'y' => some (.number 2 (d.year % 100))
  | 'Y' => some (.number 1 d.year)
  | 'c' => some (.pattern "%a %b %e %H:%M:%S %Y")
  | 'D' | 'x' => some (.pattern "%m/%d/%y")
  | 'F' => some (.pattern "%Y-%m-%d")
  | 'r' => some (.pattern "%I:%M:%S %p")
  | 'R' => some (.pattern "%H:%M")
  | 'T' | 'X' => some (.pattern "%H:%M:%S")
  | _ => none

/-- The modifiers E and O ask for other eras and digits. Where they have no sense the directive
stands for its own text. -/
def refuses (modifier conversion : Char) : Bool :=
  if modifier = 'E' then "%aAbhBDdeFHIjklMmSUVgGWw".toList.contains conversion
  else "%aAcDFxXY".toList.contains conversion

structure Directive where
  pad : Option Char
  upper : Bool
  swap : Bool
  width : Option Nat
  modifier : Option Char
  conversion : Option Char
  written : List Char

def isFlag (c : Char) : Bool := "_-0^#".toList.contains c

def Directive.read (cs : List Char) : Directive × List Char :=
  let flags := cs.takeWhile isFlag
  let afterFlags := cs.dropWhile isFlag
  let digits := afterFlags.takeWhile Char.isDigit
  let afterWidth := afterFlags.dropWhile Char.isDigit
  let (modifier, afterModifier) :=
    match afterWidth with
    | 'E' :: rest => (some 'E', rest)
    | 'O' :: rest => (some 'O', rest)
    | rest => (none, rest)
  let conversion := afterModifier.head?
  let written :=
    if conversion = some '%' then ['%']
    else '%' :: flags ++ digits ++ modifier.toList ++ conversion.toList
  ({ pad := (flags.filter fun c => "_-0".toList.contains c).getLast?
     upper := flags.contains '^'
     swap := flags.contains '#'
     width := natural? digits
     modifier, conversion, written }, afterModifier.drop 1)

def Directive.fill (d : Directive) (width : Nat) (text : List Char) : List Char :=
  List.replicate (width - text.length) (if d.pad = some '0' then '0' else ' ') ++ text

def Directive.raise (d : Directive) (text : List Char) : List Char :=
  if d.upper then text.map capital else text

def Directive.renderNumber (d : Directive) (spaced : Bool) (digits value width : Nat) : List Char :=
  let text := (toString value).toList
  let pad := if spaced ∧ d.pad ≠ some '0' ∧ d.pad ≠ some '-' then some '_' else d.pad
  let missing := max digits width - text.length
  if pad = some '-' then d.fill width text
  else List.replicate missing (if pad = some '_' then ' ' else '0') ++ text

def Directive.render (d : Directive) (subpattern : String → List Char) (longest : Nat) (day : Day) :
    List Char :=
  let width := min longest (d.width.getD 0)
  let meaning := d.conversion.bind fun c =>
    if d.modifier.any (refuses · c) then none else meaning? day c
  match meaning with
  | none =>
    let isMonth := d.conversion.any fun c => "bh".toList.contains c
    d.fill width (if d.swap && isMonth then d.written.map capital else d.raise d.written)
  | some (.word text) =>
    let isName := d.conversion.any fun c => "aAbhB".toList.contains c
    d.fill width (if d.swap && isName then text.map capital else d.raise text)
  | some (.half small) => d.fill width (if small || d.swap then ['a', 'm'] else ['A', 'M'])
  | some (.number digits value) => d.renderNumber false digits value width
  | some (.spaced digits value) => d.renderNumber true digits value width
  | some (.count value) => d.fill width (toString value).toList
  | some (.pattern text) => d.fill width (d.raise (subpattern text))
  | some .nothing => []

def expand (subpattern : String → List Char) (longest : Nat) (day : Day) :
    Nat → List Char → List Char
  | 0, _ => []
  | _, [] => []
  | fuel + 1, c :: cs =>
    if c = '%' then
      let (directive, rest) := Directive.read cs
      directive.render subpattern longest day ++ expand subpattern longest day fuel rest
    else c :: expand subpattern longest day fuel cs

/-- A day has no zone and no fraction of a second, and a pattern ends at a null character. -/
def prepare : List Char → List Char
  | [] => []
  | '%' :: 'z' :: cs => prepare cs
  | '%' :: 'Z' :: cs => prepare cs
  | '%' :: 'f' :: cs => List.replicate 6 '0' ++ prepare cs
  | '%' :: c :: cs => if c.toNat = 0 then ['%'] else '%' :: c :: prepare cs
  | c :: cs => if c.toNat = 0 then [] else c :: prepare cs

/-- The room for a label grows by doubling from 1024 until it is 256 times the pattern's length. -/
def room (patternLength : Nat) : Nat → Nat → Nat
  | 0, size => size
  | fuel + 1, size =>
    if 256 * patternLength ≤ size then size else room patternLength fuel (2 * size)

/-- A label that does not fit into its room is empty. -/
def render (pattern : String) (day : Day) : String :=
  let cs := prepare pattern.toList
  let size := room cs.length cs.length 1024
  let simple (text : String) : List Char :=
    expand (fun _ => []) size day text.length text.toList
  let text := expand simple size day cs.length cs
  if text.length < size then String.ofList text else ""

end UsageMetrics.Calendar.Label
