import UsageMetrics.Text.Quoted

namespace UsageMetrics.Text

/-- A code point: a character, or half of a surrogate pair that stands alone. -/
inductive Point where
  | char (c : Char)
  | half (offset : Fin 0x800)
  deriving DecidableEq, Repr

namespace Point

def ofUnit (unit : Nat) : Point :=
  if 0xd800 ≤ unit ∧ unit < 0xe000 then half (Fin.ofNat 0x800 (unit - 0xd800))
  else char (Char.ofNat unit)

def isChar : Point → Bool
  | char _ => true
  | half _ => false

/-- What a half is shown as; no digit, blank or letter of a word that a reader knows. -/
def replacement : Char := Char.ofNat 0xfffd

def shown : Point → Char
  | char c => c
  | half _ => replacement

def escape (around : Char) : Point → List Char
  | char c => Quoted.escape around c
  | half offset => [Quoted.backslash, 'u'] ++ Quoted.hexText 4 (0xd800 + offset)

end Point

/-- A text before it is known to be Unicode. -/
abbrev Points := List Point

namespace Points

def ofText (s : String) : Points := s.toList.map .char

def isUnicode (ps : Points) : Bool := ps.all Point.isChar

def shown (ps : Points) : String := String.ofList (ps.map Point.shown)

def quoted (ps : Points) : String :=
  let around := Quoted.mark (ps.map Point.shown)
  String.ofList ([around] ++ ps.flatMap (Point.escape around) ++ [around])

@[simp] theorem shown_ofText (s : String) : shown (ofText s) = s := by
  simp [shown, ofText, Function.comp_def, Point.shown]

theorem eq_ofText {ps : Points} (unicode : ps.isUnicode) : ps = ofText ps.shown := by
  rw [ofText, shown, String.toList_ofList, List.map_map]
  refine (List.map_id ps).symm.trans (List.map_congr_left fun p member => ?_)
  cases p with
  | char c => rfl
  | half => cases List.all_eq_true.mp unicode _ member

theorem quoted_ofText (s : String) : quoted (ofText s) = Quoted.quoted s := by
  have chars : (ofText s).map Point.shown = s.toList := by
    simp [ofText, Function.comp_def, Point.shown]
  rw [quoted, chars, ofText, List.flatMap_map]
  rfl

end Points

end UsageMetrics.Text
