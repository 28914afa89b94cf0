import UsageMetrics.Feed.Issue
import UsageMetrics.Feed.Shape
import UsageMetrics.Feed.Value
import UsageMetrics.Text.Blank
import UsageMetrics.Text.Digit

namespace UsageMetrics.Feed

open UsageMetrics.Number UsageMetrics.Text

attribute [local instance (high)] instPowNat

def setWords : List String := ["true", "t", "yes", "y", "on", "1"]

def unsetWords : List String := ["false", "f", "no", "n", "off", "0"]

def lower (cs : List Char) : String := String.ofList (cs.map Char.toLower)

def floatingLimit : Int := 2 ^ (63 : Nat)

/-- Of a count that is too long only one without leading zeros is told to be too large. -/
def tooLong (s : String) : Cause :=
  if s.toList.head? = some '0' then .unreadableInteger else .oversizedInteger

def Value.count? : Value → Option (Except Cause Nat)
  | .integer n => if n < 0 then none else some (.ok n.toNat)
  | .float x =>
    match x.toInt? with
    | some n =>
      if n < 0 then none
      else if floatingLimit ≤ n then some (.error .oversizedInteger)
      else some (.ok n.toNat)
    | none => none
  | .text s =>
    (natural? s.toList).map fun n =>
      if longestNumeral < (s.toList.dropWhile (· = '0')).length then .error (tooLong s) else .ok n
  | _ => none

/-- What a flag accepts. Blanks around a word let it pass for one, but not be read. -/
def Value.flag? : Value → Option (Except Cause Bool)
  | .bool b => some (.ok b)
  | .integer n => if n = 0 then some (.ok false) else if n = 1 then some (.ok true) else none
  | .text s =>
    let word := lower (trimBy isBlank s.toList)
    if setWords.contains word || unsetWords.contains word then
      if setWords.contains (lower s.toList) then some (.ok true)
      else if unsetWords.contains (lower s.toList) then some (.ok false)
      else some (.error .notFlag)
    else none
  | _ => none

def Value.isRecord : Value → Bool
  | .object _ => true
  | .snapshot _ => true
  | .item _ => true
  | _ => false

def Value.listed? : Value → Option (List Value)
  | .list values => some values
  | .tuple values => some values
  | _ => none

/-- Whether a value is of the form that a field is declared to hold; otherwise the field is reset
to its default. A date is never reset. -/
def Kind.admits : Kind → Value → Bool
  | .text, .text _ => true
  | .text, _ => false
  | .day, _ => true
  | .count, value => value.count?.isSome
  | .flag, value => value.flag?.isSome
  | .one _, value => value.isRecord
  | .many _, value => value.listed?.isSome

def malformed (fields : List (String × Kind)) (given : List (String × Value)) : List String :=
  (fields.filter fun field =>
    match Value.at? given field.1 with
    | none => false
    | some value => !field.2.admits value).map Prod.fst

def readDay : Value → Except Cause (Option String)
  | .text s => .ok (some s)
  | .day d => .ok (some d.iso)
  | .moment m => .ok (some m.day.iso)
  | _ => .error .notText

def Value.sequence? : Value → Option (List Value)
  | .text _ => none
  | .object _ => none
  | value => value.elements?

def repairedKey : String := "repaired_fields"

def readText : Nat × Value → Except Issue String
  | (_, .text s) => .ok s
  | (i, _) => .error ⟨[toString i], .notText⟩

def readRepaired (given : List (String × Value)) : List String × List Issue :=
  match Value.at? given repairedKey with
  | none => ([], [])
  | some value =>
    match value.sequence? with
    | none => ([], [⟨[repairedKey], .notList⟩])
    | some values =>
      let read := (values.zipIdx.map fun (value, i) => readText (i, value))
      (read.filterMap Except.toOption,
        (read.filterMap fun
          | .ok _ => none
          | .error issue => some (issue.within repairedKey)))

/-- Fields that had to be reset are listed instead of those that the record claims. -/
def repairedOf (fields : List (String × Kind)) (given : List (String × Value)) :
    List String × List Issue :=
  let reset := malformed fields given
  if reset.isEmpty then readRepaired given else (reset, [])

def settle {α : Type} (fill : α → Field) (default : Field) :
    Option (Except Cause α) → Field × List Issue
  | none => (default, [])
  | some (.ok a) => (fill a, [])
  | some (.error cause) => (default, [⟨[], cause⟩])

mutual

def Kind.read : Kind → Value → Field × List Issue
  | .text, .text s => (.text (some s), [])
  | .text, _ => (.text none, [])
  | .day, value => settle .text (.text none) (some (readDay value))
  | .count, value => settle .count (.count 0) value.count?
  | .flag, value => settle .flag (.flag false) value.flag?
  | .one shape, value =>
    if value.isRecord then
      let (record, issues) := shape.read value
      (.one record, issues)
    else (.one shape.blank, [])
  | .many shape, value =>
    let elements := (value.listed?.getD []).map fun element =>
      shape.read (if element.isRecord then element else .object [])
    (.many (elements.map Prod.fst),
      elements.zipIdx.flatMap fun (element, i) => element.2.map (Issue.within (toString i)))

/-- A record of telemetry: fields of the wrong form are reset and listed, unknown ones ignored. -/
def Shape.read : Shape → Value → Record × List Issue
  | .mk _ fields, .object given =>
    let (repaired, issues) := repairedOf fields given
    let read := readFields given fields
    (.mk repaired (read.map fun field => (field.1, field.2.1)),
      issues ++ read.flatMap fun field => field.2.2.map (Issue.within field.1))
  | .mk name _, _ => (.mk [] [], [⟨[], .notRecord name⟩])

def readFields (given : List (String × Value)) :
    List (String × Kind) → List (String × Field × List Issue)
  | [] => []
  | field :: rest => readField given field :: readFields given rest

def readField (given : List (String × Value)) : String × Kind → String × Field × List Issue
  | (name, kind) =>
    (name, match Value.at? given name with
      | none => (kind.blank, [])
      | some value => kind.read value)

end

/-- A daily record of the feed; one that has been validated before is taken as it is. -/
def readDaily : Value → Except Rejection Record
  | .snapshot record => .ok record
  | value =>
    match Shape.daily.read value with
    | (record, []) => .ok record
    | (_, issues) => .error ⟨Shape.daily.name, issues⟩

end UsageMetrics.Feed
