import UsageMetrics.Feed.Shape
import UsageMetrics.Feed.Value
import UsageMetrics.Text.Points

namespace UsageMetrics.Feed

open UsageMetrics.Number UsageMetrics.Text

/-- A JSON value as it is delivered: no text in it is known to be Unicode yet. -/
inductive Delivery where
  | null
  | bool (value : Bool)
  | integer (value : Int)
  | float (value : Binary64)
  | text (points : Points)
  | list (values : List Delivery)
  | object (fields : List (Points × Delivery))

namespace Delivery

mutual

/-- The value that readers see: a half is shown as a character that none of them asks for. The name
of an entity, which is kept, is looked at as it was delivered. -/
def shown : Delivery → Value
  | .null => .null
  | .bool value => .bool value
  | .integer value => .integer value
  | .float value => .float value
  | .text points => .text points.shown
  | .list values => .list (shownAll values)
  | .object fields => .object (shownFields fields)

def shownAll : List Delivery → List Value
  | [] => []
  | value :: rest => shown value :: shownAll rest

def shownFields : List (Points × Delivery) → List (String × Value)
  | [] => []
  | field :: rest => shownField field :: shownFields rest

def shownField : Points × Delivery → String × Value
  | (key, value) => (key.shown, shown value)

end

mutual

def isUnicode : Delivery → Bool
  | .text points => points.isUnicode
  | .list values => allUnicode values
  | .object fields => fieldsUnicode fields
  | _ => true

def allUnicode : List Delivery → Bool
  | [] => true
  | value :: rest => isUnicode value && allUnicode rest

def fieldsUnicode : List (Points × Delivery) → Bool
  | [] => true
  | field :: rest => fieldUnicode field && fieldsUnicode rest

def fieldUnicode : Points × Delivery → Bool
  | (key, value) => key.isUnicode && isUnicode value

end

def given : Delivery → List (Points × Delivery)
  | .object fields => fields
  | _ => []

def keyed (fields : List (Points × Delivery)) : List (String × Delivery) :=
  fields.map fun (key, value) => (key.shown, value)

/-- The value under a key; a key without a value counts as absent. -/
def at? (fields : List (Points × Delivery)) (key : String) : Option Delivery :=
  match (keyed fields).lookup key with
  | none => none
  | some .null => none
  | some value => some value

def listed? : Delivery → Option (List Delivery)
  | .list values => some values
  | _ => none

def listUnder (fields : List (Points × Delivery)) (key : String) : List Delivery :=
  ((at? fields key).bind listed?).getD []

def textUnder (fields : List (Points × Delivery)) (key : String) : Option Points :=
  match at? fields key with
  | some (.text points) => some points
  | _ => none

end Delivery

structure DeliveredEntry where
  list : String
  given : List (Points × Delivery)

namespace DeliveredEntry

def name? (entry : DeliveredEntry) : Option Points := Delivery.textUnder entry.given "name"

end DeliveredEntry

mutual

def Kind.delivered : Kind → String → List Delivery → List DeliveredEntry
  | .many (.mk _ fields), key, elements => elements.flatMap fun element =>
      ⟨key, element.given⟩ :: deliveredIn fields element.given
  | _, _, _ => []

def deliveredIn : List (String × Kind) → List (Points × Delivery) → List DeliveredEntry
  | [], _ => []
  | field :: rest, given => deliveredUnder field given ++ deliveredIn rest given

def deliveredUnder : String × Kind → List (Points × Delivery) → List DeliveredEntry
  | (key, kind), given => kind.delivered key (Delivery.listUnder given key)

end

end UsageMetrics.Feed
