import UsageMetrics.Billing.Item
import UsageMetrics.Calendar.Moment
import UsageMetrics.Feed.Record
import UsageMetrics.Number.Binary64.Text
import UsageMetrics.Text.Quoted

namespace UsageMetrics.Feed

open UsageMetrics.Number UsageMetrics.Calendar UsageMetrics.Text

/-- What a feed may deliver: a JSON value, or one that its collector has already read further. -/
inductive Value where
  | null
  | bool (value : Bool)
  | integer (value : Int)
  | float (value : Binary64)
  | text (value : String)
  | decimal (value : Decimal.Reading)
  | day (value : Day)
  | moment (value : Moment)
  | list (values : List Value)
  | tuple (values : List Value)
  | object (fields : List (String × Value))
  | snapshot (record : Record)
  | item (item : Billing.Item)

namespace Value

def kind : Value → String
  | .null => "NoneType"
  | .bool _ => "bool"
  | .integer _ => "int"
  | .float _ => "float"
  | .text _ => "str"
  | .decimal _ => "decimal.Decimal"
  | .day _ => "datetime.date"
  | .moment _ => "datetime.datetime"
  | .list _ => "list"
  | .tuple _ => "tuple"
  | .object _ => "dict"
  | .snapshot _ => "RawDailySnapshot"
  | .item _ => "RawPremiumUsageItem"

/-- The value under a key; a key without a value counts as absent. -/
def at? (fields : List (String × Value)) (key : String) : Option Value :=
  match fields.lookup key with
  | none => none
  | some .null => none
  | some value => some value

/-- Absent, zero or empty. -/
def isHollow : Value → Bool
  | .null => true
  | .bool value => !value
  | .integer value => value = 0
  | .float value => value.isZero
  | .text value => value.isEmpty
  | .decimal (.finite value) => value.coefficient = 0
  | .list values => values.isEmpty
  | .tuple values => values.isEmpty
  | .object fields => fields.isEmpty
  | _ => false

def isHashable : Value → Bool
  | .list _ => false
  | .object _ => false
  | _ => true

def ofText? : Option String → Value
  | none => .null
  | some s => .text s

def ofDecimal (d : Decimal) : Value := .decimal (.finite d)

mutual

def ofField : Field → Value
  | .text value => ofText? value
  | .count value => .integer value
  | .flag value => .bool value
  | .one record => .snapshot record
  | .many records => .list (ofRecords records)

def ofRecords : List Record → List Value
  | [] => []
  | record :: rest => .snapshot record :: ofRecords rest

end

def itemFields (i : Billing.Item) : List (String × Value) :=
  [("date", ofText? i.date), ("model_name", ofText? i.modelName),
    ("request_count", ofDecimal i.requests), ("included_requests", ofDecimal i.includedRequests),
    ("gross_amount", ofDecimal i.grossAmount), ("discount_amount", ofDecimal i.discountAmount),
    ("multiplier", ofDecimal i.multiplier), ("product", ofText? i.product), ("sku", ofText? i.sku),
    ("unit_type", ofText? i.unitType),
    ("price_per_unit", (i.pricePerUnit.map ofDecimal).getD .null)]

def pair (field : String × Value) : Value := .tuple [.text field.1, field.2]

/-- What a walk through a value meets: the elements of a list, the keys of an object, the
characters of a text, the named fields of a validated record. -/
def elements? : Value → Option (List Value)
  | .list values => some values
  | .tuple values => some values
  | .object fields => some (fields.map fun field => .text field.1)
  | .text s => some (s.toList.map fun c => .text (String.singleton c))
  | .item i => some ((itemFields i).map pair)
  | .snapshot record =>
    some (pair ("repaired_fields", .list (record.repaired.map .text)) ::
      record.fields.map fun field => pair (field.1, ofField field.2))
  | _ => none

mutual

def literal : Value → String
  | .null => "None"
  | .bool value => if value then "True" else "False"
  | .integer value => toString value
  | .float value => value.render
  | .text s => Quoted.quoted s
  | .decimal (.finite d) => "Decimal(" ++ Quoted.quoted d.render ++ ")"
  | .decimal (.special s) => "Decimal(" ++ Quoted.quoted s ++ ")"
  | .day d => "datetime.date(" ++ toString d.year ++ ", " ++ toString d.month ++ ", " ++
      toString d.day ++ ")"
  | .moment m => m.iso
  | .list values => "[" ++ ", ".intercalate (literals values) ++ "]"
  | .tuple values =>
    "(" ++ ", ".intercalate (literals values) ++ if values.length = 1 then ",)" else ")"
  | .object fields => "\x7b" ++ ", ".intercalate (entryLiterals fields) ++ "\x7d"
  | .snapshot _ => "RawDailySnapshot()"
  | .item _ => "RawPremiumUsageItem()"

def literals : List Value → List String
  | [] => []
  | value :: rest => literal value :: literals rest

def entryLiterals : List (String × Value) → List String
  | [] => []
  | entry :: rest => entryLiteral entry :: entryLiterals rest

def entryLiteral : String × Value → String
  | (key, value) => Quoted.quoted key ++ ": " ++ literal value

end

def plainText : Value → String
  | .text s => s
  | value => value.literal

/-- What tells one key from another: equal numbers are one key. -/
def keyText : Value → String
  | .bool value => (Value.integer (if value then 1 else 0)).literal
  | .float value => (value.toInt?.map fun n => (Value.integer n).literal).getD value.render
  | value => value.literal

end Value

end UsageMetrics.Feed
