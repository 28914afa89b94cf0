import UsageMetrics.Feed.Reading

namespace UsageMetrics.Billing

open UsageMetrics.Number UsageMetrics.Feed UsageMetrics.Text

def signPart? : Value → Option Bool
  | .bool b => some b
  | .integer 0 => some false
  | .integer 1 => some true
  | _ => none

def exponentPart? : Value → Option (Option Int)
  | .integer n => some (some n)
  | .bool b => some (some (if b then 1 else 0))
  | .text s => if ["F", "n", "N"].contains s then some none else none
  | _ => none

def digitPart? : Value → Option Nat
  | .integer n => if 0 ≤ n ∧ n ≤ 9 then some n.toNat else none
  | .bool b => some (if b then 1 else 0)
  | _ => none

def digitParts? (v : Value) : Option (List Nat) := v.listed?.bind fun values =>
  values.mapM digitPart?

def decimalOfParts (sign digits exponent : Value) : Except Cause Decimal :=
  match signPart? sign, digitParts? digits, exponentPart? exponent with
  | some _, some _, some none => .error .notFinite
  | some negative, some digits, some (some exponent) =>
    let d : Decimal := ⟨negative, ofDigits digits, exponent⟩
    if Decimal.representable d then .ok d else .error .notDecimal
  | _, _, _ => .error .notDecimal

def finite : Decimal.Reading → Except Cause Decimal
  | .finite d => .ok d
  | .special _ => .error .notFinite

/-- Every amount is kept as exactly as it is given; a floating point number counts as its shortest
text. -/
def readDecimal : Value → Except Cause Decimal
  | .integer n => .ok (.ofInt n)
  | .float x => finite x.toDecimal
  | .decimal reading => finite reading
  | .text s =>
    match Decimal.parse? s with
    | some reading => finite reading
    | none => .error .unreadableDecimal
  | .tuple [sign, digits, exponent] => decimalOfParts sign digits exponent
  | _ => .error .notDecimal

def readMultiplier (v : Value) : Except Cause Decimal :=
  match readDecimal v with
  | .ok d => if d.isNegative then .error .negative else .ok d
  | .error cause => .error cause

def readName : Value → Except Cause (Option String)
  | .text s => .ok (some s)
  | _ => .error .notText

def readPrice (v : Value) : Except Cause (Option Decimal) := (readDecimal v).map some

def given? (given : List (String × Value)) : List String → Option (String × Value)
  | [] => none
  | key :: rest =>
    match given.lookup key with
    | some value => some (key, value)
    | none => given? given rest

/-- A field under the first of its keys that an item has; without a value it has its default. -/
def field {α : Type} (given : List (String × Value)) (keys : List String) (default : α)
    (read : Value → Except Cause α) : α × List Issue :=
  match given? given keys with
  | none => (default, [])
  | some (_, .null) => (default, [])
  | some (key, value) =>
    match read value with
    | .ok a => (a, [])
    | .error cause => (default, [⟨[key], cause⟩])

def modelKeys : List String := ["model_name", "modelName", "model"]

def requestKeys : List String := ["request_count", "requestCount", "grossQuantity"]

def includedKeys : List String := ["included_requests", "includedRequests", "discountQuantity"]

def grossKeys : List String := ["gross_amount", "grossAmount"]

def discountKeys : List String := ["discount_amount", "discountAmount"]

def shape : String := "RawPremiumUsageItem"

def readFields (given : List (String × Value)) : Item × List Issue :=
  let date := field given ["date"] Item.blank.date readDay
  let modelName := field given modelKeys Item.blank.modelName readName
  let requests := field given requestKeys Item.blank.requests readDecimal
  let includedRequests := field given includedKeys Item.blank.includedRequests readDecimal
  let grossAmount := field given grossKeys Item.blank.grossAmount readDecimal
  let discountAmount := field given discountKeys Item.blank.discountAmount readDecimal
  let multiplier := field given ["multiplier"] Item.blank.multiplier readMultiplier
  let product := field given ["product"] Item.blank.product readName
  let sku := field given ["sku"] Item.blank.sku readName
  let unitType := field given ["unit_type", "unitType"] Item.blank.unitType readName
  let pricePerUnit :=
    field given ["price_per_unit", "pricePerUnit"] Item.blank.pricePerUnit readPrice
  ({ date := date.1
     modelName := modelName.1
     requests := requests.1
     includedRequests := includedRequests.1
     grossAmount := grossAmount.1
     discountAmount := discountAmount.1
     multiplier := multiplier.1
     product := product.1
     sku := sku.1
     unitType := unitType.1
     pricePerUnit := pricePerUnit.1 },
    date.2 ++ modelName.2 ++ requests.2 ++ includedRequests.2 ++ grossAmount.2 ++
      discountAmount.2 ++ multiplier.2 ++ product.2 ++ sku.2 ++ unitType.2 ++ pricePerUnit.2)

/-- An item that has been validated before is taken as it is. -/
def readItem : Value → Except Rejection Item
  | .item i => .ok i
  | .object given =>
    match readFields given with
    | (i, []) => .ok i
    | (_, issues) => .error ⟨shape, issues⟩
  | _ => .error ⟨shape, [⟨[], .notRecord shape⟩]⟩

def validItems (raws : List Value) : List Item := raws.filterMap fun raw => (readItem raw).toOption

def invalidItems (raws : List Value) : List (Nat × Rejection) :=
  raws.zipIdx.filterMap fun (raw, index) =>
    match readItem raw with
    | .ok _ => none
    | .error rejection => some (index, rejection)

end UsageMetrics.Billing
