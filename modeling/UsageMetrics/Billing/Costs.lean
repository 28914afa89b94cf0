import UsageMetrics.Billing.Listing
import UsageMetrics.Outcome
import UsageMetrics.Settings

namespace UsageMetrics.Billing

open UsageMetrics.Number UsageMetrics.Feed

structure Amounts where
  requests : Decimal
  includedRequests : Decimal
  gross : Decimal
  discount : Decimal
  deriving DecidableEq, Repr

namespace Amounts

def zero : Amounts := ⟨.zero, .zero, .zero, .zero⟩

def ofItem (i : Item) : Amounts := ⟨i.requests, i.includedRequests, i.grossAmount, i.discountAmount⟩

def add? (a b : Amounts) : Option Amounts := do
  return ⟨← a.requests.add? b.requests, ← a.includedRequests.add? b.includedRequests,
    ← a.gross.add? b.gross, ← a.discount.add? b.discount⟩

def sum? (amounts : List Amounts) : Option Amounts := amounts.foldlM add? zero

end Amounts

/-- The costs of a model or of a whole period. What is billed is the difference of what is used
and what is included, and the net amount that of gross and discount. -/
structure Costs where
  amounts : Amounts
  billedRequests : Decimal
  net : Decimal
  deriving DecidableEq, Repr

def Costs.ofAmounts? (a : Amounts) : Option Costs := do
  return ⟨a, ← a.requests.sub? a.includedRequests, ← a.gross.sub? a.discount⟩

structure ModelCost where
  model : String
  costs : Costs
  itemCount : Nat
  deriving DecidableEq, Repr

structure PremiumMetrics where
  currency : String
  itemCount : Nat
  skippedRecords : Nat
  total : Costs
  breakdown : List ModelCost
  deriving DecidableEq, Repr

def nameOf? (i : Item) : Option String := i.modelName.filter fun name => !name.isEmpty

def modelOf (unknown : String) (i : Item) : String := (nameOf? i).getD unknown

def firstSeen {κ : Type} [DecidableEq κ] : List κ → List κ
  | [] => []
  | key :: rest => key :: (firstSeen rest).filter (· ≠ key)

def amountsUnder? {κ : Type} [DecidableEq κ] (keyOf : Item → κ) (items : List Item) (key : κ) :
    Option Amounts :=
  Amounts.sum? ((items.filter fun i => keyOf i = key).map Amounts.ofItem)

def costsUnder? {κ : Type} [DecidableEq κ] (keyOf : Item → κ) (items : List Item) (key : κ) :
    Option Costs := do
  Costs.ofAmounts? (← amountsUnder? keyOf items key)

def modelCost? (unknown : String) (items : List Item) (model : String) : Option ModelCost := do
  return ⟨model, ← costsUnder? (modelOf unknown) items model,
    (items.filter fun i => modelOf unknown i = model).length⟩

/-- Larger gross amounts come first, then the smaller name. -/
def costBefore (a b : ModelCost) : Bool :=
  match Decimal.order b.costs.amounts.gross a.costs.amounts.gross with
  | .lt => true
  | .eq => decide (a.model ≤ b.model)
  | .gt => false

/-- The rows of a breakdown and their total, unless an amount grows beyond all that can be
written. -/
def breakdown? (unknown : String) (items : List Item) : Option (List ModelCost × Costs) := do
  let rows ← (firstSeen (items.map (modelOf unknown))).mapM (modelCost? unknown items)
  let total ← Amounts.sum? (rows.map fun row => row.costs.amounts)
  return (rows.mergeSort costBefore, ← Costs.ofAmounts? total)

inductive CostsFault where
  | overflow
  | unhashable (kind : String)
  | rejected (r : Rejection)
  deriving DecidableEq, Repr

def CostsFault.message : CostsFault → String
  | overflow => "[<class 'decimal.Overflow'>]"
  | unhashable kind => "unhashable type: '" ++ kind ++ "'"
  | rejected r => r.message

def CostsFault.misnamed (shape field : String) : CostsFault :=
  .rejected ⟨shape, [⟨[field], .notText⟩]⟩

/-- What becomes of items without a model where something else than a text is to name them: what
cannot be a key fails at the first of them, anything else only in its row of the breakdown. -/
def namelessFault (unknown : Value) (items : List Item) : CostsFault :=
  if unknown.isHashable then
    let models := firstSeen (items.map nameOf?)
    let rows := models.takeWhile (·.isSome) ++ [none]
    if models.all (fun model => (amountsUnder? nameOf? items model).isSome) &&
        rows.all (fun model => (costsUnder? nameOf? items model).isSome) then
      .misnamed "ModelCost" "model"
    else .overflow
  else
    let before := items.takeWhile fun i => (nameOf? i).isSome
    if (before.map nameOf?).all fun model => (amountsUnder? nameOf? before model).isSome then
      .unhashable unknown.kind
    else .overflow

def readUnknown (unknown : Value) (items : List Item) : Except CostsFault String :=
  match unknown with
  | .text name => .ok name
  | _ =>
    if items.all fun i => (nameOf? i).isSome then .ok "" else .error (namelessFault unknown items)

def readCurrency : Value → Except CostsFault String
  | .text currency => .ok currency
  | _ => .error (.misnamed "PremiumMetrics" "currency")

def costs (settings : Settings) (items : List Item) (skipped : Nat) :
    Except CostsFault PremiumMetrics := do
  let unknown ← readUnknown settings.unknownModel items
  match breakdown? unknown items with
  | none => throw .overflow
  | some (breakdown, total) =>
    return {
      currency := ← readCurrency settings.currency
      itemCount := items.length
      skippedRecords := skipped
      total
      breakdown }

def premium (settings : Settings) (raws : List Value) :
    Except CostsFault (Outcome PremiumMetrics) :=
  let items := validItems raws
  let skipped := (invalidItems raws).length
  if items.isEmpty then .ok (.noData ⟨.billing, raws.length, skipped⟩)
  else (costs settings items skipped).map .found

end UsageMetrics.Billing
