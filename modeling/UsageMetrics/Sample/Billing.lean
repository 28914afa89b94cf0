import UsageMetrics.Sample.Builder
import UsageMetrics.Sample.Draw

namespace UsageMetrics.Sample

open UsageMetrics.Number UsageMetrics.Feed Draw

structure Rate where
  model : String
  price : Decimal
  multiplier : Decimal

def rates : List Rate :=
  [⟨"claude-opus-4", ⟨false, 4, -2⟩, .ofInt 10⟩, ⟨"claude-sonnet-4", ⟨false, 4, -2⟩, .ofInt 1⟩,
    ⟨"gpt-4.1", ⟨false, 4, -2⟩, .zero⟩, ⟨"o3", ⟨false, 4, -2⟩, .ofInt 1⟩]

def amount (r : Rate) (quantity : Nat) : Value :=
  let priced := (Binary64.ofInt quantity).times (.ofDecimal r.price)
  .float ((priced.times (.ofDecimal r.multiplier)).roundedTo 2)

def item (r : Rate) (quantity included : Nat) : Value :=
  .object [("product", .text "Copilot"), ("sku", .text "Copilot Premium Request"),
    ("model", .text r.model), ("unitType", .text "requests"),
    ("pricePerUnit", .float (.ofDecimal r.price)), ("grossQuantity", count quantity),
    ("grossAmount", amount r quantity), ("discountQuantity", count included),
    ("discountAmount", amount r included), ("netQuantity", count (quantity - included)),
    ("netAmount", amount r (quantity - included)),
    ("multiplier", .float (.ofDecimal r.multiplier))]

def drawItem : Draw Value := do
  let index ← below rates.length
  let quantity ← between 0 50
  let included ← between 0 quantity
  match rates[index]? with
  | some r => return item r quantity included
  | none => failure

def drawItems : Nat → Draw (List Value)
  | 0 => return []
  | n + 1 => do
    let first ← drawItem
    let rest ← drawItems n
    return first :: rest

def billing? (year month : Value) (items : Int) (seed : Nat) : Option Value :=
  ((drawItems items.toNat).run (Twister.ofSeed seed)).map fun drawn =>
    .object
      [("timePeriod", .object [("year", year), ("month", month)]),
        ("organization", .text "navikt"), ("usageItems", .list drawn.1)]

end UsageMetrics.Sample
