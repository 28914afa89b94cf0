import UsageMetrics.Number.Decimal

namespace UsageMetrics.Billing

open UsageMetrics.Number

/-- A metered line of the billing feed, with amounts as the biller priced them. -/
structure Item where
  date : Option String
  modelName : Option String
  requests : Decimal
  includedRequests : Decimal
  grossAmount : Decimal
  discountAmount : Decimal
  multiplier : Decimal
  product : Option String
  sku : Option String
  unitType : Option String
  pricePerUnit : Option Decimal
  deriving DecidableEq, Repr

def Item.blank : Item where
  date := none
  modelName := none
  requests := .zero
  includedRequests := .zero
  grossAmount := .zero
  discountAmount := .zero
  multiplier := .ofInt 1
  product := none
  sku := none
  unitType := none
  pricePerUnit := none

end UsageMetrics.Billing
