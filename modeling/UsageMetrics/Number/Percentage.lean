namespace UsageMetrics.Number

/-- A hundred times the quotient, to the nearest integer and up from a half; without a positive
whole there is no share. -/
def percentage (part whole : Int) : Int :=
  if whole ≤ 0 then 0 else (200 * part + whole) / (2 * whole)

end UsageMetrics.Number
