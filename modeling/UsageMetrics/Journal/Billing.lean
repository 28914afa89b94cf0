import UsageMetrics.Journal.Entry
import UsageMetrics.Number.Decimal.Text
import UsageMetrics.Requests

namespace UsageMetrics.Journal

open UsageMetrics.Feed UsageMetrics.Billing

def keyList (given : List (String × Value)) : String :=
  let keys := (given.map Prod.fst).mergeSort fun a b => decide (a ≤ b)
  if keys.isEmpty then "none" else ", ".intercalate keys

def ofExtract : Value → List Entry
  | .object given =>
    if hasAny listKeys given then []
    else if hasAny itemKeys given then
      [⟨"premium_costs", .info,
        "[PREMIUM] Billing input is a single usage item, wrapping it in a list"⟩]
    else
      [⟨"premium_costs", .warning,
        "[PREMIUM] Billing response has no usageItems list (keys: " ++ keyList given ++ ")"⟩]
  | _ => []

def ofItems (raws : List Value) : List Entry :=
  let invalid := invalidItems raws
  let each : List Entry := invalid.map fun (index, rejection) =>
    ⟨"validators", .warning,
      "[VALIDATION] Skipping invalid premium usage item at index " ++ toString index ++ ": " ++
        rejection.message⟩
  if invalid.isEmpty then []
  else
    each ++
      [⟨"validators", .warning,
        "[VALIDATION] " ++ counted [(invalid.length, " of "),
          (raws.length, " premium usage items failed validation")]⟩]

def ofCosts (p : PremiumMetrics) : Entry :=
  ⟨"premium_costs", .info,
    "[PREMIUM] " ++ counted [(p.itemCount, " items across "), (p.breakdown.length, " models: ")] ++
      "gross " ++ p.total.amounts.gross.render ++
      ", discount " ++ p.total.amounts.discount.render ++
      ", net " ++ p.total.net.render ++ " " ++ p.currency⟩

def premiumResult (settings : Settings) (raws : List Value) : List Entry :=
  match premium settings raws with
  | .error _ => []
  | .ok (.noData n) =>
    [⟨"premium_costs", .warning,
      "[PREMIUM] No premium usage items to calculate (" ++ counted [(n.inputRecords, " received, "),
        (n.skippedRecords, " invalid)")]⟩]
  | .ok (.found p) => [ofCosts p]

def ofPremium (settings : Settings) (items : Value) : List Entry :=
  let work := match items.elements? with
    | none => []
    | some raws => ofItems raws ++ premiumResult settings raws
  phase .premium (premiumOf settings items) work

def ofPremiumSummary (settings : Settings) (usage : Value) : List Entry :=
  ofExtract usage ++
    match extract usage with
    | .ok items => ofPremium settings (.list items)
    | .error _ => []

def ofValidation (items : Value) : List Entry :=
  match items.elements? with
  | none => []
  | some raws =>
    match validateItems items with
    | .ok _ => ofItems raws
    | .error _ => (ofItems raws).dropLast

end UsageMetrics.Journal
