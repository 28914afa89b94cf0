import UsageMetrics.Billing.Reading
import UsageMetrics.Feed.Elements

namespace UsageMetrics.Billing

open UsageMetrics.Feed

def listKeys : List String := ["usageItems", "usage_items"]

/-- The keys that tell a single item from such an answer. -/
def itemKeys : List String :=
  ["model", "modelName", "model_name", "grossQuantity", "requestCount", "request_count",
    "grossAmount", "gross_amount", "discountQuantity", "includedRequests", "included_requests",
    "discountAmount", "discount_amount"]

def hasAny (keys : List String) (given : List (String × Value)) : Bool :=
  keys.any fun key => (given.lookup key).isSome

def listed (given : List (String × Value)) : Value :=
  match (listKeys.filterMap fun key => given.lookup key).find? fun v => !v.isHollow with
  | some value => value
  | none => .list []

/-- The items of a list, of an answer that lists them, or a single item. -/
def extract : Value → Except NotIterable (List Value)
  | .null => .ok []
  | .object given =>
    if hasAny listKeys given then (listed given).elements
    else if hasAny itemKeys given then .ok [.object given]
    else .ok []
  | v => v.elements

end UsageMetrics.Billing
