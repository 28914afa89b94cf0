import UsageMetrics.Billing.Costs
import UsageMetrics.Number.Decimal.Text
import UsageMetrics.Report.Document

namespace UsageMetrics.Report

open UsageMetrics.Number UsageMetrics.Billing

namespace Document

def ofDecimal (d : Decimal) : Document := .text d.render

def ofItem (i : Item) : Document :=
  .object [("date", ofOption .text i.date), ("model_name", ofOption .text i.modelName),
    ("request_count", ofDecimal i.requests), ("included_requests", ofDecimal i.includedRequests),
    ("gross_amount", ofDecimal i.grossAmount), ("discount_amount", ofDecimal i.discountAmount),
    ("multiplier", ofDecimal i.multiplier), ("product", ofOption .text i.product),
    ("sku", ofOption .text i.sku), ("unit_type", ofOption .text i.unitType),
    ("price_per_unit", ofOption ofDecimal i.pricePerUnit)]

def ofModelCost (m : ModelCost) : Document :=
  .object [("model", .text m.model), ("requests", ofDecimal m.costs.amounts.requests),
    ("included_requests", ofDecimal m.costs.amounts.includedRequests),
    ("billed_requests", ofDecimal m.costs.billedRequests),
    ("gross_amount", ofDecimal m.costs.amounts.gross),
    ("discount_amount", ofDecimal m.costs.amounts.discount),
    ("net_amount", ofDecimal m.costs.net), ("item_count", .integer m.itemCount)]

def ofPremium (p : PremiumMetrics) : Document :=
  .object [("currency", .text p.currency), ("item_count", .integer p.itemCount),
    ("skipped_records", .integer p.skippedRecords),
    ("total_gross_requests", ofDecimal p.total.amounts.requests),
    ("total_included_requests", ofDecimal p.total.amounts.includedRequests),
    ("total_billed_requests", ofDecimal p.total.billedRequests),
    ("total_gross_amount", ofDecimal p.total.amounts.gross),
    ("total_discount_amount", ofDecimal p.total.amounts.discount),
    ("total_net_amount", ofDecimal p.total.net),
    ("model_breakdown", .list (p.breakdown.map ofModelCost)), ("has_data", .bool true)]

end Document

end UsageMetrics.Report
