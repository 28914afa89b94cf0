import UsageMetrics.Daily.SnapshotReading
import UsageMetrics.Feed.Comparison
import UsageMetrics.Feed.Json
import UsageMetrics.Journal.Billing
import UsageMetrics.Journal.Export
import UsageMetrics.Journal.Telemetry
import UsageMetrics.Proofs.Billing.Reconciliation
import UsageMetrics.Proofs.Daily.Completeness
import UsageMetrics.Proofs.Window.Intake
import UsageMetrics.Proofs.Window.Trend
import UsageMetrics.Report.Billing
import UsageMetrics.Report.SheetView
import UsageMetrics.Report.Window
import UsageMetrics.Requests.Breakdown
import UsageMetrics.Requests.Observation
import UsageMetrics.Requests.OpenBreakdown
import UsageMetrics.Sample.Billing
import UsageMetrics.Sample.Telemetry
import UsageMetrics.Session
import UsageMetrics.Window.EntityReading
import UsageMetrics.Proofs.Window.Users
import UsageMetrics.Proofs.Daily.Phases
import UsageMetrics.Proofs.Feed.Reordering
import UsageMetrics.Proofs.Daily.Reordering
import UsageMetrics.Proofs.Window.Summary
import UsageMetrics.Proofs.Window.Reordering
import UsageMetrics.Proofs.Daily.Coherence
import UsageMetrics.Proofs.Number.Percentage
import UsageMetrics.Proofs.Window.Rates
import UsageMetrics.Proofs.Window.WeightedMean
import UsageMetrics.Proofs.Window.Skipping
import UsageMetrics.Proofs.Daily.Naming
import UsageMetrics.Proofs.Window.Totality
import UsageMetrics.Proofs.Daily.Isolation
import UsageMetrics.Proofs.Window.Isolation
import UsageMetrics.Proofs.Feed.Change
import UsageMetrics.Proofs.Feed.Trimming
import UsageMetrics.Proofs.Daily.Trimming
import UsageMetrics.Proofs.Daily.UnknownKeys
import UsageMetrics.Proofs.Feed.Entries
import UsageMetrics.Proofs.Daily.Accepted
import UsageMetrics.Proofs.Daily.Warnings
import UsageMetrics.Proofs.Number.Order
import UsageMetrics.Proofs.Number.Summation
import UsageMetrics.Proofs.Billing.Fit
import UsageMetrics.Proofs.Billing.Reordering
import UsageMetrics.Proofs.Billing.Overflow
import UsageMetrics.Proofs.Billing.Notes
import UsageMetrics.Proofs.Window.LastDay
import UsageMetrics.Proofs.Window.Layout
import UsageMetrics.Proofs.Window.Tables
import UsageMetrics.Proofs.Billing.Accounting
import UsageMetrics.Proofs.Report.ReadBack
import UsageMetrics.Proofs.Daily.Reference
import UsageMetrics.Proofs.Sample.Window
import UsageMetrics.Proofs.Report.Workbook
import UsageMetrics.Proofs.Daily.NormalForm
import UsageMetrics.Proofs.Feed.Repair
import UsageMetrics.Proofs.Window.Ranking
import UsageMetrics.Proofs.Billing.NullFields
import UsageMetrics.Proofs.Billing.Listing
import UsageMetrics.Proofs.Window.Presence
import UsageMetrics.Proofs.Number.HalfUp
import UsageMetrics.Proofs.Daily.Dating
import UsageMetrics.Proofs.Requests.Course
