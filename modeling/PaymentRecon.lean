import PaymentRecon.Store.Table
import PaymentRecon.Store.Program
import PaymentRecon.Store.Interleaving
import PaymentRecon.Store.Reading
import PaymentRecon.Sql.Expr
import PaymentRecon.Timeutils
import PaymentRecon.Money
import PaymentRecon.MinorUnits
import PaymentRecon.MajorUnits
import PaymentRecon.Schemas
import PaymentRecon.Schema
import PaymentRecon.Ingest
import PaymentRecon.Batch
import PaymentRecon.Calendar
import PaymentRecon.Run
import PaymentRecon.Projection
import PaymentRecon.MerchantNames
import PaymentRecon.Sql.OrderBy
import PaymentRecon.Filters
import PaymentRecon.Queries
import PaymentRecon.Detection
import PaymentRecon.Surfacing
import PaymentRecon.Erasure
import PaymentRecon.Answers
import PaymentRecon.Convergence
import PaymentRecon.Events
import PaymentRecon.Concurrency
import PaymentRecon.Reconciliation
import PaymentRecon.AsOf
import PaymentRecon.Irreversible
import PaymentRecon.Isolation
import PaymentRecon.Constraints
import PaymentRecon.Sql.Paging
import PaymentRecon.Sql.GroupBy
import PaymentRecon.Sql.Join
import PaymentRecon.Summary
import PaymentRecon.Numeric.Binary64
import PaymentRecon.Numeric.Shortest
import PaymentRecon.Buckets
import PaymentRecon.FilterMeaning
import PaymentRecon.Severities
import PaymentRecon.SeverityOrder
import PaymentRecon.Counts
import PaymentRecon.Unicode
import PaymentRecon.Isoformat
import PaymentRecon.Timestamps
import PaymentRecon.IsoSpellings
import PaymentRecon.TimeOrder
import PaymentRecon.Validation
import PaymentRecon.Replay
import PaymentRecon.Seeding
import PaymentRecon.Transactions
import PaymentRecon.DiscrepancyTexts
import PaymentRecon.TimestampErrors
import PaymentRecon.Staleness
import PaymentRecon.Days
import PaymentRecon.RangeBounds
import PaymentRecon.EventLog
import PaymentRecon.Pages
import PaymentRecon.Reports
import PaymentRecon.Snapshots
import PaymentRecon.AmountBounds
import PaymentRecon.Dates
import PaymentRecon.Merchants
import PaymentRecon.Sql.Growing
import PaymentRecon.Feeds
import PaymentRecon.Store.Offers
import PaymentRecon.Ledger
import PaymentRecon.Store.Progress
import PaymentRecon.Sessions
import PaymentRecon.Store.Absorbing
import PaymentRecon.Content
import PaymentRecon.SeedScript
import PaymentRecon.Rebuild
import PaymentRecon.Groupings
import PaymentRecon.Store.Handles
import PaymentRecon.Connections
import PaymentRecon.Store.Growth
import PaymentRecon.Totals
import PaymentRecon.Documents
import PaymentRecon.Standings
import PaymentRecon.Details
import PaymentRecon.Replies
import PaymentRecon.InMemory
