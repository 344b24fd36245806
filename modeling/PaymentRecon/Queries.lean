import Mathlib.Data.List.Dedup
import Mathlib.Data.List.Lex
import Mathlib.Algebra.BigOperators.Group.List.Basic
import PaymentRecon.Filters

/-!
# The report queries

The reconciliation queries of `app/queries.py`: the discrepancy report, the discrepancies of one
transaction, and the summary. The eight discrepancy types are computed in three places, which are
three definitions here: the flag columns of the common table expression (`flagRow`), the predicate
of the summary (`discrepancyPredicate`), and the Python function behind the detail endpoint
(`discrepancyTypesForTransaction`).

A query returns rows in no particular order until `ORDER BY` puts them in one. Sums of money stay in
minor units. Left out are the columns that only display: `amount` and `age_hours`, which are floats. The
`settlement_rate` of a summary row is computed from its counts (`Metrics.settlement_rate`).
-/

namespace PaymentRecon

open Store Sql

/-! ## Discrepancies -/

/-- The public discrepancy types. -/
inductive DiscrepancyType
  | settled_after_failure
  | settled_without_processing
  | processed_not_settled
  | stuck_in_initiated
  | conflicting_payment_state
  | amount_mismatch
  | merchant_mismatch
  | duplicate_events
deriving DecidableEq, Repr

/-- The severities. -/
inductive Severity
  | high
  | medium
  | low
deriving DecidableEq, Repr

/-- `SEVERITY_RANK`. -/
def Severity.rank : Severity → ℕ
  | high => 3
  | medium => 2
  | low => 1

/-- `DISCREPANCY_FLAGS`: the types in the order of their flags, with their severities. -/
def discrepancyFlags : List (DiscrepancyType × Severity) :=
  [(.settled_after_failure, .high), (.conflicting_payment_state, .high), (.amount_mismatch, .high),
    (.merchant_mismatch, .high), (.settled_without_processing, .medium),
    (.processed_not_settled, .medium), (.stuck_in_initiated, .low), (.duplicate_events, .low)]

/-- `DEFAULT_DISCREPANCY_TYPES`. -/
def defaultDiscrepancyTypes : List DiscrepancyType :=
  (discrepancyFlags.map Prod.fst).filter fun type => type ≠ .duplicate_events

/-- A row of `flagged`. -/
structure FlaggedRow where
  /-- The columns of the transaction. -/
  t : TransactionRow
  /-- The merchant's name. -/
  merchant_name : String
  /-- Settled and failed. -/
  d_settled_after_failure : ℕ
  /-- Settled, neither processed nor failed. -/
  d_settled_without_processing : ℕ
  /-- Processed before the cutoff, neither failed nor settled. -/
  d_processed_not_settled : ℕ
  /-- Initiated before the cutoff and nothing else. -/
  d_stuck_in_initiated : ℕ
  /-- Processed and failed. -/
  d_conflicting_payment_state : ℕ
  /-- The stored flag. -/
  d_amount_mismatch : ℕ
  /-- The stored flag. -/
  d_merchant_mismatch : ℕ
  /-- Replays were received. -/
  d_duplicate_events : ℕ
deriving DecidableEq, Repr

/-- The columns that the first part of `_FLAGGED_CTE` selects. -/
def flagRow (cutoff : String) (t : TransactionRow) (merchant_name : String) : FlaggedRow where
  t := t
  merchant_name := merchant_name
  d_settled_after_failure :=
    caseWhen ((isNotNull t.settled_at).and (isNotNull t.failed_at)) 1 0
  d_settled_without_processing :=
    caseWhen (((isNotNull t.settled_at).and (isNull t.processed_at)).and (isNull t.failed_at)) 1 0
  d_processed_not_settled :=
    caseWhen ((((isNotNull t.processed_at).and (isNull t.failed_at)).and (isNull t.settled_at)).and
      (lessThan t.processed_at (some cutoff))) 1 0
  d_stuck_in_initiated :=
    caseWhen (((((isNotNull t.initiated_at).and (isNull t.processed_at)).and
      (isNull t.failed_at)).and (isNull t.settled_at)).and
        (lessThan t.initiated_at (some cutoff))) 1 0
  d_conflicting_payment_state :=
    caseWhen ((isNotNull t.processed_at).and (isNotNull t.failed_at)) 1 0
  d_amount_mismatch := t.has_amount_mismatch
  d_merchant_mismatch := t.has_merchant_mismatch
  d_duplicate_events := if t.duplicate_event_count > 0 then 1 else 0

/-- `transactions t JOIN merchants m ON m.merchant_id = t.merchant_id`: each transaction with the
name of its merchant. The join is on the primary key, so at most one merchant matches. -/
def Database.joined (db : Database) : List (TransactionRow × String) :=
  db.transactions.rows.filterMap fun t =>
    (db.merchants.find? t.merchant_id).map fun m => (t, m.merchant_name)

/-- `flagged`. -/
def flagged (db : Database) (filter : Condition) (cutoff : String) : List FlaggedRow :=
  (db.joined.filter fun r => filter.selects r.1).map fun r => flagRow cutoff r.1 r.2

namespace FlaggedRow

/-- The flag column of a type. -/
def flag (r : FlaggedRow) : DiscrepancyType → ℕ
  | .settled_after_failure => r.d_settled_after_failure
  | .settled_without_processing => r.d_settled_without_processing
  | .processed_not_settled => r.d_processed_not_settled
  | .stuck_in_initiated => r.d_stuck_in_initiated
  | .conflicting_payment_state => r.d_conflicting_payment_state
  | .amount_mismatch => r.d_amount_mismatch
  | .merchant_mismatch => r.d_merchant_mismatch
  | .duplicate_events => r.d_duplicate_events

/-- `severity_rank`, the column that `scored` adds. -/
def severity_rank (r : FlaggedRow) : ℕ :=
  if r.d_settled_after_failure = 1 ∨ r.d_conflicting_payment_state = 1 ∨
      r.d_amount_mismatch = 1 ∨ r.d_merchant_mismatch = 1 then 3
  else if r.d_settled_without_processing = 1 ∨ r.d_processed_not_settled = 1 then 2
  else 1

/-- `_selected_predicate`. -/
def selected (types : List DiscrepancyType) (r : FlaggedRow) : Bool :=
  types.any fun type => r.flag type = 1

end FlaggedRow

/-- The keys of `DISCREPANCY_SORT_COLUMNS`. -/
inductive DiscrepancySort
  | severity
  | last_event_at
  | first_event_at
  | amount
  | transaction_id
  | age
deriving DecidableEq, Repr

/-- `DISCREPANCY_SORT_COLUMNS`. -/
def DiscrepancySort.column (sort_by : DiscrepancySort) (r : FlaggedRow) : Value :=
  match sort_by with
  | severity => .int r.severity_rank
  | last_event_at => .text r.t.last_event_at
  | first_event_at => .text r.t.first_event_at
  | amount => .int r.t.amount_minor
  | transaction_id => .text r.t.transaction_id
  | age => .text r.t.last_event_at

/-- The two directions of a sort. -/
inductive SortOrder
  | asc
  | desc
deriving DecidableEq, Repr

/-- The `ORDER BY` of the report. -/
def DiscrepancySort.keys (sort_by : DiscrepancySort) (sort_order : SortOrder) :
    List (SortKey FlaggedRow) :=
  let direction := sort_order == .desc
  match sort_by with
  | severity =>
    [⟨fun r => some (.int r.severity_rank), direction⟩,
      ⟨fun r => some (.text r.t.last_event_at), true⟩,
      ⟨fun r => some (.text r.t.transaction_id), false⟩]
  | sort_by =>
    [⟨fun r => some (sort_by.column r), direction⟩,
      ⟨fun r => some (.int r.severity_rank), true⟩,
      ⟨fun r => some (.text r.t.transaction_id), false⟩]

/-- An item of the report. -/
structure DiscrepancyItem where
  /-- The transaction. -/
  transaction_id : String
  /-- Its merchant. -/
  merchant_id : String
  /-- The merchant's name. -/
  merchant_name : String
  /-- The currency code. -/
  currency : String
  /-- The rolled-up status. -/
  status : TransactionStatus
  /-- The payment leg. -/
  payment_status : PaymentStatus
  /-- The settlement leg. -/
  settlement_status : SettlementStatus
  /-- The requested types that are present. -/
  discrepancy_types : List DiscrepancyType
  /-- The greatest severity among them. -/
  severity : Severity
  /-- The first `payment_initiated` event. -/
  initiated_at : Option String
  /-- The first `payment_processed` event. -/
  processed_at : Option String
  /-- The first `payment_failed` event. -/
  failed_at : Option String
  /-- The first `settled` event. -/
  settled_at : Option String
  /-- The last event. -/
  last_event_at : String
  /-- The events stored. -/
  event_count : ℕ
  /-- The replays absorbed. -/
  duplicate_event_count : ℕ
deriving DecidableEq, Repr

/-- The types that `_shape_discrepancy_row` lists: flagged and requested. -/
def FlaggedRow.present (r : FlaggedRow) (types : List DiscrepancyType) : List DiscrepancyType :=
  (discrepancyFlags.map Prod.fst).filter fun type => r.flag type ≠ 0 ∧ type ∈ types

/-- The loop of `_shape_discrepancy_row` that finds the severity. -/
def maxSeverity (present : List DiscrepancyType) : Severity :=
  present.foldl (fun severity public_ =>
    discrepancyFlags.foldl (fun severity flag =>
      if flag.1 = public_ ∧ flag.2.rank > severity.rank then flag.2 else severity) severity) .low

/-- `_shape_discrepancy_row`. -/
def shapeDiscrepancyRow (types : List DiscrepancyType) (r : FlaggedRow) : DiscrepancyItem where
  transaction_id := r.t.transaction_id
  merchant_id := r.t.merchant_id
  merchant_name := r.merchant_name
  currency := r.t.currency
  status := r.t.status
  payment_status := r.t.payment_status
  settlement_status := r.t.settlement_status
  discrepancy_types := r.present types
  severity := maxSeverity (r.present types)
  initiated_at := r.t.initiated_at
  processed_at := r.t.processed_at
  failed_at := r.t.failed_at
  settled_at := r.t.settled_at
  last_event_at := r.t.last_event_at
  event_count := r.t.event_count
  duplicate_event_count := r.t.duplicate_event_count

/-- What `discrepancies` returns. -/
structure DiscrepancyReport where
  /-- The page. -/
  items : List DiscrepancyItem
  /-- The rows of all pages. -/
  total : ℕ
  /-- The rows of all pages that each type is present in. -/
  counts_by_type : List (DiscrepancyType × ℕ)
deriving DecidableEq, Repr

/-- The counts of the requested types, which the endpoint keeps. -/
def DiscrepancyReport.countsOf (report : DiscrepancyReport) (types : List DiscrepancyType) :
    List (DiscrepancyType × ℕ) :=
  report.counts_by_type.filter fun c => c.1 ∈ types

/-- `discrepancies`, for an offset below 2^63. The third statement raises an `OverflowError` when it binds
a greater one. -/
def discrepancies (db : Database) (filter : Condition) (types : List DiscrepancyType)
    (cutoff : String) (sort_by : DiscrepancySort) (sort_order : SortOrder) (limit offset : ℕ) :
    DiscrepancyReport :=
  let rows := (flagged db filter cutoff).filter fun r => r.selected types
  -- Three statements of the source: the page, the total, and the sums of the flags.
  { items := (page limit offset (orderBy (sort_by.keys sort_order) rows)).map
      (shapeDiscrepancyRow types)
    total := rows.length
    counts_by_type := discrepancyFlags.map fun flag =>
      (flag.1, (rows.map fun r => r.flag flag.1).sum) }

/-! ## One transaction -/

/-- `get_transaction`: the row with its merchant's name. -/
def getTransaction (db : Database) (transaction_id : String) : Option (TransactionRow × String) :=
  (db.transactions.find? transaction_id).bind fun t =>
    (db.merchants.find? t.merchant_id).map fun m => (t, m.merchant_name)

/-- Python's truth value of an optional string. -/
def truthy (x : Option String) : Bool := x.any fun s => s ≠ ""

/-- `x < cutoff`, of a string that has been tested before. -/
def before (x : Option String) (cutoff : String) : Bool := x.any fun s => s < cutoff

/-- `discrepancy_types_for_transaction`. -/
def discrepancyTypesForTransaction (row : TransactionRow) (cutoff : String) :
    List DiscrepancyType :=
  let settled := truthy row.settled_at
  let failed := truthy row.failed_at
  let processed := truthy row.processed_at
  let initiated := truthy row.initiated_at
  (if settled && failed then [.settled_after_failure] else []) ++
  (if settled && !processed && !failed then [.settled_without_processing] else []) ++
  (if processed && !failed && !settled && before row.processed_at cutoff then
    [.processed_not_settled] else []) ++
  (if initiated && !processed && !failed && !settled && before row.initiated_at cutoff then
    [.stuck_in_initiated] else []) ++
  (if processed && failed then [.conflicting_payment_state] else []) ++
  (if row.has_amount_mismatch ≠ 0 then [.amount_mismatch] else []) ++
  (if row.has_merchant_mismatch ≠ 0 then [.merchant_mismatch] else []) ++
  (if row.duplicate_event_count > 0 then [.duplicate_events] else [])

/-! ## The summary -/

/-- `_discrepancy_predicate`. -/
def discrepancyPredicate (cutoff : String) (t : TransactionRow) : Tri :=
  ((isNotNull t.settled_at).and (isNotNull t.failed_at)).or
  ((((isNotNull t.settled_at).and (isNull t.processed_at)).and (isNull t.failed_at)).or
  (((((isNotNull t.processed_at).and (isNull t.failed_at)).and (isNull t.settled_at)).and
    (lessThan t.processed_at (some cutoff))).or
  ((((((isNotNull t.initiated_at).and (isNull t.processed_at)).and (isNull t.failed_at)).and
    (isNull t.settled_at)).and (lessThan t.initiated_at (some cutoff))).or
  (((isNotNull t.processed_at).and (isNotNull t.failed_at)).or
  (Tri.or (some (t.has_amount_mismatch = 1)) (some (t.has_merchant_mismatch = 1)))))))

/-- `_METRICS`. -/
structure Metrics where
  /-- The transactions. -/
  transaction_count : ℕ
  /-- Their amount. -/
  total_amount_minor : ℤ
  /-- Those with the status `initiated`. -/
  initiated_count : ℕ
  /-- Those with the status `processed`. -/
  processed_count : ℕ
  /-- Those with the status `failed`. -/
  failed_count : ℕ
  /-- Those with the status `settled`. -/
  settled_count : ℕ
  /-- The amount of the settled ones. -/
  settled_amount_minor : ℤ
  /-- The amount of the failed ones. -/
  failed_amount_minor : ℤ
  /-- The amount of those neither settled nor failed. -/
  unsettled_amount_minor : ℤ
  /-- Those with a discrepancy. -/
  discrepancy_count : ℕ
deriving DecidableEq, Repr

/-- The metrics of a group of transactions. `SUM` of no row is `NULL`, which `COALESCE` makes 0. -/
def metrics (cutoff : String) (ts : List TransactionRow) : Metrics where
  transaction_count := ts.length
  total_amount_minor := (ts.map TransactionRow.amount_minor).sum
  initiated_count := (ts.map fun t => if t.status = .initiated then 1 else 0).sum
  processed_count := (ts.map fun t => if t.status = .processed then 1 else 0).sum
  failed_count := (ts.map fun t => if t.status = .failed then 1 else 0).sum
  settled_count := (ts.map fun t => if t.status = .settled then 1 else 0).sum
  settled_amount_minor := (ts.map fun t => if t.status = .settled then t.amount_minor else 0).sum
  failed_amount_minor := (ts.map fun t => if t.status = .failed then t.amount_minor else 0).sum
  unsettled_amount_minor :=
    (ts.map fun t =>
      caseWhen ((isNull t.settled_at).and (isNull t.failed_at)) t.amount_minor 0).sum
  discrepancy_count := (ts.map fun t => caseWhen (discrepancyPredicate cutoff t) 1 0).sum

/-- The keys of `GROUP_BY_DIMENSIONS`. -/
inductive Dimension
  | merchant
  | date
  | status
  | currency
deriving DecidableEq, Repr

/-- The expressions of one dimension on a row. A merchant comes with its name. -/
def Dimension.key (r : TransactionRow × String) : Dimension → List String
  | merchant => [r.1.merchant_id, r.2]
  | date => [r.1.txn_date]
  | status => [r.1.status.value]
  | currency => [r.1.currency]

/-- A group of the summary. -/
structure SummaryGroup where
  /-- The values of the dimensions, in their order. -/
  key : List String
  /-- The metrics of the group. -/
  metrics : Metrics
deriving DecidableEq, Repr

/-- What `reconciliation_summary` returns. -/
structure Summary where
  /-- The metrics of all transactions. -/
  totals : Metrics
  /-- The page of groups. -/
  groups : List SummaryGroup
  /-- The groups of all pages. -/
  total_groups : ℕ
deriving DecidableEq, Repr

/-- The rows that the groups are made of. The merchants are joined when they are a dimension. -/
def groupRows (db : Database) (filter : Condition) (group_by : List Dimension) :
    List (TransactionRow × String) :=
  (if .merchant ∈ group_by then db.joined else db.transactions.rows.map fun t => (t, "")).filter
    fun r => filter.selects r.1

/-- `reconciliation_summary`, for an offset below 2^63. The statement for the groups raises an
`OverflowError` when it binds a greater one. -/
def reconciliationSummary (db : Database) (filter : Condition) (group_by : List Dimension)
    (cutoff : String) (limit offset : ℕ) : Summary :=
  let totals := metrics cutoff (db.transactions.rows.filter filter.selects)
  if group_by = [] then ⟨totals, [], 0⟩
  else
    -- `GROUP BY` and `ORDER BY` are over the same expressions.
    let rows := groupRows db filter group_by
    let key (r : TransactionRow × String) := group_by.flatMap (Dimension.key r)
    let keys := ((rows.map key).dedup).insertionSort (· ≤ ·)
    { totals := totals
      groups := page limit offset (keys.map fun k =>
        ⟨k, metrics cutoff ((rows.filter fun r => key r = k).map Prod.fst)⟩)
      total_groups := (rows.map key).dedup.length }

end PaymentRecon
