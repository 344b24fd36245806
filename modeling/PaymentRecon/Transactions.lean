import PaymentRecon.Store.Reading
import PaymentRecon.Reconciliation
import PaymentRecon.Timestamps

/-!
# `GET /transactions`

`get_transactions` and `get_transaction_detail` of `app/routers/transactions.py`, with the queries of
`app/queries.py` that they run. A request does not open a transaction, so it is a `Store.Reading`: the
statements of the source in their order. Amounts stay in minor units.
-/

namespace PaymentRecon

open Store Sql

/-! ## Windows -/

/-- What reading a bound of a date range raises in a route: a `TimestampError` is answered. -/
def ParseError.toAppError : ParseError → AppError
  | timestamp e => .timestamp e
  | overflow => .overflow

/-- A bound of a date range, when it is given and not empty. -/
def windowBound (bound : String → Except ParseError String) :
    Option String → Except AppError (Option String)
  | none | some "" => .ok none
  | some text => ((bound text).map some).mapError ParseError.toAppError

/-- `_resolve_window`. A bound that is not `None` is not empty. -/
def resolveWindow (date_from date_to : Option String) :
    Except AppError (Option String × Option String) := do
  let lower ← windowBound rangeLowerBound date_from
  let upper ← windowBound rangeUpperBound date_to
  match lower, upper with
  | some l, some u =>
    if l > u then throw (.api 422 "validation_error" "date_from must not be after date_to")
    else pure (lower, upper)
  | _, _ => pure (lower, upper)

/-! ## The list -/

/-- `a > b`, of two floats. -/
def PyFloat.gt : PyFloat → PyFloat → Bool
  | finite a, finite b => b.value < a.value
  | inf, finite _ => true
  | _, _ => false

/-- The keys of `TRANSACTION_SORT_COLUMNS`. -/
inductive TransactionSort
  | first_event_at
  | last_event_at
  | amount
  | status
  | merchant_id
  | transaction_id
  | settled_at
  | event_count
deriving DecidableEq, Repr

/-- `TRANSACTION_SORT_COLUMNS`. -/
def TransactionSort.column (sort_by : TransactionSort) (t : TransactionRow) : Option Value :=
  match sort_by with
  | first_event_at => some (.text t.first_event_at)
  | last_event_at => some (.text t.last_event_at)
  | amount => some (.int t.amount_minor)
  | status => some (.text t.status.value)
  | merchant_id => some (.text t.merchant_id)
  | transaction_id => some (.text t.transaction_id)
  | settled_at => t.settled_at.map .text
  | event_count => some (.int t.event_count)

/-- The `ORDER BY` of the list. -/
def TransactionSort.keys (sort_by : TransactionSort) (sort_order : SortOrder) :
    List (SortKey (TransactionRow × String)) :=
  [⟨fun r => sort_by.column r.1, sort_order == .desc⟩,
    ⟨fun r => some (.text r.1.transaction_id), false⟩]

/-- `count_transactions`. -/
def countTransactions (where_ : Condition) (db : Database) : ℕ :=
  (db.transactions.rows.filter where_.selects).length

/-- `list_transactions`, for an offset below 2^63. A greater one is no 64-bit integer of SQLite, and
`execute` raises an `OverflowError` when it binds it; so it is for the pages of the other listings. -/
def listTransactions (where_ : Condition) (sort_by : TransactionSort) (sort_order : SortOrder)
    (limit offset : ℕ) (db : Database) : List (TransactionRow × String) :=
  page limit offset (orderBy (sort_by.keys sort_order) (db.joined.filter fun r => where_.selects r.1))

/-- A statement with the parameters of a condition, which raises `OverflowError` when one of them does
not fit. -/
def Condition.query {α : Type} (where_ : Condition) (q : Database → α) :
    Reading Database AppError α :=
  if where_.params.all fun p => p.2.fits then Reading.query q else Reading.calling (.error .overflow)

/-- The query of `GET /transactions`. -/
structure TransactionQuery where
  /-- The merchants. -/
  merchant_id : Option (List String) := none
  /-- The rolled-up statuses. -/
  status : Option (List TransactionStatus) := none
  /-- The statuses of the payment leg. -/
  payment_status : Option (List PaymentStatus) := none
  /-- The statuses of the settlement leg. -/
  settlement_status : Option (List SettlementStatus) := none
  /-- The currency, in any case. -/
  currency : Option String := none
  /-- The inclusive start of the date range, a date or a timestamp. -/
  date_from : Option String := none
  /-- The inclusive end of the date range, a date or a timestamp. -/
  date_to : Option String := none
  /-- The timestamp that the date range applies to. -/
  date_field : DateField := .first_event_at
  /-- The least amount, not negative. -/
  min_amount : Option PyFloat := none
  /-- The greatest amount, not negative. -/
  max_amount : Option PyFloat := none
  /-- With or without replays. -/
  has_duplicates : Option Bool := none
  /-- The column to sort by. -/
  sort_by : TransactionSort := .first_event_at
  /-- The direction of the sort. -/
  sort_order : SortOrder := .desc
  /-- The size of a page. -/
  limit : ℕ := 50
  /-- The rows before the page, fewer than 2^63. -/
  offset : ℕ := 0

/-- `to_minor_units` of a bound, when it is given. -/
def minorBound (amount : Option PyFloat) : Except AppError (Option ℤ) :=
  match amount with
  | none => .ok none
  | some amount => ((toMinorUnits amount).map some).mapError .amount

/-- The part of `get_transactions` before its statements: the checks, and the condition. -/
def TransactionQuery.where_ (query : TransactionQuery) : Except AppError Condition := do
  match query.min_amount, query.max_amount with
  | some low, some high =>
    if low.gt high then
      throw (.api 422 "validation_error" "min_amount must not be greater than max_amount")
  | _, _ => pure ()
  let window ← resolveWindow query.date_from query.date_to
  let min_amount_minor ← minorBound query.min_amount
  let max_amount_minor ← minorBound query.max_amount
  return buildTransactionFilters
    { merchant_id := query.merchant_id
      status := query.status.map fun values => values.map TransactionStatus.value
      payment_status := query.payment_status.map fun values => values.map PaymentStatus.value
      settlement_status :=
        query.settlement_status.map fun values => values.map SettlementStatus.value
      -- `currency.upper() if currency else None`
      currency := (query.currency.filter fun currency => currency ≠ "").map upper
      date_from := window.1
      date_to := window.2
      date_field := query.date_field
      min_amount_minor := min_amount_minor
      max_amount_minor := max_amount_minor
      has_duplicates := query.has_duplicates }

/-- `TransactionOut`. -/
structure TransactionOut where
  /-- The transaction. -/
  transaction_id : String
  /-- Its merchant. -/
  merchant_id : String
  /-- The merchant's name. -/
  merchant_name : String
  /-- The amount in minor units. -/
  amount_minor : ℤ
  /-- The currency code. -/
  currency : String
  /-- The rolled-up status. -/
  status : TransactionStatus
  /-- The payment leg. -/
  payment_status : PaymentStatus
  /-- The settlement leg. -/
  settlement_status : SettlementStatus
  /-- The first `payment_initiated` event. -/
  initiated_at : Option String
  /-- The first `payment_processed` event. -/
  processed_at : Option String
  /-- The first `payment_failed` event. -/
  failed_at : Option String
  /-- The first `settled` event. -/
  settled_at : Option String
  /-- The first event. -/
  first_event_at : String
  /-- The last event. -/
  last_event_at : String
  /-- The events stored. -/
  event_count : ℕ
  /-- The replays absorbed. -/
  duplicate_event_count : ℕ
  /-- The day of the first event. -/
  txn_date : String
deriving DecidableEq, Repr

/-- `TransactionOut(**row)`. -/
def transactionOut (r : TransactionRow × String) : TransactionOut where
  transaction_id := r.1.transaction_id
  merchant_id := r.1.merchant_id
  merchant_name := r.2
  amount_minor := r.1.amount_minor
  currency := r.1.currency
  status := r.1.status
  payment_status := r.1.payment_status
  settlement_status := r.1.settlement_status
  initiated_at := r.1.initiated_at
  processed_at := r.1.processed_at
  failed_at := r.1.failed_at
  settled_at := r.1.settled_at
  first_event_at := r.1.first_event_at
  last_event_at := r.1.last_event_at
  event_count := r.1.event_count
  duplicate_event_count := r.1.duplicate_event_count
  txn_date := r.1.txn_date

/-- `PageMeta` of a page. -/
def pageMeta (limit offset total returned : ℕ) : PageMeta where
  limit := limit
  offset := offset
  total := total
  returned := returned
  has_more := offset + returned < total

/-- `TransactionListResponse`. -/
structure TransactionListResponse where
  /-- The page. -/
  pagination : PageMeta
  /-- The transactions of the page. -/
  items : List TransactionOut
deriving DecidableEq, Repr

/-- `get_transactions`. -/
def getTransactions (query : TransactionQuery) :
    Reading Database AppError TransactionListResponse := do
  let where_ ← Reading.calling query.where_
  let total ← where_.query (countTransactions where_)
  let rows ← where_.query
    (listTransactions where_ query.sort_by query.sort_order query.limit query.offset)
  return ⟨pageMeta query.limit query.offset total rows.length, rows.map transactionOut⟩

/-! ## One transaction -/

/-- `EventOut`. -/
structure EventOut where
  /-- The event. -/
  event_id : String
  /-- What happened. -/
  event_type : EventType
  /-- The transaction. -/
  transaction_id : String
  /-- The merchant, as the event has it. -/
  merchant_id : String
  /-- The amount in minor units. -/
  amount_minor : ℤ
  /-- The currency code. -/
  currency : String
  /-- When it happened. -/
  occurred_at : String
  /-- When it was ingested. -/
  received_at : String
deriving DecidableEq, Repr

/-- The columns of an event that are shown. -/
def eventOut (row : EventRow) : EventOut where
  event_id := row.event_id
  event_type := row.event_type
  transaction_id := row.transaction_id
  merchant_id := row.merchant_id
  amount_minor := row.amount_minor
  currency := row.currency
  occurred_at := row.occurred_at
  received_at := row.received_at

/-- `get_transaction_events`. -/
def getTransactionEvents (transaction_id : String) (db : Database) : List EventOut :=
  (orderBy [⟨fun row => some (.text row.occurred_at), false⟩,
      ⟨fun row => some (.text row.received_at), false⟩]
    (db.events.rows.filter fun row => row.transaction_id = transaction_id)).map eventOut

/-- `MerchantOut`. -/
structure MerchantOut where
  /-- The merchant. -/
  merchant_id : String
  /-- Its name. -/
  merchant_name : String
deriving DecidableEq, Repr

/-- `TransactionDetail`. -/
structure TransactionDetail extends TransactionOut where
  /-- The merchant. -/
  merchant : MerchantOut
  /-- The discrepancies of the transaction. -/
  discrepancies : List DiscrepancyType
  /-- The events of the transaction. -/
  events : List EventOut
deriving DecidableEq, Repr

/-- The response for a row and the events. -/
def transactionDetail (row : TransactionRow × String) (cutoff : Utc) (events : List EventOut) :
    TransactionDetail where
  toTransactionOut := transactionOut row
  merchant :=
    { merchant_id := row.1.merchant_id
      -- `row["merchant_name"] or row["merchant_id"]`
      merchant_name := if row.2 ≠ "" then row.2 else row.1.merchant_id }
  discrepancies := discrepancyTypesForTransaction row.1 (formatTs cutoff)
  events := events

/-- `get_transaction_detail`, for an id of 1 to 128 characters. -/
def getTransactionDetail (transaction_id : String) (now : Utc) (stale_after_hours : ℕ) :
    Reading Database AppError TransactionDetail := do
  let row ← Reading.query fun db => getTransaction db transaction_id
  row.elim (Reading.calling (.error (.notFound transaction_id))) fun row =>
    (now.minusHours stale_after_hours).elim (Reading.calling (.error .overflow)) fun cutoff => do
      let events ← Reading.query (getTransactionEvents transaction_id)
      return transactionDetail row cutoff events

end PaymentRecon
