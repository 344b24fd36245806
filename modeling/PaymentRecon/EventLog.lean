import PaymentRecon.Transactions

/-!
# `GET /events`

`list_events` of `app/routers/events.py`, the audit view of the log. Its condition is put together in
the route: each clause compares a column that is never `NULL` with a parameter of its own, so that the
model keeps the parameter's value in the clause.
-/

namespace PaymentRecon

open Store Sql

/-- The query of `GET /events`. -/
structure EventQuery where
  /-- The transaction. -/
  transaction_id : Option String := none
  /-- The merchant. -/
  merchant_id : Option String := none
  /-- The type, as a text. -/
  event_type : Option String := none
  /-- The inclusive start of the date range, a date or a timestamp. -/
  date_from : Option String := none
  /-- The inclusive end of the date range, a date or a timestamp. -/
  date_to : Option String := none
  /-- The size of a page. -/
  limit : ℕ := 50
  /-- The rows before the page, fewer than 2^63. -/
  offset : ℕ := 0

/-- A clause of the condition, with its parameter. -/
inductive EventClause
  /-- `transaction_id = :transaction_id`. -/
  | transaction_id (value : String)
  /-- `merchant_id = :merchant_id`. -/
  | merchant_id (value : String)
  /-- `event_type = :event_type`. -/
  | event_type (value : String)
  /-- `occurred_at >= :date_from`. -/
  | date_from (value : String)
  /-- `occurred_at <= :date_to`. -/
  | date_to (value : String)
deriving DecidableEq, Repr

/-- The truth value of a clause on a row. -/
def EventClause.holds (row : EventRow) : EventClause → Bool
  | transaction_id value => row.transaction_id = value
  | merchant_id value => row.merchant_id = value
  | event_type value => row.event_type.value = value
  | date_from value => row.occurred_at ≥ value
  | date_to value => row.occurred_at ≤ value

/-- Whether `WHERE` lets a row through. -/
def selectsEvent (clauses : List EventClause) (row : EventRow) : Bool :=
  clauses.all fun clause => clause.holds row

/-- A clause on a text, added when the text is given and not empty. -/
def eventClause (clause : String → EventClause) : Option String → List EventClause
  | none | some "" => []
  | some value => [clause value]

/-- The condition. -/
def EventQuery.where_ (query : EventQuery) : Except AppError (List EventClause) := do
  let lower ← windowBound rangeLowerBound query.date_from
  let upper ← windowBound rangeUpperBound query.date_to
  return eventClause .transaction_id query.transaction_id ++
    eventClause .merchant_id query.merchant_id ++ eventClause .event_type query.event_type ++
    lower.toList.map .date_from ++ upper.toList.map .date_to

/-- The keys of `ORDER BY occurred_at DESC, event_id ASC`. -/
def eventKeys : List (SortKey EventRow) :=
  [⟨fun row => some (.text row.occurred_at), true⟩, ⟨fun row => some (.text row.event_id), false⟩]

/-- The response of `GET /events`. -/
structure EventListResponse where
  /-- The page. -/
  pagination : PageMeta
  /-- The events of the page. -/
  items : List EventOut
deriving DecidableEq, Repr

/-- `list_events`, for an offset that can be bound. -/
def listEvents (query : EventQuery) : Reading Database AppError EventListResponse := do
  let clauses ← Reading.calling query.where_
  let total ← Reading.query fun db => (db.events.rows.filter (selectsEvent clauses)).length
  let rows ← Reading.query fun db =>
    page query.limit query.offset
      (orderBy eventKeys (db.events.rows.filter (selectsEvent clauses)))
  let items := rows.map eventOut
  return ⟨pageMeta query.limit query.offset total items.length, items⟩

end PaymentRecon
