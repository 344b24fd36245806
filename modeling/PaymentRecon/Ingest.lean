import Mathlib.Data.Finset.Basic
import PaymentRecon.Store.Program
import PaymentRecon.Sql.Expr
import PaymentRecon.Schema

/-!
# Ingestion

`app/ingest.py`, statement by statement. A statement is a function on the database that raises
`sqlite3.IntegrityError` when a constraint of the schema fails, and `ingestEvents` is the program
(`Store.Prog`) that runs them: `BEGIN IMMEDIATE`, the loop over the batch inside the `try`, `COMMIT`,
and `ROLLBACK` with the exception raised again. The steps of the loop that are no statements (the
next event of the iterable, and `_to_row`) are calls, which may raise like everything else. What
`_to_row` raises itself, because `model_dump` does, is the last argument of the functions; without it,
such an exception is one of the failures that may hit a call.

SQLite checks `NOT NULL`, `CHECK`, and the primary key in that order on the row to insert, `CHECK`
again on the row that `DO UPDATE` leaves, and the foreign keys at the end of the statement.
-/

namespace PaymentRecon

open Store Sql

/-- The exceptions of the service. -/
inductive AppError
  /-- `sqlite3.IntegrityError`. -/
  | integrity (message : String)
  /-- `sqlite3.OperationalError`: a locked database, a failed read or write. -/
  | operational (message : String)
  /-- What the conversion of an amount raises. -/
  | amount (e : MoneyError)
  /-- `ApiError`: an error that a route raises itself. -/
  | api (status_code : ℕ) (code message : String)
  /-- `ApiError(422, "validation_error", str(exc))` of a `TimestampError`. -/
  | timestamp (e : TimestampError)
  /-- `ApiError(404, "not_found", f"Transaction {transaction_id!r} was not found")`. -/
  | notFound (transaction_id : String)
  /-- `OverflowError`: a `datetime` that leaves the years 1 to 9999, or an integer that does not fit
  in a column. -/
  | overflow
  /-- Any other exception. -/
  | other (message : String)
deriving DecidableEq, Repr

/-- The parameters of the statements for one event. -/
structure Params where
  /-- The timestamp of a `payment_initiated` event. -/
  initiated_at : Option String
  /-- The timestamp of a `payment_processed` event. -/
  processed_at : Option String
  /-- The timestamp of a `payment_failed` event. -/
  failed_at : Option String
  /-- The timestamp of a `settled` event. -/
  settled_at : Option String
  /-- The idempotency key. -/
  event_id : String
  /-- The transaction. -/
  transaction_id : String
  /-- The merchant. -/
  merchant_id : String
  /-- The merchant's name, or its id. -/
  merchant_name : String
  /-- What happened. -/
  event_type : EventType
  /-- The amount in minor units. -/
  amount_minor : ℤ
  /-- The currency code. -/
  currency : String
  /-- When it happened. -/
  occurred_at : String
  /-- When the batch is ingested. -/
  now : String
  /-- The document of the event. -/
  raw_payload : Json

/-- `value if type == column else None`: the parameter of one lifecycle column. -/
def EventIn.column (event : EventIn) (type : EventType) : Option String :=
  if event.event_type = type then some event.timestamp else none

/-- The dictionary that `_to_row` builds, from the amount in minor units. -/
def EventIn.params (event : EventIn) (now : String) (amount_minor : ℤ) : Params where
  initiated_at := event.column .payment_initiated
  processed_at := event.column .payment_processed
  failed_at := event.column .payment_failed
  settled_at := event.column .settled
  event_id := event.event_id
  transaction_id := event.transaction_id
  merchant_id := event.merchant_id
  -- `event.merchant_name or event.merchant_id`
  merchant_name := match event.merchant_name with
    | some name => if name = "" then event.merchant_id else name
    | none => event.merchant_id
  event_type := event.event_type
  amount_minor := amount_minor
  currency := event.currency
  occurred_at := event.timestamp
  now := now
  raw_payload := event.modelDump

/-- `_to_row`. The exception that `model_dump` raises on unknown fields, if it does, is pydantic's:
`dumpError` stands for it. -/
def toRow (event : EventIn) (now : String)
    (dumpError : List (String × Json) → Option AppError := fun _ => none) : Except AppError Params :=
  match toMinorUnits (.finite event.amount), dumpError event.extra with
  | .error e, _ => .error (.amount e)
  | .ok _, some e => .error e
  | .ok minor, none => .ok (event.params now minor)

/-- `_payload_differs`. -/
def payloadDiffers (existing : EventRow) (params : Params) : Bool :=
  existing.transaction_id != params.transaction_id || existing.merchant_id != params.merchant_id ||
    existing.event_type != params.event_type || existing.amount_minor != params.amount_minor ||
    existing.currency != params.currency || existing.occurred_at != params.occurred_at

/-! ## The statements -/

/-- `_SELECT_EXISTING_EVENT`. -/
def selectExistingEvent (event_id : String) (db : Database) :
    Except AppError (Option EventRow × Database) :=
  .ok (db.events.find? event_id, db)

/-- The assignments of `_BUMP_DUPLICATE`. -/
def TransactionRow.bump (now : String) (t : TransactionRow) : TransactionRow :=
  { t with duplicate_event_count := t.duplicate_event_count + 1, updated_at := now }

/-- A replay leaves the key of the row. -/
@[simp] theorem TransactionRow.transaction_id_bump (now : String) (t : TransactionRow) :
    (t.bump now).transaction_id = t.transaction_id := rfl

/-- `_BUMP_DUPLICATE`. -/
def bumpDuplicate (now transaction_id : String) (db : Database) : Except AppError Database :=
  .ok { db with
    transactions := db.transactions.update transaction_id (TransactionRow.bump now)
      (TransactionRow.transaction_id_bump now) }

/-- The row that `_UPSERT_MERCHANT` inserts. -/
def Params.merchantRow (params : Params) : MerchantRow :=
  ⟨params.merchant_id, params.merchant_name, params.now, params.now⟩

/-- The assignments of `_UPSERT_MERCHANT` on a conflict. The name that `COALESCE` falls back to is
`NOT NULL`. -/
def Params.mergeMerchant (params : Params) (m : MerchantRow) : MerchantRow :=
  { m with
    merchant_name := (nullif params.merchant_name "").getD m.merchant_name
    updated_at := params.now }

/-- The upsert of a merchant leaves the key of the row. -/
@[simp] theorem Params.merchant_id_mergeMerchant (params : Params) (m : MerchantRow) :
    (params.mergeMerchant m).merchant_id = m.merchant_id := rfl

/-- `_UPSERT_MERCHANT`. -/
def upsertMerchant (params : Params) (db : Database) : Except AppError Database :=
  .ok { db with
    merchants := db.merchants.upsert params.merchantRow params.mergeMerchant
      params.merchant_id_mergeMerchant }

/-- The row that `_UPSERT_TRANSACTION` inserts. -/
def Params.transactionRow (params : Params) : TransactionRow where
  transaction_id := params.transaction_id
  merchant_id := params.merchant_id
  amount_minor := params.amount_minor
  currency := params.currency
  initiated_at := params.initiated_at
  processed_at := params.processed_at
  failed_at := params.failed_at
  settled_at := params.settled_at
  first_event_at := params.occurred_at
  last_event_at := params.occurred_at
  event_count := 1
  duplicate_event_count := 0
  has_amount_mismatch := 0
  has_merchant_mismatch := 0
  created_at := params.now
  updated_at := params.now

/-- The assignments of `_UPSERT_TRANSACTION` on a conflict. -/
def Params.mergeTransaction (params : Params) (t : TransactionRow) : TransactionRow :=
  { t with
    initiated_at := foldMin t.initiated_at params.initiated_at
    processed_at := foldMin t.processed_at params.processed_at
    failed_at := foldMin t.failed_at params.failed_at
    settled_at := foldMin t.settled_at params.settled_at
    first_event_at := min t.first_event_at params.occurred_at
    last_event_at := max t.last_event_at params.occurred_at
    event_count := t.event_count + 1
    has_amount_mismatch := if t.amount_minor ≠ params.amount_minor then 1 else t.has_amount_mismatch
    has_merchant_mismatch :=
      if t.merchant_id ≠ params.merchant_id then 1 else t.has_merchant_mismatch
    updated_at := params.now }

/-- The upsert of a transaction leaves the key of the row. -/
@[simp] theorem Params.transaction_id_mergeTransaction (params : Params) (t : TransactionRow) :
    (params.mergeTransaction t).transaction_id = t.transaction_id := rfl

/-- The `CHECK` constraints of `transactions`. -/
def TransactionRow.Check (t : TransactionRow) : Prop :=
  0 ≤ t.amount_minor ∧ t.has_amount_mismatch ≤ 1 ∧ t.has_merchant_mismatch ≤ 1

instance (t : TransactionRow) : Decidable t.Check := inferInstanceAs (Decidable (_ ∧ _))

/-- `_UPSERT_TRANSACTION`. -/
def upsertTransaction (params : Params) (db : Database) : Except AppError Database :=
  if ¬ params.transactionRow.Check then .error (.integrity "CHECK constraint failed")
  else match db.transactions.find? params.transaction_id with
    -- An insert: the merchant must exist.
    | none =>
      if db.merchants.find? params.merchant_id = none then
        .error (.integrity "FOREIGN KEY constraint failed")
      else .ok { db with
        transactions := db.transactions.upsert params.transactionRow params.mergeTransaction
          params.transaction_id_mergeTransaction }
    -- An update leaves `merchant_id`, and so the foreign key, as it is.
    | some t =>
      if ¬ (params.mergeTransaction t).Check then .error (.integrity "CHECK constraint failed")
      else .ok { db with
        transactions := db.transactions.upsert params.transactionRow params.mergeTransaction
          params.transaction_id_mergeTransaction }

/-- The row that `_INSERT_EVENT` inserts. -/
def Params.eventRow (params : Params) : EventRow where
  event_id := params.event_id
  transaction_id := params.transaction_id
  merchant_id := params.merchant_id
  event_type := params.event_type
  amount_minor := params.amount_minor
  currency := params.currency
  occurred_at := params.occurred_at
  received_at := params.now
  raw_payload := params.raw_payload

/-- `_INSERT_EVENT`. -/
def insertEvent (params : Params) (db : Database) : Except AppError Database :=
  if h : db.events.find? params.eventRow.event_id = none then
    if db.transactions.find? params.transaction_id = none then
      .error (.integrity "FOREIGN KEY constraint failed")
    else .ok { db with events := db.events.push params.eventRow h }
  else .error (.integrity "UNIQUE constraint failed: events.event_id")

/-! ## The loop -/

/-- The local variables of the loop. -/
structure Ingested where
  /-- The outcomes of the events so far. -/
  results : List IngestResult
  /-- The transactions whose state was affected. -/
  affected : Finset String

/-- The result of a replay. -/
def duplicateResult (existing : EventRow) (params : Params) : IngestResult where
  event_id := params.event_id
  transaction_id := existing.transaction_id
  status := .duplicate
  payload_conflict := payloadDiffers existing params
  message := some (if payloadDiffers existing params then
      "event_id already ingested with a different payload; the stored event was kept"
    else "event already ingested; ignored")

/-- The result of an event that is stored. -/
def createdResult (params : Params) : IngestResult where
  event_id := params.event_id
  transaction_id := params.transaction_id
  status := .created
  payload_conflict := false
  message := none

/-- The body of the loop, for one event. -/
def ingestEvent (now : String) (event : EventIn) (acc : Ingested)
    (dumpError : List (String × Json) → Option AppError := fun _ => none) :
    Prog Database EventRow AppError Ingested := do
  let params ← Prog.calling (toRow event now dumpError)
  let existing ← Prog.fetchone (selectExistingEvent params.event_id)
  match existing with
  -- A replay is absorbed: nothing of its payload is read but for the comparison.
  | some existing =>
    Prog.execute (bumpDuplicate now existing.transaction_id)
    pure { acc with results := acc.results ++ [duplicateResult existing params] }
  -- A new event: its merchant first, then its transaction, for the foreign keys.
  | none =>
    Prog.execute (upsertMerchant params)
    Prog.execute (upsertTransaction params)
    Prog.execute (insertEvent params)
    pure ⟨acc.results ++ [createdResult params], insert params.transaction_id acc.affected⟩

/-- `for event in events`, where the iterable may raise before each event and at its end. -/
def ingestLoop (now : String) (events : List EventIn) (acc : Ingested)
    (dumpError : List (String × Json) → Option AppError := fun _ => none) :
    Prog Database EventRow AppError Ingested :=
  match events with
  | [] => Prog.calling (.ok acc)
  | event :: events => do
    let event ← Prog.calling (.ok event)
    let acc ← ingestEvent now event acc dumpError
    ingestLoop now events acc dumpError

/-- `ingest_events`, from the time that `now_ts` gives. -/
def ingestEvents (now : String) (events : List EventIn)
    (dumpError : List (String × Json) → Option AppError := fun _ => none) :
    Prog Database EventRow AppError Ingested := do
  Prog.perform .begin
  try
    let acc ← ingestLoop now events ⟨[], ∅⟩ dumpError
    Prog.perform .commit
    pure acc
  catch e =>
    Prog.perform .rollback
    throw e

end PaymentRecon
