import PaymentRecon.Store.Table
import PaymentRecon.Schemas

/-!
# The database

The tables of `app/schema.sql`. A row is a structure with the columns of its table, and a table is
a `Store.Table` keyed by its primary key. The generated columns of `transactions` are functions of
the stored ones. `amount` is left out, since it is `amount_minor / 100.0` and no query reads it but
to display it.

The four lifecycle columns are also read through `TransactionRow.occurrence`, which takes the event
type whose first occurrence a column stores.
-/

namespace PaymentRecon

open Store

/-- A row of `merchants`. -/
structure MerchantRow where
  /-- The primary key. -/
  merchant_id : String
  /-- The name. -/
  merchant_name : String
  /-- When the row was inserted. -/
  created_at : String
  /-- When an event last wrote it. -/
  updated_at : String
deriving DecidableEq, Repr

/-- A row of `transactions`, without its generated columns. -/
structure TransactionRow where
  /-- The primary key. -/
  transaction_id : String
  /-- The merchant. -/
  merchant_id : String
  /-- The amount in minor units. -/
  amount_minor : ℤ
  /-- The currency code. -/
  currency : String
  /-- The first `payment_initiated` event. -/
  initiated_at : Option String
  /-- The first `payment_processed` event. -/
  processed_at : Option String
  /-- The first `payment_failed` event. -/
  failed_at : Option String
  /-- The first `settled` event. -/
  settled_at : Option String
  /-- The first event. -/
  first_event_at : String
  /-- The last event. -/
  last_event_at : String
  /-- The events stored. -/
  event_count : ℕ
  /-- The replays absorbed. -/
  duplicate_event_count : ℕ
  /-- Events disagreed on the amount: 0 or 1. -/
  has_amount_mismatch : ℕ
  /-- Events disagreed on the merchant: 0 or 1. -/
  has_merchant_mismatch : ℕ
  /-- When the row was inserted. -/
  created_at : String
  /-- When an event last wrote it. -/
  updated_at : String
deriving DecidableEq, Repr

/-- A row of `events`. -/
structure EventRow where
  /-- The primary key. -/
  event_id : String
  /-- The transaction. -/
  transaction_id : String
  /-- The merchant, as the event has it. -/
  merchant_id : String
  /-- What happened. -/
  event_type : EventType
  /-- The amount in minor units. -/
  amount_minor : ℤ
  /-- The currency code. -/
  currency : String
  /-- When it happened. -/
  occurred_at : String
  /-- When it was ingested. -/
  received_at : String
  /-- The original document. -/
  raw_payload : Json

/-- The values of `payment_status`. -/
inductive PaymentStatus
  | initiated
  | processed
  | failed
  | conflicted
deriving DecidableEq, Repr

/-- The values of `settlement_status`. -/
inductive SettlementStatus
  | pending
  | settled
deriving DecidableEq, Repr

/-- The values of `status`. -/
inductive TransactionStatus
  | initiated
  | processed
  | failed
  | settled
deriving DecidableEq, Repr

namespace TransactionRow

/-- The lifecycle column of an event type. -/
def occurrence (t : TransactionRow) : EventType → Option String
  | .payment_initiated => t.initiated_at
  | .payment_processed => t.processed_at
  | .payment_failed => t.failed_at
  | .settled => t.settled_at

/-- The generated column `payment_status`. -/
def payment_status (t : TransactionRow) : PaymentStatus :=
  if t.failed_at.isSome ∧ t.processed_at.isSome then .conflicted
  else if t.failed_at.isSome then .failed
  else if t.processed_at.isSome then .processed
  else .initiated

/-- The generated column `settlement_status`. -/
def settlement_status (t : TransactionRow) : SettlementStatus :=
  if t.settled_at.isSome then .settled else .pending

/-- The generated column `status`. -/
def status (t : TransactionRow) : TransactionStatus :=
  if t.failed_at.isSome then .failed
  else if t.settled_at.isSome then .settled
  else if t.processed_at.isSome then .processed
  else .initiated

/-- The generated column `txn_date`, `substr(first_event_at, 1, 10)`. -/
def txn_date (t : TransactionRow) : String := String.ofList (t.first_event_at.toList.take 10)

end TransactionRow

/-- The database. -/
structure Database where
  /-- The merchants. -/
  merchants : Table String MerchantRow MerchantRow.merchant_id
  /-- The projection of the event log. -/
  transactions : Table String TransactionRow TransactionRow.transaction_id
  /-- The event log. -/
  events : Table String EventRow EventRow.event_id

namespace Database

/-- The database that `init_schema` creates. -/
def empty : Database := ⟨.empty, .empty, .empty⟩

end Database

end PaymentRecon
