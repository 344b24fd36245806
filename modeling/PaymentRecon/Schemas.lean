import PaymentRecon.Timeutils
import PaymentRecon.Money

/-!
# Requests and responses

The models of `app/schemas.py` that ingestion uses. `EventIn` is an event that has passed
validation: what ingestion relies on (identifiers, amount, timestamp) is a field of the structure, so
an event without it cannot be built. `IngestResult` is the outcome of one event of a batch, and
`IngestResponse` the body of the answer to `POST /events`.
-/

namespace PaymentRecon

/-- The lifecycle events of a payment. -/
inductive EventType
  | payment_initiated
  | payment_processed
  | payment_failed
  | settled
deriving DecidableEq, Repr

/-- The text of an event type. -/
def EventType.value : EventType → String
  | payment_initiated => "payment_initiated"
  | payment_processed => "payment_processed"
  | payment_failed => "payment_failed"
  | settled => "settled"

/-- A JSON document. A number is its sign and its decimal. -/
inductive Json
  | null
  | bool (b : Bool)
  | num (negative : Bool) (d : Decimal)
  | str (s : String)
  | arr (items : List Json)
  | obj (members : List (String × Json))

/-- Python's `str.isspace` on one character. -/
def isSpace (c : Char) : Bool :=
  let n := c.toNat
  (9 ≤ n && n ≤ 13) || (28 ≤ n && n ≤ 32) || n == 0x85 || n == 0xa0 || n == 0x1680 ||
    (0x2000 ≤ n && n ≤ 0x200a) || n == 0x2028 || n == 0x2029 || n == 0x202f || n == 0x205f ||
    n == 0x3000

/-- Python's `str.strip`. -/
def strip (s : String) : String :=
  String.ofList (((s.toList.dropWhile isSpace).reverse.dropWhile isSpace).reverse)

/-- What `_strip_identifier` leaves: trimmed, not blank, at most 128 characters. -/
def Identifier (s : String) : Prop := strip s = s ∧ s ≠ "" ∧ s.length ≤ 128

instance (s : String) : Decidable (Identifier s) := inferInstanceAs (Decidable (_ ∧ _))

/-- An inbound payment lifecycle event that has passed validation. -/
structure EventIn where
  /-- The idempotency key. -/
  event_id : String
  /-- What happened. -/
  event_type : EventType
  /-- The transaction that it happened to. -/
  transaction_id : String
  /-- The merchant of the transaction, as this event has it. -/
  merchant_id : String
  /-- The merchant's name, when the event carries one. -/
  merchant_name : Option String
  /-- The amount in major units. -/
  amount : Decimal
  /-- The currency code. -/
  currency : String
  /-- When it happened. -/
  timestamp : String
  /-- The fields that the model does not know (`extra="allow"`). -/
  extra : List (String × Json)
  /-- What `model_dump(mode="json")` makes of these fields, when it returns. -/
  extra_dump : List (String × Json) := extra
  /-- Trimmed and not blank. -/
  event_id_valid : Identifier event_id
  /-- Trimmed and not blank. -/
  transaction_id_valid : Identifier transaction_id
  /-- Trimmed and not blank. -/
  merchant_id_valid : Identifier merchant_id
  /-- At most `MAX_AMOUNT`. -/
  amount_le : amount.value ≤ 1000000000
  /-- The amount converts to at least one minor unit. -/
  amount_minor_pos : ∃ minor, toMinorUnits (.finite amount) = .ok minor ∧ 0 < minor
  /-- Normalised to the canonical form. -/
  timestamp_canonical : Canonical timestamp

/-- `event.model_dump(mode="json")`, when it returns. -/
def EventIn.modelDump (event : EventIn) : Json :=
  .obj ([("event_id", .str event.event_id), ("event_type", .str event.event_type.value),
    ("transaction_id", .str event.transaction_id), ("merchant_id", .str event.merchant_id),
    ("merchant_name", event.merchant_name.elim .null .str), ("amount", .num false event.amount),
    ("currency", .str event.currency), ("timestamp", .str event.timestamp)] ++ event.extra_dump)

/-- Whether an event was stored or absorbed. -/
inductive IngestStatus
  | created
  | duplicate
deriving DecidableEq, Repr

/-- The outcome of one event of a batch. -/
structure IngestResult where
  /-- The event. -/
  event_id : String
  /-- The transaction that holds the stored event. -/
  transaction_id : String
  /-- Stored or absorbed. -/
  status : IngestStatus
  /-- The replay carried a payload that differs from the stored one. -/
  payload_conflict : Bool
  /-- What to tell the caller about a replay. -/
  message : Option String
deriving DecidableEq, Repr

/-- The body of the answer to `POST /events`. -/
structure IngestResponse where
  /-- The events of the batch. -/
  received : ℕ
  /-- Those that were stored. -/
  created : ℕ
  /-- Those that were absorbed as replays. -/
  duplicates : ℕ
  /-- The transactions whose state was affected. -/
  transactions_affected : ℕ
  /-- The outcome of each event. -/
  results : List IngestResult
deriving DecidableEq, Repr

end PaymentRecon
