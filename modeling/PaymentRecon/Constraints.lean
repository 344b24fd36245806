import PaymentRecon.Replay
import PaymentRecon.Sql.OrderBy

/-!
# The constraints of the schema

What `app/schema.sql` demands of the rows: `NOT NULL` and `CHECK`, column by column, and the foreign
keys. A table cannot hold a primary key twice (`Store.Table`), so `Database.Valid` has no field for
that. It has one for what the schema does not demand and ingestion keeps all the same: the merchant
of every event is known, and amounts are between one minor unit and `MAX_AMOUNT`.

Each statement of the loop succeeds on a valid database, for an event that has passed validation, and
leaves a valid one. `ingestLoop_accepts` puts these together along the loop. `Promised` is what this
is meant to promise of a batch: it raises exactly when the store fails. `constraints_hold_iff` draws
the conclusion: so it does, unless `model_dump` raises on an event of the batch.
-/

namespace PaymentRecon

open Store Sql

/-! ## The columns -/

/-- A column with a constraint. -/
structure ColumnDef (ρ : Type) where
  /-- The name. -/
  name : String
  /-- The value in a row; `none` for `NULL`. -/
  read : ρ → Option Value
  /-- `NOT NULL`. -/
  notNull : Bool
  /-- `CHECK`, of a value that is not `NULL`. -/
  check : Value → Bool

/-- The row meets the constraints of the column. A `CHECK` that is `NULL` does not fail. -/
def ColumnDef.Holds {ρ : Type} (c : ColumnDef ρ) (r : ρ) : Prop :=
  (c.notNull = true → c.read r ≠ none) ∧ ∀ v, c.read r = some v → c.check v = true

/-- `TEXT NOT NULL`. -/
def ColumnDef.text {ρ : Type} (name : String) (read : ρ → String) : ColumnDef ρ :=
  ⟨name, fun r => some (.text (read r)), true, fun _ => true⟩

/-- `INTEGER NOT NULL`, with a `CHECK`. -/
def ColumnDef.integer {ρ : Type} (name : String) (read : ρ → ℤ) (check : ℤ → Bool) : ColumnDef ρ :=
  ⟨name, fun r => some (.int (read r)), true, fun v => match v with
    | .int n => check n
    | .text _ => true⟩

/-- Every row has a text in a column that is one. -/
@[simp] theorem ColumnDef.holds_text {ρ : Type} (name : String) (read : ρ → String) (r : ρ) :
    (ColumnDef.text name read).Holds r := by
  simp [text, Holds]

/-- A row meets the constraints of a number column when the number passes the check. -/
@[simp] theorem ColumnDef.holds_integer {ρ : Type} {name : String} {read : ρ → ℤ} {check : ℤ → Bool}
    {r : ρ} : (ColumnDef.integer name read check).Holds r ↔ check (read r) = true := by
  simp [integer, Holds]

/-- The constraints of `merchants`. -/
def merchantColumns : List (ColumnDef MerchantRow) :=
  [.text "merchant_name" MerchantRow.merchant_name, .text "created_at" MerchantRow.created_at,
    .text "updated_at" MerchantRow.updated_at]

/-- The constraints of `transactions`. -/
def transactionColumns : List (ColumnDef TransactionRow) :=
  [.text "merchant_id" TransactionRow.merchant_id,
    .integer "amount_minor" TransactionRow.amount_minor (fun n => 0 ≤ n),
    .text "currency" TransactionRow.currency,
    .text "first_event_at" TransactionRow.first_event_at,
    .text "last_event_at" TransactionRow.last_event_at,
    .integer "event_count" (fun t => t.event_count) (fun _ => true),
    .integer "duplicate_event_count" (fun t => t.duplicate_event_count) (fun _ => true),
    .integer "has_amount_mismatch" (fun t => t.has_amount_mismatch) (fun n => n ∈ [0, 1]),
    .integer "has_merchant_mismatch" (fun t => t.has_merchant_mismatch) (fun n => n ∈ [0, 1]),
    .text "created_at" TransactionRow.created_at, .text "updated_at" TransactionRow.updated_at]

/-- The constraints of `events`. -/
def eventColumns : List (ColumnDef EventRow) :=
  [.text "transaction_id" EventRow.transaction_id, .text "merchant_id" EventRow.merchant_id,
    ⟨"event_type", fun e => some (.text e.event_type.value), true, fun v => v ∈
      [.text "payment_initiated", .text "payment_processed", .text "payment_failed",
        .text "settled"]⟩,
    .integer "amount_minor" EventRow.amount_minor (fun _ => true),
    .text "currency" EventRow.currency, .text "occurred_at" EventRow.occurred_at,
    .text "received_at" EventRow.received_at]

/-- A row meets the constraints of its columns. -/
def Meets {ρ : Type} (columns : List (ColumnDef ρ)) (r : ρ) : Prop := ∀ c ∈ columns, c.Holds r

/-- Every row meets the constraints of `merchants`, whose columns have the types of the schema. -/
theorem meets_merchantColumns (m : MerchantRow) : Meets merchantColumns m := by
  simp [Meets, merchantColumns]

/-- What is left of the constraints of `transactions` is `TransactionRow.Check`. -/
theorem meets_transactionColumns {t : TransactionRow} :
    Meets transactionColumns t ↔ t.Check := by
  simp only [Meets, transactionColumns, List.forall_mem_cons, ColumnDef.holds_text,
    ColumnDef.holds_integer, TransactionRow.Check]
  simp
  omega

/-- Every event type is one of the four texts of the schema. -/
theorem meets_eventColumns (e : EventRow) : Meets eventColumns e := by
  have htype : ∀ type : EventType, type.value = "payment_initiated" ∨
      type.value = "payment_processed" ∨ type.value = "payment_failed" ∨
      type.value = "settled" := by
    intro type
    cases type <;> decide
  simp only [Meets, eventColumns, List.forall_mem_cons, ColumnDef.holds_text,
    ColumnDef.holds_integer]
  simpa [ColumnDef.Holds] using htype e.event_type

/-! ## Valid databases -/

/-- The bounds of an amount in minor units. -/
def AmountInRange (amount_minor : ℤ) : Prop := 1 ≤ amount_minor ∧ amount_minor ≤ 10 ^ 11

/-- Validation bounds the amount. -/
theorem EventIn.amountInRange (event : EventIn) : AmountInRange event.amount_minor := by
  refine ⟨event.zero_lt_amount_minor, ?_⟩
  have hle : event.amount.value ≤ (1000000000 : ℕ) := by exact_mod_cast event.amount_le
  have := toMinorUnits_le (by norm_num) hle event.toMinorUnits_amount
  norm_num at this ⊢
  exact this

/-- The rows meet the constraints of the schema, and the invariant that ingestion keeps. -/
structure Database.Valid (db : Database) : Prop where
  /-- `NOT NULL` in `merchants`. -/
  merchants : ∀ m ∈ db.merchants.rows, Meets merchantColumns m
  /-- `NOT NULL` and `CHECK` in `transactions`. -/
  transactions : ∀ t ∈ db.transactions.rows, Meets transactionColumns t
  /-- `NOT NULL` and `CHECK` in `events`. -/
  events : ∀ e ∈ db.events.rows, Meets eventColumns e
  /-- The foreign key of `transactions`. -/
  merchant_of_transaction : ∀ t ∈ db.transactions.rows, db.merchants.find? t.merchant_id ≠ none
  /-- The foreign key of `events`. -/
  transaction_of_event : ∀ e ∈ db.events.rows, db.transactions.find? e.transaction_id ≠ none
  /-- The merchant that an event names is known. -/
  merchant_of_event : ∀ e ∈ db.events.rows, db.merchants.find? e.merchant_id ≠ none
  /-- The amounts of the transactions. -/
  transaction_amount : ∀ t ∈ db.transactions.rows, AmountInRange t.amount_minor
  /-- The amounts of the events. -/
  event_amount : ∀ e ∈ db.events.rows, AmountInRange e.amount_minor

namespace Database

variable {db : Database}

/-- The schema's `CHECK` constraints are among the constraints. -/
theorem Valid.checked (h : db.Valid) : db.Checked :=
  fun t ht => meets_transactionColumns.1 (h.transactions t ht)

/-- The empty schema is valid. -/
theorem valid_empty : Database.empty.Valid where
  merchants := List.forall_mem_nil _
  transactions := List.forall_mem_nil _
  events := List.forall_mem_nil _
  merchant_of_transaction := List.forall_mem_nil _
  transaction_of_event := List.forall_mem_nil _
  merchant_of_event := List.forall_mem_nil _
  transaction_amount := List.forall_mem_nil _
  event_amount := List.forall_mem_nil _

/-- `_BUMP_DUPLICATE` meets no constraint. -/
theorem Valid.bumpDuplicate (h : db.Valid) (now transaction_id : String) :
    ∃ db', PaymentRecon.bumpDuplicate now transaction_id db = .ok db' ∧ db'.Valid := by
  have hbump := TransactionRow.transaction_id_bump now
  exact ⟨_, rfl, h.merchants, Table.forall_update hbump h.transactions fun t ht =>
      meets_transactionColumns.2 (meets_transactionColumns.1 ht : t.Check), h.events,
    Table.forall_update hbump h.merchant_of_transaction fun _ ht => ht,
    fun e he => Table.find?_update_ne_none hbump (h.transaction_of_event e he),
    h.merchant_of_event, Table.forall_update hbump h.transaction_amount fun _ ht => ht,
    h.event_amount⟩

variable (event : EventIn) (now : String)

/-- `_UPSERT_MERCHANT` breaks no constraint, and the merchant is known afterwards. -/
theorem Valid.upsertMerchant (h : db.Valid) :
    ∃ db', PaymentRecon.upsertMerchant (event.row now) db = .ok db' ∧ db'.Valid ∧
      db'.merchants.find? event.merchant_id ≠ none ∧ db'.events = db.events := by
  have hmerge := (event.row now).merchant_id_mergeMerchant
  exact ⟨_, rfl, ⟨fun m _ => meets_merchantColumns m, h.transactions, h.events,
      fun t ht => Table.find?_upsert_ne_none hmerge (h.merchant_of_transaction t ht),
      h.transaction_of_event,
      fun e he => Table.find?_upsert_ne_none hmerge (h.merchant_of_event e he),
      h.transaction_amount, h.event_amount⟩,
    Table.find?_upsert_self_ne_none _ (event.row now).merchantRow _ hmerge, rfl⟩

/-- `_UPSERT_TRANSACTION` breaks no constraint once the merchant is known, and the transaction is
known afterwards. -/
theorem Valid.upsertTransaction (h : db.Valid)
    (hm : db.merchants.find? event.merchant_id ≠ none) :
    ∃ db', PaymentRecon.upsertTransaction (event.row now) db = .ok db' ∧ db'.Valid ∧
      db'.transactions.find? event.transaction_id ≠ none ∧ db'.merchants = db.merchants ∧
      db'.events = db.events := by
  have hmerge := (event.row now).transaction_id_mergeTransaction
  refine ⟨_, upsertTransaction_eq h.checked hm, ⟨h.merchants, ?_, h.events, ?_, ?_,
      h.merchant_of_event, ?_, h.event_amount⟩,
    Table.find?_upsert_self_ne_none _ (event.row now).transactionRow _ hmerge, rfl, rfl⟩
  · refine Table.forall_upsert hmerge h.transactions ?_ fun t ht => ?_
    · exact meets_transactionColumns.2 (event.check_transactionRow now)
    · exact meets_transactionColumns.2 ((meets_transactionColumns.1 ht).merge _)
  · exact Table.forall_upsert hmerge h.merchant_of_transaction hm fun t ht => ht
  · exact fun e he => Table.find?_upsert_ne_none hmerge (h.transaction_of_event e he)
  · exact Table.forall_upsert hmerge h.transaction_amount event.amountInRange fun t ht => ht

/-- `_INSERT_EVENT` breaks no constraint once the merchant and the transaction are known. -/
theorem Valid.insertEvent (h : db.Valid) (hm : db.merchants.find? event.merchant_id ≠ none)
    (ht : db.transactions.find? event.transaction_id ≠ none)
    (he : db.events.find? event.event_id = none) :
    ∃ db', PaymentRecon.insertEvent (event.row now) db = .ok db' ∧ db'.Valid := by
  -- The log gains the row of the event, and what a row must satisfy is known of it.
  have hrows : ∀ {P : EventRow → Prop}, (∀ e ∈ db.events.rows, P e) → P (event.eventRow now) →
      ∀ e ∈ (db.events.push (event.eventRow now) (EventIn.find?_eventRow now he)).rows, P e := by
    intro P hP hnew e he
    rw [Table.rows_push, List.mem_append, List.mem_singleton] at he
    rcases he with he | rfl
    · exact hP e he
    · exact hnew
  exact ⟨_, insertEvent_eq he ht, h.merchants, h.transactions,
    hrows h.events (meets_eventColumns _), h.merchant_of_transaction,
    hrows h.transaction_of_event ht, hrows h.merchant_of_event hm, h.transaction_amount,
    hrows h.event_amount event.amountInRange⟩

end Database

/-! ## The loop -/

open Database

variable {db : Database} (now : String) {dumpError : List (String × Json) → Option AppError}

/-- One turn of the loop: every statement succeeds, and the database is valid after each. -/
theorem ingestEvent_accepts (h : db.Valid) (event : EventIn) (acc : Ingested) :
    (ingestEvent now event acc dumpError).Accepts Database.Valid db := by
  rw [ingestEvent, event.toRow_dump]
  cases dumpError event.extra with
  | some e => exact h
  | none =>
    refine Prog.accepts_calling_bind (Prog.accepts_fetchone_bind h rfl ?_)
    cases he : db.events.find? (event.row now).event_id with
    | some existing =>
      obtain ⟨db', hrun, h'⟩ := h.bumpDuplicate now existing.transaction_id
      exact Prog.accepts_execute_bind h hrun h'
    | none =>
      obtain ⟨db₁, hrun₁, h₁, hm₁, he₁⟩ := h.upsertMerchant event now
      obtain ⟨db₂, hrun₂, h₂, ht₂, hm₂, he₂⟩ := h₁.upsertTransaction event now hm₁
      -- The merchant and the transaction are there when the event is inserted, and its id is free.
      have hfree : db₂.events.find? event.event_id = none := by
        rw [he₂, he₁]
        exact he
      obtain ⟨db₃, hrun₃, h₃⟩ := h₂.insertEvent event now (hm₂ ▸ hm₁) ht₂ hfree
      exact Prog.accepts_execute_bind h hrun₁ (Prog.accepts_execute_bind h₁ hrun₂
        (Prog.accepts_execute_bind h₂ hrun₃ h₃))

/-- An event keeps a database valid. -/
theorem Database.Valid.apply (h : db.Valid) (event : EventIn) : (db.apply now event).Valid := by
  have haccepts : (ingestEvent now event .start).Accepts Database.Valid db :=
    ingestEvent_accepts now h event .start
  have heval := haccepts.eval
  rwa [ingestEvent_eval h.checked] at heval

/-- The loop: every statement succeeds, and the database is valid after each. -/
theorem ingestLoop_accepts (h : db.Valid) (events : List EventIn) (acc : Ingested) :
    (ingestLoop now events acc dumpError).Accepts Database.Valid db := by
  induction events generalizing db acc with
  | nil => exact h
  | cons event events ih =>
    refine Prog.accepts_calling_bind ((ingestEvent_accepts now h event acc).bind ?_)
    exact fun acc' db' _ h' => ih h' acc'

/-- Every reachable database is valid. -/
theorem Reachable.valid (h : Reachable db) : db.Valid := by
  obtain ⟨_, h⟩ := h
  have hist := h.history
  clear h
  induction hist with
  | empty => exact valid_empty
  | snoc _ now event ih => exact ih.apply now event

/-- A batch raises exactly when one of its operations fails from outside. -/
theorem ingest_error_iff (h : db.Checked) (faults : ℕ → Option (Fault AppError))
    (events : List EventIn) :
    (∃ e, (db.ingest faults now events).result = .error e) ↔
      ∃ i < (db.ingest faults now events).ticks, faults i ≠ none := by
  constructor
  · rintro ⟨e, he⟩
    by_contra hnone
    push Not at hnone
    -- Without a failure the run is the one that returns.
    have hrun : db.ingest faults now events = db.ingest (fun _ => none) now events :=
      Prog.run_congr fun i _ hi => hnone i hi
    rw [hrun, Database.ingest, (ingestEvents_run_clean h now events).1] at he
    cases he
  · rintro ⟨i, hi, hfault⟩
    rcases ingestEvents_run h events faults with ⟨e, he, _⟩ | ⟨_, _, hfree⟩
    · exact ⟨e, he⟩
    · exact absurd (hfree i hi) hfault

/-- A batch with an event on which `model_dump` raises is rolled back, whatever else fails. -/
theorem ingest_of_undumped {event : EventIn} {events : List EventIn} (he : event ∈ events)
    (hdump : dumpError event.extra ≠ none) (faults : ℕ → Option (Fault AppError)) :
    ∃ e, (db.ingest faults now events dumpError).result = .error e ∧
      (db.ingest faults now events dumpError).conn = .idle db := by
  rw [Database.ingest, ingestEvents_eq]
  rcases Prog.transaction_run (ingestLoop_work now events .start) faults 0 db with
    herr | ⟨acc, s', -, -, heval, -⟩
  · exact herr
  · exact absurd (dumps_of_ingestLoop_eval heval event he) hdump

/-! ## The promise -/

/-- What the constraints of the schema are meant to promise of a batch of validated events, where
`dumpError` is what `model_dump` raises. -/
structure Promised (dumpError : List (String × Json) → Option AppError) (now : String) (db : Database)
    (events : List EventIn) : Prop where
  /-- Every statement of the loop succeeds and leaves a valid database. -/
  statements : (ingestLoop now events .start dumpError).Accepts Database.Valid db
  /-- The rows that the loop proposes meet the constraints of their columns. -/
  rows : ∀ event ∈ events, Meets merchantColumns (event.row now).merchantRow ∧
    Meets transactionColumns (event.row now).transactionRow ∧
    Meets eventColumns (event.row now).eventRow
  /-- Where all failures are of the store, a busy or a broken one, the batch raises exactly when there
  is one; without a failure it commits. -/
  commits : ∀ faults, (ingestEvents now events dumpError).SparesCalls faults 0 (.idle db) →
    ((∃ e, (db.ingest faults now events dumpError).result = .error e) ↔
      ∃ i < (db.ingest faults now events dumpError).ticks, faults i ≠ none)
  /-- The merchant of every transaction has a row, and its amount is in range. -/
  transactions : ∀ t ∈ db.transactions.rows, db.merchants.find? t.merchant_id ≠ none ∧
    1 ≤ t.amount_minor ∧ t.amount_minor ≤ 10 ^ 11
  /-- The transaction and the merchant of every event have rows, and its amount is in range. -/
  events : ∀ e ∈ db.events.rows, db.transactions.find? e.transaction_id ≠ none ∧
    db.merchants.find? e.merchant_id ≠ none ∧ 1 ≤ e.amount_minor ∧ e.amount_minor ≤ 10 ^ 11

/-- Nothing fails when an event cannot be dumped, and its batch raises all the same. -/
theorem Promised.dumps {events : List EventIn} (h : Promised dumpError now db events) :
    ∀ event ∈ events, dumpError event.extra = none := by
  intro event he
  by_contra hdump
  obtain ⟨e, hraised, -⟩ := ingest_of_undumped now he hdump fun _ => none
  have hspares := Prog.sparesCalls_of_none (fun _ => rfl)
    (ingestEvents now events dumpError) 0 (.idle db)
  obtain ⟨i, -, hi⟩ := (h.commits _ hspares).1 ⟨e, hraised⟩
  exact hi rfl

/-- In every reachable database, what the constraints promise of a batch of validated events holds
exactly when `model_dump` returns on all of them. -/
theorem constraints_hold_iff (h : Reachable db) (events : List EventIn) :
    Promised dumpError now db events ↔ ∀ event ∈ events, dumpError event.extra = none := by
  have hv := h.valid
  refine ⟨Promised.dumps now, fun hdumps => ⟨ingestLoop_accepts now hv events _,
    fun event _ => ⟨meets_merchantColumns _, ?_, meets_eventColumns _⟩, fun faults _ => ?_,
    fun t ht => ?_, fun e he => ?_⟩⟩
  · exact meets_transactionColumns.2 (event.check_transactionRow now)
  · rw [Database.ingest, ingestEvents_of_dumps hdumps]
    exact ingest_error_iff now h.checked faults events
  · exact ⟨hv.merchant_of_transaction t ht, hv.transaction_amount t ht⟩
  · exact ⟨hv.transaction_of_event e he, hv.merchant_of_event e he, hv.event_amount e he⟩

/-- After an event and its repetition in one batch, the promise holds of a batch with one more event of
the transaction and an unknown field. -/
theorem constraints_hold_iff_repeated :
    Promised samplePydantic.dumpError exampleEvent.timestamp
      (Database.empty.applyAll exampleEvent.timestamp [exampleEvent, exampleEvent])
      [repricedEvent, exampleWith (.str "razorpay")] :=
  (constraints_hold_iff _ ⟨_, Run.empty.ingest _ [exampleEvent, exampleEvent]⟩ _).2
    (List.forall_mem_cons.2 ⟨rfl, List.forall_mem_singleton.2 rfl⟩)

/-- Arrays in each other. -/
def nest : ℕ → Json
  | 0 => .null
  | n + 1 => .arr [nest n]

/-- They are nested as deep as they are many. -/
theorem depth_nest (n : ℕ) : (nest n).depth = n := by
  induction n with
  | zero => rfl
  | succ n ih => rw [nest, Json.depth, depthItems, depthItems, ih, Nat.max_zero]

/-- The example with 256 arrays in each other in an unknown field is accepted. Nothing fails when it is
ingested, and the batch is rolled back, with the event before it. -/
theorem nested_field_rolls_back :
    EventIn.modelValidate samplePydantic
        { exampleEvent with extra_dump := [("gateway", nest 256)] }.modelDump =
        .ok (exampleWith (nest 256)) ∧
      (∃ e, (Database.empty.ingest (fun _ => none) exampleEvent.timestamp
          [repricedEvent, exampleWith (nest 256)] samplePydantic.dumpError).result = .error e ∧
        (Database.empty.ingest (fun _ => none) exampleEvent.timestamp
          [repricedEvent, exampleWith (nest 256)] samplePydantic.dumpError).conn = .idle .empty) ∧
      ¬ Promised samplePydantic.dumpError exampleEvent.timestamp .empty
        [repricedEvent, exampleWith (nest 256)] := by
  have hdump : samplePydantic.dumpError (exampleWith (nest 256)).extra ≠ none := by
    have hdepth : depthMembers (exampleWith (nest 256)).extra = 256 := by
      show max (nest 256).depth 0 = 256
      rw [depth_nest, Nat.max_zero]
    simp [samplePydantic, hdepth]
  have hmem : exampleWith (nest 256) ∈ [repricedEvent, exampleWith (nest 256)] :=
    List.mem_cons_of_mem _ (List.mem_singleton.2 rfl)
  exact ⟨modelValidate_exampleWith _, ingest_of_undumped _ hmem hdump _,
    fun hpromised => hdump (hpromised.dumps _ _ hmem)⟩

end PaymentRecon
