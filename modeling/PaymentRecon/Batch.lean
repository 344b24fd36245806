import Mathlib.Tactic.NormNum
import PaymentRecon.Store.Calls
import PaymentRecon.Ingest

/-!
# What a batch does

`Database.apply` is the effect of one event on the database and `Database.result` its outcome, as
functions: a replay only bumps the audit counter of the transaction that holds the stored event, and
a new event is folded into its merchant and its transaction and appended to the log. `ingestLoop_eval`
says that the loop computes exactly these, event after event, because no constraint of the schema
fails on an event that has passed validation. `ingestEvents_run` is the consequence for the whole
program, under any failures: a batch raises and changes nothing, or all of it is applied.
-/

namespace PaymentRecon

open Store

namespace EventIn

variable (event : EventIn) (now : String)

/-- The amount in minor units. -/
def amount_minor : ℤ :=
  match toMinorUnits (.finite event.amount) with
  | .ok minor => minor
  | .error _ => 0

/-- The parameters of a validated event. -/
def row : Params := event.params now event.amount_minor

/-- The row that a validated event leaves in the log. -/
def eventRow : EventRow := (event.row now).eventRow

/-- The amount of a validated event converts. -/
theorem toMinorUnits_amount : toMinorUnits (.finite event.amount) = .ok event.amount_minor := by
  obtain ⟨minor, h, _⟩ := event.amount_minor_pos
  simp only [amount_minor, h]

/-- The amount of a validated event is at least one minor unit. -/
theorem zero_lt_amount_minor : 0 < event.amount_minor := by
  obtain ⟨minor, h, hpos⟩ := event.amount_minor_pos
  simpa only [amount_minor, h] using hpos

/-- `_to_row` raises on a validated event exactly when `model_dump` does. -/
theorem toRow_dump (dumpError : List (String × Json) → Option AppError) :
    toRow event now dumpError = match dumpError event.extra with
      | some e => .error e
      | none => .ok (event.row now) := by
  simp only [toRow, toMinorUnits_amount, row]
  cases dumpError event.extra <;> rfl

/-- `_to_row` does not raise on a validated event when `model_dump` does not. -/
theorem toRow_eq : toRow event now = .ok (event.row now) := event.toRow_dump now _

/-- The row of an event has its id. -/
@[simp] theorem event_id_eventRow : (event.eventRow now).event_id = event.event_id := rfl

variable {event} in
/-- The row of a new event has a new key. -/
theorem find?_eventRow {db : Database} (h : db.events.find? event.event_id = none) :
    db.events.find? (event.eventRow now).event_id = none := h

end EventIn

/-! ## Samples -/

/-- The event of the API documentation (`_EXAMPLE` in `app/routers/events.py`). -/
def exampleEvent : EventIn where
  event_id := "b768e3a7-9eb3-4603-b21c-a54cc95661bc"
  event_type := .payment_initiated
  transaction_id := "2f86e94c-239c-4302-9874-75f28e3474ee"
  merchant_id := "merchant_2"
  merchant_name := some "FreshBasket"
  amount := ⟨1524829, -2⟩
  currency := "INR"
  timestamp := "2026-01-08T12:11:58.085567+00:00"
  extra := []
  event_id_valid := by decide
  transaction_id_valid := by decide
  merchant_id_valid := by decide
  amount_le := by norm_num [Decimal.value]
  amount_minor_pos := ⟨1524829, by decide⟩
  timestamp_canonical := ⟨⟨2026, 1, 8, 12, 11, 58, 85567, by decide⟩, by decide⟩

/-- The example event again, under a new id and with another amount. -/
def repricedEvent : EventIn :=
  { exampleEvent with
    event_id := "repriced"
    amount := ⟨1, 0⟩
    event_id_valid := by decide
    amount_le := by norm_num [Decimal.value]
    amount_minor_pos := ⟨100, by decide⟩ }

/-- The transaction of the example is processed on the next day. -/
def processedNextDay : EventIn :=
  { exampleEvent with
    event_id := "processed_next_day"
    event_type := .payment_processed
    timestamp := "2026-01-09T09:30:00.000000+00:00"
    event_id_valid := by decide
    timestamp_canonical := ⟨⟨2026, 1, 9, 9, 30, 0, 0, by decide⟩, by decide⟩ }

/-- The example event under another id, of another transaction and type. -/
def sampleEvent (event_id transaction_id : String) (event_type : EventType)
    (event_id_valid : Identifier event_id := by decide)
    (transaction_id_valid : Identifier transaction_id := by decide) : EventIn :=
  { exampleEvent with
    event_id := event_id
    transaction_id := transaction_id
    event_type := event_type
    event_id_valid := event_id_valid
    transaction_id_valid := transaction_id_valid }

/-- The event under another id, with another amount. -/
def EventIn.repriced (event : EventIn) (event_id : String)
    (event_id_valid : Identifier event_id := by decide) : EventIn :=
  { event with
    event_id := event_id
    amount := repricedEvent.amount
    event_id_valid := event_id_valid
    amount_le := repricedEvent.amount_le
    amount_minor_pos := repricedEvent.amount_minor_pos }

/-- The event under another id, with another merchant. -/
def EventIn.reassigned (event : EventIn) (event_id : String)
    (event_id_valid : Identifier event_id := by decide) : EventIn :=
  { event with
    event_id := event_id
    merchant_id := "merchant_9"
    event_id_valid := event_id_valid
    merchant_id_valid := by decide }

/-- Four days after the sample events. -/
def fourDaysLater : Utc := ⟨2026, 1, 12, 0, 0, 0, 0, by decide⟩

/-- Two days after them. -/
def twoDaysLater : Utc := ⟨2026, 1, 10, 0, 0, 0, 0, by decide⟩

/-- The midnight before them. -/
def dayOfTheSamples : Utc := ⟨2026, 1, 8, 0, 0, 0, 0, by decide⟩

/-- The cutoff of a report of four days later. -/
theorem fourDaysLater_minusHours : fourDaysLater.minusHours 48 = some twoDaysLater := by
  decide +kernel

/-- The cutoff of a report of two days later. -/
theorem twoDaysLater_minusHours : twoDaysLater.minusHours 48 = some dayOfTheSamples := by
  decide +kernel

/-! ## Effects and outcomes -/

namespace Ingested

/-- Before the loop. -/
def start : Ingested := ⟨[], ∅⟩

/-- Record the outcome of one event. -/
def add (acc : Ingested) (r : IngestResult) : Ingested where
  results := acc.results ++ [r]
  affected := match r.status with
    | .created => insert r.transaction_id acc.affected
    | .duplicate => acc.affected

/-- Record the outcomes of several events. -/
def addAll (acc : Ingested) (rs : List IngestResult) : Ingested := rs.foldl add acc

/-- The outcomes are kept in order. -/
theorem results_addAll (acc : Ingested) (rs : List IngestResult) :
    (acc.addAll rs).results = acc.results ++ rs := by
  induction rs generalizing acc with
  | nil => simp [addAll]
  | cons r rs ih =>
    show ((acc.add r).addAll rs).results = _
    rw [ih]
    simp [add]

/-- Outcomes that are added from the start are the outcomes. -/
@[simp] theorem results_start_addAll (rs : List IngestResult) : (start.addAll rs).results = rs :=
  results_addAll _ _

end Ingested

namespace Database

variable (now : String) (db : Database) (event : EventIn)

/-- The effect of one event. -/
def apply : Database :=
  match h : db.events.find? event.event_id with
  | some existing =>
    { db with
      transactions := db.transactions.update existing.transaction_id (TransactionRow.bump now)
        (TransactionRow.transaction_id_bump now) }
  | none =>
    { merchants := db.merchants.upsert (event.row now).merchantRow (event.row now).mergeMerchant
        (event.row now).merchant_id_mergeMerchant
      transactions := db.transactions.upsert (event.row now).transactionRow
        (event.row now).mergeTransaction (event.row now).transaction_id_mergeTransaction
      events := db.events.push (event.eventRow now) (EventIn.find?_eventRow now h) }

/-- The outcome of one event. -/
def result : IngestResult :=
  match db.events.find? event.event_id with
  | some existing => duplicateResult existing (event.row now)
  | none => createdResult (event.row now)

variable {now db event}

/-- A replay only bumps the transaction that holds the stored event. -/
theorem apply_of_stored {existing : EventRow} (h : db.events.find? event.event_id = some existing) :
    db.apply now event =
      { db with
        transactions := db.transactions.update existing.transaction_id (TransactionRow.bump now)
          (TransactionRow.transaction_id_bump now) } := by
  unfold apply
  split <;> simp_all

/-- A new event is folded into its merchant and its transaction and appended to the log. -/
theorem apply_of_new (h : db.events.find? event.event_id = none) :
    db.apply now event =
      { merchants := db.merchants.upsert (event.row now).merchantRow (event.row now).mergeMerchant
          (event.row now).merchant_id_mergeMerchant
        transactions := db.transactions.upsert (event.row now).transactionRow
          (event.row now).mergeTransaction (event.row now).transaction_id_mergeTransaction
        events := db.events.push (event.eventRow now) (EventIn.find?_eventRow now h) } := by
  unfold apply
  split
  · simp_all
  · rfl

/-- The outcome of a stored id is that of a duplicate. -/
theorem result_of_stored {existing : EventRow}
    (h : db.events.find? event.event_id = some existing) :
    db.result now event = duplicateResult existing (event.row now) := by
  simp only [result, h]

/-- The outcome of a new id is that of a created event. -/
theorem result_of_new (h : db.events.find? event.event_id = none) :
    db.result now event = createdResult (event.row now) := by
  simp only [result, h]

/-- The log keeps what it stores and gains an event whose id is new. -/
theorem find?_events_apply (now : String) (db : Database) (event : EventIn) (id : String) :
    (db.apply now event).events.find? id =
      (db.events.find? id).or
        (if id = event.event_id then some (event.eventRow now) else none) := by
  cases h : db.events.find? event.event_id with
  | some existing =>
    rw [apply_of_stored h]
    split_ifs with hid
    · rw [hid, h, Option.some_or]
    · rw [Option.or_none]
  | none =>
    rw [apply_of_new h, Table.find?_push, event.event_id_eventRow now]
    split_ifs with hid
    · rw [hid, h, Option.none_or]
    · rw [Option.or_none]

/-- An outcome names its event. -/
theorem event_id_result : (db.result now event).event_id = event.event_id := by
  unfold result
  split <;> rfl

/-- An event is created exactly when its id is not stored. -/
theorem created_iff : (db.result now event).status = .created ↔
    db.events.find? event.event_id = none := by
  cases h : db.events.find? event.event_id with
  | none => simp [result_of_new h, createdResult]
  | some existing => simp [result_of_stored h, duplicateResult]

/-! What the tables hold after an event. -/

/-- After a new event, its transaction is new or has folded it. -/
theorem find?_transactions_of_new (h : db.events.find? event.event_id = none) (now id : String) :
    (db.apply now event).transactions.find? id =
      if id = event.transaction_id then
        some ((db.transactions.find? event.transaction_id).elim (event.row now).transactionRow
          (event.row now).mergeTransaction)
      else db.transactions.find? id := by
  rw [apply_of_new h, Table.find?_upsert]
  rfl

/-- After a replay, the transaction that holds the stored event has counted it. -/
theorem find?_transactions_of_stored {existing : EventRow}
    (h : db.events.find? event.event_id = some existing) (now id : String) :
    (db.apply now event).transactions.find? id =
      if id = existing.transaction_id then
        (db.transactions.find? existing.transaction_id).map (TransactionRow.bump now)
      else db.transactions.find? id := by
  rw [apply_of_stored h, Table.find?_update]

/-- After a new event, its merchant is known or has been updated. -/
theorem find?_merchants_of_new (h : db.events.find? event.event_id = none) (now id : String) :
    (db.apply now event).merchants.find? id =
      if id = event.merchant_id then
        some ((db.merchants.find? event.merchant_id).elim (event.row now).merchantRow
          (event.row now).mergeMerchant)
      else db.merchants.find? id := by
  rw [apply_of_new h, Table.find?_upsert]
  rfl

/-- A replay touches no merchant. -/
theorem merchants_of_stored {existing : EventRow}
    (h : db.events.find? event.event_id = some existing) (now : String) :
    (db.apply now event).merchants = db.merchants := by
  rw [apply_of_stored h]

/-- A new event is appended to the log. -/
theorem rows_events_of_new (h : db.events.find? event.event_id = none) (now : String) :
    (db.apply now event).events.rows = db.events.rows ++ [event.eventRow now] := by
  rw [apply_of_new h, Table.rows_push]

/-- A replay leaves the log as it is. -/
theorem events_of_stored {existing : EventRow}
    (h : db.events.find? event.event_id = some existing) (now : String) :
    (db.apply now event).events = db.events := by
  rw [apply_of_stored h]

/-- The effect of a batch. -/
def applyAll (now : String) (db : Database) (events : List EventIn) : Database :=
  events.foldl (apply now) db

/-- The outcomes of a batch. -/
def results (now : String) (db : Database) : List EventIn → List IngestResult
  | [] => []
  | event :: events => db.result now event :: results now (db.apply now event) events

/-- An empty batch has no effect. -/
@[simp] theorem applyAll_nil : db.applyAll now [] = db := rfl

/-- A batch takes effect from its first event on. -/
@[simp] theorem applyAll_cons {events : List EventIn} :
    db.applyAll now (event :: events) = (db.apply now event).applyAll now events := rfl

/-- There is one outcome for each event, in order. -/
theorem event_ids_results (now : String) (db : Database) (events : List EventIn) :
    (db.results now events).map IngestResult.event_id = events.map EventIn.event_id := by
  induction events generalizing db with
  | nil => rfl
  | cons event events ih => simp [results, event_id_result, ih]

/-- What is stored stays stored through a batch. -/
theorem find?_events_applyAll {now : String} {db : Database} {id : String} {row : EventRow}
    (h : db.events.find? id = some row) (events : List EventIn) :
    (db.applyAll now events).events.find? id = some row := by
  induction events generalizing db with
  | nil => exact h
  | cons event events ih =>
    refine ih ?_
    rw [find?_events_apply, h, Option.some_or]

/-- Every event of a batch is stored after it. -/
theorem stored_applyAll (now : String) (db : Database) {events : List EventIn} {event : EventIn}
    (h : event ∈ events) : ∃ row, (db.applyAll now events).events.find? event.event_id = some row := by
  induction events generalizing db with
  | nil => cases h
  | cons first events ih =>
    rcases List.mem_cons.1 h with rfl | h
    · obtain ⟨row, hrow⟩ : ∃ row, (db.apply now event).events.find? event.event_id = some row := by
        rw [find?_events_apply, if_pos rfl]
        cases db.events.find? event.event_id <;> exact ⟨_, rfl⟩
      exact ⟨row, find?_events_applyAll hrow events⟩
    · exact ih _ h

/-- There are as many outcomes as events. -/
theorem length_results (now : String) (db : Database) (events : List EventIn) :
    (db.results now events).length = events.length := by
  simpa using congrArg List.length (event_ids_results now db events)

/-! ## The constraints of the schema -/

/-- Every transaction passes the `CHECK` constraints. -/
def Checked (db : Database) : Prop := ∀ t ∈ db.transactions.rows, t.Check

end Database

/-- The row of a new transaction passes the `CHECK` constraints. -/
theorem EventIn.check_transactionRow (event : EventIn) (now : String) :
    (event.row now).transactionRow.Check :=
  ⟨event.zero_lt_amount_minor.le, Nat.zero_le 1, Nat.zero_le 1⟩

/-- Folding an event into a transaction keeps the `CHECK` constraints. -/
theorem TransactionRow.Check.merge {t : TransactionRow} (h : t.Check) (params : Params) :
    (params.mergeTransaction t).Check := by
  obtain ⟨h0, h1, h2⟩ := h
  refine ⟨h0, ?_, ?_⟩
  · simp only [Params.mergeTransaction]
    split_ifs
    exacts [le_rfl, h1]
  · simp only [Params.mergeTransaction]
    split_ifs
    exacts [le_rfl, h2]

namespace Database

variable {now : String} {db : Database} {event : EventIn}

/-- Every event keeps the `CHECK` constraints. -/
theorem Checked.apply (h : db.Checked) (now : String) (event : EventIn) :
    (db.apply now event).Checked := by
  cases he : db.events.find? event.event_id with
  | some existing =>
    rw [apply_of_stored he]
    exact Table.forall_update (TransactionRow.transaction_id_bump now) h fun _ ht => ht
  | none =>
    rw [apply_of_new he]
    exact Table.forall_upsert (event.row now).transaction_id_mergeTransaction h
      (event.check_transactionRow now) fun _ ht => ht.merge _

/-- `_UPSERT_TRANSACTION` after `_UPSERT_MERCHANT`: no constraint fails. -/
theorem upsertTransaction_eq (h : db.Checked)
    (hm : db.merchants.find? event.merchant_id ≠ none) :
    upsertTransaction (event.row now) db =
      .ok { db with
        transactions := db.transactions.upsert (event.row now).transactionRow
          (event.row now).mergeTransaction (event.row now).transaction_id_mergeTransaction } := by
  have hc := event.check_transactionRow now
  have hm' : db.merchants.find? (event.row now).merchant_id ≠ none := hm
  simp only [upsertTransaction, hc, not_true_eq_false, if_false]
  cases ho : db.transactions.find? (event.row now).transaction_id with
  | none => simp only [hm', if_false]
  | some old =>
    have hold := (h old (Table.mem_of_find? ho)).merge (event.row now)
    simp only [hold, not_true_eq_false, if_false]

/-- `_INSERT_EVENT` after `_UPSERT_TRANSACTION`: no constraint fails. -/
theorem insertEvent_eq (he : db.events.find? event.event_id = none)
    (ht : db.transactions.find? event.transaction_id ≠ none) :
    insertEvent (event.row now) db =
      .ok { db with
        events := db.events.push (event.eventRow now) (EventIn.find?_eventRow now he) } := by
  have he' : db.events.find? (event.row now).eventRow.event_id = none := he
  have ht' : db.transactions.find? (event.row now).transaction_id ≠ none := ht
  simp only [insertEvent, he', ht', dif_pos, if_false]
  rfl

end Database

/-! ## The loop -/

open Database

variable {now : String} {db : Database}

/-- One turn of the loop: no constraint fails, and the event is applied. -/
theorem ingestEvent_eval (h : db.Checked) (event : EventIn) (acc : Ingested) :
    (ingestEvent now event acc).eval db =
      (.ok (acc.add (db.result now event)), db.apply now event) := by
  rw [ingestEvent, Prog.eval_bind, Prog.eval_calling, event.toRow_eq]
  simp only [Except.mapError]
  have hselect : selectExistingEvent (event.row now).event_id db =
      .ok (db.events.find? (event.row now).event_id, db) := rfl
  rw [Prog.eval_bind, Prog.eval_fetchone hselect]
  simp only
  cases he : db.events.find? (event.row now).event_id with
  | some existing =>
    -- A replay: one statement, which no constraint can refuse.
    have hbump : bumpDuplicate now existing.transaction_id db = .ok { db with
        transactions := db.transactions.update existing.transaction_id (TransactionRow.bump now)
          (TransactionRow.transaction_id_bump now) } := rfl
    rw [Prog.eval_bind, Prog.eval_execute hbump]
    rw [apply_of_stored he, result_of_stored he]
    rfl
  | none =>
    -- The merchant and the transaction are there when the foreign keys are checked.
    let merchants := db.merchants.upsert (event.row now).merchantRow (event.row now).mergeMerchant
      (event.row now).merchant_id_mergeMerchant
    let transactions := db.transactions.upsert (event.row now).transactionRow
      (event.row now).mergeTransaction (event.row now).transaction_id_mergeTransaction
    have hm : merchants.find? event.merchant_id ≠ none := by
      rw [Table.find?_upsert]
      simp [Params.merchantRow, EventIn.row, EventIn.params]
    have ht : transactions.find? event.transaction_id ≠ none := by
      rw [Table.find?_upsert]
      simp [Params.transactionRow, EventIn.row, EventIn.params]
    have h1 : upsertMerchant (event.row now) db = .ok { db with merchants := merchants } := rfl
    have h2 : upsertTransaction (event.row now) { db with merchants := merchants } =
        .ok { db with merchants := merchants, transactions := transactions } :=
      upsertTransaction_eq h hm
    have h3 : insertEvent (event.row now)
        { db with merchants := merchants, transactions := transactions } =
          .ok ⟨merchants, transactions, db.events.push (event.eventRow now)
            (EventIn.find?_eventRow now he)⟩ :=
      @insertEvent_eq now ⟨merchants, transactions, db.events⟩ event he ht
    rw [Prog.eval_bind, Prog.eval_execute h1]
    simp only
    rw [Prog.eval_bind, Prog.eval_execute h2]
    simp only
    rw [Prog.eval_bind, Prog.eval_execute h3]
    rw [apply_of_new he, result_of_new he]
    rfl

/-- The loop applies every event and collects the outcomes in order. -/
theorem ingestLoop_eval (h : db.Checked) (events : List EventIn) (acc : Ingested) :
    (ingestLoop now events acc).eval db =
      (.ok (acc.addAll (db.results now events)), db.applyAll now events) := by
  induction events generalizing db acc with
  | nil => rfl
  | cons event events ih =>
    rw [ingestLoop, Prog.eval_bind, Prog.eval_calling]
    simp only [Except.mapError]
    rw [Prog.eval_bind, ingestEvent_eval h]
    simp only
    rw [ih (h.apply now event)]
    rfl

variable {dumpError : List (String × Json) → Option AppError}

/-- The loop is made of statements and calls, and lets every exception through. -/
theorem ingestLoop_work (now : String) (events : List EventIn) (acc : Ingested) :
    (ingestLoop now events acc dumpError).Work := by
  induction events generalizing acc with
  | nil => exact Prog.work_calling _
  | cons event events ih =>
    refine (Prog.work_calling _).bind fun event => Prog.Work.bind ?_ fun acc => ih acc
    refine (Prog.work_calling _).bind fun params => (Prog.work_fetchone _).bind fun existing => ?_
    cases existing with
    | some existing => exact (Prog.work_execute _).bind fun _ => Prog.work_pure _
    | none =>
      exact (Prog.work_execute _).bind fun _ => (Prog.work_execute _).bind fun _ =>
        (Prog.work_execute _).bind fun _ => Prog.work_pure _

/-- `ingest_events` is a transaction around the loop. -/
theorem ingestEvents_eq (now : String) (events : List EventIn) :
    ingestEvents now events dumpError = Prog.transaction (ingestLoop now events .start dumpError) := rfl

/-- Whatever fails, `ingest_events` raises and leaves everything as it was, or nothing has failed and
the whole batch is applied. -/
theorem ingestEvents_run (h : db.Checked) (events : List EventIn)
    (faults : ℕ → Option (Fault AppError)) :
    (∃ e, ((ingestEvents now events).run faults 0 (.idle db)).result = .error e ∧
        ((ingestEvents now events).run faults 0 (.idle db)).conn = .idle db) ∨
      ((ingestEvents now events).run faults 0 (.idle db)).result =
          .ok (Ingested.start.addAll (db.results now events)) ∧
        ((ingestEvents now events).run faults 0 (.idle db)).conn =
          .idle (db.applyAll now events) ∧
        ∀ i < ((ingestEvents now events).run faults 0 (.idle db)).ticks, faults i = none := by
  rw [ingestEvents_eq]
  rcases Prog.transaction_run (ingestLoop_work now events .start) faults 0 db with
    herr | ⟨acc, s', hr, hc, he, hfree⟩
  · exact .inl herr
  · rw [ingestLoop_eval h] at he
    obtain ⟨hacc, rfl⟩ := Prod.mk.inj he
    cases hacc
    exact .inr ⟨hr, hc, fun i hi => hfree i (Nat.zero_le i) hi⟩

/-- When nothing fails from outside, the batch is applied. -/
theorem ingestEvents_run_clean (h : db.Checked) (now : String) (events : List EventIn) :
    ((ingestEvents now events).run (fun _ => none) 0 (.idle db)).result =
        .ok (Ingested.start.addAll (db.results now events)) ∧
      ((ingestEvents now events).run (fun _ => none) 0 (.idle db)).conn =
        .idle (db.applyAll now events) := by
  rw [ingestEvents_eq]
  exact Prog.transaction_run_clean (ingestLoop_work now events .start) (fun _ => rfl) 0
    (ingestLoop_eval h _ _)

/-! ## Events that cannot be dumped -/

/-- When `model_dump` returns on all events, it makes no difference that it may raise. -/
theorem ingestLoop_of_dumps {events : List EventIn}
    (h : ∀ event ∈ events, dumpError event.extra = none) (acc : Ingested) :
    ingestLoop now events acc dumpError = ingestLoop now events acc := by
  induction events generalizing acc with
  | nil => rfl
  | cons event events ih =>
    obtain ⟨hevent, hevents⟩ := List.forall_mem_cons.1 h
    have hrow : toRow event now dumpError = toRow event now := by
      rw [event.toRow_dump, hevent, event.toRow_eq]
    rw [ingestLoop, ingestLoop]
    refine Prog.calling_bind_congr ?_
    simp only [ingestEvent, hrow, ih hevents]

/-- The whole batch is then the same program, too. -/
theorem ingestEvents_of_dumps {events : List EventIn}
    (h : ∀ event ∈ events, dumpError event.extra = none) :
    ingestEvents now events dumpError = ingestEvents now events := by
  rw [ingestEvents_eq, ingestEvents_eq, ingestLoop_of_dumps h]

/-- The loop returns only if `model_dump` returns on all events. -/
theorem dumps_of_ingestLoop_eval {events : List EventIn} {acc acc' : Ingested} {s : Database}
    (h : (ingestLoop now events acc dumpError).eval db = (.ok acc', s)) :
    ∀ event ∈ events, dumpError event.extra = none := by
  induction events generalizing db acc with
  | nil => exact List.forall_mem_nil _
  | cons event events ih =>
    rw [ingestLoop, Prog.eval_bind, Prog.eval_calling] at h
    simp only [Except.mapError] at h
    rw [Prog.eval_bind] at h
    cases hdump : dumpError event.extra with
    | none =>
      split at h
      · exact List.forall_mem_cons.2 ⟨hdump, ih h⟩
      · cases h
    | some e =>
      -- The turn of the event raises, and the loop with it.
      rw [ingestEvent, Prog.eval_bind, Prog.eval_calling, event.toRow_dump, hdump] at h
      cases h

/-- A batch one of whose events makes `model_dump` raise is a batch one of whose calls is hit by a
failure. -/
theorem ingestEvents_raises (now : String) (events : List EventIn) :
    (ingestEvents now events dumpError).Raises (ingestEvents now events) := by
  have hloop : ∀ acc, (ingestLoop now events acc dumpError).Raises (ingestLoop now events acc) := by
    induction events with
    | nil => exact fun acc => .refl _
    | cons event events ih =>
      intro acc
      refine (Prog.Raises.refl _).bind fun event => Prog.Raises.bind ?_ ih
      refine Prog.Raises.bind ?_ fun params => .refl _
      rw [event.toRow_dump, event.toRow_eq]
      cases dumpError event.extra with
      | none => exact .refl _
      | some e => exact .calling e _
  rw [ingestEvents_eq, ingestEvents_eq]
  exact (hloop _).transaction

end PaymentRecon
