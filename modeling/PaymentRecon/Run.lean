import PaymentRecon.Batch

/-!
# Runs of the service

`Run trace db` says that the service can reach the database `db` from the empty schema by calls of
`ingest_events`, with any batches at any times and under any failures, and that `trace` is what the
calls that returned were given and answered: every event with its outcome, oldest first. A call that
raised leaves no trace.

`History` is the same one event at a time, and `Run.history` leads from the one to the other. A fact
about every reachable database is proved by induction on `History`, from what one event does.
-/

namespace PaymentRecon

open Store

/-- `ingest_events` on a connection of its own, under a fault schedule. -/
def Database.ingest (db : Database) (faults : ℕ → Option (Fault AppError)) (now : String)
    (events : List EventIn) (dumpError : List (String × Json) → Option AppError := fun _ => none) :
    Outcome Database AppError Ingested :=
  (ingestEvents now events dumpError).run faults 0 (.idle db)

/-- An event with its outcome. -/
abbrev Occurrence := EventIn × IngestResult

/-- The databases that the service reaches, each with the occurrences of the batches committed on the
way. -/
inductive Run : List Occurrence → Database → Prop
  /-- `init_schema`. -/
  | empty : Run [] .empty
  /-- A batch that commits. -/
  | committed {trace : List Occurrence} {db : Database} {faults : ℕ → Option (Fault AppError)}
      {now : String} {events : List EventIn} {acc : Ingested} (h : Run trace db)
      (hr : (db.ingest faults now events).result = .ok acc) :
      Run (trace ++ events.zip acc.results) (db.ingest faults now events).conn.committed
  /-- A batch that raises. -/
  | raised {trace : List Occurrence} {db : Database} {faults : ℕ → Option (Fault AppError)}
      {now : String} {events : List EventIn} {e : Exc AppError} (h : Run trace db)
      (hr : (db.ingest faults now events).result = .error e) :
      Run trace (db.ingest faults now events).conn.committed

/-- The reachable databases. -/
def Reachable (db : Database) : Prop := ∃ trace, Run trace db

/-- Every run of `ingest_events` is one in which `model_dump` does not raise, under other failures. -/
theorem Database.exists_ingest_eq (db : Database) (faults : ℕ → Option (Fault AppError))
    (now : String) (events : List EventIn) (dumpError : List (String × Json) → Option AppError) :
    ∃ faults', db.ingest faults' now events = db.ingest faults now events dumpError :=
  (ingestEvents_raises now events).exists_run_eq faults 0 _

/-- What `ingest_events` commits is reachable, whatever fails and whatever `model_dump` raises. -/
theorem Reachable.ingest {db : Database} (h : Reachable db) (faults : ℕ → Option (Fault AppError))
    (now : String) (events : List EventIn) (dumpError : List (String × Json) → Option AppError) :
    Reachable (db.ingest faults now events dumpError).conn.committed := by
  obtain ⟨trace, h⟩ := h
  obtain ⟨faults', hrun⟩ := db.exists_ingest_eq faults now events dumpError
  rw [← hrun]
  cases hr : (db.ingest faults' now events).result with
  | ok acc => exact ⟨_, h.committed hr⟩
  | error e => exact ⟨_, h.raised hr⟩

/-- Runs, one event at a time. -/
inductive History : List Occurrence → Database → Prop
  /-- `init_schema`. -/
  | empty : History [] .empty
  /-- One more event. -/
  | snoc {trace : List Occurrence} {db : Database} (h : History trace db) (now : String)
      (event : EventIn) :
      History (trace ++ [(event, db.result now event)]) (db.apply now event)

namespace History

variable {trace : List Occurrence} {db : Database}

/-- A batch is a history of its events. -/
theorem applyAll (h : History trace db) (now : String) (events : List EventIn) :
    History (trace ++ events.zip (db.results now events)) (db.applyAll now events) := by
  induction events generalizing trace db with
  | nil => simpa using h
  | cons event events ih =>
    have := ih (h.snoc now event)
    rw [List.append_assoc] at this
    exact this

/-- The `CHECK` constraints hold throughout. -/
theorem checked (h : History trace db) : db.Checked := by
  induction h with
  | empty => exact fun t ht => nomatch ht
  | snoc _ now event ih => exact ih.apply now event

end History

namespace Run

variable {trace : List Occurrence} {db : Database}

/-- A run, one event at a time. -/
theorem history (h : Run trace db) : History trace db := by
  induction h with
  | empty => exact .empty
  | @committed trace db faults now events acc _ hr ih =>
    -- A batch that returned was applied event by event.
    rcases ingestEvents_run ih.checked events faults with ⟨e, he, _⟩ | ⟨hacc, hc, _⟩
    · rw [Database.ingest, he] at hr
      cases hr
    · rw [Database.ingest, hacc] at hr
      cases hr
      rw [Database.ingest, hc, Ingested.results_start_addAll]
      exact ih.applyAll now events
  | @raised trace db faults now events e _ hr ih =>
    -- A batch that raised left the database as it was.
    rcases ingestEvents_run ih.checked events faults with ⟨_, _, hc⟩ | ⟨hacc, _, _⟩
    · rw [Database.ingest, hc]
      exact ih
    · rw [Database.ingest, hacc] at hr
      cases hr

/-- Any batch can be committed next. -/
theorem ingest (h : Run trace db) (now : String) (events : List EventIn) :
    Run (trace ++ events.zip (db.results now events)) (db.applyAll now events) := by
  obtain ⟨hr, hc⟩ := ingestEvents_run_clean h.history.checked now events
  have := h.committed hr
  rwa [Ingested.results_start_addAll, Database.ingest, hc] at this

end Run

/-- The `CHECK` constraints hold in every reachable database. -/
theorem Reachable.checked {db : Database} (h : Reachable db) : db.Checked := by
  obtain ⟨_, h⟩ := h
  exact h.history.checked

/-! ## Atomicity -/

/-- A batch is atomic, whichever operations fail. If an operation fails, or `ingest_events` raises for
any other reason, it raises and leaves the tables as they were with no transaction open. If it
returns, all events of the batch are applied and stored, no transaction is open, and there is one
outcome for each event, in order. -/
theorem ingest_atomic {db : Database} (h : Reachable db) (faults : ℕ → Option (Fault AppError))
    (now : String) (events : List EventIn) :
    ((∃ i < (db.ingest faults now events).ticks, faults i ≠ none) →
        ∃ e, (db.ingest faults now events).result = .error e) ∧
      (∀ e, (db.ingest faults now events).result = .error e →
        (db.ingest faults now events).conn = .idle db) ∧
      ∀ acc, (db.ingest faults now events).result = .ok acc →
        (db.ingest faults now events).conn = .idle (db.applyAll now events) ∧
          (∀ event ∈ events, ∃ row,
            (db.applyAll now events).events.find? event.event_id = some row) ∧
          acc.results = db.results now events ∧
          acc.results.map IngestResult.event_id = events.map EventIn.event_id := by
  unfold Database.ingest
  -- The transaction raises and is rolled back, or nothing failed and it is committed.
  rcases ingestEvents_run h.checked events faults with ⟨e, he, hc⟩ | ⟨hacc, hc, hfree⟩
  · refine ⟨fun _ => ⟨e, he⟩, fun _ _ => hc, fun acc hr => ?_⟩
    rw [he] at hr
    cases hr
  · refine ⟨fun ⟨i, hi, hf⟩ => absurd (hfree i hi) hf, fun e hr => ?_, fun acc hr => ?_⟩
    · rw [hacc] at hr
      cases hr
    · rw [hacc] at hr
      cases hr
      refine ⟨hc, fun event he => Database.stored_applyAll now db he,
        Ingested.results_start_addAll _, ?_⟩
      rw [Ingested.results_start_addAll, Database.event_ids_results]

/-- A batch of two events fails when the second one is inserted, and the first one is not kept; sent again,
it is stored. -/
theorem ingest_atomic_failed_insert :
    let db := Database.empty.applyAll exampleEvent.timestamp [exampleEvent]
    let batch := [processedNextDay, repricedEvent]
    let full : ℕ → Option (Fault AppError) :=
      fun i => if i = 12 then some (.abort (.operational "database or disk is full")) else none
    (db.ingest full processedNextDay.timestamp batch).conn = .idle db ∧
      (db.ingest (fun _ => none) processedNextDay.timestamp batch).conn =
        .idle (db.applyAll processedNextDay.timestamp batch) ∧
      ∀ acc, (db.ingest (fun _ => none) processedNextDay.timestamp batch).result = .ok acc →
        acc.results.map IngestResult.event_id = ["processed_next_day", "repriced"] := by
  intro db batch full
  have hr : Reachable db := ⟨_, Run.empty.ingest _ _⟩
  obtain ⟨hfail, hkept, -⟩ := ingest_atomic hr full processedNextDay.timestamp batch
  obtain ⟨-, -, hdone⟩ := ingest_atomic hr (fun _ => none) processedNextDay.timestamp batch
  obtain ⟨e, he⟩ := hfail ⟨12, by decide +kernel, by decide⟩
  obtain ⟨acc, hacc⟩ : ∃ acc,
      (db.ingest (fun _ => none) processedNextDay.timestamp batch).result = .ok acc :=
    ⟨_, (ingestEvents_run_clean hr.checked processedNextDay.timestamp batch).1⟩
  exact ⟨hkept e he, (hdone acc hacc).1, fun acc hacc => (hdone acc hacc).2.2.2⟩

end PaymentRecon
