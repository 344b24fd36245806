import PaymentRecon.Events

/-!
# Exactly-once ingestion under concurrency

Any number of clients post any requests, and the operations of the requests being served are
interleaved in any order and may fail. By `World.serializable` the committed database is that of the
successful requests served one after another, so it has a history (`history_of_serial`), and what the
answers of a history say about the database (`Answers.lean`) holds of the responses that were given.

`exactly_once` is the result: every event that some committed request carried was created once and
was a duplicate in every other occurrence, the log holds it once with the payload of the created
occurrence, and the counters of the responses add up to those of the tables.
-/

namespace PaymentRecon

open Store

/-- The occurrences of the requests that succeeded. -/
def occurrences (log : List (Request × Response)) : List Occurrence :=
  log.flatMap fun x => x.1.payload.events.zip x.2.body.results

/-- Exactly one occurrence of `o`'s event was created, namely `o`, and every other is a duplicate. -/
def CreatedOnce (trace : List Occurrence) (o : Occurrence) : Prop :=
  o.2.status = .created ∧ ∃ before after, trace = before ++ o :: after ∧
    ∀ o' ∈ before ++ after, o'.1.event_id = o.1.event_id → o'.2.status = .duplicate

/-- A response accounts for the events of its request. -/
structure Response.Accounts (response : Response) (request : Request) : Prop where
  /-- There is one outcome for each event, in order. -/
  event_ids : response.body.results.map IngestResult.event_id =
    request.payload.events.map EventIn.event_id
  /-- `received` is the length of the batch. -/
  received : response.body.received = request.payload.events.length
  /-- Every event was created or is a duplicate. -/
  split : response.body.received = response.body.created + response.body.duplicates
  /-- `created` counts the outcomes that say so. -/
  created : response.body.created =
    countStatus .created (request.payload.events.zip response.body.results)
  /-- `duplicates` counts the outcomes that say so. -/
  duplicates : response.body.duplicates =
    countStatus .duplicate (request.payload.events.zip response.body.results)
  /-- `201` means that something was created. -/
  status_code : response.status_code = if 0 < response.body.created then 201 else 200

/-! ## One request -/

/-- The outcomes with a status, counted next to the events or alone. -/
theorem countStatus_zip (status : IngestStatus) {events : List EventIn} {results : List IngestResult}
    (h : events.length = results.length) :
    countStatus status (events.zip results) = results.countP fun r => r.status = status := by
  rw [countStatus]
  have hsnd : (events.zip results).map Prod.snd = results := List.map_snd_zip h.ge
  rw [← hsnd, List.countP_map, hsnd]
  rfl

/-- Every outcome was created or is a duplicate. -/
theorem countP_created_add_duplicate (results : List IngestResult) :
    (results.countP fun r => r.status = .created) + (results.countP fun r => r.status = .duplicate) =
      results.length := by
  rw [List.length_eq_countP_add_countP (fun r : IngestResult => decide (r.status = .created))]
  congr 1
  refine List.countP_congr fun r _ => ?_
  cases r.status <;> decide

/-- The response to a batch that was ingested accounts for it. -/
theorem Database.accounts_response (db : Database) (request : Request) :
    (Ingested.start.addAll (db.results request.now request.payload.events)).response.Accounts
      request := by
  have hlen := db.length_results request.now request.payload.events
  have hsplit := countP_created_add_duplicate (db.results request.now request.payload.events)
  simp only [Ingested.response, Ingested.results_start_addAll]
  refine ⟨db.event_ids_results _ _, hlen, ?_, ?_, ?_, ?_⟩
  · simp only
    omega
  · rw [countStatus_zip _ hlen.symm]
  · rw [countStatus_zip _ hlen.symm]
    simp only
    omega
  · simp only [Nat.pos_iff_ne_zero]

/-! ## All requests -/

variable {settings : Settings} {log : List (Request × Response)} {db : Database}

/-- The successful requests, served one after another, are a history, and their responses account for
them. -/
theorem history_of_serial (h : Serial (plan settings) .empty log db) :
    History (occurrences log) db ∧ ∀ x ∈ log, x.2.Accounts x.1 := by
  induction h with
  | nil => exact ⟨.empty, fun _ hx => absurd hx List.not_mem_nil⟩
  | @snoc log db db' request response body _ _ hq he ih =>
    obtain ⟨hist, hacc⟩ := ih
    -- Served alone, the request applied its events to what the earlier ones left.
    rw [plan_eval hq hist.checked] at he
    obtain ⟨hr, rfl⟩ := Prod.mk.inj he
    obtain rfl := Except.ok.inj hr
    refine ⟨?_, fun x hx => ?_⟩
    · simp only [occurrences, List.flatMap_append, List.flatMap_singleton, Ingested.response,
        Ingested.results_start_addAll]
      exact hist.applyAll request.now request.payload.events
    · rcases List.mem_append.1 hx with hx | hx
      · exact hacc x hx
      · rw [List.mem_singleton] at hx
        subst hx
        exact db.accounts_response request

/-- The outcomes with a status, summed over the responses. -/
theorem sum_countStatus (status : IngestStatus) (count : Response → ℕ)
    (h : ∀ x ∈ log, count x.2 = countStatus status (x.1.payload.events.zip x.2.body.results)) :
    (log.map fun x => count x.2).sum = countStatus status (occurrences log) := by
  rw [countStatus, occurrences, List.countP_flatMap]
  exact congrArg List.sum (List.map_congr_left h)

/-- An event that occurs was created once, and the log holds it once, as it was then. -/
theorem History.createdOnce {trace : List Occurrence} (h : History trace db) {o : Occurrence}
    (ho : o ∈ trace) :
    ∃ first, first.1.event_id = o.1.event_id ∧ CreatedOnce trace first ∧ ∃ now,
      (db.events.rows.filter fun row => row.event_id = o.1.event_id) = [first.1.eventRow now] := by
  -- The event is stored, so one occurrence of its id was created.
  obtain ⟨_, row, hrow, _⟩ := h.answered o ho
  have hcount := h.count_created o.1.event_id
  rw [hrow] at hcount
  simp only [Option.isSome_some, if_true] at hcount
  obtain ⟨first, hfirst, hp⟩ := List.countP_pos_iff.1 (hcount ▸ Nat.one_pos)
  simp only [decide_eq_true_eq] at hp
  obtain ⟨hst, hid⟩ := hp
  obtain ⟨_, row', hrow', _, hnow⟩ := h.answered first hfirst
  obtain ⟨now, rfl⟩ := hnow hst
  refine ⟨first, hid, ⟨hst, ?_⟩, now, ?_⟩
  · obtain ⟨before, after, rfl⟩ := List.append_of_mem hfirst
    refine ⟨before, after, rfl, fun o' ho' hid' => ?_⟩
    -- The created occurrence is the one that was counted, so no other was created.
    have hnone : (before ++ after).countP
        (fun o' => o'.2.status = .created ∧ o'.1.event_id = o.1.event_id) = 0 := by
      rw [List.countP_append, List.countP_cons] at hcount
      simp only [hst, hid, and_self, decide_true, if_true] at hcount
      rw [List.countP_append]
      omega
    have hnot := List.countP_eq_zero.1 hnone o' ho'
    simp only [decide_eq_true_eq, hid', hid, and_true] at hnot
    cases hs : o'.2.status with
    | created => exact absurd hs hnot
    | duplicate => rfl
  · rw [hid] at hrow'
    rw [Table.filter_key, hrow']
    rfl

/-- Ingestion is exactly once under concurrency. In every world that any number of clients reach by
any interleaving and under any failures: every event of a committed request was created once and is a
duplicate in every other occurrence, and is stored once, as it was created; the responses account for
their requests; and what they report adds up to what is stored. -/
theorem exactly_once {κ : Type} [DecidableEq κ] {requests : κ → List Request}
    {w : World κ Request Database EventRow AppError Response}
    (h : World.Reachable (postEvents settings) .empty requests w) :
    (∀ o ∈ occurrences w.successes, ∃ first, first.1.event_id = o.1.event_id ∧
        CreatedOnce (occurrences w.successes) first ∧ ∃ now,
        (w.committed.events.rows.filter fun row => row.event_id = o.1.event_id) =
          [first.1.eventRow now]) ∧
      (∀ x ∈ w.successes, x.2.Accounts x.1) ∧
      w.committed.events.rows.length = (w.successes.map fun x => x.2.body.created).sum ∧
      (w.committed.transactions.rows.map TransactionRow.event_count).sum =
        (w.successes.map fun x => x.2.body.created).sum ∧
      (w.committed.transactions.rows.map TransactionRow.duplicate_event_count).sum =
        (w.successes.map fun x => x.2.body.duplicates).sum := by
  rw [postEvents_eq] at h
  -- The successful requests make up a serial run, in the order of their commits, and thus a history.
  have hserial := World.serializable (fun _ _ => plan_work) h
  obtain ⟨hist, hacc⟩ := history_of_serial hserial
  have hcreated : (w.successes.map fun x => x.2.body.created).sum =
      countStatus .created (occurrences w.successes) :=
    sum_countStatus .created (fun r => r.body.created) fun x hx => (hacc x hx).created
  have hduplicates : (w.successes.map fun x => x.2.body.duplicates).sum =
      countStatus .duplicate (occurrences w.successes) :=
    sum_countStatus .duplicate (fun r => r.body.duplicates) fun x hx => (hacc x hx).duplicates
  refine ⟨fun o ho => hist.createdOnce ho, hacc, ?_, ?_, ?_⟩
  · calc w.committed.events.rows.length
        = countStatus .created (occurrences w.successes) := hist.length_events
      _ = (w.successes.map fun x => x.2.body.created).sum := hcreated.symm
  · calc (w.committed.transactions.rows.map TransactionRow.event_count).sum
        = countStatus .created (occurrences w.successes) := hist.sum_event_count
      _ = (w.successes.map fun x => x.2.body.created).sum := hcreated.symm
  · calc (w.committed.transactions.rows.map TransactionRow.duplicate_event_count).sum
        = countStatus .duplicate (occurrences w.successes) := hist.sum_duplicate_event_count
      _ = (w.successes.map fun x => x.2.body.duplicates).sum := hduplicates.symm

/-- One of two clients posts an event together with its replay. -/
theorem exactly_once_replayed :
    ∃ w : World Bool Request Database EventRow AppError Response,
      World.Reachable (postEvents {}) .empty
          (fun c => if c then [⟨"", .array [exampleEvent, exampleEvent]⟩] else []) w ∧
        w.committed.events.rows.length = 1 ∧
        (w.committed.transactions.rows.map TransactionRow.duplicate_event_count).sum = 1 := by
  let requests : Bool → List Request :=
    fun c => if c then [⟨"", .array [exampleEvent, exampleEvent]⟩] else []
  have hplan : ∃ body, plan {} ⟨"", .array [exampleEvent, exampleEvent]⟩ = .ok body := ⟨_, rfl⟩
  obtain ⟨body, hplan⟩ := hplan
  obtain ⟨w, hsteps, _, _, _, ha⟩ := World.completes hplan (plan_work hplan)
    (show (World.start Database.empty requests).sessions true = ⟨[_], none⟩ from rfl) rfl
    (plan_eval hplan Run.empty.history.checked)
  rw [← postEvents_eq] at hsteps
  refine ⟨w, hsteps, ?_⟩
  obtain ⟨_, _, hevents, _, hduplicates⟩ := exactly_once hsteps
  rw [hevents, hduplicates, World.successes, ha]
  decide

end PaymentRecon
