import PaymentRecon.Concurrency
import PaymentRecon.Convergence
import PaymentRecon.Store.Offers

/-!
# The ledger

What ingestion is for, in the terms of its clients: an idempotent log of payments. A `Ledger` keeps the
first entry that it is offered under an id and counts the others (`Ledger.offer`), and answers from what
it has (`Ledger.verdict`). The position of a transaction is computed from its entries whenever somebody
asks (`Ledger.position`): nothing is maintained.

The service stores three tables, folds every event into a row, and serves requests whose statements are
interleaved and fail. To its clients it is the ledger nevertheless: every response that was given is the
ledger's, in the order of the responses (`post_events_linearizable`), and every row is a position.
-/

namespace PaymentRecon

open Store Sql

/-- An idempotent log, with the replays that were put down to each transaction. -/
structure Ledger where
  /-- What is kept, oldest first. -/
  entries : Table String Entry Entry.event_id
  /-- The replays of the entries of a transaction. -/
  replays : String → ℕ

/-- What a transaction amounts to. -/
structure Position where
  /-- The merchant of the first arrival. -/
  merchant_id : String
  /-- The amount of the first arrival. -/
  amount_minor : ℤ
  /-- The currency of the first arrival. -/
  currency : String
  /-- The first time of each type of event. -/
  occurrence : EventType → Option String
  /-- The first time. -/
  first_event_at : Option String
  /-- The last time. -/
  last_event_at : Option String
  /-- The entries. -/
  event_count : ℕ
  /-- The replays of the entries. -/
  duplicate_event_count : ℕ
  /-- Two entries disagree on the amount. -/
  amount_mismatch : Prop
  /-- Two entries disagree on the merchant. -/
  merchant_mismatch : Prop

namespace Ledger

/-- The ledger without entries. -/
def empty : Ledger := ⟨.empty, fun _ => 0⟩

/-- Offer an entry: the first one under an id is kept, and the others are counted. -/
def offer (l : Ledger) (x : Entry) : Ledger where
  entries := l.entries.offer x
  replays := match l.entries.find? x.event_id with
    | none => l.replays
    | some y => Function.update l.replays y.transaction_id (l.replays y.transaction_id + 1)

/-- The answer to an entry. -/
def verdict (l : Ledger) (x : Entry) : IngestResult :=
  match l.entries.find? x.event_id with
  | none => ⟨x.event_id, x.transaction_id, .created, false, none⟩
  | some y => ⟨x.event_id, y.transaction_id, .duplicate, decide (y ≠ x), some (if y ≠ x then
      "event_id already ingested with a different payload; the stored event was kept"
    else "event already ingested; ignored")⟩

/-- Offer entries, the first one first. -/
def offerAll (l : Ledger) (xs : List Entry) : Ledger := xs.foldl offer l

/-- The answers to entries. -/
def verdicts (l : Ledger) : List Entry → List IngestResult
  | [] => []
  | x :: xs => l.verdict x :: (l.offer x).verdicts xs

/-- The response to a batch. -/
def respond (l : Ledger) (xs : List Entry) : Response :=
  let results := l.verdicts xs
  let created := results.filter fun r => r.status = .created
  { status_code := if created = [] then 200 else 201
    body :=
      { received := xs.length
        created := created.length
        duplicates := results.countP fun r => r.status = .duplicate
        transactions_affected := (created.map IngestResult.transaction_id).dedup.length
        results := results } }

/-- What entries with a number of replays amount to, the oldest entry first. -/
def positionOf (log : List Entry) (replays : ℕ) : Option Position :=
  log.head?.map fun first =>
    { merchant_id := first.merchant_id
      amount_minor := first.amount_minor
      currency := first.currency
      occurrence := fun type =>
        ((log.filter fun x => x.event_type = type).map Entry.occurred_at).min?
      first_event_at := (log.map Entry.occurred_at).min?
      last_event_at := (log.map Entry.occurred_at).max?
      event_count := log.length
      duplicate_event_count := replays
      amount_mismatch := ∃ x ∈ log, ∃ y ∈ log, x.amount_minor ≠ y.amount_minor
      merchant_mismatch := ∃ x ∈ log, ∃ y ∈ log, x.merchant_id ≠ y.merchant_id }

/-- The position of a transaction. -/
def position (l : Ledger) (id : String) : Option Position :=
  positionOf (l.entries.rows.filter fun x => x.transaction_id = id) (l.replays id)

/-- A new entry is no replay. -/
theorem replays_offer_of_none {l : Ledger} {x : Entry} (h : l.entries.find? x.event_id = none) :
    (l.offer x).replays = l.replays := by
  simp only [offer, h]

/-- An entry that is known is a replay of the transaction that holds it. -/
theorem replays_offer_of_some {l : Ledger} {x y : Entry} (h : l.entries.find? x.event_id = some y) :
    (l.offer x).replays =
      Function.update l.replays y.transaction_id (l.replays y.transaction_id + 1) := by
  simp only [offer, h]

/-- The log of the ledger is the idempotent log. -/
theorem entries_offerAll (l : Ledger) (xs : List Entry) :
    (l.offerAll xs).entries = l.entries.offerAll xs := by
  induction xs generalizing l with
  | nil => rfl
  | cons x xs ih => exact ih (l.offer x)

end Ledger

/-- The entries of a request. -/
def Request.entries (request : Request) : List Entry := request.payload.events.map EventIn.entry

/-- The ledger that served the requests of a log, one after another. -/
def Ledger.served (log : List (Request × Response)) : Ledger :=
  .offerAll .empty (log.flatMap fun x => x.1.entries)

/-- The position that a row stores. -/
def TransactionRow.position (t : TransactionRow) : Position where
  merchant_id := t.merchant_id
  amount_minor := t.amount_minor
  currency := t.currency
  occurrence := t.occurrence
  first_event_at := some t.first_event_at
  last_event_at := some t.last_event_at
  event_count := t.event_count
  duplicate_event_count := t.duplicate_event_count
  amount_mismatch := t.has_amount_mismatch = 1
  merchant_mismatch := t.has_merchant_mismatch = 1

/-! ## The tables keep a ledger -/

/-- The database keeps a ledger. -/
structure Keeps (db : Database) (l : Ledger) : Prop where
  /-- The event log is the log. -/
  entries : db.events.rows.map EventRow.entry = l.entries.rows
  /-- The rows count the replays. -/
  replays : ∀ id, (db.transactions.find? id).elim 0 TransactionRow.duplicate_event_count = l.replays id

/-- The empty schema keeps the empty ledger. -/
theorem keeps_empty : Keeps .empty .empty := ⟨rfl, fun _ => rfl⟩

/-- A replay differs from the stored event when the entries differ. -/
theorem payloadDiffers_eq {existing : EventRow} {event : EventIn}
    (h : existing.event_id = event.event_id) (now : String) :
    payloadDiffers existing (event.row now) = decide (existing.entry ≠ event.entry) := by
  rw [Bool.eq_iff_iff, decide_eq_true_iff, EventRow.entry, EventIn.entry]
  simp only [payloadDiffers, EventIn.row, EventIn.params, Bool.or_eq_true, bne_iff_ne, ne_eq,
    Entry.mk.injEq, h, true_and]
  tauto

/-- The events of one type have its times. -/
theorem times_entries (type : EventType) (log : List EventRow) :
    (((log.map EventRow.entry).filter fun x => x.event_type = type).map Entry.occurred_at) =
      times type log := by
  rw [List.filter_map, List.map_map]
  rfl

/-- Two events disagree when their entries do. -/
theorem disagree_entries {α : Type} (g : Entry → α) (log : List EventRow) :
    (∃ x ∈ log.map EventRow.entry, ∃ y ∈ log.map EventRow.entry, g x ≠ g y) ↔
      Disagree (fun e => g e.entry) log := by
  simp only [Disagree, List.mem_map, exists_exists_and_eq_and]

/-- A row that projects a log is the position of its entries. -/
theorem Projects.position {log : List EventRow} {t : TransactionRow} (h : Projects log t) :
    some t.position = Ledger.positionOf (log.map EventRow.entry) t.duplicate_event_count := by
  obtain ⟨first, hfirst, hmerchant⟩ := Option.map_eq_some_iff.1 h.merchant_id
  have hamount := h.amount_minor
  have hcurrency := h.currency
  rw [hfirst, Option.map_some, Option.some_inj] at hamount hcurrency
  rw [Ledger.positionOf, List.head?_map, hfirst, Option.map_some, Option.map_some, Option.some_inj]
  refine Position.mk.injEq .. ▸ ⟨hmerchant.symm, hamount.symm, hcurrency.symm, ?_, ?_, ?_, ?_, rfl, ?_, ?_⟩
  · funext type
    rw [times_entries, ← h.occurrence]
  · rw [List.map_map]
    exact h.first_event_at
  · rw [List.map_map]
    exact h.last_event_at
  · rw [List.length_map]
    exact h.event_count
  · rw [disagree_entries Entry.amount_minor]
    exact propext h.has_amount_mismatch_eq_one
  · rw [disagree_entries Entry.merchant_id]
    exact propext h.has_merchant_mismatch_eq_one

namespace Keeps

variable {trace : List Occurrence} {db : Database} {l : Ledger}

/-- An id finds in the ledger the entry of what it finds in the log. -/
theorem find? (h : Keeps db l) (id : String) :
    l.entries.find? id = (db.events.find? id).map EventRow.entry := by
  rw [Table.find?, ← h.entries, List.find?_map]
  rfl

/-- The outcome of an event is the ledger's. -/
theorem result (h : Keeps db l) (now : String) (event : EventIn) :
    db.result now event = l.verdict event.entry := by
  have hfind : l.entries.find? event.entry.event_id =
      (db.events.find? event.event_id).map EventRow.entry := h.find? event.event_id
  -- What is stored under the event id decides, in the table and in the log alike.
  unfold Ledger.verdict
  cases he : db.events.find? event.event_id with
  | none =>
    rw [he, Option.map_none] at hfind
    rw [Database.result_of_new he, hfind]
    rfl
  | some existing =>
    rw [he, Option.map_some] at hfind
    rw [Database.result_of_stored he, hfind, duplicateResult,
      payloadDiffers_eq (Table.key_of_find? he)]
    simp only [decide_eq_true_eq]
    rfl

/-- An event does to the tables what its entry does to the ledger. -/
theorem apply (h : Keeps db l) (hist : History trace db) (now : String) (event : EventIn) :
    Keeps (db.apply now event) (l.offer event.entry) := by
  have hfind : l.entries.find? event.entry.event_id =
      (db.events.find? event.event_id).map EventRow.entry := h.find? event.event_id
  cases he : db.events.find? event.event_id with
  | none =>
    rw [he, Option.map_none] at hfind
    refine ⟨?_, fun id => ?_⟩
    · -- The entry goes to the end of the log, as the row does.
      rw [Database.rows_events_of_new he, Ledger.offer, Table.offer_of_none hfind, Table.rows_push,
        List.map_append, h.entries]
      rfl
    · -- A transaction that is new has no replays, and folding an event leaves the count.
      rw [Database.find?_transactions_of_new he, Ledger.replays_offer_of_none hfind, ← h.replays id]
      split_ifs with hid
      · subst hid
        cases db.transactions.find? event.transaction_id <;> rfl
      · rfl
  | some existing =>
    rw [he, Option.map_some] at hfind
    refine ⟨?_, fun id => ?_⟩
    · have hne : l.entries.find? event.entry.event_id ≠ none := hfind ▸ Option.some_ne_none _
      rw [Database.events_of_stored he, Ledger.offer, Table.offer_of_ne_none hne, h.entries]
    · -- The replay is put down to the transaction of the stored event, which has a row.
      have htransaction : existing.entry.transaction_id = existing.transaction_id := rfl
      obtain ⟨t, ht⟩ := hist.transaction_of_stored he
      rw [Database.find?_transactions_of_stored he, Ledger.replays_offer_of_some hfind, htransaction]
      by_cases hid : id = existing.transaction_id
      · subst hid
        rw [if_pos rfl, Function.update_self, ← h.replays, ht]
        rfl
      · rw [if_neg hid, Function.update_of_ne hid, h.replays id]

/-- The outcomes of a batch are the ledger's, and the batch keeps the ledger. -/
theorem applyAll (h : Keeps db l) (hist : History trace db) (now : String) (events : List EventIn) :
    db.results now events = l.verdicts (events.map EventIn.entry) ∧
      Keeps (db.applyAll now events) (l.offerAll (events.map EventIn.entry)) := by
  induction events generalizing trace db l with
  | nil => exact ⟨rfl, h⟩
  | cons event events ih =>
    -- The rest of the batch meets the ledger that has taken in the first event.
    obtain ⟨hresults, hkeeps⟩ := ih (h.apply hist now event) (hist.snoc now event)
    refine ⟨?_, hkeeps⟩
    rw [Database.results, h.result, hresults]
    rfl

/-- A row is the position of its transaction. -/
theorem position (h : Keeps db l) (hdb : db.Projected) (id : String) :
    (db.transactions.find? id).map TransactionRow.position = l.position id := by
  have hlog : (l.entries.rows.filter fun x => x.transaction_id = id) =
      (db.log id).map EventRow.entry := by
    rw [← h.entries, ← entries_log]
  rw [Ledger.position, hlog, ← h.replays]
  cases ht : db.transactions.find? id with
  | none =>
    -- Nothing is in the log of a transaction without a row.
    rw [hdb.logged id ht]
    rfl
  | some t => exact (hdb.projects id t ht).position

end Keeps

/-! ## Responses -/

/-- The transactions that outcomes affect are those of the created ones. -/
theorem Ingested.affected_addAll (acc : Ingested) (results : List IngestResult) :
    (acc.addAll results).affected = acc.affected ∪
      ((results.filter fun r => r.status = .created).map IngestResult.transaction_id).toFinset := by
  induction results generalizing acc with
  | nil => exact (Finset.union_empty _).symm
  | cons r results ih =>
    rw [Ingested.addAll, List.foldl_cons, ← Ingested.addAll, ih, Ingested.add]
    cases hr : r.status with
    | created =>
      rw [List.filter_cons_of_pos (by simpa using hr), List.map_cons, List.toFinset_cons,
        Finset.insert_union, Finset.union_insert]
    | duplicate => rw [List.filter_cons_of_neg (by simp [hr])]

namespace Keeps

variable {trace : List Occurrence} {db : Database} {l : Ledger}

/-- The response to a batch is the ledger's. -/
theorem response (h : Keeps db l) (hist : History trace db) (request : Request) :
    (Ingested.start.addAll (db.results request.now request.payload.events)).response =
      l.respond request.entries := by
  have hsplit := countP_created_add_duplicate (db.results request.now request.payload.events)
  have hlen := db.length_results request.now request.payload.events
  obtain ⟨hresults, -⟩ := h.applyAll hist request.now request.payload.events
  have hcreated : ((db.results request.now request.payload.events).filter
      fun r => r.status = .created).length =
        (db.results request.now request.payload.events).countP fun r => r.status = .created :=
    List.countP_eq_length_filter.symm
  rw [Ledger.respond, Request.entries, ← hresults, Ingested.response, Ingested.affected_addAll]
  simp only [Ingested.results_start_addAll]
  congr 1
  · rw [← hcreated]
    simp only [ne_eq, List.length_eq_zero_iff, ite_not]
  · congr 1
    · rw [hlen, List.length_map]
    · exact hcreated.symm
    · omega

end Keeps

/-- One more request is offered after the others. -/
theorem Ledger.served_concat (log : List (Request × Response)) (x : Request × Response) :
    Ledger.served (log ++ [x]) = (Ledger.served log).offerAll x.1.entries := by
  rw [served, List.flatMap_append, List.flatMap_singleton, offerAll, List.foldl_append]
  rfl

variable {settings : Settings} {log : List (Request × Response)} {db : Database}

/-- The successful requests, served one after another, are served by the ledger. -/
theorem keeps_of_serial (h : Serial (plan settings) .empty log db) :
    Keeps db (Ledger.served log) ∧ ∀ before x after, log = before ++ x :: after →
      x.2 = (Ledger.served before).respond x.1.entries := by
  induction h with
  | nil => exact ⟨keeps_empty, fun before x after h => absurd h (by simp)⟩
  | @snoc log db db' request response body hlog _ hq he ih =>
    obtain ⟨hkeeps, hresponses⟩ := ih
    obtain ⟨hist, -⟩ := history_of_serial hlog
    -- The request is served on what the earlier ones have committed.
    rw [plan_eval hq hist.checked] at he
    obtain ⟨hr, rfl⟩ := Prod.mk.inj he
    obtain rfl := Except.ok.inj hr
    refine ⟨?_, fun before x after hsplit => ?_⟩
    · rw [Ledger.served_concat]
      exact (hkeeps.applyAll hist request.now request.payload.events).2
    · rcases after.eq_nil_or_concat with rfl | ⟨after, last, rfl⟩
      · -- The last response.
        obtain ⟨rfl, hlast⟩ := List.append_inj' hsplit rfl
        obtain rfl := (List.cons.inj hlast).1
        exact hkeeps.response hist request
      · -- An earlier response.
        rw [List.concat_eq_append, ← List.cons_append, ← List.append_assoc] at hsplit
        exact hresponses before x after (List.append_inj_left' hsplit rfl)

/-- The successful requests of a log were answered as a ledger answers them, and the database is what it
keeps. -/
structure Linearized (log : List (Request × Response)) (db : Database) : Prop where
  /-- Every response is that of a ledger that served the earlier requests. -/
  responses : ∀ before x after, log = before ++ x :: after →
    x.2 = (Ledger.served before).respond x.1.entries
  /-- The rows of the transactions are its positions. -/
  positions : ∀ id, (db.transactions.find? id).map TransactionRow.position =
    (Ledger.served log).position id
  /-- The event log is its log. -/
  entries : db.events.rows.map EventRow.entry = (Ledger.served log).entries.rows
  /-- Under every id it holds the first event that was sent with it. -/
  firsts : ∀ id, (db.events.find? id).map EventRow.entry =
    (log.flatMap fun x => x.1.entries).find? fun x => x.event_id = id

/-- Requests that are served one after another are answered as the ledger answers them. -/
theorem linearized_of_serial (h : Serial (plan settings) .empty log db) : Linearized log db := by
  obtain ⟨hist, -⟩ := history_of_serial h
  obtain ⟨hkeeps, hresponses⟩ := keeps_of_serial h
  refine ⟨hresponses, hkeeps.position hist.projected, hkeeps.entries, fun id => ?_⟩
  rw [← hkeeps.find?, Ledger.served, Ledger.entries_offerAll, Table.find?_offerAll]
  rfl

/-- To its clients the service is the ledger. In every world that any number of clients reach, by any
interleaving and under any failures, every response that was given is the response of a ledger that
served the earlier ones before, one after another; a transaction has a row exactly when the ledger has
a position of it, which the row is; and the log holds under every id the first event that was committed
with it, in the order in which first events came. -/
theorem post_events_linearizable {κ : Type} [DecidableEq κ] {requests : κ → List Request}
    {w : World κ Request Database EventRow AppError Response}
    (h : World.Reachable (postEvents settings) .empty requests w) :
    (∀ before x after, w.successes = before ++ x :: after →
        x.2 = (Ledger.served before).respond x.1.entries) ∧
      (∀ id, (w.committed.transactions.find? id).map TransactionRow.position =
        (Ledger.served w.successes).position id) ∧
      w.committed.events.rows.map EventRow.entry = (Ledger.served w.successes).entries.rows ∧
      ∀ id, (w.committed.events.find? id).map EventRow.entry =
        (w.successes.flatMap fun x => x.1.entries).find? fun x => x.event_id = id := by
  rw [postEvents_eq] at h
  have hlinearized := linearized_of_serial (World.serializable (fun _ _ => plan_work) h)
  exact ⟨hlinearized.responses, hlinearized.positions, hlinearized.entries, hlinearized.firsts⟩

/-- One of two clients posts an event together with its replay. -/
theorem post_events_linearizable_replayed :
    ∃ w : World Bool Request Database EventRow AppError Response,
      World.Reachable (postEvents {}) .empty
          (fun c => if c then [⟨"", .array [exampleEvent, exampleEvent]⟩] else []) w ∧
        w.successes.map (fun x => x.2.body.duplicates) = [1] ∧
        w.successes.map Prod.snd =
          [(Ledger.served []).respond [exampleEvent.entry, exampleEvent.entry]] := by
  let request : Request := ⟨"", .array [exampleEvent, exampleEvent]⟩
  obtain ⟨body, hplan⟩ : ∃ body, plan {} request = .ok body := ⟨_, rfl⟩
  obtain ⟨w, hsteps, _, _, _, ha⟩ := World.completes hplan (plan_work hplan)
    (show (World.start Database.empty fun c => if c then [request] else []).sessions true =
      ⟨[_], none⟩ from rfl) rfl (plan_eval hplan Run.empty.history.checked)
  rw [← postEvents_eq] at hsteps
  obtain ⟨response, hsuccesses, hduplicates⟩ :
      ∃ response : Response, w.successes = [(request, response)] ∧ response.body.duplicates = 1 := by
    refine ⟨_, by rw [World.successes, ha]; rfl, ?_⟩
    decide
  have hresponse := (post_events_linearizable hsteps).1 [] _ [] hsuccesses
  refine ⟨w, hsteps, ?_, ?_⟩
  · rw [hsuccesses, List.map_singleton, hduplicates]
  · rw [hsuccesses, List.map_singleton, hresponse]
    rfl

end PaymentRecon
