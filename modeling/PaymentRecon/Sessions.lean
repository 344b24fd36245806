import PaymentRecon.Ledger
import PaymentRecon.Feeds
import PaymentRecon.Store.Progress

/-!
# What a client may rely on

Clients post events and read transactions, and other clients do the same in between, also between two
statements of one request. What an answer has said stays true of the answers that are requested later. An
event that was acknowledged is found in the detail of the transaction that the acknowledgement names, and
is the posted one unless a conflict was reported (`acknowledged_visible`). A later detail shows what an
earlier one has shown, and its row counts the events that the earlier one had only listed
(`detail_monotonic`). What a listing has shown is found in a later detail (`shown_found`).
-/

namespace PaymentRecon

open Store Sql

/-- The entry of an event that is shown. -/
def EventOut.entry (e : EventOut) : Entry :=
  ⟨e.event_id, e.transaction_id, e.merchant_id, e.event_type, e.amount_minor, e.currency,
    e.occurred_at⟩

/-! ## Later worlds -/

section

variable {settings : Settings} {db db' : Database}

/-- Requests that succeed one after another are calls of `ingest_events`. -/
theorem later_of_serial (hdb : Reachable db) {log : List (Request × Response)}
    (h : Serial (plan settings) db log db') : Later db db' := by
  induction h with
  | nil => exact .refl
  | snoc _ _ hq he ih =>
    have hchecked := (ih.reachable hdb).checked
    rw [plan_eval hq hchecked] at he
    obtain rfl := (Prod.mk.inj he).2
    exact ih.tail (.applyAll hchecked _ _)

variable {κ : Type} [DecidableEq κ] {requests : κ → List Request}
  {w w' : World κ Request Database EventRow AppError Response}

/-- What is committed has a history, with the occurrences that were answered. -/
theorem history_of_world (h : World.Reachable (postEvents settings) .empty requests w) :
    History (occurrences w.successes) w.committed := by
  rw [postEvents_eq] at h
  exact (history_of_serial (World.serializable (fun _ _ => plan_work) h)).1

/-- A history leads to a reachable database. -/
theorem History.reachable {trace : List Occurrence} (h : History trace db) : Reachable db := by
  induction h with
  | empty => exact ⟨_, .empty⟩
  | snoc _ now event ih =>
    obtain ⟨_, hrun⟩ := ih
    exact ⟨_, hrun.ingest now [event]⟩

/-- The steps of the clients lead to a later database. -/
theorem later_of_steps (h : World.Reachable (postEvents settings) .empty requests w)
    (hsteps : Relation.ReflTransGen (World.Step (postEvents settings)) w w') :
    Later w.committed w'.committed := by
  have hdb := (history_of_world h).reachable
  rw [postEvents_eq] at h hsteps
  obtain ⟨log, -, hserial⟩ := World.serial_between (fun _ _ => plan_work) h hsteps
  exact later_of_serial hdb hserial

end

/-- The answer to an event names the stored one, and reports a conflict when the two differ. -/
theorem History.judged {trace : List Occurrence} {db : Database} (h : History trace db) :
    ∀ o ∈ trace, ∃ row, db.events.find? o.1.event_id = some row ∧
      o.2.transaction_id = row.transaction_id ∧
        (o.2.payload_conflict = false ↔ row.entry = o.1.entry) := by
  induction h with
  | empty =>
    intro o ho
    cases ho
  | @snoc trace db _ now event ih =>
    intro o ho
    rcases List.mem_append.1 ho with ho | ho
    · obtain ⟨row, hrow, hjudged⟩ := ih o ho
      exact ⟨row, by rw [Database.find?_events_apply, hrow, Option.some_or], hjudged⟩
    · obtain rfl := List.mem_singleton.1 ho
      simp only [Database.find?_events_apply, if_true]
      cases he : db.events.find? event.event_id with
      | some existing =>
        -- A replay conflicts when the stored payload differs, which is to say its entry.
        refine ⟨existing, rfl, by rw [Database.result_of_stored he]; rfl, ?_⟩
        rw [Database.result_of_stored he, duplicateResult, payloadDiffers_eq (Table.key_of_find? he),
          decide_eq_false_iff_not, not_not]
      | none =>
        rw [Database.result_of_new he]
        exact ⟨event.eventRow now, rfl, rfl, iff_of_true rfl rfl⟩

/-- What is stored stays stored. -/
theorem Grows.find?_events {db db' : Database} (h : Grows db db') {id : String} {row : EventRow}
    (hrow : db.events.find? id = some row) : db'.events.find? id = some row := by
  obtain ⟨hmem, hid⟩ := Table.find?_eq_some.1 hrow
  exact Table.find?_eq_some.2 ⟨h.events.subset hmem, hid⟩

/-! ## Details -/

section

variable {db db' s s' : Database} {transaction_id : String} {now now' : Utc} {hours hours' : ℕ}

/-- A transaction with a row is found. -/
theorem getTransaction_of_find? (hdb : Reachable db) {t : TransactionRow}
    (ht : db.transactions.find? transaction_id = some t) :
    ∃ name, getTransaction db transaction_id = some (t, name) := by
  obtain ⟨m, hm⟩ := hdb.projected.merchant_of_transaction (Table.mem_of_find? ht)
  exact ⟨m.merchant_name, by rw [getTransaction, ht, Option.bind_some, hm, Option.map_some]⟩

/-- The request for a transaction that has a row is answered with a row and events, which are those of
the database at its start or of later ones. -/
theorem getTransactionDetail_found (hdb : Reachable db) {t : TransactionRow}
    (ht : db.transactions.find? transaction_id = some t) {cutoff : Utc}
    (hcutoff : now.minusHours hours = some cutoff) {seen : List Database}
    {r : Except AppError TransactionDetail}
    (h : Reading.Reads Ingests (getTransactionDetail transaction_id now hours) db seen r) :
    ∃ s s' row, Later db s ∧ Later s s' ∧ seen.getLastD db = s' ∧
      getTransaction s transaction_id = some row ∧
      r = .ok (transactionDetail row cutoff (getTransactionEvents transaction_id s')) := by
  -- The first statement reads the row, which no batch has removed.
  obtain ⟨s, seen', rfl, hlater, hrest⟩ := Reading.Reads.stmt_inv h
  obtain ⟨t', ht', -⟩ := (Later.grows hdb hlater).transactions _ t ht
  obtain ⟨name, hrow⟩ := getTransaction_of_find? (Later.reachable hdb hlater) ht'
  change Reading.Reads Ingests ((getTransaction s transaction_id).elim _ _) s seen' _ at hrest
  rw [hrow, Option.elim_some, hcutoff, Option.elim_some] at hrest
  -- The second one reads the events, perhaps after more batches.
  obtain ⟨s', seen'', rfl, hlater', hend⟩ := Reading.Reads.stmt_inv hrest
  obtain ⟨rfl, rfl⟩ := Reading.Reads.ret_inv hend
  exact ⟨s, s', _, hlater, hlater', rfl, hrow, rfl⟩

/-- The details list the events of the log of the transaction. -/
theorem mem_getTransactionEvents {e : EventOut} :
    e ∈ getTransactionEvents transaction_id db ↔ ∃ row ∈ db.log transaction_id, eventOut row = e := by
  rw [(getTransactionEvents_perm transaction_id db).mem_iff, List.mem_map]

/-- A stored event is shown once. -/
theorem filter_getTransactionEvents {id : String} {row : EventRow}
    (hrow : db.events.find? id = some row) :
    ((getTransactionEvents row.transaction_id db).filter fun e => e.event_id = id) =
      [eventOut row] := by
  have hlog : ((db.log row.transaction_id).filter fun e => e.event_id = id) = [row] := by
    have hone := db.events.filter_key id
    rw [hrow, Option.toList_some] at hone
    rw [Database.log, List.filter_comm, hone, List.filter_singleton]
    simp
  have hperm := (getTransactionEvents_perm row.transaction_id db).filter fun e => e.event_id = id
  rw [List.filter_map] at hperm
  refine List.perm_singleton.1 (hperm.trans (.of_eq ?_))
  exact congrArg (List.map eventOut) hlog

/-- The answer to a request for a transaction that was shown before: found, and after what was shown. -/
theorem getTransactionDetail_advances (hdb : Reachable db) {t : TransactionRow}
    (ht : db.transactions.find? transaction_id = some t) {cutoff : Utc}
    (hcutoff : now.minusHours hours = some cutoff) {seen : List Database}
    {r : Except AppError TransactionDetail}
    (h : Reading.Reads Ingests (getTransactionDetail transaction_id now hours) db seen r) :
    ∃ detail t' name, r = .ok detail ∧ detail.toTransactionOut = transactionOut (t', name) ∧
      Advances t t' ∧ t'.transaction_id = transaction_id ∧
      (∀ row ∈ db.log transaction_id, eventOut row ∈ detail.events) ∧
      ∀ type : DiscrepancyType, type.Lasting → ∀ c, Found c t type → type ∈ detail.discrepancies := by
  obtain ⟨s, s', row, hlater, hlater', -, hrow, rfl⟩ :=
    getTransactionDetail_found hdb ht hcutoff h
  have hs := hlater.reachable hdb
  have hfind := getTransaction_eq_some hrow
  obtain ⟨hmem, hid⟩ := Table.find?_eq_some.1 hfind
  obtain ⟨t', ht', hadv⟩ := (hlater.grows hdb).transactions _ t ht
  obtain rfl : row.1 = t' := Option.some.inj (hfind.symm.trans ht')
  refine ⟨_, row.1, row.2, rfl, rfl, hadv, hid, fun event hevent => ?_, fun type hlast c hfound => ?_⟩
  · -- The events are read after the row, and those of the log are still there.
    obtain ⟨hstored, hof⟩ := Database.mem_log.1 hevent
    have hgrows := (hlater.grows hdb).trans (hlater'.grows hs)
    exact mem_getTransactionEvents.2
      ⟨event, Database.mem_log.2 ⟨hgrows.events.subset hstored, hof⟩, rfl⟩
  · exact (mem_discrepancyTypesForTransaction (hs.checked _ hmem)
      (hs.projected.occurrence_ne_empty hfind) _ type).2 (hadv.found hlast hfound _)

end

/-- An event that was acknowledged is visible. Whenever the detail of the transaction that an
acknowledgement names is requested in a later world, among any commits, the transaction is found, and it
shows the event once; what it shows is what was posted exactly when no conflict was reported. -/
theorem acknowledged_visible {κ : Type} [DecidableEq κ] {settings : Settings}
    {requests : κ → List Request} {w w' : World κ Request Database EventRow AppError Response}
    (h : World.Reachable (postEvents settings) .empty requests w)
    (hsteps : Relation.ReflTransGen (World.Step (postEvents settings)) w w')
    {o : Occurrence} (ho : o ∈ occurrences w.successes) {now : Utc} {hours : ℕ} {cutoff : Utc}
    (hcutoff : now.minusHours hours = some cutoff) {seen : List Database}
    {r : Except AppError TransactionDetail}
    (hreads : Reading.Reads Ingests (getTransactionDetail o.2.transaction_id now hours) w'.committed
      seen r) :
    ∃ detail, r = .ok detail ∧ detail.transaction_id = o.2.transaction_id ∧
      ∃ e, (detail.events.filter fun e => e.event_id = o.1.event_id) = [e] ∧
        (o.2.payload_conflict = false ↔ e.entry = o.1.entry) := by
  have hist := history_of_world h
  have hlater := later_of_steps h hsteps
  have hdb := hlater.reachable hist.reachable
  -- The event under the acknowledged id, and the row of its transaction in the later world.
  obtain ⟨row, hrow, hof, hjudged⟩ := hist.judged o ho
  obtain ⟨t, ht⟩ := hist.transaction_of_stored hrow
  obtain ⟨t', ht', -⟩ := (hlater.grows hist.reachable).transactions _ t ht
  rw [hof] at hreads ⊢
  obtain ⟨s, s', found, hs, hs', -, hfound, rfl⟩ :=
    getTransactionDetail_found hdb ht' hcutoff hreads
  have hgrows := Later.grows hist.reachable (hlater.trans (hs.trans hs'))
  have hid : found.1.transaction_id = row.transaction_id :=
    Table.key_of_find? (getTransaction_eq_some hfound)
  -- The stored event is shown as it was when the replay was compared with it.
  refine ⟨_, rfl, hid, eventOut row, ?_, hjudged⟩
  exact filter_getTransactionEvents (hgrows.find?_events hrow)

/-- A client posts an event together with its replay, and the transaction is read. -/
theorem acknowledged_visible_replayed :
    ∃ w : World Bool Request Database EventRow AppError Response,
      World.Reachable (postEvents {}) .empty
          (fun c => if c then [⟨"", .array [exampleEvent, exampleEvent]⟩] else []) w ∧
        ∃ seen detail, Reading.Reads Ingests
            (getTransactionDetail exampleEvent.transaction_id fourDaysLater 48) w.committed seen
              (.ok detail) ∧
          ∃ e, (detail.events.filter fun e => e.event_id = exampleEvent.event_id) = [e] := by
  let request : Request := ⟨"", .array [exampleEvent, exampleEvent]⟩
  obtain ⟨body, hplan⟩ : ∃ body, plan {} request = .ok body := ⟨_, rfl⟩
  obtain ⟨w, hsteps, hcommitted, _, _, ha⟩ := World.completes hplan (plan_work hplan)
    (show (World.start Database.empty fun c => if c then [request] else []).sessions true =
      ⟨[_], none⟩ from rfl) rfl (plan_eval hplan Run.empty.history.checked)
  rw [← postEvents_eq] at hsteps
  have hsuccesses : ∃ response : Response, w.successes = [(request, response)] ∧
      (exampleEvent, response.body.results) ∈ [(exampleEvent, Database.empty.results ""
        [exampleEvent, exampleEvent])] := by
    refine ⟨_, by rw [World.successes, ha]; rfl, ?_⟩
    exact List.mem_singleton_self _
  obtain ⟨response, hsuccesses, hresults⟩ := hsuccesses
  have hresults := (Prod.mk.inj (List.mem_singleton.1 hresults)).2
  have ho : (exampleEvent, Database.empty.result "" exampleEvent) ∈ occurrences w.successes := by
    rw [hsuccesses, occurrences, List.flatMap_singleton, hresults]
    exact List.mem_cons_self
  obtain ⟨row, hrow⟩ : ∃ row, getTransaction w.committed exampleEvent.transaction_id = some row := by
    rw [hcommitted]
    exact ⟨_, rfl⟩
  have hreads := getTransactionDetail_reads .refl hrow fourDaysLater_minusHours
  obtain ⟨detail, hdetail, -, e, he, -⟩ :=
    acknowledged_visible hsteps .refl ho fourDaysLater_minusHours hreads
  exact ⟨w, hsteps, _, detail, hdetail ▸ hreads, e, he⟩

/-- Details only move on. Of two requests for the details of a transaction, the second one sent after the
first one was answered, the second one finds the transaction and shows every event that the first one has
shown; its row counts them, and has the times of each type that they have; and none of the counters, the
statuses, and the lasting discrepancies of the first one goes back. Batches may commit at any time, also
between the statements of the requests. -/
theorem detail_monotonic {db db' : Database} (hdb : Reachable db) {transaction_id : String}
    {now now' cutoff' : Utc} {hours hours' : ℕ} {seen seen' : List Database}
    {detail : TransactionDetail} {r : Except AppError TransactionDetail}
    (hfirst : Reading.Reads Ingests (getTransactionDetail transaction_id now hours) db seen
      (.ok detail)) (hlater : Later (seen.getLastD db) db')
    (hcutoff : now'.minusHours hours' = some cutoff')
    (hsecond : Reading.Reads Ingests (getTransactionDetail transaction_id now' hours') db' seen' r) :
    ∃ detail', r = .ok detail' ∧ detail.events ⊆ detail'.events ∧
      detail.events.length ≤ detail'.event_count ∧ detail.event_count ≤ detail'.event_count ∧
      (∀ type, Earlier (detail.times type).min? (detail'.occurrence type)) ∧
      detail.duplicate_event_count ≤ detail'.duplicate_event_count ∧
      detail.status.rank ≤ detail'.status.rank ∧ detail.payment_status.Le detail'.payment_status ∧
      (detail.settlement_status = .settled → detail'.settlement_status = .settled) ∧
      (detail'.merchant_id, detail'.amount_minor, detail'.currency) =
        (detail.merchant_id, detail.amount_minor, detail.currency) ∧
      ∀ type ∈ detail.discrepancies, type.Lasting → type ∈ detail'.discrepancies := by
  have hseen := hfirst.later_of_mem
  obtain ⟨s, s', row, cutoff, rfl, hlater', hrow, rfl⟩ := getTransactionDetail_inv hfirst
  have hs : Reachable s := Later.reachable hdb (hseen s List.mem_cons_self)
  have hs' := hlater'.reachable hs
  have hdb' : Reachable db' := Later.reachable hs' hlater
  have hfind := getTransaction_eq_some hrow
  -- The row when the events of the first request were read, and when the second request begins.
  obtain ⟨u, hu, hadv⟩ := (hlater'.grows hs).transactions _ row.1 hfind
  obtain ⟨v, hv, hadv'⟩ := (Later.grows hs' hlater).transactions _ u hu
  obtain ⟨detail', t, name, rfl, hout, hadv'', -, hevents, hfound⟩ :=
    getTransactionDetail_advances hdb' hv hcutoff hsecond
  have hu' := hadv'.trans hadv''
  have ht := hadv.trans hu'
  have hproj : Projects (s'.log transaction_id) u := hs'.projected.projects _ _ hu
  -- The first request shows as many events as the row counted when they were read.
  have hcount : (getTransactionEvents transaction_id s').length = u.event_count := by
    rw [(getTransactionEvents_perm transaction_id s').length_eq, List.length_map, hproj.event_count]
  have hshown : detail'.event_count = t.event_count ∧
      detail'.duplicate_event_count = t.duplicate_event_count ∧ detail'.status = t.status ∧
      detail'.payment_status = t.payment_status ∧
      detail'.settlement_status = t.settlement_status ∧
      (detail'.merchant_id, detail'.amount_minor, detail'.currency) =
        (t.merchant_id, t.amount_minor, t.currency) ∧
      ∀ type, detail'.occurrence type = t.occurrence type := by
    rw [hout]
    exact ⟨rfl, rfl, rfl, rfl, rfl, rfl, fun type => by cases type <;> rfl⟩
  obtain ⟨hec, hdc, hst, hps, hss, hkept, hocc⟩ := hshown
  refine ⟨detail', rfl, fun e he => ?_, ?_, ?_, fun type => ?_, ?_, ?_, ?_, ?_, ?_,
    fun type htype hlast => ?_⟩
  · obtain ⟨event, hevent, rfl⟩ := mem_getTransactionEvents.1 he
    obtain ⟨hstored, hof⟩ := Database.mem_log.1 hevent
    exact hevents event
      (Database.mem_log.2 ⟨(Later.grows hs' hlater).events.subset hstored, hof⟩)
  · rw [hec]
    exact hcount.trans_le hu'.event_count
  · exact hec ▸ ht.event_count
  · rw [hocc, min?_perm (times_transactionDetail row cutoff type), ← hproj.occurrence type]
    exact hu'.occurrence type
  · exact hdc ▸ ht.duplicate_event_count
  · exact hst ▸ ht.status
  · exact hps ▸ ht.payment_status
  · exact fun h => hss ▸ ht.settlement_status h
  · rw [hkept, ht.merchant_id, ht.amount_minor, ht.currency]
    rfl
  · have hmem := (Table.find?_eq_some.1 hfind).1
    have hhas := (mem_discrepancyTypesForTransaction (hs.checked _ hmem)
      (hs.projected.occurrence_ne_empty hfind) _ type).1 htype
    -- A lasting type is found whatever the cutoff.
    exact hfound type hlast (formatTs cutoff) ((hadv.trans hadv').found hlast hhas _)

/-- The first request is torn: a batch commits between its row and its events. -/
theorem detail_monotonic_torn :
    ∃ (seen : List Database) (first second : TransactionDetail),
      Reading.Reads Ingests (getTransactionDetail exampleEvent.transaction_id fourDaysLater 48)
        onceInitiated seen (.ok first) ∧
        first.event_count = 1 ∧ first.events.length = 2 ∧ first.events ⊆ second.events ∧
          first.events.length ≤ second.event_count := by
  let repriced := onceInitiated.applyAll "" [repricedEvent]
  obtain ⟨row, hrow, hone⟩ : ∃ row, getTransaction onceInitiated exampleEvent.transaction_id =
      some row ∧ row.1.event_count = 1 := ⟨_, rfl, rfl⟩
  obtain ⟨row', hrow'⟩ : ∃ row, getTransaction repriced exampleEvent.transaction_id = some row :=
    ⟨_, rfl⟩
  have hfirst := getTransactionDetail_reads later_onceInitiated hrow fourDaysLater_minusHours
  have hsecond := getTransactionDetail_reads .refl hrow' fourDaysLater_minusHours
  have htwo : (getTransactionEvents exampleEvent.transaction_id repriced).length = 2 := by
    decide +kernel
  obtain ⟨second, -, hevents, hcount, -⟩ := detail_monotonic reachable_onceInitiated hfirst .refl
    fourDaysLater_minusHours hsecond
  exact ⟨_, _, second, hfirst, hone, htwo, hevents, hcount⟩

/-! ## Listings -/

section

variable {db : Database} {seen : List Database}

/-- A request for events that is answered shows stored ones. -/
theorem stored_of_listEvents {query : EventQuery} {response : EventListResponse}
    (h : Reading.Reads Ingests (listEvents query) db seen (.ok response)) :
    Later db (seen.getLastD db) ∧
      ∀ e ∈ response.items, ∃ row ∈ (seen.getLastD db).events.rows, eventOut row = e := by
  cases hq : query.where_ with
  | error e =>
    rw [listEvents, hq] at h
    cases (Reading.Reads.ret_inv h).2
  | ok clauses =>
    obtain ⟨s, s', rfl, hlater, hitems, -⟩ := listEvents_inv hq h
    refine ⟨hlater, fun e he => ?_⟩
    rw [hitems] at he
    obtain ⟨row, hrow, rfl⟩ := List.mem_map.1 ((page_sublist _ _ _).subset he)
    rw [mem_orderBy, List.mem_filter] at hrow
    exact ⟨row, hrow.1, rfl⟩

/-- A request for transactions that is answered shows rows. -/
theorem row_of_getTransactions {query : TransactionQuery} {response : TransactionListResponse}
    (h : Reading.Reads Ingests (getTransactions query) db seen (.ok response)) :
    Later db (seen.getLastD db) ∧ ∀ item ∈ response.items, ∃ t name,
      t ∈ (seen.getLastD db).transactions.rows ∧ transactionOut (t, name) = item := by
  cases hq : query.accepted with
  | error e =>
    -- The request raises what its parameters are rejected with.
    rw [getTransactions] at h
    rw [TransactionQuery.accepted] at hq
    cases hw : query.where_ with
    | error e' =>
      rw [hw] at h
      cases (Reading.Reads.ret_inv h).2
    | ok where_ =>
      rw [hw, Except.bind] at hq
      rw [hw, Reading.calling_ok_bind] at h
      split_ifs at hq with hfits
      simp only [Condition.query, if_neg hfits] at h
      cases (Reading.Reads.ret_inv h).2
  | ok where_ =>
    obtain ⟨s, s', rfl, -, hlater, hitems, -⟩ := getTransactions_inv hq h
    refine ⟨hlater, fun item hitem => ?_⟩
    rw [hitems] at hitem
    obtain ⟨r, hr, rfl⟩ := List.mem_map.1 hitem
    have hrow : r ∈ transactionRows where_ query.sort_by query.sort_order s' :=
      (page_sublist _ _ _).subset hr
    exact ⟨r.1, r.2, (mem_transactionRows.1 hrow).1, rfl⟩

/-- A request for a report that is answered shows rows with the types that they have. -/
theorem row_of_readDiscrepancyReport {query : DiscrepancyQuery} {now : Utc}
    {response : DiscrepancyResponse} (hdb : Reachable db)
    (h : Reading.Reads Ingests (readDiscrepancyReport now query) db seen (.ok response)) :
    Later db (seen.getLastD db) ∧ ∀ item ∈ response.items, ∃ t cutoff,
      t ∈ (seen.getLastD db).transactions.rows ∧ item.transaction_id = t.transaction_id ∧
        ∀ type ∈ item.discrepancy_types, Found cutoff t type := by
  rw [readDiscrepancyReport] at h
  cases hcutoff : (query.as_of.getD now).minusHours query.stale_after_hours with
  | none =>
    rw [hcutoff, Option.elim_none] at h
    cases (Reading.Reads.ret_inv h).2
  | some cutoff =>
    rw [hcutoff, Option.elim_some, Reading.calling_ok_bind] at h
    have hlater := h.later_of_mem
    obtain ⟨s, _, rfl, _, h⟩ := Reading.Reads.stmt_inv h
    obtain ⟨s', _, rfl, _, h⟩ := Reading.Reads.stmt_inv h
    obtain ⟨s'', _, rfl, _, h⟩ := Reading.Reads.stmt_inv h
    obtain ⟨rfl, hresponse⟩ := Reading.Reads.ret_inv h
    obtain rfl := Except.ok.inj hresponse
    have hs'' : Later db s'' := hlater s'' (by simp)
    refine ⟨hs'', fun item hitem => ?_⟩
    -- The severity is applied to the page.
    have hmem : item ∈ (discrepancies s'' query.filter query.selectedTypes (formatTs cutoff)
        query.sort_by query.sort_order query.limit query.offset).items := by
      revert hitem
      rw [DiscrepancyQuery.shape]
      cases query.severity with
      | none => exact id
      | some severity => exact fun hitem => (List.mem_filter.1 hitem).1
    obtain ⟨r, hr, _, rfl⟩ := mem_items hmem
    obtain ⟨t, m, ht, _, _, rfl⟩ := mem_flagged.1 hr
    exact ⟨t, formatTs cutoff, ht, rfl, fun type htype =>
      ((mem_present (hs''.reachable hdb).checked hr).1 htype).1⟩

end

/-- What a listing has shown is found later. When the detail of a transaction is requested after a listing
was answered, the transaction is found if the listing showed an event of it, and the detail shows the
event; if the listing showed its row, and the row of the detail comes after it; and if it was reported, and
the detail has its lasting types. Batches may commit at any time, also between the statements of the
requests. -/
theorem shown_found {db db' : Database} (hdb : Reachable db) {transaction_id : String}
    {now cutoff : Utc} {hours : ℕ} (hcutoff : now.minusHours hours = some cutoff)
    {seen seen' : List Database} (hlater : Later (seen.getLastD db) db')
    {r : Except AppError TransactionDetail}
    (hreads : Reading.Reads Ingests (getTransactionDetail transaction_id now hours) db' seen' r) :
    (∀ query response, Reading.Reads Ingests (listEvents query) db seen (.ok response) →
        ∀ e ∈ response.items, e.transaction_id = transaction_id →
          ∃ detail, r = .ok detail ∧ e ∈ detail.events) ∧
      (∀ query response, Reading.Reads Ingests (getTransactions query) db seen (.ok response) →
        ∀ item ∈ response.items, item.transaction_id = transaction_id → ∃ detail t t' name name',
          r = .ok detail ∧ transactionOut (t, name) = item ∧
            transactionOut (t', name') = detail.toTransactionOut ∧ Advances t t') ∧
      ∀ now query response,
        Reading.Reads Ingests (readDiscrepancyReport now query) db seen (.ok response) →
          ∀ item ∈ response.items, item.transaction_id = transaction_id →
            ∃ detail, r = .ok detail ∧
              ∀ type ∈ item.discrepancy_types, type.Lasting → type ∈ detail.discrepancies := by
  refine ⟨fun query response h e he hid => ?_, fun query response h item hitem hid => ?_,
    fun now query response h item hitem hid => ?_⟩
  · -- A listed event is stored, so that its transaction has a row.
    obtain ⟨hseen, hstored⟩ := stored_of_listEvents h
    obtain ⟨row, hrow, rfl⟩ := hstored e he
    have hs := hseen.reachable hdb
    obtain ⟨_, hrun⟩ := hs
    obtain ⟨t, ht⟩ := hrun.history.transaction_of_stored (Table.find?_key hrow)
    have hs : Reachable (seen.getLastD db) := ⟨_, hrun⟩
    obtain ⟨t', ht', -⟩ := (hlater.grows hs).transactions _ t ht
    obtain rfl : row.transaction_id = transaction_id := hid
    obtain ⟨detail, _, _, rfl, -, -, -, hevents, -⟩ :=
      getTransactionDetail_advances (hlater.reachable hs) ht' hcutoff hreads
    exact ⟨detail, rfl, hevents row
      (Database.mem_log.2 ⟨(hlater.grows hs).events.subset hrow, rfl⟩)⟩
  · -- A listed row has only moved on.
    obtain ⟨hseen, hrows⟩ := row_of_getTransactions h
    obtain ⟨t, name, ht, rfl⟩ := hrows item hitem
    have hs := hseen.reachable hdb
    obtain rfl : t.transaction_id = transaction_id := hid
    obtain ⟨t', ht', hadv⟩ := (hlater.grows hs).transactions _ t (Table.find?_key ht)
    obtain ⟨detail, t'', name', rfl, hout, hadv', -, -, -⟩ :=
      getTransactionDetail_advances (hlater.reachable hs) ht' hcutoff hreads
    exact ⟨detail, t, t'', name, name', rfl, rfl, hout.symm, hadv.trans hadv'⟩
  · -- So has a reported one, with the types that last.
    obtain ⟨hseen, hrows⟩ := row_of_readDiscrepancyReport hdb h
    obtain ⟨t, c, ht, hof, hfound⟩ := hrows item hitem
    have hs := hseen.reachable hdb
    obtain rfl : t.transaction_id = transaction_id := hof.symm.trans hid
    obtain ⟨t', ht', hadv⟩ := (hlater.grows hs).transactions _ t (Table.find?_key ht)
    obtain ⟨detail, _, _, rfl, -, -, -, -, hlasting⟩ :=
      getTransactionDetail_advances (hlater.reachable hs) ht' hcutoff hreads
    exact ⟨detail, rfl, fun type htype hlast =>
      hlasting type hlast c (hadv.found hlast (hfound type htype) c)⟩

/-- An event is listed, another one is committed, and the detail shows the listed one. -/
theorem shown_found_repriced : ∃ (response : EventListResponse) (detail : TransactionDetail),
    Reading.Reads Ingests (listEvents {}) onceInitiated [onceInitiated, onceInitiated]
        (.ok response) ∧
      ∃ e ∈ response.items, e ∈ detail.events := by
  obtain ⟨row, hrow⟩ : ∃ row, getTransaction (onceInitiated.applyAll "" [repricedEvent])
      exampleEvent.transaction_id = some row := ⟨_, rfl⟩
  have hlist := listEvents_reads (.refl : Later onceInitiated onceInitiated)
    (show ({} : EventQuery).where_ = .ok [] from rfl)
  have hdetail := getTransactionDetail_reads .refl hrow fourDaysLater_minusHours
  have hlater : Later ([onceInitiated, onceInitiated].getLastD onceInitiated)
      (onceInitiated.applyAll "" [repricedEvent]) := later_onceInitiated
  have hfound := (shown_found reachable_onceInitiated fourDaysLater_minusHours hlater hdetail).1 _ _
    hlist
  obtain ⟨detail, -, hmem⟩ := hfound _ List.mem_cons_self rfl
  exact ⟨_, detail, hlist, _, List.mem_cons_self, hmem⟩

end PaymentRecon
