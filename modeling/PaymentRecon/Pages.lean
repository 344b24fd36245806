import PaymentRecon.EventLog
import PaymentRecon.Severities

/-!
# Paging covers every row

The three listings page through a sorted result: the transactions, the events, and the discrepancies
without a severity. Each sorts by a key of its own and breaks ties by the primary key, so that the
order is total and the pages at the multiples of the limit show every row once; the discrepancies break
ties by a second key first. A request that is refused is refused at every offset, before anything is
read. The offsets are those below 2^63: a greater one is no 64-bit integer, and `execute` raises an
`OverflowError` instead of returning a page.

A report without `as_of` is computed at the time of its request, so its pages fit together only as
long as the cutoff is the same (`paging_covers`, and `paging_breaks` for when it is not).
-/

namespace PaymentRecon

open Store Sql

/-! ## Transactions -/

/-- The condition of a request that is accepted: the checks of the route pass, and SQLite can bind the
parameters. -/
def TransactionQuery.accepted (query : TransactionQuery) : Except AppError Condition :=
  query.where_.bind fun where_ =>
    if where_.params.all fun p => p.2.fits then .ok where_ else .error .overflow

/-- The list of a database that stays as it is. -/
theorem eval_getTransactions (query : TransactionQuery) (db : Database) :
    (getTransactions query).eval db = query.accepted.map fun where_ =>
      let rows := listTransactions where_ query.sort_by query.sort_order query.limit query.offset db
      ⟨pageMeta query.limit query.offset (countTransactions where_ db) rows.length,
        rows.map transactionOut⟩ := by
  rw [getTransactions, Reading.eval_calling_bind, TransactionQuery.accepted]
  cases query.where_ with
  | error e => rfl
  | ok where_ =>
    simp only [Except.bind]
    by_cases hfits : (where_.params.all fun p => p.2.fits) = true
    · simp only [Condition.query, if_pos hfits]
      rfl
    · simp only [Condition.query, if_neg hfits]
      rfl

/-- The request for the page at an offset. -/
def TransactionQuery.request (query : TransactionQuery) (db : Database) (offset : ℕ) :
    Except AppError (Answer TransactionOut) :=
  ((getTransactions { query with offset := offset }).eval db).map fun response =>
    ⟨response.items, response.pagination.total, response.pagination.has_more⟩

section

variable {query : TransactionQuery}

/-- A request that is not accepted is refused before anything is read. -/
theorem request_of_error {e : AppError} (h : query.accepted = .error e) (db : Database)
    (offset : ℕ) : query.request db offset = .error e := by
  have haccepted : ({ query with offset := offset } : TransactionQuery).accepted = .error e := h
  rw [TransactionQuery.request, eval_getTransactions, haccepted]
  rfl

/-- A request that is accepted is answered. -/
theorem request_of_ok {where_ : Condition} (h : query.accepted = .ok where_) (db : Database)
    (offset : ℕ) :
    query.request db offset =
      let rows := listTransactions where_ query.sort_by query.sort_order query.limit offset db
      .ok ⟨rows.map transactionOut, countTransactions where_ db,
        decide (offset + rows.length < countTransactions where_ db)⟩ := by
  have haccepted : ({ query with offset := offset } : TransactionQuery).accepted = .ok where_ := h
  rw [TransactionQuery.request, eval_getTransactions, haccepted]
  rfl

/-- The list shows the transactions that the condition selects. -/
theorem shows_transactions {db : Database} (hp : db.Projected) (hl : 0 < query.limit)
    {where_ : Condition} (h : query.accepted = .ok where_) :
    ∃ rows : List (TransactionRow × String),
      (rows.map Prod.fst).Perm (db.transactions.rows.filter where_.selects) ∧
      SortedBy ⟨fun r => query.sort_by.column r.1, query.sort_order == .desc⟩
        (fun r r' => r.1.transaction_id < r'.1.transaction_id) rows ∧
      Shows (query.request db) query.limit (rows.map transactionOut) := by
  let matching := db.joined.filter fun r => where_.selects r.1
  let rows := orderBy (query.sort_by.keys query.sort_order) matching
  have hmatching : matching.map Prod.fst = db.transactions.rows.filter where_.selects :=
    hp.joined_filter_map_fst _
  have hperm : (rows.map Prod.fst).Perm (db.transactions.rows.filter where_.selects) :=
    hmatching ▸ (perm_orderBy _ _).map _
  have hids : (matching.map fun r => r.1.transaction_id).Nodup :=
    db.transactions.nodup_of_map_eq_filter hmatching
  refine ⟨rows, hperm, sortedBy_orderBy hids, shows_of_page hl fun offset => ?_⟩
  -- The count without the join and the rows with it are as many.
  have htotal : countTransactions where_ db = (rows.map transactionOut).length := by
    rw [countTransactions, ← hperm.length_eq, List.length_map, List.length_map]
  rw [request_of_ok h, htotal]
  simp only [listTransactions, ← map_page, List.length_map]
  rfl

end

/-! ## Events -/

/-- The listing of a database that stays as it is. -/
theorem eval_listEvents (query : EventQuery) (db : Database) :
    (listEvents query).eval db = query.where_.map fun clauses =>
      let matching := db.events.rows.filter (selectsEvent clauses)
      let items := (page query.limit query.offset (orderBy eventKeys matching)).map eventOut
      ⟨pageMeta query.limit query.offset matching.length items.length, items⟩ := by
  rw [listEvents, Reading.eval_calling_bind]
  cases query.where_ <;> rfl

/-- The request for the page at an offset. -/
def EventQuery.request (query : EventQuery) (db : Database) (offset : ℕ) :
    Except AppError (Answer EventOut) :=
  ((listEvents { query with offset := offset }).eval db).map fun response =>
    ⟨response.items, response.pagination.total, response.pagination.has_more⟩

section

variable {query : EventQuery}

/-- A request that is not accepted is refused before anything is read. -/
theorem eventRequest_of_error {e : AppError} (h : query.where_ = .error e) (db : Database)
    (offset : ℕ) : query.request db offset = .error e := by
  have hwhere : ({ query with offset := offset } : EventQuery).where_ = .error e := h
  rw [EventQuery.request, eval_listEvents, hwhere]
  rfl

/-- The listing shows the events that the condition selects. -/
theorem shows_events (db : Database) (hl : 0 < query.limit) {clauses : List EventClause}
    (h : query.where_ = .ok clauses) :
    ∃ rows : List EventRow, rows.Perm (db.events.rows.filter (selectsEvent clauses)) ∧
      SortedBy ⟨fun row => some (.text row.occurred_at), true⟩
        (fun row row' => row.event_id < row'.event_id) rows ∧
      Shows (query.request db) query.limit (rows.map eventOut) := by
  let matching := db.events.rows.filter (selectsEvent clauses)
  have hids : (matching.map EventRow.event_id).Nodup :=
    db.events.nodup_keys.sublist (List.filter_sublist.map _)
  have htotal : matching.length = ((orderBy eventKeys matching).map eventOut).length := by
    rw [List.length_map, length_orderBy]
  refine ⟨orderBy eventKeys matching, perm_orderBy _ _, sortedBy_orderBy hids,
    shows_of_page hl fun offset => ?_⟩
  have hwhere : ({ query with offset := offset } : EventQuery).where_ = .ok clauses := h
  rw [← htotal, ← map_page, EventQuery.request, eval_listEvents, hwhere]
  rfl

end

/-! ## Discrepancies -/

instance (cutoff : String) (t : TransactionRow) :
    (type : DiscrepancyType) → Decidable (Found cutoff t type)
  | .settled_after_failure => inferInstanceAs (Decidable (_ ∧ _))
  | .settled_without_processing => inferInstanceAs (Decidable (_ ∧ _))
  | .processed_not_settled => inferInstanceAs (Decidable (_ ∧ _))
  | .stuck_in_initiated => inferInstanceAs (Decidable (_ ∧ _))
  | .conflicting_payment_state => inferInstanceAs (Decidable (_ ∧ _))
  | .amount_mismatch => inferInstanceAs (Decidable (_ = _))
  | .merchant_mismatch => inferInstanceAs (Decidable (_ = _))
  | .duplicate_events => inferInstanceAs (Decidable (_ < _))

/-- The request for the page at an offset, which reads the clock for itself. -/
def DiscrepancyQuery.request (query : DiscrepancyQuery) (db : Database) (now : ℕ → Utc)
    (offset : ℕ) : Except AppError (Answer DiscrepancyItem) :=
  (getDiscrepancies db (now offset) { query with offset := offset }).map fun response =>
    ⟨response.items, response.pagination.total, response.pagination.has_more⟩

/-- The transactions that a report is about: those that the filter selects and that have a
discrepancy of a requested type. -/
def DiscrepancyQuery.matching (query : DiscrepancyQuery) (db : Database) (cutoff : String) :
    List TransactionRow :=
  db.transactions.rows.filter fun t =>
    query.filter.selects t ∧ ∃ type ∈ query.selectedTypes, Found cutoff t type

/-- The key that a report sorts by. -/
def DiscrepancySort.key (sort_by : DiscrepancySort) (sort_order : SortOrder) :
    SortKey FlaggedRow := ⟨fun r => some (sort_by.column r), sort_order == .desc⟩

/-- The key that decides between rows with the same value: the severity, or the last event when the
report sorts by severity. -/
def DiscrepancySort.secondKey (sort_by : DiscrepancySort) : SortKey FlaggedRow :=
  match sort_by with
  | severity => ⟨fun r => some (.text r.t.last_event_at), true⟩
  | _ => ⟨fun r => some (.int r.severity_rank), true⟩

/-- A report is sorted by the column, then by a second key, then by the id. -/
theorem DiscrepancySort.keys_eq (sort_by : DiscrepancySort) (sort_order : SortOrder) :
    sort_by.keys sort_order =
      [sort_by.key sort_order, sort_by.secondKey,
        ⟨fun r => some (.text r.t.transaction_id), false⟩] := by
  cases sort_by <;> rfl

section

variable {db : Database} {query : DiscrepancyQuery}

/-- The flagged rows that a report selects are those of the matching transactions. -/
theorem Database.Projected.selected_map_t (h : db.Projected) (cutoff : String) :
    ((flagged db query.filter cutoff).filter fun r => r.selected query.selectedTypes).map
      FlaggedRow.t = query.matching db cutoff := by
  have hselected : (flagged db query.filter cutoff).filter
      (fun r => r.selected query.selectedTypes) = (flagged db query.filter cutoff).filter
        fun r => ∃ type ∈ query.selectedTypes, Found cutoff r.t type := by
    refine List.filter_congr fun r hr => ?_
    simp only [FlaggedRow.selected, ← flag_eq_one_of_mem hr]
    rw [Bool.eq_iff_iff, List.any_eq_true]
    simp
  let found (t : TransactionRow) : Bool := ∃ type ∈ query.selectedTypes, Found cutoff t type
  calc _ = ((flagged db query.filter cutoff).map FlaggedRow.t).filter found := by
        rw [hselected, List.filter_map]
        rfl
    _ = (db.transactions.rows.filter query.filter.selects).filter found := by
        rw [h.flagged_map_t]
    _ = query.matching db cutoff := by
        rw [List.filter_filter, DiscrepancyQuery.matching]
        refine List.filter_congr fun t _ => ?_
        rw [Bool.and_comm, Bool.decide_and, Bool.decide_eq_true]

/-- A request whose cutoff leaves the years 1 to 9999 is refused. -/
theorem discrepancyRequest_of_none {now : ℕ → Utc} {offset : ℕ}
    (h : (query.as_of.getD (now offset)).minusHours query.stale_after_hours = none)
    (db : Database) : query.request db now offset = .error .overflow := by
  rw [DiscrepancyQuery.request, @getDiscrepancies_of_none (now offset)
    { query with offset := offset } h db]
  rfl

/-- Any other request is answered with a page of the report. -/
theorem discrepancyRequest_of_some {now : ℕ → Utc} {offset : ℕ} {cutoff : Utc}
    (hs : query.severity = none)
    (h : (query.as_of.getD (now offset)).minusHours query.stale_after_hours = some cutoff)
    (db : Database) :
    query.request db now offset =
      .ok ⟨page query.limit offset (query.report db cutoff), (query.report db cutoff).length,
        decide (offset + (page query.limit offset (query.report db cutoff)).length <
          (query.report db cutoff).length)⟩ := by
  have htotal := @discrepancies_total db query.filter query.selectedTypes (formatTs cutoff)
    query.sort_by query.sort_order query.limit offset
  rw [DiscrepancyQuery.request, @getDiscrepancies_of_some (now offset)
    { query with offset := offset } cutoff h db, DiscrepancyQuery.report, List.length_map, ← htotal,
    ← map_page]
  simp only [DiscrepancyQuery.response, hs]
  rfl

/-- What the client of a report receives. -/
theorem clientRequest_of_some {now : ℕ → Utc} {offset : ℕ} {cutoff : Utc}
    (hs : query.severity = none)
    (h : (query.as_of.getD (now offset)).minusHours query.stale_after_hours = some cutoff)
    {more : Bool}
    (hm : decide (offset + min query.limit ((query.report db cutoff).length - offset) <
      (query.report db cutoff).length) = more) :
    (query.request db now offset).map (fun answer => (answer.items, answer.has_more)) =
      .ok (page query.limit offset (query.report db cutoff), more) := by
  rw [discrepancyRequest_of_some hs h, ← hm, length_page]
  rfl

/-- A report that is computed with the same cutoff at every offset is shown. -/
theorem shows_report (hs : query.severity = none) (hl : 0 < query.limit) {now : ℕ → Utc}
    {cutoff : Utc}
    (h : ∀ offset,
      (query.as_of.getD (now offset)).minusHours query.stale_after_hours = some cutoff)
    (db : Database) : Shows (query.request db now) query.limit (query.report db cutoff) :=
  shows_of_page hl fun offset => discrepancyRequest_of_some hs (h offset) db

/-- The rows of a report are those of the matching transactions, in the order of its keys. -/
theorem Database.Projected.sorted_reportRows (hp : db.Projected) (query : DiscrepancyQuery)
    (cutoff : String) :
    let rows := reportRows db query.filter query.selectedTypes cutoff query.sort_by query.sort_order
    (rows.map FlaggedRow.t).Perm (query.matching db cutoff) ∧
      SortedBy (query.sort_by.key query.sort_order)
        (fun r r' => query.sort_by.secondKey.Before r r' ∧
          (query.sort_by.secondKey.column r = query.sort_by.secondKey.column r' →
            r.t.transaction_id < r'.t.transaction_id)) rows := by
  let matching := (flagged db query.filter cutoff).filter fun r => r.selected query.selectedTypes
  have hmatching : matching.map FlaggedRow.t = query.matching db cutoff := hp.selected_map_t _
  have hids : (matching.map fun r => r.t.transaction_id).Nodup :=
    db.transactions.nodup_of_map_eq_filter hmatching
  refine ⟨?_, ?_⟩
  · rw [← hmatching]
    exact (perm_orderBy _ _).map _
  · rw [reportRows, query.sort_by.keys_eq query.sort_order]
    exact sortedBy_orderBy₂ hids

end

/-! ## Paging -/

/-- Paging covers every row once. For every reachable database and every page size: the client of
`GET /transactions`, of `GET /events`, and of `GET /reconciliation/discrepancies` without a severity
and with one cutoff for all requests, is refused alike at every offset that can be bound, or stops with
exactly the matching rows, each once, sorted by the chosen key in the chosen direction with `NULL` last,
and the total and `has_more` are right at every such offset. Ties are in the order of the primary key;
those of the discrepancies are first in the order of their second key. -/
theorem paging_covers {db : Database} (h : Reachable db) :
    (∀ query : TransactionQuery, 0 < query.limit →
      (∀ e, query.accepted = .error e → ∀ offset < 2 ^ 63, query.request db offset = .error e) ∧
      ∀ where_, query.accepted = .ok where_ → ∃ rows : List (TransactionRow × String),
        (rows.map Prod.fst).Perm (db.transactions.rows.filter where_.selects) ∧
        SortedBy ⟨fun r => query.sort_by.column r.1, query.sort_order == .desc⟩
          (fun r r' => r.1.transaction_id < r'.1.transaction_id) rows ∧
        Shows (query.request db) query.limit (rows.map transactionOut)) ∧
    (∀ query : EventQuery, 0 < query.limit →
      (∀ e, query.where_ = .error e → ∀ offset < 2 ^ 63, query.request db offset = .error e) ∧
      ∀ clauses, query.where_ = .ok clauses → ∃ rows : List EventRow,
        rows.Perm (db.events.rows.filter (selectsEvent clauses)) ∧
        SortedBy ⟨fun row => some (.text row.occurred_at), true⟩
          (fun row row' => row.event_id < row'.event_id) rows ∧
        Shows (query.request db) query.limit (rows.map eventOut)) ∧
    ∀ query : DiscrepancyQuery, query.severity = none → 0 < query.limit →
      ∀ (now : ℕ → Utc) (cutoff : Option Utc),
        (∀ offset, (query.as_of.getD (now offset)).minusHours query.stale_after_hours = cutoff) →
        (cutoff = none → ∀ offset < 2 ^ 63, query.request db now offset = .error .overflow) ∧
        ∀ c, cutoff = some c → ∃ rows : List FlaggedRow,
          (rows.map FlaggedRow.t).Perm (query.matching db (formatTs c)) ∧
          SortedBy (query.sort_by.key query.sort_order)
            (fun r r' => query.sort_by.secondKey.Before r r' ∧
              (query.sort_by.secondKey.column r = query.sort_by.secondKey.column r' →
                r.t.transaction_id < r'.t.transaction_id)) rows ∧
          Shows (query.request db now) query.limit
            (rows.map (shapeDiscrepancyRow query.selectedTypes)) := by
  refine ⟨fun query hl => ⟨fun e he offset _ => request_of_error he db offset, fun where_ hw => ?_⟩,
    fun query hl => ⟨fun e he offset _ => eventRequest_of_error he db offset, fun clauses hw => ?_⟩,
    fun query hs hl now cutoff hclock => ⟨?_, ?_⟩⟩
  · exact shows_transactions h.projected hl hw
  · exact shows_events db hl hw
  -- Every request overflows before its statements, at every offset.
  · rintro rfl offset _
    exact discrepancyRequest_of_none (hclock offset) db
  -- The cutoff is the same for every page, and so are the rows.
  · rintro c rfl
    obtain ⟨hperm, hsorted⟩ := h.projected.sorted_reportRows query (formatTs c)
    exact ⟨_, hperm, hsorted, shows_report hs hl hclock db⟩

/-! ## Samples -/

/-- Two transactions that were settled, and one that was initiated. -/
def settledAndStuck : Database :=
  Database.empty.applyAll "" [sampleEvent "4" "d" .settled, sampleEvent "5" "e" .settled,
    sampleEvent "6" "c" .payment_initiated]

/-- The service reaches it by one batch. -/
theorem reachable_settledAndStuck : Reachable settledAndStuck :=
  ⟨_, Run.empty.ingest "" [sampleEvent "4" "d" .settled, sampleEvent "5" "e" .settled,
    sampleEvent "6" "c" .payment_initiated]⟩

/-- Paging by ones through the transactions in the order of their settlement, through the events, and
through the discrepancies of four days later. -/
theorem paging_covers_samples :
    (∃ rows : List (TransactionRow × String),
      (rows.map Prod.fst).Perm (settledAndStuck.transactions.rows.filter
        (Condition.mk [] []).selects) ∧
      Shows ({ sort_by := .settled_at, limit := 1 : TransactionQuery }.request settledAndStuck) 1
        (rows.map transactionOut)) ∧
    (∃ rows : List EventRow,
      rows.Perm (settledAndStuck.events.rows.filter (selectsEvent [.merchant_id "merchant_2"])) ∧
      Shows ({ merchant_id := some "merchant_2", limit := 1 : EventQuery }.request settledAndStuck) 1
        (rows.map eventOut)) ∧
    ∃ rows : List FlaggedRow,
      (rows.map FlaggedRow.t).Perm (pagedQuery.matching settledAndStuck (formatTs twoDaysLater)) ∧
      Shows (pagedQuery.request settledAndStuck fun _ => fourDaysLater) 1
        (rows.map (shapeDiscrepancyRow pagedQuery.selectedTypes)) := by
  obtain ⟨htransactions, hevents, hdiscrepancies⟩ := paging_covers reachable_settledAndStuck
  refine ⟨?_, ?_, ?_⟩
  · obtain ⟨rows, hperm, _, hshows⟩ :=
      (htransactions { sort_by := .settled_at, limit := 1 } (by decide)).2 ⟨[], []⟩ rfl
    exact ⟨rows, hperm, hshows⟩
  · obtain ⟨rows, hperm, _, hshows⟩ :=
      (hevents { merchant_id := some "merchant_2", limit := 1 } (by decide)).2
        [.merchant_id "merchant_2"] rfl
    exact ⟨rows, hperm, hshows⟩
  · obtain ⟨rows, hperm, _, hshows⟩ := (hdiscrepancies pagedQuery rfl (by decide)
      (fun _ => fourDaysLater) _ fun _ => fourDaysLater_minusHours).2 _ rfl
    exact ⟨rows, hperm, hshows⟩

/-- The report by pages of one, sorted by the last event. -/
def latestQuery : DiscrepancyQuery := { sort_by := .last_event_at, limit := 1 }

/-- The report by pages of one, sorted by the transaction. -/
def inOrderQuery : DiscrepancyQuery := { sort_by := .transaction_id, sort_order := .asc, limit := 1 }

/-- The clock of a client whose second request comes two days after the first. -/
def movingClock (offset : ℕ) : Utc := if offset = 0 then twoDaysLater else fourDaysLater

/-- Transactions with the same last event are not in the order of their ids, since the severity comes
first; and a client whose clock moves on receives a transaction twice, since another one that has
become stale stands before it. -/
theorem paging_breaks :
    (¬ ∀ (db : Database) (query : DiscrepancyQuery) (now : Utc), Reachable db →
      query.severity = none → 0 < query.limit → query.sort_by = .last_event_at →
      ∀ pages, ClientLoop (fun offset => (query.request db (fun _ => now) offset).map fun answer =>
          (answer.items, answer.has_more)) query.limit 0 pages →
        pages.flatten.Pairwise fun a b =>
          a.last_event_at = b.last_event_at → a.transaction_id < b.transaction_id) ∧
    ¬ ∀ (db : Database) (query : DiscrepancyQuery) (now : ℕ → Utc), Reachable db →
      query.severity = none → 0 < query.limit →
      ∀ pages, ClientLoop (fun offset => (query.request db now offset).map fun answer =>
          (answer.items, answer.has_more)) query.limit 0 pages →
        (pages.flatten.map DiscrepancyItem.transaction_id).Nodup := by
  refine ⟨fun h => ?_, fun h => ?_⟩
  · obtain ⟨pages, hloop, hflat⟩ := (@shows_report latestQuery rfl (by decide)
      (fun _ => fourDaysLater) twoDaysLater (fun _ => fourDaysLater_minusHours) settledAndStuck).loop
    have hties := h settledAndStuck latestQuery fourDaysLater reachable_settledAndStuck rfl
      (by decide) rfl pages ((hloop pages).2 rfl)
    rw [hflat] at hties
    revert hties
    decide +kernel
  · -- Two transactions are reported at first, and three at last.
    have hearly : (inOrderQuery.report settledAndStuck dayOfTheSamples).length = 2 := by
      decide +kernel
    have hlate : (inOrderQuery.report settledAndStuck twoDaysLater).length = 3 := by
      decide +kernel
    have hfirst := @clientRequest_of_some settledAndStuck inOrderQuery movingClock 0
      dayOfTheSamples rfl twoDaysLater_minusHours true (by rw [hearly]; rfl)
    have hsecond := @clientRequest_of_some settledAndStuck inOrderQuery movingClock 1
      twoDaysLater rfl fourDaysLater_minusHours true (by rw [hlate]; rfl)
    have hthird := @clientRequest_of_some settledAndStuck inOrderQuery movingClock 2
      twoDaysLater rfl fourDaysLater_minusHours false (by rw [hlate]; rfl)
    have hids := h settledAndStuck inOrderQuery movingClock reachable_settledAndStuck rfl
      (by decide) _ (.more hfirst (.more hsecond (.last hthird)))
    revert hids
    decide +kernel

end PaymentRecon
