import PaymentRecon.Irreversible
import PaymentRecon.Pages
import PaymentRecon.Reports
import PaymentRecon.Summary

/-!
# What a response describes

A read request runs its statements outside a transaction, so batches may commit between them. Each
statement sees a committed database, and a later statement sees the same one or a later one; the parts
of a response may then describe different databases (`reads_torn`). When no batch commits between the
first and the last statement, the response describes one database, and its parts agree
(`reads_consistent`).
-/

namespace PaymentRecon

open Store Sql

/-! ## One transaction -/

/-- The lifecycle column of an event type. -/
def TransactionOut.occurrence (t : TransactionOut) : EventType → Option String
  | .payment_initiated => t.initiated_at
  | .payment_processed => t.processed_at
  | .payment_failed => t.failed_at
  | .settled => t.settled_at

/-- The times of the events of one type in a response. -/
def TransactionDetail.times (detail : TransactionDetail) (type : EventType) : List String :=
  (detail.events.filter fun e => e.event_type = type).map EventOut.occurred_at

/-- The row and the events of a response describe one database. -/
structure TransactionDetail.Consistent (detail : TransactionDetail) : Prop where
  /-- The events are counted. -/
  event_count : detail.event_count = detail.events.length
  /-- The lifecycle columns are the first times of their types. -/
  occurrence : ∀ type, detail.occurrence type = (detail.times type).min?
  /-- The first event. -/
  first_event_at : some detail.first_event_at = (detail.events.map EventOut.occurred_at).min?
  /-- The last event. -/
  last_event_at : some detail.last_event_at = (detail.events.map EventOut.occurred_at).max?

/-- The row of a response describes a database no later than its events. -/
structure TransactionDetail.Lags (detail : TransactionDetail) : Prop where
  /-- No event is counted that is not there. -/
  event_count : detail.event_count ≤ detail.events.length
  /-- No lifecycle column is before the first time of its type. -/
  occurrence : ∀ type, Earlier (detail.occurrence type) (detail.times type).min?

section

variable {db s s' : Database} {transaction_id : String} {now : Utc} {hours : ℕ}

/-- The run of a request for a transaction that is found: a statement for the row, and one for the
events. -/
theorem getTransactionDetail_inv {seen : List Database} {detail : TransactionDetail}
    (h : Reading.Reads Ingests (getTransactionDetail transaction_id now hours) db seen
      (.ok detail)) :
    ∃ s s' row cutoff, seen = [s, s'] ∧ Later s s' ∧ getTransaction s transaction_id = some row ∧
      detail = transactionDetail row cutoff (getTransactionEvents transaction_id s') := by
  obtain ⟨s, seen', rfl, _, hrest⟩ := Reading.Reads.stmt_inv h
  change Reading.Reads Ingests ((getTransaction s transaction_id).elim _ _) s seen' _ at hrest
  cases hrow : getTransaction s transaction_id with
  | none =>
    rw [hrow, Option.elim_none] at hrest
    cases (Reading.Reads.ret_inv hrest).2
  | some row =>
    rw [hrow, Option.elim_some] at hrest
    cases hcutoff : now.minusHours hours with
    | none =>
      rw [hcutoff, Option.elim_none] at hrest
      cases (Reading.Reads.ret_inv hrest).2
    | some cutoff =>
      rw [hcutoff, Option.elim_some] at hrest
      obtain ⟨s', seen'', rfl, hlater, hend⟩ := Reading.Reads.stmt_inv hrest
      obtain ⟨rfl, hdetail⟩ := Reading.Reads.ret_inv hend
      exact ⟨s, s', row, cutoff, rfl, hlater, hrow, Except.ok.inj hdetail⟩

/-- The run of a request for a transaction between whose statements batches may commit. -/
theorem getTransactionDetail_reads (hlater : Later s s') {row : TransactionRow × String}
    (hrow : getTransaction s transaction_id = some row) {cutoff : Utc}
    (hcutoff : now.minusHours hours = some cutoff) :
    Reading.Reads Ingests (getTransactionDetail transaction_id now hours) s [s, s']
      (.ok (transactionDetail row cutoff (getTransactionEvents transaction_id s'))) := by
  refine .stmt ?_
  show Reading.Reads Ingests ((getTransaction s transaction_id).elim _ _) s [s'] _
  rw [hrow, Option.elim_some, hcutoff, Option.elim_some]
  exact Reading.Reads.of_later hlater (.stmt .ret)

/-- The row of a transaction that is found. -/
theorem getTransaction_eq_some {row : TransactionRow × String}
    (h : getTransaction s transaction_id = some row) :
    s.transactions.find? transaction_id = some row.1 := by
  unfold getTransaction at h
  obtain ⟨t, ht, hm⟩ := Option.bind_eq_some_iff.1 h
  obtain ⟨m, _, rfl⟩ := Option.map_eq_some_iff.1 hm
  exact ht

/-- The events of a response are the log of the transaction, in another order. -/
theorem getTransactionEvents_perm (transaction_id : String) (s : Database) :
    (getTransactionEvents transaction_id s).Perm ((s.log transaction_id).map eventOut) :=
  (perm_orderBy _ _).map _

/-- The times of one type are those of the log. -/
theorem times_transactionDetail (row : TransactionRow × String) (cutoff : Utc) (type : EventType) :
    ((transactionDetail row cutoff (getTransactionEvents transaction_id s)).times type).Perm
      (times type (s.log transaction_id)) := by
  have hperm := ((getTransactionEvents_perm transaction_id s).filter
    fun e => e.event_type = type).map EventOut.occurred_at
  rw [List.filter_map, List.map_map] at hperm
  exact hperm

/-- A row and events of one database are consistent. -/
theorem consistent_transactionDetail (hs : Reachable s) {row : TransactionRow × String}
    (hrow : getTransaction s transaction_id = some row) (cutoff : Utc) :
    (transactionDetail row cutoff (getTransactionEvents transaction_id s)).Consistent := by
  have hp : Projects (s.log transaction_id) row.1 :=
    hs.projected.projects _ _ (getTransaction_eq_some hrow)
  have hperm := getTransactionEvents_perm transaction_id s
  have htimes : ((getTransactionEvents transaction_id s).map EventOut.occurred_at).Perm
      ((s.log transaction_id).map EventRow.occurred_at) := by
    have := hperm.map EventOut.occurred_at
    rwa [List.map_map] at this
  refine ⟨?_, fun type => ?_, ?_, ?_⟩
  · have hlength : (getTransactionEvents transaction_id s).length =
        (s.log transaction_id).length := by
      rw [hperm.length_eq, List.length_map]
    exact hp.event_count.trans hlength.symm
  · rw [min?_perm (times_transactionDetail row cutoff type), ← hp.occurrence type]
    cases type <;> rfl
  · exact hp.first_event_at.trans (min?_perm htimes).symm
  · exact hp.last_event_at.trans (max?_perm htimes).symm

/-- A row of one database and the events of a later one. -/
theorem lags_transactionDetail (hs : Reachable s) (hlater : Later s s')
    {row : TransactionRow × String} (hrow : getTransaction s transaction_id = some row)
    (cutoff : Utc) :
    (transactionDetail row cutoff (getTransactionEvents transaction_id s')).Lags := by
  have hrow := getTransaction_eq_some hrow
  obtain ⟨t', ht', hadvances⟩ := (hlater.grows hs).transactions _ _ hrow
  have hp' : Projects (s'.log transaction_id) t' :=
    (hlater.reachable hs).projected.projects _ _ ht'
  refine ⟨?_, fun type => ?_⟩
  · have hcount : row.1.event_count ≤ (s'.log transaction_id).length :=
      hp'.event_count ▸ hadvances.event_count
    refine hcount.trans (le_of_eq ?_)
    rw [transactionDetail, (getTransactionEvents_perm transaction_id s').length_eq, List.length_map]
  · rw [min?_perm (times_transactionDetail row cutoff type), ← hp'.occurrence type]
    have hearlier := hadvances.occurrence type
    cases type <;> exact hearlier

end

/-! ## The summary -/

/-- The groups of a summary that are all on one page add up to the totals. -/
theorem sum_groups_of_eval {s : Database} (hs : Reachable s) {now : Utc} {query : SummaryQuery}
    {response : SummaryResponse} (h : (getSummary now query).eval s = .ok response)
    (hg : response.group_by ≠ []) (hall : response.groups.length = response.filters.group_count) :
    (response.groups.map SummaryGroup.metrics).sum = response.totals := by
  obtain ⟨dimensions, window, cutoff, rfl⟩ := eval_getSummary h
  have hd : dimensions ≠ [] := hg
  simp only [SummaryQuery.response, reconciliationSummary_of_ne_nil _ _ _ _ hd] at hall ⊢
  -- A page of as many groups as there are is all of them.
  have hpage := (page_sublist query.limit query.offset _).eq_of_length
    (hall.trans (List.length_map _).symm)
  rw [hpage, List.map_map]
  exact hs.projected.sum_groupOf cutoff

/-! ## Reads among commits -/

/-- What read requests see among calls of `ingest_events`, from a reachable database.

Every statement of a request sees a committed database, and a later statement the same one or a later
one. When all of them see the same database, the response describes it: it is the answer of that
database; the count and the times of a transaction are those of the events in the response; groups
that are all on the page add up to the totals; and the totals and counts of a listing are those of the
database that its rows come from. In any case a transaction counts no more events than the response
shows, and none of its times is before the first one shown. -/
theorem reads_consistent {db : Database} (h : Reachable db) :
    (∀ (α : Type) (p : Reading Database AppError α) seen r, Reading.Reads Ingests p db seen r →
      (db :: seen).IsChain Later ∧ (∀ s ∈ seen, Reachable s) ∧
        ∀ s, (∀ s' ∈ seen, s' = s) → r = p.eval s) ∧
    (∀ transaction_id now hours seen detail,
      Reading.Reads Ingests (getTransactionDetail transaction_id now hours) db seen (.ok detail) →
        detail.Lags ∧ ∀ s, (∀ s' ∈ seen, s' = s) → detail.Consistent) ∧
    (∀ now query seen response s,
      Reading.Reads Ingests (getSummary now query) db seen (.ok response) →
        (∀ s' ∈ seen, s' = s) → response.group_by ≠ [] →
          response.groups.length = response.filters.group_count →
            (response.groups.map SummaryGroup.metrics).sum = response.totals) ∧
    (∀ query seen response s,
      Reading.Reads Ingests (getTransactions query) db seen (.ok response) →
        (∀ s' ∈ seen, s' = s) → ∃ where_, query.accepted = .ok where_ ∧
          response.pagination.total = countTransactions where_ s ∧
          response.items = (listTransactions where_ query.sort_by query.sort_order query.limit
            query.offset s).map transactionOut) ∧
    (∀ query seen response s,
      Reading.Reads Ingests (listEvents query) db seen (.ok response) →
        (∀ s' ∈ seen, s' = s) → ∃ clauses, query.where_ = .ok clauses ∧
          response.pagination.total = (s.events.rows.filter (selectsEvent clauses)).length ∧
          response.items = (page query.limit query.offset
            (orderBy eventKeys (s.events.rows.filter (selectsEvent clauses)))).map eventOut) ∧
    ∀ now query seen response s,
      Reading.Reads Ingests (readDiscrepancyReport now query) db seen (.ok response) →
        (∀ s' ∈ seen, s' = s) → getDiscrepancies s now query = .ok response := by
  refine ⟨fun α p seen r hreads => ⟨hreads.isChain, fun s hs => ?_, fun s hseen =>
      hreads.eq_eval hseen⟩,
    fun transaction_id now hours seen detail hreads => ?_,
    fun now query seen response s hreads hseen hg hall => ?_,
    fun query seen response s hreads hseen => ?_,
    fun query seen response s hreads hseen => ?_,
    fun now query seen response s hreads hseen => ?_⟩
  · have hlater : Later db s := hreads.later_of_mem s hs
    exact hlater.reachable h
  · obtain ⟨s, s', row, cutoff, rfl, hlater, hrow, rfl⟩ := getTransactionDetail_inv hreads
    have hs : Later db s := hreads.later_of_mem s List.mem_cons_self
    refine ⟨lags_transactionDetail (hs.reachable h) hlater hrow cutoff, fun t hseen => ?_⟩
    obtain rfl : s = t := hseen s List.mem_cons_self
    obtain rfl : s' = s := hseen s' (List.mem_cons_of_mem _ List.mem_cons_self)
    exact consistent_transactionDetail (hs.reachable h) hrow cutoff
  · -- A request that sees nothing answers as it does at the start.
    obtain ⟨t, ht, hseen⟩ : ∃ t, Reachable t ∧ ∀ s' ∈ seen, s' = t := by
      cases seen with
      | nil => exact ⟨db, h, nofun⟩
      | cons first rest =>
        obtain rfl : first = s := hseen first List.mem_cons_self
        have hlater : Later db first := hreads.later_of_mem first List.mem_cons_self
        exact ⟨first, hlater.reachable h, hseen⟩
    exact sum_groups_of_eval ht (hreads.eq_eval hseen).symm hg hall
  · have heval := (hreads.eq_eval hseen).symm
    rw [eval_getTransactions] at heval
    obtain ⟨where_, hwhere, rfl⟩ := exists_of_map_eq_ok heval
    exact ⟨where_, hwhere, rfl, rfl⟩
  · have heval := (hreads.eq_eval hseen).symm
    rw [eval_listEvents] at heval
    obtain ⟨clauses, hwhere, rfl⟩ := exists_of_map_eq_ok heval
    exact ⟨clauses, hwhere, rfl, rfl⟩
  · rw [← eval_readDiscrepancyReport]
    exact (hreads.eq_eval hseen).symm

/-! ## Samples -/

/-- A database with one transaction. -/
def onceInitiated : Database := Database.empty.applyAll "" [exampleEvent]

/-- The service reaches it by one batch. -/
theorem reachable_onceInitiated : Reachable onceInitiated := ⟨_, Run.empty.ingest "" [exampleEvent]⟩

/-- Another event of the transaction. -/
theorem ingests_onceInitiated : Ingests onceInitiated (onceInitiated.applyAll "" [repricedEvent]) :=
  .applyAll reachable_onceInitiated.checked _ _

/-- The first event of the transaction. -/
theorem ingests_empty : Ingests .empty onceInitiated :=
  .applyAll (Reachable.checked ⟨_, .empty⟩) _ _

/-- The answer for the transaction of the example on a database that stays as it is. -/
theorem reads_consistent_detail :
    ∃ seen detail, Reading.Reads Ingests
        (getTransactionDetail exampleEvent.transaction_id fourDaysLater 48) onceInitiated seen
          (.ok detail) ∧ detail.event_count = detail.events.length := by
  obtain ⟨row, hrow⟩ : ∃ row, getTransaction onceInitiated exampleEvent.transaction_id = some row :=
    ⟨_, rfl⟩
  have hreads := getTransactionDetail_reads .refl hrow fourDaysLater_minusHours
  have hseen : ∀ s' ∈ [onceInitiated, onceInitiated], s' = onceInitiated := by simp
  exact ⟨_, _, hreads, (((reads_consistent reachable_onceInitiated).2.1 _ _ _ _ _ hreads).2
    onceInitiated hseen).event_count⟩

/-! ## Runs with a batch between two statements -/

section

variable {db db' : Database} {now : Utc}

/-- The list, when batches commit after the count. -/
theorem getTransactions_reads (hlater : Later db db') {query : TransactionQuery}
    {where_ : Condition} (h : query.accepted = .ok where_) :
    let rows := listTransactions where_ query.sort_by query.sort_order query.limit query.offset db'
    Reading.Reads Ingests (getTransactions query) db [db, db']
      (.ok ⟨pageMeta query.limit query.offset (countTransactions where_ db) rows.length,
        rows.map transactionOut⟩) := by
  obtain ⟨where', hw, h⟩ := exists_of_bind_eq_ok h
  split_ifs at h with hfits
  obtain rfl := Except.ok.inj h
  rw [getTransactions, hw, Reading.calling_ok_bind]
  simp only [Condition.query, if_pos hfits]
  exact .stmt (.of_later hlater (.stmt .ret))

/-- The events, when batches commit after the count. -/
theorem listEvents_reads (hlater : Later db db') {query : EventQuery} {clauses : List EventClause}
    (h : query.where_ = .ok clauses) :
    let items := (page query.limit query.offset
      (orderBy eventKeys (db'.events.rows.filter (selectsEvent clauses)))).map eventOut
    Reading.Reads Ingests (listEvents query) db [db, db']
      (.ok ⟨pageMeta query.limit query.offset
        (db.events.rows.filter (selectsEvent clauses)).length items.length, items⟩) := by
  rw [listEvents, h, Reading.calling_ok_bind]
  exact .stmt (.of_later hlater (.stmt .ret))

/-- The report, when batches commit after the count. -/
theorem readDiscrepancyReport_reads (hlater : Later db db') {query : DiscrepancyQuery} {cutoff : Utc}
    (h : (query.as_of.getD now).minusHours query.stale_after_hours = some cutoff) :
    let report (db : Database) := discrepancies db query.filter query.selectedTypes
      (formatTs cutoff) query.sort_by query.sort_order query.limit query.offset
    Reading.Reads Ingests (readDiscrepancyReport now query) db [db, db', db']
      (.ok (query.shape (query.as_of.getD now)
        ⟨(report db').items, (report db).total, (report db').counts_by_type⟩)) := by
  rw [readDiscrepancyReport]
  dsimp only
  rw [h, Option.elim_some, Reading.calling_ok_bind]
  exact .stmt (.of_later hlater (.stmt (.stmt .ret)))

/-- The summary, when batches commit after the totals. -/
theorem getSummary_reads (hlater : Later db db') {query : SummaryQuery}
    {dimensions : List Dimension} {window : Option String × Option String} {cutoff : Utc}
    (hd : parseGroupBy query.group_by = .ok dimensions) (hne : dimensions ≠ [])
    (hw : resolveWindow query.date_from query.date_to = .ok window)
    (hc : now.minusHours query.stale_after_hours = some cutoff) :
    let summary (db : Database) := reconciliationSummary db (query.where_ window) dimensions
      (formatTs cutoff) query.limit query.offset
    Reading.Reads Ingests (getSummary now query) db [db, db', db']
      (.ok (query.response dimensions window
        ⟨(summary db).totals, (summary db').groups, (summary db').total_groups⟩)) := by
  rw [getSummary, hd, Reading.calling_ok_bind, hw, Reading.calling_ok_bind, hc, Option.elim_some,
    Reading.calling_ok_bind, readSummary]
  simp only [hne, if_false]
  exact .stmt (.of_later hlater (.stmt (.stmt .ret)))

end

/-- Batches that commit between the statements of a request tear its response: a transaction shows
more events than it counts, the groups of a summary do not add up to the totals, and each listing shows
more rows than its total. -/
theorem reads_torn :
    (¬ ∀ db, Reachable db → ∀ transaction_id now hours seen detail,
      Reading.Reads Ingests (getTransactionDetail transaction_id now hours) db seen (.ok detail) →
        detail.event_count = detail.events.length) ∧
    (¬ ∀ db, Reachable db → ∀ now query seen response,
      Reading.Reads Ingests (getSummary now query) db seen (.ok response) →
        response.group_by ≠ [] → response.groups.length = response.filters.group_count →
          (response.groups.map SummaryGroup.metrics).sum = response.totals) ∧
    (¬ ∀ db, Reachable db → ∀ query seen response,
      Reading.Reads Ingests (getTransactions query) db seen (.ok response) →
        response.items.length ≤ response.pagination.total) ∧
    (¬ ∀ db, Reachable db → ∀ query seen response,
      Reading.Reads Ingests (listEvents query) db seen (.ok response) →
        response.items.length ≤ response.pagination.total) ∧
    ¬ ∀ db, Reachable db → ∀ now query seen response,
      Reading.Reads Ingests (readDiscrepancyReport now query) db seen (.ok response) →
        response.items.length ≤ response.pagination.total := by
  have hempty : Reachable .empty := ⟨_, .empty⟩
  have hlater : Later .empty onceInitiated := .single ingests_empty
  refine ⟨fun h => ?_, fun h => ?_, fun h => ?_, fun h => ?_, fun h => ?_⟩
  -- The row is read before a second event commits, and the events after it.
  · obtain ⟨row, hrow, hone⟩ : ∃ row, getTransaction onceInitiated exampleEvent.transaction_id =
        some row ∧ row.1.event_count = 1 := ⟨_, rfl, rfl⟩
    have htwo : (getTransactionEvents exampleEvent.transaction_id
        (onceInitiated.applyAll "" [repricedEvent])).length = 2 := by decide +kernel
    have hcount : row.1.event_count = (getTransactionEvents exampleEvent.transaction_id
        (onceInitiated.applyAll "" [repricedEvent])).length :=
      h _ reachable_onceInitiated _ _ _ _ _ (getTransactionDetail_reads
        (.single ingests_onceInitiated) hrow fourDaysLater_minusHours)
    omega
  -- The totals are read from an empty database, and the groups after the first commit.
  · have hsum := h _ hempty fourDaysLater {} _ _ (getSummary_reads hlater
      (by decide +kernel : parseGroupBy "merchant" = .ok [.merchant]) (by decide)
      (rfl : resolveWindow none none = .ok (none, none)) fourDaysLater_minusHours)
    have hsum := hsum (by decide) (by decide +kernel)
    revert hsum
    decide +kernel
  -- A total of 0, and one row after it; so it is for the other two listings.
  · have hle := h _ hempty {} _ _ (getTransactions_reads hlater rfl)
    revert hle
    decide +kernel
  · have hle := h _ hempty {} _ _ (listEvents_reads hlater rfl)
    revert hle
    decide +kernel
  · have hle := h _ hempty fourDaysLater {} _ _
      (readDiscrepancyReport_reads hlater fourDaysLater_minusHours)
    revert hle
    decide +kernel

end PaymentRecon
