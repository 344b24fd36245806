import PaymentRecon.Sessions
import PaymentRecon.Standings

/-!
# The page of a transaction on documents

A transaction has a page when an accepted document names it, and the page shows what the documents say of it
and nothing else (`detail_of_documents`).
-/

namespace PaymentRecon

open Store Sql

/-- The payment leg, as the statements have it. -/
def paymentStatusOf (said : List Statement) : PaymentStatus :=
  if Saying .payment_failed said ∧ Saying .payment_processed said then .conflicted
  else if Saying .payment_failed said then .failed
  else if Saying .payment_processed said then .processed
  else .initiated

/-- Where a response puts its transaction. -/
def TransactionOut.standing (t : TransactionOut) : Standing :=
  ⟨t.transaction_id, t.merchant_id, t.amount_minor, t.currency, t.status, t.first_event_at⟩

/-- A page shows what the statements say of a transaction. -/
structure TransactionDetail.Tells (detail : TransactionDetail) (cutoff : ℤ) (statements : List Statement)
    (id : String) : Prop where
  /-- The transaction is where the statements put it. -/
  standing : standing statements id = some detail.toTransactionOut.standing
  /-- The payment leg is theirs. -/
  payment_status : detail.payment_status = paymentStatusOf (said statements id)
  /-- So is the settlement leg. -/
  settlement_status : detail.settlement_status =
    if Saying .settled (said statements id) then .settled else .pending
  /-- A lifecycle column is the earliest time of its type. -/
  occurrence : ∀ type, detail.occurrence type =
    (((said statements id).filter fun s => s.event_type = type).map fun s => formatTs s.time).min?
  /-- The last event is the latest one. -/
  last_event_at : some detail.last_event_at =
    ((said statements id).map fun s => formatTs s.time).max?
  /-- Every first arrival is counted. -/
  event_count : detail.event_count = (said statements id).length
  /-- Every other arrival is counted as a replay. -/
  duplicate_event_count : detail.event_count + detail.duplicate_event_count =
    statements.countP fun s => ∃ s' ∈ said statements id, s'.event_id = s.event_id
  /-- The events are the first arrivals. -/
  events : (detail.events.map EventOut.entry).Perm ((said statements id).map Statement.entry)
  /-- They come in the order of their times. -/
  chronological : (detail.events.map EventOut.occurred_at).Pairwise (· ≤ ·)
  /-- The discrepancies are those that are told. -/
  discrepancies : ∀ type, type ∈ detail.discrepancies ↔ Told cutoff statements id type

section

variable {pydantic : Pydantic} {documents : List Json} {trace : List Occurrence}
  {db : Database}

/-- The arrivals under a transaction are the documents with its event ids. -/
theorem Posted.arrivals (hposted : Posted pydantic documents trace) (h : History trace db) (id : String) :
    trace.countP (fun o => o.2.transaction_id = id) =
      (statements pydantic documents).countP fun s =>
        ∃ s' ∈ said (statements pydantic documents) id, s'.event_id = s.event_id := by
  rw [hposted.countP fun event_id => ∃ s' ∈ said (statements pydantic documents) id, s'.event_id = event_id]
  refine List.countP_congr fun o ho => ?_
  rw [decide_eq_true_eq, decide_eq_true_eq]
  refine Iff.trans ?_ (hposted.exists_log h fun x => x.event_id = o.1.event_id)
  obtain ⟨-, row, hfind, htransaction, -⟩ := h.answered o ho
  have hrow := Table.mem_of_find? hfind
  have hid : row.event_id = o.1.event_id := Table.key_of_find? hfind
  rw [htransaction]
  constructor
  · intro hof
    exact ⟨row, Database.mem_log.2 ⟨hrow, hof⟩, hid⟩
  · -- An event id has one row.
    rintro ⟨e, he, hkey⟩
    obtain ⟨hstored, hof⟩ := Database.mem_log.1 he
    obtain rfl : e = row := Table.eq_of_key_eq hstored hrow (hkey.trans hid.symm)
    exact hof

/-- The page of a row shows what is said of its transaction. -/
theorem Posted.tells (hposted : Posted pydantic documents trace) (h : History trace db)
    {row : TransactionRow × String} (hrow : row.1 ∈ db.transactions.rows) (cutoff : Utc) :
    (transactionDetail row cutoff (getTransactionEvents row.1.transaction_id db)).Tells cutoff.micros
      (statements pydantic documents) row.1.transaction_id := by
  have hfind := Table.find?_key hrow
  have hp := h.projected.projects _ _ hfind
  have hhas := hposted.has_iff h row.1.transaction_id
  have hlog := hposted.log h row.1.transaction_id
  refine ⟨?_, ?_, ?_, ?_, ?_, ?_, ?_, ?_, ?_, ?_⟩
  · rw [hposted.standing_eq h, hfind]
    rfl
  · show row.1.payment_status = _
    simp only [paymentStatusOf, TransactionRow.payment_status, hp.failed_at_isSome, hp.processed_at_isSome,
      hhas]
  · show row.1.settlement_status = _
    simp only [TransactionRow.settlement_status, hp.settled_at_isSome, hhas]
  · intro type
    have htimes : times type (db.log row.1.transaction_id) =
        ((said (statements pydantic documents) row.1.transaction_id).filter fun s =>
          s.event_type = type).map fun s => formatTs s.time := by
      rw [← times_entries, hlog, List.filter_map, List.map_map]
      rfl
    rw [← htimes, ← hp.occurrence type]
    cases type <;> rfl
  · rw [hposted.times_said h, ← hp.last_event_at]
    rfl
  · show row.1.event_count = _
    have hlength := congrArg List.length hlog
    rw [List.length_map, List.length_map] at hlength
    rw [hp.event_count, hlength]
  · show row.1.event_count + row.1.duplicate_event_count = _
    have hreplays := h.duplicate_event_count row.1.transaction_id
    rw [hfind, Option.elim_some] at hreplays
    -- Each arrival was created or was a replay.
    rw [← hposted.arrivals h, ← countStatusOf_add, ← h.length_log, ← hreplays, hp.event_count]
  · rw [← hlog]
    show ((getTransactionEvents row.1.transaction_id db).map EventOut.entry).Perm _
    rw [getTransactionEvents, List.map_map]
    exact (perm_orderBy _ _).map _
  · show ((getTransactionEvents row.1.transaction_id db).map EventOut.occurred_at).Pairwise _
    rw [getTransactionEvents, List.map_map, List.pairwise_map]
    refine (pairwise_orderBy _ _).imp fun {e e'} hle => ?_
    have hbefore : e.occurred_at ≤ e'.occurred_at := by
      simpa [SortKey.Before] using (le_cons_iff.1 hle).1
    exact hbefore
  · intro type
    rw [← hposted.found_iff h hrow cutoff type]
    exact mem_discrepancyTypesForTransaction (h.checked _ hrow) (h.projected.occurrence_ne_empty hfind) _
      type

/-- The page of a transaction is a function of what the accepted documents say, and a transaction has one
when a document names it. -/
theorem detail_of_documents (h : Run trace db) (hposted : Posted pydantic documents trace)
    {now cutoff : Utc} {hours : ℕ} (hcutoff : now.minusHours hours = some cutoff) (id : String) :
    (said (statements pydantic documents) id = [] →
        (getTransactionDetail id now hours).eval db = .error (.notFound id)) ∧
      (said (statements pydantic documents) id ≠ [] → ∃ detail,
        (getTransactionDetail id now hours).eval db = .ok detail ∧
          detail.Tells (now.micros - hours * 3600000000) (statements pydantic documents) id) := by
  have hist := h.history
  have hlog := hposted.log hist id
  have hmicros : (now.micros : ℤ) - hours * 3600000000 = cutoff.micros := by
    have := Utc.minusHours_eq_some.1 hcutoff
    omega
  cases hfind : db.transactions.find? id with
  | none =>
    -- Without a row there are no events, and no document names the transaction.
    have hsaid : said (statements pydantic documents) id = [] := by
      rw [hist.projected.logged id hfind] at hlog
      exact List.map_eq_nil_iff.1 hlog.symm
    refine ⟨fun _ => ?_, fun hne => absurd hsaid hne⟩
    rw [getTransactionDetail, Reading.eval_bind]
    show ((getTransaction db id).elim _ _ : Reading Database AppError TransactionDetail).eval db = _
    rw [getTransaction, hfind]
    rfl
  | some t =>
    have ht := Table.mem_of_find? hfind
    obtain rfl : t.transaction_id = id := Table.key_of_find? hfind
    obtain ⟨name, hrow⟩ := getTransaction_of_find? ⟨_, h⟩ hfind
    -- A row has at least one event, which some document posted.
    have hsaid : said (statements pydantic documents) t.transaction_id ≠ [] := by
      intro hnil
      rw [hnil, List.map_nil, List.map_eq_nil_iff] at hlog
      exact (hist.projected.projects _ t hfind).ne_nil hlog
    refine ⟨fun hnil => absurd hnil hsaid, fun _ => ?_⟩
    rw [hmicros]
    refine ⟨_, ?_, @Posted.tells _ _ _ _ hposted hist (t, name) ht cutoff⟩
    rw [getTransactionDetail, Reading.eval_bind]
    show ((getTransaction db t.transaction_id).elim _ _ :
      Reading Database AppError TransactionDetail).eval db = _
    rw [hrow, Option.elim_some, hcutoff]
    rfl

/-- The page of the transaction that comes twice. -/
theorem detail_of_documents_respelled : ∃ detail,
    (getTransactionDetail exampleEvent.transaction_id fourDaysLater 48).eval
        (Database.empty.applyAll "" [exampleIn "INR", exampleIn "INR"]) = .ok detail ∧
      detail.Tells (fourDaysLater.micros - 48 * 3600000000) (statements samplePydantic respelled)
        exampleEvent.transaction_id :=
  (detail_of_documents (Run.empty.ingest "" [exampleIn "INR", exampleIn "INR"]) posted_respelled
    fourDaysLater_minusHours exampleEvent.transaction_id).2 (by decide +kernel)

end

end PaymentRecon
