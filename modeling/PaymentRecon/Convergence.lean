import PaymentRecon.Answers
import PaymentRecon.Erasure

/-!
# Convergence under reordering

Two runs that commit the same events, in any orders and cut into any batches, end with the same
transactions: the log holds the same entries in another order, and the folded columns of a row do not
depend on the order of its log. The columns that are not folded (the merchant, the amount, and the
currency) are those of the first arrival, by design, so they agree when the events of the transaction
agree (`converges`) and need not agree otherwise (`first_arrival_decides`).
-/

namespace PaymentRecon

open Store

/-- The columns of `_SELECT_EXISTING_EVENT`: an event id with its payload. -/
structure Entry where
  /-- The idempotency key. -/
  event_id : String
  /-- The transaction. -/
  transaction_id : String
  /-- The merchant. -/
  merchant_id : String
  /-- What happened. -/
  event_type : EventType
  /-- The amount in minor units. -/
  amount_minor : ℤ
  /-- The currency code. -/
  currency : String
  /-- When it happened. -/
  occurred_at : String
deriving DecidableEq

/-- The entry of a stored event. -/
def EventRow.entry (e : EventRow) : Entry :=
  ⟨e.event_id, e.transaction_id, e.merchant_id, e.event_type, e.amount_minor, e.currency,
    e.occurred_at⟩

/-- The entry of an event. -/
def EventIn.entry (event : EventIn) : Entry :=
  ⟨event.event_id, event.transaction_id, event.merchant_id, event.event_type, event.amount_minor,
    event.currency, event.timestamp⟩

/-- Equal event ids carry equal payloads. -/
def Consistent (events : List EventIn) : Prop :=
  ∀ e ∈ events, ∀ e' ∈ events, e.event_id = e'.event_id → e.entry = e'.entry

/-- Events with distinct ids are consistent. -/
theorem Consistent.of_nodup {events : List EventIn}
    (h : (events.map EventIn.event_id).Nodup) : Consistent events := fun e he e' he' hid => by
  rw [List.inj_on_of_nodup_map h he he' hid]

/-! ## Logs in another order -/

section Reordered

variable {log log' : List EventRow} (h : (log.map EventRow.entry).Perm (log'.map EventRow.entry))

include h

/-- The times of one type, in another order. -/
theorem times_perm (type : EventType) : (times type log).Perm (times type log') := by
  have hform : ∀ l : List EventRow, times type l =
      ((l.map EventRow.entry).filter fun x => x.event_type = type).map Entry.occurred_at := by
    intro l
    rw [List.filter_map, List.map_map]
    rfl
  rw [hform, hform]
  exact (h.filter _).map _

/-- All times, in another order. -/
theorem occurred_at_perm :
    (log.map EventRow.occurred_at).Perm (log'.map EventRow.occurred_at) := by
  have := h.map Entry.occurred_at
  rwa [List.map_map, List.map_map] at this

/-- Every event of one log has its entry in the other. -/
theorem exists_entry {e : EventRow} (he : e ∈ log) : ∃ e' ∈ log', e'.entry = e.entry :=
  List.mem_map.1 (h.mem_iff.1 (List.mem_map_of_mem he))

/-- Whether two events disagree does not depend on the order. -/
theorem disagree_perm {α : Type} (g : Entry → α) :
    Disagree (fun e => g e.entry) log ↔ Disagree (fun e => g e.entry) log' := by
  have hsub : ∀ {l l' : List EventRow}, (l.map EventRow.entry).Perm (l'.map EventRow.entry) →
      Disagree (fun e => g e.entry) l → Disagree (fun e => g e.entry) l' := by
    rintro l l' hl ⟨a, ha, b, hb, hne⟩
    obtain ⟨a', ha', hea⟩ := exists_entry hl ha
    obtain ⟨b', hb', heb⟩ := exists_entry hl hb
    exact ⟨a', ha', b', hb', by simpa only [hea, heb] using hne⟩
  exact ⟨hsub h, hsub h.symm⟩

/-- The value of the first event, when all events have the same. -/
theorem head_eq_of_agree {α : Type} (g : Entry → α)
    (hagree : ¬ Disagree (fun e => g e.entry) log) {v v' : α}
    (hv : log.head?.map (fun e => g e.entry) = some v)
    (hv' : log'.head?.map (fun e => g e.entry) = some v') : v = v' := by
  obtain ⟨e, he, rfl⟩ := Option.map_eq_some_iff.1 hv
  obtain ⟨e', he', rfl⟩ := Option.map_eq_some_iff.1 hv'
  obtain ⟨e'', he'', heq⟩ := exists_entry h.symm (List.mem_of_mem_head? he')
  rw [← heq]
  by_contra hne
  exact hagree ⟨e, List.mem_of_mem_head? he, e'', he'', hne⟩

end Reordered

/-- The columns of a row that do not depend on the order of its log. -/
structure SameFold (t t' : TransactionRow) : Prop where
  /-- The four lifecycle columns. -/
  occurrence : ∀ type, t.occurrence type = t'.occurrence type
  /-- The first event. -/
  first_event_at : t.first_event_at = t'.first_event_at
  /-- The last event. -/
  last_event_at : t.last_event_at = t'.last_event_at
  /-- The events stored. -/
  event_count : t.event_count = t'.event_count
  /-- The amount flag. -/
  has_amount_mismatch : t.has_amount_mismatch = t'.has_amount_mismatch
  /-- The merchant flag. -/
  has_merchant_mismatch : t.has_merchant_mismatch = t'.has_merchant_mismatch

/-- Rows that project the same log in two orders have the same folded columns. -/
theorem Projects.sameFold {log log' : List EventRow} {t t' : TransactionRow} (hp : Projects log t)
    (hp' : Projects log' t') (h : (log.map EventRow.entry).Perm (log'.map EventRow.entry)) :
    SameFold t t' where
  occurrence type := by
    rw [hp.occurrence, hp'.occurrence, Sql.min?_perm (times_perm h type)]
  first_event_at := by
    have := Sql.min?_perm (occurred_at_perm h)
    rw [← hp.first_event_at, ← hp'.first_event_at] at this
    exact Option.some.inj this
  last_event_at := by
    have := Sql.max?_perm (occurred_at_perm h)
    rw [← hp.last_event_at, ← hp'.last_event_at] at this
    exact Option.some.inj this
  event_count := by
    have := h.length_eq
    rwa [List.length_map, List.length_map, ← hp.event_count, ← hp'.event_count] at this
  has_amount_mismatch := by
    have hd : Disagree EventRow.amount_minor log ↔ Disagree EventRow.amount_minor log' :=
      disagree_perm h Entry.amount_minor
    rw [hp.has_amount_mismatch, hp'.has_amount_mismatch]
    simp only [hd]
  has_merchant_mismatch := by
    have hd : Disagree EventRow.merchant_id log ↔ Disagree EventRow.merchant_id log' :=
      disagree_perm h Entry.merchant_id
    rw [hp.has_merchant_mismatch, hp'.has_merchant_mismatch]
    simp only [hd]

namespace SameFold

variable {t t' : TransactionRow} (h : SameFold t t')

include h

/-- The generated columns agree too. -/
theorem generated : t.status = t'.status ∧ t.payment_status = t'.payment_status ∧
    t.settlement_status = t'.settlement_status ∧ t.txn_date = t'.txn_date := by
  have hf : t.failed_at = t'.failed_at := h.occurrence .payment_failed
  have hp : t.processed_at = t'.processed_at := h.occurrence .payment_processed
  have hs : t.settled_at = t'.settled_at := h.occurrence .settled
  simp only [TransactionRow.status, TransactionRow.payment_status, TransactionRow.settlement_status,
    TransactionRow.txn_date, hf, hp, hs, h.first_event_at, and_self]

end SameFold

/-! ## Runs of the same events -/

/-- A run of batches is a history of its events. -/
theorem History.ingestAll {trace : List Occurrence} {db : Database} (h : History trace db)
    (batches : List Batch) : ∃ trace', History (trace ++ trace') (db.ingestAll batches) ∧
      trace'.map Prod.fst = batches.flatMap Batch.events := by
  induction batches generalizing trace db with
  | nil => exact ⟨[], by rwa [List.append_nil], rfl⟩
  | cons batch batches ih =>
    obtain ⟨trace', h', hmap⟩ := ih (h.applyAll batch.now batch.events)
    refine ⟨batch.events.zip (db.results batch.now batch.events) ++ trace', ?_, ?_⟩
    · rwa [← List.append_assoc]
    · rw [List.map_append, hmap, List.flatMap_cons, List.map_fst_zip]
      rw [Database.length_results]

/-- A run from the empty database, as a history of its events. -/
theorem Commits.history {batches : List Batch} {db : Database} (h : Commits .empty batches db) :
    ∃ trace, History trace db ∧ trace.map Prod.fst = batches.flatMap Batch.events := by
  obtain ⟨trace, ht, hmap⟩ := History.empty.ingestAll batches
  rw [h.eq History.empty.checked]
  exact ⟨trace, ht, hmap⟩

namespace History

variable {trace : List Occurrence} {db : Database}

/-- The stored entries are those of the events. -/
theorem mem_entries (h : History trace db) (hc : Consistent (trace.map Prod.fst)) (x : Entry) :
    x ∈ db.events.rows.map EventRow.entry ↔ x ∈ (trace.map Prod.fst).map EventIn.entry := by
  simp only [List.mem_map]
  constructor
  · rintro ⟨row, hrow, rfl⟩
    obtain ⟨o, ho, _, now, rfl⟩ := h.stored_from_created row hrow
    exact ⟨o.1, ⟨o, ho, rfl⟩, rfl⟩
  · rintro ⟨event, ⟨o, ho, rfl⟩, rfl⟩
    obtain ⟨_, row, hrow, _, _⟩ := h.answered o ho
    -- The row with the id may be that of another occurrence, with the same entry.
    obtain ⟨o', ho', _, now, rfl⟩ := h.stored_from_created row (Table.mem_of_find? hrow)
    have hid : (o'.1.eventRow now).event_id = o.1.event_id := Table.key_of_find? hrow
    exact ⟨_, Table.mem_of_find? hrow,
      hc _ (List.mem_map_of_mem ho') _ (List.mem_map_of_mem ho) hid⟩

/-- Every occurrence is put down to the transaction that its event names. -/
theorem transaction_id_result (h : History trace db) (hc : Consistent (trace.map Prod.fst)) :
    ∀ o ∈ trace, o.2.transaction_id = o.1.transaction_id := by
  intro o ho
  obtain ⟨_, row, hrow, ht, _⟩ := h.answered o ho
  obtain ⟨o', ho', _, now, rfl⟩ := h.stored_from_created row (Table.mem_of_find? hrow)
  have hid : (o'.1.eventRow now).event_id = o.1.event_id := Table.key_of_find? hrow
  have hentry := hc _ (List.mem_map_of_mem ho') _ (List.mem_map_of_mem ho) hid
  rw [ht]
  exact congrArg Entry.transaction_id hentry

/-- The events of a transaction, stored or replayed. -/
theorem length_log_add_duplicates (h : History trace db) (hc : Consistent (trace.map Prod.fst))
    (id : String) :
    (db.log id).length +
        (db.transactions.find? id).elim 0 TransactionRow.duplicate_event_count =
      (trace.map Prod.fst).countP fun event => event.transaction_id = id := by
  have hevents : (trace.countP fun o => o.2.transaction_id = id) =
      (trace.map Prod.fst).countP fun event => event.transaction_id = id := by
    rw [List.countP_map]
    refine List.countP_congr fun o ho => ?_
    simp only [Function.comp, h.transaction_id_result hc o ho]
  calc (db.log id).length +
        (db.transactions.find? id).elim 0 TransactionRow.duplicate_event_count
      = countStatusOf .created id trace + countStatusOf .duplicate id trace := by
        rw [h.length_log, h.duplicate_event_count]
    _ = trace.countP fun o => o.2.transaction_id = id := countStatusOf_add id trace
    _ = (trace.map Prod.fst).countP fun event => event.transaction_id = id := hevents

end History

/-- The log of a transaction, in terms of all stored entries. -/
theorem entries_log (db : Database) (id : String) :
    (db.log id).map EventRow.entry =
      (db.events.rows.map EventRow.entry).filter fun x => x.transaction_id = id := by
  rw [List.filter_map]
  rfl

/-- The stored entries are distinct. -/
theorem nodup_entries (db : Database) : (db.events.rows.map EventRow.entry).Nodup := by
  have hkeys : ((db.events.rows.map EventRow.entry).map Entry.event_id).Nodup := by
    rw [List.map_map]
    exact db.events.nodup_keys
  exact hkeys.of_map _

/-- The repriced event again, under a new id and with another merchant and currency. -/
def contraryEvent : EventIn :=
  { repricedEvent with
    event_id := "contrary"
    merchant_id := "merchant_3"
    currency := "USD"
    event_id_valid := by decide
    merchant_id_valid := by decide }

/-- The two events have different ids. -/
theorem consistent_contrary : Consistent [exampleEvent, contraryEvent] := .of_nodup (by decide)

/-- Convergence under reordering. Two runs from the empty database that commit the same events, in
any orders and cut into any batches, end with the same transactions, when equal event ids carry equal
payloads: the same rows, equal in the folded columns, the generated columns, and the count of
replays, and equal in the merchant, the amount, or the currency when the events of the transaction
agree on it. -/
theorem converges {batches batches' : List Batch} {db db' : Database}
    (h : Commits .empty batches db) (h' : Commits .empty batches' db')
    (hperm : (batches.flatMap Batch.events).Perm (batches'.flatMap Batch.events))
    (hc : Consistent (batches.flatMap Batch.events)) (id : String) :
    (db.transactions.find? id = none ↔ db'.transactions.find? id = none) ∧
      ∀ t t', db.transactions.find? id = some t → db'.transactions.find? id = some t' →
        SameFold t t' ∧
        (t.status = t'.status ∧ t.payment_status = t'.payment_status ∧
          t.settlement_status = t'.settlement_status ∧ t.txn_date = t'.txn_date) ∧
        t.duplicate_event_count = t'.duplicate_event_count ∧
        (¬ Disagree EventRow.merchant_id (db.log id) → t.merchant_id = t'.merchant_id) ∧
        (¬ Disagree EventRow.amount_minor (db.log id) → t.amount_minor = t'.amount_minor) ∧
        (¬ Disagree EventRow.currency (db.log id) → t.currency = t'.currency) := by
  obtain ⟨trace, hist, hmap⟩ := h.history
  obtain ⟨trace', hist', hmap'⟩ := h'.history
  rw [← hmap, ← hmap'] at hperm
  rw [← hmap] at hc
  have hc' : Consistent (trace'.map Prod.fst) := fun e he e' he' =>
    hc e (hperm.mem_iff.2 he) e' (hperm.mem_iff.2 he')
  -- The two logs hold the same entries.
  have hentries : (db.events.rows.map EventRow.entry).Perm (db'.events.rows.map EventRow.entry) := by
    refine (List.perm_ext_iff_of_nodup (nodup_entries db) (nodup_entries db')).2 fun x => ?_
    rw [hist.mem_entries hc, hist'.mem_entries hc']
    exact (hperm.map _).mem_iff
  have hlog : ((db.log id).map EventRow.entry).Perm ((db'.log id).map EventRow.entry) := by
    rw [entries_log, entries_log]
    exact hentries.filter _
  have hrow : ∀ d : Database, d.Projected →
      (d.transactions.find? id = none ↔ (d.log id).map EventRow.entry = []) := by
    intro d hd
    rw [List.map_eq_nil_iff]
    refine ⟨hd.logged id, fun hnil => ?_⟩
    cases ht : d.transactions.find? id with
    | none => rfl
    | some t => exact absurd hnil (hd.projects id t ht).ne_nil
  refine ⟨?_, fun t t' ht ht' => ?_⟩
  · rw [hrow db hist.projected, hrow db' hist'.projected]
    exact ⟨fun hn => List.perm_nil.1 (hn ▸ hlog.symm), fun hn => List.perm_nil.1 (hn ▸ hlog)⟩
  · have hp := hist.projected.projects id t ht
    have hp' := hist'.projected.projects id t' ht'
    have hfold := hp.sameFold hp' hlog
    refine ⟨hfold, hfold.generated, ?_, fun hd => ?_, fun hd => ?_, fun hd => ?_⟩
    · -- Stored and replayed events add up to all events of the transaction in both runs.
      have hdup := hist.length_log_add_duplicates hc id
      have hdup' := hist'.length_log_add_duplicates hc' id
      rw [ht, ← hp.event_count] at hdup
      rw [ht', ← hp'.event_count] at hdup'
      have hcount := hfold.event_count
      have htotal := hperm.countP_eq fun event => event.transaction_id = id
      simp only [Option.elim_some] at hdup hdup'
      omega
    · exact head_eq_of_agree hlog Entry.merchant_id hd hp.merchant_id hp'.merchant_id
    · exact head_eq_of_agree hlog Entry.amount_minor hd hp.amount_minor hp'.amount_minor
    · exact head_eq_of_agree hlog Entry.currency hd hp.currency hp'.currency

/-- Two orders of two events. -/
theorem converges_swap :
    (Database.empty.ingestAll [⟨"", [exampleEvent, contraryEvent]⟩]).transactions.find?
        exampleEvent.transaction_id = none ↔
      (Database.empty.ingestAll [⟨"", [contraryEvent]⟩, ⟨"", [exampleEvent]⟩]).transactions.find?
        exampleEvent.transaction_id = none :=
  (converges (.exists Run.empty.history.checked [⟨"", [exampleEvent, contraryEvent]⟩])
    (.exists Run.empty.history.checked [⟨"", [contraryEvent]⟩, ⟨"", [exampleEvent]⟩])
    (.swap _ _ _) consistent_contrary exampleEvent.transaction_id).1

/-- The merchant, the amount, and the currency of a transaction are those of its first arrival, so two
orders of two events that disagree on all three end with rows that do. -/
theorem first_arrival_decides :
    ¬ ∀ (batches batches' : List Batch) (db db' : Database), Commits .empty batches db →
      Commits .empty batches' db' →
      (batches.flatMap Batch.events).Perm (batches'.flatMap Batch.events) →
      Consistent (batches.flatMap Batch.events) → ∀ id t t',
        db.transactions.find? id = some t → db'.transactions.find? id = some t' →
          t.merchant_id = t'.merchant_id ∨ t.amount_minor = t'.amount_minor ∨
            t.currency = t'.currency := by
  intro h
  have hc := Run.empty.history.checked
  obtain ⟨t, ht⟩ : ∃ t, (Database.empty.ingestAll
      [⟨"", [exampleEvent, contraryEvent]⟩]).transactions.find? exampleEvent.transaction_id =
        some t := ⟨_, rfl⟩
  obtain ⟨t', ht'⟩ : ∃ t, (Database.empty.ingestAll
      [⟨"", [contraryEvent, exampleEvent]⟩]).transactions.find? exampleEvent.transaction_id =
        some t := ⟨_, rfl⟩
  -- The two orders are a permutation of each other, and each leaves the amount of its first event.
  have hagree := h _ _ _ _ (.exists hc [⟨"", [exampleEvent, contraryEvent]⟩])
    (.exists hc [⟨"", [contraryEvent, exampleEvent]⟩]) (.swap _ _ _) consistent_contrary _ t t' ht
    ht'
  cases ht
  cases ht'
  revert hagree
  decide

end PaymentRecon
