import PaymentRecon.Run

/-!
# The projection refines the log

The table `transactions` is maintained by one upsert for each new event. What it is meant to be is a
function of the table `events`: `Projects log t` says, column by column, that `t` is the row of a
transaction with the stored events `log`, oldest first. The columns that an upsert does not fold
(the merchant, the amount, and the currency) are those of the first event of `log`, and the mismatch
flags, which an upsert sets by comparing with these, say whether any two events of `log` disagree.

`Projected` is the invariant: every row projects the log of its transaction, and every stored event
has its transaction and its merchant. It holds in every reachable database
(`Reachable.projected`).
-/

namespace PaymentRecon

open Store Sql

/-- The stored events of a transaction, oldest first. -/
def Database.log (db : Database) (transaction_id : String) : List EventRow :=
  db.events.rows.filter fun e => e.transaction_id = transaction_id

/-- The times of the events of one type. -/
def times (type : EventType) (log : List EventRow) : List String :=
  (log.filter fun e => e.event_type = type).map EventRow.occurred_at

/-- An event of one type is stored. -/
def Has (type : EventType) (log : List EventRow) : Prop := ∃ e ∈ log, e.event_type = type

instance (type : EventType) (log : List EventRow) : Decidable (Has type log) :=
  inferInstanceAs (Decidable (∃ e ∈ log, e.event_type = type))

/-- Two events of a log have different values of `f`. -/
def Disagree {α : Type} (f : EventRow → α) (log : List EventRow) : Prop :=
  ∃ e ∈ log, ∃ e' ∈ log, f e ≠ f e'

instance {α : Type} [DecidableEq α] (f : EventRow → α) (log : List EventRow) :
    Decidable (Disagree f log) :=
  inferInstanceAs (Decidable (∃ e ∈ log, ∃ e' ∈ log, f e ≠ f e'))

/-- A new event disagrees with a log when it disagrees with the first event, or the log does so
already. -/
theorem disagree_append {α : Type} {f : EventRow → α} {log : List EventRow} {v : α}
    (hv : log.head?.map f = some v) (e : EventRow) :
    Disagree f (log ++ [e]) ↔ v ≠ f e ∨ Disagree f log := by
  obtain ⟨first, hfirst, rfl⟩ := Option.map_eq_some_iff.1 hv
  have hmem : first ∈ log := List.mem_of_mem_head? hfirst
  constructor
  · rintro ⟨a, ha, b, hb, hne⟩
    by_cases hf : f first = f e
    · -- The new event has the value of the first one, which stands in for it.
      refine .inr ?_
      have stand : ∀ x ∈ log ++ [e], ∃ y ∈ log, f y = f x := by
        intro x hx
        rcases List.mem_append.1 hx with hx | hx
        · exact ⟨x, hx, rfl⟩
        · rw [List.mem_singleton] at hx
          exact ⟨first, hmem, by rw [hx, hf]⟩
      obtain ⟨a', ha', hfa⟩ := stand a ha
      obtain ⟨b', hb', hfb⟩ := stand b hb
      exact ⟨a', ha', b', hb', by rwa [hfa, hfb]⟩
    · exact .inl hf
  · rintro (hne | ⟨a, ha, b, hb, hne⟩)
    · exact ⟨first, by simp [hmem], e, by simp, hne⟩
    · exact ⟨a, by simp [ha], b, by simp [hb], hne⟩

/-- The row `t` of a transaction with the stored events `log`. -/
structure Projects (log : List EventRow) (t : TransactionRow) : Prop where
  /-- A lifecycle column is the first time of its event type. -/
  occurrence : ∀ type, t.occurrence type = (times type log).min?
  /-- The time of the first event. -/
  first_event_at : some t.first_event_at = (log.map EventRow.occurred_at).min?
  /-- The time of the last event. -/
  last_event_at : some t.last_event_at = (log.map EventRow.occurred_at).max?
  /-- The number of the events. -/
  event_count : t.event_count = log.length
  /-- The merchant of the first arrival. -/
  merchant_id : log.head?.map EventRow.merchant_id = some t.merchant_id
  /-- The amount of the first arrival. -/
  amount_minor : log.head?.map EventRow.amount_minor = some t.amount_minor
  /-- The currency of the first arrival. -/
  currency : log.head?.map EventRow.currency = some t.currency
  /-- Whether two events disagree on the amount. -/
  has_amount_mismatch : t.has_amount_mismatch = if Disagree EventRow.amount_minor log then 1 else 0
  /-- Whether two events disagree on the merchant. -/
  has_merchant_mismatch :
    t.has_merchant_mismatch = if Disagree EventRow.merchant_id log then 1 else 0

/-- The times of one type, when an event is appended. -/
theorem times_append (type : EventType) (log : List EventRow) (event : EventIn) (now : String) :
    times type (log ++ [event.eventRow now]) = times type log ++ (event.column type).toList := by
  have hlast : times type [event.eventRow now] = (event.column type).toList := by
    by_cases h : event.event_type = type <;>
      simp [times, EventIn.column, EventIn.eventRow, Params.eventRow, EventIn.row, EventIn.params, h]
  rw [← hlast, times, List.filter_append, List.map_append]
  rfl

/-- The first event of a transaction makes its row. -/
theorem Projects.single (event : EventIn) (now : String) :
    Projects [event.eventRow now] (event.row now).transactionRow where
  occurrence type := by
    have hcol : (event.row now).transactionRow.occurrence type = event.column type := by
      cases type <;> rfl
    have htimes : times type [event.eventRow now] = (event.column type).toList :=
      times_append type [] event now
    rw [hcol, htimes]
    cases event.column type <;> rfl
  first_event_at := rfl
  last_event_at := rfl
  event_count := rfl
  merchant_id := rfl
  amount_minor := rfl
  currency := rfl
  has_amount_mismatch := by simp [Disagree, Params.transactionRow]
  has_merchant_mismatch := by simp [Disagree, Params.transactionRow]

/-- The upsert folds one more event into the row of a transaction. -/
theorem Projects.snoc {log : List EventRow} {t : TransactionRow} (h : Projects log t)
    (event : EventIn) (now : String) :
    Projects (log ++ [event.eventRow now]) ((event.row now).mergeTransaction t) where
  occurrence type := by
    have hmerge : ((event.row now).mergeTransaction t).occurrence type =
        foldMin (t.occurrence type) (event.column type) := by
      cases type <;> rfl
    rw [hmerge, h.occurrence, times_append]
    -- An event of another type leaves the column; one of this type is one more time to fold.
    cases event.column type with
    | none => rw [foldMin_none, Option.toList_none, List.append_nil]
    | some at_ => exact foldMin_min? _ _
  first_event_at := by
    rw [List.map_append, List.map_singleton, min?_append_singleton, ← h.first_event_at]
    rfl
  last_event_at := by
    rw [List.map_append, List.map_singleton, max?_append_singleton, ← h.last_event_at]
    rfl
  event_count := by
    rw [List.length_append, List.length_singleton, ← h.event_count]
    rfl
  -- The columns of the first arrival: the log grows at the end, so its head stays.
  merchant_id := by
    rw [List.head?_append, Option.map_or, h.merchant_id]
    rfl
  amount_minor := by
    rw [List.head?_append, Option.map_or, h.amount_minor]
    rfl
  currency := by
    rw [List.head?_append, Option.map_or, h.currency]
    rfl
  -- The upsert compares with the first arrival, which stands for the whole log.
  has_amount_mismatch := by
    have hd := disagree_append h.amount_minor (event.eventRow now)
    simp only [Params.mergeTransaction, h.has_amount_mismatch, hd]
    split_ifs with h1 h2 h3 h4 <;> simp_all [EventIn.eventRow, Params.eventRow]
  has_merchant_mismatch := by
    have hd := disagree_append h.merchant_id (event.eventRow now)
    simp only [Params.mergeTransaction, h.has_merchant_mismatch, hd]
    split_ifs with h1 h2 h3 h4 <;> simp_all [EventIn.eventRow, Params.eventRow]

/-- Counting replays does not touch what the log determines. -/
theorem Projects.bump {log : List EventRow} {t : TransactionRow} (h : Projects log t)
    (now : String) : Projects log (t.bump now) where
  occurrence type := by
    rw [← h.occurrence type]
    cases type <;> rfl
  first_event_at := h.first_event_at
  last_event_at := h.last_event_at
  event_count := h.event_count
  merchant_id := h.merchant_id
  amount_minor := h.amount_minor
  currency := h.currency
  has_amount_mismatch := h.has_amount_mismatch
  has_merchant_mismatch := h.has_merchant_mismatch

/-! ## The invariant -/

namespace Database

variable {db : Database} {event : EventIn}

/-- A new event is appended to the log of its transaction. -/
theorem log_of_new (h : db.events.find? event.event_id = none) (now id : String) :
    (db.apply now event).log id =
      db.log id ++ if id = event.transaction_id then [event.eventRow now] else [] := by
  have hid : (event.eventRow now).transaction_id = event.transaction_id := rfl
  rw [log, rows_events_of_new h, List.filter_append, log]
  split_ifs with hk
  · rw [List.filter_singleton, hid, hk]
    simp
  · rw [List.filter_singleton, hid]
    simp [Ne.symm hk]

/-- A replay adds nothing to a log. -/
theorem log_of_stored {existing : EventRow} (h : db.events.find? event.event_id = some existing)
    (now id : String) : (db.apply now event).log id = db.log id := by
  rw [log, log, events_of_stored h]

/-- A stored event is in the log of its transaction. -/
theorem mem_log {e : EventRow} {id : String} :
    e ∈ db.log id ↔ e ∈ db.events.rows ∧ e.transaction_id = id := by
  simp [log]

/-- The invariant of the reachable databases. -/
structure Projected (db : Database) : Prop where
  /-- Every row projects the log of its transaction. -/
  projects : ∀ id t, db.transactions.find? id = some t → Projects (db.log id) t
  /-- A transaction with a stored event has a row. -/
  logged : ∀ id, db.transactions.find? id = none → db.log id = []
  /-- The merchant of a stored event has a row. -/
  merchants : ∀ e ∈ db.events.rows, db.merchants.find? e.merchant_id ≠ none
  /-- The time of a stored event is canonical. -/
  canonical : ∀ e ∈ db.events.rows, Canonical e.occurred_at

/-- A new event keeps the invariant. -/
theorem Projected.of_new (h : db.Projected) (hnew : db.events.find? event.event_id = none)
    (now : String) : (db.apply now event).Projected where
  projects id t ht := by
    rw [find?_transactions_of_new hnew] at ht
    rw [log_of_new hnew]
    -- Only the transaction of the event has a longer log, and only its row is written.
    split_ifs at ht ⊢ with hid
    · subst hid
      -- It is the first event of its transaction, or one more of a row that projects the log so far.
      cases hold : db.transactions.find? event.transaction_id with
      | none =>
        rw [hold] at ht
        cases ht
        rw [h.logged _ hold]
        exact .single event now
      | some old =>
        rw [hold] at ht
        cases ht
        exact (h.projects _ old hold).snoc event now
    · rw [List.append_nil]
      exact h.projects id t ht
  logged id ht := by
    rw [find?_transactions_of_new hnew] at ht
    rw [log_of_new hnew]
    split_ifs at ht ⊢ with hid
    rw [List.append_nil]
    exact h.logged id ht
  merchants e he := by
    rw [rows_events_of_new hnew] at he
    -- The merchant of the event is upserted before the event is stored.
    rw [find?_merchants_of_new hnew]
    split_ifs with hid
    · exact Option.some_ne_none _
    · rcases List.mem_append.1 he with he | he
      · exact h.merchants e he
      · rw [List.mem_singleton] at he
        exact absurd (by rw [he]; rfl) hid
  canonical e he := by
    rw [rows_events_of_new hnew] at he
    rcases List.mem_append.1 he with he | he
    · exact h.canonical e he
    · rw [List.mem_singleton] at he
      rw [he]
      exact event.timestamp_canonical

/-- A replay keeps the invariant. -/
theorem Projected.of_stored (h : db.Projected) {existing : EventRow}
    (hold : db.events.find? event.event_id = some existing) (now : String) :
    (db.apply now event).Projected where
  projects id t ht := by
    rw [find?_transactions_of_stored hold] at ht
    rw [log_of_stored hold]
    split_ifs at ht with hid
    -- The row of the stored event is bumped, which the log does not see.
    · obtain ⟨t', ht', rfl⟩ := Option.map_eq_some_iff.1 ht
      rw [hid]
      exact (h.projects _ t' ht').bump now
    · exact h.projects id t ht
  logged id ht := by
    rw [find?_transactions_of_stored hold] at ht
    rw [log_of_stored hold]
    split_ifs at ht with hid
    · rw [hid]
      exact h.logged _ (Option.map_eq_none_iff.1 ht)
    · exact h.logged id ht
  merchants e he := by
    rw [events_of_stored hold] at he
    rw [merchants_of_stored hold]
    exact h.merchants e he
  canonical e he := by
    rw [events_of_stored hold] at he
    exact h.canonical e he

/-- Every event keeps the invariant. -/
theorem Projected.apply (h : db.Projected) (now : String) (event : EventIn) :
    (db.apply now event).Projected := by
  cases he : db.events.find? event.event_id with
  | none => exact h.of_new he now
  | some existing => exact h.of_stored he now

end Database

/-- The invariant holds along a history. -/
theorem History.projected {trace : List Occurrence} {db : Database} (h : History trace db) :
    db.Projected := by
  induction h with
  | empty => exact ⟨nofun, fun _ _ => rfl, nofun, nofun⟩
  | snoc _ now event ih => exact ih.apply now event

/-- The invariant holds in every reachable database. -/
theorem Reachable.projected {db : Database} (h : Reachable db) : db.Projected := by
  obtain ⟨_, h⟩ := h
  exact h.history.projected

/-! ## What the columns say -/

namespace Projects

variable {log : List EventRow} {t : TransactionRow}

/-- A projected log is not empty. -/
theorem ne_nil (h : Projects log t) : log ≠ [] := by
  rintro rfl
  cases h.first_event_at

/-- A lifecycle column is set exactly when an event of its type is stored. -/
theorem isSome_occurrence (h : Projects log t) (type : EventType) :
    (t.occurrence type).isSome = true ↔ Has type log := by
  rw [h.occurrence type, ← Option.ne_none_iff_isSome, Ne, List.min?_eq_none_iff]
  simp [times, Has, List.filter_eq_nil_iff]

/-- A row has a time of failure when its log has a failure. -/
theorem failed_at_isSome (h : Projects log t) :
    t.failed_at.isSome = true ↔ Has .payment_failed log :=
  h.isSome_occurrence .payment_failed

/-- A row has a time of processing when its log has one. -/
theorem processed_at_isSome (h : Projects log t) :
    t.processed_at.isSome = true ↔ Has .payment_processed log :=
  h.isSome_occurrence .payment_processed

/-- A row has a time of settlement when its log has one. -/
theorem settled_at_isSome (h : Projects log t) :
    t.settled_at.isSome = true ↔ Has .settled log :=
  h.isSome_occurrence .settled

/-- A row has a time of initiation when its log has one. -/
theorem initiated_at_isSome (h : Projects log t) :
    t.initiated_at.isSome = true ↔ Has .payment_initiated log :=
  h.isSome_occurrence .payment_initiated

/-- A row without the other lifecycle times has the time of a `payment_initiated` event. -/
theorem initiated_of_none (h : Projects log t) (hp : t.processed_at.isSome = false)
    (hf : t.failed_at.isSome = false) (hs : t.settled_at.isSome = false) :
    t.initiated_at.isSome = true := by
  obtain ⟨e, he⟩ := List.exists_mem_of_ne_nil log h.ne_nil
  rw [h.initiated_at_isSome]
  refine ⟨e, he, ?_⟩
  have hp' := h.processed_at_isSome.not.1 (by simp [hp])
  have hf' := h.failed_at_isSome.not.1 (by simp [hf])
  have hs' := h.settled_at_isSome.not.1 (by simp [hs])
  unfold Has at hp' hf' hs'
  push Not at hp' hf' hs'
  cases hty : e.event_type with
  | payment_initiated => rfl
  | payment_processed => exact absurd hty (hp' e he)
  | payment_failed => exact absurd hty (hf' e he)
  | settled => exact absurd hty (hs' e he)

/-- The amount flag says whether two events disagree on the amount. -/
theorem has_amount_mismatch_eq_one (h : Projects log t) :
    t.has_amount_mismatch = 1 ↔ Disagree EventRow.amount_minor log := by
  rw [h.has_amount_mismatch]
  split_ifs with hd <;> simp [hd]

/-- The merchant flag says whether two events disagree on the merchant. -/
theorem has_merchant_mismatch_eq_one (h : Projects log t) :
    t.has_merchant_mismatch = 1 ↔ Disagree EventRow.merchant_id log := by
  rw [h.has_merchant_mismatch]
  split_ifs with hd <;> simp [hd]

end Projects

namespace TransactionRow

variable (t : TransactionRow)

/-- The statuses by the lifecycle columns. -/
theorem status_eq_failed_iff : t.status = .failed ↔ t.failed_at.isSome = true := by
  unfold status
  split_ifs <;> simp_all

/-- A status `settled` means a settlement and no failure. -/
theorem status_eq_settled_iff :
    t.status = .settled ↔ t.settled_at.isSome = true ∧ t.failed_at.isSome = false := by
  unfold status
  split_ifs <;> simp_all

/-- A status `processed` means that there is nothing beyond processing. -/
theorem status_eq_processed_iff :
    t.status = .processed ↔ t.processed_at.isSome = true ∧ t.failed_at.isSome = false ∧
      t.settled_at.isSome = false := by
  unfold status
  split_ifs <;> simp_all

/-- A status `initiated` means that there is no later step. -/
theorem status_eq_initiated_iff :
    t.status = .initiated ↔ t.processed_at.isSome = false ∧ t.failed_at.isSome = false ∧
      t.settled_at.isSome = false := by
  unfold status
  split_ifs <;> simp_all

/-- The payment leg by its two columns. -/
theorem payment_status_eq :
    t.payment_status = match t.processed_at.isSome, t.failed_at.isSome with
      | true, true => .conflicted
      | false, true => .failed
      | true, false => .processed
      | false, false => .initiated := by
  unfold payment_status
  cases t.processed_at <;> cases t.failed_at <;> rfl

/-- The settlement leg looks at the settlement alone. -/
theorem settlement_status_eq_settled_iff :
    t.settlement_status = .settled ↔ t.settled_at.isSome = true := by
  unfold settlement_status
  split_ifs <;> simp_all

end TransactionRow

/-- The projection refines the log. In every reachable database a transaction has a row exactly when
an event of it is stored, and the row is the fold of its stored events: the first time of each event
type and none when there is no such event, the first and the last time, their number, and whether two
of them disagree on the amount or on the merchant. The three generated statuses say which types of
event are stored; in particular a status `initiated` has a `payment_initiated` event. -/
theorem projection_refines_log {db : Database} (h : Reachable db) (id : String) :
    (db.transactions.find? id ≠ none ↔ ∃ e ∈ db.events.rows, e.transaction_id = id) ∧
      ∀ t, db.transactions.find? id = some t →
        (∀ type, t.occurrence type = (times type (db.log id)).min? ∧
          (t.occurrence type = none ↔ ¬ Has type (db.log id))) ∧
        some t.first_event_at = ((db.log id).map EventRow.occurred_at).min? ∧
        some t.last_event_at = ((db.log id).map EventRow.occurred_at).max? ∧
        t.event_count = (db.log id).length ∧
        (t.has_amount_mismatch = 1 ↔ Disagree EventRow.amount_minor (db.log id)) ∧
        (t.has_merchant_mismatch = 1 ↔ Disagree EventRow.merchant_id (db.log id)) ∧
        (t.status = .failed ↔ Has .payment_failed (db.log id)) ∧
        (t.status = .settled ↔ Has .settled (db.log id) ∧ ¬ Has .payment_failed (db.log id)) ∧
        (t.status = .processed ↔ Has .payment_processed (db.log id) ∧
          ¬ Has .payment_failed (db.log id) ∧ ¬ Has .settled (db.log id)) ∧
        (t.status = .initiated ↔ Has .payment_initiated (db.log id) ∧
          ¬ Has .payment_processed (db.log id) ∧ ¬ Has .payment_failed (db.log id) ∧
          ¬ Has .settled (db.log id)) ∧
        (t.payment_status = .conflicted ↔
          Has .payment_processed (db.log id) ∧ Has .payment_failed (db.log id)) ∧
        (t.payment_status = .failed ↔
          ¬ Has .payment_processed (db.log id) ∧ Has .payment_failed (db.log id)) ∧
        (t.payment_status = .processed ↔
          Has .payment_processed (db.log id) ∧ ¬ Has .payment_failed (db.log id)) ∧
        (t.payment_status = .initiated ↔
          ¬ Has .payment_processed (db.log id) ∧ ¬ Has .payment_failed (db.log id)) ∧
        (t.settlement_status = .settled ↔ Has .settled (db.log id)) := by
  have hp := h.projected
  refine ⟨⟨fun hrow => ?_, fun ⟨e, he, hid⟩ hnone => ?_⟩, fun t ht => ?_⟩
  · obtain ⟨t, ht⟩ := Option.ne_none_iff_exists'.1 hrow
    obtain ⟨e, he⟩ := List.exists_mem_of_ne_nil _ (hp.projects id t ht).ne_nil
    exact ⟨e, Database.mem_log.1 he⟩
  · have hmem : e ∈ db.log id := Database.mem_log.2 ⟨he, hid⟩
    rw [hp.logged id hnone] at hmem
    cases hmem
  -- The row projects a log that is not empty: what is not processed, failed or settled is initiated.
  · have hproj := hp.projects id t ht
    have hI := hproj.initiated_of_none
    rw [hproj.initiated_at_isSome] at hI
    simp only [← Bool.not_eq_true, hproj.processed_at_isSome, hproj.failed_at_isSome,
      hproj.settled_at_isSome] at hI
    refine ⟨fun type => ⟨hproj.occurrence type, ?_⟩, hproj.first_event_at, hproj.last_event_at,
      hproj.event_count, hproj.has_amount_mismatch_eq_one, hproj.has_merchant_mismatch_eq_one,
      ?_, ?_, ?_, ?_, ?_, ?_, ?_, ?_, ?_⟩
    · rw [← hproj.isSome_occurrence type, Bool.not_eq_true, Option.isSome_eq_false_iff,
        Option.isNone_iff_eq_none]
    · rw [t.status_eq_failed_iff, hproj.failed_at_isSome]
    · rw [t.status_eq_settled_iff, ← Bool.not_eq_true, hproj.settled_at_isSome,
        hproj.failed_at_isSome]
    · rw [t.status_eq_processed_iff, ← Bool.not_eq_true, ← Bool.not_eq_true,
        hproj.processed_at_isSome, hproj.failed_at_isSome, hproj.settled_at_isSome]
    · rw [t.status_eq_initiated_iff, ← Bool.not_eq_true, ← Bool.not_eq_true, ← Bool.not_eq_true,
        hproj.processed_at_isSome, hproj.failed_at_isSome, hproj.settled_at_isSome]
      exact ⟨fun ⟨p, f, s⟩ => ⟨hI p f s, p, f, s⟩, fun ⟨_, hrest⟩ => hrest⟩
    -- The statuses of the two legs: each combination of occurrences has one.
    all_goals
      first
      | rw [t.settlement_status_eq_settled_iff, hproj.settled_at_isSome]
      | rw [t.payment_status_eq, ← hproj.processed_at_isSome, ← hproj.failed_at_isSome]
        cases t.processed_at.isSome <;> cases t.failed_at.isSome <;> simp

/-- The transaction of the example is initiated twice, with two amounts, and processed; its first event
comes once more. -/
theorem projection_refines_log_processed :
    ∃ t, (Database.empty.applyAll exampleEvent.timestamp
        [exampleEvent, processedNextDay, repricedEvent, exampleEvent]).transactions.find?
          exampleEvent.transaction_id = some t ∧
      t.occurrence .payment_initiated = some exampleEvent.timestamp ∧
      t.occurrence .payment_processed = some processedNextDay.timestamp ∧
      t.occurrence .settled = none ∧ t.last_event_at = processedNextDay.timestamp ∧ t.event_count = 3 ∧
      t.has_amount_mismatch = 1 ∧ ¬ t.has_merchant_mismatch = 1 ∧ t.status = .processed ∧
      t.payment_status = .processed := by
  have hr : Reachable (Database.empty.applyAll exampleEvent.timestamp
      [exampleEvent, processedNextDay, repricedEvent, exampleEvent]) := ⟨_, Run.empty.ingest _ _⟩
  obtain ⟨hrow, hall⟩ := projection_refines_log hr exampleEvent.transaction_id
  have hstored : ∃ e ∈ (Database.empty.applyAll exampleEvent.timestamp
      [exampleEvent, processedNextDay, repricedEvent, exampleEvent]).events.rows,
        e.transaction_id = exampleEvent.transaction_id :=
    ⟨exampleEvent.eventRow exampleEvent.timestamp, Table.mem_of_find? (k := exampleEvent.event_id) rfl, rfl⟩
  obtain ⟨t, ht⟩ := Option.ne_none_iff_exists'.1 (hrow.2 hstored)
  obtain ⟨htimes, -, hlast, hcount, hamount, hmerchant, -, -, hprocessed, -, -, -, hleg, -⟩ := hall t ht
  refine ⟨t, ht, (htimes _).1, (htimes _).1, (htimes _).2.2 (by decide), Option.some.inj hlast, hcount,
    hamount.2 (by decide), fun h => ?_, hprocessed.2 (by decide), hleg.2 (by decide)⟩
  exact absurd (hmerchant.1 h) (by decide)

end PaymentRecon
