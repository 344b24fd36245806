import Mathlib.Logic.Relation
import PaymentRecon.Detection

/-!
# What ingestion never takes back

`Later db db'` says that calls of `ingest_events` lead from `db` to `db'`, with any batches and under
any failures. Along such calls the log only grows at the end, and the row of a transaction only
`Advances`: a lifecycle time that is set stays set and moves to no later time, the counters grow, the
columns of the first arrival stay, and a flag that is raised stays raised. The three generated
statuses and the discrepancies that do not depend on the cutoff follow (`lifecycle_irreversible`).
-/

namespace PaymentRecon

open Store Sql

/-! ## Rows -/

/-- A time that is set stays set, and moves to no later time. -/
def Earlier (x x' : Option String) : Prop := ∀ s, x = some s → ∃ s', x' = some s' ∧ s' ≤ s

namespace Earlier

/-- A time is no later than itself. -/
theorem refl (x : Option String) : Earlier x x := fun s hs => ⟨s, hs, le_rfl⟩

/-- A time that moves back twice has moved back. -/
theorem trans {x x' x'' : Option String} (h : Earlier x x') (h' : Earlier x' x'') :
    Earlier x x'' := by
  intro s hs
  obtain ⟨s', hs', hle⟩ := h s hs
  obtain ⟨s'', hs'', hle'⟩ := h' s' hs'
  exact ⟨s'', hs'', hle'.trans hle⟩

/-- The idiom of the upsert keeps a time or replaces it by an earlier one. -/
theorem foldMin (x y : Option String) : Earlier x (foldMin x y) := by
  rintro s rfl
  cases y with
  | none => exact ⟨s, foldMin_none _, le_rfl⟩
  | some s' => exact ⟨min s s', by simp [Sql.foldMin, scalarMin, coalesce], min_le_left _ _⟩

/-- A time that is there stays there. -/
theorem isSome {x x' : Option String} (h : Earlier x x') (hx : x.isSome = true) :
    x'.isSome = true := by
  obtain ⟨s, rfl⟩ := Option.isSome_iff_exists.1 hx
  obtain ⟨s', rfl, _⟩ := h s rfl
  rfl

end Earlier

/-- The row `t'` of a transaction comes after the row `t`. -/
structure Advances (t t' : TransactionRow) : Prop where
  /-- The four lifecycle columns. -/
  occurrence : ∀ type, Earlier (t.occurrence type) (t'.occurrence type)
  /-- The first event moves to no later time. -/
  first_event_at : t'.first_event_at ≤ t.first_event_at
  /-- The last event moves to no earlier time. -/
  last_event_at : t.last_event_at ≤ t'.last_event_at
  /-- No event is uncounted. -/
  event_count : t.event_count ≤ t'.event_count
  /-- No replay is uncounted. -/
  duplicate_event_count : t.duplicate_event_count ≤ t'.duplicate_event_count
  /-- The amount stays. -/
  amount_minor : t'.amount_minor = t.amount_minor
  /-- The currency stays. -/
  currency : t'.currency = t.currency
  /-- The merchant stays. -/
  merchant_id : t'.merchant_id = t.merchant_id
  /-- The amount flag stays raised. -/
  has_amount_mismatch : t.has_amount_mismatch = 1 → t'.has_amount_mismatch = 1
  /-- The merchant flag stays raised. -/
  has_merchant_mismatch : t.has_merchant_mismatch = 1 → t'.has_merchant_mismatch = 1

namespace Advances

variable {t t' t'' : TransactionRow}

/-- A row advances to itself. -/
theorem refl (t : TransactionRow) : Advances t t :=
  ⟨fun _ => .refl _, le_rfl, le_rfl, le_rfl, le_rfl, rfl, rfl, rfl, id, id⟩

/-- Advances compose. -/
theorem trans (h : Advances t t') (h' : Advances t' t'') : Advances t t'' where
  occurrence type := (h.occurrence type).trans (h'.occurrence type)
  first_event_at := h'.first_event_at.trans h.first_event_at
  last_event_at := h.last_event_at.trans h'.last_event_at
  event_count := h.event_count.trans h'.event_count
  duplicate_event_count := h.duplicate_event_count.trans h'.duplicate_event_count
  amount_minor := h'.amount_minor.trans h.amount_minor
  currency := h'.currency.trans h.currency
  merchant_id := h'.merchant_id.trans h.merchant_id
  has_amount_mismatch := h'.has_amount_mismatch ∘ h.has_amount_mismatch
  has_merchant_mismatch := h'.has_merchant_mismatch ∘ h.has_merchant_mismatch

/-- Folding an event into a row. -/
theorem merge (params : Params) (t : TransactionRow) :
    Advances t (params.mergeTransaction t) where
  occurrence type := by
    cases type <;> exact .foldMin _ _
  first_event_at := min_le_left _ _
  last_event_at := le_max_left _ _
  event_count := Nat.le_succ _
  duplicate_event_count := le_rfl
  amount_minor := rfl
  currency := rfl
  merchant_id := rfl
  has_amount_mismatch h := by
    simp only [Params.mergeTransaction, h]
    split_ifs <;> rfl
  has_merchant_mismatch h := by
    simp only [Params.mergeTransaction, h]
    split_ifs <;> rfl

/-- Counting a replay. -/
theorem bump (now : String) (t : TransactionRow) : Advances t (t.bump now) where
  occurrence type := by
    cases type <;> exact .refl _
  first_event_at := le_rfl
  last_event_at := le_rfl
  event_count := le_rfl
  duplicate_event_count := Nat.le_succ _
  amount_minor := rfl
  currency := rfl
  merchant_id := rfl
  has_amount_mismatch := id
  has_merchant_mismatch := id

end Advances

/-! ## The generated columns -/

/-- The order of the rolled-up status. -/
def TransactionStatus.rank : TransactionStatus → ℕ
  | initiated => 0
  | processed => 1
  | settled => 2
  | failed => 3

/-- The order of the payment leg: `initiated` is the least status and `conflicted` the greatest, and
`processed` and `failed` do not compare. -/
def PaymentStatus.Le (p p' : PaymentStatus) : Prop := p = p' ∨ p = .initiated ∨ p' = .conflicted

instance (p p' : PaymentStatus) : Decidable (p.Le p') := inferInstanceAs (Decidable (_ ∨ _))

namespace Advances

variable {t t' : TransactionRow} (h : Advances t t')

include h

/-- The rolled-up status does not move down. -/
theorem status : t.status.rank ≤ t'.status.rank := by
  have hf := (h.occurrence .payment_failed).isSome
  have hs := (h.occurrence .settled).isSome
  have hp := (h.occurrence .payment_processed).isSome
  simp only [TransactionRow.occurrence] at hf hs hp
  unfold TransactionRow.status
  split_ifs <;> simp_all [TransactionStatus.rank]

/-- The payment leg does not move down. -/
theorem payment_status : t.payment_status.Le t'.payment_status := by
  have hf := (h.occurrence .payment_failed).isSome
  have hp := (h.occurrence .payment_processed).isSome
  simp only [TransactionRow.occurrence] at hf hp
  unfold TransactionRow.payment_status
  split_ifs <;> simp_all [PaymentStatus.Le]

/-- The settlement leg stays settled. -/
theorem settlement_status (hs : t.settlement_status = .settled) :
    t'.settlement_status = .settled := by
  rw [TransactionRow.settlement_status_eq_settled_iff] at hs ⊢
  exact (h.occurrence .settled).isSome hs

end Advances

/-! ## Databases -/

/-- The database `db'` comes after `db`: its log is longer at the end, and its rows come after those
of `db`. -/
structure Grows (db db' : Database) : Prop where
  /-- The log keeps its rows, and new ones come at its end. -/
  events : db.events.rows <+: db'.events.rows
  /-- Every transaction keeps a row, which comes after the old one. -/
  transactions : ∀ id t, db.transactions.find? id = some t →
    ∃ t', db'.transactions.find? id = some t' ∧ Advances t t'

namespace Grows

variable {db db' db'' : Database}

/-- A database grows to itself. -/
theorem refl (db : Database) : Grows db db :=
  ⟨List.prefix_rfl, fun _ t ht => ⟨t, ht, .refl t⟩⟩

/-- Growth composes. -/
theorem trans (h : Grows db db') (h' : Grows db' db'') : Grows db db'' where
  events := h.events.trans h'.events
  transactions id t ht := by
    obtain ⟨t', ht', hadv⟩ := h.transactions id t ht
    obtain ⟨t'', ht'', hadv'⟩ := h'.transactions id t' ht'
    exact ⟨t'', ht'', hadv.trans hadv'⟩

/-- One event. -/
theorem apply (now : String) (db : Database) (event : EventIn) :
    Grows db (db.apply now event) := by
  cases he : db.events.find? event.event_id with
  | some existing =>
    refine ⟨by rw [Database.events_of_stored he], fun id t ht => ?_⟩
    rw [Database.find?_transactions_of_stored he]
    split_ifs with hid
    · subst hid
      exact ⟨t.bump now, by rw [ht, Option.map_some], .bump now t⟩
    · exact ⟨t, ht, .refl t⟩
  | none =>
    refine ⟨?_, fun id t ht => ?_⟩
    · rw [Database.rows_events_of_new he]
      exact List.prefix_append _ _
    · rw [Database.find?_transactions_of_new he]
      split_ifs with hid
      · subst hid
        exact ⟨_, rfl, by rw [ht, Option.elim_some]; exact .merge _ t⟩
      · exact ⟨t, ht, .refl t⟩

/-- A batch, one event after another. -/
theorem applyAll (now : String) (db : Database) (events : List EventIn) :
    Grows db (db.applyAll now events) := by
  induction events generalizing db with
  | nil => exact .refl db
  | cons event events ih => exact (apply now db event).trans (ih _)

end Grows

/-- One call of `ingest_events`, with any batch and under any failures, leads from `db` to `db'`. -/
def Ingests (db db' : Database) : Prop :=
  ∃ faults now events, (db.ingest faults now events).conn.committed = db'

/-- Calls of `ingest_events` lead from `db` to `db'`. -/
def Later : Database → Database → Prop := Relation.ReflTransGen Ingests

namespace Ingests

variable {db db' : Database}

/-- A call that raises changes nothing, and one that returns applies its batch. -/
theorem eq_or_applyAll (hc : db.Checked) (h : Ingests db db') :
    db' = db ∨ ∃ now events, db' = db.applyAll now events := by
  obtain ⟨faults, now, events, rfl⟩ := h
  rcases ingestEvents_run hc events faults with ⟨_, _, hconn⟩ | ⟨_, hconn, _⟩
  · exact .inl (by rw [Database.ingest, hconn]; rfl)
  · exact .inr ⟨now, events, by rw [Database.ingest, hconn]; rfl⟩

/-- A call leads from a reachable database to a reachable one. -/
theorem reachable (hr : Reachable db) (h : Ingests db db') : Reachable db' := by
  obtain ⟨trace, hrun⟩ := hr
  rcases h.eq_or_applyAll hrun.history.checked with rfl | ⟨now, events, rfl⟩
  · exact ⟨trace, hrun⟩
  · exact ⟨_, hrun.ingest now events⟩

/-- A call only extends the database. -/
theorem grows (hc : db.Checked) (h : Ingests db db') : Grows db db' := by
  rcases h.eq_or_applyAll hc with rfl | ⟨now, events, rfl⟩
  · exact .refl _
  · exact .applyAll now db events

/-- Any batch can be committed next. -/
theorem applyAll (hc : db.Checked) (now : String) (events : List EventIn) :
    Ingests db (db.applyAll now events) :=
  ⟨fun _ => none, now, events, by
    rw [Database.ingest, (ingestEvents_run_clean hc now events).2]; rfl⟩

end Ingests

namespace Later

variable {db db' : Database}

/-- A later database is reachable, too. -/
theorem reachable (hr : Reachable db) (h : Later db db') : Reachable db' := by
  induction h with
  | refl => exact hr
  | tail _ hstep ih => exact hstep.reachable ih

/-- Calls only extend the database. -/
theorem grows (hr : Reachable db) (h : Later db db') : Grows db db' := by
  induction h with
  | refl => exact .refl _
  | tail hprev hstep ih => exact ih.trans (hstep.grows (reachable hr hprev).checked)

end Later

/-! ## Discrepancies -/

/-- The types that are never taken back: they say that something was seen, not that something is
missing or late. -/
def DiscrepancyType.Lasting (type : DiscrepancyType) : Prop :=
  type ∈ [.settled_after_failure, .conflicting_payment_state, .amount_mismatch, .merchant_mismatch]

instance (type : DiscrepancyType) : Decidable type.Lasting := inferInstanceAs (Decidable (_ ∈ _))

/-- A lasting discrepancy stays in the row, whatever the cutoffs. -/
theorem Advances.found {t t' : TransactionRow} (h : Advances t t') {type : DiscrepancyType}
    (hl : type.Lasting) {cutoff : String} (hf : Found cutoff t type) (cutoff' : String) :
    Found cutoff' t' type := by
  have hfailed := (h.occurrence .payment_failed).isSome
  have hsettled := (h.occurrence .settled).isSome
  have hprocessed := (h.occurrence .payment_processed).isSome
  cases type with
  | settled_after_failure => exact ⟨hsettled hf.1, hfailed hf.2⟩
  | conflicting_payment_state => exact ⟨hprocessed hf.1, hfailed hf.2⟩
  | amount_mismatch => exact h.has_amount_mismatch hf
  | merchant_mismatch => exact h.has_merchant_mismatch hf
  | _ => exact absurd hl (by decide)

/-- Ingestion takes nothing back. Along any calls of `ingest_events` from a reachable database, with
any batches and under any failures, the log keeps its rows and grows at its end; the row of every
transaction stays and only advances; its rolled-up status and its payment leg do not move down, and
its settlement leg stays settled; and a transaction that some page of some report lists with a
lasting type has that type in its detail and in every report that asks for the type and whose filter
selects the transaction, whatever the cutoff, the sort, and the page size. -/
theorem lifecycle_irreversible {db db' : Database} (h : Reachable db) (hlater : Later db db') :
    db.events.rows <+: db'.events.rows ∧
      (∀ id t, db.transactions.find? id = some t → ∃ t', db'.transactions.find? id = some t' ∧
        Advances t t' ∧ t.status.rank ≤ t'.status.rank ∧
        t.payment_status.Le t'.payment_status ∧
        (t.settlement_status = .settled → t'.settlement_status = .settled)) ∧
      ∀ filter types cutoff sort_by sort_order limit offset,
        ∀ item ∈ (discrepancies db filter types cutoff sort_by sort_order limit offset).items,
        ∀ type : DiscrepancyType, type.Lasting → type ∈ item.discrepancy_types →
          ∃ t' merchant_name,
            getTransaction db' item.transaction_id = some (t', merchant_name) ∧
            ∀ cutoff', type ∈ discrepancyTypesForTransaction t' cutoff' ∧
              ∀ (filter' : Condition) (types' : List DiscrepancyType) (sort_by' : DiscrepancySort)
                (sort_order' : SortOrder) (limit' : ℕ),
                filter'.selects t' = true → type ∈ types' → 0 < limit' →
                ∃ k, ∃ item' ∈ (discrepancies db' filter' types' cutoff' sort_by' sort_order' limit'
                    (k * limit')).items,
                  item'.transaction_id = item.transaction_id ∧ type ∈ item'.discrepancy_types := by
  have hgrows := hlater.grows h
  have hr' := hlater.reachable h
  refine ⟨hgrows.events, fun id t ht => ?_, ?_⟩
  · obtain ⟨t', ht', hadv⟩ := hgrows.transactions id t ht
    exact ⟨t', ht', hadv, hadv.status, hadv.payment_status, hadv.settlement_status⟩
  · intro filter types cutoff sort_by sort_order limit offset item hitem type hlast hmem
    -- The item is a row of the old database in which the type is present.
    obtain ⟨r, hr, _, rfl⟩ := mem_items hitem
    have hfound := ((mem_present h.checked hr).1 hmem).1
    obtain ⟨t, m, ht, _, _, rfl⟩ := mem_flagged.1 hr
    obtain ⟨t', ht', hadv⟩ := hgrows.transactions _ t (Table.find?_key ht)
    have hfound' := hadv.found hlast hfound
    obtain ⟨hmem', hid⟩ := Table.find?_eq_some.1 ht'
    obtain ⟨m', hm'⟩ := hr'.projected.merchant_of_transaction hmem'
    refine ⟨t', m'.merchant_name, ?_, fun cutoff' => ⟨?_, ?_⟩⟩
    · show getTransaction db' t.transaction_id = _
      rw [getTransaction, ht', Option.bind_some, hm', Option.map_some]
    · exact (mem_discrepancyTypesForTransaction (hr'.checked t' hmem')
        (hr'.projected.occurrence_ne_empty ht') cutoff' type).2 (hfound' cutoff')
    · intro filter' types' sort_by' sort_order' limit' hsel htype hlimit
      have hrow : flagRow cutoff' t' m'.merchant_name ∈ flagged db' filter' cutoff' :=
        mem_flagged.2 ⟨t', m', hmem', hm', hsel, rfl⟩
      obtain ⟨k, hk⟩ := (mem_pages hlimit).2
        ⟨_, hrow, (selected_iff hrow types').2 ⟨type, htype, hfound' cutoff'⟩, rfl⟩
      exact ⟨k, _, hk, hid, (mem_present hr'.checked hrow).2 ⟨hfound' cutoff', htype⟩⟩

/-- A transaction with two amounts is processed: what the report said of it stays. -/
theorem lifecycle_irreversible_processed :
    let db := Database.empty.applyAll exampleEvent.timestamp [exampleEvent, repricedEvent]
    let db' := db.applyAll processedNextDay.timestamp [processedNextDay, exampleEvent]
    db.events.rows <+: db'.events.rows ∧
      (∃ t t', db.transactions.find? exampleEvent.transaction_id = some t ∧
        db'.transactions.find? exampleEvent.transaction_id = some t' ∧ Advances t t' ∧
        t.status.rank ≤ t'.status.rank) ∧
      ∃ t' merchant_name, getTransaction db' exampleEvent.transaction_id = some (t', merchant_name) ∧
        .amount_mismatch ∈ discrepancyTypesForTransaction t' (formatTs fourDaysLater) := by
  intro db db'
  have hr : Reachable db := ⟨_, Run.empty.ingest _ _⟩
  obtain ⟨hlog, hrows, hlasting⟩ :=
    @lifecycle_irreversible _ db' hr (.single (.applyAll hr.checked _ _))
  obtain ⟨t, ht⟩ : ∃ t, db.transactions.find? exampleEvent.transaction_id = some t := ⟨_, rfl⟩
  obtain ⟨t', ht', hadv, hrank, -⟩ := hrows _ t ht
  -- The report before the event was processed.
  have hreport : ∃ item ∈ (discrepancies db (buildTransactionFilters {}) defaultDiscrepancyTypes
      (formatTs twoDaysLater) .severity .desc 50 0).items,
        DiscrepancyType.amount_mismatch ∈ item.discrepancy_types ∧
          item.transaction_id = exampleEvent.transaction_id := by decide +kernel
  obtain ⟨item, hitem, hmem, hid⟩ := hreport
  obtain ⟨t'', merchant_name, hfound, hdetail⟩ := hlasting _ _ _ _ _ _ _ item hitem _ (by decide) hmem
  rw [hid] at hfound
  exact ⟨hlog, ⟨t, t', ht, ht', hadv, hrank⟩, t'', merchant_name, hfound, (hdetail _).1⟩

end PaymentRecon
