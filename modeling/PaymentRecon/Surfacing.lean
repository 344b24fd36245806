import PaymentRecon.Detection

/-!
# What the report says about the log

`FoundIn cutoff log type` says in terms of the stored events of a transaction that a discrepancy is
present; a row that projects the log has the same discrepancies (`Projects.found_iff`). From this
follow the two results about the default report over all its pages: a transaction whose events
disagree on the amount or on the merchant is always in it (`contradictions_surface`), and a
transaction is left out, once everything about it is stale, exactly when its log is clean
(`report_complete`). A disagreement on the currency alone leaves no trace
(`currency_contradiction_hidden`): the projection keeps the first currency and nothing compares it.
-/

namespace PaymentRecon

open Store Sql

/-- An event of one type happened before the cutoff. -/
def Stale (cutoff : String) (type : EventType) (log : List EventRow) : Prop :=
  ∃ e ∈ log, e.event_type = type ∧ e.occurred_at < cutoff

instance (cutoff : String) (type : EventType) (log : List EventRow) :
    Decidable (Stale cutoff type log) :=
  inferInstanceAs (Decidable (∃ e ∈ log, e.event_type = type ∧ e.occurred_at < cutoff))

/-- The discrepancy is present in the log, leaving aside replays. -/
def FoundIn (cutoff : String) (log : List EventRow) : DiscrepancyType → Prop
  | .settled_after_failure => Has .settled log ∧ Has .payment_failed log
  | .settled_without_processing =>
    Has .settled log ∧ ¬ Has .payment_processed log ∧ ¬ Has .payment_failed log
  | .processed_not_settled =>
    Has .payment_processed log ∧ ¬ Has .payment_failed log ∧ ¬ Has .settled log ∧
      Stale cutoff .payment_processed log
  | .stuck_in_initiated =>
    Has .payment_initiated log ∧ ¬ Has .payment_processed log ∧ ¬ Has .payment_failed log ∧
      ¬ Has .settled log ∧ Stale cutoff .payment_initiated log
  | .conflicting_payment_state => Has .payment_processed log ∧ Has .payment_failed log
  | .amount_mismatch => Disagree EventRow.amount_minor log
  | .merchant_mismatch => Disagree EventRow.merchant_id log
  | .duplicate_events => False

/-- What is present in a log is in the default report. -/
theorem FoundIn.ne_duplicate_events {cutoff : String} {log : List EventRow} {type : DiscrepancyType}
    (h : FoundIn cutoff log type) : type ≠ .duplicate_events := by
  rintro rfl
  exact h

namespace Projects

variable {log : List EventRow} {t : TransactionRow}

/-- The first event of a type is before the cutoff when one of them is. -/
theorem before_occurrence (h : Projects log t) (cutoff : String) (type : EventType) :
    before (t.occurrence type) cutoff = true ↔ Stale cutoff type log := by
  have hmem : ∀ s, s ∈ times type log ↔ ∃ e ∈ log, e.event_type = type ∧ e.occurred_at = s := by
    intro s
    simp [times, and_assoc]
  rw [h.occurrence type]
  cases hmin : (times type log).min? with
  | none =>
    rw [List.min?_eq_none_iff] at hmin
    refine iff_of_false (by simp [before]) ?_
    rintro ⟨e, he, hty, _⟩
    have := (hmem e.occurred_at).2 ⟨e, he, hty, rfl⟩
    rw [hmin] at this
    cases this
  | some s =>
    obtain ⟨hs, hleast⟩ := List.min?_eq_some_iff.1 hmin
    simp only [before, Option.any_some, decide_eq_true_eq]
    -- The column is the least of the times, so it is before the cutoff when any of them is.
    constructor
    · intro hlt
      obtain ⟨e, he, hty, hat⟩ := (hmem s).1 hs
      exact ⟨e, he, hty, hat ▸ hlt⟩
    · rintro ⟨e, he, hty, hlt⟩
      exact lt_of_le_of_lt (hleast _ ((hmem _).2 ⟨e, he, hty, rfl⟩)) hlt

/-- A row has the discrepancies of the log that it projects. -/
theorem found_iff (h : Projects log t) (cutoff : String) {type : DiscrepancyType}
    (hne : type ≠ .duplicate_events) : Found cutoff t type ↔ FoundIn cutoff log type := by
  have hs := h.settled_at_isSome
  have hf := h.failed_at_isSome
  have hp := h.processed_at_isSome
  have hi := h.initiated_at_isSome
  cases type with
  | settled_after_failure => rw [Found, FoundIn, hs, hf]
  | settled_without_processing => rw [Found, FoundIn, hs, hf, hp]
  | processed_not_settled =>
    rw [Found, FoundIn, hs, hf, hp, ← h.before_occurrence cutoff .payment_processed]
    rfl
  | stuck_in_initiated =>
    rw [Found, FoundIn, hs, hf, hp, hi, ← h.before_occurrence cutoff .payment_initiated]
    rfl
  | conflicting_payment_state => rw [Found, FoundIn, hp, hf]
  | amount_mismatch => exact h.has_amount_mismatch_eq_one
  | merchant_mismatch => exact h.has_merchant_mismatch_eq_one
  | duplicate_events => exact absurd rfl hne

/-- A row has a discrepancy other than replays when its log has one. -/
theorem exists_found_iff (h : Projects log t) (cutoff : String) :
    (∃ type, type ≠ .duplicate_events ∧ Found cutoff t type) ↔ ∃ type, FoundIn cutoff log type :=
  exists_congr fun _ => ⟨fun ⟨hne, hf⟩ => (h.found_iff cutoff hne).1 hf, fun hf =>
    ⟨hf.ne_duplicate_events, (h.found_iff cutoff hf.ne_duplicate_events).2 hf⟩⟩

end Projects

namespace Database.Projected

variable {db : Database} (h : db.Projected)

include h

/-- The transaction of a flagged row projects its log. -/
theorem projects_of_mem_flagged {filter : Condition} {cutoff : String} {r : FlaggedRow}
    (hr : r ∈ flagged db filter cutoff) : Projects (db.log r.t.transaction_id) r.t := by
  obtain ⟨t, m, ht, _, _, rfl⟩ := mem_flagged.1 hr
  exact h.projects _ t (Table.find?_key ht)

/-- Every transaction has a flagged row. -/
theorem exists_flagged {t : TransactionRow} (ht : t ∈ db.transactions.rows) (cutoff : String) :
    ∃ merchant_name,
      flagRow cutoff t merchant_name ∈ flagged db (buildTransactionFilters {}) cutoff := by
  obtain ⟨m, hm⟩ := h.merchant_of_transaction ht
  exact ⟨m.merchant_name, mem_flagged.2 ⟨t, m, ht, hm, rfl, rfl⟩⟩

end Database.Projected

/-- The unfiltered default report shows a transaction on some page. -/
def Reported (db : Database) (cutoff : String) (sort_by : DiscrepancySort) (sort_order : SortOrder)
    (limit : ℕ) (id : String) : Prop :=
  ∃ k, ∃ item ∈ (discrepancies db (buildTransactionFilters {}) defaultDiscrepancyTypes cutoff sort_by
    sort_order limit (k * limit)).items, item.transaction_id = id

/-- A transaction is reported when a discrepancy is present in its log. -/
theorem reported_iff {db : Database} (h : db.Projected) {id : String} {t : TransactionRow}
    (ht : db.transactions.find? id = some t) (cutoff : String) (sort_by : DiscrepancySort)
    (sort_order : SortOrder) {limit : ℕ} (hl : 0 < limit) :
    Reported db cutoff sort_by sort_order limit id ↔ ∃ type, FoundIn cutoff (db.log id) type := by
  rw [← (h.projects id t ht).exists_found_iff cutoff]
  obtain ⟨hmem, hid⟩ := Table.find?_eq_some.1 ht
  constructor
  · rintro ⟨k, item, hitem, hitem_id⟩
    obtain ⟨r, hr, hsel, rfl⟩ := (mem_pages hl).1 ⟨k, hitem⟩
    obtain ⟨t', m, ht', _, _, rfl⟩ := mem_flagged.1 hr
    have : t' = t := Table.eq_of_key_eq ht' hmem (hitem_id.trans hid.symm)
    subst this
    exact (selected_default hr).1 hsel
  · intro hex
    obtain ⟨merchant_name, hr⟩ := h.exists_flagged hmem cutoff
    obtain ⟨k, hk⟩ := (mem_pages hl).2 ⟨_, hr, (selected_default hr).2 hex, rfl⟩
    exact ⟨k, _, hk, hid⟩

/-- The transactions that the unfiltered summary counts as discrepancies. -/
def countedIds (db : Database) (cutoff : String) : List String :=
  (db.transactions.rows.filter fun t => (discrepancyPredicate cutoff t).holds).map
    TransactionRow.transaction_id

/-- The discrepancy count of the unfiltered summary is the number of these transactions. -/
theorem discrepancy_count_eq (db : Database) (group_by : List Dimension) (cutoff : String)
    (limit offset : ℕ) :
    (reconciliationSummary db (buildTransactionFilters {}) group_by cutoff limit
      offset).totals.discrepancy_count = (countedIds db cutoff).length := by
  have hall : db.transactions.rows.filter (buildTransactionFilters {}).selects =
      db.transactions.rows := List.filter_eq_self.2 fun _ _ => rfl
  have hmetrics : (metrics cutoff db.transactions.rows).discrepancy_count =
      (countedIds db cutoff).length := by
    rw [countedIds, List.length_map]
    exact sum_map_caseWhen _ _
  rw [← hmetrics, reconciliationSummary, hall]
  split_ifs <;> rfl

/-- The example event again, under a new id and in another currency. -/
def redenominatedEvent : EventIn :=
  { exampleEvent with
    event_id := "redenominated"
    currency := "USD"
    event_id_valid := by decide }

/-- The default report without a selected row is empty on every page. -/
theorem not_reported_of_empty {db : Database} {cutoff : String} {sort_by : DiscrepancySort}
    {sort_order : SortOrder} {limit : ℕ} {id : String} (hl : 0 < limit)
    (hnone : ∀ r ∈ flagged db (buildTransactionFilters {}) cutoff,
      r.selected defaultDiscrepancyTypes = false) :
    ¬ Reported db cutoff sort_by sort_order limit id := by
  rintro ⟨k, item, hitem, _⟩
  obtain ⟨r, hr, hsel, _⟩ := (mem_pages hl).1 ⟨k, hitem⟩
  rw [hnone r hr] at hsel
  cases hsel

/-- Contradictory events surface. In every reachable database a transaction with two stored events of
different amounts or different merchants is in the default report, whatever the sort and the page
size, its detail lists a discrepancy, and the summary counts it, whatever the cutoff. -/
theorem contradictions_surface {db : Database} (h : Reachable db) {id : String}
    (hd : Disagree EventRow.amount_minor (db.log id) ∨ Disagree EventRow.merchant_id (db.log id))
    (cutoff : String) :
    (∀ sort_by sort_order limit, 0 < limit → Reported db cutoff sort_by sort_order limit id) ∧
      (∃ t merchant_name, getTransaction db id = some (t, merchant_name) ∧
        discrepancyTypesForTransaction t cutoff ≠ []) ∧
      id ∈ countedIds db cutoff ∧
      ∀ group_by limit offset,
        (reconciliationSummary db (buildTransactionFilters {}) group_by cutoff limit
          offset).totals.discrepancy_count = (countedIds db cutoff).length := by
  have hp := h.projected
  obtain ⟨type, htype⟩ : ∃ type, FoundIn cutoff (db.log id) type := by
    rcases hd with hd | hd
    exacts [⟨.amount_mismatch, hd⟩, ⟨.merchant_mismatch, hd⟩]
  have hne := htype.ne_duplicate_events
  -- The transaction has a row, since two events of it are stored.
  obtain ⟨t, ht⟩ : ∃ t, db.transactions.find? id = some t := by
    refine Option.ne_none_iff_exists'.1 fun hnone => ?_
    rw [hp.logged id hnone] at hd
    rcases hd with ⟨_, he, _⟩ | ⟨_, he, _⟩ <;> cases he
  obtain ⟨hmem, hid⟩ := Table.find?_eq_some.1 ht
  have hfound : Found cutoff t type := ((hp.projects id t ht).found_iff cutoff hne).2 htype
  refine ⟨fun sort_by sort_order limit hl =>
      (reported_iff hp ht cutoff sort_by sort_order hl).2 ⟨type, htype⟩, ?_, ?_,
    fun group_by limit offset => discrepancy_count_eq db group_by cutoff limit offset⟩
  · obtain ⟨m, hm⟩ := hp.merchant_of_transaction hmem
    refine ⟨t, m.merchant_name, by rw [getTransaction, ht, Option.bind_some, hm]; rfl, ?_⟩
    have hlist := (mem_discrepancyTypesForTransaction (h.checked t hmem)
      (hp.occurrence_ne_empty ht) cutoff type).2 hfound
    exact List.ne_nil_of_mem hlist
  · rw [countedIds, List.mem_map]
    refine ⟨t, List.mem_filter.2 ⟨hmem, ?_⟩, hid⟩
    exact (holds_discrepancyPredicate cutoff t).2 ⟨type, hne, hfound⟩

/-- Two events of different amounts surface. -/
theorem contradictions_surface_repriced :
    exampleEvent.transaction_id ∈
      countedIds (Database.empty.applyAll "" [exampleEvent, repricedEvent]) (formatTs twoDaysLater) :=
  (contradictions_surface ⟨_, Run.empty.ingest "" [exampleEvent, repricedEvent]⟩
    (.inl (by decide)) (formatTs twoDaysLater)).2.2.1

/-- A disagreement on the currency alone is not reported, not listed by the detail, and not
counted. -/
theorem currency_contradiction_hidden :
    ¬ ∀ db, Reachable db → ∀ id, Disagree EventRow.currency (db.log id) → ∀ cutoff,
      Reported db cutoff .severity .desc 50 id ∨
        (∃ t merchant_name, getTransaction db id = some (t, merchant_name) ∧
          discrepancyTypesForTransaction t cutoff ≠ []) ∨
        id ∈ countedIds db cutoff := by
  intro h
  rcases h _ ⟨_, Run.empty.ingest "" [exampleEvent, redenominatedEvent]⟩
    exampleEvent.transaction_id (by decide) (formatTs dayOfTheSamples) with
      hrep | ⟨t, merchant_name, ht, hne⟩ | hcount
  · exact not_reported_of_empty (by decide) (by decide) hrep
  · have hrow : (getTransaction (Database.empty.applyAll "" [exampleEvent, redenominatedEvent])
        exampleEvent.transaction_id).map
          (fun r => discrepancyTypesForTransaction r.1 (formatTs dayOfTheSamples)) = some [] := by decide
    rw [ht] at hrow
    exact hne (Option.some.inj hrow)
  · revert hcount
    decide

/-- The seven conditions of the report, once everything is stale: of the types of event that are
stored (`P` processed, `F` failed, `S` settled, and `I` initiated when there is no other), two
combinations are clean. -/
theorem no_finding_iff {A M P F S I : Prop} (hI : ¬ P → ¬ F → ¬ S → I) :
    ¬ (S ∧ F ∨ S ∧ ¬ P ∧ ¬ F ∨ P ∧ ¬ F ∧ ¬ S ∧ P ∨ I ∧ ¬ P ∧ ¬ F ∧ ¬ S ∧ I ∨ P ∧ F ∨ A ∨ M) ↔
      ¬ A ∧ ¬ M ∧ (P ∧ S ∧ ¬ F ∨ F ∧ ¬ P ∧ ¬ S) := by
  by_cases hP : P <;> by_cases hF : F <;> by_cases hS : S <;> simp_all

/-- Detection is complete and has no false alarms. For every reachable database, every transaction,
and every cutoff after its last event, the default report leaves the transaction out, on every page
of every sort, exactly when its stored events agree on the amount and on the merchant and either are
processed and settled without a failure, or failed and neither processed nor settled. -/
theorem report_complete {db : Database} (h : Reachable db) {id : String} {t : TransactionRow}
    (ht : db.transactions.find? id = some t) {cutoff : String} (hc : t.last_event_at < cutoff)
    (sort_by : DiscrepancySort) (sort_order : SortOrder) {limit : ℕ} (hl : 0 < limit) :
    ¬ Reported db cutoff sort_by sort_order limit id ↔
      ¬ Disagree EventRow.amount_minor (db.log id) ∧ ¬ Disagree EventRow.merchant_id (db.log id) ∧
        ((Has .payment_processed (db.log id) ∧ Has .settled (db.log id) ∧
            ¬ Has .payment_failed (db.log id)) ∨
          (Has .payment_failed (db.log id) ∧ ¬ Has .payment_processed (db.log id) ∧
            ¬ Has .settled (db.log id))) := by
  have hp := h.projected
  have hproj := hp.projects id t ht
  -- Past the last event, every event is stale.
  have hstale : ∀ type, Stale cutoff type (db.log id) ↔ Has type (db.log id) := by
    intro type
    refine exists_congr fun e => and_congr_right fun he => and_iff_left ?_
    have hlast := hproj.last_event_at.symm
    rw [List.max?_eq_some_iff] at hlast
    exact lt_of_le_of_lt (hlast.2 _ (List.mem_map_of_mem he)) hc
  -- A log with nothing else has a `payment_initiated` event.
  have hinit := hproj.initiated_of_none
  simp only [← Bool.not_eq_true, hproj.initiated_at_isSome, hproj.processed_at_isSome,
    hproj.failed_at_isSome, hproj.settled_at_isSome] at hinit
  rw [reported_iff hp ht cutoff sort_by sort_order hl]
  have hall : (∃ type, FoundIn cutoff (db.log id) type) ↔
      FoundIn cutoff (db.log id) .settled_after_failure ∨
        FoundIn cutoff (db.log id) .settled_without_processing ∨
        FoundIn cutoff (db.log id) .processed_not_settled ∨
        FoundIn cutoff (db.log id) .stuck_in_initiated ∨
        FoundIn cutoff (db.log id) .conflicting_payment_state ∨
        FoundIn cutoff (db.log id) .amount_mismatch ∨
        FoundIn cutoff (db.log id) .merchant_mismatch := by
    constructor
    · rintro ⟨type, hf⟩
      cases type <;> simp_all [FoundIn]
    · rintro (hf | hf | hf | hf | hf | hf | hf) <;> exact ⟨_, hf⟩
  rw [hall]
  simp only [FoundIn, hstale]
  exact no_finding_iff hinit

/-- One transaction is processed and settled, and another one is initiated and no more. -/
def settledAndInitiated : List EventIn :=
  [exampleEvent, processedNextDay, sampleEvent "8" exampleEvent.transaction_id .settled,
    sampleEvent "9" "g" .payment_initiated]

/-- Two days later, the settled transaction is out of the report, and the other one is not. -/
theorem report_complete_settled :
    ¬ Reported (Database.empty.applyAll exampleEvent.timestamp settledAndInitiated)
        (formatTs twoDaysLater) .severity .desc 1 exampleEvent.transaction_id ∧
      Reported (Database.empty.applyAll exampleEvent.timestamp settledAndInitiated)
        (formatTs twoDaysLater) .severity .desc 1 "g" := by
  have hr : Reachable (Database.empty.applyAll exampleEvent.timestamp settledAndInitiated) :=
    ⟨_, Run.empty.ingest _ _⟩
  have hclean := @report_complete _ hr exampleEvent.transaction_id _ rfl (formatTs twoDaysLater)
    (by decide +kernel) .severity .desc 1 Nat.one_pos
  have hstuck := @report_complete _ hr "g" _ rfl (formatTs twoDaysLater) (by decide +kernel) .severity
    .desc 1 Nat.one_pos
  refine ⟨hclean.2 (by decide +kernel), ?_⟩
  by_contra hout
  exact absurd (hstuck.1 hout) (by decide +kernel)

end PaymentRecon
