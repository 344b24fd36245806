import PaymentRecon.Projection
import PaymentRecon.Queries

/-!
# Detecting discrepancies

`Found cutoff t type` says in terms of the columns of `t` that the discrepancy `type` is present. The
three detectors compute it: the flag columns (`flag_eq_one_iff`), the predicate of the summary
(`holds_discrepancyPredicate`), and the Python function (`mem_discrepancyTypesForTransaction`). The
last one tests timestamps for truth and counts a flag that is not 0, so its lemma needs that no
timestamp is empty and that the stored flags are 0 or 1; the reports join the merchants, so they need
that every transaction has one. All three facts hold in every reachable database.
-/

namespace PaymentRecon

open Store Sql

/-- The discrepancy is present in the row. -/
def Found (cutoff : String) (t : TransactionRow) : DiscrepancyType → Prop
  | .settled_after_failure => t.settled_at.isSome ∧ t.failed_at.isSome
  | .settled_without_processing =>
    t.settled_at.isSome ∧ ¬ t.processed_at.isSome ∧ ¬ t.failed_at.isSome
  | .processed_not_settled =>
    t.processed_at.isSome ∧ ¬ t.failed_at.isSome ∧ ¬ t.settled_at.isSome ∧
      before t.processed_at cutoff
  | .stuck_in_initiated =>
    t.initiated_at.isSome ∧ ¬ t.processed_at.isSome ∧ ¬ t.failed_at.isSome ∧
      ¬ t.settled_at.isSome ∧ before t.initiated_at cutoff
  | .conflicting_payment_state => t.processed_at.isSome ∧ t.failed_at.isSome
  | .amount_mismatch => t.has_amount_mismatch = 1
  | .merchant_mismatch => t.has_merchant_mismatch = 1
  | .duplicate_events => 0 < t.duplicate_event_count

/-- A comparison with the cutoff, as SQL and as Python make it. -/
theorem holds_lessThan (x : Option String) (cutoff : String) :
    (lessThan x (some cutoff)).holds = before x cutoff := by
  cases x with
  | none => rfl
  | some s => exact Tri.holds_some _

/-- A flag of the statement is 1 when its condition holds. -/
theorem caseWhen_eq_one (c : Tri) : caseWhen c 1 0 = 1 ↔ c.holds = true := by
  unfold caseWhen
  split_ifs with h <;> simp [h]

/-- The flag columns say which discrepancies are present. -/
theorem flag_eq_one_iff (cutoff : String) (t : TransactionRow) (merchant_name : String)
    (type : DiscrepancyType) :
    (flagRow cutoff t merchant_name).flag type = 1 ↔ Found cutoff t type := by
  cases type with
  | duplicate_events =>
    simp only [FlaggedRow.flag, flagRow, Found]
    split_ifs with h <;> simp [h]
  | amount_mismatch => rfl
  | merchant_mismatch => rfl
  | _ =>
    simp [FlaggedRow.flag, flagRow, Found, caseWhen_eq_one, holds_lessThan, and_assoc]

/-- The predicate of the summary holds when a discrepancy other than replays is present. -/
theorem holds_discrepancyPredicate (cutoff : String) (t : TransactionRow) :
    (discrepancyPredicate cutoff t).holds = true ↔
      ∃ type, type ≠ .duplicate_events ∧ Found cutoff t type := by
  -- The predicate is the disjunction of the seven other types, in another order.
  have hall : (discrepancyPredicate cutoff t).holds = true ↔
      Found cutoff t .settled_after_failure ∨ Found cutoff t .settled_without_processing ∨
        Found cutoff t .processed_not_settled ∨ Found cutoff t .stuck_in_initiated ∨
        Found cutoff t .conflicting_payment_state ∨ Found cutoff t .amount_mismatch ∨
        Found cutoff t .merchant_mismatch := by
    simp [discrepancyPredicate, Found, holds_lessThan, and_assoc]
  rw [hall]
  constructor
  · rintro (h | h | h | h | h | h | h) <;> exact ⟨_, by simp, h⟩
  · rintro ⟨type, hne, h⟩
    cases type <;> simp_all

/-- The types that the detail endpoint lists are those that are present, in a row whose timestamps
are not empty and whose flags are 0 or 1. -/
theorem mem_discrepancyTypesForTransaction {t : TransactionRow} (hc : t.Check)
    (hne : ∀ type, t.occurrence type ≠ some "") (cutoff : String) (type : DiscrepancyType) :
    type ∈ discrepancyTypesForTransaction t cutoff ↔ Found cutoff t type := by
  -- Python tests the text of a timestamp, SQL whether there is one.
  have truth : ∀ x : Option String, x ≠ some "" → truthy x = x.isSome := by
    rintro (_ | s) hs
    · rfl
    · simpa [truthy] using hs
  have hs := truth _ (hne .settled)
  have hf := truth _ (hne .payment_failed)
  have hp := truth _ (hne .payment_processed)
  have hi := truth _ (hne .payment_initiated)
  simp only [TransactionRow.occurrence] at hs hf hp hi
  obtain ⟨_, ha, hm⟩ := hc
  simp only [discrepancyTypesForTransaction, hs, hf, hp, hi, List.mem_append]
  cases type <;> simp [Found, and_assoc] <;> omega

/-! ## The rows behind the report -/

namespace Database.Projected

variable {db : Database}

/-- No lifecycle timestamp is empty. -/
theorem occurrence_ne_empty (h : db.Projected) {id : String} {t : TransactionRow}
    (ht : db.transactions.find? id = some t) (type : EventType) : t.occurrence type ≠ some "" := by
  intro hempty
  rw [(h.projects id t ht).occurrence type] at hempty
  have hmem := List.min?_mem hempty
  simp only [times, List.mem_map, List.mem_filter, decide_eq_true_eq] at hmem
  obtain ⟨e, ⟨he, _⟩, hat⟩ := hmem
  exact (h.canonical e (mem_log.1 he).1).ne_empty hat

/-- The merchant of a transaction has a row. -/
theorem merchant_of_transaction (h : db.Projected) {t : TransactionRow}
    (ht : t ∈ db.transactions.rows) : ∃ m, db.merchants.find? t.merchant_id = some m := by
  have hproj := h.projects _ t (Table.find?_key ht)
  obtain ⟨e, he, hm⟩ := Option.map_eq_some_iff.1 hproj.merchant_id
  rw [← hm]
  exact Option.ne_none_iff_exists'.1
    (h.merchants e (mem_log.1 (List.mem_of_mem_head? he)).1)

/-- The join keeps every transaction. -/
theorem joined_map_fst (h : db.Projected) : db.joined.map Prod.fst = db.transactions.rows := by
  have hsub : ∀ ts : List TransactionRow, (∀ t ∈ ts, t ∈ db.transactions.rows) →
      (ts.filterMap fun t => (db.merchants.find? t.merchant_id).map fun m =>
        (t, m.merchant_name)).map Prod.fst = ts := by
    intro ts hts
    induction ts with
    | nil => rfl
    | cons t ts ih =>
      obtain ⟨m, hm⟩ := h.merchant_of_transaction (hts t List.mem_cons_self)
      rw [List.filterMap_cons_some (by rw [hm]; rfl), List.map_cons,
        ih fun t' ht' => hts t' (List.mem_cons_of_mem _ ht')]
  exact hsub _ fun _ ht => ht

/-- The join keeps the transactions that a condition selects. -/
theorem joined_filter_map_fst (h : db.Projected) (p : TransactionRow → Bool) :
    (db.joined.filter fun r => p r.1).map Prod.fst = db.transactions.rows.filter p := by
  rw [← h.joined_map_fst, List.filter_map]
  rfl

/-- The flagged rows are those of the transactions that the filter selects, in the same order. -/
theorem flagged_map_t (h : db.Projected) (filter : Condition) (cutoff : String) :
    (flagged db filter cutoff).map FlaggedRow.t = db.transactions.rows.filter filter.selects := by
  rw [← h.joined_filter_map_fst, flagged, List.map_map]
  rfl

/-- A transaction has at most one flagged row. -/
theorem nodup_flagged (h : db.Projected) (filter : Condition) (cutoff : String) :
    ((flagged db filter cutoff).map fun r => r.t.transaction_id).Nodup :=
  db.transactions.nodup_of_map_eq_filter (h.flagged_map_t filter cutoff)

end Database.Projected

/-- A flagged row is the row of a transaction of the join. -/
theorem mem_flagged {db : Database} {filter : Condition} {cutoff : String} {r : FlaggedRow} :
    r ∈ flagged db filter cutoff ↔ ∃ t m, t ∈ db.transactions.rows ∧
      db.merchants.find? t.merchant_id = some m ∧ filter.selects t = true ∧
      flagRow cutoff t m.merchant_name = r := by
  simp only [flagged, Database.joined, List.mem_map, List.mem_filter, List.mem_filterMap,
    Option.map_eq_some_iff]
  constructor
  · rintro ⟨_, ⟨⟨t, ht, m, hm, rfl⟩, hsel⟩, rfl⟩
    exact ⟨t, m, ht, hm, hsel, rfl⟩
  · rintro ⟨t, m, ht, hm, hsel, rfl⟩
    exact ⟨(t, m.merchant_name), ⟨⟨t, ht, m, hm, rfl⟩, hsel⟩, rfl⟩

/-- A flagged row flags what is present in its transaction. -/
theorem flag_eq_one_of_mem {db : Database} {filter : Condition} {cutoff : String} {r : FlaggedRow}
    (hr : r ∈ flagged db filter cutoff) (type : DiscrepancyType) :
    r.flag type = 1 ↔ Found cutoff r.t type := by
  obtain ⟨t, m, _, _, _, rfl⟩ := mem_flagged.1 hr
  exact flag_eq_one_iff cutoff t m.merchant_name type

/-- A flag is 0 or 1 when the flags that the row stores are. -/
theorem flag_flagRow_le_one {cutoff : String} {t : TransactionRow} (ha : t.has_amount_mismatch ≤ 1)
    (hm : t.has_merchant_mismatch ≤ 1) (merchant_name : String) (type : DiscrepancyType) :
    (flagRow cutoff t merchant_name).flag type ≤ 1 := by
  cases type with
  | amount_mismatch => exact ha
  | merchant_mismatch => exact hm
  | _ =>
    simp only [FlaggedRow.flag, flagRow, caseWhen]
    split_ifs <;> decide

/-- A flag is 0 or 1. -/
theorem flag_le_one {db : Database} (hc : db.Checked) {filter : Condition} {cutoff : String}
    {r : FlaggedRow} (hr : r ∈ flagged db filter cutoff) (type : DiscrepancyType) :
    r.flag type ≤ 1 := by
  obtain ⟨t, m, ht, _, _, rfl⟩ := mem_flagged.1 hr
  obtain ⟨_, ha, hm⟩ := hc t ht
  exact flag_flagRow_le_one ha hm m.merchant_name type

/-- A row lists the requested types that are present in its transaction. -/
theorem mem_present {db : Database} (hc : db.Checked) {filter : Condition} {cutoff : String}
    {r : FlaggedRow} (hr : r ∈ flagged db filter cutoff) {types : List DiscrepancyType}
    {type : DiscrepancyType} :
    type ∈ r.present types ↔ Found cutoff r.t type ∧ type ∈ types := by
  have hall : type ∈ discrepancyFlags.map Prod.fst := by cases type <;> decide
  have hle := flag_le_one hc hr type
  have hone : r.flag type ≠ 0 ↔ r.flag type = 1 := by omega
  simp only [FlaggedRow.present, List.mem_filter, hall, true_and, decide_eq_true_eq, hone,
    flag_eq_one_of_mem hr]

/-- A row is in a report when a requested type is present in its transaction. -/
theorem selected_iff {db : Database} {filter : Condition} {cutoff : String} {r : FlaggedRow}
    (hr : r ∈ flagged db filter cutoff) (types : List DiscrepancyType) :
    r.selected types = true ↔ ∃ type ∈ types, Found cutoff r.t type := by
  simp only [FlaggedRow.selected, List.any_eq_true, decide_eq_true_eq, flag_eq_one_of_mem hr]

/-- The default report leaves out replays and nothing else. -/
theorem mem_default_iff (type : DiscrepancyType) :
    type ∈ defaultDiscrepancyTypes ↔ type ≠ .duplicate_events := by
  cases type <;> decide

/-- A row is in the default report when a discrepancy other than replays is present. -/
theorem selected_default {db : Database} {filter : Condition} {cutoff : String} {r : FlaggedRow}
    (hr : r ∈ flagged db filter cutoff) :
    r.selected defaultDiscrepancyTypes = true ↔
      ∃ type, type ≠ .duplicate_events ∧ Found cutoff r.t type := by
  simp only [selected_iff hr, mem_default_iff]

/-- An item of a page is a selected row. -/
theorem mem_items {db : Database} {filter : Condition} {types : List DiscrepancyType}
    {cutoff : String} {sort_by : DiscrepancySort} {sort_order : SortOrder} {limit offset : ℕ}
    {item : DiscrepancyItem}
    (h : item ∈ (discrepancies db filter types cutoff sort_by sort_order limit offset).items) :
    ∃ r ∈ flagged db filter cutoff, r.selected types = true ∧
      shapeDiscrepancyRow types r = item := by
  obtain ⟨r, hr, rfl⟩ := List.mem_map.1 h
  have hmem := mem_orderBy.1 (mem_of_mem_page hr)
  rw [List.mem_filter] at hmem
  exact ⟨r, hmem.1, hmem.2, rfl⟩

/-- The items of a report, over all its pages, are the selected rows. -/
theorem mem_pages {db : Database} {filter : Condition} {types : List DiscrepancyType}
    {cutoff : String} {sort_by : DiscrepancySort} {sort_order : SortOrder} {limit : ℕ}
    (hl : 0 < limit) {item : DiscrepancyItem} :
    (∃ k, item ∈ (discrepancies db filter types cutoff sort_by sort_order limit
        (k * limit)).items) ↔
      ∃ r ∈ flagged db filter cutoff, r.selected types = true ∧
        shapeDiscrepancyRow types r = item := by
  constructor
  · rintro ⟨_, hitem⟩
    exact mem_items hitem
  · rintro ⟨r, hr, hsel, rfl⟩
    obtain ⟨k, hk⟩ := (mem_page hl).1 (mem_orderBy.2 (List.mem_filter.2 ⟨hr, hsel⟩))
    exact ⟨k, List.mem_map_of_mem hk⟩

/-! ## Agreement -/

/-- The sum of a column of zeros and ones counts the ones. -/
theorem sum_map_eq_countP {α : Type} {f : α → ℕ} {p : α → Bool} {l : List α}
    (h : ∀ a ∈ l, f a = if p a then 1 else 0) : (l.map f).sum = l.countP p := by
  induction l with
  | nil => rfl
  | cons a l ih =>
    rw [List.map_cons, List.sum_cons, ih fun b hb => h b (List.mem_cons_of_mem _ hb),
      h a List.mem_cons_self, List.countP_cons, Nat.add_comm]

/-- A sum of ones over the rows with a property counts them. -/
theorem sum_map_caseWhen {α : Type} (c : α → Tri) (l : List α) :
    (l.map fun a => caseWhen (c a) 1 0).sum = (l.filter fun a => (c a).holds).length := by
  rw [← List.countP_eq_length_filter]
  exact sum_map_eq_countP fun a _ => rfl

/-- The row that the detail endpoint fetches for a transaction of the report. -/
theorem getTransaction_of_mem_flagged {db : Database} {filter : Condition} {cutoff : String}
    {r : FlaggedRow} (hr : r ∈ flagged db filter cutoff) :
    getTransaction db r.t.transaction_id = some (r.t, r.merchant_name) := by
  obtain ⟨t, m, ht, hm, _, rfl⟩ := mem_flagged.1 hr
  have hfind : db.transactions.find? t.transaction_id = some t := Table.find?_key ht
  show getTransaction db t.transaction_id = some (t, m.merchant_name)
  rw [getTransaction, hfind, Option.bind_some, hm, Option.map_some]

/-- The three detectors agree. For every reachable database, every filter, and every cutoff: the
flagged rows are those of the filtered transactions, and the detail endpoint fetches the same row and
lists the types whose flag is 1; the predicate of the summary holds of a row exactly when a flag other
than that of replays is 1; and the summary's discrepancy count is the total of the default report,
and the number of the filtered transactions whose detail lists a type other than replays. -/
theorem detectors_agree {db : Database} (h : Reachable db) (f : TransactionFilter)
    (cutoff : String) :
    (flagged db (buildTransactionFilters f) cutoff).map FlaggedRow.t =
        db.transactions.rows.filter (buildTransactionFilters f).selects ∧
      (∀ r ∈ flagged db (buildTransactionFilters f) cutoff,
        getTransaction db r.t.transaction_id = some (r.t, r.merchant_name) ∧
          (∀ type, type ∈ discrepancyTypesForTransaction r.t cutoff ↔ r.flag type = 1) ∧
          ((discrepancyPredicate cutoff r.t).holds = true ↔
            ∃ type, type ≠ .duplicate_events ∧ r.flag type = 1)) ∧
      ∀ group_by limit offset sort_by sort_order limit' offset',
        (reconciliationSummary db (buildTransactionFilters f) group_by cutoff limit
            offset).totals.discrepancy_count =
          (discrepancies db (buildTransactionFilters f) defaultDiscrepancyTypes cutoff sort_by
            sort_order limit' offset').total ∧
        (reconciliationSummary db (buildTransactionFilters f) group_by cutoff limit
            offset).totals.discrepancy_count =
          ((db.transactions.rows.filter (buildTransactionFilters f).selects).filter fun t =>
            (discrepancyTypesForTransaction t cutoff).any (· ≠ .duplicate_events)).length := by
  have hp := h.projected
  have hfind : ∀ t ∈ db.transactions.rows,
      db.transactions.find? t.transaction_id = some t := fun t ht => Table.find?_key ht
  have hdetail : ∀ t ∈ db.transactions.rows, ∀ type,
      type ∈ discrepancyTypesForTransaction t cutoff ↔ Found cutoff t type := fun t ht =>
    mem_discrepancyTypesForTransaction (h.checked t ht) (hp.occurrence_ne_empty (hfind t ht)) cutoff
  have hmem : ∀ r ∈ flagged db (buildTransactionFilters f) cutoff, r.t ∈ db.transactions.rows := by
    intro r hr
    obtain ⟨t, m, ht, _, _, rfl⟩ := mem_flagged.1 hr
    exact ht
  refine ⟨hp.flagged_map_t _ _, fun r hr => ⟨getTransaction_of_mem_flagged hr, fun type => ?_, ?_⟩,
    fun group_by limit offset sort_by sort_order limit' offset' => ?_⟩
  · rw [hdetail r.t (hmem r hr), flag_eq_one_of_mem hr]
  · simp only [holds_discrepancyPredicate, flag_eq_one_of_mem hr]
  · have hcount : (reconciliationSummary db (buildTransactionFilters f) group_by cutoff limit
        offset).totals.discrepancy_count =
          ((db.transactions.rows.filter (buildTransactionFilters f).selects).filter fun t =>
            (discrepancyPredicate cutoff t).holds).length := by
      rw [reconciliationSummary]
      split_ifs <;> exact sum_map_caseWhen _ _
    refine ⟨?_, ?_⟩
    · -- The selected flagged rows are the flagged rows whose transaction satisfies the predicate.
      have hsel : (flagged db (buildTransactionFilters f) cutoff).filter
          (fun r => r.selected defaultDiscrepancyTypes) =
            (flagged db (buildTransactionFilters f) cutoff).filter
              fun r => (discrepancyPredicate cutoff r.t).holds := by
        refine List.filter_congr fun r hr => ?_
        rw [Bool.eq_iff_iff, selected_default hr, holds_discrepancyPredicate]
      calc _ = (((flagged db (buildTransactionFilters f) cutoff).map FlaggedRow.t).filter
            fun t => (discrepancyPredicate cutoff t).holds).length := by
            rw [hcount, hp.flagged_map_t _ cutoff]
        _ = ((flagged db (buildTransactionFilters f) cutoff).filter
            fun r => (discrepancyPredicate cutoff r.t).holds).length := by
            rw [List.filter_map, List.length_map]
            rfl
        _ = _ := by rw [discrepancies, hsel]
    · rw [hcount]
      congr 1
      refine List.filter_congr fun t ht => ?_
      rw [Bool.eq_iff_iff, holds_discrepancyPredicate, List.any_eq_true]
      simp only [hdetail t (List.mem_filter.1 ht).1, decide_eq_true_eq]
      exact exists_congr fun type => And.comm

/-- A transaction with two amounts, and one that is stuck after one event and its replay. -/
def repricedAndReplayed : List EventIn :=
  [exampleEvent, repricedEvent, sampleEvent "10" "h" .payment_initiated,
    sampleEvent "10" "h" .payment_initiated, sampleEvent "11" "i" .payment_failed]

/-- Agreement over a database with three transactions, two of which are in the default report. -/
theorem detectors_agree_repriced :
    let db := Database.empty.applyAll exampleEvent.timestamp repricedAndReplayed
    let cutoff := formatTs twoDaysLater
    (∀ r ∈ flagged db (buildTransactionFilters {}) cutoff, ∀ type,
        type ∈ discrepancyTypesForTransaction r.t cutoff ↔ r.flag type = 1) ∧
      (reconciliationSummary db (buildTransactionFilters {}) [.merchant] cutoff 200
        0).totals.discrepancy_count =
        (discrepancies db (buildTransactionFilters {}) defaultDiscrepancyTypes cutoff .severity .desc 50
          0).total ∧
      (discrepancies db (buildTransactionFilters {}) defaultDiscrepancyTypes cutoff .severity .desc 50
        0).total = 2 := by
  obtain ⟨-, hrows, hcounts⟩ := detectors_agree
    ⟨_, Run.empty.ingest exampleEvent.timestamp repricedAndReplayed⟩ {} (formatTs twoDaysLater)
  exact ⟨fun r hr => (hrows r hr).2.1, (hcounts [.merchant] 200 0 .severity .desc 50 0).1,
    by decide +kernel⟩

end PaymentRecon
