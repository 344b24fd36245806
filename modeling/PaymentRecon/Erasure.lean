import PaymentRecon.Detection

/-!
# Replays can be erased

`erase` deletes from a run of batches every event whose id is already stored or has occurred earlier
in the run. The run and the erased run stay in step: `Alike` relates databases with the same events,
the same merchants, and the same transactions but for `duplicate_event_count` and `updated_at`
(`TransactionRow.forget`). A replay leaves a database alike, and a new event takes alike databases to
alike ones, so the two runs end alike (`ingestAll_alike`). The default report and the summary do not
read the forgotten columns, unless a filter asks for replays (`has_duplicates`), which neither
endpoint does.
-/

namespace PaymentRecon

open Store Sql

/-- A batch, with the time that `now_ts` gives when it is ingested. -/
structure Batch where
  /-- The time. -/
  now : String
  /-- The events. -/
  events : List EventIn

/-- `Commits db batches db'`: the batches commit one after another, under any faults, and lead from
`db` to `db'`. -/
inductive Commits : Database → List Batch → Database → Prop
  | nil (db : Database) : Commits db [] db
  | cons {db db' : Database} {batch : Batch} {batches : List Batch}
      {faults : ℕ → Option (Fault AppError)} {acc : Ingested}
      (hr : (db.ingest faults batch.now batch.events).result = .ok acc)
      (h : Commits (db.ingest faults batch.now batch.events).conn.committed batches db') :
      Commits db (batch :: batches) db'

/-- The effect of a run of batches. -/
def Database.ingestAll (db : Database) (batches : List Batch) : Database :=
  batches.foldl (fun db batch => db.applyAll batch.now batch.events) db

/-- A batch keeps the `CHECK` constraints. -/
theorem Database.Checked.applyAll {db : Database} (h : db.Checked) (now : String)
    (events : List EventIn) : (db.applyAll now events).Checked := by
  induction events generalizing db with
  | nil => exact h
  | cons event events ih => exact ih (h.apply now event)

/-- What a run that commits leads to. -/
theorem Commits.eq {db db' : Database} {batches : List Batch} (hc : db.Checked)
    (h : Commits db batches db') : db' = db.ingestAll batches := by
  induction h with
  | nil db => rfl
  | @cons db db' batch batches faults acc hr h ih =>
    rcases ingestEvents_run hc batch.events faults with ⟨e, he, _⟩ | ⟨_, hconn, _⟩
    · rw [Database.ingest, he] at hr
      cases hr
    · rw [Database.ingest, hconn] at ih
      exact ih (hc.applyAll batch.now batch.events)

/-- Every run of batches can commit. -/
theorem Commits.exists {db : Database} (hc : db.Checked) (batches : List Batch) :
    Commits db batches (db.ingestAll batches) := by
  induction batches generalizing db with
  | nil => exact .nil db
  | cons batch batches ih =>
    obtain ⟨hr, hconn⟩ := ingestEvents_run_clean hc batch.now batch.events
    refine .cons hr ?_
    rw [Database.ingest, hconn]
    exact ih (hc.applyAll batch.now batch.events)

/-! ## Erasing replays -/

/-- The events of a batch whose ids are not in `seen` and have not occurred earlier. -/
def eraseEvents : List String → List EventIn → List EventIn
  | _, [] => []
  | seen, event :: events =>
    if event.event_id ∈ seen then eraseEvents seen events
    else event :: eraseEvents (event.event_id :: seen) events

/-- The run of batches without the events whose ids are in `seen` or have occurred earlier. -/
def erase : List String → List Batch → List Batch
  | _, [] => []
  | seen, batch :: batches =>
    { batch with events := eraseEvents seen batch.events } ::
      erase (batch.events.map EventIn.event_id ++ seen) batches

/-- The ids that are stored. -/
def Database.storedIds (db : Database) : List String := db.events.rows.map EventRow.event_id

/-- An id is stored when it finds an event. -/
theorem Database.mem_storedIds {db : Database} {id : String} :
    id ∈ db.storedIds ↔ ∃ row, db.events.find? id = some row := by
  rw [storedIds, List.mem_map]
  constructor
  · rintro ⟨row, hrow, rfl⟩
    exact ⟨row, Table.find?_key hrow⟩
  · rintro ⟨row, hrow⟩
    exact ⟨row, Table.find?_eq_some.1 hrow⟩

/-- The stored ids after one event. -/
theorem Database.mem_storedIds_apply {db : Database} {now id : String} {event : EventIn} :
    id ∈ (db.apply now event).storedIds ↔ id = event.event_id ∨ id ∈ db.storedIds := by
  simp only [mem_storedIds, find?_events_apply]
  cases h : db.events.find? id with
  | none =>
    rw [Option.none_or]
    split_ifs with hid <;> simp [hid]
  | some row => simp

/-! ## Simulation -/

/-- Forget the columns that a replay writes. -/
def TransactionRow.forget (t : TransactionRow) : TransactionRow :=
  { t with duplicate_event_count := 0, updated_at := "" }

/-- Databases that differ in the columns that a replay writes, at most. -/
structure Alike (db db' : Database) : Prop where
  /-- The same log. -/
  events : db.events = db'.events
  /-- The same merchants. -/
  merchants : db.merchants = db'.merchants
  /-- The same transactions but for the forgotten columns. -/
  transactions : db.transactions.rows.map TransactionRow.forget =
    db'.transactions.rows.map TransactionRow.forget

namespace Alike

variable {db db' db'' : Database} {event : EventIn}

/-- A database is like itself. -/
theorem refl (db : Database) : Alike db db := ⟨rfl, rfl, rfl⟩

/-- Likeness composes. -/
theorem trans (h : Alike db db') (h' : Alike db' db'') : Alike db db'' :=
  ⟨h.events.trans h'.events, h.merchants.trans h'.merchants, h.transactions.trans h'.transactions⟩

/-- A replay leaves a database alike. -/
theorem replay {existing : EventRow} (h : db.events.find? event.event_id = some existing)
    (now : String) : Alike (db.apply now event) db := by
  rw [Database.apply_of_stored h]
  exact ⟨rfl, rfl, Table.alike_update (f := TransactionRow.forget)
    (TransactionRow.transaction_id_bump now) (fun _ => rfl) _⟩

/-- A new event takes alike databases to alike ones. -/
theorem step (h : Alike db db') (hnew : db.events.find? event.event_id = none) (now : String) :
    Alike (db.apply now event) (db'.apply now event) := by
  obtain ⟨he, hm, ht⟩ := h
  have hnew' : db'.events.find? event.event_id = none := he ▸ hnew
  rw [Database.apply_of_new hnew, Database.apply_of_new hnew']
  refine ⟨?_, ?_, ?_⟩
  · exact Table.ext (by rw [Table.rows_push, Table.rows_push, he])
  · exact Table.ext (by rw [hm])
  · exact Table.alike_upsert (f := TransactionRow.forget) (fun _ => rfl) (fun _ => rfl) ht _ _
      fun _ => rfl

/-- A batch and the erased batch keep alike databases alike. -/
theorem applyAll (h : Alike db db') (now : String) {seen : List String}
    (hseen : ∀ id, id ∈ seen ↔ id ∈ db.storedIds) (events : List EventIn) :
    Alike (db.applyAll now events) (db'.applyAll now (eraseEvents seen events)) := by
  induction events generalizing db db' seen with
  | nil => exact h
  | cons event events ih =>
    rw [eraseEvents]
    have hafter : ∀ id, id ∈ event.event_id :: seen ↔ id ∈ (db.apply now event).storedIds := by
      intro id
      rw [Database.mem_storedIds_apply, List.mem_cons, hseen]
    split_ifs with hmem
    · -- A replay: only the first run takes the event, and stays alike.
      obtain ⟨existing, hold⟩ := Database.mem_storedIds.1 ((hseen _).1 hmem)
      refine ih ((replay hold now).trans h) fun id => ?_
      rw [← hafter, List.mem_cons]
      exact ⟨.inr, fun hid => hid.elim (fun heq => heq ▸ hmem) fun hid => hid⟩
    · -- A new event: both runs take it.
      have hnew : db.events.find? event.event_id = none := by
        cases hf : db.events.find? event.event_id with
        | none => rfl
        | some row => exact absurd ((hseen _).2 (Database.mem_storedIds.2 ⟨row, hf⟩)) hmem
      exact ih (h.step hnew now) hafter

end Alike

/-- The stored ids after a batch. -/
theorem Database.mem_storedIds_applyAll {db : Database} {now id : String} {events : List EventIn} :
    id ∈ (db.applyAll now events).storedIds ↔
      id ∈ events.map EventIn.event_id ∨ id ∈ db.storedIds := by
  induction events generalizing db with
  | nil => simp
  | cons event events ih =>
    rw [applyAll_cons, ih, mem_storedIds_apply, List.map_cons, List.mem_cons, or_left_comm, or_assoc]

/-- A run and the erased run keep alike databases alike. -/
theorem Alike.ingestAll {db db' : Database} (h : Alike db db') {seen : List String}
    (hseen : ∀ id, id ∈ seen ↔ id ∈ db.storedIds) (batches : List Batch) :
    Alike (db.ingestAll batches) (db'.ingestAll (erase seen batches)) := by
  induction batches generalizing db db' seen with
  | nil => exact h
  | cons batch batches ih =>
    refine ih (h.applyAll batch.now hseen batch.events) fun id => ?_
    rw [List.mem_append, hseen, Database.mem_storedIds_applyAll]

/-! ## The reports do not see replays -/

/-- Forget the columns that a replay writes, and the flag that counts them. -/
def FlaggedRow.forget (r : FlaggedRow) : FlaggedRow :=
  { r with t := r.t.forget, d_duplicate_events := 0 }

/-- Forget the same columns in a row of the join. -/
def forgetJoined (r : TransactionRow × String) : TransactionRow × String := (r.1.forget, r.2)

/-- A column other than the count of replays is not forgotten. -/
theorem Column.read_forget {c : Column} (hc : c ≠ .duplicate_event_count) (t : TransactionRow) :
    c.read t.forget = c.read t := by
  cases c <;> first | rfl | exact absurd rfl hc

/-- A filter that does not ask for replays selects the same transactions. -/
theorem selects_forget {f : TransactionFilter} (hf : f.has_duplicates = none) (t : TransactionRow) :
    (buildTransactionFilters f).selects t.forget = (buildTransactionFilters f).selects t := by
  have hread : ∀ clauses : List Clause,
      (∀ clause ∈ clauses, clause.column ≠ .duplicate_event_count) →
      clauses.foldr (fun clause acc =>
          (clause.eval (buildTransactionFilters f).params t.forget).and acc) (some true) =
        clauses.foldr (fun clause acc =>
          (clause.eval (buildTransactionFilters f).params t).and acc) (some true) := by
    intro clauses hcol
    induction clauses with
    | nil => rfl
    | cons clause clauses ih =>
      rw [List.foldr_cons, List.foldr_cons, ih fun c hc => hcol c (List.mem_cons_of_mem _ hc),
        Clause.eval_congr (Column.read_forget (hcol clause List.mem_cons_self) t)]
  simp only [Condition.selects, hread _ (column_ne_duplicates hf)]

/-- A selection that does not read what a function changes can be made before or after it. -/
theorem filter_map_of_unread {α : Type} {f : α → α} {p : α → Bool} (h : ∀ a, p (f a) = p a)
    (l : List α) : (l.map f).filter p = (l.filter p).map f := by
  have hp : p ∘ f = p := funext h
  rw [List.filter_map, hp]

namespace Alike

variable {db db' : Database}

/-- The joined rows agree but for the forgotten columns. -/
theorem joined (h : Alike db db') :
    db.joined.map forgetJoined = db'.joined.map forgetJoined := by
  have hform : ∀ d : Database, d.joined.map forgetJoined =
      (d.transactions.rows.map TransactionRow.forget).filterMap fun t =>
        (d.merchants.find? t.merchant_id).map fun m => (t, m.merchant_name) := by
    intro d
    rw [Database.joined, List.map_filterMap, List.filterMap_map]
    refine List.filterMap_congr fun t _ => ?_
    show _ = (d.merchants.find? t.merchant_id).map fun m => (t.forget, m.merchant_name)
    cases d.merchants.find? t.merchant_id <;> rfl
  rw [hform, hform, h.merchants, h.transactions]

/-- The flagged rows agree but for the forgotten columns. -/
theorem flagged (h : Alike db db') {f : TransactionFilter} (hf : f.has_duplicates = none)
    (cutoff : String) :
    (flagged db (buildTransactionFilters f) cutoff).map FlaggedRow.forget =
      (PaymentRecon.flagged db' (buildTransactionFilters f) cutoff).map FlaggedRow.forget := by
  have hform : ∀ d : Database,
      (PaymentRecon.flagged d (buildTransactionFilters f) cutoff).map FlaggedRow.forget =
        ((d.joined.map forgetJoined).filter fun r =>
          (buildTransactionFilters f).selects r.1).map
            fun r => (flagRow cutoff r.1 r.2).forget := by
    intro d
    rw [filter_map_of_unread fun r => selects_forget hf r.1, PaymentRecon.flagged, List.map_map,
      List.map_map]
    rfl
  rw [hform, hform, h.joined]

end Alike

/-- What the default report is compared on: the transaction, its types, and its severity. -/
def DiscrepancyItem.finding (item : DiscrepancyItem) :
    String × List DiscrepancyType × Severity :=
  (item.transaction_id, item.discrepancy_types, item.severity)

/-- A type other than replays is flagged as before. -/
theorem FlaggedRow.flag_forget {type : DiscrepancyType} (h : type ≠ .duplicate_events)
    (r : FlaggedRow) : r.forget.flag type = r.flag type := by
  cases type <;> first | rfl | exact absurd rfl h

/-- Replays do not decide whether the default report selects a row. -/
theorem FlaggedRow.selected_forget (r : FlaggedRow) :
    r.forget.selected defaultDiscrepancyTypes = r.selected defaultDiscrepancyTypes := by
  rw [Bool.eq_iff_iff]
  simp only [selected, List.any_eq_true, decide_eq_true_eq]
  refine exists_congr fun type => and_congr_right fun hmem => ?_
  rw [flag_forget ((mem_default_iff type).1 hmem)]

/-- Nor are they among the types that it lists. -/
theorem FlaggedRow.present_forget (r : FlaggedRow) :
    r.forget.present defaultDiscrepancyTypes = r.present defaultDiscrepancyTypes := by
  refine List.filter_congr fun type _ => decide_eq_decide.2 (and_congr_left fun hmem => ?_)
  rw [flag_forget ((mem_default_iff type).1 hmem)]

/-- Nor does what it shows of a row depend on them. -/
theorem finding_forget (r : FlaggedRow) :
    (shapeDiscrepancyRow defaultDiscrepancyTypes r.forget).finding =
      (shapeDiscrepancyRow defaultDiscrepancyTypes r).finding := by
  simp only [DiscrepancyItem.finding, shapeDiscrepancyRow, r.present_forget]
  rfl

/-- No sort reads the forgotten columns. -/
theorem DiscrepancySort.column_forget (sort_by : DiscrepancySort) (sort_order : SortOrder) :
    ∀ k ∈ sort_by.keys sort_order, ∀ r, k.column (FlaggedRow.forget r) = k.column r := by
  intro k hk r
  cases sort_by <;>
    (simp only [keys, List.mem_cons, List.not_mem_nil, or_false] at hk
     rcases hk with rfl | rfl | rfl <;> rfl)

/-- The default report of alike databases is the same. -/
theorem Alike.report {db db' : Database} (h : Alike db db') {f : TransactionFilter}
    (hf : f.has_duplicates = none) (cutoff : String) (sort_by : DiscrepancySort)
    (sort_order : SortOrder) (limit offset : ℕ) :
    let report := discrepancies db (buildTransactionFilters f) defaultDiscrepancyTypes cutoff sort_by
      sort_order limit offset
    let report' := discrepancies db' (buildTransactionFilters f) defaultDiscrepancyTypes cutoff
      sort_by sort_order limit offset
    report.items.map DiscrepancyItem.finding = report'.items.map DiscrepancyItem.finding ∧
      report.total = report'.total ∧
      report.countsOf defaultDiscrepancyTypes = report'.countsOf defaultDiscrepancyTypes := by
  -- Everything that is compared is a function of the selected rows without their forgotten columns.
  let rows (d : Database) : List FlaggedRow :=
    (PaymentRecon.flagged d (buildTransactionFilters f) cutoff).filter
      fun r => r.selected defaultDiscrepancyTypes
  have hrows : (rows db).map FlaggedRow.forget = (rows db').map FlaggedRow.forget := by
    rw [← filter_map_of_unread FlaggedRow.selected_forget,
      ← filter_map_of_unread FlaggedRow.selected_forget, h.flagged hf]
  have hitems : ∀ d : Database,
      (discrepancies d (buildTransactionFilters f) defaultDiscrepancyTypes cutoff sort_by sort_order
          limit offset).items.map DiscrepancyItem.finding =
        (page limit offset (orderBy (sort_by.keys sort_order)
          ((rows d).map FlaggedRow.forget))).map
            fun r => (shapeDiscrepancyRow defaultDiscrepancyTypes r).finding := by
    intro d
    rw [← map_orderBy (sort_by.column_forget sort_order), ← map_page, List.map_map]
    simp only [discrepancies, List.map_map]
    exact List.map_congr_left fun r _ => (finding_forget r).symm
  have htotal : ∀ d : Database,
      (discrepancies d (buildTransactionFilters f) defaultDiscrepancyTypes cutoff sort_by sort_order
        limit offset).total = ((rows d).map FlaggedRow.forget).length := by
    intro d
    rw [List.length_map]
    rfl
  have hcounts : ∀ d : Database,
      (discrepancies d (buildTransactionFilters f) defaultDiscrepancyTypes cutoff sort_by sort_order
          limit offset).countsOf defaultDiscrepancyTypes =
        (discrepancyFlags.filter fun flag => flag.1 ∈ defaultDiscrepancyTypes).map fun flag =>
          (flag.1, (((rows d).map FlaggedRow.forget).map fun r => r.flag flag.1).sum) := by
    intro d
    simp only [DiscrepancyReport.countsOf, discrepancies, List.filter_map, List.map_map]
    refine List.map_congr_left fun flag hflag => ?_
    have hne := (mem_default_iff flag.1).1 (by simpa using (List.mem_filter.1 hflag).2)
    have hflags : (fun r => FlaggedRow.flag r flag.1) ∘ FlaggedRow.forget =
        fun r => r.flag flag.1 := funext fun r => r.flag_forget hne
    rw [hflags]
  refine ⟨?_, ?_, ?_⟩
  · rw [hitems, hitems, hrows]
  · rw [htotal, htotal, hrows]
  · rw [hcounts, hcounts, hrows]

/-- The metrics do not read the forgotten columns. -/
theorem metrics_forget (cutoff : String) (ts : List TransactionRow) :
    metrics cutoff (ts.map TransactionRow.forget) = metrics cutoff ts := by
  simp only [metrics, List.length_map, List.map_map]
  rfl

/-- No dimension reads the forgotten columns. -/
theorem Dimension.key_forgetJoined (r : TransactionRow × String) :
    Dimension.key (forgetJoined r) = Dimension.key r := by
  funext dimension
  cases dimension <;> rfl

/-- The rows behind the groups agree but for the forgotten columns. -/
theorem Alike.groupRows {db db' : Database} (h : Alike db db') {f : TransactionFilter}
    (hf : f.has_duplicates = none) (group_by : List Dimension) :
    (groupRows db (buildTransactionFilters f) group_by).map forgetJoined =
      (PaymentRecon.groupRows db' (buildTransactionFilters f) group_by).map forgetJoined := by
  have hselects : ∀ r : TransactionRow × String, (buildTransactionFilters f).selects
      (forgetJoined r).1 = (buildTransactionFilters f).selects r.1 :=
    fun r => selects_forget hf r.1
  rw [PaymentRecon.groupRows, PaymentRecon.groupRows, ← filter_map_of_unread hselects,
    ← filter_map_of_unread hselects]
  congr 1
  split_ifs
  · exact h.joined
  · have hnames := congrArg (List.map fun t : TransactionRow => (t, "")) h.transactions
    rw [List.map_map, List.map_map] at hnames ⊢
    exact hnames

/-- The keys of the groups do not read the forgotten columns. -/
theorem map_key_forget (group_by : List Dimension) (rows : List (TransactionRow × String)) :
    (rows.map forgetJoined).map (fun r => group_by.flatMap (Dimension.key r)) =
      rows.map fun r => group_by.flatMap (Dimension.key r) := by
  rw [List.map_map]
  refine List.map_congr_left fun r _ => ?_
  simp only [Function.comp, Dimension.key_forgetJoined]

/-- The metrics of a group do not read the forgotten columns. -/
theorem metrics_group_forget (cutoff : String) (group_by : List Dimension) (k : List String)
    (rows : List (TransactionRow × String)) :
    metrics cutoff (((rows.map forgetJoined).filter fun r =>
        group_by.flatMap (Dimension.key r) = k).map Prod.fst) =
      metrics cutoff ((rows.filter fun r =>
        group_by.flatMap (Dimension.key r) = k).map Prod.fst) := by
  have hkey : ∀ r : TransactionRow × String,
      decide (group_by.flatMap (Dimension.key (forgetJoined r)) = k) =
        decide (group_by.flatMap (Dimension.key r) = k) := by
    intro r
    rw [Dimension.key_forgetJoined]
  have hfst : ∀ l : List (TransactionRow × String),
      (l.map forgetJoined).map Prod.fst = (l.map Prod.fst).map TransactionRow.forget := by
    intro l
    rw [List.map_map, List.map_map]
    rfl
  rw [filter_map_of_unread hkey, hfst, metrics_forget]

/-- The summary of alike databases is the same. -/
theorem Alike.summary {db db' : Database} (h : Alike db db') {f : TransactionFilter}
    (hf : f.has_duplicates = none) (group_by : List Dimension) (cutoff : String)
    (limit offset : ℕ) :
    reconciliationSummary db (buildTransactionFilters f) group_by cutoff limit offset =
      reconciliationSummary db' (buildTransactionFilters f) group_by cutoff limit offset := by
  let rows (d : Database) := PaymentRecon.groupRows d (buildTransactionFilters f) group_by
  have htotals : metrics cutoff (db.transactions.rows.filter (buildTransactionFilters f).selects) =
      metrics cutoff (db'.transactions.rows.filter (buildTransactionFilters f).selects) := by
    rw [← metrics_forget, ← filter_map_of_unread (selects_forget hf), h.transactions,
      filter_map_of_unread (selects_forget hf), metrics_forget]
  have hkeys : (rows db).map (fun r => group_by.flatMap (Dimension.key r)) =
      (rows db').map fun r => group_by.flatMap (Dimension.key r) := by
    rw [← map_key_forget, h.groupRows hf, map_key_forget]
  have hgroup : ∀ k, metrics cutoff (((rows db).filter fun r =>
        group_by.flatMap (Dimension.key r) = k).map Prod.fst) =
      metrics cutoff (((rows db').filter fun r =>
        group_by.flatMap (Dimension.key r) = k).map Prod.fst) := by
    intro k
    rw [← metrics_group_forget, h.groupRows hf, metrics_group_forget]
  simp only [reconciliationSummary, htotals, rows] at hkeys hgroup ⊢
  simp only [hkeys, hgroup]

/-! ## The result -/

/-- Nothing is left of a batch whose ids have all been seen. -/
theorem eraseEvents_eq_nil {seen : List String} {events : List EventIn}
    (h : ∀ event ∈ events, event.event_id ∈ seen) : eraseEvents seen events = [] := by
  induction events with
  | nil => rfl
  | cons event events ih =>
    rw [eraseEvents, if_pos (h event List.mem_cons_self),
      ih fun e he => h e (List.mem_cons_of_mem _ he)]

/-- A run of batches whose ids have all been seen does nothing once it is erased. -/
theorem ingestAll_erase_of_seen (db : Database) {seen : List String} {batches : List Batch}
    (h : ∀ batch ∈ batches, ∀ event ∈ batch.events, event.event_id ∈ seen) :
    db.ingestAll (erase seen batches) = db := by
  induction batches generalizing seen with
  | nil => rfl
  | cons batch batches ih =>
    have hnil := eraseEvents_eq_nil (h batch List.mem_cons_self)
    show (db.applyAll batch.now (eraseEvents seen batch.events)).ingestAll _ = db
    rw [hnil]
    exact ih fun b hb event he => List.mem_append_right _ (h b (List.mem_cons_of_mem _ hb) event he)

/-- Replays can be erased. From every reachable database, a run of batches and the same run without
the events whose ids are stored or have occurred earlier end in the same log, the same merchants, and
the same transactions but for `duplicate_event_count` and `updated_at`; their default reports and
their summaries are the same. A run of events that are all stored changes nothing else. -/
theorem replays_erased {db db₁ db₂ : Database} (h : Reachable db) (batches : List Batch)
    (h₁ : Commits db batches db₁) (h₂ : Commits db (erase db.storedIds batches) db₂) :
    (db₁.events = db₂.events ∧ db₁.merchants = db₂.merchants ∧
      db₁.transactions.rows.map TransactionRow.forget =
        db₂.transactions.rows.map TransactionRow.forget) ∧
    (∀ f : TransactionFilter, f.has_duplicates = none → ∀ cutoff limit offset,
      (∀ sort_by sort_order,
        let report₁ := discrepancies db₁ (buildTransactionFilters f) defaultDiscrepancyTypes cutoff
          sort_by sort_order limit offset
        let report₂ := discrepancies db₂ (buildTransactionFilters f) defaultDiscrepancyTypes cutoff
          sort_by sort_order limit offset
        report₁.items.map DiscrepancyItem.finding = report₂.items.map DiscrepancyItem.finding ∧
          report₁.total = report₂.total ∧
          report₁.countsOf defaultDiscrepancyTypes = report₂.countsOf defaultDiscrepancyTypes) ∧
      ∀ group_by,
        reconciliationSummary db₁ (buildTransactionFilters f) group_by cutoff limit offset =
          reconciliationSummary db₂ (buildTransactionFilters f) group_by cutoff limit offset) ∧
    ((∀ batch ∈ batches, ∀ event ∈ batch.events, event.event_id ∈ db.storedIds) →
      db₁.events = db.events ∧ db₁.merchants = db.merchants ∧
        db₁.transactions.rows.map TransactionRow.forget =
          db.transactions.rows.map TransactionRow.forget) := by
  rw [h₁.eq h.checked, h₂.eq h.checked]
  -- Both runs start from the same database, and a replay keeps databases alike.
  have halike : Alike (db.ingestAll batches) (db.ingestAll (erase db.storedIds batches)) :=
    (Alike.refl db).ingestAll (fun _ => Iff.rfl) batches
  refine ⟨⟨halike.events, halike.merchants, halike.transactions⟩, fun f hf cutoff limit offset =>
    ⟨fun sort_by sort_order => halike.report hf cutoff sort_by sort_order limit offset,
      fun group_by => halike.summary hf group_by cutoff limit offset⟩, fun hseen => ?_⟩
  -- When all events are known, nothing is left of the second run.
  rw [ingestAll_erase_of_seen db hseen] at halike
  exact ⟨halike.events, halike.merchants, halike.transactions⟩

/-- An event and its replay, from the empty database. -/
theorem replays_erased_replay :
    (Database.empty.ingestAll [⟨"", [exampleEvent, exampleEvent]⟩]).events =
      (Database.empty.ingestAll [⟨"", [exampleEvent]⟩]).events :=
  (replays_erased ⟨[], .empty⟩ [⟨"", [exampleEvent, exampleEvent]⟩]
    (.exists Run.empty.history.checked _) (.exists Run.empty.history.checked _)).1.1

end PaymentRecon
