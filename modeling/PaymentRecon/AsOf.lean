import PaymentRecon.Convergence
import PaymentRecon.Reconciliation
import PaymentRecon.Surfacing

/-!
# Reports as of a past instant

`as_of` is documented to re-run the report as it would have looked at a past instant. It moves the
cutoff of staleness; the log and the projection are those of now, so an event that happened after the
instant can add a discrepancy to the report, and can remove one from it
(`later_event_alters_report`).

The exact condition is `as_of_iff`. The report over a whole sequence of events is the report over the
events up to the instant exactly when, for every transaction, the later events leave its findings
unaltered (`Unaltered`): whether the amounts and the merchants disagree, and, unless the lifecycle is
quiet at the cutoff with the later events and without them, which of the processed, failed, and
settled events there are. It is proved by writing the report as a list of findings, one line for each
transaction that has any, which are a function of the transaction's log.
-/

namespace PaymentRecon

open Store

instance (cutoff : String) (log : List EventRow) (type : DiscrepancyType) :
    Decidable (FoundIn cutoff log type) := by
  cases type <;> unfold FoundIn <;> infer_instance

/-- The types of the default report that are present in a log, in the order of the flags. -/
def findings (cutoff : String) (log : List EventRow) : List DiscrepancyType :=
  (discrepancyFlags.map Prod.fst).filter fun type => FoundIn cutoff log type

/-- The findings at a cutoff are the types that the log shows there. -/
theorem mem_findings {cutoff : String} {log : List EventRow} {type : DiscrepancyType} :
    type ∈ findings cutoff log ↔ FoundIn cutoff log type := by
  have hall : type ∈ discrepancyFlags.map Prod.fst := by cases type <;> decide
  simp only [findings, List.mem_filter, hall, true_and, decide_eq_true_eq]

/-- Two logs have the same findings when the same types are present. -/
theorem findings_eq_iff {cutoff : String} {log log' : List EventRow} :
    findings cutoff log = findings cutoff log' ↔
      ∀ type, FoundIn cutoff log type ↔ FoundIn cutoff log' type := by
  refine ⟨fun h type => by rw [← mem_findings, h, mem_findings], fun h => ?_⟩
  exact List.filter_congr fun type _ => decide_eq_decide.2 (h type)

/-- There are findings when a type is present. -/
theorem findings_ne_nil {cutoff : String} {log : List EventRow} :
    findings cutoff log ≠ [] ↔ ∃ type, FoundIn cutoff log type := by
  constructor
  · intro hne
    obtain ⟨type, htype⟩ := List.exists_mem_of_ne_nil _ hne
    exact ⟨type, mem_findings.1 htype⟩
  · rintro ⟨type, hf⟩
    exact List.ne_nil_of_mem (mem_findings.2 hf)

/-- An empty log has no findings. -/
theorem findings_nil (cutoff : String) : findings cutoff [] = [] := by
  by_contra hne
  obtain ⟨type, hf⟩ := findings_ne_nil.1 hne
  cases type <;> simp [FoundIn, Has, Disagree] at hf

/-! ## The lines of the report -/

/-- The default report without its order and its pages: the transactions with their types. -/
def reportLines (db : Database) (cutoff : String) : List (String × List DiscrepancyType) :=
  ((flagged db (buildTransactionFilters {}) cutoff).filter fun r =>
    r.selected defaultDiscrepancyTypes).map fun r =>
      (r.t.transaction_id, r.present defaultDiscrepancyTypes)

namespace Database.Projected

variable {db : Database} (h : db.Projected)

include h

/-- A flag is 1 when its type is present in the log. -/
theorem flag_eq (cutoff : String) {r : FlaggedRow}
    (hr : r ∈ flagged db (buildTransactionFilters {}) cutoff) {type : DiscrepancyType}
    (hne : type ≠ .duplicate_events) :
    r.flag type = if FoundIn cutoff (db.log r.t.transaction_id) type then 1 else 0 := by
  have hproj := h.projects_of_mem_flagged hr
  have hiff := flag_eq_one_of_mem hr type
  rw [hproj.found_iff cutoff hne] at hiff
  obtain ⟨t, m, _, _, _, rfl⟩ := mem_flagged.1 hr
  have ha : t.has_amount_mismatch ≤ 1 := by
    rw [show t.has_amount_mismatch = _ from hproj.has_amount_mismatch]
    split_ifs <;> decide
  have hm : t.has_merchant_mismatch ≤ 1 := by
    rw [show t.has_merchant_mismatch = _ from hproj.has_merchant_mismatch]
    split_ifs <;> decide
  have hle := @flag_flagRow_le_one cutoff t ha hm m.merchant_name type
  split_ifs with hf
  · exact hiff.2 hf
  · have := mt hiff.1 hf
    omega

/-- A row lists the findings of its log. -/
theorem present_eq (cutoff : String) {r : FlaggedRow}
    (hr : r ∈ flagged db (buildTransactionFilters {}) cutoff) :
    r.present defaultDiscrepancyTypes = findings cutoff (db.log r.t.transaction_id) := by
  refine List.filter_congr fun type _ => decide_eq_decide.2 ?_
  rw [mem_default_iff]
  constructor
  · rintro ⟨hflag, hne⟩
    rw [h.flag_eq cutoff hr hne] at hflag
    simpa using hflag
  · intro hf
    have hne := hf.ne_duplicate_events
    exact ⟨by rw [h.flag_eq cutoff hr hne, if_pos hf]; decide, hne⟩

/-- The lines of the report are the transactions with findings. -/
theorem mem_reportLines {cutoff id : String} {types : List DiscrepancyType} :
    (id, types) ∈ reportLines db cutoff ↔
      findings cutoff (db.log id) = types ∧ types ≠ [] := by
  have hsel : ∀ r ∈ flagged db (buildTransactionFilters {}) cutoff,
      (r.selected defaultDiscrepancyTypes = true ↔
        findings cutoff (db.log r.t.transaction_id) ≠ []) := by
    intro r hr
    rw [findings_ne_nil, selected_default hr]
    exact (h.projects_of_mem_flagged hr).exists_found_iff cutoff
  simp only [reportLines, List.mem_map, List.mem_filter, Prod.mk.injEq]
  constructor
  · rintro ⟨r, ⟨hr, hs⟩, rfl, rfl⟩
    rw [h.present_eq cutoff hr]
    exact ⟨rfl, (hsel r hr).1 hs⟩
  · rintro ⟨rfl, hne⟩
    obtain ⟨t, ht⟩ : ∃ t, db.transactions.find? id = some t := by
      refine Option.ne_none_iff_exists'.1 fun hnone => hne ?_
      rw [h.logged id hnone, findings_nil]
    obtain ⟨hmem, rfl⟩ := Table.find?_eq_some.1 ht
    obtain ⟨merchant_name, hr⟩ := h.exists_flagged hmem cutoff
    exact ⟨_, ⟨hr, (hsel _ hr).2 hne⟩, rfl, h.present_eq cutoff hr⟩

/-- A transaction has one line at most. -/
theorem nodup_reportLines (cutoff : String) : ((reportLines db cutoff).map Prod.fst).Nodup := by
  rw [reportLines, List.map_map]
  exact (List.filter_sublist.map _).nodup (h.nodup_flagged _ cutoff)

/-- The header of the report is computed from its lines. -/
theorem header_eq (cutoff : String) (sort_by : DiscrepancySort) (sort_order : SortOrder)
    (limit offset : ℕ) :
    let report := discrepancies db (buildTransactionFilters {}) defaultDiscrepancyTypes cutoff sort_by
      sort_order limit offset
    report.total = (reportLines db cutoff).length ∧
      report.countsOf defaultDiscrepancyTypes =
        (discrepancyFlags.filter fun flag => flag.1 ∈ defaultDiscrepancyTypes).map fun flag =>
          (flag.1, (reportLines db cutoff).countP fun line => flag.1 ∈ line.2) := by
  refine ⟨by rw [reportLines, List.length_map]; rfl, ?_⟩
  simp only [DiscrepancyReport.countsOf, discrepancies, List.filter_map]
  refine List.map_congr_left fun flag hflag => ?_
  have hdefault : flag.1 ∈ defaultDiscrepancyTypes := by simpa using (List.mem_filter.1 hflag).2
  have hne := (mem_default_iff flag.1).1 hdefault
  refine Prod.ext rfl ?_
  rw [reportLines, List.countP_map]
  refine sum_map_eq_countP fun r hr => ?_
  have hr := (List.mem_filter.1 hr).1
  simp only [Function.comp, h.present_eq cutoff hr, mem_findings, decide_eq_true_eq]
  exact h.flag_eq cutoff hr hne

end Database.Projected

/-! ## The responses -/

/-- Some page of the answer to a query lists a transaction with its types. -/
def Lists (db : Database) (now : Utc) (query : DiscrepancyQuery) (id : String)
    (types : List DiscrepancyType) : Prop :=
  ∃ k, ∃ response, getDiscrepancies db now { query with offset := k * query.limit } = .ok response ∧
    ∃ item ∈ response.items, item.transaction_id = id ∧ item.discrepancy_types = types

/-- What a response says about all pages. -/
def DiscrepancyResponse.header (response : DiscrepancyResponse) : ℕ × List (DiscrepancyType × ℕ) :=
  (response.pagination.total, response.counts_by_type)

/-- The answers to a query over two databases report the same: the same transactions with the same
types over all pages, and on every page the same total and counts, or the same error. -/
structure SameReport (db db' : Database) (now : Utc) (query : DiscrepancyQuery) : Prop where
  /-- The transactions and their types. -/
  lists : ∀ id types, Lists db now query id types ↔ Lists db' now query id types
  /-- The total and the counts. -/
  header : ∀ offset, (getDiscrepancies db now { query with offset := offset }).map
      DiscrepancyResponse.header =
    (getDiscrepancies db' now { query with offset := offset }).map DiscrepancyResponse.header

/-- The default query as of an instant. -/
def asOfQuery (as_of : Utc) (hours : ℕ) (sort_by : DiscrepancySort) (sort_order : SortOrder)
    (limit : ℕ) : DiscrepancyQuery where
  as_of := some as_of
  stale_after_hours := hours
  sort_by := sort_by
  sort_order := sort_order
  limit := limit

section Responses

variable {db db' : Database} {as_of now : Utc} {hours limit : ℕ} {sort_by : DiscrepancySort}
  {sort_order : SortOrder}

/-- Without a cutoff there is an error and no report. -/
theorem SameReport.of_overflow (hcutoff : as_of.minusHours hours = none) :
    SameReport db db' now (asOfQuery as_of hours sort_by sort_order limit) := by
  have herr : ∀ (d : Database) (offset : ℕ), getDiscrepancies d now
      { asOfQuery as_of hours sort_by sort_order limit with offset := offset } =
        .error .overflow := fun d offset =>
    @getDiscrepancies_of_none now
      { asOfQuery as_of hours sort_by sort_order limit with offset := offset } hcutoff d
  refine ⟨fun id types => ?_, fun offset => by rw [herr, herr]⟩
  refine exists_congr fun k => ?_
  rw [herr, herr]

variable {cutoff : Utc} (hcutoff : as_of.minusHours hours = some cutoff)

include hcutoff

/-- The answer to the default query as of an instant. -/
theorem getDiscrepancies_asOf (db : Database) (now : Utc) (sort_by : DiscrepancySort)
    (sort_order : SortOrder) (limit offset : ℕ) :
    ∃ response, getDiscrepancies db now
        { asOfQuery as_of hours sort_by sort_order limit with offset := offset } = .ok response ∧
      response.items = (discrepancies db (buildTransactionFilters {}) defaultDiscrepancyTypes
        (formatTs cutoff) sort_by sort_order limit offset).items ∧
      response.header =
        ((discrepancies db (buildTransactionFilters {}) defaultDiscrepancyTypes (formatTs cutoff)
            sort_by sort_order limit offset).total,
          (discrepancies db (buildTransactionFilters {}) defaultDiscrepancyTypes (formatTs cutoff)
            sort_by sort_order limit offset).countsOf defaultDiscrepancyTypes) :=
  ⟨_, @getDiscrepancies_of_some now
    { asOfQuery as_of hours sort_by sort_order limit with offset := offset } cutoff hcutoff db,
    rfl, rfl⟩

/-- The pages list the lines of the report. -/
theorem lists_iff (hl : 0 < limit) {id : String} {types : List DiscrepancyType} :
    Lists db now (asOfQuery as_of hours sort_by sort_order limit) id types ↔
      (id, types) ∈ reportLines db (formatTs cutoff) := by
  have hpages : Lists db now (asOfQuery as_of hours sort_by sort_order limit) id types ↔
      ∃ k, ∃ item ∈ (discrepancies db (buildTransactionFilters {}) defaultDiscrepancyTypes
        (formatTs cutoff) sort_by sort_order limit (k * limit)).items,
          item.transaction_id = id ∧ item.discrepancy_types = types := by
    refine exists_congr fun k => ?_
    obtain ⟨response, hr, hitems, _⟩ :=
      getDiscrepancies_asOf hcutoff db now sort_by sort_order limit (k * limit)
    rw [← hitems]
    exact ⟨fun ⟨_, hr', h⟩ => Except.ok.inj (hr'.symm.trans hr) ▸ h, fun h => ⟨response, hr, h⟩⟩
  simp only [hpages, reportLines, List.mem_map, List.mem_filter, Prod.mk.injEq]
  constructor
  · rintro ⟨k, item, hitem, hid, htypes⟩
    obtain ⟨r, hr, hsel, rfl⟩ := (mem_pages hl).1 ⟨k, hitem⟩
    exact ⟨r, ⟨hr, hsel⟩, hid, htypes⟩
  · rintro ⟨r, ⟨hr, hsel⟩, hid, htypes⟩
    obtain ⟨k, hk⟩ := (mem_pages hl).2 ⟨r, hr, hsel, rfl⟩
    exact ⟨k, _, hk, hid, htypes⟩

/-- Two databases report the same when every transaction has the same findings in both logs. -/
theorem sameReport_iff (h : db.Projected) (h' : db'.Projected) (hl : 0 < limit) :
    SameReport db db' now (asOfQuery as_of hours sort_by sort_order limit) ↔
      ∀ id, findings (formatTs cutoff) (db.log id) = findings (formatTs cutoff) (db'.log id) := by
  constructor
  · rintro ⟨hlists, _⟩ id
    have hlines : ∀ types, (id, types) ∈ reportLines db (formatTs cutoff) ↔
        (id, types) ∈ reportLines db' (formatTs cutoff) := by
      intro types
      rw [← lists_iff hcutoff hl, ← lists_iff hcutoff hl]
      exact hlists id types
    simp only [h.mem_reportLines, h'.mem_reportLines] at hlines
    -- A transaction without a line in either report has no findings in either log.
    by_cases hne : findings (formatTs cutoff) (db.log id) = []
    · by_contra hdiff
      exact hdiff ((hlines _).2 ⟨rfl, fun hnil => hdiff (hne.trans hnil.symm)⟩).1
    · exact ((hlines _).1 ⟨rfl, hne⟩).1.symm
  · intro hsame
    have hmem : ∀ line, line ∈ reportLines db (formatTs cutoff) ↔
        line ∈ reportLines db' (formatTs cutoff) := by
      rintro ⟨id, types⟩
      rw [h.mem_reportLines, h'.mem_reportLines, hsame id]
    -- Both reports have the same lines, each once, and their headers count lines.
    have hperm : (reportLines db (formatTs cutoff)).Perm (reportLines db' (formatTs cutoff)) :=
      (List.perm_ext_iff_of_nodup (h.nodup_reportLines _).of_map (h'.nodup_reportLines _).of_map).2
        hmem
    refine ⟨fun id types => ?_, fun offset => ?_⟩
    · rw [lists_iff hcutoff hl, lists_iff hcutoff hl, hmem]
    · obtain ⟨r, hr, _, hheader⟩ :=
        getDiscrepancies_asOf hcutoff db now sort_by sort_order limit offset
      obtain ⟨r', hr', _, hheader'⟩ :=
        getDiscrepancies_asOf hcutoff db' now sort_by sort_order limit offset
      obtain ⟨htotal, hcounts⟩ := h.header_eq (formatTs cutoff) sort_by sort_order limit offset
      obtain ⟨htotal', hcounts'⟩ := h'.header_eq (formatTs cutoff) sort_by sort_order limit offset
      rw [hr, hr', Except.map, Except.map, hheader, hheader', htotal, htotal', hcounts, hcounts',
        hperm.length_eq]
      simp only [hperm.countP_eq]

end Responses

/-! ## The log of a sequence of events -/

/-- Erasing replays, one more event. -/
theorem eraseEvents_concat (seen : List String) (events : List EventIn) (event : EventIn) :
    eraseEvents seen (events ++ [event]) = eraseEvents seen events ++
      if event.event_id ∈ seen ∨ event.event_id ∈ events.map EventIn.event_id then []
      else [event] := by
  induction events generalizing seen with
  | nil =>
    simp only [List.nil_append, eraseEvents, List.map_nil, List.not_mem_nil, or_false]
  | cons first events ih =>
    rw [List.cons_append, eraseEvents, eraseEvents, List.map_cons]
    -- An erased first event adds nothing to what is seen, and a kept one its id.
    by_cases hseen : first.event_id ∈ seen
    · have hcond : event.event_id ∈ seen ∨ event.event_id ∈ events.map EventIn.event_id ↔
          event.event_id ∈ seen ∨ event.event_id ∈ first.event_id :: events.map EventIn.event_id := by
        rw [List.mem_cons]
        refine ⟨fun h => h.imp_right .inr, ?_⟩
        rintro (h | h | h)
        exacts [.inl h, .inl (h ▸ hseen), .inr h]
      simp only [if_pos hseen, ih, hcond]
    · have hcond : event.event_id ∈ first.event_id :: seen ∨
            event.event_id ∈ events.map EventIn.event_id ↔
          event.event_id ∈ seen ∨ event.event_id ∈ first.event_id :: events.map EventIn.event_id := by
        rw [List.mem_cons, List.mem_cons, or_assoc, or_left_comm]
      simp only [if_neg hseen, ih, hcond, List.cons_append]

/-- The stored entries are those of the first event with each id. -/
theorem History.entries_eq {trace : List Occurrence} {db : Database} (h : History trace db) :
    db.events.rows.map EventRow.entry =
      (eraseEvents [] (trace.map Prod.fst)).map EventIn.entry := by
  induction h with
  | empty => rfl
  | @snoc trace db hist now event ih =>
    rw [List.map_append, List.map_singleton, eraseEvents_concat, List.map_append, ← ih]
    cases he : db.events.find? event.event_id with
    | some existing =>
      -- The id is stored, so an earlier event of the trace has it, and the event is erased.
      obtain ⟨o, ho, _, now', rfl⟩ := hist.stored_from_created existing (Table.mem_of_find? he)
      have hid : (o.1.eventRow now').event_id = event.event_id := Table.key_of_find? he
      rw [Database.events_of_stored he, if_pos, List.map_nil, List.append_nil]
      rw [EventIn.event_id_eventRow] at hid
      exact .inr (hid ▸ List.mem_map_of_mem (List.mem_map_of_mem ho))
    | none =>
      -- Every event of the trace has left a row, so the id is new to the trace, too.
      have hfresh : event.event_id ∉ (trace.map Prod.fst).map EventIn.event_id := by
        intro hmem
        obtain ⟨e, hmem, hid⟩ := List.mem_map.1 hmem
        obtain ⟨o, ho, rfl⟩ := List.mem_map.1 hmem
        obtain ⟨_, row, hrow, _⟩ := hist.answered o ho
        rw [hid, he] at hrow
        cases hrow
      rw [Database.rows_events_of_new he, if_neg, List.map_append]
      · rfl
      · simpa using hfresh

/-- The log that a sequence of events leaves of a transaction, but for `received_at`: the first event
with each id. -/
def stored (events : List EventIn) (id : String) : List EventRow :=
  ((eraseEvents [] events).filter fun event => event.transaction_id = id).map fun event =>
    event.eventRow ""

/-- The log of a history is that of its events. -/
theorem History.log_entries {trace : List Occurrence} {db : Database} (h : History trace db)
    (id : String) : (db.log id).map EventRow.entry =
      (stored (trace.map Prod.fst) id).map EventRow.entry := by
  calc (db.log id).map EventRow.entry
      = (db.events.rows.map EventRow.entry).filter fun x => x.transaction_id = id :=
        entries_log db id
    _ = ((eraseEvents [] (trace.map Prod.fst)).map EventIn.entry).filter
          fun x => x.transaction_id = id := by rw [h.entries_eq]
    _ = (stored (trace.map Prod.fst) id).map EventRow.entry := by
        rw [stored, List.filter_map, List.map_map]
        rfl

section Entries

variable {log log' : List EventRow} (h : log.map EventRow.entry = log'.map EventRow.entry)

include h

/-- An event with a given entry is in the one log when it is in the other. -/
theorem exists_entry_iff (p : Entry → Prop) :
    (∃ e ∈ log, p e.entry) ↔ ∃ e ∈ log', p e.entry := by
  have hform : ∀ l : List EventRow, (∃ e ∈ l, p e.entry) ↔ ∃ x ∈ l.map EventRow.entry, p x := by
    intro l
    simp
  rw [hform, hform, h]

/-- What is present in a log depends on its entries only. -/
theorem foundIn_congr (cutoff : String) (type : DiscrepancyType) :
    FoundIn cutoff log type ↔ FoundIn cutoff log' type := by
  have hhas : ∀ ty, Has ty log ↔ Has ty log' := fun ty =>
    exists_entry_iff h fun x => x.event_type = ty
  have hstale : ∀ ty, Stale cutoff ty log ↔ Stale cutoff ty log' := fun ty =>
    exists_entry_iff h fun x => x.event_type = ty ∧ x.occurred_at < cutoff
  have hamount : Disagree EventRow.amount_minor log ↔ Disagree EventRow.amount_minor log' :=
    disagree_perm (.of_eq h) Entry.amount_minor
  have hmerchant : Disagree EventRow.merchant_id log ↔ Disagree EventRow.merchant_id log' :=
    disagree_perm (.of_eq h) Entry.merchant_id
  cases type <;> simp only [FoundIn, hhas, hstale, hamount, hmerchant]

end Entries

/-! ## What later events leave unaltered -/

/-- The lifecycle is quiet at the cutoff: settled after it was processed and without a failure, failed
and nothing else, processed and not stale, or not past its initiation and not stale. -/
def Quiet (cutoff : String) (log : List EventRow) : Prop :=
  if Has .settled log then Has .payment_processed log ∧ ¬ Has .payment_failed log
  else if Has .payment_failed log then ¬ Has .payment_processed log
  else if Has .payment_processed log then ¬ Stale cutoff .payment_processed log
  else ¬ Stale cutoff .payment_initiated log

instance (cutoff : String) (log : List EventRow) : Decidable (Quiet cutoff log) := by
  unfold Quiet
  infer_instance

/-- A stale event is an event. -/
theorem Stale.has {cutoff : String} {type : EventType} {log : List EventRow}
    (h : Stale cutoff type log) : Has type log := by
  obtain ⟨e, he, hty, _⟩ := h
  exact ⟨e, he, hty⟩

/-- A quiet lifecycle has none of the five lifecycle discrepancies. -/
theorem quiet_iff {cutoff : String} {log : List EventRow} : Quiet cutoff log ↔
    ¬ FoundIn cutoff log .settled_after_failure ∧
      ¬ FoundIn cutoff log .settled_without_processing ∧
      ¬ FoundIn cutoff log .processed_not_settled ∧ ¬ FoundIn cutoff log .stuck_in_initiated ∧
      ¬ FoundIn cutoff log .conflicting_payment_state := by
  have hi : Stale cutoff .payment_initiated log → Has .payment_initiated log := Stale.has
  simp only [Quiet, FoundIn]
  split_ifs with hs hf hp
  · grind
  · grind
  · grind
  · grind

/-- Unless it is quiet, the lifecycle discrepancies say which events there are. -/
theorem has_of_not_quiet {cutoff : String} {log : List EventRow} (h : ¬ Quiet cutoff log) :
    (Has .payment_processed log ↔ FoundIn cutoff log .processed_not_settled ∨
        FoundIn cutoff log .conflicting_payment_state) ∧
      (Has .payment_failed log ↔ FoundIn cutoff log .settled_after_failure ∨
        FoundIn cutoff log .conflicting_payment_state) ∧
      (Has .settled log ↔ FoundIn cutoff log .settled_after_failure ∨
        FoundIn cutoff log .settled_without_processing) := by
  simp only [Quiet] at h
  simp only [FoundIn]
  split_ifs at h with hs hf hp <;> grind

/-- Unless it is quiet, an unsettled lifecycle without failure is stale. -/
theorem stale_of_not_quiet {cutoff : String} {log : List EventRow} (h : ¬ Quiet cutoff log) :
    (FoundIn cutoff log .processed_not_settled ↔ Has .payment_processed log ∧
        ¬ Has .payment_failed log ∧ ¬ Has .settled log) ∧
      (FoundIn cutoff log .stuck_in_initiated ↔ ¬ Has .payment_processed log ∧
        ¬ Has .payment_failed log ∧ ¬ Has .settled log) := by
  have hi : Stale cutoff .payment_initiated log → Has .payment_initiated log := Stale.has
  simp only [Quiet] at h
  simp only [FoundIn]
  split_ifs at h with hs hf hp <;> grind

/-- Two logs of a transaction are the same to the report at a cutoff. -/
structure Unaltered (cutoff : String) (log log' : List EventRow) : Prop where
  /-- The amounts disagree in both or in neither. -/
  amounts : Disagree EventRow.amount_minor log ↔ Disagree EventRow.amount_minor log'
  /-- The merchants disagree in both or in neither. -/
  merchants : Disagree EventRow.merchant_id log ↔ Disagree EventRow.merchant_id log'
  /-- The lifecycle is quiet in both or in neither. -/
  quiet : Quiet cutoff log ↔ Quiet cutoff log'
  /-- A lifecycle that is not quiet has the same events past the initiation. -/
  lifecycle : ¬ Quiet cutoff log → (Has .payment_processed log ↔ Has .payment_processed log') ∧
    (Has .payment_failed log ↔ Has .payment_failed log') ∧ (Has .settled log ↔ Has .settled log')

/-- Unaltered logs have the same findings, and only they do. -/
theorem unaltered_iff {cutoff : String} {log log' : List EventRow} :
    Unaltered cutoff log log' ↔
      ∀ type, FoundIn cutoff log type ↔ FoundIn cutoff log' type := by
  constructor
  · rintro ⟨hamounts, hmerchants, hquiet, hlife⟩ type
    by_cases hq : Quiet cutoff log
    · -- Both lifecycles are quiet: none of the five is present in either log.
      obtain ⟨h1, h2, h3, h4, h5⟩ := quiet_iff.1 hq
      obtain ⟨h1', h2', h3', h4', h5'⟩ := quiet_iff.1 (hquiet.1 hq)
      cases type with
      | settled_after_failure => exact iff_of_false h1 h1'
      | settled_without_processing => exact iff_of_false h2 h2'
      | processed_not_settled => exact iff_of_false h3 h3'
      | stuck_in_initiated => exact iff_of_false h4 h4'
      | conflicting_payment_state => exact iff_of_false h5 h5'
      | amount_mismatch => exact hamounts
      | merchant_mismatch => exact hmerchants
      | duplicate_events => exact Iff.rfl
    · -- Neither is quiet: the five are decided by which events there are.
      obtain ⟨hp, hf, hs⟩ := hlife hq
      obtain ⟨hpns, hstuck⟩ := stale_of_not_quiet hq
      obtain ⟨hpns', hstuck'⟩ := stale_of_not_quiet (mt hquiet.2 hq)
      cases type with
      | processed_not_settled => rw [hpns, hpns', hp, hf, hs]
      | stuck_in_initiated => rw [hstuck, hstuck', hp, hf, hs]
      | amount_mismatch => exact hamounts
      | merchant_mismatch => exact hmerchants
      | _ => simp only [FoundIn, hp, hf, hs]
  · intro h
    have hquiet : Quiet cutoff log ↔ Quiet cutoff log' := by rw [quiet_iff, quiet_iff]; simp only [h]
    refine ⟨h .amount_mismatch, h .merchant_mismatch, hquiet, fun hq => ?_⟩
    obtain ⟨hp, hf, hs⟩ := has_of_not_quiet hq
    obtain ⟨hp', hf', hs'⟩ := has_of_not_quiet (mt hquiet.2 hq)
    rw [hp, hf, hs, hp', hf', hs']
    simp only [h, and_self]

/-! ## The result -/

/-- The events of a sequence that happened up to an instant. -/
def upTo (as_of : Utc) (events : List EventIn) : List EventIn :=
  events.filter fun event => event.timestamp ≤ formatTs as_of

/-- The transaction of the example event, processed three weeks later. -/
def processedEvent : EventIn :=
  { exampleEvent with
    event_id := "processed"
    event_type := .payment_processed
    timestamp := "2026-02-01T00:00:00.000000+00:00"
    event_id_valid := by decide
    timestamp_canonical := ⟨⟨2026, 2, 1, 0, 0, 0, 0, by decide⟩, by decide⟩ }

/-- When a report is point-in-time. For every sequence of events and every instant, the default report
as of the instant over the whole sequence is the same as over the events up to the instant exactly
when there is no cutoff (and both are an error), or the later events leave every transaction unaltered
at the cutoff. -/
theorem as_of_iff {batches batches' : List Batch} {db db' : Database}
    (h : Commits .empty batches db) (h' : Commits .empty batches' db') {as_of : Utc}
    (hevents : batches'.flatMap Batch.events = upTo as_of (batches.flatMap Batch.events)) (now : Utc)
    (hours : ℕ) (sort_by : DiscrepancySort) (sort_order : SortOrder) {limit : ℕ} (hl : 0 < limit) :
    SameReport db db' now (asOfQuery as_of hours sort_by sort_order limit) ↔
      ∀ cutoff, as_of.minusHours hours = some cutoff → ∀ id,
        Unaltered (formatTs cutoff) (stored (batches.flatMap Batch.events) id)
          (stored (upTo as_of (batches.flatMap Batch.events)) id) := by
  obtain ⟨trace, hist, hmap⟩ := h.history
  obtain ⟨trace', hist', hmap'⟩ := h'.history
  have hlog := hist.log_entries
  have hlog' := hist'.log_entries
  rw [hmap] at hlog
  rw [hmap', hevents] at hlog'
  -- Without a cutoff both requests are the same error; with one the reports agree when the findings do.
  cases hcutoff : as_of.minusHours hours with
  | none => exact iff_of_true (.of_overflow hcutoff) fun cutoff hc => nomatch hc
  | some cutoff =>
    simp only [Option.some.injEq, forall_eq']
    rw [sameReport_iff hcutoff hist.projected hist'.projected hl]
    refine forall_congr' fun id => ?_
    rw [findings_eq_iff, unaltered_iff]
    refine forall_congr' fun type => ?_
    rw [foundIn_congr (hlog id), foundIn_congr (hlog' id)]

/-- The next day, nothing is stale with the later event or without it. -/
theorem as_of_iff_next_day :
    SameReport (Database.empty.ingestAll [⟨"", [exampleEvent, processedEvent]⟩])
      (Database.empty.ingestAll [⟨"", [exampleEvent]⟩]) ⟨2026, 1, 9, 0, 0, 0, 0, by decide⟩
      (asOfQuery ⟨2026, 1, 9, 0, 0, 0, 0, by decide⟩ 48 .severity .desc 50) := by
  have hc := Run.empty.history.checked
  refine (as_of_iff (.exists hc [⟨"", [exampleEvent, processedEvent]⟩])
    (.exists hc [⟨"", [exampleEvent]⟩]) (by rfl) _ 48 .severity .desc (by decide)).2
      fun cutoff hcutoff id => ?_
  have hstart : Utc.minusHours ⟨2026, 1, 9, 0, 0, 0, 0, by decide⟩ 48 =
      some ⟨2026, 1, 7, 0, 0, 0, 0, by decide⟩ := by decide
  obtain rfl := Option.some.inj (hstart.symm.trans hcutoff)
  by_cases hid : exampleEvent.transaction_id = id
  · subst hid
    exact ⟨by decide, by decide, by decide, by decide⟩
  · -- Both logs of another transaction are empty.
    have hid' : processedEvent.transaction_id ≠ id := hid
    have hfull : stored [exampleEvent, processedEvent] id = [] := by
      rw [stored, show eraseEvents [] [exampleEvent, processedEvent] =
        [exampleEvent, processedEvent] from rfl]
      simp [hid, hid']
    have hpast : stored [exampleEvent] id = [] := by
      rw [stored, show eraseEvents [] [exampleEvent] = [exampleEvent] from rfl]
      simp [hid]
    show Unaltered _ (stored [exampleEvent, processedEvent] id) (stored [exampleEvent] id)
    rw [hfull, hpast]
    exact unaltered_iff.2 fun _ => Iff.rfl

/-- Four days later the transaction is stuck, but not in the report over all events, for it was
processed after that. -/
theorem later_event_alters_report :
    ¬ ∀ (batches batches' : List Batch) (db db' : Database), Commits .empty batches db →
      Commits .empty batches' db' → ∀ as_of,
        batches'.flatMap Batch.events = upTo as_of (batches.flatMap Batch.events) → ∀ now hours,
          SameReport db db' now (asOfQuery as_of hours .severity .desc 50) := by
  intro h
  have hc := Run.empty.history.checked
  have hsame := h [⟨"", [exampleEvent, processedEvent]⟩] [⟨"", [exampleEvent]⟩] _ _ (.exists hc _)
    (.exists hc _) ⟨2026, 1, 12, 0, 0, 0, 0, by decide⟩ (by rfl)
    ⟨2026, 3, 1, 0, 0, 0, 0, by decide⟩ 48
  have htotal := congrArg (fun r => r.toOption.map Prod.fst) (hsame.header 0)
  revert htotal
  decide

end PaymentRecon
