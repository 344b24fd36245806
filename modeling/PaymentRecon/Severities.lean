import PaymentRecon.Sql.Paging
import PaymentRecon.Detection
import PaymentRecon.Reconciliation

/-!
# Severities in the report

The report computes the severity of a transaction twice. `severity_rank`, which SQL sorts by, is the
greatest severity of all flags of the row (`isGreatest_severity_rank`); the severity that an item
displays, and that the `severity` filter compares, is the greatest one of the requested types that are
present (`isGreatest_maxSeverity`). The filter is applied to a page that SQL has already cut, so
that the pages of a filtered report are right exactly when the filter has nothing to remove
(`severity_paginates_iff`).
-/

namespace PaymentRecon

open Store Sql

/-! ## The rows of a report -/

/-- The rows of the report, of all pages. -/
def reportRows (db : Database) (filter : Condition) (types : List DiscrepancyType) (cutoff : String)
    (sort_by : DiscrepancySort) (sort_order : SortOrder) : List FlaggedRow :=
  orderBy (sort_by.keys sort_order) ((flagged db filter cutoff).filter fun r => r.selected types)

section

variable {db : Database} {filter : Condition} {types : List DiscrepancyType} {cutoff : String}
  {sort_by : DiscrepancySort} {sort_order : SortOrder}

/-- The items are shaped from a page of the report. -/
theorem discrepancies_items (limit offset : ℕ) :
    (discrepancies db filter types cutoff sort_by sort_order limit offset).items =
      (page limit offset (reportRows db filter types cutoff sort_by sort_order)).map
        (shapeDiscrepancyRow types) := rfl

/-- The total counts the rows of the report. -/
theorem discrepancies_total (limit offset : ℕ) :
    (discrepancies db filter types cutoff sort_by sort_order limit offset).total =
      (reportRows db filter types cutoff sort_by sort_order).length := by
  rw [reportRows, length_orderBy]
  rfl

/-- The rows of the report are the flagged ones that have a selected type. -/
theorem mem_reportRows {r : FlaggedRow} :
    r ∈ reportRows db filter types cutoff sort_by sort_order ↔
      r ∈ flagged db filter cutoff ∧ r.selected types = true := by
  rw [reportRows, mem_orderBy, List.mem_filter]

/-- A transaction has at most one row in the report. -/
theorem Database.Projected.nodup_reportRows (h : db.Projected) :
    ((reportRows db filter types cutoff sort_by sort_order).map
      fun r => r.t.transaction_id).Nodup := by
  rw [reportRows, ((perm_orderBy _ _).map _).nodup_iff]
  exact (h.nodup_flagged filter cutoff).sublist (List.filter_sublist.map _)

/-- Two rows of the report that sort alike are the same. -/
theorem Database.Projected.eq_of_le (h : db.Projected) {r r' : FlaggedRow}
    (hr : r ∈ reportRows db filter types cutoff sort_by sort_order)
    (hr' : r' ∈ reportRows db filter types cutoff sort_by sort_order)
    (hle : le (sort_by.keys sort_order) r r' = true)
    (hge : le (sort_by.keys sort_order) r' r = true) : r = r' := by
  -- The last key is the transaction's id.
  have hkey : (⟨fun r => some (.text r.t.transaction_id), false⟩ : SortKey FlaggedRow) ∈
      sort_by.keys sort_order := by
    cases sort_by <;> simp [DiscrepancySort.keys]
  have hid := column_eq_of_le hle hge _ hkey
  simp only [Option.some.injEq, Value.text.injEq] at hid
  exact List.inj_on_of_nodup_map h.nodup_reportRows hr hr' hid

end

/-! ## The two severities -/

/-- The severity of a type. -/
def DiscrepancyType.severity : DiscrepancyType → Severity
  | settled_after_failure => .high
  | conflicting_payment_state => .high
  | amount_mismatch => .high
  | merchant_mismatch => .high
  | settled_without_processing => .medium
  | processed_not_settled => .medium
  | stuck_in_initiated => .low
  | duplicate_events => .low

/-- The table of flags has each type with its severity. -/
theorem mem_discrepancyFlags {type : DiscrepancyType} {severity : Severity} :
    (type, severity) ∈ discrepancyFlags ↔ type.severity = severity := by
  cases type <;> cases severity <;> decide

/-- Every severity ranks above none. -/
theorem Severity.one_le_rank (severity : Severity) : 1 ≤ severity.rank := by
  cases severity <;> decide

/-- Severities of one rank are the same. -/
theorem Severity.rank_injective : Function.Injective Severity.rank := by
  intro s s' h
  cases s <;> cases s' <;> first | rfl | cases h

/-- The inner loop of `_shape_discrepancy_row`, for one type. -/
theorem foldl_discrepancyFlags (severity : Severity) (type : DiscrepancyType) :
    (discrepancyFlags.foldl (fun severity flag =>
      if flag.1 = type ∧ flag.2.rank > severity.rank then flag.2 else severity) severity) =
        if type.severity.rank > severity.rank then type.severity else severity := by
  cases type <;> cases severity <;> rfl

/-- The severities of some types, as ranks. -/
def ranksOf (types : List DiscrepancyType) : Set ℕ :=
  {n | ∃ type ∈ types, type.severity.rank = n}

/-- The severity that an item displays is the greatest one of its types. -/
theorem isGreatest_maxSeverity {present : List DiscrepancyType} (h : present ≠ []) :
    IsGreatest (ranksOf present) (maxSeverity present).rank := by
  let step (severity : Severity) (type : DiscrepancyType) : Severity :=
    if type.severity.rank > severity.rank then type.severity else severity
  have hmax : maxSeverity present = present.foldl step .low := by
    simp only [maxSeverity, foldl_discrepancyFlags]
    rfl
  -- The loop never goes down, and it is at the start or at the severity of a type it has seen.
  have hloop : ∀ (types : List DiscrepancyType) (start : Severity),
      start.rank ≤ (types.foldl step start).rank ∧
        (∀ type ∈ types, type.severity.rank ≤ (types.foldl step start).rank) ∧
        (types.foldl step start = start ∨
          ∃ type ∈ types, type.severity = types.foldl step start) := by
    intro types
    induction types with
    | nil => exact fun start => ⟨le_rfl, nofun, .inl rfl⟩
    | cons type types ih =>
      intro start
      obtain ⟨hstart, hall, hend⟩ := ih (step start type)
      have hstep : start.rank ≤ (step start type).rank ∧
          type.severity.rank ≤ (step start type).rank := by
        simp only [step]
        split_ifs <;> omega
      rw [List.foldl_cons]
      refine ⟨hstep.1.trans hstart, fun type' hmem => ?_, ?_⟩
      · rcases List.mem_cons.1 hmem with rfl | hmem
        · exact hstep.2.trans hstart
        · exact hall type' hmem
      · rcases hend with heq | ⟨type', hmem, heq⟩
        · rw [heq]
          simp only [step]
          split_ifs
          · exact .inr ⟨type, List.mem_cons_self, rfl⟩
          · exact .inl rfl
        · exact .inr ⟨type', List.mem_cons_of_mem _ hmem, heq⟩
  obtain ⟨_, hall, hend⟩ := hloop present .low
  rw [← hmax] at hall hend
  refine ⟨?_, fun n ⟨type, hmem, hn⟩ => hn ▸ hall type hmem⟩
  rcases hend with hlow | ⟨type, hmem, heq⟩
  · -- Nothing is above `low`, so any of the types has it.
    obtain ⟨type, hmem⟩ := List.exists_mem_of_ne_nil _ h
    have hle := hall type hmem
    have hge := type.severity.one_le_rank
    rw [hlow] at hle ⊢
    exact ⟨type, hmem, le_antisymm hle hge⟩
  · exact ⟨type, hmem, by rw [heq]⟩

/-- A row has a flag of a severity. -/
def FlaggedRow.HasSeverity (r : FlaggedRow) (severity : Severity) : Prop :=
  ∃ type, r.flag type = 1 ∧ type.severity = severity

/-- The flags of the severity `high`. -/
theorem FlaggedRow.hasSeverity_high {r : FlaggedRow} : r.HasSeverity .high ↔
    r.d_settled_after_failure = 1 ∨ r.d_conflicting_payment_state = 1 ∨ r.d_amount_mismatch = 1 ∨
      r.d_merchant_mismatch = 1 := by
  constructor
  · rintro ⟨type, hf, hs⟩
    cases type <;> simp_all [FlaggedRow.flag, DiscrepancyType.severity]
  · rintro (h | h | h | h)
    exacts [⟨.settled_after_failure, h, rfl⟩, ⟨.conflicting_payment_state, h, rfl⟩,
      ⟨.amount_mismatch, h, rfl⟩, ⟨.merchant_mismatch, h, rfl⟩]

/-- The flags of the severity `medium`. -/
theorem FlaggedRow.hasSeverity_medium {r : FlaggedRow} : r.HasSeverity .medium ↔
    r.d_settled_without_processing = 1 ∨ r.d_processed_not_settled = 1 := by
  constructor
  · rintro ⟨type, hf, hs⟩
    cases type <;> simp_all [FlaggedRow.flag, DiscrepancyType.severity]
  · rintro (h | h)
    exacts [⟨.settled_without_processing, h, rfl⟩, ⟨.processed_not_settled, h, rfl⟩]

/-- The rank that SQL sorts by. -/
theorem FlaggedRow.severity_rank_cases (r : FlaggedRow) :
    (r.severity_rank = 3 ∧ r.HasSeverity .high) ∨
      (r.severity_rank = 2 ∧ ¬ r.HasSeverity .high ∧ r.HasSeverity .medium) ∨
      (r.severity_rank = 1 ∧ ¬ r.HasSeverity .high ∧ ¬ r.HasSeverity .medium) := by
  unfold FlaggedRow.severity_rank
  rw [hasSeverity_high, hasSeverity_medium]
  split_ifs with hhigh hmedium
  · exact .inl ⟨rfl, hhigh⟩
  · exact .inr (.inl ⟨rfl, hhigh, hmedium⟩)
  · exact .inr (.inr ⟨rfl, hhigh, hmedium⟩)

/-- The rank that SQL sorts by is the greatest one of all flags, in a row that has one. -/
theorem isGreatest_severity_rank {r : FlaggedRow} (h : ∃ type, r.flag type = 1) :
    IsGreatest {n | ∃ type, r.flag type = 1 ∧ type.severity.rank = n} r.severity_rank := by
  rcases r.severity_rank_cases with ⟨hr, type, hf, hs⟩ | ⟨hr, hhigh, type, hf, hs⟩ |
    ⟨hr, hhigh, hmedium⟩
  -- The `CASE` finds a high flag, else a medium one, else none but low ones.
  · refine ⟨⟨type, hf, by rw [hr, hs]; rfl⟩, fun n ⟨type', _, hn⟩ => ?_⟩
    rw [hr, ← hn]
    cases type'.severity <;> decide
  · refine ⟨⟨type, hf, by rw [hr, hs]; rfl⟩, fun n ⟨type', hf', hn⟩ => ?_⟩
    rw [hr, ← hn]
    cases hs' : type'.severity with
    | high => exact absurd ⟨type', hf', hs'⟩ hhigh
    | medium => decide
    | low => decide
  · have hlow : ∀ type, r.flag type = 1 → type.severity.rank = 1 := by
      intro type hf
      cases hs : type.severity with
      | high => exact absurd ⟨type, hf, hs⟩ hhigh
      | medium => exact absurd ⟨type, hf, hs⟩ hmedium
      | low => rfl
    -- Some flag is set, so there is a low one.
    obtain ⟨type, hf⟩ := h
    exact ⟨⟨type, hf, by rw [hr, hlow type hf]⟩, fun n ⟨type', hf', hn⟩ => by
      rw [hr, ← hn, hlow type' hf']⟩

/-! ## The severity filter -/

/-- The items of the report behind a query, of all pages, before the `severity` filter. -/
def DiscrepancyQuery.report (query : DiscrepancyQuery) (db : Database) (cutoff : Utc) :
    List DiscrepancyItem :=
  (reportRows db query.filter query.selectedTypes (formatTs cutoff) query.sort_by
    query.sort_order).map (shapeDiscrepancyRow query.selectedTypes)

/-- The requests at the offsets that can be bound are answered with the pages of `items`: the total is
their number, a page has as many as the limit and what is left allow, `has_more` says whether one comes
after the page, and the pages put together hold each of them, and each transaction once. -/
def Paginates (request : ℕ → Except AppError DiscrepancyResponse) (limit : ℕ)
    (items : List DiscrepancyItem) : Prop :=
  ∃ answer : ℕ → DiscrepancyResponse, (∀ offset < 2 ^ 63, request offset = .ok (answer offset)) ∧
    (∀ offset < 2 ^ 63, (answer offset).pagination.total = items.length ∧
      (answer offset).items.length = min limit (items.length - offset) ∧
      ((answer offset).pagination.has_more = true ↔ items.drop (offset + limit) ≠ [])) ∧
    ((offsets limit items.length).flatMap fun offset => (answer offset).items).Perm items ∧
    (items.map DiscrepancyItem.transaction_id).Nodup

section

variable {db : Database} {now : Utc} {query : DiscrepancyQuery} {cutoff : Utc}

/-- The requests of a client that pages through the report of one severity. -/
def severityRequest (db : Database) (now : Utc) (query : DiscrepancyQuery) (severity : Severity)
    (offset : ℕ) : Except AppError DiscrepancyResponse :=
  getDiscrepancies db now { query with severity := some severity, offset := offset }

/-- The answer to a request for one severity: a page of the whole report, less the items of other
severities, with the total of the whole report. -/
theorem severityRequest_eq (db : Database)
    (hc : (query.as_of.getD now).minusHours query.stale_after_hours = some cutoff)
    (severity : Severity) (offset : ℕ) :
    ∃ response, severityRequest db now query severity offset = .ok response ∧
      response.items = (page query.limit offset (query.report db cutoff)).filter
        (fun item => item.severity = severity) ∧
      response.pagination.total = (query.report db cutoff).length ∧
      response.pagination.has_more =
        decide (offset + response.items.length < (query.report db cutoff).length) := by
  have hanswer := @getDiscrepancies_of_some now
    { query with severity := some severity, offset := offset } cutoff hc db
  refine ⟨_, hanswer, ?_, ?_, ?_⟩
  · rw [DiscrepancyQuery.report, ← map_page]
    rfl
  · rw [DiscrepancyQuery.report, List.length_map]
    exact discrepancies_total query.limit offset
  · rw [DiscrepancyQuery.report, List.length_map, ← discrepancies_total query.limit offset]
    rfl

/-- Paging through one severity is right exactly when there is no other. For every reachable database
and every query that is answered: the requests for a severity are answered with the pages of the
sub-report of that severity if and only if every transaction of the report displays it. -/
theorem severity_paginates_iff (h : Reachable db)
    (hc : (query.as_of.getD now).minusHours query.stale_after_hours = some cutoff)
    (hl : 0 < query.limit) (severity : Severity) :
    Paginates (severityRequest db now query severity) query.limit
        ((query.report db cutoff).filter fun item => item.severity = severity) ↔
      ∀ item ∈ query.report db cutoff, item.severity = severity := by
  constructor
  · rintro ⟨answer, hanswer, hpage, -, -⟩
    -- The total is that of the whole report.
    obtain ⟨response, hresponse, -, htotal, -⟩ := severityRequest_eq db hc severity 0
    rw [hanswer 0 (by norm_num), Except.ok.injEq] at hresponse
    have hlength := (hpage 0 (by norm_num)).1
    rw [hresponse, htotal] at hlength
    simpa using List.length_filter_eq_length_iff.1 hlength.symm
  · intro hall
    have hfilter : ∀ items : List DiscrepancyItem, (∀ item ∈ items, item.severity = severity) →
        (items.filter fun item => item.severity = severity) = items :=
      fun items hitems => List.filter_eq_self.2 fun item hitem => by simp [hitems item hitem]
    rw [hfilter _ hall]
    choose answer hanswer hitems htotal hmore using severityRequest_eq db hc severity
    have hitems' : ∀ offset, (answer offset).items =
        page query.limit offset (query.report db cutoff) := fun offset =>
      (hitems offset).trans (hfilter _ fun item hitem => hall item (mem_of_mem_page hitem))
    refine ⟨answer, fun offset _ => hanswer offset, fun offset _ => ⟨htotal offset, ?_, ?_⟩, ?_, ?_⟩
    · rw [hitems', length_page]
    · rw [hmore, hitems', decide_eq_true_iff, has_more_iff hl]
    · simp only [hitems']
      rw [flatMap_page_offsets hl]
    · rw [DiscrepancyQuery.report, List.map_map]
      exact h.projected.nodup_reportRows

end

/-! ## Sample transactions -/

/-- A transaction that was settled with two amounts, and one that was initiated. -/
def repricedAndStuck : Database :=
  Database.empty.applyAll "" [sampleEvent "13" "k" .settled,
    (sampleEvent "13" "k" .settled).repriced "14", sampleEvent "15" "l" .payment_initiated]

/-- The service reaches it by one batch. -/
theorem reachable_repricedAndStuck : Reachable repricedAndStuck :=
  ⟨_, Run.empty.ingest "" [sampleEvent "13" "k" .settled,
    (sampleEvent "13" "k" .settled).repriced "14", sampleEvent "15" "l" .payment_initiated]⟩

/-- The report of what is stuck, by pages of one. -/
def stuckQuery : DiscrepancyQuery := { type := [.stuck_in_initiated], limit := 1 }

/-- The pages of the severity `low` of a report in which there is no other. -/
theorem severity_paginates_iff_stuck :
    Paginates (severityRequest repricedAndStuck fourDaysLater stuckQuery .low) 1
      ((stuckQuery.report repricedAndStuck twoDaysLater).filter
        fun item => item.severity = .low) :=
  (@severity_paginates_iff repricedAndStuck fourDaysLater stuckQuery twoDaysLater
    reachable_repricedAndStuck fourDaysLater_minusHours (by decide) .low).2 (by decide)

/-- The default report by pages of one. -/
def pagedQuery : DiscrepancyQuery := { limit := 1 }

/-- The default report in pages of one, for the severity `low`: the total counts the transaction that
was settled with two amounts, which displays `high`. -/
theorem severity_paging_mixes :
    Reachable repricedAndStuck ∧
      ¬ Paginates (severityRequest repricedAndStuck fourDaysLater pagedQuery .low) 1
        ((pagedQuery.report repricedAndStuck twoDaysLater).filter
          fun item => item.severity = .low) := by
  refine ⟨reachable_repricedAndStuck, ?_⟩
  rintro ⟨answer, hanswer, hpage, -, -⟩
  have htotal := @severityRequest_eq fourDaysLater pagedQuery twoDaysLater repricedAndStuck
    fourDaysLater_minusHours .low 0
  obtain ⟨response, hresponse, -, htotal, -⟩ := htotal
  rw [hanswer 0 (by norm_num), Except.ok.injEq] at hresponse
  have hlength := (hpage 0 (by norm_num)).1
  rw [hresponse, htotal] at hlength
  -- Two transactions are reported, and one of them displays `low`.
  revert hlength
  decide

end PaymentRecon
