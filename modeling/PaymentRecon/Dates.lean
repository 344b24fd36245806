import PaymentRecon.FilterMeaning
import PaymentRecon.RangeBounds
import PaymentRecon.Reports
import PaymentRecon.Severities

/-!
# Dates

A range of days reaches the filter as two timestamps, which are compared with `first_event_at` as texts,
whereas the groups by date go by the generated column `txn_date`, the first ten characters of it. Both
cut at midnight: the time of the first event is a canonical timestamp in every reachable database
(`Database.Projected.canonical_first_event_at`), and a canonical timestamp lies between the ends of two
days exactly when its first ten characters lie between their texts (`txn_date_between_iff`).
-/

namespace PaymentRecon

open Store Sql

/-- The first event of a transaction has a canonical time. -/
theorem Database.Projected.canonical_first_event_at {db : Database} (h : db.Projected)
    {t : TransactionRow} (ht : t ∈ db.transactions.rows) : Canonical t.first_event_at := by
  have hproj := h.projects t.transaction_id t (Table.find?_key ht)
  obtain ⟨e, he, htime⟩ := List.mem_map.1 (List.min?_mem hproj.first_event_at.symm)
  rw [← htime]
  exact h.canonical e (mem_log.1 he).1

/-- A canonical time is between the ends of two days when its date is between the days. -/
theorem txn_date_between_iff {t : TransactionRow} (h : Canonical t.first_event_at) (d d' : Day) :
    formatTs d.start ≤ t.first_event_at ∧ t.first_event_at ≤ formatTs d'.finish ↔
      d.text ≤ t.txn_date ∧ t.txn_date ≤ d'.text := by
  obtain ⟨u, hu⟩ := h
  have hdate : t.txn_date = u.date.text := by
    rw [TransactionRow.txn_date, ← hu]
    exact Day.take_formatTs u
  rw [hdate, ← hu, formatTs_le_iff, formatTs_le_iff, Day.between_iff, Day.text_le_iff, Day.text_le_iff]

/-- The date of a transaction is a day. -/
theorem exists_txn_date {t : TransactionRow} (h : Canonical t.first_event_at) :
    ∃ day : Day, t.txn_date = day.text := by
  obtain ⟨u, hu⟩ := h
  refine ⟨u.date, ?_⟩
  rw [TransactionRow.txn_date, ← hu]
  exact Day.take_formatTs u

/-! ## Ranges of days -/

/-- A bound that is a day is read. -/
theorem windowBound_text {bound : String → Except ParseError String} {d : Day} {text : String}
    (h : bound d.text = .ok text) : windowBound bound (some d.text) = .ok (some text) := by
  have hne : d.text ≠ "" := by
    intro hempty
    have hlength := @Day.length_text d
    rw [hempty] at hlength
    cases hlength
  unfold windowBound
  split
  · contradiction
  · rename_i heq
    exact absurd (Option.some.inj heq) hne
  · rename_i heq
    rw [← Option.some.inj heq, h]
    rfl

/-- The bounds of a range of days are the ends of the days. -/
theorem resolveWindow_text {d d' : Day} (h : d.number ≤ d'.number) :
    resolveWindow (some d.text) (some d'.text) =
      .ok (some (formatTs d.start), some (formatTs d'.finish)) := by
  have hle : ¬ formatTs d.start > formatTs d'.finish := by
    rw [gt_iff_lt, not_lt, formatTs_le_iff, Day.micros_start, Day.micros_finish]
    omega
  unfold resolveWindow
  rw [windowBound_text d.rangeLowerBound_text, ok_bind, windowBound_text d'.rangeUpperBound_text,
    ok_bind]
  simp only [hle, if_false]
  rfl

/-- A range of dates on the first event. -/
def TransactionFilter.ranged (f : TransactionFilter) (lower upper : Option String) :
    TransactionFilter :=
  { f with date_field := .first_event_at, date_from := lower, date_to := upper }

/-- A range of days selects, of the transactions that match otherwise, those whose date is between the
days. -/
theorem selects_ranged (f : TransactionFilter) {t : TransactionRow} (h : Canonical t.first_event_at)
    (d d' : Day) :
    (buildTransactionFilters (f.ranged (some (formatTs d.start)) (some (formatTs d'.finish)))).selects
        t = true ↔
      (buildTransactionFilters (f.ranged none none)).selects t = true ∧
        d.text ≤ t.txn_date ∧ t.txn_date ≤ d'.text := by
  have hne : ∀ u, formatTs u ≠ "" := fun u => Canonical.ne_empty ⟨u, rfl⟩
  rw [selects_iff_matches, selects_iff_matches, ← txn_date_between_iff h]
  -- The condition is a conjunction: the window adds its two bounds to the other filters and changes none.
  constructor
  · intro hm
    obtain ⟨date, hdate, hlower⟩ := hm.date_from _ rfl (hne _)
    obtain ⟨date', hdate', hupper⟩ := hm.date_to _ rfl (hne _)
    obtain rfl := Option.some.inj hdate
    obtain rfl := Option.some.inj hdate'
    exact ⟨{ hm with date_from := nofun, date_to := nofun }, hlower, hupper⟩
  · rintro ⟨hm, hlower, hupper⟩
    refine { hm with date_from := ?_, date_to := ?_ }
    · intro lower hmem _
      rw [← Option.some.inj hmem]
      exact ⟨_, rfl, hlower⟩
    · intro upper hmem _
      rw [← Option.some.inj hmem]
      exact ⟨_, rfl, hupper⟩

/-! ## The summary of a range -/

namespace SummaryQuery

variable (query : SummaryQuery)

/-- The query, for a range of days. -/
def onDays (d d' : Day) : SummaryQuery :=
  { query with date_from := some d.text, date_to := some d'.text }

/-- The query for a page of the groups by date, without a range. -/
def byDate (offset : ℕ) : SummaryQuery :=
  { query with group_by := "date", date_from := none, date_to := none, offset := offset }

/-- The transactions that the summary is about. -/
def transactions (db : Database) : List TransactionRow :=
  match resolveWindow query.date_from query.date_to with
  | .ok window => db.transactions.rows.filter (query.where_ window).selects
  | .error _ => []

/-- The arguments of the filter but the range. -/
def arguments : TransactionFilter where
  merchant_id := query.merchant_id
  status := query.status.map fun values => values.map TransactionStatus.value
  currency := (query.currency.filter fun currency => currency ≠ "").map upper

variable {query} {db : Database} {d d' : Day}

/-- The transactions of a range of days are those of all days whose date is in the range. -/
theorem transactions_onDays (h : db.Projected) (hle : d.number ≤ d'.number) :
    (query.onDays d d').transactions db =
      (db.transactions.rows.filter (query.where_ (none, none)).selects).filter fun t =>
        d.text ≤ t.txn_date ∧ t.txn_date ≤ d'.text := by
  have hwindow : resolveWindow (query.onDays d d').date_from (query.onDays d d').date_to =
      .ok (some (formatTs d.start), some (formatTs d'.finish)) := resolveWindow_text hle
  simp only [transactions, hwindow]
  rw [List.filter_filter]
  refine List.filter_congr fun t ht => ?_
  have hselects := selects_ranged query.arguments (h.canonical_first_event_at ht) d d'
  rw [Bool.eq_iff_iff, Bool.and_eq_true, decide_eq_true_iff, and_comm]
  exact hselects

/-- The summary of a range of days. -/
theorem eval_onDays (hle : d.number ≤ d'.number) {now cutoff : Utc} {dimensions : List Dimension}
    (hdimensions : parseGroupBy query.group_by = .ok dimensions)
    (hcutoff : now.minusHours query.stale_after_hours = some cutoff) :
    ∃ response, (getSummary now (query.onDays d d')).eval db = .ok response ∧
      response.totals = metrics (formatTs cutoff) ((query.onDays d d').transactions db) := by
  have hwindow : resolveWindow (query.onDays d d').date_from (query.onDays d d').date_to =
      .ok (some (formatTs d.start), some (formatTs d'.finish)) := resolveWindow_text hle
  have hok := @eval_getSummary_of_ok now cutoff (query.onDays d d') dimensions _ hdimensions hwindow
    hcutoff db
  refine ⟨_, hok, ?_⟩
  simp only [response, transactions, hwindow]
  exact reconciliationSummary_totals db _ _ _ _ _

end SummaryQuery

/-! ## The groups by date -/

/-- The date of a group is between two days. -/
def SummaryGroup.onDays (d d' : Day) (g : SummaryGroup) : Bool :=
  g.key.all fun date => d.text ≤ date ∧ date ≤ d'.text

section

variable {db : Database} {filter : Condition} {cutoff : String}

/-- The key of a group by date is a day. -/
theorem exists_day_of_mem_groupKeys (h : db.Projected) {k : List String}
    (hk : k ∈ groupKeys db filter [.date]) : ∃ day : Day, k = [day.text] := by
  obtain ⟨r, hr, rfl⟩ := mem_sortedKeys.1 hk
  have ht := ((h.exists_groupRow filter [.date]).1 ⟨r, hr, rfl⟩).1
  obtain ⟨day, hday⟩ := exists_txn_date (h.canonical_first_event_at ht)
  exact ⟨day, congrArg (fun date => [date]) hday⟩

/-- The metrics of the groups between two days are those of the transactions between them. -/
theorem sum_onDays (h : db.Projected) (d d' : Day) :
    ((((groupKeys db filter [.date]).map (groupOf db filter [.date] cutoff)).filter
        (SummaryGroup.onDays d d')).map SummaryGroup.metrics).sum =
      metrics cutoff ((db.transactions.rows.filter filter.selects).filter fun t =>
        d.text ≤ t.txn_date ∧ t.txn_date ≤ d'.text) := by
  let between (k : List String) : Bool := k.all fun date => d.text ≤ date ∧ date ≤ d'.text
  have hsum := @Database.Projected.sum_groupOf_filter db filter [.date] cutoff h between
  have hkeys : (groupKeys db filter [.date]).filter (fun k => between (combination [.date] k)) =
      (groupKeys db filter [.date]).filter between := by
    refine List.filter_congr fun k hk => ?_
    obtain ⟨day, rfl⟩ := exists_day_of_mem_groupKeys h hk
    rfl
  have hvalues : ∀ t : TransactionRow, between ([Dimension.date].map (Dimension.value t)) =
      decide (d.text ≤ t.txn_date ∧ t.txn_date ≤ d'.text) := by
    intro t
    simp only [between, List.map_cons, List.map_nil, List.all_cons, List.all_nil, Bool.and_true,
      Dimension.value]
  rw [hkeys] at hsum
  simp only [hvalues] at hsum
  rw [← hsum, List.filter_map, List.map_map]
  rfl

end

/-- Transactions between two days and between two later ones that begin on the day after. -/
theorem split_onDays {ts : List TransactionRow} {d₁ d₂ d₂' d₃ : Day}
    (hcanon : ∀ t ∈ ts, Canonical t.first_event_at) (h₁ : d₁.number ≤ d₂.number)
    (hnext : d₂'.number = d₂.number + 1) (h₃ : d₂'.number ≤ d₃.number) :
    (ts.filter fun t => d₁.text ≤ t.txn_date ∧ t.txn_date ≤ d₃.text).Perm
        ((ts.filter fun t => d₁.text ≤ t.txn_date ∧ t.txn_date ≤ d₂.text) ++
          ts.filter fun t => d₂'.text ≤ t.txn_date ∧ t.txn_date ≤ d₃.text) := by
  let whole := ts.filter fun t => d₁.text ≤ t.txn_date ∧ t.txn_date ≤ d₃.text
  -- A date up to the last day of the first range is before the first one of the second range.
  have hfirst : (whole.filter fun t => decide (t.txn_date ≤ d₂.text)) =
      ts.filter fun t => d₁.text ≤ t.txn_date ∧ t.txn_date ≤ d₂.text := by
    rw [List.filter_filter]
    refine List.filter_congr fun t ht => ?_
    obtain ⟨day, hday⟩ := exists_txn_date (hcanon t ht)
    rw [Bool.eq_iff_iff, Bool.and_eq_true, decide_eq_true_iff, decide_eq_true_iff, decide_eq_true_iff,
      hday, Day.text_le_iff, Day.text_le_iff, Day.text_le_iff]
    omega
  have hsecond : (whole.filter fun t => !decide (t.txn_date ≤ d₂.text)) =
      ts.filter fun t => d₂'.text ≤ t.txn_date ∧ t.txn_date ≤ d₃.text := by
    rw [List.filter_filter]
    refine List.filter_congr fun t ht => ?_
    obtain ⟨day, hday⟩ := exists_txn_date (hcanon t ht)
    rw [Bool.eq_iff_iff, Bool.and_eq_true, Bool.not_eq_true', decide_eq_false_iff_not,
      decide_eq_true_iff, decide_eq_true_iff, hday, Day.text_le_iff, Day.text_le_iff,
      Day.text_le_iff, Day.text_le_iff]
    omega
  rw [← hfirst, ← hsecond]
  exact (List.filter_append_perm _ _).symm

/-- What groups by the day alone. -/
theorem parseGroupBy_date : parseGroupBy "date" = .ok [.date] := by decide +kernel

/-- The date filter and the grouping by date agree. For every reachable database, every query of the
summary whose dimensions are known, at any time with a cutoff, and all days in order: the totals of the
range of days are the sum of the groups by date, without a range, whose date is in the range, and every
group is of a day. Two ranges, the second of which begins on the day after the first, split the
transactions and the totals of the range that both make up. -/
theorem date_filter_agrees {db : Database} (h : Reachable db) {query : SummaryQuery}
    {now cutoff : Utc} {dimensions : List Dimension}
    (hdimensions : parseGroupBy query.group_by = .ok dimensions)
    (hcutoff : now.minusHours query.stale_after_hours = some cutoff) (hl : 0 < query.limit)
    {d₁ d₂ : Day} (h₁ : d₁.number ≤ d₂.number) :
    ∃ (ranged : SummaryResponse) (pages : ℕ → SummaryResponse),
      (getSummary now (query.onDays d₁ d₂)).eval db = .ok ranged ∧
      (∀ offset < 2 ^ 63, (getSummary now (query.byDate offset)).eval db = .ok (pages offset)) ∧
      (let groups := (offsets query.limit (pages 0).filters.group_count).flatMap fun offset =>
        (pages offset).groups
      (∀ g ∈ groups, ∃ day : Day, g.key = [day.text] ∧
        (g.onDays d₁ d₂ = true ↔ d₁.number ≤ day.number ∧ day.number ≤ d₂.number)) ∧
      ranged.totals = ((groups.filter (SummaryGroup.onDays d₁ d₂)).map SummaryGroup.metrics).sum) ∧
      ∀ d₂' d₃ : Day, d₂'.number = d₂.number + 1 → d₂'.number ≤ d₃.number →
        ∃ second whole, (getSummary now (query.onDays d₂' d₃)).eval db = .ok second ∧
          (getSummary now (query.onDays d₁ d₃)).eval db = .ok whole ∧
          whole.totals = ranged.totals + second.totals ∧
          ((query.onDays d₁ d₃).transactions db).Perm
            ((query.onDays d₁ d₂).transactions db ++ (query.onDays d₂' d₃).transactions db) ∧
          ((query.onDays d₁ d₂).transactions db).Disjoint ((query.onDays d₂' d₃).transactions db) := by
  have hp := h.projected
  obtain ⟨ranged, hranged, htotals⟩ := @SummaryQuery.eval_onDays query db d₁ d₂ h₁ now cutoff dimensions
    hdimensions hcutoff
  let all : Condition := query.where_ (none, none)
  let summary := reconciliationSummary db all [.date] (formatTs cutoff) query.limit
  have hpages : ∀ offset, (getSummary now (query.byDate offset)).eval db =
      .ok ((query.byDate offset).response [.date] (none, none) (summary offset)) :=
    fun offset => @eval_getSummary_of_ok now cutoff (query.byDate offset) [.date] (none, none)
      parseGroupBy_date rfl hcutoff db
  refine ⟨ranged, _, hranged, fun offset _ => hpages offset, ⟨?_, ?_⟩, fun d₂' d₃ hnext h₃ => ?_⟩
  -- A group has a day as its key, and days are in order as their texts are.
  · intro g hg
    have hgroups := flatMap_groups db all (formatTs cutoff) query.limit (List.cons_ne_nil .date []) hl
    obtain ⟨k, hk, rfl⟩ := List.mem_map.1 (hgroups ▸ hg)
    obtain ⟨day, hday⟩ := exists_day_of_mem_groupKeys hp hk
    refine ⟨day, hday, ?_⟩
    show k.all (fun date => d₁.text ≤ date ∧ date ≤ d₂.text) = true ↔ _
    rw [hday]
    simp [Day.text_le_iff]
  · have hgroups := flatMap_groups db all (formatTs cutoff) query.limit (List.cons_ne_nil .date []) hl
    rw [htotals, SummaryQuery.transactions_onDays hp h₁, ← sum_onDays hp d₁ d₂, ← hgroups]
    rfl
  -- Split at a midnight, the transactions of the whole range are those of the two parts, and the
  -- metrics add up.
  · obtain ⟨second, hsecond, htotals₂⟩ := @SummaryQuery.eval_onDays query db d₂' d₃ h₃ now cutoff
      dimensions hdimensions hcutoff
    obtain ⟨whole, hwhole, htotals₃⟩ := @SummaryQuery.eval_onDays query db d₁ d₃ (by omega) now cutoff
      dimensions hdimensions hcutoff
    have hperm : ((query.onDays d₁ d₃).transactions db).Perm
        ((query.onDays d₁ d₂).transactions db ++ (query.onDays d₂' d₃).transactions db) := by
      rw [SummaryQuery.transactions_onDays hp h₁, SummaryQuery.transactions_onDays hp h₃,
        SummaryQuery.transactions_onDays hp (by omega)]
      exact split_onDays (fun t ht => hp.canonical_first_event_at (List.mem_of_mem_filter ht)) h₁ hnext
        h₃
    -- No transaction is in both parts, because none is twice in the whole.
    have hnodup : ((query.onDays d₁ d₃).transactions db).Nodup := by
      rw [SummaryQuery.transactions_onDays hp (by omega)]
      exact ((List.Nodup.of_map _ db.transactions.nodup_keys).filter _).filter _
    refine ⟨second, whole, hsecond, hwhole, ?_, hperm, ?_⟩
    · rw [htotals₃, htotals, htotals₂, ← metrics_append]
      exact metrics_perm _ hperm
    · exact List.disjoint_of_nodup_append (hperm.nodup_iff.1 hnodup)

/-- The day of the example event and the day after. -/
theorem date_filter_agrees_on_two_days :
    let db := Database.empty.applyAll "" [exampleEvent, repricedEvent]
    let first : Day := ⟨2026, 1, 8, by decide⟩
    let last : Day := ⟨2026, 1, 9, by decide⟩
    let query : SummaryQuery := { limit := 1 }
    ∃ (ranged : SummaryResponse) (pages : ℕ → SummaryResponse),
      (getSummary fourDaysLater (query.onDays first last)).eval db = .ok ranged ∧
      (∀ offset < 2 ^ 63,
        (getSummary fourDaysLater (query.byDate offset)).eval db = .ok (pages offset)) ∧
      ranged.totals = ((((offsets 1 (pages 0).filters.group_count).flatMap fun offset =>
        (pages offset).groups).filter (SummaryGroup.onDays first last)).map
          SummaryGroup.metrics).sum := by
  intro db first last query
  have hdimensions : parseGroupBy query.group_by = .ok [.merchant] := by decide +kernel
  have hle : first.number ≤ last.number := by decide
  obtain ⟨ranged, pages, hranged, hpages, ⟨_, htotals⟩, _⟩ := @date_filter_agrees db
    ⟨_, Run.empty.ingest "" [exampleEvent, repricedEvent]⟩ query fourDaysLater twoDaysLater _
    hdimensions fourDaysLater_minusHours Nat.one_pos first last hle
  exact ⟨ranged, pages, hranged, hpages, htotals⟩

end PaymentRecon
