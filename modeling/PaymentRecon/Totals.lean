import PaymentRecon.Buckets
import PaymentRecon.Feeds
import PaymentRecon.Merchants
import PaymentRecon.Store.Growth

/-!
# Totals move on

A client that watches the totals of the summary sees the counts and amounts of each stage of the lifecycle
grow, as long as the filter does not let transactions leave (`totals_monotonic`): whatever has reached a
stage stays at it or goes further. What the health check counts is what the lists show (`health_agrees`).
-/

namespace PaymentRecon

open Store Sql

/-- A filter that transactions do not leave: it has no statuses, and no start of the window. -/
structure SummaryQuery.Lasting (query : SummaryQuery) : Prop where
  /-- Statuses move on. -/
  status : query.status = none
  /-- First times move back. -/
  date_from : query.date_from = none

/-- The metrics of a later time: at each stage of the lifecycle, or past it, there are no fewer
transactions, and no smaller amount. -/
structure Metrics.MovesOn (m m' : Metrics) : Prop where
  /-- No transaction is lost. -/
  transaction_count : m.transaction_count ≤ m'.transaction_count
  /-- Nor is one that was processed, or more. -/
  processed_count : m.processed_count + m.settled_count + m.failed_count ≤
    m'.processed_count + m'.settled_count + m'.failed_count
  /-- Nor is one that was settled, or more. -/
  settled_count : m.settled_count + m.failed_count ≤ m'.settled_count + m'.failed_count
  /-- Nor is one that has failed. -/
  failed_count : m.failed_count ≤ m'.failed_count
  /-- No amount is lost. -/
  total_amount : m.total_amount_minor ≤ m'.total_amount_minor
  /-- Nor is one that was settled, or more. -/
  settled_amount : m.settled_amount_minor + m.failed_amount_minor ≤
    m'.settled_amount_minor + m'.failed_amount_minor
  /-- Nor is one that has failed. -/
  failed_amount : m.failed_amount_minor ≤ m'.failed_amount_minor

/-! ## Sums over the transactions -/

section

variable {db db' : Database} {query : SummaryQuery} {window : Option String × Option String}

/-- A transaction does not leave a lasting filter. -/
theorem SummaryQuery.Lasting.selects (hlast : query.Lasting)
    (hwindow : resolveWindow query.date_from query.date_to = .ok window) {t t' : TransactionRow}
    (hadv : Advances t t') (h : (query.where_ window).selects t = true) :
    (query.where_ window).selects t' = true := by
  have hfrom : window.1 = none := (resolveWindow_none hwindow).1 hlast.date_from
  rw [SummaryQuery.where_, hlast.status, hfrom, selects_iff_matches] at h ⊢
  -- The merchant and the currency stay, and the first event only gets earlier.
  refine ⟨hadv.merchant_id ▸ h.merchant_id, nofun, nofun, nofun, hadv.currency ▸ h.currency, nofun, ?_,
    nofun, nofun, nofun⟩
  intro upper hupper hne
  obtain ⟨date, hdate, hle⟩ := h.date_to upper hupper hne
  obtain rfl := Option.some.inj hdate
  exact ⟨_, rfl, hadv.first_event_at.trans hle⟩

/-- What transactions weigh together does not get less when none of them loses weight as it moves on. -/
theorem sum_selected_le {M : Type} [AddCommMonoid M] [PartialOrder M] [IsOrderedAddMonoid M]
    (hdb : Reachable db) (hlater : Later db db') (hlast : query.Lasting)
    (hwindow : resolveWindow query.date_from query.date_to = .ok window) {w : TransactionRow → M}
    (hpos : ∀ t, 0 ≤ t.amount_minor → 0 ≤ w t)
    (hle : ∀ t t', 0 ≤ t.amount_minor → Advances t t' → w t ≤ w t') :
    ((db.transactions.rows.filter (query.where_ window).selects).map w).sum ≤
      ((db'.transactions.rows.filter (query.where_ window).selects).map w).sum := by
  -- A sum over the selected rows, as one over all rows.
  have hsum : ∀ db : Database, ((db.transactions.rows.filter (query.where_ window).selects).map w).sum =
      (db.transactions.rows.map fun t =>
        if (query.where_ window).selects t = true then w t else 0).sum := by
    intro db
    rw [sum_map_ite]
    simp only [Bool.decide_eq_true]
  have hamount : ∀ {db : Database}, Reachable db → ∀ t ∈ db.transactions.rows, 0 ≤ t.amount_minor :=
    fun hdb t ht => (hdb.checked t ht).1
  rw [hsum, hsum]
  -- A row that was selected is selected still, and one that is new only adds.
  refine Table.sum_le_sum (fun t ht => ?_) fun t ht => ?_
  · obtain ⟨t', ht', hadv⟩ := (hlater.grows hdb).transactions _ t (Table.find?_key ht)
    refine ⟨t', Table.mem_of_find? ht', Table.key_of_find? ht', ?_⟩
    split_ifs with hsel hsel' hsel'
    · exact hle t t' (hamount hdb t ht) hadv
    · exact absurd (hlast.selects hwindow hadv hsel) hsel'
    · exact hpos t' (hamount (hlater.reachable hdb) t' (Table.mem_of_find? ht'))
    · exact le_rfl
  · split_ifs
    · exact hpos t (hamount (hlater.reachable hdb) t ht)
    · exact le_rfl

end

/-! ## The stages of the lifecycle -/

/-- The transactions at a stage or past it. -/
def countFrom (rank : ℕ) (ts : List TransactionRow) : ℕ :=
  (ts.map fun t => if rank ≤ t.status.rank then 1 else 0).sum

/-- Their amount. -/
def amountFrom (rank : ℕ) (ts : List TransactionRow) : ℤ :=
  (ts.map fun t => if rank ≤ t.status.rank then t.amount_minor else 0).sum

/-- The metrics, by stages. -/
theorem metrics_stages (cutoff : String) (ts : List TransactionRow) :
    let m := metrics cutoff ts
    m.transaction_count = countFrom 0 ts ∧
      m.processed_count + m.settled_count + m.failed_count = countFrom 1 ts ∧
      m.settled_count + m.failed_count = countFrom 2 ts ∧ m.failed_count = countFrom 3 ts ∧
      m.total_amount_minor = amountFrom 0 ts ∧
      m.settled_amount_minor + m.failed_amount_minor = amountFrom 2 ts ∧
      m.failed_amount_minor = amountFrom 3 ts := by
  induction ts with
  | nil => exact ⟨rfl, rfl, rfl, rfl, rfl, rfl, rfl⟩
  | cons t ts ih =>
    obtain ⟨h₀, h₁, h₂, h₃, a₀, a₂, a₃⟩ := ih
    simp only [metrics, countFrom, amountFrom, List.map_cons, List.sum_cons, List.length_cons] at *
    have hranks : TransactionStatus.initiated.rank = 0 ∧ TransactionStatus.processed.rank = 1 ∧
        TransactionStatus.settled.rank = 2 ∧ TransactionStatus.failed.rank = 3 := ⟨rfl, rfl, rfl, rfl⟩
    cases hstatus : t.status <;> simp [hranks] <;> omega

/-- A stage does not lose transactions. -/
theorem rank_step {M : Type} [AddCommMonoid M] [PartialOrder M] {rank : ℕ} {x : M} (hx : 0 ≤ x)
    {t t' : TransactionRow} (h : Advances t t') :
    (if rank ≤ t.status.rank then x else 0) ≤ if rank ≤ t'.status.rank then x else 0 := by
  split_ifs with hle hle'
  · exact le_rfl
  · exact absurd (hle.trans h.status) hle'
  · exact hx
  · exact le_rfl

/-- The totals of a later time. -/
theorem movesOn {db db' : Database} (hdb : Reachable db) (hlater : Later db db') {query : SummaryQuery}
    (hlast : query.Lasting) {window : Option String × Option String}
    (hwindow : resolveWindow query.date_from query.date_to = .ok window) (cutoff cutoff' : String) :
    (metrics cutoff (db.transactions.rows.filter (query.where_ window).selects)).MovesOn
      (metrics cutoff' (db'.transactions.rows.filter (query.where_ window).selects)) := by
  have hcount : ∀ rank, countFrom rank (db.transactions.rows.filter (query.where_ window).selects) ≤
      countFrom rank (db'.transactions.rows.filter (query.where_ window).selects) := fun rank =>
    sum_selected_le hdb hlater hlast hwindow (fun _ _ => Nat.zero_le _)
      fun _ _ _ hadv => rank_step (Nat.zero_le 1) hadv
  have hamount : ∀ rank, amountFrom rank (db.transactions.rows.filter (query.where_ window).selects) ≤
      amountFrom rank (db'.transactions.rows.filter (query.where_ window).selects) := by
    intro rank
    refine sum_selected_le hdb hlater hlast hwindow (fun t ht => ?_) fun t t' ht hadv => ?_
    · split_ifs
      · exact ht
      · exact le_rfl
    · rw [hadv.amount_minor]
      exact rank_step ht hadv
  -- Each of the metrics that move on is a count or a sum from a stage of the lifecycle on.
  obtain ⟨h₀, h₁, h₂, h₃, a₀, a₂, a₃⟩ :=
    metrics_stages cutoff (db.transactions.rows.filter (query.where_ window).selects)
  obtain ⟨h₀', h₁', h₂', h₃', a₀', a₂', a₃'⟩ :=
    metrics_stages cutoff' (db'.transactions.rows.filter (query.where_ window).selects)
  refine ⟨?_, ?_, ?_, ?_, ?_, ?_, ?_⟩
  · rw [h₀, h₀']
    exact hcount 0
  · rw [h₁, h₁']
    exact hcount 1
  · rw [h₂, h₂']
    exact hcount 2
  · rw [h₃, h₃']
    exact hcount 3
  · rw [a₀, a₀']
    exact hamount 0
  · rw [a₂, a₂']
    exact hamount 2
  · rw [a₃, a₃']
    exact hamount 3

/-! ## Requests for the summary -/

/-- A request for the summary reads its totals in one statement, the first one. -/
theorem getSummary_inv {now : Utc} {query : SummaryQuery} {db : Database} {seen : List Database}
    {response : SummaryResponse}
    (h : Reading.Reads Ingests (getSummary now query) db seen (.ok response)) :
    ∃ window cutoff s rest, seen = s :: rest ∧ Later db s ∧ (∀ s' ∈ rest, Later s s') ∧
      resolveWindow query.date_from query.date_to = .ok window ∧
      response.totals = metrics (formatTs cutoff)
        (s.transactions.rows.filter (query.where_ window).selects) := by
  rw [getSummary] at h
  cases hdimensions : parseGroupBy query.group_by with
  | error e =>
    rw [hdimensions] at h
    cases (Reading.Reads.ret_inv h).2
  | ok dimensions =>
    rw [hdimensions, Reading.calling_ok_bind] at h
    cases hwindow : resolveWindow query.date_from query.date_to with
    | error e =>
      rw [hwindow] at h
      cases (Reading.Reads.ret_inv h).2
    | ok window =>
      rw [hwindow, Reading.calling_ok_bind] at h
      cases hcutoff : now.minusHours query.stale_after_hours with
      | none =>
        rw [hcutoff, Option.elim_none] at h
        cases (Reading.Reads.ret_inv h).2
      | some cutoff =>
        rw [hcutoff, Option.elim_some, Reading.calling_ok_bind, readSummary] at h
        have hlater := h.later_of_mem
        obtain ⟨s, rest, rfl, -, h⟩ := Reading.Reads.stmt_inv h
        refine ⟨window, cutoff, s, rest, rfl, hlater s List.mem_cons_self, h.later_of_mem, rfl, ?_⟩
        split_ifs at h
        · -- Without dimensions the totals are all that is read.
          obtain ⟨-, hresponse⟩ := Reading.Reads.ret_inv h
          obtain rfl := Except.ok.inj hresponse
          exact reconciliationSummary_totals s (query.where_ window) (formatTs cutoff) query.limit
            dimensions query.offset
        · -- The groups and their number are read after the totals.
          obtain ⟨s', _, -, -, h⟩ := Reading.Reads.stmt_inv h
          obtain ⟨s'', _, -, -, h⟩ := Reading.Reads.stmt_inv h
          obtain ⟨-, hresponse⟩ := Reading.Reads.ret_inv h
          obtain rfl := Except.ok.inj hresponse
          exact reconciliationSummary_totals s (query.where_ window) (formatTs cutoff) query.limit
            dimensions query.offset

/-- The totals that a client is shown only move on. Of two requests for the summary with one lasting
filter, the second one sent after the first one was answered, whatever their groupings and their clocks, the
second one shows at every stage of the lifecycle, or past it, no fewer transactions and no smaller amount.
Batches may commit at any time, also between the statements of the requests. -/
theorem totals_monotonic {db db' : Database} (hdb : Reachable db) {query : SummaryQuery}
    (hlast : query.Lasting) {now now' : Utc} {seen seen' : List Database}
    {response response' : SummaryResponse} {group_by : String} {stale_after_hours limit offset : ℕ}
    (hfirst : Reading.Reads Ingests (getSummary now query) db seen (.ok response))
    (hlater : Later (seen.getLastD db) db')
    (hsecond : Reading.Reads Ingests (getSummary now' { query with
      group_by := group_by, stale_after_hours := stale_after_hours, limit := limit, offset := offset })
        db' seen' (.ok response')) : response.totals.MovesOn response'.totals := by
  obtain ⟨window, cutoff, s, rest, rfl, hs, hrest, hwindow, htotals⟩ := getSummary_inv hfirst
  obtain ⟨window', cutoff', s', rest', rfl, hs', -, hwindow', htotals'⟩ := getSummary_inv hsecond
  obtain rfl : window = window' := Except.ok.inj (hwindow.symm.trans hwindow')
  -- The last statement of the first request comes after the one that read the totals.
  have hend : Later s ((s :: rest).getLastD db) := by
    rw [List.getLastD_cons]
    rcases List.eq_nil_or_concat rest with rfl | ⟨init, last, rfl⟩
    · exact .refl
    · rw [List.concat_eq_append, List.getLastD_concat]
      exact hrest last (by simp)
  rw [htotals, htotals']
  exact movesOn (Later.reachable hdb hs) ((hend.trans hlater).trans hs') hlast hwindow _ _

/-- A summary by merchant that a batch tears, and one by status after it. -/
theorem totals_monotonic_torn : ∃ response response' : SummaryResponse,
    response.totals.MovesOn response'.totals ∧ response'.groups.length = 1 := by
  have hfirst : Reading.Reads Ingests (getSummary fourDaysLater {}) onceInitiated _ _ :=
    getSummary_reads later_onceInitiated
      (show parseGroupBy "merchant" = .ok [.merchant] by decide +kernel) (by decide) rfl
      fourDaysLater_minusHours
  have hsecond : Reading.Reads Ingests (getSummary fourDaysLater { group_by := "status" })
      (onceInitiated.applyAll "" [repricedEvent]) _ _ :=
    getSummary_reads .refl (show parseGroupBy "status" = .ok [.status] by decide +kernel) (by decide) rfl
      fourDaysLater_minusHours
  exact ⟨_, _, totals_monotonic reachable_onceInitiated ⟨rfl, rfl⟩ hfirst .refl hsecond,
    by decide +kernel⟩

/-! ## The health check -/

/-- `HealthResponse`. -/
structure HealthResponse where
  /-- `ok`. -/
  status : String
  /-- The version of the service. -/
  version : String
  /-- The path of the database. -/
  database : String
  /-- The rows of `events`. -/
  events : ℕ
  /-- The rows of `transactions`. -/
  transactions : ℕ
  /-- The rows of `merchants`. -/
  merchants : ℕ

/-- `health`, from the version and the path of the settings. Its counts are one statement. -/
def health (version database_path : String) : Reading Database AppError HealthResponse := do
  let counts ← Reading.query fun db : Database =>
    (db.events.rows.length, db.transactions.rows.length, db.merchants.rows.length)
  return ⟨"ok", version, database_path, counts.1, counts.2.1, counts.2.2⟩

/-- Rows with a name of an event each, and each name once, are no more than the events. -/
theorem length_le_events {db : Database} {ids : List String} (hnodup : ids.Nodup) (name : EventRow → String)
    (h : ∀ id ∈ ids, ∃ e ∈ db.events.rows, name e = id) : ids.length ≤ db.events.rows.length := by
  rw [← List.length_map (f := name)]
  exact (List.subperm_of_subset hnodup fun id hid => List.mem_map.2 (h id hid)).length_le

/-- The health check counts what the listings show: there is a moment of the request at which the totals of
the lists of events, of transactions and of merchants were its counts. All events are counted by the
transactions, and there are no fewer of them than transactions, or than merchants. -/
theorem health_agrees {db : Database} (hdb : Reachable db) {version database_path : String}
    {seen : List Database} {response : HealthResponse}
    (h : Reading.Reads Ingests (health version database_path) db seen (.ok response)) :
    ∃ s, Later db s ∧
      (∃ listed, (listEvents {}).eval s = .ok listed ∧ listed.pagination.total = response.events) ∧
      (∃ listed, (getTransactions {}).eval s = .ok listed ∧
        listed.pagination.total = response.transactions) ∧
      (∃ listed, merchants.eval s = .ok listed ∧ listed.total = response.merchants) ∧
      (s.transactions.rows.map TransactionRow.event_count).sum = response.events ∧
      response.transactions ≤ response.events ∧ response.merchants ≤ response.events := by
  have hlater := h.later_of_mem
  obtain ⟨s, _, rfl, -, h⟩ := Reading.Reads.stmt_inv h
  obtain ⟨rfl, hresponse⟩ := Reading.Reads.ret_inv h
  obtain rfl := Except.ok.inj hresponse
  have hs : Later db s := hlater s List.mem_cons_self
  have hreach := Later.reachable hdb hs
  refine ⟨s, hs, ?_, ?_, ?_, ?_, ?_, ?_⟩
  · refine ⟨_, eval_listEvents {} s, ?_⟩
    exact congrArg List.length (List.filter_eq_self.2 fun _ _ => rfl)
  · refine ⟨_, eval_getTransactions {} s, ?_⟩
    exact congrArg List.length (List.filter_eq_self.2 fun _ _ => rfl)
  · refine ⟨_, rfl, ?_⟩
    show (listMerchants s).length = s.merchants.rows.length
    rw [(listMerchants_perm s).length_eq, List.length_map]
  · obtain ⟨trace, hist⟩ := hreach
    rw [hist.history.sum_event_count, ← hist.history.length_events]
  · -- Every transaction has an event.
    rw [← List.length_map (f := TransactionRow.transaction_id)]
    refine length_le_events s.transactions.nodup_keys EventRow.transaction_id ?_
    intro id hid
    obtain ⟨t, ht, rfl⟩ := List.mem_map.1 hid
    obtain ⟨e, he⟩ := List.exists_mem_of_ne_nil _
      (hreach.projected.projects _ t (Table.find?_key ht)).ne_nil
    exact ⟨e, (List.mem_filter.1 he).1, of_decide_eq_true (List.mem_filter.1 he).2⟩
  · -- Every merchant came with an event.
    rw [← List.length_map (f := MerchantRow.merchant_id)]
    refine length_le_events s.merchants.nodup_keys EventRow.merchant_id ?_
    intro id hid
    obtain ⟨m, hm, rfl⟩ := List.mem_map.1 hid
    obtain ⟨trace, hist⟩ := hreach
    refine hist.history.exists_event ?_
    rw [Table.find?_key hm]
    exact Option.some_ne_none m

/-- A health check after a batch that commits while it is being answered. -/
theorem health_agrees_later : ∃ s : Database, Later onceInitiated s ∧
    (s.transactions.rows.map TransactionRow.event_count).sum = 2 := by
  have hreads : Reading.Reads Ingests (health "1.0.0" "data/payments.db") onceInitiated
      [onceInitiated.applyAll "" [repricedEvent]] (.ok ⟨"ok", "1.0.0", "data/payments.db", 2, 1, 1⟩) :=
    .of_later later_onceInitiated (.stmt .ret)
  obtain ⟨s, hs, -, -, -, hsum, -⟩ := health_agrees reachable_onceInitiated hreads
  exact ⟨s, hs, hsum⟩

end PaymentRecon
