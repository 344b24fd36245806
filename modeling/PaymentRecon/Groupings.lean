import PaymentRecon.AmountBounds
import PaymentRecon.Dates
import PaymentRecon.Rebuild

/-!
# Groups of the summary, and the transactions behind them

A client that sees a group of the summary asks for its transactions by the values of the group's key
(`SummaryQuery.drill`). The list then has exactly the transactions that the group counted
(`group_drills_down`). The groups by some dimensions are the sums of the groups by more dimensions, in any
order (`summary_rolls_up`).
-/

namespace PaymentRecon

open Store Sql

/-! ## The currency of a stored event -/

variable {pydantic : Pydantic}

/-- The currency of an accepted event is not empty, and its own upper-case form. -/
theorem Accepted.currency {event : EventIn} (h : Accepted pydantic event) :
    upper event.currency = event.currency ∧ event.currency ≠ "" := by
  obtain ⟨raw, hraw⟩ := h
  cases raw with
  | obj members =>
    obtain ⟨-, -, -, -, -, -, hcurrency, -⟩ := (modelValidate_eq_ok_iff pydantic).1 hraw
    cases hmember : members.lookup "currency" with
    | none =>
      rw [hmember] at hcurrency
      cases hcurrency
    | some raw =>
      rw [hmember, required, currencyField] at hcurrency
      split at hcurrency
      · cases hcurrency
      · dsimp only at hcurrency
        split_ifs at hcurrency with halpha
        rw [← Except.ok.inj hcurrency]
        rw [isAlpha, Bool.and_eq_true, decide_eq_true_eq] at halpha
        exact ⟨upper_upper _, halpha.1⟩
  | _ => cases hraw

/-- So is the currency of a transaction, which is that of its first event. -/
theorem History.currency {trace : List Occurrence} {db : Database} (h : History trace db)
    (haccepted : ∀ o ∈ trace, Accepted pydantic o.1) {t : TransactionRow}
    (ht : t ∈ db.transactions.rows) : upper t.currency = t.currency ∧ t.currency ≠ "" := by
  have hproj := h.projected.projects _ t (Table.find?_key ht)
  obtain ⟨row, hrow, hcurrency⟩ := Option.map_eq_some_iff.1 hproj.currency
  have hstored := (Database.mem_log.1 (List.mem_of_head? hrow)).1
  obtain ⟨o, ho, -, now, rfl⟩ := h.stored_from_created row hstored
  rw [← hcurrency]
  exact (haccepted o ho).currency

/-! ## The values of a group -/

/-- The value that a list of values has for a dimension, when the groups are by the dimension. -/
theorem lookup_zip_map (group_by : List Dimension) (value : Dimension → String) (d : Dimension) :
    (group_by.zip (group_by.map value)).lookup d = if d ∈ group_by then some (value d) else none := by
  induction group_by with
  | nil => rfl
  | cons d' group_by ih =>
    rw [List.map_cons, List.zip_cons_cons, List.lookup_cons, ih]
    by_cases h : d = d'
    · subst h
      rw [if_pos List.mem_cons_self, beq_self_eq_true]
    · rw [beq_false_of_ne h]
      simp only [List.mem_cons, h, false_or]

/-- The value of a group for a dimension. -/
def SummaryGroup.value (group_by : List Dimension) (g : SummaryGroup) (d : Dimension) :
    Option String := (group_by.zip (combination group_by g.key)).lookup d

/-- The statuses with a text, of which there is one at most. -/
def statusesOf (text : String) : List TransactionStatus :=
  [TransactionStatus.initiated, .processed, .failed, .settled].filter fun status =>
    status.value = text

/-- The text of a status names that status. -/
theorem statusesOf_value (status : TransactionStatus) : statusesOf status.value = [status] := by
  cases status <;> decide

/-- The query for the transactions of a group: the query of the summary, where the values of the group
replace the arguments. -/
def SummaryQuery.drill (query : SummaryQuery) (value : Dimension → Option String) :
    TransactionQuery where
  merchant_id := (value .merchant).elim query.merchant_id fun id => some [id]
  status := (value .status).elim query.status fun text => some (statusesOf text)
  currency := (value .currency).or query.currency
  date_from := (value .date).or query.date_from
  date_to := (value .date).or query.date_to

/-! ## What the drilled query selects -/

/-- A list of one value keeps, of what a list keeps, that value. -/
theorem mem_elim_iff {o : Option (List String)} {x x₀ : String} {p : Prop} [Decidable p]
    (h : ∀ values ∈ o, values ≠ [] → x₀ ∈ values) :
    (∀ values ∈ (if p then some x₀ else none).elim o fun value => some [value],
        values ≠ [] → x ∈ values) ↔
      (∀ values ∈ o, values ≠ [] → x ∈ values) ∧ (p → x = x₀) := by
  split_ifs with hp
  · have hone : (∀ values ∈ some [x₀], values ≠ [] → x ∈ values) ↔ x = x₀ := by
      simp only [Option.mem_some_iff, forall_eq', ne_eq, List.cons_ne_nil, not_false_eq_true,
        forall_const, List.mem_singleton]
    rw [Option.elim_some, hone]
    -- The one value is among those of the list, which it narrows.
    refine ⟨fun heq => ⟨heq.symm ▸ h, fun _ => heq⟩, fun hboth => hboth.2 hp⟩
  · exact ⟨fun hx => ⟨hx, fun hp' => absurd hp' hp⟩, fun hboth => hboth.1⟩

/-- A text keeps, of what a text keeps, itself. -/
theorem eq_or_iff {o : Option String} {x x₀ : String} {p : Prop} [Decidable p]
    (hupper : upper x₀ = x₀) (hne : x₀ ≠ "")
    (h : ∀ value ∈ (o.filter fun value => value ≠ "").map upper, value ≠ "" → x₀ = value) :
    (∀ value ∈ (((if p then some x₀ else none).or o).filter fun value => value ≠ "").map upper,
        value ≠ "" → x = value) ↔
      (∀ value ∈ (o.filter fun value => value ≠ "").map upper, value ≠ "" → x = value) ∧
        (p → x = x₀) := by
  split_ifs with hp
  · have hone : (∀ value ∈ ((some x₀).filter fun value => value ≠ "").map upper,
        value ≠ "" → x = value) ↔ x = x₀ := by
      simp [hupper, hne]
    rw [Option.some_or, hone]
    refine ⟨fun heq => ⟨heq.symm ▸ h, fun _ => heq⟩, fun hboth => hboth.2 hp⟩
  · exact ⟨fun hx => ⟨hx, fun hp' => absurd hp' hp⟩, fun hboth => hboth.1⟩

/-- What a window says about a transaction. -/
def InWindow (window : Option String × Option String) (t : TransactionRow) : Prop :=
  (∀ lower ∈ window.1, lower ≠ "" → lower ≤ t.first_event_at) ∧
    ∀ upper ∈ window.2, upper ≠ "" → t.first_event_at ≤ upper

/-- A filter with the arguments of the summary, taken apart. -/
theorem selects_summary_iff {f : TransactionFilter} (hpayment : f.payment_status = none)
    (hsettlement : f.settlement_status = none) (hfield : f.date_field = .first_event_at)
    (hmin : f.min_amount_minor = none) (hmax : f.max_amount_minor = none)
    (hduplicates : f.has_duplicates = none) (t : TransactionRow) :
    (buildTransactionFilters f).selects t = true ↔
      (∀ values ∈ f.merchant_id, values ≠ [] → t.merchant_id ∈ values) ∧
        (∀ values ∈ f.status, values ≠ [] → t.status.value ∈ values) ∧
        (∀ currency ∈ f.currency, currency ≠ "" → t.currency = currency) ∧
        InWindow (f.date_from, f.date_to) t := by
  have hread : f.date_field.read t = some t.first_event_at := by rw [hfield]; rfl
  have hno : ∀ {α : Type} {o : Option α} {P : α → Prop}, o = none → ∀ a ∈ o, P a := by
    intro α o P ho a ha
    rw [ho] at ha
    cases ha
  rw [selects_iff_matches]
  -- Of the eleven filters the summary sets five; the others are absent and hold of every transaction.
  constructor
  · intro h
    refine ⟨h.merchant_id, h.status, h.currency, fun lower hlower hne => ?_, fun upper hupper hne => ?_⟩
    · obtain ⟨date, hdate, hle⟩ := h.date_from lower hlower hne
      rw [hread] at hdate
      exact Option.some.inj hdate ▸ hle
    · obtain ⟨date, hdate, hle⟩ := h.date_to upper hupper hne
      rw [hread] at hdate
      exact Option.some.inj hdate ▸ hle
  · rintro ⟨hmerchant, hstatus, hcurrency, hlower, hupper⟩
    exact ⟨hmerchant, hstatus, hno hpayment, hno hsettlement, hcurrency,
      fun lower h hne => ⟨_, hread, hlower lower h hne⟩, fun upper h hne => ⟨_, hread, hupper upper h hne⟩,
      hno hmin, hno hmax, hno hduplicates⟩

section

variable {query : SummaryQuery} {group_by : List Dimension} {window : Option String × Option String}

/-- The values of a transaction, for the dimensions of a grouping. -/
def Dimension.valueIn (group_by : List Dimension) (t : TransactionRow) (d : Dimension) :
    Option String := if d ∈ group_by then some (d.value t) else none

/-- The window of the drilled query is the day of the group, or else that of the summary. -/
theorem exists_window {t₀ : TransactionRow} (h₀ : Canonical t₀.first_event_at)
    (hwindow : resolveWindow query.date_from query.date_to = .ok window)
    (hdate : .date ∈ group_by → query.date_from = none ∧ query.date_to = none) :
    ∃ window', resolveWindow (query.drill (Dimension.valueIn group_by t₀)).date_from
        (query.drill (Dimension.valueIn group_by t₀)).date_to = .ok window' ∧
      ∀ t : TransactionRow, Canonical t.first_event_at →
        (InWindow window' t ↔ InWindow window t ∧ (.date ∈ group_by → t.txn_date = t₀.txn_date)) := by
  by_cases hd : Dimension.date ∈ group_by
  · -- Grouped by date, the summary has no window, and the day of the group becomes one.
    obtain ⟨day, hday⟩ := exists_txn_date h₀
    obtain ⟨hfrom, hto⟩ := hdate hd
    rw [hfrom, hto] at hwindow
    obtain rfl : (none, none) = window := Except.ok.inj hwindow
    have hvalue : Dimension.valueIn group_by t₀ .date = some day.text := by
      rw [Dimension.valueIn, if_pos hd, Dimension.value, hday]
    refine ⟨(some (formatTs day.start), some (formatTs day.finish)), ?_, fun t ht => ?_⟩
    · simp only [SummaryQuery.drill, hvalue, Option.some_or]
      exact resolveWindow_text le_rfl
    · have hne : ∀ u, formatTs u ≠ "" := fun u => Canonical.ne_empty ⟨u, rfl⟩
      have hin : InWindow (some (formatTs day.start), some (formatTs day.finish)) t ↔
          formatTs day.start ≤ t.first_event_at ∧ t.first_event_at ≤ formatTs day.finish := by
        simp only [InWindow, Option.mem_some_iff, forall_eq', ne_eq, hne, not_false_eq_true, forall_const]
      have hall : InWindow (none, none) t :=
        ⟨fun _ h => absurd h (Option.not_mem_none _), fun _ h => absurd h (Option.not_mem_none _)⟩
      -- The times from the start of the day to its end are those whose date it is.
      rw [hin, txn_date_between_iff ht, hday]
      constructor
      · rintro ⟨hlow, hhigh⟩
        exact ⟨hall, fun _ => le_antisymm hhigh hlow⟩
      · rintro ⟨-, heq⟩
        exact ⟨(heq hd).ge, (heq hd).le⟩
  · -- Not grouped by date, the window of the summary stays.
    have hvalue : Dimension.valueIn group_by t₀ .date = none := if_neg hd
    refine ⟨window, ?_, fun t _ => ⟨fun h => ⟨h, fun hd' => absurd hd' hd⟩, fun h => h.1⟩⟩
    simp only [SummaryQuery.drill, hvalue, Option.none_or]
    exact hwindow

/-- Four conjunctions, pair by pair or side by side. -/
theorem and_pairs {a b c d a' b' c' d' : Prop} :
    (a ∧ a') ∧ (b ∧ b') ∧ (c ∧ c') ∧ d ∧ d' ↔ (a ∧ b ∧ c ∧ d) ∧ a' ∧ b' ∧ c' ∧ d' := by
  rw [and_and_and_comm (a := c), and_and_and_comm (a := b), and_and_and_comm (a := a)]

/-- The values of two transactions for a grouping, dimension by dimension. -/
theorem values_eq_iff {t t₀ : TransactionRow} :
    group_by.map (Dimension.value t) = group_by.map (Dimension.value t₀) ↔
      (.merchant ∈ group_by → t.merchant_id = t₀.merchant_id) ∧
        (.status ∈ group_by → t.status.value = t₀.status.value) ∧
        (.currency ∈ group_by → t.currency = t₀.currency) ∧
        (.date ∈ group_by → t.txn_date = t₀.txn_date) := by
  rw [List.map_inj_left]
  constructor
  · intro h
    exact ⟨h .merchant, h .status, h .currency, h .date⟩
  · rintro ⟨hmerchant, hstatus, hcurrency, hdate⟩ d
    cases d <;> assumption

/-- The statuses of the drilled query are that of the group, or else those of the summary. -/
theorem drilled_status (t₀ : TransactionRow) (query : SummaryQuery) :
    (query.drill (Dimension.valueIn group_by t₀)).status.map
        (fun values => values.map TransactionStatus.value) =
      (if .status ∈ group_by then some t₀.status.value else none).elim
        (query.status.map fun values => values.map TransactionStatus.value) fun value => some [value] := by
  by_cases h : Dimension.status ∈ group_by
  · have hvalue : Dimension.valueIn group_by t₀ .status = some t₀.status.value := if_pos h
    rw [if_pos h, SummaryQuery.drill, hvalue, Option.elim_some, Option.elim_some, statusesOf_value]
    rfl
  · have hvalue : Dimension.valueIn group_by t₀ .status = none := if_neg h
    rw [if_neg h, SummaryQuery.drill, hvalue, Option.elim_none, Option.elim_none]

/-- The drilled query selects, of what the summary selects, the transactions with the values of the
group. -/
theorem exists_drilled {t₀ : TransactionRow} (h₀ : Canonical t₀.first_event_at)
    (hcurrency : upper t₀.currency = t₀.currency ∧ t₀.currency ≠ "")
    (hwindow : resolveWindow query.date_from query.date_to = .ok window)
    (hdate : .date ∈ group_by → query.date_from = none ∧ query.date_to = none)
    (hsel : (query.where_ window).selects t₀ = true) :
    ∃ where_, (query.drill (Dimension.valueIn group_by t₀)).accepted = .ok where_ ∧
      ∀ t : TransactionRow, Canonical t.first_event_at →
        (where_.selects t = true ↔ (query.where_ window).selects t = true ∧
          group_by.map (Dimension.value t) = group_by.map (Dimension.value t₀)) := by
  obtain ⟨window', hwindow', hin⟩ := exists_window h₀ hwindow hdate
  have haccepted := @TransactionQuery.accepted_of_fits (query.drill (Dimension.valueIn group_by t₀))
    nofun nofun nofun
  rw [hwindow'] at haccepted
  refine ⟨_, haccepted, fun t ht => ?_⟩
  have hsummary := fun t : TransactionRow => selects_summary_iff
    (f := query.arguments.ranged window.1 window.2) rfl rfl rfl rfl rfl rfl t
  have hdrilled := selects_summary_iff
    (f := (query.drill (Dimension.valueIn group_by t₀)).filter window' none none)
    rfl rfl rfl rfl rfl rfl t
  -- A transaction of the group passes the filter of the summary, which its values therefore narrow.
  obtain ⟨hmerchant₀, hstatus₀, hcurrency₀, -⟩ := (hsummary t₀).1 hsel
  have hmerchant := mem_elim_iff (x := t.merchant_id) (p := .merchant ∈ group_by) hmerchant₀
  have hstatus := mem_elim_iff (x := t.status.value) (p := .status ∈ group_by) hstatus₀
  have hcur := eq_or_iff (x := t.currency) (p := .currency ∈ group_by) hcurrency.1 hcurrency.2 hcurrency₀
  have hstatuses : ((query.drill (Dimension.valueIn group_by t₀)).filter window' none none).status =
      (if .status ∈ group_by then some t₀.status.value else none).elim
        (query.arguments.ranged window.1 window.2).status fun value => some [value] :=
    drilled_status t₀ query
  rw [← hstatuses] at hstatus
  have hparts := and_congr hmerchant (and_congr hstatus (and_congr hcur (hin t ht)))
  exact (hdrilled.trans hparts).trans (and_pairs.trans (and_congr (hsummary t) values_eq_iff).symm)

end

/-! ## Drilling down -/

section

variable {db : Database} {now : Utc} {query : SummaryQuery} {response : SummaryResponse}

/-- A summary that was answered has parsed its dimensions, its window and its cutoff. -/
theorem getSummary_eq_ok (h : (getSummary now query).eval db = .ok response) :
    ∃ window cutoff, parseGroupBy query.group_by = .ok response.group_by ∧
      resolveWindow query.date_from query.date_to = .ok window ∧
      now.minusHours query.stale_after_hours = some cutoff ∧
      response = query.response response.group_by window
        (reconciliationSummary db (query.where_ window) response.group_by (formatTs cutoff) query.limit
          query.offset) := by
  -- The three checks of the route come in this order, and an answer has passed them all.
  cases hdimensions : parseGroupBy query.group_by with
  | error e =>
    rw [getSummary, hdimensions] at h
    cases h
  | ok dimensions =>
    cases hwindow : resolveWindow query.date_from query.date_to with
    | error e =>
      rw [getSummary, hdimensions, hwindow] at h
      cases h
    | ok window =>
      cases hcutoff : now.minusHours query.stale_after_hours with
      | none =>
        rw [getSummary, hdimensions, hwindow, hcutoff] at h
        cases h
      | some cutoff =>
        rw [eval_getSummary_of_ok hdimensions hwindow hcutoff] at h
        have hresponse := (Except.ok.inj h).symm
        have hgroup : response.group_by = dimensions := by rw [hresponse]; rfl
        exact ⟨window, cutoff, by rw [hgroup], rfl, rfl, by rw [hgroup]; exact hresponse⟩

/-- The values of a key are those of a transaction. -/
theorem exists_values {filter : Condition} {group_by : List Dimension} (hp : db.Projected)
    {k : List String} (hk : k ∈ groupKeys db filter group_by) :
    ∃ t ∈ db.transactions.rows, filter.selects t = true ∧
      combination group_by k = group_by.map (Dimension.value t) := by
  obtain ⟨t, ht, hsel, heq⟩ := hp.mem_combinations.1 (List.mem_map_of_mem hk)
  exact ⟨t, ht, hsel, heq.symm⟩

/-- So are those of a group on a page. -/
theorem exists_of_mem_groups {filter : Condition} {group_by : List Dimension} {cutoff : String}
    {limit offset : ℕ} (hp : db.Projected) {g : SummaryGroup}
    (hg : g ∈ (reconciliationSummary db filter group_by cutoff limit offset).groups) :
    ∃ t ∈ db.transactions.rows, filter.selects t = true ∧
      combination group_by g.key = group_by.map (Dimension.value t) := by
  have hne : group_by ≠ [] := by
    rintro rfl
    cases hg
  rw [reconciliationSummary_of_ne_nil db filter cutoff limit hne] at hg
  obtain ⟨k, hk, rfl⟩ := List.mem_map.1 (mem_of_mem_page hg)
  exact exists_values hp hk

/-- The list of the transactions of a group, page by page, is as long as the group's count says, and its
transactions have the group's metrics: those that the summary counted in the group, and no others. A
summary by dates is not restricted to a window, which the day of the group replaces. -/
theorem group_drills_down {trace : List Occurrence} (h : History trace db)
    (haccepted : ∀ o ∈ trace, Accepted pydantic o.1)
    (hresponse : (getSummary now query).eval db = .ok response)
    (hdate : .date ∈ response.group_by → query.date_from = none ∧ query.date_to = none)
    {g : SummaryGroup} (hg : g ∈ response.groups) (sort_by : TransactionSort) (sort_order : SortOrder)
    {limit : ℕ} (hl : 0 < limit) :
    ∃ (cutoff : Utc) (rows : List (TransactionRow × String)),
      now.minusHours query.stale_after_hours = some cutoff ∧
      Shows (TransactionQuery.request { query.drill (g.value response.group_by) with
        sort_by := sort_by, sort_order := sort_order, limit := limit } db) limit
          (rows.map transactionOut) ∧
      rows.length = g.metrics.transaction_count ∧
      metrics (formatTs cutoff) (rows.map Prod.fst) = g.metrics := by
  have hp := h.projected
  obtain ⟨window, cutoff, -, hwindow, hcutoff, heq⟩ := getSummary_eq_ok hresponse
  have hgroup : g ∈ (reconciliationSummary db (query.where_ window) response.group_by (formatTs cutoff)
      query.limit query.offset).groups := by
    rw [heq] at hg
    exact hg
  obtain ⟨t₀, ht₀, hsel, hvalues⟩ := exists_of_mem_groups hp hgroup
  have hmetrics := hp.metrics_of_mem_groups (formatTs cutoff) query.limit hgroup
  -- The values of the group are those of any transaction in it.
  have hvalue : g.value response.group_by = Dimension.valueIn response.group_by t₀ := by
    funext d
    rw [SummaryGroup.value, hvalues, lookup_zip_map, Dimension.valueIn]
  obtain ⟨where_, hwhere, hselects⟩ := exists_drilled (hp.canonical_first_event_at ht₀)
    (h.currency haccepted ht₀) hwindow hdate hsel
  have hlist : TransactionQuery.accepted { query.drill (g.value response.group_by) with
      sort_by := sort_by, sort_order := sort_order, limit := limit } = .ok where_ := by
    rw [hvalue]
    exact hwhere
  obtain ⟨rows, hperm, -, hshows⟩ := shows_transactions hp hl hlist
  -- The list and the group select the same rows.
  have hrows : db.transactions.rows.filter where_.selects =
      groupTransactions db (query.where_ window) response.group_by
        (combination response.group_by g.key) := by
    rw [groupTransactions, List.filter_filter]
    refine List.filter_congr fun t ht => ?_
    rw [Bool.eq_iff_iff, hselects t (hp.canonical_first_event_at ht), Bool.and_eq_true,
      decide_eq_true_eq, hvalues, and_comm]
  have hsame : metrics (formatTs cutoff) (rows.map Prod.fst) = g.metrics := by
    rw [metrics_perm _ hperm, hrows, hmetrics]
  refine ⟨cutoff, rows, hcutoff, hshows, ?_, hsame⟩
  rw [← hsame]
  exact (List.length_map _).symm

end

/-- The summary by day and currency. -/
def dailyQuery : SummaryQuery := { group_by := "date,currency" }

/-- The list of the example's transaction, from the group of its day and its currency. -/
theorem group_drills_down_by_date :
    ∃ rows : List (TransactionRow × String),
      Shows (TransactionQuery.request
        { currency := some "INR"
          date_from := some "2026-01-08"
          date_to := some "2026-01-08"
          sort_by := .amount
          limit := 1 } replayedDatabase) 1 (rows.map transactionOut) ∧ rows.length = 1 := by
  have hist := History.empty.applyAll "" [exampleIn "INR", repricedEvent, exampleIn "INR"]
  have haccepted : ∀ event ∈ [exampleIn "INR", repricedEvent, exampleIn "INR"],
      Accepted samplePydantic event := by
    intro event hevent
    simp only [List.mem_cons, List.not_mem_nil, or_false] at hevent
    rcases hevent with rfl | rfl | rfl
    · exact ⟨_, modelValidate_example (.inl rfl)⟩
    · exact ⟨_, modelValidate_example (.inr rfl)⟩
    · exact ⟨_, modelValidate_example (.inl rfl)⟩
  have hdimensions : parseGroupBy dailyQuery.group_by = .ok [.date, .currency] := by decide +kernel
  have hanswer := eval_getSummary_of_ok hdimensions rfl fourDaysLater_minusHours replayedDatabase
  have hgroup : groupOf replayedDatabase (dailyQuery.where_ (none, none)) [.date, .currency]
      (formatTs twoDaysLater) ["2026-01-08", "INR"] ∈ (reconciliationSummary replayedDatabase
        (dailyQuery.where_ (none, none)) [.date, .currency] (formatTs twoDaysLater) 200 0).groups := by
    decide +kernel
  obtain ⟨_, rows, -, hshows, hlength, -⟩ := group_drills_down hist
    (fun o ho => haccepted o.1 (List.of_mem_zip ho).1) hanswer (fun _ => ⟨rfl, rfl⟩) hgroup .amount .desc
    Nat.one_pos
  exact ⟨rows, hshows, hlength⟩

/-! ## Rolling up -/

section

variable {db : Database} {now cutoff : Utc} {query : SummaryQuery} {dimensions : List Dimension}
variable {window : Option String × Option String}

/-- The groups of all pages. -/
def SummaryQuery.allGroups (query : SummaryQuery) (now : Utc) (db : Database) : List SummaryGroup :=
  let groups (offset : ℕ) : List SummaryGroup × ℕ :=
    match (getSummary now { query with offset := offset }).eval db with
    | .ok response => (response.groups, response.filters.group_count)
    | .error _ => ([], 0)
  (offsets query.limit (groups 0).2).flatMap fun offset => (groups offset).1

/-- The groups of all pages are those of all keys. -/
theorem allGroups_eq (hdimensions : parseGroupBy query.group_by = .ok dimensions)
    (hne : dimensions ≠ []) (hl : 0 < query.limit)
    (hwindow : resolveWindow query.date_from query.date_to = .ok window)
    (hcutoff : now.minusHours query.stale_after_hours = some cutoff) :
    query.allGroups now db = (groupKeys db (query.where_ window) dimensions).map
      (groupOf db (query.where_ window) dimensions (formatTs cutoff)) := by
  have hpage : ∀ offset, (getSummary now { query with offset := offset }).eval db = _ :=
    fun offset => @eval_getSummary_of_ok now cutoff { query with offset := offset } dimensions window
      hdimensions hwindow hcutoff db
  simp only [SummaryQuery.allGroups, hpage]
  exact flatMap_groups db (query.where_ window) (formatTs cutoff) query.limit hne hl

/-- The groups by some dimensions are the sums of the groups by more dimensions that share their values,
whatever the order of the dimensions and the size of the pages; and every group by more dimensions belongs
to one by the fewer. -/
theorem summary_rolls_up (h : Reachable db) (hdimensions : parseGroupBy query.group_by = .ok dimensions)
    (hne : dimensions ≠ []) {finer : String} {dimensions' : List Dimension}
    (hfiner : parseGroupBy finer = .ok dimensions') (hsub : dimensions ⊆ dimensions')
    (hwindow : resolveWindow query.date_from query.date_to = .ok window)
    (hcutoff : now.minusHours query.stale_after_hours = some cutoff) (hl : 0 < query.limit)
    {limit' : ℕ} (hl' : 0 < limit') :
    let groups := query.allGroups now db
    let groups' := SummaryQuery.allGroups { query with group_by := finer, limit := limit' } now db
    (∀ g ∈ groups, g.metrics = ((groups'.filter fun g' => ∀ d ∈ dimensions,
      g'.value dimensions' d = g.value dimensions d).map SummaryGroup.metrics).sum) ∧
    ∀ g' ∈ groups', ∃ g ∈ groups, ∀ d ∈ dimensions, g.value dimensions d = g'.value dimensions' d := by
  have hp := h.projected
  have hne' : dimensions' ≠ [] := by
    rintro rfl
    exact hne (List.subset_nil.1 hsub)
  intro groups groups'
  have hgroups : groups = _ := allGroups_eq hdimensions hne hl hwindow hcutoff
  have hgroups' : groups' = _ := @allGroups_eq db now cutoff
    { query with group_by := finer, limit := limit' } dimensions' window hfiner hne' hl' hwindow hcutoff
  have hwhere : SummaryQuery.where_ { query with group_by := finer, limit := limit' } window =
      query.where_ window := rfl
  rw [hwhere] at hgroups'
  rw [hgroups, hgroups']
  have hvalue : ∀ {t : TransactionRow} {d : Dimension}, d ∈ dimensions →
      (dimensions'.zip (dimensions'.map (Dimension.value t))).lookup d = some (d.value t) := by
    intro t d hd
    rw [lookup_zip_map, if_pos (hsub hd)]
  constructor
  · intro g hg
    obtain ⟨k, hk, rfl⟩ := List.mem_map.1 hg
    obtain ⟨t₀, -, -, hvalues⟩ := exists_values hp hk
    have hkey : ∀ d ∈ dimensions, (groupOf db (query.where_ window) dimensions (formatTs cutoff)
        k).value dimensions d = some (d.value t₀) := by
      intro d hd
      rw [SummaryGroup.value, groupOf, hvalues, lookup_zip_map, if_pos hd]
    -- The values of a finer group that belongs to this one.
    let p (values : List String) : Bool := ∀ d ∈ dimensions,
      (dimensions'.zip values).lookup d = some (d.value t₀)
    have hp' : ∀ t : TransactionRow, p (dimensions'.map (Dimension.value t)) =
        decide (dimensions.map (Dimension.value t) = dimensions.map (Dimension.value t₀)) := by
      intro t
      refine decide_eq_decide.2 (Iff.trans ?_ List.map_inj_left.symm)
      refine forall₂_congr fun d hd => ?_
      rw [hvalue hd, Option.some_inj]
    have hfilter : ∀ k' ∈ groupKeys db (query.where_ window) dimensions',
        decide (∀ d ∈ dimensions, (groupOf db (query.where_ window) dimensions' (formatTs cutoff)
          k').value dimensions' d = (groupOf db (query.where_ window) dimensions (formatTs cutoff)
            k).value dimensions d) = p (combination dimensions' k') := by
      intro k' _
      refine decide_eq_decide.2 (forall₂_congr fun d hd => ?_)
      rw [hkey d hd]
      rfl
    -- Their metrics add up to those of all transactions with such values.
    have hsum := @Database.Projected.sum_groupOf_filter db (query.where_ window) dimensions'
      (formatTs cutoff) hp p
    have hkeys : ((groupKeys db (query.where_ window) dimensions').map (groupOf db (query.where_ window)
        dimensions' (formatTs cutoff))).filter (fun g' => ∀ d ∈ dimensions, g'.value dimensions' d =
          (groupOf db (query.where_ window) dimensions (formatTs cutoff) k).value dimensions d) =
        ((groupKeys db (query.where_ window) dimensions').filter fun k' =>
          p (combination dimensions' k')).map (groupOf db (query.where_ window) dimensions'
            (formatTs cutoff)) := by
      rw [List.filter_map]
      exact congrArg (List.map _) (List.filter_congr hfilter)
    rw [hkeys, List.map_map]
    refine Eq.trans ?_ hsum.symm
    rw [hp.groupOf_eq hk, groupTransactions, hvalues]
    exact congrArg (metrics (formatTs cutoff)) (List.filter_congr fun t _ => (hp' t).symm)
  · intro g' hg'
    obtain ⟨k', hk', rfl⟩ := List.mem_map.1 hg'
    obtain ⟨t, ht, hsel, hvalues⟩ := exists_values hp hk'
    -- A transaction of the finer group is in a group by the fewer dimensions.
    obtain ⟨k, hk, hkey⟩ := List.mem_map.1 (hp.mem_combinations.2 ⟨t, ht, hsel, rfl⟩)
    refine ⟨_, List.mem_map_of_mem hk, fun d hd => ?_⟩
    rw [SummaryGroup.value, SummaryGroup.value, groupOf, groupOf, hkey, hvalues, hvalue hd,
      lookup_zip_map, if_pos hd]

end

/-- The groups of the example by status, merchant and date. -/
def finerGroups : List SummaryGroup :=
  SummaryQuery.allGroups { group_by := "status,merchant,date", limit := 2 } fourDaysLater replayedDatabase

/-- The groups of the example by merchant are made of them. -/
theorem summary_rolls_up_by_merchant :
    (∀ g ∈ SummaryQuery.allGroups { limit := 1 } fourDaysLater replayedDatabase,
      g.metrics = ((finerGroups.filter fun g' => ∀ d ∈ [Dimension.merchant],
        g'.value [.status, .merchant, .date] d = g.value [.merchant] d).map SummaryGroup.metrics).sum) ∧
    ∀ g' ∈ finerGroups, ∃ g ∈ SummaryQuery.allGroups { limit := 1 } fourDaysLater replayedDatabase,
      ∀ d ∈ [Dimension.merchant], g.value [.merchant] d = g'.value [.status, .merchant, .date] d :=
  @summary_rolls_up replayedDatabase fourDaysLater twoDaysLater { limit := 1 } [.merchant]
    (none, none) ⟨_, Run.empty.ingest "" [exampleIn "INR", repricedEvent, exampleIn "INR"]⟩
    (by decide +kernel) (by decide) "status,merchant,date" [.status, .merchant, .date]
    (by decide +kernel) (by decide) rfl fourDaysLater_minusHours Nat.one_pos 2 Nat.two_pos

end PaymentRecon
