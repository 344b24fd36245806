import PaymentRecon.Transactions

/-!
# The reconciliation endpoints, statement by statement

`get_summary` and `get_discrepancies` of `app/routers/reconciliation.py` as readings: the queries
behind each are three statements, which need not see the same database. On a database that stays as it
is they give what `reconciliationSummary` and `getDiscrepancies` give.
-/

namespace PaymentRecon

open Store Sql

/-! ## The summary -/

/-- The key of a dimension in `GROUP_BY_DIMENSIONS`. -/
def Dimension.name : Dimension → String
  | merchant => "merchant"
  | date => "date"
  | status => "status"
  | currency => "currency"

/-- The keys of `GROUP_BY_DIMENSIONS`, in order. -/
def groupByDimensions : List Dimension := [.merchant, .date, .status, .currency]

/-- The dimensions that `group_by` names. -/
def parseGroupBy (group_by : String) : Except AppError (List Dimension) :=
  let names := ((group_by.toList.splitOn ',').map fun d => strip (String.ofList d)).filter
    fun d => d ≠ ""
  let unknown := names.filter fun d => d ∉ groupByDimensions.map Dimension.name
  if unknown ≠ [] then
    .error (.api 422 "validation_error" ("Unsupported group_by dimension(s): " ++
      ", ".intercalate unknown ++ ". Supported: " ++
      ", ".intercalate (groupByDimensions.map Dimension.name)))
  else if ¬ names.Nodup then
    .error (.api 422 "validation_error" "group_by contains duplicate dimensions")
  else .ok (names.filterMap fun name => groupByDimensions.find? fun d => d.name = name)

/-- `reconciliation_summary`, statement by statement. -/
def readSummary (where_ : Condition) (group_by : List Dimension) (cutoff : String)
    (limit offset : ℕ) : Reading Database AppError Summary := do
  let totals ← Reading.query fun db =>
    (reconciliationSummary db where_ group_by cutoff limit offset).totals
  if group_by = [] then return ⟨totals, [], 0⟩
  let total_groups ← Reading.query fun db =>
    (reconciliationSummary db where_ group_by cutoff limit offset).total_groups
  let groups ← Reading.query fun db =>
    (reconciliationSummary db where_ group_by cutoff limit offset).groups
  return ⟨totals, groups, total_groups⟩

/-- The query of `GET /reconciliation/summary`. -/
structure SummaryQuery where
  /-- The dimensions, separated by commas. -/
  group_by : String := "merchant"
  /-- The merchants. -/
  merchant_id : Option (List String) := none
  /-- The rolled-up statuses. -/
  status : Option (List TransactionStatus) := none
  /-- The currency, in any case. -/
  currency : Option String := none
  /-- The inclusive start of the window, a date or a timestamp. -/
  date_from : Option String := none
  /-- The inclusive end of the window, a date or a timestamp. -/
  date_to : Option String := none
  /-- How long a transaction may sit unsettled before it counts as stale. -/
  stale_after_hours : ℕ := 48
  /-- The size of a page of groups. -/
  limit : ℕ := 200
  /-- The groups before the page, fewer than 2^63. -/
  offset : ℕ := 0

/-- The echo of the query in the response. -/
structure SummaryFilters where
  /-- The merchants. -/
  merchant_id : Option (List String)
  /-- The rolled-up statuses. -/
  status : Option (List TransactionStatus)
  /-- The currency, as it was given. -/
  currency : Option String
  /-- The inclusive start of the window. -/
  date_from : Option String
  /-- The inclusive end of the window. -/
  date_to : Option String
  /-- The staleness window. -/
  stale_after_hours : ℕ
  /-- The groups of all pages. -/
  group_count : ℕ
  /-- The size of a page. -/
  limit : ℕ
  /-- The groups before the page. -/
  offset : ℕ
deriving DecidableEq, Repr

/-- `SummaryResponse`. -/
structure SummaryResponse where
  /-- The dimensions. -/
  group_by : List Dimension
  /-- The query. -/
  filters : SummaryFilters
  /-- The metrics of all transactions. -/
  totals : Metrics
  /-- The page of groups. -/
  groups : List SummaryGroup
deriving DecidableEq, Repr

/-- The condition of the summary. -/
def SummaryQuery.where_ (query : SummaryQuery) (window : Option String × Option String) :
    Condition :=
  buildTransactionFilters
    { merchant_id := query.merchant_id
      status := query.status.map fun values => values.map TransactionStatus.value
      -- `currency.upper() if currency else None`
      currency := (query.currency.filter fun currency => currency ≠ "").map upper
      date_from := window.1
      date_to := window.2
      date_field := .first_event_at }

/-- The response for a summary. -/
def SummaryQuery.response (query : SummaryQuery) (dimensions : List Dimension)
    (window : Option String × Option String) (summary : Summary) : SummaryResponse where
  group_by := dimensions
  filters :=
    { merchant_id := query.merchant_id
      status := query.status
      currency := query.currency
      date_from := window.1
      date_to := window.2
      stale_after_hours := query.stale_after_hours
      group_count := summary.total_groups
      limit := query.limit
      offset := query.offset }
  totals := summary.totals
  groups := summary.groups

/-- `get_summary`. -/
def getSummary (now : Utc) (query : SummaryQuery) :
    Reading Database AppError SummaryResponse := do
  let dimensions ← Reading.calling (parseGroupBy query.group_by)
  let window ← Reading.calling (resolveWindow query.date_from query.date_to)
  let cutoff ← Reading.calling
    ((now.minusHours query.stale_after_hours).elim (.error .overflow) .ok)
  let summary ← readSummary (query.where_ window) dimensions (formatTs cutoff) query.limit
    query.offset
  return query.response dimensions window summary

/-- The summary of a database that stays as it is. -/
@[simp] theorem eval_readSummary (where_ : Condition) (group_by : List Dimension) (cutoff : String)
    (limit offset : ℕ) (db : Database) :
    (readSummary where_ group_by cutoff limit offset).eval db =
      .ok (reconciliationSummary db where_ group_by cutoff limit offset) := by
  unfold readSummary
  by_cases hg : group_by = []
  · subst hg
    rfl
  · simp only [hg, if_false]
    rfl

/-- A summary that is answered, on a database that stays as it is. -/
theorem eval_getSummary {now : Utc} {query : SummaryQuery} {db : Database}
    {response : SummaryResponse} (h : (getSummary now query).eval db = .ok response) :
    ∃ dimensions window cutoff, response = query.response dimensions window
      (reconciliationSummary db (query.where_ window) dimensions cutoff query.limit
        query.offset) := by
  unfold getSummary at h
  simp only [Reading.eval_calling_bind] at h
  obtain ⟨dimensions, _, h⟩ := exists_of_bind_eq_ok h
  obtain ⟨window, _, h⟩ := exists_of_bind_eq_ok h
  obtain ⟨cutoff, _, h⟩ := exists_of_bind_eq_ok h
  rw [Reading.eval_bind, eval_readSummary] at h
  exact ⟨dimensions, window, formatTs cutoff, (Except.ok.inj h).symm⟩

/-- A summary whose query is accepted is answered. -/
theorem eval_getSummary_of_ok {now cutoff : Utc} {query : SummaryQuery} {dimensions : List Dimension}
    {window : Option String × Option String} (hdimensions : parseGroupBy query.group_by = .ok dimensions)
    (hwindow : resolveWindow query.date_from query.date_to = .ok window)
    (hcutoff : now.minusHours query.stale_after_hours = some cutoff) (db : Database) :
    (getSummary now query).eval db = .ok (query.response dimensions window
      (reconciliationSummary db (query.where_ window) dimensions (formatTs cutoff) query.limit
        query.offset)) := by
  unfold getSummary
  simp only [Reading.eval_calling_bind, hdimensions, hwindow, hcutoff, Option.elim_some]
  show (Reading.eval (_ >>= _) db) = _
  rw [Reading.eval_bind, eval_readSummary]
  rfl

/-! ## The discrepancies -/

/-- `discrepancies`, statement by statement. -/
def readDiscrepancies (where_ : Condition) (types : List DiscrepancyType) (cutoff : String)
    (sort_by : DiscrepancySort) (sort_order : SortOrder) (limit offset : ℕ) :
    Reading Database AppError DiscrepancyReport := do
  let total ← Reading.query fun db =>
    (discrepancies db where_ types cutoff sort_by sort_order limit offset).total
  let counts_by_type ← Reading.query fun db =>
    (discrepancies db where_ types cutoff sort_by sort_order limit offset).counts_by_type
  let items ← Reading.query fun db =>
    (discrepancies db where_ types cutoff sort_by sort_order limit offset).items
  return ⟨items, total, counts_by_type⟩

/-- The response for a report. -/
def DiscrepancyQuery.shape (query : DiscrepancyQuery) (as_of : Utc) (report : DiscrepancyReport) :
    DiscrepancyResponse :=
  let items := match query.severity with
    | none => report.items
    | some severity => report.items.filter fun item => item.severity = severity
  { pagination := pageMeta query.limit query.offset report.total items.length
    as_of := formatTs as_of
    stale_after_hours := query.stale_after_hours
    counts_by_type := report.countsOf query.selectedTypes
    items := items }

/-- `get_discrepancies`, statement by statement. -/
def readDiscrepancyReport (now : Utc) (query : DiscrepancyQuery) :
    Reading Database AppError DiscrepancyResponse := do
  let as_of := query.as_of.getD now
  let cutoff ← Reading.calling
    ((as_of.minusHours query.stale_after_hours).elim (.error .overflow) .ok)
  let report ← readDiscrepancies query.filter query.selectedTypes (formatTs cutoff) query.sort_by
    query.sort_order query.limit query.offset
  return query.shape as_of report

/-- The report on a database that stays as it is. -/
@[simp] theorem eval_readDiscrepancyReport (now : Utc) (query : DiscrepancyQuery) (db : Database) :
    (readDiscrepancyReport now query).eval db = getDiscrepancies db now query := by
  unfold readDiscrepancyReport getDiscrepancies
  generalize query.as_of.getD now = as_of
  dsimp only
  cases as_of.minusHours query.stale_after_hours with
  | none => rfl
  | some cutoff => rfl

end PaymentRecon
