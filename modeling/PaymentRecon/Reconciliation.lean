import PaymentRecon.Ingest
import PaymentRecon.Queries

/-!
# `GET /reconciliation/discrepancies`

`get_discrepancies` of `app/routers/reconciliation.py`, from where the texts of its query string have
been read: `as_of` is an instant, and the window is the pair that `_resolve_window` returns. The
instant enters the report through the cutoff of staleness (and through `age_hours`, which only
displays and is left out).
-/

namespace PaymentRecon

/-- The query of `GET /reconciliation/discrepancies`. -/
structure DiscrepancyQuery where
  /-- The types to report; all but `DUPLICATE_EVENTS` when there is none. -/
  type : List DiscrepancyType := []
  /-- The merchants. -/
  merchant_id : Option (List String) := none
  /-- The severity to show. -/
  severity : Option Severity := none
  /-- The inclusive start of the window. -/
  lower : Option String := none
  /-- The inclusive end of the window. -/
  upper : Option String := none
  /-- How long a transaction may sit unsettled before it counts as stale. -/
  stale_after_hours : ℕ := 48
  /-- The instant at which staleness is evaluated; now when there is none. -/
  as_of : Option Utc := none
  /-- The column to sort by. -/
  sort_by : DiscrepancySort := .severity
  /-- The direction of the sort. -/
  sort_order : SortOrder := .desc
  /-- The size of a page. -/
  limit : ℕ := 50
  /-- The rows before the page, fewer than 2^63. -/
  offset : ℕ := 0

/-- `PageMeta`. -/
structure PageMeta where
  /-- The size of a page. -/
  limit : ℕ
  /-- The rows before the page. -/
  offset : ℕ
  /-- The rows of all pages. -/
  total : ℕ
  /-- The rows of the page. -/
  returned : ℕ
  /-- Whether another page follows. -/
  has_more : Bool
deriving DecidableEq, Repr

/-- `DiscrepancyResponse`. -/
structure DiscrepancyResponse where
  /-- The page. -/
  pagination : PageMeta
  /-- The instant of the report. -/
  as_of : String
  /-- The staleness window. -/
  stale_after_hours : ℕ
  /-- The rows of all pages that each requested type is present in. -/
  counts_by_type : List (DiscrepancyType × ℕ)
  /-- The rows of the page. -/
  items : List DiscrepancyItem
deriving DecidableEq, Repr

/-- `selected_types`. -/
def DiscrepancyQuery.selectedTypes (query : DiscrepancyQuery) : List DiscrepancyType :=
  if query.type = [] then defaultDiscrepancyTypes else query.type

/-- The filter of the report. -/
def DiscrepancyQuery.filter (query : DiscrepancyQuery) : Condition :=
  buildTransactionFilters
    { merchant_id := query.merchant_id
      date_from := query.lower
      date_to := query.upper
      date_field := .first_event_at }

/-- What `get_discrepancies` does once it has the cutoff. -/
def DiscrepancyQuery.response (query : DiscrepancyQuery) (db : Database) (as_of cutoff : Utc) :
    DiscrepancyResponse :=
  let report := discrepancies db query.filter query.selectedTypes (formatTs cutoff) query.sort_by
    query.sort_order query.limit query.offset
  let items := match query.severity with
    | none => report.items
    | some severity => report.items.filter fun item => item.severity = severity
  { pagination :=
      { limit := query.limit
        offset := query.offset
        total := report.total
        returned := items.length
        has_more := query.offset + items.length < report.total }
    as_of := formatTs as_of
    stale_after_hours := query.stale_after_hours
    counts_by_type := report.countsOf query.selectedTypes
    items := items }

/-- `get_discrepancies`. The text `as_of_ts` is canonical, so `parse_ts` reads the instant back. -/
def getDiscrepancies (db : Database) (now : Utc) (query : DiscrepancyQuery) :
    Except AppError DiscrepancyResponse :=
  let as_of := query.as_of.getD now
  (as_of.minusHours query.stale_after_hours).elim (.error .overflow) fun cutoff =>
    .ok (query.response db as_of cutoff)

section

variable {now : Utc} {query : DiscrepancyQuery}

/-- Without a cutoff there is an error. -/
theorem getDiscrepancies_of_none
    (h : (query.as_of.getD now).minusHours query.stale_after_hours = none) (db : Database) :
    getDiscrepancies db now query = .error .overflow := by
  simp only [getDiscrepancies, h, Option.elim_none]

/-- With a cutoff there is a report. -/
theorem getDiscrepancies_of_some {cutoff : Utc}
    (h : (query.as_of.getD now).minusHours query.stale_after_hours = some cutoff) (db : Database) :
    getDiscrepancies db now query = .ok (query.response db (query.as_of.getD now) cutoff) := by
  simp only [getDiscrepancies, h, Option.elim_some]

end

end PaymentRecon
