import PaymentRecon.Buckets
import PaymentRecon.Documents
import PaymentRecon.Groupings

/-!
# Totals on documents

What the accepted documents say of a transaction puts it in one place: the merchant, the amount and the
currency of its first document, the furthest status that any of them gives it, and its earliest time. The
totals of the summary count the places that the filter lets through (`summary_of_documents`).
-/

namespace PaymentRecon

open Store Sql

/-! ## Where transactions stand -/

/-- Where a transaction stands. -/
structure Standing where
  /-- The transaction. -/
  transaction_id : String
  /-- The merchant of the first arrival. -/
  merchant_id : String
  /-- The amount of the first arrival, in minor units. -/
  amount_minor : ℤ
  /-- The currency code of the first arrival. -/
  currency : String
  /-- The rolled-up status. -/
  status : TransactionStatus
  /-- The earliest time. -/
  first_event_at : String

/-- A failure outranks a settlement, and a settlement outranks the processing. -/
def statusOf (said : List Statement) : TransactionStatus :=
  if Saying .payment_failed said then .failed
  else if Saying .settled said then .settled
  else if Saying .payment_processed said then .processed
  else .initiated

/-- Where the statements put a transaction. -/
def standing (statements : List Statement) (id : String) : Option Standing :=
  let said := said statements id
  said.head?.bind fun first => (said.map fun s => formatTs s.time).min?.map fun first_event_at =>
    ⟨id, first.merchant_id, first.amount_minor, first.currency, statusOf said, first_event_at⟩

/-- Where the statements put all transactions. -/
def standings (statements : List Statement) : List Standing :=
  ((Table.firsts Statement.event_id statements).map Statement.transaction_id).dedup.filterMap
    (standing statements)

/-- Where a row puts its transaction. -/
def TransactionRow.standing (t : TransactionRow) : Standing :=
  ⟨t.transaction_id, t.merchant_id, t.amount_minor, t.currency, t.status, t.first_event_at⟩

section

variable {pydantic : Pydantic} {documents : List Json} {trace : List Occurrence}
  {db : Database}

/-- A row stands where the documents put its transaction. -/
theorem Posted.standing_eq (hposted : Posted pydantic documents trace) (h : History trace db)
    (id : String) :
    standing (statements pydantic documents) id =
      (db.transactions.find? id).map TransactionRow.standing := by
  have hlog := hposted.log h id
  cases hfind : db.transactions.find? id with
  | none =>
    rw [h.projected.logged id hfind] at hlog
    rw [standing, List.map_eq_nil_iff.1 hlog.symm]
    rfl
  | some t =>
    have ht := Table.mem_of_find? hfind
    obtain rfl : t.transaction_id = id := Table.key_of_find? hfind
    have hp := h.projected.projects _ t hfind
    obtain ⟨first, hfirst, hmerchant, hamount, hcurrency⟩ := hposted.exists_first h ht
    -- The row has a time of each type of which something is said.
    have hstatus : statusOf (said (statements pydantic documents) t.transaction_id) = t.status := by
      have hhas := hposted.has_iff h t.transaction_id
      simp only [statusOf, TransactionRow.status, hp.failed_at_isSome, hp.settled_at_isSome,
        hp.processed_at_isSome, hhas]
    rw [standing, hfirst, Option.bind_some, hposted.times_said h, ← hp.first_event_at, Option.map_some,
      hmerchant, hamount, hcurrency, hstatus]
    rfl

/-- The rows stand where the documents put the transactions. -/
theorem Posted.standings_perm (hposted : Posted pydantic documents trace) (h : History trace db) :
    (db.transactions.rows.map TransactionRow.standing).Perm
      (standings (statements pydantic documents)) := by
  -- A transaction has a row when something is said of it.
  have hmem : ∀ id, id ∈ db.transactions.rows.map TransactionRow.transaction_id ↔
      id ∈ ((Table.firsts Statement.event_id (statements pydantic documents)).map
        Statement.transaction_id).dedup := by
    intro id
    have hsaid : said (statements pydantic documents) id = [] ↔ db.log id = [] := by
      rw [← List.map_eq_nil_iff (f := Statement.entry), ← hposted.log h id, List.map_eq_nil_iff]
    have hlogged : db.transactions.find? id ≠ none ↔ db.log id ≠ [] := by
      constructor
      · intro hfind
        obtain ⟨t, ht⟩ := Option.ne_none_iff_exists'.1 hfind
        exact (h.projected.projects id t ht).ne_nil
      · exact mt (h.projected.logged id)
    rw [Table.mem_keys_iff, hlogged, Ne, ← hsaid, said, List.filter_eq_nil_iff, List.mem_dedup,
      List.mem_map]
    simp
  have hkeys := (List.perm_ext_iff_of_nodup db.transactions.nodup_keys (List.nodup_dedup _)).2 hmem
  have hrows : (db.transactions.rows.map TransactionRow.transaction_id).filterMap
      (standing (statements pydantic documents)) = db.transactions.rows.map TransactionRow.standing := by
    rw [List.filterMap_map, ← List.filterMap_eq_map]
    refine List.filterMap_congr fun t ht => ?_
    rw [Function.comp_apply, hposted.standing_eq h, Table.find?_key ht]
    rfl
  rw [← hrows]
  exact hkeys.filterMap _

end

/-! ## The totals -/

/-- The filter of a request lets a place through. -/
def SummaryQuery.admits (query : SummaryQuery) (window : Option String × Option String)
    (place : Standing) : Bool :=
  (query.merchant_id.all fun ids => ids = [] ∨ place.merchant_id ∈ ids) &&
    (query.status.all fun values => values = [] ∨ place.status ∈ values) &&
    (query.currency.all fun code => upper code = "" ∨ place.currency = upper code) &&
    (window.1.all fun lower => lower = "" ∨ lower ≤ place.first_event_at) &&
    window.2.all fun upper => upper = "" ∨ place.first_event_at ≤ upper

/-- The metrics of places. A place is a discrepancy when the statements tell one that is not only a
replay. -/
def tally (cutoff : ℤ) (statements : List Statement) (places : List Standing) : Metrics where
  transaction_count := places.length
  total_amount_minor := (places.map Standing.amount_minor).sum
  initiated_count := (places.map fun p => if p.status = .initiated then 1 else 0).sum
  processed_count := (places.map fun p => if p.status = .processed then 1 else 0).sum
  failed_count := (places.map fun p => if p.status = .failed then 1 else 0).sum
  settled_count := (places.map fun p => if p.status = .settled then 1 else 0).sum
  settled_amount_minor := (places.map fun p => if p.status = .settled then p.amount_minor else 0).sum
  failed_amount_minor := (places.map fun p => if p.status = .failed then p.amount_minor else 0).sum
  unsettled_amount_minor := (places.map fun p =>
    if p.status = .initiated ∨ p.status = .processed then p.amount_minor else 0).sum
  discrepancy_count := (places.map fun p =>
    if ∃ type ∈ defaultDiscrepancyTypes, Told cutoff statements p.transaction_id type then 1 else 0).sum

/-- The order of the places does not matter. -/
theorem tally_perm (cutoff : ℤ) (statements : List Statement) {places places' : List Standing}
    (h : places.Perm places') : tally cutoff statements places = tally cutoff statements places' := by
  have hsum : ∀ f : Standing → ℤ, (places.map f).sum = (places'.map f).sum :=
    fun f => (h.map f).sum_eq
  have hcount : ∀ f : Standing → ℕ, (places.map f).sum = (places'.map f).sum :=
    fun f => (h.map f).sum_eq
  simp only [tally, h.length_eq, hsum, hcount]

/-- The condition of the summary selects the rows whose places it lets through. -/
theorem selects_iff_admits (query : SummaryQuery) (window : Option String × Option String)
    (t : TransactionRow) :
    (query.where_ window).selects t = query.admits window t.standing := by
  have hstatus : Function.Injective TransactionStatus.value := by
    intro s s' h
    cases s <;> cases s' <;> first | rfl | (revert h; decide)
  rw [Bool.eq_iff_iff, SummaryQuery.where_, selects_iff_matches]
  simp only [SummaryQuery.admits, Bool.and_eq_true, Option.all_eq_true, decide_eq_true_eq,
    or_iff_not_imp_left, and_assoc]
  constructor
  · intro hm
    refine ⟨hm.merchant_id, ?_, ?_, fun lower hlower hne => ?_, fun upper hupper hne => ?_⟩
    · intro values hvalues hne
      have hmem := hm.status _ (Option.mem_map_of_mem _ hvalues) (mt List.map_eq_nil_iff.1 hne)
      exact (List.mem_map_of_injective hstatus).1 hmem
    · -- A currency is compared in upper case, unless it is empty.
      intro code hcode hne
      have hfilter : query.currency.filter (fun currency => currency ≠ "") = some code := by
        have hcode' : code ≠ "" := by
          rintro rfl
          exact hne (by decide)
        rw [hcode, Option.filter_some, if_pos (decide_eq_true hcode')]
      exact hm.currency _ (Option.mem_map_of_mem _ hfilter) hne
    · obtain ⟨date, hdate, hle⟩ := hm.date_from lower hlower hne
      obtain rfl := Option.some.inj hdate
      exact hle
    · obtain ⟨date, hdate, hle⟩ := hm.date_to upper hupper hne
      obtain rfl := Option.some.inj hdate
      exact hle
  · rintro ⟨hmerchant, hvalues, hcode, hlower, hupper⟩
    refine ⟨hmerchant, ?_, nofun, nofun, ?_, ?_, ?_, nofun, nofun, nofun⟩
    · intro values hmap hne
      obtain ⟨values, hsome, rfl⟩ := Option.map_eq_some_iff.1 hmap
      exact List.mem_map_of_mem (hvalues values hsome (mt List.map_eq_nil_iff.2 hne))
    · intro code hmap hne
      obtain ⟨code, hfilter, rfl⟩ := Option.map_eq_some_iff.1 hmap
      exact hcode code (Option.filter_eq_some_iff.1 hfilter).1 hne
    · intro lower hsome hne
      exact ⟨_, rfl, hlower lower hsome hne⟩
    · intro upper hsome hne
      exact ⟨_, rfl, hupper upper hsome hne⟩

section

variable {pydantic : Pydantic} {documents : List Json} {trace : List Occurrence}
  {db : Database}

/-- The metrics of rows are those of their places. -/
theorem Posted.metrics_eq (hposted : Posted pydantic documents trace) (h : History trace db) (cutoff : Utc)
    {ts : List TransactionRow} (hts : ∀ t ∈ ts, t ∈ db.transactions.rows) :
    metrics (formatTs cutoff) ts =
      tally cutoff.micros (statements pydantic documents) (ts.map TransactionRow.standing) := by
  have hunsettled : ∀ t : TransactionRow,
      caseWhen ((isNull t.settled_at).and (isNull t.failed_at)) t.amount_minor 0 =
        if t.status = .initiated ∨ t.status = .processed then t.amount_minor else 0 := by
    intro t
    refine if_congr ?_ rfl rfl
    rw [holds_unsettled]
    unfold TransactionRow.status
    cases t.failed_at <;> cases t.settled_at <;> cases t.processed_at <;> simp
  have hdiscrepancy : ∀ t ∈ ts, caseWhen (discrepancyPredicate (formatTs cutoff) t) 1 0 =
      if ∃ type ∈ defaultDiscrepancyTypes,
        Told cutoff.micros (statements pydantic documents) t.transaction_id type then 1 else 0 := by
    intro t ht
    refine if_congr ?_ rfl rfl
    simp only [holds_discrepancyPredicate, mem_default_iff, hposted.found_iff h (hts t ht)]
  simp only [metrics, tally, List.map_map, List.length_map, hunsettled, List.map_congr_left hdiscrepancy]
  rfl

/-- The totals of the summary are a function of what the accepted documents say. -/
theorem summary_of_documents (h : Run trace db) (hposted : Posted pydantic documents trace) {now : Utc}
    {query : SummaryQuery} {response : SummaryResponse}
    (hresponse : (getSummary now query).eval db = .ok response) :
    ∃ window, resolveWindow query.date_from query.date_to = .ok window ∧
      response.totals = tally (now.micros - query.stale_after_hours * 3600000000)
        (statements pydantic documents)
        ((standings (statements pydantic documents)).filter (query.admits window)) := by
  obtain ⟨window, cutoff, -, hwindow, hcutoff, hresponse⟩ := getSummary_eq_ok hresponse
  have hmicros : (now.micros : ℤ) - query.stale_after_hours * 3600000000 = cutoff.micros := by
    have := Utc.minusHours_eq_some.1 hcutoff
    omega
  have hrows : (db.transactions.rows.filter (query.where_ window).selects).map TransactionRow.standing =
      (db.transactions.rows.map TransactionRow.standing).filter (query.admits window) := by
    rw [List.filter_map]
    exact congrArg _ (List.filter_congr fun t _ => selects_iff_admits query window t)
  have htotals : response.totals =
      metrics (formatTs cutoff) (db.transactions.rows.filter (query.where_ window).selects) := by
    rw [hresponse]
    exact reconciliationSummary_totals _ _ _ _ _ _
  refine ⟨window, hwindow, ?_⟩
  -- The places of the rows are those of the documents in another order.
  rw [htotals, hmicros, hposted.metrics_eq h.history cutoff fun t ht => (List.mem_filter.1 ht).1, hrows]
  exact tally_perm _ _ ((hposted.standings_perm h.history).filter _)

/-- The totals of the transaction that comes twice, in its currency. -/
theorem summary_of_documents_respelled : ∃ (window : Option String × Option String)
    (response : SummaryResponse), (getSummary fourDaysLater { currency := some "inr" }).eval
        (Database.empty.applyAll "" [exampleIn "INR", exampleIn "INR"]) = .ok response ∧
      response.totals = tally (fourDaysLater.micros - 48 * 3600000000) (statements samplePydantic respelled)
        ((standings (statements samplePydantic respelled)).filter
          (({ currency := some "inr" } : SummaryQuery).admits window)) := by
  have hanswer := eval_getSummary_of_ok (show parseGroupBy "merchant" = .ok [.merchant] by decide +kernel)
    (show resolveWindow none none = .ok (none, none) from rfl)
    (show fourDaysLater.minusHours ({ currency := some "inr" } : SummaryQuery).stale_after_hours = _ from
      fourDaysLater_minusHours)
    (Database.empty.applyAll "" [exampleIn "INR", exampleIn "INR"])
  obtain ⟨window, -, htotals⟩ := summary_of_documents
    (Run.empty.ingest "" [exampleIn "INR", exampleIn "INR"]) posted_respelled hanswer
  exact ⟨window, _, hanswer, htotals⟩

end

end PaymentRecon
