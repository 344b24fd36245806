import PaymentRecon.Counts
import PaymentRecon.DiscrepancyTexts

/-!
# Reports at two cutoffs

The cutoff enters a report through two of the eight types, as the upper bound of a timestamp. From the
instant of `as_of` to the columns of SQL it passes through texts, which are in the order of the instants
(`formatTs_le_iff`), so that a later cutoff reports no less: `Found.mono` is the step, and
`staleness_monotone` the consequence for the pages, the counts and the totals of two requests.
-/

namespace PaymentRecon

open Store Sql

/-! ## One transaction -/

/-- The types that depend on the cutoff. -/
def DiscrepancyType.IsStale (type : DiscrepancyType) : Prop :=
  type = .processed_not_settled ∨ type = .stuck_in_initiated

section

variable {t : TransactionRow} {type : DiscrepancyType} {c c' : String}

/-- What is before a cutoff is before a later one. -/
theorem before_mono {x : Option String} (h : before x c = true) (hle : c ≤ c') :
    before x c' = true := by
  cases x with
  | none => cases h
  | some s =>
    simp only [before, Option.any_some, decide_eq_true_eq] at h ⊢
    exact lt_of_lt_of_le h hle

/-- What is found at a cutoff is found at a later one. -/
theorem Found.mono (h : Found c t type) (hle : c ≤ c') : Found c' t type := by
  cases type with
  | processed_not_settled =>
    obtain ⟨hprocessed, hfailed, hsettled, hbefore⟩ := h
    exact ⟨hprocessed, hfailed, hsettled, before_mono hbefore hle⟩
  | stuck_in_initiated =>
    obtain ⟨hinitiated, hprocessed, hfailed, hsettled, hbefore⟩ := h
    exact ⟨hinitiated, hprocessed, hfailed, hsettled, before_mono hbefore hle⟩
  | _ => exact h

/-- The other types are found at every cutoff alike. -/
theorem found_congr (h : ¬ type.IsStale) : Found c t type ↔ Found c' t type := by
  cases type with
  | processed_not_settled => exact absurd (.inl rfl) h
  | stuck_in_initiated => exact absurd (.inr rfl) h
  | _ => rfl

/-- A transaction that is processed and not settled is not stuck, whatever the cutoffs. -/
theorem Found.not_stuck_of_processed (h : Found c t .processed_not_settled) :
    ¬ Found c' t .stuck_in_initiated := fun h' => h'.2.1 h.1

variable {types : List DiscrepancyType} {merchant_name : String}

/-- A row is selected when a selected type is found. -/
theorem selected_flagRow : (flagRow c t merchant_name).selected types = true ↔
    ∃ type ∈ types, Found c t type := by
  simp only [FlaggedRow.selected, List.any_eq_true, decide_eq_true_eq, flag_eq_one_iff]

end

/-! ## Totals and counts -/

/-- The joined transactions in which a selected type is found, counted. -/
def countFound (db : Database) (filter : Condition) (types : List DiscrepancyType) (c : String) : ℕ :=
  (db.joined.filter fun r => filter.selects r.1).countP fun r =>
    (flagRow c r.1 r.2).selected types

/-- A count at an earlier cutoff and at a later one. -/
def CountLe (count count' : DiscrepancyType × ℕ) : Prop :=
  count.1 = count'.1 ∧ count.2 ≤ count'.2 ∧ (¬ count.1.IsStale → count.2 = count'.2)

section

variable {db : Database} {filter : Condition} {types : List DiscrepancyType} {c c' : String}

/-- A later cutoff finds no fewer. -/
theorem countFound_mono (hle : c ≤ c') :
    countFound db filter types c ≤ countFound db filter types c' := by
  refine List.countP_mono_left fun r _ h => ?_
  rw [selected_flagRow] at h ⊢
  obtain ⟨type, htype, hfound⟩ := h
  exact ⟨type, htype, hfound.mono hle⟩

/-- A type that does not depend on the cutoff is found as often at another one. -/
theorem countFound_congr {type : DiscrepancyType} (h : ¬ type.IsStale) :
    countFound db filter [type] c = countFound db filter [type] c' := by
  refine List.countP_congr fun r _ => ?_
  rw [selected_flagRow, selected_flagRow]
  exact exists_congr fun type' => and_congr_right fun hmem =>
    found_congr (List.mem_singleton.1 hmem ▸ h)

variable {sort_by : DiscrepancySort} {sort_order : SortOrder} {limit offset : ℕ}

/-- The total of a report. -/
theorem total_eq_countFound :
    (discrepancies db filter types c sort_by sort_order limit offset).total =
      countFound db filter types c := by
  simp only [discrepancies, flagged, countFound, ← List.countP_eq_length_filter, List.countP_map]
  rfl

/-- The counts of a report. -/
theorem countsOf_eq_countFound (hc : db.Checked) :
    (discrepancies db filter types c sort_by sort_order limit offset).countsOf types =
      (selectedKeys types).map fun type => (type, countFound db filter [type] c) := by
  rw [countsOf_eq hc]
  refine List.map_congr_left fun type htype => ?_
  rw [← total_alone (mem_selectedKeys.1 htype) sort_by sort_order limit offset, total_eq_countFound]

/-- The counts at a later cutoff are no smaller, and those of the types that do not depend on it are the
same. -/
theorem counts_le (hle : c ≤ c') : List.Forall₂ CountLe
    ((selectedKeys types).map fun type => (type, countFound db filter [type] c))
    ((selectedKeys types).map fun type => (type, countFound db filter [type] c')) := by
  rw [List.forall₂_map_left_iff, List.forall₂_map_right_iff, List.forall₂_same]
  exact fun type _ => ⟨rfl, countFound_mono hle, fun h => countFound_congr h⟩

end

/-! ## Items -/

section

variable {db : Database} {filter : Condition} {types : List DiscrepancyType} {c c' : String}
  {r : FlaggedRow}

/-- The flagged row of the same transaction at another cutoff. -/
theorem exists_flagRow (hr : r ∈ flagged db filter c) (c' : String) :
    ∃ r' ∈ flagged db filter c', r'.t = r.t := by
  obtain ⟨t, m, ht, hm, hsel, rfl⟩ := mem_flagged.1 hr
  exact ⟨_, mem_flagged.2 ⟨t, m, ht, hm, hsel, rfl⟩, rfl⟩

/-- A selected row is selected at a later cutoff, with all of its types. -/
theorem exists_later (hc : db.Checked) (hle : c ≤ c') (hr : r ∈ flagged db filter c)
    (hs : r.selected types = true) :
    ∃ r' ∈ flagged db filter c', r'.t = r.t ∧ r'.selected types = true ∧
      r.present types ⊆ r'.present types := by
  obtain ⟨r', hr', ht⟩ := exists_flagRow hr c'
  refine ⟨r', hr', ht, ?_, fun type htype => ?_⟩
  · rw [selected_iff hr] at hs
    rw [selected_iff hr', ht]
    obtain ⟨type, htype, hfound⟩ := hs
    exact ⟨type, htype, hfound.mono hle⟩
  · rw [mem_present hc hr] at htype
    rw [mem_present hc hr', ht]
    exact ⟨htype.1.mono hle, htype.2⟩

/-- A row with a type that does not depend on the cutoff is selected at any other one, with this type. -/
theorem exists_other (hc : db.Checked) (hr : r ∈ flagged db filter c) {type : DiscrepancyType}
    (htype : type ∈ r.present types) (h : ¬ type.IsStale) (c' : String) :
    ∃ r' ∈ flagged db filter c', r'.t = r.t ∧ r'.selected types = true ∧
      type ∈ r'.present types := by
  obtain ⟨r', hr', ht⟩ := exists_flagRow hr c'
  obtain ⟨hfound, hmem⟩ := (mem_present hc hr).1 htype
  have hfound' : Found c' r'.t type := ht ▸ (found_congr h).1 hfound
  exact ⟨r', hr', ht, (selected_iff hr' types).2 ⟨type, hmem, hfound'⟩,
    (mem_present hc hr').2 ⟨hfound', hmem⟩⟩

/-- The types of an item are found in its transaction. -/
theorem exists_transaction (hc : db.Checked) (hr : r ∈ flagged db filter c) :
    ∃ t ∈ db.transactions.rows,
      t.transaction_id = (shapeDiscrepancyRow types r).transaction_id ∧
        ∀ type ∈ (shapeDiscrepancyRow types r).discrepancy_types, Found c t type := by
  obtain ⟨t, m, ht, _, _, rfl⟩ := mem_flagged.1 hr
  exact ⟨t, ht, rfl, fun type htype => ((mem_present hc hr).1 htype).1⟩

/-- A selected row lists a type. -/
theorem present_ne_nil (hc : db.Checked) (hr : r ∈ flagged db filter c)
    (hs : r.selected types = true) : r.present types ≠ [] := by
  obtain ⟨type, hmem, hfound⟩ := (selected_iff hr types).1 hs
  exact List.ne_nil_of_mem ((mem_present hc hr).2 ⟨hfound, hmem⟩)

/-- More types are at least as severe. -/
theorem maxSeverity_mono {present present' : List DiscrepancyType} (hne : present ≠ [])
    (hsub : present ⊆ present') : (maxSeverity present).rank ≤ (maxSeverity present').rank := by
  obtain ⟨type, htype, hrank⟩ := (isGreatest_maxSeverity hne).1
  have hne' : present' ≠ [] := List.ne_nil_of_mem (hsub htype)
  rw [← hrank]
  exact (isGreatest_maxSeverity hne').2 ⟨type, hsub htype, rfl⟩

end

/-- What a page shows. -/
theorem mem_response_items {query : DiscrepancyQuery} {db : Database} {as_of cutoff : Utc}
    {item : DiscrepancyItem} :
    item ∈ (query.response db as_of cutoff).items ↔
      item ∈ (discrepancies db query.filter query.selectedTypes (formatTs cutoff) query.sort_by
        query.sort_order query.limit query.offset).items ∧
      ∀ severity ∈ query.severity, item.severity = severity := by
  unfold DiscrepancyQuery.response
  cases hs : query.severity with
  | none => simp
  | some severity => simp [List.mem_filter]

namespace DiscrepancyRequest

variable {request : DiscrepancyRequest} {db : Database} {now : Utc}

/-- A page of the report shows the item. -/
def Reports (request : DiscrepancyRequest) (db : Database) (now : Utc) (item : DiscrepancyItem) :
    Prop :=
  ∃ offset response, ({ request with offset := offset } : DiscrepancyRequest).answer db now =
    .ok response ∧ item ∈ response.items

/-- The types to report. -/
def selectedTypes (request : DiscrepancyRequest) : List DiscrepancyType :=
  if request.type = [] then defaultDiscrepancyTypes else request.type

/-- The condition of the report, for a window. -/
def condition (request : DiscrepancyRequest) (window : Option String × Option String) : Condition :=
  buildTransactionFilters
    { merchant_id := request.merchant_id
      date_from := window.1
      date_to := window.2
      date_field := .first_event_at }

/-- A request with a cutoff and a window is answered. -/
theorem answer_of_ok {as_of cutoff : Utc} {window : Option String × Option String}
    (hcutoff : request.cutoff now = .ok (as_of, cutoff))
    (hwindow : resolveWindow request.date_from request.date_to = .ok window) (db : Database) :
    request.answer db now = .ok ((request.query as_of window).response db as_of cutoff) := by
  unfold answer
  rw [hcutoff, hwindow]
  rfl

/-- What the pages of a request show. -/
theorem reports_iff {as_of cutoff : Utc} (hcutoff : request.cutoff now = .ok (as_of, cutoff))
    (hl : 0 < request.limit) {item : DiscrepancyItem} :
    request.Reports db now item ↔
      (∃ window, resolveWindow request.date_from request.date_to = .ok window ∧
        ∃ r ∈ flagged db (request.condition window) (formatTs cutoff),
          r.selected request.selectedTypes = true ∧
            shapeDiscrepancyRow request.selectedTypes r = item) ∧
        ∀ severity ∈ request.severity, item.severity = severity := by
  constructor
  · rintro ⟨offset, response, hok, hitem⟩
    obtain ⟨as_of', cutoff', window, hcutoff', hwindow, _, rfl⟩ := answer_eq_ok hok
    cases hcutoff'.symm.trans hcutoff
    obtain ⟨hmem, hseverity⟩ := mem_response_items.1 hitem
    exact ⟨⟨window, hwindow, mem_items hmem⟩, hseverity⟩
  · rintro ⟨⟨window, hwindow, hrow⟩, hseverity⟩
    obtain ⟨k, hk⟩ := (@mem_pages db (request.condition window) request.selectedTypes
      (formatTs cutoff) request.sort_by request.sort_order request.limit hl item).2 hrow
    have hanswer := @answer_of_ok { request with offset := k * request.limit } now as_of cutoff window
      hcutoff hwindow db
    exact ⟨_, _, hanswer, mem_response_items.2 ⟨hk, hseverity⟩⟩

/-- An instant in range has a cutoff when the given hours before it are in range. -/
theorem exists_cutoff {i : ℤ} (h : request.asOfInstant now = some i)
    (hin : request.stale_after_hours * 3600000000 ≤ i ∧ i < Utc.endMicros) :
    ∃ as_of cutoff, request.cutoff now = .ok (as_of, cutoff) ∧
      (cutoff.micros : ℤ) + request.stale_after_hours * 3600000000 = i := by
  cases hcutoff : request.cutoff now with
  | ok cutoff =>
    obtain ⟨hinstant, hminus⟩ := cutoff_eq_ok.1 hcutoff
    rw [h, Option.some.injEq] at hinstant
    exact ⟨cutoff.1, cutoff.2, rfl, by omega⟩
  | error e =>
    -- None of the errors happens when the cutoff lies in the calendar.
    rcases request.asOfTs_cases now with ⟨t, hinstant, hts⟩ | ⟨i', hinstant, hrange, _⟩ |
      ⟨_, hinstant, _⟩
    · rw [h, Option.some.injEq] at hinstant
      rw [cutoff_of_ok hts] at hcutoff
      cases hminus : t.minusHours request.stale_after_hours with
      | none =>
        rw [Utc.minusHours_eq_none] at hminus
        omega
      | some cutoff =>
        rw [hminus] at hcutoff
        cases hcutoff
    · rw [h, Option.some.injEq] at hinstant
      exact absurd ⟨by omega, by omega⟩ hrange
    · rw [h] at hinstant
      cases hinstant

/-- The request without its severity. -/
def allSeverities (request : DiscrepancyRequest) : DiscrepancyRequest :=
  { request with severity := none }

/-- What the pages of a request show without its severity. -/
theorem allSeverities_reports_iff {as_of cutoff : Utc}
    (hcutoff : request.cutoff now = .ok (as_of, cutoff)) (hl : 0 < request.limit)
    {item : DiscrepancyItem} :
    request.allSeverities.Reports db now item ↔
      ∃ window, resolveWindow request.date_from request.date_to = .ok window ∧
        ∃ r ∈ flagged db (request.condition window) (formatTs cutoff),
          r.selected request.selectedTypes = true ∧
            shapeDiscrepancyRow request.selectedTypes r = item := by
  rw [@reports_iff request.allSeverities db now as_of cutoff hcutoff hl]
  exact and_iff_left nofun

/-- The types of an item that the pages show are found in its transaction. -/
theorem exists_transaction_of_reports (hc : db.Checked) {as_of cutoff : Utc}
    (hcutoff : request.cutoff now = .ok (as_of, cutoff)) (hl : 0 < request.limit)
    {item : DiscrepancyItem} (h : request.allSeverities.Reports db now item) :
    ∃ t ∈ db.transactions.rows, t.transaction_id = item.transaction_id ∧
      ∀ type ∈ item.discrepancy_types, Found (formatTs cutoff) t type := by
  obtain ⟨_, _, r, hr, _, rfl⟩ := (allSeverities_reports_iff hcutoff hl).1 h
  exact exists_transaction hc hr

/-- The severity hides the items that have another one. -/
theorem reports_iff_allSeverities {as_of cutoff : Utc}
    (hcutoff : request.cutoff now = .ok (as_of, cutoff)) (hl : 0 < request.limit)
    (item : DiscrepancyItem) :
    request.Reports db now item ↔ request.allSeverities.Reports db now item ∧
      ∀ severity ∈ request.severity, item.severity = severity := by
  rw [allSeverities_reports_iff hcutoff hl, reports_iff hcutoff hl]

/-- The total of a response. -/
theorem total_response {as_of cutoff : Utc} {window : Option String × Option String} :
    ((request.query as_of window).response db as_of cutoff).pagination.total =
      countFound db (request.condition window) request.selectedTypes (formatTs cutoff) :=
  @total_eq_countFound db (request.condition window) request.selectedTypes (formatTs cutoff)
    request.sort_by request.sort_order request.limit request.offset

/-- The counts of a response. -/
theorem counts_response (hc : db.Checked) {as_of cutoff : Utc}
    {window : Option String × Option String} :
    ((request.query as_of window).response db as_of cutoff).counts_by_type =
      (selectedKeys request.selectedTypes).map fun type =>
        (type, countFound db (request.condition window) [type] (formatTs cutoff)) :=
  @countsOf_eq_countFound db (request.condition window) request.selectedTypes (formatTs cutoff)
    request.sort_by request.sort_order request.limit request.offset hc

end DiscrepancyRequest

/-- Staleness is monotone and isolated. For every reachable database and two requests with the same
selection of types and the same filter, whose instants, in any spelling, are in the years 1 to 9999 and
have their cutoffs there: if the cutoff of the first is not after that of the second, every transaction
that the first reports is reported by the second with all of its types, and is at least as severe, and
neither the total nor a count is smaller. The reports differ in the two types that depend on the cutoff
only, and no transaction has one of them in one report and the other one in either. The severity of a
request hides the items that have another one. -/
theorem staleness_monotone {db : Database} (h : Reachable db) {request₁ request₂ : DiscrepancyRequest}
    (htype : request₁.type = request₂.type) (hmerchant : request₁.merchant_id = request₂.merchant_id)
    (hfrom : request₁.date_from = request₂.date_from) (hto : request₁.date_to = request₂.date_to)
    (hl₁ : 0 < request₁.limit) (hl₂ : 0 < request₂.limit) {now₁ now₂ : Utc} {i₁ i₂ : ℤ}
    (h₁ : request₁.asOfInstant now₁ = some i₁) (h₂ : request₂.asOfInstant now₂ = some i₂)
    (hin₁ : request₁.stale_after_hours * 3600000000 ≤ i₁ ∧ i₁ < Utc.endMicros)
    (hin₂ : request₂.stale_after_hours * 3600000000 ≤ i₂ ∧ i₂ < Utc.endMicros)
    (hle : i₁ - request₁.stale_after_hours * 3600000000 ≤
      i₂ - request₂.stale_after_hours * 3600000000) :
    let Reports₁ := request₁.allSeverities.Reports db now₁
    let Reports₂ := request₂.allSeverities.Reports db now₂
    (∀ item, Reports₁ item → ∃ item', Reports₂ item' ∧
        item'.transaction_id = item.transaction_id ∧
        item.discrepancy_types ⊆ item'.discrepancy_types ∧
        item.severity.rank ≤ item'.severity.rank) ∧
      (∀ item', Reports₂ item' → ∀ type ∈ item'.discrepancy_types, ¬ type.IsStale →
        ∃ item, Reports₁ item ∧ item.transaction_id = item'.transaction_id ∧
          type ∈ item.discrepancy_types) ∧
      (∀ response₁ response₂, request₁.answer db now₁ = .ok response₁ →
        request₂.answer db now₂ = .ok response₂ →
        response₁.pagination.total ≤ response₂.pagination.total ∧
          List.Forall₂ CountLe response₁.counts_by_type response₂.counts_by_type) ∧
      (∀ item item', Reports₁ item ∨ Reports₂ item → Reports₁ item' ∨ Reports₂ item' →
        item.transaction_id = item'.transaction_id →
        ¬ (.processed_not_settled ∈ item.discrepancy_types ∧
          .stuck_in_initiated ∈ item'.discrepancy_types)) ∧
      (∀ item, request₁.Reports db now₁ item ↔ Reports₁ item ∧
        ∀ severity ∈ request₁.severity, item.severity = severity) ∧
      ∀ item, request₂.Reports db now₂ item ↔ Reports₂ item ∧
        ∀ severity ∈ request₂.severity, item.severity = severity := by
  intro Reports₁ Reports₂
  have hc := h.checked
  obtain ⟨as_of₁, cutoff₁, hcutoff₁, hmicros₁⟩ := DiscrepancyRequest.exists_cutoff h₁ hin₁
  obtain ⟨as_of₂, cutoff₂, hcutoff₂, hmicros₂⟩ := DiscrepancyRequest.exists_cutoff h₂ hin₂
  have hcutoffs : formatTs cutoff₁ ≤ formatTs cutoff₂ := formatTs_le_iff.2 (by omega)
  have htypes : request₁.selectedTypes = request₂.selectedTypes := by
    simp only [DiscrepancyRequest.selectedTypes, htype]
  have hcondition : request₁.condition = request₂.condition := by
    funext window
    simp only [DiscrepancyRequest.condition, hmerchant]
  -- Both requests have the same window, or neither has one.
  have hreports₁ : ∀ item, Reports₁ item ↔ ∃ window,
      resolveWindow request₂.date_from request₂.date_to = .ok window ∧
        ∃ r ∈ flagged db (request₂.condition window) (formatTs cutoff₁),
          r.selected request₂.selectedTypes = true ∧
            shapeDiscrepancyRow request₂.selectedTypes r = item := by
    intro item
    rw [← hfrom, ← hto, ← hcondition, ← htypes]
    exact DiscrepancyRequest.allSeverities_reports_iff hcutoff₁ hl₁
  have hreports₂ := fun item =>
    @DiscrepancyRequest.allSeverities_reports_iff request₂ db now₂ as_of₂ cutoff₂ hcutoff₂ hl₂ item
  refine ⟨fun item hitem => ?_, fun item' hitem' type hmem hstale => ?_,
    fun response₁ response₂ hok₁ hok₂ => ?_, fun item item' hitem hitem' hid => ?_,
    DiscrepancyRequest.reports_iff_allSeverities hcutoff₁ hl₁,
    DiscrepancyRequest.reports_iff_allSeverities hcutoff₂ hl₂⟩
  · obtain ⟨window, hwindow, r, hr, hs, rfl⟩ := (hreports₁ item).1 hitem
    obtain ⟨r', hr', ht, hs', hsub⟩ := exists_later hc hcutoffs hr hs
    exact ⟨_, (hreports₂ _).2 ⟨window, hwindow, r', hr', hs', rfl⟩,
      congrArg TransactionRow.transaction_id ht, hsub,
      maxSeverity_mono (present_ne_nil hc hr hs) hsub⟩
  · obtain ⟨window, hwindow, r', hr', hs', rfl⟩ := (hreports₂ item').1 hitem'
    obtain ⟨r, hr, ht, hs, hpresent⟩ := exists_other hc hr' hmem hstale (formatTs cutoff₁)
    exact ⟨_, (hreports₁ _).2 ⟨window, hwindow, r, hr, hs, rfl⟩,
      congrArg TransactionRow.transaction_id ht, hpresent⟩
  · obtain ⟨_, cutoff₁', window₁, hcutoff₁', hwindow₁, _, rfl⟩ :=
      DiscrepancyRequest.answer_eq_ok hok₁
    obtain ⟨_, cutoff₂', window₂, hcutoff₂', hwindow₂, _, rfl⟩ :=
      DiscrepancyRequest.answer_eq_ok hok₂
    cases hcutoff₁'.symm.trans hcutoff₁
    cases hcutoff₂'.symm.trans hcutoff₂
    rw [hfrom, hto, hwindow₂] at hwindow₁
    cases hwindow₁
    rw [DiscrepancyRequest.total_response, DiscrepancyRequest.total_response,
      DiscrepancyRequest.counts_response hc, DiscrepancyRequest.counts_response hc, hcondition,
      htypes]
    exact ⟨countFound_mono hcutoffs, counts_le hcutoffs⟩
  · have htransaction : ∀ item, Reports₁ item ∨ Reports₂ item → ∃ t ∈ db.transactions.rows,
        t.transaction_id = item.transaction_id ∧
          ∃ c, ∀ type ∈ item.discrepancy_types, Found c t type := by
      rintro item (hitem | hitem)
      · obtain ⟨t, ht, hid, hfound⟩ :=
          DiscrepancyRequest.exists_transaction_of_reports hc hcutoff₁ hl₁ hitem
        exact ⟨t, ht, hid, _, hfound⟩
      · obtain ⟨t, ht, hid, hfound⟩ :=
          DiscrepancyRequest.exists_transaction_of_reports hc hcutoff₂ hl₂ hitem
        exact ⟨t, ht, hid, _, hfound⟩
    obtain ⟨t, ht, htid, _, hfound⟩ := htransaction item hitem
    obtain ⟨t', ht', htid', _, hfound'⟩ := htransaction item' hitem'
    have heq : t = t' := Table.eq_of_key_eq ht ht' (by rw [htid, htid', hid])
    rintro ⟨hprocessed, hstuck⟩
    exact (hfound _ hprocessed).not_stuck_of_processed (heq ▸ hfound' _ hstuck)

/-- The report on a day, and one on a later day that is written with an offset. -/
theorem staleness_monotone_stuck :
    let request₁ : DiscrepancyRequest := { type := [.stuck_in_initiated], as_of := some "2026-01-10" }
    let request₂ : DiscrepancyRequest :=
      { type := [.stuck_in_initiated]
        as_of := some "2026-01-12T05:30:00+05:30"
        stale_after_hours := 24
        limit := 1 }
    let Reports₁ := request₁.allSeverities.Reports repricedAndStuck fourDaysLater
    let Reports₂ := request₂.allSeverities.Reports repricedAndStuck fourDaysLater
    (∀ item, Reports₁ item → ∃ item', Reports₂ item' ∧
        item'.transaction_id = item.transaction_id ∧
        item.discrepancy_types ⊆ item'.discrepancy_types ∧
        item.severity.rank ≤ item'.severity.rank) ∧
      ∀ item', Reports₂ item' → ∀ type ∈ item'.discrepancy_types, ¬ type.IsStale →
        ∃ item, Reports₁ item ∧ item.transaction_id = item'.transaction_id ∧
          type ∈ item.discrepancy_types := by
  intro request₁ request₂ Reports₁ Reports₂
  have h₁ : request₁.asOfInstant fourDaysLater = some 63903600000000000 := by decide +kernel
  have h₂ : request₂.asOfInstant fourDaysLater = some 63903772800000000 := by decide +kernel
  have hhours₁ : request₁.stale_after_hours = 48 := rfl
  have hhours₂ : request₂.stale_after_hours = 24 := rfl
  obtain ⟨hall, hother, _⟩ := @staleness_monotone _ reachable_repricedAndStuck request₁ request₂ rfl rfl
    rfl rfl (by decide) (by decide) _ _ _ _ h₁ h₂ (by rw [hhours₁, Utc.endMicros]; norm_num)
    (by rw [hhours₂, Utc.endMicros]; norm_num) (by rw [hhours₁, hhours₂]; norm_num)
  exact ⟨hall, hother⟩

end PaymentRecon
