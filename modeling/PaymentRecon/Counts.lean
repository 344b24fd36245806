import PaymentRecon.Severities

/-!
# The header of a discrepancy report

The total and the counts of a report are computed by statements of their own, over the flag columns of
all rows that have one of the selected flags, whereas the types of an item are shaped in Python from the
same columns through two tables. `headerAgrees_discrepancies` shows that the header says what the pages
show, because a flag is 0 or 1 in every reachable database: the sum of a flag counts the rows that have it
(`sum_flag`).
-/

namespace PaymentRecon

open Store Sql

/-- A header, with a total and the counts of some types, agrees with the items of the pages. -/
structure HeaderAgrees (types : List DiscrepancyType) (limit : ℕ) (pages : ℕ → List DiscrepancyItem)
    (total : ℕ) (counts : List (DiscrepancyType × ℕ)) : Prop where
  /-- Every item has a type, and only selected ones. -/
  item_types : ∀ offset < 2 ^ 63, ∀ item ∈ pages offset,
    item.discrepancy_types ≠ [] ∧ item.discrepancy_types ⊆ types
  /-- A type is counted once. -/
  nodup_keys : (counts.map Prod.fst).Nodup
  /-- The types that are counted are the selected ones. -/
  keys : ∀ type, type ∈ counts.map Prod.fst ↔ type ∈ types
  /-- The items of all pages are as many as the total says. -/
  total_items : ((offsets limit total).flatMap pages).length = total
  /-- A count is the number of the items of all pages that have the type. -/
  count_items : ∀ c ∈ counts, c.2 = (((offsets limit total).flatMap pages).filter fun item =>
    c.1 ∈ item.discrepancy_types).length
  /-- No count is greater than the total. -/
  count_le : ∀ c ∈ counts, c.2 ≤ total
  /-- The counts add up to the total at least. -/
  le_sum : total ≤ (counts.map Prod.snd).sum

/-- If every row has a property of a list, then the rows are at most as many as the rows with each property
put together. -/
theorem length_le_sum_countP {ρ τ : Type} {p : τ → ρ → Bool} {types : List τ} {rows : List ρ}
    (h : ∀ r ∈ rows, ∃ type ∈ types, p type r = true) :
    rows.length ≤ (types.map fun type => rows.countP (p type)).sum := by
  induction rows with
  | nil => exact Nat.zero_le _
  | cons r rows ih =>
    have hrest := ih fun r' hr' => h r' (List.mem_cons_of_mem _ hr')
    obtain ⟨type, htype, hp⟩ := h r List.mem_cons_self
    have hone : 1 ≤ (types.map fun type => if p type r = true then 1 else 0).sum := by
      refine List.single_le_sum (fun _ _ => Nat.zero_le _) _ (List.mem_map.2 ⟨type, htype, ?_⟩)
      rw [if_pos hp]
    simp only [List.countP_cons, List.sum_map_add, List.length_cons]
    omega

section

variable {db : Database} {filter : Condition} {types : List DiscrepancyType} {cutoff : String}

/-- The sum of a flag counts the rows that have it. -/
theorem sum_flag (hc : db.Checked) {rows : List FlaggedRow} (hrows : rows ⊆ flagged db filter cutoff)
    (type : DiscrepancyType) :
    (rows.map fun r => r.flag type).sum = rows.countP fun r => r.flag type = 1 := by
  refine sum_map_eq_countP fun r hr => ?_
  have hle := flag_le_one hc (hrows hr) type
  by_cases hone : r.flag type = 1
  · simp [hone]
  · have hzero : r.flag type = 0 := by omega
    simp [hzero]

variable {sort_by : DiscrepancySort} {sort_order : SortOrder}

/-- A row of a report has a selected flag. -/
theorem exists_flag {r : FlaggedRow}
    (hr : r ∈ reportRows db filter types cutoff sort_by sort_order) :
    ∃ type ∈ types, r.flag type = 1 := by
  simpa [FlaggedRow.selected] using (mem_reportRows.1 hr).2

/-- The item of a row lists the selected flags. -/
theorem mem_present_iff (hc : db.Checked) {r : FlaggedRow}
    (hr : r ∈ reportRows db filter types cutoff sort_by sort_order) (type : DiscrepancyType) :
    type ∈ r.present types ↔ r.flag type = 1 ∧ type ∈ types := by
  have hflagged := (mem_reportRows.1 hr).1
  rw [mem_present hc hflagged, flag_eq_one_of_mem hflagged]

/-- The keys of the counts. -/
def selectedKeys (types : List DiscrepancyType) : List DiscrepancyType :=
  (discrepancyFlags.map Prod.fst).filter fun type => type ∈ types

/-- Each selected type is a key once. -/
theorem nodup_selectedKeys (types : List DiscrepancyType) : (selectedKeys types).Nodup := by
  have hall : (discrepancyFlags.map Prod.fst).Nodup := by decide
  exact hall.filter _

/-- The keys are the selected types. -/
@[simp] theorem mem_selectedKeys {type : DiscrepancyType} :
    type ∈ selectedKeys types ↔ type ∈ types := by
  have hall : type ∈ discrepancyFlags.map Prod.fst := by cases type <;> decide
  simp [selectedKeys, hall]

/-- The counts of a report, type by type. -/
theorem countsOf_eq (hc : db.Checked) (limit offset : ℕ) :
    (discrepancies db filter types cutoff sort_by sort_order limit offset).countsOf types =
      (selectedKeys types).map fun type =>
        (type, (reportRows db filter types cutoff sort_by sort_order).countP
          fun r => r.flag type = 1) := by
  let rows := (flagged db filter cutoff).filter fun r => r.selected types
  have hsum : ∀ type, (rows.map fun r => r.flag type).sum =
      (reportRows db filter types cutoff sort_by sort_order).countP fun r => r.flag type = 1 := by
    intro type
    rw [sum_flag hc (List.filter_subset_self _), reportRows, (perm_orderBy _ _).countP_eq]
  simp only [DiscrepancyReport.countsOf, discrepancies, selectedKeys, rows, hsum, List.filter_map,
    List.map_map]
  rfl

/-- The items of all pages are the rows of the report, shaped. -/
theorem flatMap_items {limit : ℕ} (hl : 0 < limit) :
    let report := discrepancies db filter types cutoff sort_by sort_order limit
    ((offsets limit (report 0).total).flatMap fun offset => (report offset).items) =
      (reportRows db filter types cutoff sort_by sort_order).map (shapeDiscrepancyRow types) := by
  intro report
  simp only [report, discrepancies_items, discrepancies_total, map_page]
  rw [← List.length_map (shapeDiscrepancyRow types)]
  exact flatMap_page_offsets hl _

/-- The items with a selected type are those of the rows that have its flag. -/
theorem length_items_of_type (hc : db.Checked) {type : DiscrepancyType} (ht : type ∈ types) :
    let rows := reportRows db filter types cutoff sort_by sort_order
    ((rows.map (shapeDiscrepancyRow types)).filter fun item =>
      type ∈ item.discrepancy_types).length = rows.countP fun r => r.flag type = 1 := by
  intro rows
  rw [← List.countP_eq_length_filter, List.countP_map]
  refine List.countP_congr fun r hr => ?_
  have hpresent : type ∈ (shapeDiscrepancyRow types r).discrepancy_types ↔
      r.flag type = 1 ∧ type ∈ types := mem_present_iff hc hr type
  rw [Function.comp_apply, decide_eq_true_iff, decide_eq_true_iff, hpresent, and_iff_left ht]

/-- The total of a type that is selected alone counts the rows that have its flag. -/
theorem total_alone {type : DiscrepancyType} (ht : type ∈ types) (sort_by' : DiscrepancySort)
    (sort_order' : SortOrder) (limit offset : ℕ) :
    (discrepancies db filter [type] cutoff sort_by' sort_order' limit offset).total =
      (reportRows db filter types cutoff sort_by sort_order).countP fun r => r.flag type = 1 := by
  rw [reportRows, (perm_orderBy _ _).countP_eq, List.countP_filter]
  simp only [discrepancies, ← List.countP_eq_length_filter]
  refine List.countP_congr fun r _ => ?_
  simp only [FlaggedRow.selected, List.any_cons, List.any_nil, Bool.or_false, decide_eq_true_eq,
    Bool.and_eq_true, List.any_eq_true]
  exact ⟨fun h => ⟨h, type, ht, h⟩, fun h => h.1⟩

/-- The header of a report agrees with its pages. -/
theorem headerAgrees_discrepancies (hc : db.Checked) {limit : ℕ} (hl : 0 < limit) :
    let report := discrepancies db filter types cutoff sort_by sort_order limit
    HeaderAgrees types limit (fun offset => (report offset).items) (report 0).total
      ((report 0).countsOf types) := by
  intro report
  obtain ⟨rows, hrows⟩ :
    ∃ rows, reportRows db filter types cutoff sort_by sort_order = rows := ⟨_, rfl⟩
  have hitems : ((offsets limit (report 0).total).flatMap fun offset => (report offset).items) =
      rows.map (shapeDiscrepancyRow types) := hrows ▸ flatMap_items hl
  have htotal : (report 0).total = rows.length := hrows ▸ discrepancies_total limit 0
  have hcounts : (report 0).countsOf types = (selectedKeys types).map fun type =>
      (type, rows.countP fun r => r.flag type = 1) := hrows ▸ countsOf_eq hc limit 0
  have hcount : ∀ c ∈ (report 0).countsOf types, c.1 ∈ types ∧
      c.2 = rows.countP fun r => r.flag c.1 = 1 := by
    intro c hmem
    rw [hcounts, List.mem_map] at hmem
    obtain ⟨type, htype, rfl⟩ := hmem
    exact ⟨mem_selectedKeys.1 htype, rfl⟩
  have hkeys : ((report 0).countsOf types).map Prod.fst = selectedKeys types := by
    rw [hcounts, List.map_map]
    exact List.map_id _
  -- The items of all pages are the rows, so each clause is one about the rows.
  refine ⟨fun offset _ item hitem => ?_, ?_, ?_, ?_, ?_, ?_, ?_⟩
  · obtain ⟨r, hr, rfl⟩ := List.mem_map.1 hitem
    have hr' : r ∈ reportRows db filter types cutoff sort_by sort_order := mem_of_mem_page hr
    obtain ⟨type, htype, hflag⟩ := exists_flag hr'
    exact ⟨List.ne_nil_of_mem ((mem_present_iff hc hr' type).2 ⟨hflag, htype⟩),
      fun type' h => ((mem_present_iff hc hr' type').1 h).2⟩
  · rw [hkeys]
    exact nodup_selectedKeys types
  · intro type
    rw [hkeys, mem_selectedKeys]
  · rw [hitems, List.length_map, htotal]
  · intro c hmem
    obtain ⟨htype, hc2⟩ := hcount c hmem
    rw [hc2, hitems, ← hrows]
    exact (length_items_of_type hc htype).symm
  · intro c hmem
    rw [(hcount c hmem).2, htotal]
    exact List.countP_le_length
  · have hsum : ((report 0).countsOf types).map Prod.snd =
        (selectedKeys types).map fun type => rows.countP fun r => r.flag type = 1 := by
      rw [hcounts, List.map_map]
      rfl
    rw [htotal, hsum]
    -- Every row of the report has a selected type, and is counted under it.
    refine @length_le_sum_countP FlaggedRow _ (fun type r => r.flag type = 1) _ _ fun r hr => ?_
    obtain ⟨type, htype, hflag⟩ := exists_flag (hrows ▸ hr)
    exact ⟨type, mem_selectedKeys.2 htype, decide_eq_true hflag⟩

end

/-- The header of a report says what its pages show. For every reachable database, every filter, cutoff,
and selection of types, and every page size: every item has a type and only selected ones, the counts have
exactly the selected types as keys, each is the number of items of all pages with the type and the total
of a report on that type alone, and the total is between the greatest count and their sum. The total and
the counts are the same for every sort, page size and page, and the endpoint answers a request without a
severity with them. A page is at an offset that can be bound. -/
theorem header_counts {db : Database} (h : Reachable db) (filter : Condition)
    (types : List DiscrepancyType) (cutoff : String) (sort_by : DiscrepancySort)
    (sort_order : SortOrder) {limit : ℕ} (hl : 0 < limit) :
    let report := discrepancies db filter types cutoff sort_by sort_order limit
    let total := (report 0).total
    let counts := (report 0).countsOf types
    HeaderAgrees types limit (fun offset => (report offset).items) total counts ∧
      (∀ c ∈ counts, ∀ (sort_by' : DiscrepancySort) (sort_order' : SortOrder) (limit' : ℕ),
        ∀ offset' < 2 ^ 63,
          (discrepancies db filter [c.1] cutoff sort_by' sort_order' limit' offset').total = c.2) ∧
      (∀ (sort_by' : DiscrepancySort) (sort_order' : SortOrder) (limit' : ℕ), ∀ offset' < 2 ^ 63,
        let report' := discrepancies db filter types cutoff sort_by' sort_order' limit' offset'
        report'.total = total ∧ report'.countsOf types = counts) ∧
      ∀ (query : DiscrepancyQuery) (as_of cutoff' : Utc), query.severity = none →
        query.filter = filter → query.selectedTypes = types → formatTs cutoff' = cutoff →
        query.sort_by = sort_by → query.sort_order = sort_order → query.limit = limit →
        query.offset < 2 ^ 63 →
        let response := query.response db as_of cutoff'
        response.items = (report query.offset).items ∧ response.pagination.total = total ∧
          response.counts_by_type = counts := by
  intro report total counts
  have hcounts : counts = (selectedKeys types).map fun type =>
      (type, (reportRows db filter types cutoff sort_by sort_order).countP
        fun r => r.flag type = 1) := countsOf_eq h.checked limit 0
  -- Neither the sort nor the page enters the total and the counts.
  refine ⟨headerAgrees_discrepancies h.checked hl, ?_, fun _ _ _ _ _ => ⟨rfl, rfl⟩, ?_⟩
  · intro c hmem sort_by' sort_order' limit' offset' _
    rw [hcounts, List.mem_map] at hmem
    obtain ⟨type, htype, rfl⟩ := hmem
    exact total_alone (mem_selectedKeys.1 htype) sort_by' sort_order' limit' offset'
  · rintro query as_of cutoff' hs rfl rfl rfl rfl rfl rfl _
    simp only [DiscrepancyQuery.response, hs]
    exact ⟨rfl, rfl, rfl⟩

/-- The transaction that is repriced and the one that is stuck, one to a page. -/
theorem header_counts_stuck :
    let report := discrepancies repricedAndStuck (buildTransactionFilters {})
      [.amount_mismatch, .stuck_in_initiated] (formatTs twoDaysLater) .severity .desc 1
    HeaderAgrees [.amount_mismatch, .stuck_in_initiated] 1 (fun offset => (report offset).items) 2
      [(.amount_mismatch, 1), (.stuck_in_initiated, 1)] := by
  intro report
  have hagrees := (header_counts reachable_repricedAndStuck (buildTransactionFilters {})
    [.amount_mismatch, .stuck_in_initiated] (formatTs twoDaysLater) .severity .desc Nat.one_pos).1
  have htotal : (report 0).total = 2 := by decide +kernel
  have hcounts : (report 0).countsOf [.amount_mismatch, .stuck_in_initiated] =
      [(.amount_mismatch, 1), (.stuck_in_initiated, 1)] := by decide +kernel
  rwa [htotal, hcounts] at hagrees

end PaymentRecon
