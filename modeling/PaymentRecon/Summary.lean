import PaymentRecon.Sql.GroupBy
import PaymentRecon.Sql.Paging
import PaymentRecon.Detection

/-!
# The groups of the summary

`reconciliation_summary` takes the totals, the number of groups, and the groups from three different
queries: the totals without a join, the other two with the merchants joined and their names among the
keys when the merchant is a dimension. `summary_partitions` shows that the three agree, whatever the
dimensions, the filter, and the paging. Two facts carry it: the join neither drops nor repeats a
transaction, and the name that comes with a merchant is a function of the merchant, so that it splits
no group.
-/

namespace PaymentRecon

open Store Sql

/-! ## Metrics add up -/

instance : Zero Metrics := ⟨⟨0, 0, 0, 0, 0, 0, 0, 0, 0, 0⟩⟩

instance : Add Metrics where
  add m m' :=
    { transaction_count := m.transaction_count + m'.transaction_count
      total_amount_minor := m.total_amount_minor + m'.total_amount_minor
      initiated_count := m.initiated_count + m'.initiated_count
      processed_count := m.processed_count + m'.processed_count
      failed_count := m.failed_count + m'.failed_count
      settled_count := m.settled_count + m'.settled_count
      settled_amount_minor := m.settled_amount_minor + m'.settled_amount_minor
      failed_amount_minor := m.failed_amount_minor + m'.failed_amount_minor
      unsettled_amount_minor := m.unsettled_amount_minor + m'.unsettled_amount_minor
      discrepancy_count := m.discrepancy_count + m'.discrepancy_count }

/-- Metrics add up over parts. -/
theorem metrics_append (cutoff : String) (ts ts' : List TransactionRow) :
    metrics cutoff (ts ++ ts') = metrics cutoff ts + metrics cutoff ts' := by
  simp only [metrics, List.length_append, List.map_append, List.sum_append]
  rfl

/-- Metrics do not depend on the order of the transactions. -/
theorem metrics_perm (cutoff : String) {ts ts' : List TransactionRow} (h : ts.Perm ts') :
    metrics cutoff ts = metrics cutoff ts' := by
  have hsum : ∀ f : TransactionRow → ℤ, (ts.map f).sum = (ts'.map f).sum :=
    fun f => (h.map f).sum_eq
  have hcount : ∀ f : TransactionRow → ℕ, (ts.map f).sum = (ts'.map f).sum :=
    fun f => (h.map f).sum_eq
  simp only [metrics, h.length_eq, hsum, hcount]

/-! ## Keys -/

/-- The value of a dimension, without the name that comes with a merchant. -/
def Dimension.value (t : TransactionRow) : Dimension → String
  | merchant => t.merchant_id
  | date => t.txn_date
  | status => t.status.value
  | currency => t.currency

/-- The values of the dimensions in the key of a group: what is left of it without the merchants'
names. -/
def combination : List Dimension → List String → List String
  | .merchant :: ds, id :: _ :: key => id :: combination ds key
  | .date :: ds, value :: key => value :: combination ds key
  | .status :: ds, value :: key => value :: combination ds key
  | .currency :: ds, value :: key => value :: combination ds key
  | _, _ => []

/-- The key of a row holds its values of the dimensions. -/
theorem combination_key (group_by : List Dimension) (r : TransactionRow × String) :
    combination group_by (group_by.flatMap (Dimension.key r)) =
      group_by.map (Dimension.value r.1) := by
  induction group_by with
  | nil => rfl
  | cons d ds ih =>
    rw [List.flatMap_cons, List.map_cons, ← ih]
    cases d <;> rfl

/-- Keys are in the order of their values, for rows that have the same name for the same merchant. -/
theorem key_lt_key_iff {r r' : TransactionRow × String}
    (h : r.1.merchant_id = r'.1.merchant_id → r.2 = r'.2) (group_by : List Dimension) :
    group_by.flatMap (Dimension.key r) < group_by.flatMap (Dimension.key r') ↔
      group_by.map (Dimension.value r.1) < group_by.map (Dimension.value r'.1) := by
  induction group_by with
  | nil => rfl
  | cons d ds ih =>
    cases d with
    | merchant =>
      simp only [List.flatMap_cons, Dimension.key, List.cons_append, List.nil_append,
        List.map_cons, Dimension.value, List.cons_lt_cons_iff, ih]
      -- The name that stands after the merchant's id does not matter, since the id decides it.
      constructor
      · rintro (hlt | ⟨heq, hlt | ⟨_, hlt⟩⟩)
        · exact .inl hlt
        · exact absurd (h heq) (ne_of_lt hlt)
        · exact .inr ⟨heq, hlt⟩
      · rintro (hlt | ⟨heq, hlt⟩)
        · exact .inl hlt
        · exact .inr ⟨heq, .inr ⟨h heq, hlt⟩⟩
    | _ =>
      simp only [List.flatMap_cons, Dimension.key, List.cons_append, List.nil_append,
        List.map_cons, Dimension.value, List.cons_lt_cons_iff, ih]

/-- The name in a joined row is that of the merchant's row. -/
theorem Database.name_of_mem_joined {db : Database} {r : TransactionRow × String}
    (h : r ∈ db.joined) :
    (db.merchants.find? r.1.merchant_id).map MerchantRow.merchant_name = some r.2 := by
  simp only [Database.joined, List.mem_filterMap, Option.map_eq_some_iff] at h
  obtain ⟨t, _, m, hm, rfl⟩ := h
  rw [hm, Option.map_some]

section

variable {db : Database} {filter : Condition} {group_by : List Dimension}

/-- The rows behind the groups have the same name for the same merchant. -/
theorem name_eq_of_mem_groupRows {r r' : TransactionRow × String}
    (hr : r ∈ groupRows db filter group_by) (hr' : r' ∈ groupRows db filter group_by)
    (h : r.1.merchant_id = r'.1.merchant_id) : r.2 = r'.2 := by
  unfold groupRows at hr hr'
  rw [List.mem_filter] at hr hr'
  split_ifs at hr hr' with hm
  · have hname := Database.name_of_mem_joined hr.1
    rw [h, Database.name_of_mem_joined hr'.1] at hname
    exact (Option.some.inj hname).symm
  · obtain ⟨_, _, rfl⟩ := List.mem_map.1 hr.1
    obtain ⟨_, _, rfl⟩ := List.mem_map.1 hr'.1
    rfl

/-- The rows behind the groups are the filtered transactions. -/
theorem Database.Projected.groupRows_map_fst (h : db.Projected) (filter : Condition)
    (group_by : List Dimension) :
    (groupRows db filter group_by).map Prod.fst = db.transactions.rows.filter filter.selects := by
  have hrows : (if .merchant ∈ group_by then db.joined
      else db.transactions.rows.map fun t => (t, "")).map Prod.fst = db.transactions.rows := by
    split_ifs
    · exact h.joined_map_fst
    · rw [List.map_map]
      exact List.map_id _
  conv_rhs => rw [← hrows]
  rw [groupRows, List.filter_map]
  rfl

/-- The group of a key. -/
def groupOf (db : Database) (filter : Condition) (group_by : List Dimension) (cutoff : String)
    (k : List String) : SummaryGroup :=
  ⟨k, metrics cutoff (((groupRows db filter group_by).filter fun r =>
    group_by.flatMap (Dimension.key r) = k).map Prod.fst)⟩

/-- The keys of the groups. -/
def groupKeys (db : Database) (filter : Condition) (group_by : List Dimension) :
    List (List String) :=
  sortedKeys (fun r => group_by.flatMap (Dimension.key r)) (groupRows db filter group_by)

/-- The filtered transactions of a combination of values. -/
def groupTransactions (db : Database) (filter : Condition) (group_by : List Dimension)
    (values : List String) : List TransactionRow :=
  (db.transactions.rows.filter filter.selects).filter fun t =>
    group_by.map (Dimension.value t) = values

/-- Rows behind the groups have the same key when they have the same values. -/
theorem key_eq_key_iff {r r' : TransactionRow × String} (hr : r ∈ groupRows db filter group_by)
    (hr' : r' ∈ groupRows db filter group_by) :
    group_by.flatMap (Dimension.key r) = group_by.flatMap (Dimension.key r') ↔
      group_by.map (Dimension.value r.1) = group_by.map (Dimension.value r'.1) := by
  have hlt := key_lt_key_iff (name_eq_of_mem_groupRows hr hr') group_by
  have hgt := key_lt_key_iff (name_eq_of_mem_groupRows hr' hr) group_by
  constructor
  · intro heq
    exact le_antisymm (not_lt.1 fun h => (hgt.2 h).ne heq.symm) (not_lt.1 fun h => (hlt.2 h).ne heq)
  · intro heq
    exact le_antisymm (not_lt.1 fun h => (hgt.1 h).ne heq.symm) (not_lt.1 fun h => (hlt.1 h).ne heq)

/-- The group of a key is made of the transactions with its combination of values. -/
theorem Database.Projected.groupOf_eq (h : db.Projected) {k : List String}
    (hk : k ∈ groupKeys db filter group_by) (cutoff : String) :
    groupOf db filter group_by cutoff k =
      ⟨k, metrics cutoff (groupTransactions db filter group_by (combination group_by k))⟩ := by
  obtain ⟨r₀, hr₀, rfl⟩ := mem_sortedKeys.1 hk
  have hfilter : ((groupRows db filter group_by).filter fun r =>
      group_by.flatMap (Dimension.key r) = group_by.flatMap (Dimension.key r₀)) =
        (groupRows db filter group_by).filter fun r =>
          group_by.map (Dimension.value r.1) = group_by.map (Dimension.value r₀.1) := by
    refine List.filter_congr fun r hr => ?_
    rw [decide_eq_decide, key_eq_key_iff hr hr₀]
  rw [groupOf, hfilter, groupTransactions, combination_key, ← h.groupRows_map_fst filter group_by,
    List.filter_map]
  rfl

variable (db filter) (cutoff : String) (limit : ℕ)

/-- The totals are the metrics of the filtered transactions. -/
theorem reconciliationSummary_totals (group_by : List Dimension) (offset : ℕ) :
    (reconciliationSummary db filter group_by cutoff limit offset).totals =
      metrics cutoff (db.transactions.rows.filter filter.selects) := by
  unfold reconciliationSummary
  dsimp only
  split_ifs <;> rfl

/-- What `reconciliation_summary` returns when there are dimensions. -/
theorem reconciliationSummary_of_ne_nil (hg : group_by ≠ []) (offset : ℕ) :
    reconciliationSummary db filter group_by cutoff limit offset =
      { totals := metrics cutoff (db.transactions.rows.filter filter.selects)
        groups := page limit offset
          ((groupKeys db filter group_by).map (groupOf db filter group_by cutoff))
        total_groups := (groupKeys db filter group_by).length } := by
  rw [groupKeys, length_sortedKeys]
  simp only [reconciliationSummary, hg, if_false]
  rfl

/-- The pages put together are the groups of all keys. -/
theorem flatMap_groups (hg : group_by ≠ []) (hl : 0 < limit) :
    ((offsets limit (reconciliationSummary db filter group_by cutoff limit 0).total_groups).flatMap
        fun offset => (reconciliationSummary db filter group_by cutoff limit offset).groups) =
      (groupKeys db filter group_by).map (groupOf db filter group_by cutoff) := by
  simp only [reconciliationSummary_of_ne_nil db filter cutoff limit hg]
  rw [← List.length_map (groupOf db filter group_by cutoff)]
  exact flatMap_page_offsets hl _

variable {db filter}

/-- A group on a page is made of the transactions with its combination of values. -/
theorem Database.Projected.metrics_of_mem_groups (h : db.Projected) {offset : ℕ} {g : SummaryGroup}
    (hg : g ∈ (reconciliationSummary db filter group_by cutoff limit offset).groups) :
    g.metrics = metrics cutoff (groupTransactions db filter group_by (combination group_by g.key)) := by
  have hne : group_by ≠ [] := by
    rintro rfl
    cases hg
  rw [reconciliationSummary_of_ne_nil db filter cutoff limit hne] at hg
  obtain ⟨k, hk, rfl⟩ := List.mem_map.1 ((page_sublist _ _ _).subset hg)
  rw [h.groupOf_eq hk]

/-- The metrics of the groups with some combinations of values are those of the transactions with one of
them. -/
theorem Database.Projected.sum_groupOf_filter (h : db.Projected) (p : List String → Bool) :
    (((groupKeys db filter group_by).filter fun k => p (combination group_by k)).map fun k =>
        (groupOf db filter group_by cutoff k).metrics).sum =
      metrics cutoff ((db.transactions.rows.filter filter.selects).filter fun t =>
        p (group_by.map (Dimension.value t))) := by
  let f (rows : List (TransactionRow × String)) : Metrics := metrics cutoff (rows.map Prod.fst)
  have happend : ∀ a b, f (a ++ b) = f a + f b := by
    intro a b
    simp only [f, List.map_append, metrics_append]
  have hperm : ∀ {a b}, a.Perm b → f a = f b := fun hab => metrics_perm cutoff (hab.map Prod.fst)
  have hsum := @sum_groups_filter _ _ _ _ _ _ _ f rfl happend hperm
    (fun r => group_by.flatMap (Dimension.key r)) (groupRows db filter group_by)
    fun k => p (combination group_by k)
  simp only [combination_key] at hsum
  rw [← h.groupRows_map_fst filter group_by, List.filter_map]
  exact hsum

/-- The metrics of the groups add up to the totals. -/
theorem Database.Projected.sum_groupOf (h : db.Projected) :
    ((groupKeys db filter group_by).map fun k => (groupOf db filter group_by cutoff k).metrics).sum =
      metrics cutoff (db.transactions.rows.filter filter.selects) := by
  have hsum := @Database.Projected.sum_groupOf_filter db filter group_by cutoff h fun _ => true
  simpa only [List.filter_true] using hsum

/-- A row behind the groups is that of a filtered transaction, and there is one for each. -/
theorem Database.Projected.exists_groupRow (h : db.Projected) (filter : Condition)
    (group_by : List Dimension) {t : TransactionRow} :
    (∃ r ∈ groupRows db filter group_by, r.1 = t) ↔
      t ∈ db.transactions.rows ∧ filter.selects t = true := by
  rw [← List.mem_filter, ← h.groupRows_map_fst filter group_by, List.mem_map]

/-- The combinations of values in the keys are those that occur in the filtered transactions. -/
theorem Database.Projected.mem_combinations (h : db.Projected) {k : List String} :
    k ∈ (groupKeys db filter group_by).map (combination group_by) ↔
      ∃ t ∈ db.transactions.rows, filter.selects t = true ∧
        group_by.map (Dimension.value t) = k := by
  simp only [List.mem_map, groupKeys, mem_sortedKeys]
  constructor
  · rintro ⟨_, ⟨r, hr, rfl⟩, rfl⟩
    obtain ⟨ht, hsel⟩ := (h.exists_groupRow filter group_by).1 ⟨r, hr, rfl⟩
    exact ⟨r.1, ht, hsel, (combination_key group_by r).symm⟩
  · rintro ⟨t, ht, hsel, rfl⟩
    obtain ⟨r, hr, rfl⟩ := (h.exists_groupRow filter group_by).2 ⟨ht, hsel⟩
    exact ⟨_, ⟨r, hr, rfl⟩, combination_key group_by r⟩

/-- The combinations increase strictly, as the keys do. -/
theorem pairwise_combinations :
    ((groupKeys db filter group_by).map (combination group_by)).Pairwise (· < ·) := by
  rw [List.pairwise_map]
  refine (pairwise_sortedKeys _ _).imp_of_mem fun hk hk' hlt => ?_
  obtain ⟨r, hr, rfl⟩ := mem_sortedKeys.1 hk
  obtain ⟨r', hr', rfl⟩ := mem_sortedKeys.1 hk'
  rw [combination_key, combination_key]
  exact (key_lt_key_iff (name_eq_of_mem_groupRows hr hr') group_by).1 hlt

/-- The groups of the summary partition the filtered transactions. For every reachable database, every
filter, every cutoff, all dimensions but none, and every page size: the totals and the number of
groups are the same on every page, and the groups of all pages, put together, have strictly increasing
keys and strictly increasing combinations of the values of the dimensions, which are the combinations
that occur in the filtered transactions; they are as many as the number of groups says, and their
metrics add up to the totals. -/
theorem summary_partitions (h : Reachable db) (filter : Condition) (cutoff : String)
    (hg : group_by ≠ []) (hl : 0 < limit) :
    let summary := reconciliationSummary db filter group_by cutoff limit
    let groups := (offsets limit (summary 0).total_groups).flatMap fun offset =>
      (summary offset).groups
    (∀ offset < 2 ^ 63, (summary offset).totals = (summary 0).totals ∧
        (summary offset).total_groups = (summary 0).total_groups) ∧
      (groups.map SummaryGroup.key).Pairwise (· < ·) ∧
      (groups.map fun g => combination group_by g.key).Pairwise (· < ·) ∧
      (∀ k, k ∈ (groups.map fun g => combination group_by g.key) ↔
        ∃ t ∈ db.transactions.rows, filter.selects t = true ∧
          group_by.map (Dimension.value t) = k) ∧
      groups.length = (summary 0).total_groups ∧
      (groups.map SummaryGroup.metrics).sum = (summary 0).totals := by
  have hp := h.projected
  intro summary groups
  have hgroups : groups = (groupKeys db filter group_by).map (groupOf db filter group_by cutoff) :=
    flatMap_groups db filter cutoff limit hg hl
  have hkeys : groups.map SummaryGroup.key = groupKeys db filter group_by := by
    rw [hgroups, List.map_map]
    exact List.map_id _
  have hcomb : (groups.map fun g => combination group_by g.key) =
      (groupKeys db filter group_by).map (combination group_by) := by
    rw [← hkeys, List.map_map]
    rfl
  -- Totals and keys do not depend on the page, and the groups of all pages are one for each key.
  have hsummary := fun offset => reconciliationSummary_of_ne_nil db filter cutoff limit hg offset
  refine ⟨fun offset _ => ?_, ?_, ?_, fun k => ?_, ?_, ?_⟩
  · simp only [summary, hsummary, and_self]
  · rw [hkeys]
    exact pairwise_sortedKeys _ _
  · rw [hcomb]
    exact pairwise_combinations
  · rw [hcomb]
    exact hp.mem_combinations
  · simp only [summary, hsummary, hgroups, List.length_map]
  · simp only [summary, hsummary, hgroups, List.map_map]
    exact hp.sum_groupOf cutoff

end

/-- A transaction with two amounts, and one that is settled. -/
def repricedAndSettled : Database :=
  Database.empty.applyAll "" [exampleEvent, repricedEvent, sampleEvent "12" "j" .settled]

/-- The groups by merchant and status of a database with two transactions, one to a page. -/
theorem summary_partitions_by_merchant :
    (((offsets 1 (reconciliationSummary repricedAndSettled (buildTransactionFilters {})
        [.merchant, .status] (formatTs twoDaysLater) 1 0).total_groups).flatMap fun offset =>
          (reconciliationSummary repricedAndSettled (buildTransactionFilters {}) [.merchant, .status]
            (formatTs twoDaysLater) 1 offset).groups).map SummaryGroup.metrics).sum =
      (reconciliationSummary repricedAndSettled (buildTransactionFilters {}) [.merchant, .status]
        (formatTs twoDaysLater) 1 0).totals :=
  (summary_partitions 1
    ⟨_, Run.empty.ingest "" [exampleEvent, repricedEvent, sampleEvent "12" "j" .settled]⟩
    (buildTransactionFilters {}) (formatTs twoDaysLater) (by decide) (by decide)).2.2.2.2.2

end PaymentRecon
