import PaymentRecon.Numeric.Binary64
import PaymentRecon.Summary

/-!
# The buckets of the summary

Every metric of the summary is a sum over the transactions of a group, each with a condition of its
own: two of the amounts go by the generated column `status`, the third by raw tests for `NULL`. A
transaction meets exactly one of the three conditions (`amount_split`), so that the amounts add up to the
total over any list of transactions, and so do the four counts (`metrics_buckets`). `buckets_partition`
is the consequence for the totals and for every group of every page.
-/

namespace PaymentRecon

open Store Sql

/-- `settlement_rate`: a quotient of integers, which Python rounds to the nearest float, rounded to four
decimal places. -/
def Metrics.settlement_rate (m : Metrics) : ℚ :=
  if m.transaction_count = 0 then 0
  else Binary64.nearest (Binary64.toPlaces 4
    (Binary64.nearest (m.settled_count / m.transaction_count)))

/-- What the metrics of some transactions are made of. -/
structure Buckets (ts : List TransactionRow) (m : Metrics) : Prop where
  /-- The transactions are counted. -/
  transaction_count : m.transaction_count = ts.length
  /-- Every transaction is counted under one status. -/
  counts : m.initiated_count + m.processed_count + m.failed_count + m.settled_count =
    m.transaction_count
  /-- The amounts are added up. -/
  total_amount : m.total_amount_minor = (ts.map TransactionRow.amount_minor).sum
  /-- Every amount is in one bucket. -/
  amounts : m.settled_amount_minor + m.failed_amount_minor + m.unsettled_amount_minor =
    m.total_amount_minor
  /-- The failed amount is that of the transactions that failed, settled or not. -/
  failed_amount : m.failed_amount_minor =
    ((ts.filter fun t => t.failed_at ≠ none).map TransactionRow.amount_minor).sum
  /-- The settled amount is that of the transactions that settled and did not fail. -/
  settled_amount : m.settled_amount_minor =
    ((ts.filter fun t => t.settled_at ≠ none ∧ t.failed_at = none).map
      TransactionRow.amount_minor).sum
  /-- The unsettled amount is that of the transactions that did neither. -/
  unsettled_amount : m.unsettled_amount_minor =
    ((ts.filter fun t => t.settled_at = none ∧ t.failed_at = none).map
      TransactionRow.amount_minor).sum
  /-- The settled transactions are some of them. -/
  settled_count : m.settled_count ≤ m.transaction_count
  /-- The rate is a proportion. -/
  settlement_rate : 0 ≤ m.settlement_rate ∧ m.settlement_rate ≤ 1

/-- The rate is a proportion of the transactions. -/
theorem Metrics.settlement_rate_mem_unit {m : Metrics} (h : m.settled_count ≤ m.transaction_count) :
    0 ≤ m.settlement_rate ∧ m.settlement_rate ≤ 1 := by
  unfold settlement_rate
  split_ifs with hzero
  · norm_num
  · have hle : (m.settled_count : ℚ) ≤ m.transaction_count := by exact_mod_cast h
    have h0 : (0 : ℚ) ≤ m.settled_count / m.transaction_count := by positivity
    have h1 : (m.settled_count : ℚ) / m.transaction_count ≤ 1 :=
      div_le_one_of_le₀ hle (by positivity)
    obtain ⟨hlow, hhigh⟩ := Binary64.nearest_mem_unit h0 h1
    obtain ⟨hlow', hhigh'⟩ := Binary64.toPlaces_mem_unit 4 hlow hhigh
    exact Binary64.nearest_mem_unit hlow' hhigh'

/-- A sum over the rows that meet a condition. -/
theorem sum_map_ite {ρ M : Type} [AddCommMonoid M] (p : ρ → Prop) [DecidablePred p] (f : ρ → M)
    (rows : List ρ) :
    (rows.map fun r => if p r then f r else 0).sum = ((rows.filter fun r => p r).map f).sum := by
  rw [List.sum_map_ite, List.map_const', List.sum_replicate, nsmul_zero, add_zero]

section

variable (t : TransactionRow)

/-- The status is `failed` when there is a failure. -/
theorem status_eq_failed_iff : t.status = .failed ↔ t.failed_at ≠ none := by
  unfold TransactionRow.status
  cases t.failed_at <;> cases t.settled_at <;> cases t.processed_at <;> simp

/-- The status is `settled` when there is a settlement and no failure. -/
theorem status_eq_settled_iff : t.status = .settled ↔ t.settled_at ≠ none ∧ t.failed_at = none := by
  unfold TransactionRow.status
  cases t.failed_at <;> cases t.settled_at <;> cases t.processed_at <;> simp

/-- The raw tests for `NULL` of the third amount. -/
theorem holds_unsettled : ((isNull t.settled_at).and (isNull t.failed_at)).holds = true ↔
    t.settled_at = none ∧ t.failed_at = none := by
  simp

/-- A transaction is counted under one status. -/
theorem count_split : (if t.status = .initiated then 1 else 0) +
    (if t.status = .processed then 1 else 0) + (if t.status = .failed then 1 else 0) +
      (if t.status = .settled then 1 else 0) = 1 := by
  cases t.status <;> rfl

/-- An amount is in one bucket. -/
theorem amount_split : (if t.status = .settled then t.amount_minor else 0) +
    (if t.status = .failed then t.amount_minor else 0) +
      caseWhen ((isNull t.settled_at).and (isNull t.failed_at)) t.amount_minor 0 =
        t.amount_minor := by
  simp only [caseWhen, status_eq_settled_iff, status_eq_failed_iff, holds_unsettled]
  cases t.failed_at <;> cases t.settled_at <;> simp

end

/-- The metrics of some transactions are made of them. -/
theorem metrics_buckets (cutoff : String) (ts : List TransactionRow) :
    Buckets ts (metrics cutoff ts) := by
  have hcounts : (metrics cutoff ts).initiated_count + (metrics cutoff ts).processed_count +
      (metrics cutoff ts).failed_count + (metrics cutoff ts).settled_count =
        (metrics cutoff ts).transaction_count := by
    simp only [metrics, ← List.sum_map_add, count_split, List.map_const', List.sum_replicate_nat,
      mul_one]
  have hsettled : (metrics cutoff ts).settled_count ≤ (metrics cutoff ts).transaction_count := by
    omega
  refine ⟨rfl, hcounts, rfl, ?_, ?_, ?_, ?_, hsettled, Metrics.settlement_rate_mem_unit hsettled⟩
  · simp only [metrics, ← List.sum_map_add, amount_split]
  · simp only [metrics, sum_map_ite, status_eq_failed_iff]
  · simp only [metrics, sum_map_ite, status_eq_settled_iff]
  · simp only [metrics, caseWhen, holds_unsettled, sum_map_ite]

/-- The money buckets are a partition. For every reachable database, every filter, all dimensions, and
every page: the totals, over the filtered transactions, and each group, over the filtered transactions
with its combination of values, count every transaction under one status and every amount in one
bucket. What failed is in the failed amount, settled or not, and the settlement rate is between 0 and
1. -/
theorem buckets_partition {db : Database} (h : Reachable db) (filter : Condition)
    (group_by : List Dimension) (cutoff : String) (limit offset : ℕ) :
    let summary := reconciliationSummary db filter group_by cutoff limit offset
    Buckets (db.transactions.rows.filter filter.selects) summary.totals ∧
      ∀ g ∈ summary.groups,
        Buckets (groupTransactions db filter group_by (combination group_by g.key)) g.metrics := by
  intro summary
  constructor
  · rw [reconciliationSummary_totals]
    exact metrics_buckets cutoff _
  · intro g hg
    rw [h.projected.metrics_of_mem_groups cutoff limit hg]
    exact metrics_buckets cutoff _

/-- A settlement. -/
def settlementEvent : EventIn := { exampleEvent with event_type := .settled }

/-- A failure of the transaction that settled. -/
def failureEvent : EventIn :=
  { exampleEvent with
    event_id := "7"
    event_type := .payment_failed
    event_id_valid := by decide }

/-- The amount of a transaction that settled and failed is a failed one. -/
theorem buckets_partition_conflicted :
    let db := Database.empty.applyAll "" [settlementEvent, failureEvent]
    let summary := reconciliationSummary db (buildTransactionFilters {}) [.merchant]
      (formatTs twoDaysLater) 200 0
    summary.totals.failed_amount_minor =
      (((db.transactions.rows.filter (buildTransactionFilters {}).selects).filter
        fun t => t.failed_at ≠ none).map TransactionRow.amount_minor).sum :=
  (buckets_partition ⟨_, Run.empty.ingest "" [settlementEvent, failureEvent]⟩
    (buildTransactionFilters {}) [.merchant] (formatTs twoDaysLater) 200 0).1.failed_amount

end PaymentRecon
