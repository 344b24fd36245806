import PaymentRecon.Sql.Expr
import PaymentRecon.Sql.OrderBy
import PaymentRecon.Schema

/-!
# Transaction filters

`build_transaction_filters` of `app/queries.py`. It returns the text of a `WHERE` condition and the
values of its parameters. The text is a conjunction, which the model keeps as the list of its clauses
(`1=1` when it is empty), each naming a column and the parameters that it compares with; the parameters
are a dictionary from names to values, as in the source. `selects` evaluates the one under the other
on a row.
-/

namespace PaymentRecon

open Sql

/-- The text of a status. -/
def TransactionStatus.value : TransactionStatus → String
  | initiated => "initiated"
  | processed => "processed"
  | failed => "failed"
  | settled => "settled"

/-- The text of a payment status. -/
def PaymentStatus.value : PaymentStatus → String
  | initiated => "initiated"
  | processed => "processed"
  | failed => "failed"
  | conflicted => "conflicted"

/-- The text of a settlement status. -/
def SettlementStatus.value : SettlementStatus → String
  | pending => "pending"
  | settled => "settled"

/-- The columns of `transactions` that a filter compares. -/
inductive Column
  | merchant_id
  | status
  | payment_status
  | settlement_status
  | currency
  | first_event_at
  | last_event_at
  | initiated_at
  | settled_at
  | amount_minor
  | duplicate_event_count
deriving DecidableEq, Repr

/-- The value of a column. -/
def Column.read (t : TransactionRow) : Column → Option Value
  | merchant_id => some (.text t.merchant_id)
  | status => some (.text t.status.value)
  | payment_status => some (.text t.payment_status.value)
  | settlement_status => some (.text t.settlement_status.value)
  | currency => some (.text t.currency)
  | first_event_at => some (.text t.first_event_at)
  | last_event_at => some (.text t.last_event_at)
  | initiated_at => t.initiated_at.map .text
  | settled_at => t.settled_at.map .text
  | amount_minor => some (.int t.amount_minor)
  | duplicate_event_count => some (.int t.duplicate_event_count)

/-- The parameters of a query: a dictionary. -/
abbrev Bindings := List (String × Value)

/-- `params[key] = value`. -/
def Bindings.set (params : Bindings) (key : String) (value : Value) : Bindings :=
  params.filter (fun p => p.1 ≠ key) ++ [(key, value)]

/-- A clause of a condition. -/
inductive Clause
  /-- `column IN (:name, ...)`. -/
  | isIn (column : Column) (names : List String)
  /-- `column = :name`. -/
  | eq (column : Column) (name : String)
  /-- `column >= :name`. -/
  | ge (column : Column) (name : String)
  /-- `column <= :name`. -/
  | le (column : Column) (name : String)
  /-- `column > 0`. -/
  | positive (column : Column)
  /-- `column = 0`. -/
  | zero (column : Column)
deriving DecidableEq, Repr

/-- The truth value of a clause on a row. -/
def Clause.eval (params : Bindings) (t : TransactionRow) : Clause → Tri
  | isIn c names =>
    names.foldr (fun n acc => (comparison (· = ·) (c.read t) (params.lookup n)).or acc) (some false)
  | eq c n => comparison (· = ·) (c.read t) (params.lookup n)
  | ge c n => comparison (· ≥ ·) (c.read t) (params.lookup n)
  | le c n => comparison (· ≤ ·) (c.read t) (params.lookup n)
  | positive c => comparison (· > ·) (c.read t) (some (.int 0))
  | zero c => comparison (· = ·) (c.read t) (some (.int 0))

/-- The column of a clause. -/
def Clause.column : Clause → Column
  | isIn c _ => c
  | eq c _ => c
  | ge c _ => c
  | le c _ => c
  | positive c => c
  | zero c => c

/-- A clause reads its column only. -/
theorem Clause.eval_congr {clause : Clause} {t t' : TransactionRow}
    (h : clause.column.read t = clause.column.read t') (params : Bindings) :
    clause.eval params t = clause.eval params t' := by
  cases clause <;> simp only [column] at h <;> simp only [eval, h]

/-- A condition with its parameters. -/
structure Condition where
  /-- The clauses, joined by `AND`. -/
  clauses : List Clause
  /-- The parameters. -/
  params : Bindings
deriving DecidableEq, Repr

/-- Whether `WHERE` lets a row through. -/
def Condition.selects (c : Condition) (t : TransactionRow) : Bool :=
  Tri.holds (c.clauses.foldr (fun clause acc => (clause.eval c.params t).and acc) (some true))

/-- The columns that a date range may apply to. -/
inductive DateField
  | first_event_at
  | last_event_at
  | initiated_at
  | settled_at
deriving DecidableEq, Repr

/-- `DATE_FIELDS`. -/
def DateField.column : DateField → Column
  | first_event_at => .first_event_at
  | last_event_at => .last_event_at
  | initiated_at => .initiated_at
  | settled_at => .settled_at

/-- The arguments of `build_transaction_filters`. -/
structure TransactionFilter where
  /-- The merchants. -/
  merchant_id : Option (List String) := none
  /-- The statuses. -/
  status : Option (List String) := none
  /-- The payment statuses. -/
  payment_status : Option (List String) := none
  /-- The settlement statuses. -/
  settlement_status : Option (List String) := none
  /-- The currency. -/
  currency : Option String := none
  /-- The inclusive start of the date range. -/
  date_from : Option String := none
  /-- The inclusive end of the date range. -/
  date_to : Option String := none
  /-- The column of the date range. -/
  date_field : DateField := .first_event_at
  /-- The least amount. -/
  min_amount_minor : Option ℤ := none
  /-- The greatest amount. -/
  max_amount_minor : Option ℤ := none
  /-- With or without replays. -/
  has_duplicates : Option Bool := none

/-- `_in_clause`, added to a condition when the list of values is given and not empty. -/
def Condition.inClause (c : Condition) (column : Column) (values : Option (List String))
    (pre : String) : Condition :=
  match values with
  | none | some [] => c
  | some values =>
    { clauses := c.clauses ++ [.isIn column (values.zipIdx.map fun v => pre ++ toString v.2)]
      params := values.zipIdx.foldl (fun ps v => ps.set (pre ++ toString v.2) (.text v.1)) c.params }

/-- A clause on one text parameter, added when the value is given and not empty. -/
def Condition.textClause (c : Condition) (clause : String → Clause) (name : String)
    (value : Option String) : Condition :=
  match value with
  | none | some "" => c
  | some value => ⟨c.clauses ++ [clause name], c.params.set name (.text value)⟩

/-- A clause on one integer parameter, added when the value is not `None`. -/
def Condition.intClause (c : Condition) (clause : String → Clause) (name : String)
    (value : Option ℤ) : Condition :=
  match value with
  | none => c
  | some value => ⟨c.clauses ++ [clause name], c.params.set name (.int value)⟩

/-- `build_transaction_filters`. -/
def buildTransactionFilters (f : TransactionFilter) : Condition :=
  let c : Condition := ⟨[], []⟩
  let c := c.inClause .merchant_id f.merchant_id "merchant_"
  let c := c.inClause .status f.status "status_"
  let c := c.inClause .payment_status f.payment_status "pstatus_"
  let c := c.inClause .settlement_status f.settlement_status "sstatus_"
  let c := c.textClause (.eq .currency) "currency" f.currency
  let c := c.textClause (.ge f.date_field.column) "date_from" f.date_from
  let c := c.textClause (.le f.date_field.column) "date_to" f.date_to
  let c := c.intClause (.ge .amount_minor) "min_amount" f.min_amount_minor
  let c := c.intClause (.le .amount_minor) "max_amount" f.max_amount_minor
  match f.has_duplicates with
  | some true => { c with clauses := c.clauses ++ [.positive .duplicate_event_count] }
  | some false => { c with clauses := c.clauses ++ [.zero .duplicate_event_count] }
  | none => c

namespace Condition

variable {c : Condition} {P : Clause → Prop}

/-- What holds of the clauses so far and of the new one holds of all. -/
theorem forall_inClause (h : ∀ clause ∈ c.clauses, P clause) {column : Column}
    (hn : ∀ names, P (.isIn column names)) (values : Option (List String)) (pre : String) :
    ∀ clause ∈ (c.inClause column values pre).clauses, P clause := by
  unfold inClause
  split
  · exact h
  · exact h
  · exact List.forall_mem_append.2 ⟨h, List.forall_mem_singleton.2 (hn _)⟩

/-- What holds of all clauses and of the one for a text holds when the argument is added. -/
theorem forall_textClause (h : ∀ clause ∈ c.clauses, P clause) {clause : String → Clause}
    {name : String} (hn : P (clause name)) (value : Option String) :
    ∀ clause' ∈ (c.textClause clause name value).clauses, P clause' := by
  unfold textClause
  split
  · exact h
  · exact h
  · exact List.forall_mem_append.2 ⟨h, List.forall_mem_singleton.2 hn⟩

/-- What holds of all clauses and of the one for a number holds when the argument is added. -/
theorem forall_intClause (h : ∀ clause ∈ c.clauses, P clause) {clause : String → Clause}
    {name : String} (hn : P (clause name)) (value : Option ℤ) :
    ∀ clause' ∈ (c.intClause clause name value).clauses, P clause' := by
  unfold intClause
  split
  · exact h
  · exact List.forall_mem_append.2 ⟨h, List.forall_mem_singleton.2 hn⟩

end Condition

/-- A filter that does not ask for replays does not read their count. -/
theorem column_ne_duplicates {f : TransactionFilter} (hf : f.has_duplicates = none) :
    ∀ clause ∈ (buildTransactionFilters f).clauses, clause.column ≠ .duplicate_event_count := by
  have hdate : f.date_field.column ≠ .duplicate_event_count := by
    cases f.date_field <;> decide
  simp only [buildTransactionFilters, hf]
  refine Condition.forall_intClause ?_ (by simp [Clause.column]) _
  refine Condition.forall_intClause ?_ (by simp [Clause.column]) _
  refine Condition.forall_textClause ?_ hdate _
  refine Condition.forall_textClause ?_ hdate _
  refine Condition.forall_textClause ?_ (by simp [Clause.column]) _
  refine Condition.forall_inClause ?_ (by simp [Clause.column]) _ _
  refine Condition.forall_inClause ?_ (by simp [Clause.column]) _ _
  refine Condition.forall_inClause ?_ (by simp [Clause.column]) _ _
  refine Condition.forall_inClause ?_ (by simp [Clause.column]) _ _
  exact fun _ h => nomatch h

example : buildTransactionFilters { merchant_id := some ["m", "n"], min_amount_minor := some 5 } =
    ⟨[.isIn .merchant_id ["merchant_0", "merchant_1"], .ge .amount_minor "min_amount"],
      [("merchant_0", .text "m"), ("merchant_1", .text "n"), ("min_amount", .int 5)]⟩ := by decide

end PaymentRecon
