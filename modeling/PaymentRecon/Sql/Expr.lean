import Mathlib.Data.List.Basic
import Mathlib.Order.Lattice
import Mathlib.Order.MinMax

/-!
# SQL expressions over values that may be `NULL`

A value that may be `NULL` is an `Option`, and a condition is three-valued (`Tri`): true, false, or
unknown. `WHERE` and `CASE WHEN` take a condition only when it is true (`Tri.holds`), and the
lemmas on `holds` turn a condition into the propositions that its operands stand for.

`scalarMin` is the scalar function of two arguments, which is `NULL` as soon as one argument is.
`foldMin` is the idiom `MIN(COALESCE(a, b), COALESCE(b, a))`, which is the minimum of the arguments
that are there: `foldMin_min?` writes it as the minimum of a list with one more element.
-/

namespace Sql

/-- The truth values of SQL: true, false, and `none` for unknown. -/
abbrev Tri := Option Bool

namespace Tri

/-- Conjunction: false dominates, then unknown. -/
def and : Tri → Tri → Tri
  | some false, _ => some false
  | some true, y => y
  | none, some false => some false
  | none, _ => none

/-- Disjunction: true dominates, then unknown. -/
def or : Tri → Tri → Tri
  | some true, _ => some true
  | some false, y => y
  | none, some true => some true
  | none, _ => none

/-- The reading of `WHERE` and `CASE WHEN`: unknown counts as false. -/
def holds (x : Tri) : Bool := x == some true

/-- A condition with a truth value holds when it is true. -/
@[simp] theorem holds_some (b : Bool) : holds (some b) = b := by cases b <;> rfl

/-- A conjunction holds when both sides do. -/
@[simp] theorem holds_and (x y : Tri) : (x.and y).holds = (x.holds && y.holds) := by
  rcases x with _ | _ | _ <;> rcases y with _ | _ | _ <;> rfl

/-- A disjunction holds when one of the sides does. -/
@[simp] theorem holds_or (x y : Tri) : (x.or y).holds = (x.holds || y.holds) := by
  rcases x with _ | _ | _ <;> rcases y with _ | _ | _ <;> rfl

end Tri

variable {α : Type}

/-- `x IS NULL`. -/
def isNull (x : Option α) : Tri := some x.isNone

/-- `x IS NOT NULL`. -/
def isNotNull (x : Option α) : Tri := some x.isSome

/-- A comparison, unknown when either side is `NULL`. -/
def comparison (r : α → α → Prop) [DecidableRel r] (x y : Option α) : Tri :=
  match x, y with
  | some a, some b => some (decide (r a b))
  | _, _ => none

/-- `x < y`. -/
def lessThan [LT α] [DecidableLT α] (x y : Option α) : Tri := comparison (fun a b => a < b) x y

/-- `CASE WHEN c THEN a ELSE b END`. -/
def caseWhen {β : Type} (c : Tri) (a b : β) : β := if c.holds then a else b

/-- `IS NULL` holds of no value. -/
@[simp] theorem holds_isNull (x : Option α) : (isNull x).holds = x.isNone := by
  cases x <;> rfl

/-- `IS NOT NULL` holds of a value. -/
@[simp] theorem holds_isNotNull (x : Option α) : (isNotNull x).holds = x.isSome := by
  cases x <;> rfl

/-- `COALESCE(x, y)`. -/
def coalesce (x y : Option α) : Option α := x.or y

/-- `NULLIF(x, y)`. -/
def nullif [DecidableEq α] (x y : α) : Option α := if x = y then none else some x

variable [LinearOrder α]

/-- The scalar `MIN(x, y)`, `NULL` as soon as one argument is. -/
def scalarMin : Option α → Option α → Option α
  | some a, some b => some (min a b)
  | _, _ => none

/-- `MIN(COALESCE(x, y), COALESCE(y, x))`. -/
def foldMin (x y : Option α) : Option α := scalarMin (coalesce x y) (coalesce y x)

/-- `NULL` leaves a minimum as it is. -/
@[simp] theorem foldMin_none (x : Option α) : foldMin x none = x := by
  cases x <;> simp [foldMin, scalarMin, coalesce]

/-- The smallest element of a list with one more element. -/
theorem min?_append_singleton (l : List α) (a : α) :
    (l ++ [a]).min? = some (l.min?.elim a fun m => min m a) := by
  cases l with
  | nil => rfl
  | cons b l =>
    rw [List.cons_append, List.min?_cons', List.min?_cons', List.foldl_append]
    rfl

/-- The largest element of a list with one more element. -/
theorem max?_append_singleton (l : List α) (a : α) :
    (l ++ [a]).max? = some (l.max?.elim a fun m => max m a) := by
  cases l with
  | nil => rfl
  | cons b l =>
    rw [List.cons_append, List.max?_cons', List.max?_cons', List.foldl_append]
    rfl

/-- The idiom keeps the smallest element of a list that grows by one. -/
theorem foldMin_min? (l : List α) (a : α) : foldMin l.min? (some a) = (l ++ [a]).min? := by
  rw [min?_append_singleton]
  cases l.min? with
  | none => simp [foldMin, scalarMin, coalesce]
  | some m => simp [foldMin, scalarMin, coalesce]

/-- The smallest element does not depend on the order. -/
theorem min?_perm {l l' : List α} (h : l.Perm l') : l.min? = l'.min? := by
  apply Option.ext
  intro a
  rw [List.min?_eq_some_iff, List.min?_eq_some_iff]
  simp only [h.mem_iff]

/-- The largest element does not depend on the order. -/
theorem max?_perm {l l' : List α} (h : l.Perm l') : l.max? = l'.max? := by
  apply Option.ext
  intro a
  rw [List.max?_eq_some_iff, List.max?_eq_some_iff]
  simp only [h.mem_iff]

end Sql
