import Mathlib.Data.List.Sort
import Mathlib.Data.String.Basic
import Mathlib.Data.Sum.Order
import Mathlib.Order.Lattice
import Mathlib.Order.MinMax

/-!
# `ORDER BY`, `LIMIT`, and `OFFSET`

A `Value` is an integer or a text, the storage classes that the queries compare; integers come before
texts. `orderBy` sorts rows by a list of keys, each with a direction, with `NULL` last in either
direction, and `page` cuts a page out of a result. `mem_page` says that the pages at the multiples of
a positive limit show every row.
-/

namespace Sql

/-- A value of a storage class. -/
inductive Value
  /-- `INTEGER`. -/
  | int (n : ℤ)
  /-- `TEXT`. -/
  | text (s : String)
deriving DecidableEq, Repr

namespace Value

/-- Integers before texts. -/
def toLex : Value → ℤ ⊕ₗ String
  | int n => Sum.inlₗ n
  | text s => Sum.inrₗ s

/-- Values with one sort key are the same. -/
theorem toLex_injective : Function.Injective toLex := by
  rintro (n | s) (m | t) h <;> cases h <;> rfl

instance : LinearOrder Value := LinearOrder.lift' toLex toLex_injective

/-- Numbers are compared as numbers. -/
@[simp] theorem int_le_int {m n : ℤ} : int m ≤ int n ↔ m ≤ n := by
  show (Sum.inlₗ m : ℤ ⊕ₗ String) ≤ Sum.inlₗ n ↔ m ≤ n
  exact Sum.Lex.inl_le_inl_iff

/-- Texts are compared as texts. -/
@[simp] theorem text_le_text {s t : String} : text s ≤ text t ↔ s ≤ t := by
  show (Sum.inrₗ s : ℤ ⊕ₗ String) ≤ Sum.inrₗ t ↔ s ≤ t
  exact Sum.Lex.inr_le_inr_iff

/-- Whether a value can be bound to a parameter: an `INTEGER` has 64 bits. -/
def fits : Value → Bool
  | int n => -9223372036854775808 ≤ n ∧ n ≤ 9223372036854775807
  | text _ => true

end Value

variable {ρ : Type}

/-- A key of `ORDER BY`. -/
structure SortKey (ρ : Type) where
  /-- The expression. -/
  column : ρ → Option Value
  /-- `DESC` or `ASC`. -/
  desc : Bool

/-- The order of two rows by one key, `NULLS LAST`. -/
def SortKey.cmp (k : SortKey ρ) (a b : ρ) : Ordering :=
  match k.column a, k.column b with
  | none, none => .eq
  | none, some _ => .gt
  | some _, none => .lt
  | some x, some y =>
    if x = y then .eq else if (if k.desc then y < x else x < y) then .lt else .gt

/-- Whether a row may stand before another by a list of keys. -/
def le : List (SortKey ρ) → ρ → ρ → Bool
  | [], _, _ => true
  | k :: ks, a, b =>
    match k.cmp a b with
    | .lt => true
    | .gt => false
    | .eq => le ks a b

/-- `ORDER BY`. -/
def orderBy (keys : List (SortKey ρ)) (rows : List ρ) : List ρ :=
  rows.insertionSort fun a b => le keys a b = true

/-- `ORDER BY` keeps the rows. -/
@[simp] theorem mem_orderBy {keys : List (SortKey ρ)} {rows : List ρ} {r : ρ} :
    r ∈ orderBy keys rows ↔ r ∈ rows := List.mem_insertionSort _

/-- The order of two rows does not depend on columns that the keys do not read. -/
theorem le_map {keys : List (SortKey ρ)} {f : ρ → ρ}
    (hf : ∀ k ∈ keys, ∀ r, k.column (f r) = k.column r) (a b : ρ) :
    le keys (f a) (f b) = le keys a b := by
  induction keys with
  | nil => rfl
  | cons k ks ih =>
    have hk : k.cmp (f a) (f b) = k.cmp a b := by
      simp only [SortKey.cmp, hf k List.mem_cons_self]
    simp only [le, hk, ih fun k' hk' => hf k' (List.mem_cons_of_mem _ hk')]

/-- Sorting commutes with a function that keeps what the keys read. -/
theorem map_orderBy {keys : List (SortKey ρ)} {f : ρ → ρ}
    (hf : ∀ k ∈ keys, ∀ r, k.column (f r) = k.column r) (rows : List ρ) :
    (orderBy keys rows).map f = orderBy keys (rows.map f) :=
  List.map_insertionSort _ _ _ _ fun a _ b _ => by rw [le_map hf]

/-- `LIMIT limit OFFSET offset`. -/
def page (limit offset : ℕ) (rows : List ρ) : List ρ := (rows.drop offset).take limit

/-- A page of images is the image of a page. -/
theorem map_page {ρ' : Type} (f : ρ → ρ') (limit offset : ℕ) (rows : List ρ) :
    (page limit offset rows).map f = page limit offset (rows.map f) := by
  rw [page, page, List.map_take, List.map_drop]

/-- The rows of a page are rows of the result. -/
theorem mem_of_mem_page {limit offset : ℕ} {rows : List ρ} {r : ρ} (h : r ∈ page limit offset rows) :
    r ∈ rows :=
  List.mem_of_mem_drop (List.mem_of_mem_take h)

/-- Every row is on the page that its position falls in. -/
theorem mem_page {limit : ℕ} (hl : 0 < limit) {rows : List ρ} {r : ρ} :
    r ∈ rows ↔ ∃ k, r ∈ page limit (k * limit) rows := by
  refine ⟨fun h => ?_, fun ⟨k, hk⟩ => mem_of_mem_page hk⟩
  obtain ⟨i, hi, rfl⟩ := List.getElem_of_mem h
  refine ⟨i / limit, ?_⟩
  have hdiv : limit * (i / limit) + i % limit = i := Nat.div_add_mod i limit
  have hmod : i % limit < limit := Nat.mod_lt i hl
  have hcomm : i / limit * limit = limit * (i / limit) := Nat.mul_comm _ _
  rw [page, List.mem_iff_getElem]
  refine ⟨i % limit, ?_, ?_⟩
  · rw [List.length_take, List.length_drop]
    omega
  · rw [List.getElem_take, List.getElem_drop]
    congr 1
    omega

end Sql
