import Mathlib.Algebra.BigOperators.Group.List.Basic
import Mathlib.Algebra.Ring.Nat
import Mathlib.Data.List.Nodup

/-!
# Tables with a primary key

A table of a relational store is a list of rows in insertion order, with a key that no two rows
share. `Table` carries that fact as a field, so a table with a repeated key cannot be built, and the
operations below keep it: `push` adds a row whose key is absent, `update` rewrites the row with a
given key without changing the key, and `upsert` does the one or the other.

`find?` reads a row back by its key. `find?_push`, `find?_update`, and `find?_upsert` say what it
finds after each operation; they are the rules that a proof about a table should use, and no proof
outside this file unfolds the operations.
-/

namespace Store

/-- A table: rows in insertion order, no two with the same key. -/
structure Table (κ ρ : Type) (key : ρ → κ) where
  /-- The rows, oldest first. -/
  rows : List ρ
  /-- The primary key is unique. -/
  nodup_keys : (rows.map key).Nodup

namespace Table

variable {κ ρ : Type} {key : ρ → κ}

/-- A table is determined by its rows. -/
@[ext]
theorem ext {s t : Table κ ρ key} (h : s.rows = t.rows) : s = t := by
  cases s
  cases t
  congr

/-- The table without rows. -/
def empty : Table κ ρ key := ⟨[], by simp⟩

/-- Two rows of a table with the same key are the same row. -/
theorem eq_of_key_eq {t : Table κ ρ key} {r r' : ρ} (hr : r ∈ t.rows) (hr' : r' ∈ t.rows)
    (h : key r = key r') : r = r' :=
  List.inj_on_of_nodup_map t.nodup_keys hr hr' h

/-- Values that stand for selected rows, each for one, carry no key twice. -/
theorem nodup_of_map_eq_filter (t : Table κ ρ key) {α : Type} {f : α → ρ} {l : List α}
    {p : ρ → Bool} (h : l.map f = t.rows.filter p) : (l.map fun a => key (f a)).Nodup := by
  have hmap : (l.map fun a => key (f a)) = (l.map f).map key := by
    rw [List.map_map]
    rfl
  rw [hmap, h]
  exact t.nodup_keys.sublist (List.filter_sublist.map _)

variable [DecidableEq κ]

/-- The row with the key `k`, if there is one. -/
def find? (t : Table κ ρ key) (k : κ) : Option ρ := t.rows.find? fun r => key r = k

/-- A row that a key finds is a row of the table. -/
theorem mem_of_find? {t : Table κ ρ key} {k : κ} {r : ρ} (h : t.find? k = some r) : r ∈ t.rows :=
  List.mem_of_find?_eq_some h

/-- A row that a key finds carries the key. -/
theorem key_of_find? {t : Table κ ρ key} {k : κ} {r : ρ} (h : t.find? k = some r) : key r = k := by
  simpa using List.find?_some h

/-- A key finds nothing exactly when no row carries it. -/
theorem find?_eq_none {t : Table κ ρ key} {k : κ} :
    t.find? k = none ↔ ∀ r ∈ t.rows, key r ≠ k := by
  simp [find?, List.find?_eq_none]

/-- A row of the table is found under its own key. -/
theorem find?_key {t : Table κ ρ key} {r : ρ} (h : r ∈ t.rows) : t.find? (key r) = some r := by
  cases hf : t.find? (key r) with
  | none => exact absurd rfl (find?_eq_none.1 hf r h)
  | some r' => rw [eq_of_key_eq (mem_of_find? hf) h (key_of_find? hf)]

/-- A key finds the row that carries it, and only that row. -/
theorem find?_eq_some {t : Table κ ρ key} {k : κ} {r : ρ} :
    t.find? k = some r ↔ r ∈ t.rows ∧ key r = k :=
  ⟨fun h => ⟨mem_of_find? h, key_of_find? h⟩, fun ⟨hr, hk⟩ => hk ▸ find?_key hr⟩

/-- The keys of the rows are those that find one. -/
theorem mem_keys_iff {t : Table κ ρ key} {k : κ} : k ∈ t.rows.map key ↔ t.find? k ≠ none := by
  rw [List.mem_map, Option.ne_none_iff_exists']
  exact exists_congr fun r => find?_eq_some.symm

/-- A key is carried by the row that it finds, once, or by none. -/
theorem filter_key (t : Table κ ρ key) (k : κ) :
    (t.rows.filter fun r => key r = k) = (t.find? k).toList := by
  obtain ⟨rows, hn⟩ := t
  simp only [find?]
  induction rows with
  | nil => rfl
  | cons r rows ih =>
    rw [List.map_cons, List.nodup_cons] at hn
    by_cases hk : key r = k
    · -- The first row carries the key, so no later one does.
      have hrest : (rows.filter fun r => key r = k) = [] := by
        rw [List.filter_eq_nil_iff]
        intro r' hr' hk'
        exact hn.1 (List.mem_map.2 ⟨r', hr', (of_decide_eq_true hk').trans hk.symm⟩)
      simp [hk, hrest]
    · simpa [hk] using ih hn.2

/-- Add a row at the end, under a key that no row carries. -/
def push (t : Table κ ρ key) (r : ρ) (h : t.find? (key r) = none) : Table κ ρ key where
  rows := t.rows ++ [r]
  nodup_keys := by
    rw [List.map_append, List.map_singleton, ← List.concat_eq_append, List.nodup_concat]
    refine ⟨fun hr => ?_, t.nodup_keys⟩
    obtain ⟨r', hr', hk⟩ := List.mem_map.1 hr
    -- A row with the new key would have been found.
    exact find?_eq_none.1 h r' hr' hk

/-- A new row comes last. -/
@[simp] theorem rows_push (t : Table κ ρ key) (r : ρ) (h : t.find? (key r) = none) :
    (t.push r h).rows = t.rows ++ [r] := rfl

/-- After `push`, the new key finds the new row and every other key finds what it found before. -/
theorem find?_push (t : Table κ ρ key) (r : ρ) (h : t.find? (key r) = none) (k : κ) :
    (t.push r h).find? k = if k = key r then some r else t.find? k := by
  have happ : (t.push r h).find? k = (t.find? k).or ([r].find? fun r => key r = k) := by
    simp only [find?, rows_push, List.find?_append]
  rw [happ]
  by_cases hk : k = key r
  · subst hk
    simp [h]
  · simp [hk, Ne.symm hk]

/-- Rewrite the row with the key `k`, if there is one. The key itself stays. -/
def update (t : Table κ ρ key) (k : κ) (f : ρ → ρ) (hf : ∀ r, key (f r) = key r) :
    Table κ ρ key where
  rows := t.rows.map fun r => if key r = k then f r else r
  nodup_keys := by
    have hkey : (key ∘ fun r => if key r = k then f r else r) = key := by
      funext r
      simp only [Function.comp]
      split_ifs
      · exact hf r
      · rfl
    rw [List.map_map, hkey]
    exact t.nodup_keys

/-- An update changes the rows with the key. -/
@[simp] theorem rows_update (t : Table κ ρ key) (k : κ) (f : ρ → ρ)
    (hf : ∀ r, key (f r) = key r) :
    (t.update k f hf).rows = t.rows.map fun r => if key r = k then f r else r := rfl

/-- After `update`, the key finds the rewritten row and every other key finds what it found
before. -/
theorem find?_update (t : Table κ ρ key) (k : κ) (f : ρ → ρ) (hf : ∀ r, key (f r) = key r)
    (k' : κ) :
    (t.update k f hf).find? k' = if k' = k then (t.find? k).map f else t.find? k' := by
  -- The search sees keys only, and these are as before.
  have hp : ((fun r => decide (key r = k')) ∘ fun r => if key r = k then f r else r) =
      fun r => decide (key r = k') := by
    funext r
    simp only [Function.comp]
    split_ifs
    · rw [hf]
    · rfl
  simp only [find?, rows_update, List.find?_map, hp]
  split_ifs with hk
  · subst hk
    cases hr : t.find? k' with
    | none => rw [find?] at hr; simp [hr]
    | some r =>
      have hkey := (find?_eq_some.1 hr).2
      rw [find?] at hr
      simp [hr, hkey]
  · cases hr : t.find? k' with
    | none => rw [find?] at hr; simp [hr]
    | some r =>
      have hkey := (find?_eq_some.1 hr).2
      rw [find?] at hr
      simp [hr, hkey, hk]

/-- Insert a row, or rewrite the row that already carries its key. -/
def upsert (t : Table κ ρ key) (r : ρ) (merge : ρ → ρ) (hm : ∀ x, key (merge x) = key x) :
    Table κ ρ key :=
  match h : t.find? (key r) with
  | none => t.push r h
  | some _ => t.update (key r) merge hm

/-- An upsert under an absent key adds the row at the end. -/
theorem upsert_of_none {t : Table κ ρ key} {r : ρ} (merge : ρ → ρ)
    (hm : ∀ x, key (merge x) = key x) (h : t.find? (key r) = none) :
    t.upsert r merge hm = t.push r h := by
  unfold upsert
  split
  · rfl
  · simp_all

/-- An upsert under a present key rewrites the row that carries it. -/
theorem upsert_of_some {t : Table κ ρ key} {r old : ρ} (merge : ρ → ρ)
    (hm : ∀ x, key (merge x) = key x) (h : t.find? (key r) = some old) :
    t.upsert r merge hm = t.update (key r) merge hm := by
  unfold upsert
  split
  · simp_all
  · rfl

/-- After `upsert`, the row's key finds the row or the merge of the row that was there, and every
other key finds what it found before. -/
theorem find?_upsert (t : Table κ ρ key) (r : ρ) (merge : ρ → ρ)
    (hm : ∀ x, key (merge x) = key x) (k : κ) :
    (t.upsert r merge hm).find? k =
      if k = key r then some ((t.find? (key r)).elim r merge) else t.find? k := by
  cases h : t.find? (key r) with
  | none => rw [upsert_of_none merge hm h, find?_push, Option.elim_none]
  | some old => rw [upsert_of_some merge hm h, find?_update, h, Option.map_some, Option.elim_some]

/-! ## Facts about all rows -/

/-- What holds of every row, and of a rewritten row, holds of every row after `update`. -/
theorem forall_update {t : Table κ ρ key} {k : κ} {f : ρ → ρ} (hf : ∀ r, key (f r) = key r)
    {P : ρ → Prop} (h : ∀ r ∈ t.rows, P r) (hP : ∀ r, P r → P (f r)) :
    ∀ r ∈ (t.update k f hf).rows, P r := by
  intro r hr
  rw [rows_update, List.mem_map] at hr
  obtain ⟨x, hx, rfl⟩ := hr
  split_ifs
  · exact hP x (h x hx)
  · exact h x hx

/-- What holds of every row, of the new row, and of a merged row, holds of every row after
`upsert`. -/
theorem forall_upsert {t : Table κ ρ key} {r : ρ} {merge : ρ → ρ}
    (hm : ∀ x, key (merge x) = key x) {P : ρ → Prop} (h : ∀ x ∈ t.rows, P x) (hr : P r)
    (hP : ∀ x, P x → P (merge x)) : ∀ x ∈ (t.upsert r merge hm).rows, P x := by
  cases hk : t.find? (key r) with
  | none =>
    intro x hx
    rw [upsert_of_none merge hm hk, rows_push, List.mem_append, List.mem_singleton] at hx
    rcases hx with hx | rfl
    · exact h x hx
    · exact hr
  | some old =>
    rw [upsert_of_some merge hm hk]
    exact forall_update hm h hP

/-- A key that is present stays present through `update`. -/
theorem find?_update_ne_none {t : Table κ ρ key} {k k' : κ} {f : ρ → ρ}
    (hf : ∀ r, key (f r) = key r) (h : t.find? k' ≠ none) : (t.update k f hf).find? k' ≠ none := by
  rw [find?_update]
  split_ifs with hk
  · subst hk
    simpa using h
  · exact h

/-- A key that is present stays present through `upsert`. -/
theorem find?_upsert_ne_none {t : Table κ ρ key} {r : ρ} {merge : ρ → ρ}
    (hm : ∀ x, key (merge x) = key x) {k : κ} (h : t.find? k ≠ none) :
    (t.upsert r merge hm).find? k ≠ none := by
  rw [find?_upsert]
  split_ifs
  · exact Option.some_ne_none _
  · exact h

/-- The key of the row of an `upsert` is present after it. -/
theorem find?_upsert_self_ne_none (t : Table κ ρ key) (r : ρ) (merge : ρ → ρ)
    (hm : ∀ x, key (merge x) = key x) : (t.upsert r merge hm).find? (key r) ≠ none := by
  rw [find?_upsert, if_pos rfl]
  exact Option.some_ne_none _

/-! ## Sums over a table -/

/-- A sum over a list in which one key occurs once, when the row with that key is rewritten. -/
theorem sum_map_rewrite {rows : List ρ} (hn : (rows.map key).Nodup) {k : κ} {r : ρ} (hr : r ∈ rows)
    (hk : key r = k) (f : ρ → ρ) (g : ρ → ℕ) :
    ((rows.map fun x => if key x = k then f x else x).map g).sum + g r =
      (rows.map g).sum + g (f r) := by
  induction rows with
  | nil => cases hr
  | cons x rows ih =>
    rw [List.map_cons, List.nodup_cons] at hn
    obtain ⟨hx, hn⟩ := hn
    rcases List.mem_cons.1 hr with rfl | hr
    · -- The rewritten row is the first one, and the others keep their values.
      have hrest : (rows.map fun x => if key x = k then f x else x) = rows := by
        refine (List.map_congr_left fun y hy => ?_).trans (List.map_id rows)
        refine if_neg fun hy' => hx ?_
        exact List.mem_map.2 ⟨y, hy, hy'.trans hk.symm⟩
      simp only [List.map_cons, hrest, List.sum_cons, if_pos hk]
      omega
    · -- The rewritten row is a later one, so the first one stays.
      have hne : key x ≠ k := fun h => hx (List.mem_map.2 ⟨r, hr, hk.trans h.symm⟩)
      have := ih hn hr
      simp only [List.map_cons, List.sum_cons, if_neg hne]
      omega

/-- A sum over a table, when the row under a key is rewritten. -/
theorem sum_update {t : Table κ ρ key} {k : κ} {r : ρ} (h : t.find? k = some r) {f : ρ → ρ}
    (hf : ∀ r, key (f r) = key r) (g : ρ → ℕ) :
    ((t.update k f hf).rows.map g).sum + g r = (t.rows.map g).sum + g (f r) :=
  sum_map_rewrite t.nodup_keys (mem_of_find? h) (key_of_find? h) f g

/-- A sum over a table, when an upsert adds a row that counts one or adds one to a row. -/
theorem sum_upsert {t : Table κ ρ key} {r : ρ} {merge : ρ → ρ} (hm : ∀ x, key (merge x) = key x)
    {g : ρ → ℕ} {n : ℕ} (hr : g r = n) (hg : ∀ x, g (merge x) = g x + n) :
    ((t.upsert r merge hm).rows.map g).sum = (t.rows.map g).sum + n := by
  cases h : t.find? (key r) with
  | none =>
    rw [upsert_of_none merge hm h, rows_push, List.map_append, List.sum_append, List.map_singleton,
      List.sum_singleton, hr]
  | some old =>
    have := sum_update h hm g
    rw [hg] at this
    rw [upsert_of_some merge hm h]
    omega

/-! ## Tables up to some columns

An idempotent function `f` on rows that keeps the key forgets some of the columns. Two tables are
alike up to `f` when their rows are, position by position, and the operations keep them so when what
they write does not depend on the columns that `f` forgets. -/

variable {f : ρ → ρ} {t t' : Table κ ρ key}

omit [DecidableEq κ] in
/-- Tables that are alike have the same keys. -/
theorem map_key_of_alike (hf : ∀ r, key (f r) = key r) (h : t.rows.map f = t'.rows.map f) :
    t.rows.map key = t'.rows.map key := by
  have hkey : key ∘ f = key := funext hf
  have := congrArg (List.map key) h
  rwa [List.map_map, List.map_map, hkey] at this

/-- A key is absent from both of two tables that are alike, or from neither. -/
theorem find?_eq_none_of_alike (hf : ∀ r, key (f r) = key r) (h : t.rows.map f = t'.rows.map f)
    (k : κ) : t.find? k = none ↔ t'.find? k = none := by
  have absent : ∀ u : Table κ ρ key, u.find? k = none ↔ k ∉ u.rows.map key := by
    intro u
    rw [find?_eq_none, List.mem_map]
    exact ⟨fun hn ⟨r, hr, hk⟩ => hn r hr hk, fun hn r hr hk => hn ⟨r, hr, hk⟩⟩
  rw [absent, absent, map_key_of_alike hf h]

/-- A rewrite of columns that `f` forgets leaves a table alike. -/
theorem alike_update {g : ρ → ρ} (hg : ∀ r, key (g r) = key r) (hfg : ∀ r, f (g r) = f r) (k : κ) :
    (t.update k g hg).rows.map f = t.rows.map f := by
  rw [rows_update, List.map_map]
  refine List.map_congr_left fun r _ => ?_
  simp only [Function.comp]
  split_ifs
  · exact hfg r
  · rfl

/-- An upsert that reads no column that `f` forgets keeps two tables alike. -/
theorem alike_upsert (hf : ∀ r, key (f r) = key r) (hi : ∀ r, f (f r) = f r)
    (h : t.rows.map f = t'.rows.map f) (r : ρ) {merge : ρ → ρ} (hm : ∀ x, key (merge x) = key x)
    (hfm : ∀ x, f (merge x) = f (merge (f x))) :
    (t.upsert r merge hm).rows.map f = (t'.upsert r merge hm).rows.map f := by
  cases hr : t.find? (key r) with
  | none =>
    rw [upsert_of_none merge hm hr, upsert_of_none merge hm ((find?_eq_none_of_alike hf h _).1 hr)]
    simp only [rows_push, List.map_append, h]
  | some old =>
    obtain ⟨old', hr'⟩ : ∃ old', t'.find? (key r) = some old' := by
      refine Option.ne_none_iff_exists'.1 fun hnone => ?_
      rw [(find?_eq_none_of_alike hf h _).2 hnone] at hr
      cases hr
    rw [upsert_of_some merge hm hr, upsert_of_some merge hm hr', rows_update, rows_update]
    -- The rewritten rows are a function of the rows that `f` leaves.
    have hcomp : f ∘ (fun x => if key x = key r then merge x else x) =
        (fun y => f (if key y = key r then merge y else y)) ∘ f := by
      funext x
      simp only [Function.comp, hf]
      split_ifs
      · exact hfm x
      · exact (hi x).symm
    rw [List.map_map, List.map_map, hcomp, ← List.map_map, h, List.map_map]

end Table

end Store
