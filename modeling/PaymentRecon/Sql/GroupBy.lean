import Mathlib.Data.List.Dedup
import Mathlib.Data.List.Sort

/-!
# `GROUP BY`

The groups of a result are the rows with one key, for each key that occurs. `sortedKeys` are the keys
in order, each once, as `GROUP BY` and `ORDER BY` over the same expressions give them. The groups put
together are the rows (`flatMap_filter_perm`), so that an aggregate that adds up over parts adds up
over the groups (`sum_groups`).
-/

namespace Sql

variable {ρ κ : Type} [LinearOrder κ] [DecidableEq κ]

/-- The keys of the rows, in order, each once. -/
def sortedKeys (key : ρ → κ) (rows : List ρ) : List κ :=
  (rows.map key).dedup.insertionSort (· ≤ ·)

/-- The keys are those of the rows. -/
@[simp] theorem mem_sortedKeys {key : ρ → κ} {rows : List ρ} {k : κ} :
    k ∈ sortedKeys key rows ↔ ∃ r ∈ rows, key r = k := by
  simp [sortedKeys, List.mem_insertionSort]

/-- A key is there once. -/
theorem nodup_sortedKeys (key : ρ → κ) (rows : List ρ) : (sortedKeys key rows).Nodup :=
  (List.perm_insertionSort _ _).nodup_iff.2 (List.nodup_dedup _)

/-- There are as many keys as distinct values. -/
@[simp] theorem length_sortedKeys (key : ρ → κ) (rows : List ρ) :
    (sortedKeys key rows).length = (rows.map key).dedup.length :=
  (List.perm_insertionSort _ _).length_eq

/-- The keys increase strictly. -/
theorem pairwise_sortedKeys (key : ρ → κ) (rows : List ρ) :
    (sortedKeys key rows).Pairwise (· < ·) := by
  have hle : (sortedKeys key rows).Pairwise (· ≤ ·) := List.pairwise_insertionSort _ _
  exact (hle.and (nodup_sortedKeys key rows)).imp fun h => lt_of_le_of_ne h.1 h.2

omit [LinearOrder κ] in
/-- Every row is in the group of its key, and in no other. -/
theorem flatMap_filter_perm (key : ρ → κ) {keys : List κ} (hn : keys.Nodup)
    {rows : List ρ} (h : ∀ r ∈ rows, key r ∈ keys) :
    (keys.flatMap fun k => rows.filter fun r => key r = k).Perm rows := by
  induction keys generalizing rows with
  | nil =>
    cases rows with
    | nil => exact .refl _
    | cons r rows => cases h r List.mem_cons_self
  | cons k keys ih =>
    rw [List.nodup_cons] at hn
    -- The rows of the other groups are those whose key is not the first one.
    have hrest : (keys.flatMap fun k' => rows.filter fun r => key r = k') =
        keys.flatMap fun k' => (rows.filter fun r => !decide (key r = k)).filter
          fun r => key r = k' := by
      refine List.flatMap_congr fun k' hk' => ?_
      rw [List.filter_filter]
      refine List.filter_congr fun r _ => ?_
      have hne : k' ≠ k := fun heq => hn.1 (heq ▸ hk')
      by_cases hr : key r = k' <;> simp [hr, hne]
    have hkeys : ∀ r ∈ rows.filter (fun r => !decide (key r = k)), key r ∈ keys := by
      intro r hr
      rw [List.mem_filter] at hr
      exact (List.mem_cons.1 (h r hr.1)).resolve_left (by simpa using hr.2)
    rw [List.flatMap_cons, hrest]
    exact ((ih hn.2 hkeys).append_left _).trans (List.filter_append_perm _ _)

section

variable {M : Type} [Add M] [Zero M] {f : List ρ → M}

omit [LinearOrder κ] in
/-- An aggregate that adds up over parts, in any order, adds up over the groups of keys that include those
of all rows. -/
theorem sum_filter_keys (hnil : f [] = 0) (happend : ∀ a b, f (a ++ b) = f a + f b)
    (hperm : ∀ {a b}, a.Perm b → f a = f b) (key : ρ → κ) {keys : List κ} (hn : keys.Nodup)
    {rows : List ρ} (h : ∀ r ∈ rows, key r ∈ keys) :
    (keys.map fun k => f (rows.filter fun r => key r = k)).sum = f rows := by
  have hsum : ∀ parts : List (List ρ), (parts.map f).sum = f parts.flatten := by
    intro parts
    induction parts with
    | nil => exact hnil.symm
    | cons part parts ih => rw [List.map_cons, List.sum_cons, ih, List.flatten_cons, happend]
  have hmap : (keys.map fun k => f (rows.filter fun r => key r = k)) =
      (keys.map fun k => rows.filter fun r => key r = k).map f := by
    rw [List.map_map]
    rfl
  rw [hmap, hsum]
  refine hperm ?_
  rw [← List.flatMap_def]
  exact flatMap_filter_perm key hn h

/-- An aggregate that adds up over parts, in any order, adds up over the groups with some keys. -/
theorem sum_groups_filter (hnil : f [] = 0) (happend : ∀ a b, f (a ++ b) = f a + f b)
    (hperm : ∀ {a b}, a.Perm b → f a = f b) (key : ρ → κ) (rows : List ρ) (p : κ → Bool) :
    (((sortedKeys key rows).filter p).map fun k => f (rows.filter fun r => key r = k)).sum =
      f (rows.filter fun r => p (key r)) := by
  rw [← sum_filter_keys hnil happend hperm key ((nodup_sortedKeys key rows).filter p) fun r hr => by
    rw [List.mem_filter] at hr ⊢
    exact ⟨mem_sortedKeys.2 ⟨r, hr.1, rfl⟩, hr.2⟩]
  congr 1
  refine List.map_congr_left fun k hk => congrArg f ?_
  -- A group with one of these keys loses no row.
  rw [List.filter_filter]
  refine List.filter_congr fun r _ => ?_
  have hp := (List.mem_filter.1 hk).2
  by_cases heq : key r = k
  · simp [heq, hp]
  · simp [heq]

end

end Sql
