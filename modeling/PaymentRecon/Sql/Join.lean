import Mathlib.Data.List.Dedup

/-!
# `LEFT JOIN`

A left join keeps every row of the left table (`exists_leftJoin`), and what it joins to the rows is what
matches them (`filterMap_leftJoin`). Rows of the left table can be selected before or after the join
(`leftJoin_filter`), and a join grouped by a key of the left table has a group for each of its rows
(`dedup_leftJoin_perm`).
-/

namespace Sql

variable {ρ σ : Type} (on : ρ → σ → Bool)

/-- The rows of the left table, each with every row of the right one that matches, or with `NULL` when none
does. -/
def leftJoin (left : List ρ) (right : List σ) : List (ρ × Option σ) :=
  left.flatMap fun r =>
    if (right.filter (on r)).isEmpty then [(r, none)]
    else (right.filter (on r)).map fun s => (r, some s)

variable {on} {left : List ρ} {right : List σ}

/-- A row of the join has a row of the left table. -/
theorem fst_mem_of_mem_leftJoin {p : ρ × Option σ} (h : p ∈ leftJoin on left right) : p.1 ∈ left := by
  obtain ⟨r, hr, hp⟩ := List.mem_flatMap.1 h
  split_ifs at hp
  · rw [List.mem_singleton] at hp
    exact hp ▸ hr
  · obtain ⟨s, _, rfl⟩ := List.mem_map.1 hp
    exact hr

/-- Every row of the left table is in the join. -/
theorem exists_leftJoin {r : ρ} (h : r ∈ left) : ∃ s, (r, s) ∈ leftJoin on left right := by
  unfold leftJoin
  by_cases hempty : (right.filter (on r)).isEmpty = true
  · exact ⟨none, List.mem_flatMap.2 ⟨r, h, by simp [hempty]⟩⟩
  · obtain ⟨s, hs⟩ := List.exists_mem_of_ne_nil _ (mt List.isEmpty_iff.2 hempty)
    refine ⟨some s, List.mem_flatMap.2 ⟨r, h, ?_⟩⟩
    rw [if_neg hempty]
    exact List.mem_map_of_mem hs

/-- The keys in the join are those of the left table. -/
theorem dedup_leftJoin_perm {κ : Type} [DecidableEq κ] {key : ρ → κ} (h : (left.map key).Nodup) :
    ((leftJoin on left right).map fun p => key p.1).dedup.Perm (left.map key) := by
  rw [List.perm_ext_iff_of_nodup (List.nodup_dedup _) h]
  intro k
  rw [List.mem_dedup, List.mem_map, List.mem_map]
  constructor
  · rintro ⟨p, hp, rfl⟩
    exact ⟨p.1, fst_mem_of_mem_leftJoin hp, rfl⟩
  · rintro ⟨r, hr, rfl⟩
    obtain ⟨s, hs⟩ := exists_leftJoin hr
    exact ⟨(r, s), hs, rfl⟩

/-- What is joined to the rows of the left table is what matches them. -/
theorem filterMap_leftJoin : (leftJoin on left right).filterMap Prod.snd =
    left.flatMap fun r => right.filter (on r) := by
  unfold leftJoin
  rw [List.filterMap_flatMap]
  refine List.flatMap_congr fun r _ => ?_
  split_ifs with hempty
  · rw [List.isEmpty_iff.1 hempty]
    rfl
  · rw [List.filterMap_map]
    exact List.filterMap_some

/-- A condition on the left table selects before the join or after it. -/
theorem leftJoin_filter (p : ρ → Bool) :
    (leftJoin on left right).filter (fun q => p q.1) = leftJoin on (left.filter p) right := by
  induction left with
  | nil => rfl
  | cons r left ih =>
    have hrow : ∀ rows : List ρ, leftJoin on (r :: rows) right =
        leftJoin on [r] right ++ leftJoin on rows right := by
      intro rows
      simp [leftJoin]
    have hfst : ∀ q ∈ leftJoin on [r] right, q.1 = r := fun q hq =>
      List.mem_singleton.1 (fst_mem_of_mem_leftJoin hq)
    rw [hrow left, List.filter_append, ih]
    by_cases hp : p r = true
    · rw [List.filter_cons_of_pos hp, hrow (left.filter p), List.filter_eq_self.2]
      intro q hq
      rw [hfst q hq, hp]
    · rw [List.filter_cons_of_neg hp, List.filter_eq_nil_iff.2, List.nil_append]
      intro q hq
      rwa [hfst q hq]

end Sql
