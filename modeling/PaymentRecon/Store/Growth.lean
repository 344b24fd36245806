import Mathlib.Algebra.Order.BigOperators.Group.List
import PaymentRecon.Store.Table

/-!
# Sums over growing tables

A table grows when every row keeps a row with its key. A sum over the rows does not get less then, if no
row weighs less than before and the new rows weigh something (`Table.sum_le_sum`).
-/

namespace Store

namespace Table

variable {κ ρ M : Type} {key : ρ → κ} [DecidableEq κ] [AddCommMonoid M] {t t' : Table κ ρ key}

/-- A sum over rows is a sum over their keys. -/
theorem sum_keys (t : Table κ ρ key) (w : ρ → M) :
    ((t.rows.map key).map fun k => (t.find? k).elim 0 w).sum = (t.rows.map w).sum := by
  rw [List.map_map]
  refine congrArg List.sum (List.map_congr_left fun r hr => ?_)
  rw [Function.comp_apply, find?_key hr, Option.elim_some]

/-- A sum does not get less when the rows keep their keys and weigh no less, and none weighs less than
nothing. -/
theorem sum_le_sum [PartialOrder M] [IsOrderedAddMonoid M] {w w' : ρ → M}
    (hgrows : ∀ r ∈ t.rows, ∃ r' ∈ t'.rows, key r' = key r ∧ w r ≤ w' r')
    (hpos : ∀ r' ∈ t'.rows, 0 ≤ w' r') : (t.rows.map w).sum ≤ (t'.rows.map w').sum := by
  let weight (k : κ) : M := (t'.find? k).elim 0 w'
  have hrow : (t.rows.map w).sum ≤ ((t.rows.map key).map weight).sum := by
    rw [List.map_map]
    refine List.sum_le_sum fun r hr => ?_
    obtain ⟨r', hr', hkey, hle⟩ := hgrows r hr
    show w r ≤ (t'.find? (key r)).elim 0 w'
    rw [← hkey, find?_key hr', Option.elim_some]
    exact hle
  have hkeys : t.rows.map key ⊆ t'.rows.map key := by
    intro k hk
    obtain ⟨r, hr, rfl⟩ := List.mem_map.1 hk
    obtain ⟨r', hr', hkey, -⟩ := hgrows r hr
    exact List.mem_map.2 ⟨r', hr', hkey⟩
  -- The keys of the smaller table are among those of the greater one, each once.
  obtain ⟨keys, hperm, hsub⟩ := List.subperm_of_subset t.nodup_keys hkeys
  have hweight : ∀ x ∈ (t'.rows.map key).map weight, 0 ≤ x := by
    intro x hx
    obtain ⟨k, hk, rfl⟩ := List.mem_map.1 hx
    obtain ⟨r', hr', rfl⟩ := List.mem_map.1 hk
    show 0 ≤ (t'.find? (key r')).elim 0 w'
    rw [find?_key hr', Option.elim_some]
    exact hpos r' hr'
  calc (t.rows.map w).sum ≤ ((t.rows.map key).map weight).sum := hrow
    _ = (keys.map weight).sum := ((hperm.map weight).sum_eq).symm
    _ ≤ ((t'.rows.map key).map weight).sum := (hsub.map weight).sum_le_sum hweight
    _ = (t'.rows.map w').sum := t'.sum_keys w'

end Table

end Store
