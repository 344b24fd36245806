import Mathlib.Tactic.NormNum
import PaymentRecon.Numeric.Binary64

/-!
# Shortest decimals

The shortest decimal that is rounded to a number of the format binary64, and the nearest one to the number
among those: `shortest` looks for it among the decimals of 1 to 17 digits next to the number. A decimal of
at most 15 digits comes back when it is rounded to the format and written so (`value_shortest_nearest`):
two decimals of 15 digits are farther apart than the numbers that are rounded alike.
-/

namespace Binary64

/-- The unit of the last of `p` digits, at the size of a number. -/
def spacing (p : ℕ) (f : ℚ) : ℚ := 10 ^ (Int.log 10 f - p + 1)

/-- The decimals of `p` digits next to a number, in units of the last digit. The nearest one is the
first, the even one of two. -/
def neighbours (p : ℕ) (f : ℚ) : List ℤ :=
  [roundHalfEven (f / spacing p f), ⌊f / spacing p f⌋, ⌊f / spacing p f⌋ + 1]

/-- A decimal, with the exponent of its last digit, by the units of the last of `p` digits. -/
def decimal (p : ℕ) (f : ℚ) (c : ℤ) : ℕ × ℤ :=
  -- Rounding up to a power of ten.
  if c = 10 ^ p then (1, Int.log 10 f + 1) else (c.toNat, Int.log 10 f - p + 1)

/-- The decimal of `p` digits that is rounded to the number. -/
def readsBack (f : ℚ) (p : ℕ) : Option (ℕ × ℤ) :=
  ((neighbours p f).find? fun c : ℤ => nearest ((c : ℚ) * spacing p f) = f).map (decimal p f)

/-- The shortest decimal that is rounded to the number: 17 digits are enough for all. -/
def shortest (f : ℚ) : ℕ × ℤ :=
  ((List.range' 1 16).findSome? (readsBack f)).getD
    (decimal 17 f (roundHalfEven (f / spacing 17 f)))

/-- The number that a decimal stands for. -/
def value (d : ℕ × ℤ) : ℚ := d.1 * 10 ^ d.2

variable {p : ℕ} {f : ℚ} {c : ℤ}

/-- Neighbours are apart. -/
theorem spacing_pos (p : ℕ) (f : ℚ) : 0 < spacing p f := zpow_pos (by norm_num) _

/-- A decimal is its units. -/
theorem value_decimal (hc : 0 ≤ c) : value (decimal p f c) = c * spacing p f := by
  unfold decimal
  split_ifs with h
  · rw [value, spacing, h]
    push_cast
    rw [one_mul, ← zpow_natCast, ← zpow_add₀ (by norm_num)]
    congr 1
    ring
  · have hcast : ((c.toNat : ℤ) : ℚ) = c := by rw [Int.toNat_of_nonneg hc]
    rw [value, spacing, ← hcast]
    rfl

/-- A number is less than the next power of ten. -/
theorem div_spacing_lt (p : ℕ) (f : ℚ) : f / spacing p f < 10 ^ p := by
  have hhigh : f < (10 : ℚ) ^ (Int.log 10 f + 1) := by
    exact_mod_cast Int.lt_zpow_succ_log_self (b := 10) (by norm_num) f
  rw [div_lt_iff₀ (spacing_pos p f), spacing, ← zpow_natCast, ← zpow_add₀ (by norm_num)]
  refine hhigh.trans_eq (congrArg _ ?_)
  omega

/-- A positive number is at least the power of ten that it begins with. -/
theorem zpow_log_le (hf : 0 < f) : (10 : ℚ) ^ Int.log 10 f ≤ f := by
  exact_mod_cast Int.zpow_log_le_self (by norm_num) hf

/-- A positive number is one unit at least. -/
theorem one_le_div_spacing (hf : 0 < f) (hp : 1 ≤ p) : 1 ≤ f / spacing p f := by
  rw [le_div_iff₀ (spacing_pos p f), one_mul]
  exact (zpow_le_zpow_right₀ (by norm_num) (by omega)).trans (zpow_log_le hf)

/-- The neighbours of a number have at most `p` digits, up to the power of ten after them. -/
theorem mem_neighbours (hf : 0 < f) (hp : 1 ≤ p) (hc : c ∈ neighbours p f) : 0 < c ∧ c ≤ 10 ^ p := by
  have hlow := one_le_div_spacing hf hp
  have hhigh := div_spacing_lt p f
  have hfloor : 1 ≤ ⌊f / spacing p f⌋ := Int.le_floor.2 (by exact_mod_cast hlow)
  have hfloor' : ⌊f / spacing p f⌋ < 10 ^ p := Int.floor_lt.2 (by exact_mod_cast hhigh)
  have hround : 1 ≤ roundHalfEven (f / spacing p f) := le_roundHalfEven (by exact_mod_cast hlow)
  have hround' : roundHalfEven (f / spacing p f) ≤ 10 ^ p :=
    roundHalfEven_le (by exact_mod_cast hhigh.le)
  simp only [neighbours, List.mem_cons, List.not_mem_nil, or_false] at hc
  omega

/-- What is read back is a neighbour. -/
theorem readsBack_eq_some {d : ℕ × ℤ} (h : readsBack f p = some d) :
    ∃ c ∈ neighbours p f, nearest (c * spacing p f) = f ∧ d = decimal p f c := by
  obtain ⟨c, hc, rfl⟩ := Option.map_eq_some_iff.1 h
  have hback := List.find?_some hc
  exact ⟨c, List.mem_of_find?_eq_some hc, of_decide_eq_true hback, rfl⟩

/-- If a decimal of some digits is read back, then the shortest one has no more digits and is read back. -/
theorem exists_readsBack {k : ℕ} (hk : 1 ≤ k) (hk' : k ≤ 16) (h : (readsBack f k).isSome) :
    ∃ p, 1 ≤ p ∧ p ≤ k ∧ readsBack f p = some (shortest f) := by
  have hsome : ((List.range' 1 k).findSome? (readsBack f)).isSome := by
    rw [List.findSome?_isSome_iff]
    exact ⟨k, List.mem_range'_1.2 (by omega), h⟩
  obtain ⟨d, hd⟩ := Option.isSome_iff_exists.1 hsome
  have hrange : List.range' 1 16 = List.range' 1 k ++ List.range' (1 + k) (16 - k) := by
    rw [List.range'_append_1, Nat.add_sub_cancel' hk']
  have hshortest : shortest f = d := by
    rw [shortest, hrange, List.findSome?_append, hd]
    rfl
  obtain ⟨p, hp, hback⟩ := List.exists_of_findSome?_eq_some hd
  rw [List.mem_range'_1] at hp
  exact ⟨p, hp.1, by omega, hshortest ▸ hback⟩

/-! ## Fifteen digits -/

/-- The unit of fifteen digits is more than the number divided by their power of ten. -/
theorem div_lt_spacing (f : ℚ) : f / 10 ^ 15 < spacing 15 f := by
  have hlt := div_spacing_lt 15 f
  rwa [div_lt_iff₀ (spacing_pos 15 f), mul_comm, ← div_lt_iff₀ (by positivity)] at hlt

/-- Numbers that are rounded to a normal one are close to it. -/
theorem abs_sub_lt {z : ℚ} (hz : 0 < z) (h : nearest z = f) (hf : (2 : ℚ) ^ (-1022 : ℤ) ≤ f) :
    |f - z| < f / 10 ^ 15 / 2 := by
  have herror := abs_nearest_sub_le z
  rw [h] at herror
  rcases zpow_exponent_le hz with hsmall | hsubnormal
  · have hle : |f - z| ≤ z / 2 ^ 52 / 2 := herror.trans (div_le_div_of_nonneg_right hsmall two_pos.le)
    have hlow := (abs_le.1 hle).1
    -- The number itself is hardly greater than what it is rounded to.
    have hbound : z / 2 ^ 52 / 2 < f / 10 ^ 15 / 2 := by
      norm_num at hlow ⊢
      linarith
    exact hle.trans_lt hbound
  · have hunits : (2 : ℚ) ^ (-1022 : ℤ) = 2 ^ 52 * 2 ^ (-1074 : ℤ) := by
      rw [← zpow_natCast, ← zpow_add₀ two_ne_zero]
      norm_num
    have htiny : (0 : ℚ) < 2 ^ (-1074 : ℤ) := zpow_pos two_pos _
    rw [hunits] at hf
    rw [hsubnormal] at herror
    have hbound : (2 : ℚ) ^ (-1074 : ℤ) < f / 10 ^ 15 := by
      rw [lt_div_iff₀ (by positivity)]
      linarith
    exact herror.trans_lt (div_lt_div_of_pos_right hbound two_pos)

/-- A decimal of at most fifteen digits is a number of units of the last of fifteen digits at the size of
what it is rounded to. -/
theorem exists_units {n : ℕ} {e : ℤ} (hn : n < 10 ^ 15) (hx : (2 : ℚ) ^ (-1022 : ℤ) ≤ n * 10 ^ e)
    (h : nearest (n * 10 ^ e) = f) : ∃ m : ℤ, (n : ℚ) * 10 ^ e = m * spacing 15 f := by
  have hpos : (0 : ℚ) < n * 10 ^ e := (zpow_pos two_pos _).trans_le hx
  have hf : (2 : ℚ) ^ (-1022 : ℤ) ≤ f := h ▸ normal_nearest hx
  have hf0 : 0 < f := (zpow_pos two_pos _).trans_le hf
  rcases le_or_gt (Int.log 10 f - 14) e with hle | hgt
  · obtain ⟨k, hk⟩ := Int.le.dest hle
    refine ⟨n * 10 ^ k, ?_⟩
    rw [spacing, ← hk, zpow_add₀ (by norm_num), zpow_natCast]
    push_cast
    rw [show Int.log 10 f - 15 + 1 = Int.log 10 f - 14 by ring]
    ring
  · -- The decimal would lie below a power of ten and be rounded to it or past it.
    exfalso
    have hlow := zpow_log_le hf0
    have hclose := (abs_lt.1 (abs_sub_lt hpos h hf)).2
    have hn' : (n : ℚ) ≤ 10 ^ 15 - 1 := by
      have hcast : (n : ℚ) + 1 ≤ 10 ^ 15 := by exact_mod_cast hn
      linarith
    have hexp : (10 : ℚ) ^ e ≤ 10 ^ (Int.log 10 f - 15) :=
      zpow_le_zpow_right₀ (by norm_num) (by omega)
    have hpower : (10 : ℚ) ^ (Int.log 10 f - 15) * 10 ^ 15 = 10 ^ Int.log 10 f := by
      rw [← zpow_natCast, ← zpow_add₀ (by norm_num)]
      congr 1
      push_cast
      ring
    have hunit : (0 : ℚ) < 10 ^ e := zpow_pos (by norm_num) _
    have hle : (n : ℚ) * 10 ^ e ≤ (10 ^ 15 - 1) * 10 ^ (Int.log 10 f - 15) :=
      mul_le_mul hn' hexp hunit.le (by norm_num)
    linarith

/-- The decimals of fewer digits are among those of fifteen. -/
theorem spacing_eq (hp : p ≤ 15) : spacing p f = (10 ^ (15 - p) : ℕ) * spacing 15 f := by
  rw [spacing, spacing]
  push_cast
  rw [← zpow_natCast, ← zpow_add₀ (by norm_num)]
  congr 1
  omega

/-- The number of units that is close to a number is what the number is rounded to. -/
theorem roundHalfEven_div_eq {u : ℚ} {m : ℤ} (hu : 0 < u) (h : |f - m * u| < u / 2) :
    roundHalfEven (f / u) = m := by
  have hscale : f / u - m = (f - m * u) / u := by
    field_simp
  refine roundHalfEven_eq ?_
  rw [hscale, abs_div, abs_of_pos hu, div_lt_iff₀ hu]
  linarith

/-- A decimal of at most fifteen digits survives rounding to the format: it is the shortest one of the
number that it is rounded to. -/
theorem value_shortest_nearest {n : ℕ} {e : ℤ} (hn : n < 10 ^ 15)
    (hx : (2 : ℚ) ^ (-1022 : ℤ) ≤ n * 10 ^ e) : value (shortest (nearest (n * 10 ^ e))) = n * 10 ^ e := by
  generalize hfx : nearest ((n : ℚ) * 10 ^ e) = f
  have hpos : (0 : ℚ) < n * 10 ^ e := (zpow_pos two_pos _).trans_le hx
  have hf : (2 : ℚ) ^ (-1022 : ℤ) ≤ f := hfx ▸ normal_nearest hx
  have hf0 : 0 < f := (zpow_pos two_pos _).trans_le hf
  -- A number that is rounded to `f` is that of the units of fifteen digits at `f`.
  have hunits : ∀ m : ℤ, 0 < m * spacing 15 f → nearest (m * spacing 15 f) = f →
      roundHalfEven (f / spacing 15 f) = m := by
    intro m hm hnearest
    have hclose := (abs_sub_lt hm hnearest hf).trans
      (div_lt_div_of_pos_right (div_lt_spacing f) two_pos)
    exact roundHalfEven_div_eq (spacing_pos 15 f) hclose
  obtain ⟨m, hm⟩ := exists_units hn hx hfx
  rw [hm] at hfx hpos ⊢
  have hround := hunits m hpos hfx
  -- So it is found among the neighbours of fifteen digits, if not before.
  have hfifteen : (readsBack f 15).isSome := by
    rw [readsBack, Option.isSome_map, List.find?_isSome]
    refine ⟨m, ?_, decide_eq_true hfx⟩
    rw [neighbours, hround]
    exact List.mem_cons_self
  obtain ⟨p, hp, hp', hback⟩ := exists_readsBack (by norm_num) (by norm_num) hfifteen
  obtain ⟨c, hc, hnearest, hshortest⟩ := readsBack_eq_some hback
  have hc0 : 0 < c := (mem_neighbours hf0 hp hc).1
  have hvalue : (c : ℚ) * spacing p f = (c * (10 ^ (15 - p) : ℕ) : ℤ) * spacing 15 f := by
    rw [spacing_eq hp']
    push_cast
    ring
  have hcpos : (0 : ℚ) < c * spacing p f := mul_pos (by exact_mod_cast hc0) (spacing_pos p f)
  rw [hshortest, value_decimal hc0.le, hvalue]
  rw [hvalue] at hnearest hcpos
  rw [← hunits _ hcpos hnearest, hround]

/-! ## Seventeen digits -/

/-- A coefficient of seventeen digits at most. -/
theorem fst_decimal_lt (hp : p ≤ 17) (hc : c ≤ 10 ^ p) : (decimal p f c).1 < 10 ^ 17 := by
  unfold decimal
  split_ifs with h
  · norm_num
  · have hpow : (10 : ℤ) ^ p ≤ 10 ^ 17 := pow_le_pow_right₀ (by norm_num) hp
    show c.toNat < 10 ^ 17
    omega

/-- No more than seventeen digits are written. -/
theorem fst_shortest_lt (hf : 0 < f) : (shortest f).1 < 10 ^ 17 := by
  unfold shortest
  cases hd : (List.range' 1 16).findSome? (readsBack f) with
  | none => exact fst_decimal_lt le_rfl (mem_neighbours hf (by norm_num) List.mem_cons_self).2
  | some d =>
    obtain ⟨p, hp, hback⟩ := List.exists_of_findSome?_eq_some hd
    rw [List.mem_range'_1] at hp
    obtain ⟨c, hc, _, rfl⟩ := readsBack_eq_some hback
    exact fst_decimal_lt (by omega) (mem_neighbours hf hp.1 hc).2

/-- Zero is written with one digit. -/
theorem shortest_zero : shortest 0 = (0, 0) := by
  have hback : readsBack 0 1 = some (0, 0) := by
    simp [readsBack, neighbours, decimal, nearest, roundHalfEven]
  rw [shortest, List.range'_succ, List.findSome?_cons, hback]
  rfl

end Binary64
