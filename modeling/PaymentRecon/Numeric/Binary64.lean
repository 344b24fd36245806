import Mathlib.Algebra.Order.Floor.Ring
import Mathlib.Data.Int.Log
import Mathlib.Data.Rat.Floor
import Mathlib.Tactic.Linarith
import Mathlib.Tactic.Positivity

/-!
# Rounding to binary64

Rounding half to even, on rationals: to an integer (`roundHalfEven`), to decimal places (`toPlaces`),
and to the numbers of the format binary64 (`nearest`). A rounding does not pass a number of its target:
integers for the first one (`le_roundHalfEven`, `roundHalfEven_le`), and 0 and 1 for the other two
(`nearest_mem_unit`, `toPlaces_mem_unit`). It moves a number by at most half a unit of its last digit
(`abs_roundHalfEven_sub_le`, `abs_nearest_sub_le`).
-/

namespace Binary64

/-- The nearest integer, ties to the even one. -/
def roundHalfEven (q : ℚ) : ℤ :=
  if Int.fract q < 1 / 2 ∨ (Int.fract q = 1 / 2 ∧ ⌊q⌋ % 2 = 0) then ⌊q⌋ else ⌊q⌋ + 1

/-- The nearest number with the given decimal places, ties to the even one. -/
def toPlaces (places : ℕ) (q : ℚ) : ℚ := roundHalfEven (q * 10 ^ places) / 10 ^ places

/-- The exponent of the last of the 53 binary digits of a positive number, which is not below that of the
subnormal numbers. -/
def exponent (q : ℚ) : ℤ := max (Int.log 2 q - 52) (-1074)

/-- The nearest number of the format, ties to the even one, for a number that is not negative and does not
overflow. -/
def nearest (q : ℚ) : ℚ := roundHalfEven (q / 2 ^ exponent q) * 2 ^ exponent q

variable {q : ℚ} {a : ℤ}

/-- Rounding does not pass an integer from above. -/
theorem le_roundHalfEven (h : (a : ℚ) ≤ q) : a ≤ roundHalfEven q := by
  have hfloor : a ≤ ⌊q⌋ := Int.le_floor.2 h
  unfold roundHalfEven
  split_ifs
  · exact hfloor
  · omega

/-- Rounding does not pass an integer from below. -/
theorem roundHalfEven_le (h : q ≤ a) : roundHalfEven q ≤ a := by
  have hfloor : ⌊q⌋ ≤ a := Int.floor_le_iff.2 (by linarith)
  unfold roundHalfEven
  split_ifs with hr
  · exact hfloor
  · -- The number is rounded up, so it is not the integer itself.
    have hne : ⌊q⌋ ≠ a := by
      rintro heq
      have hfract := Int.floor_add_fract q
      have hnonneg := Int.fract_nonneg q
      rw [heq] at hfract
      exact hr (.inl (by linarith))
    omega

/-- Rounding to decimal places keeps the unit interval. -/
theorem toPlaces_mem_unit (places : ℕ) (h0 : 0 ≤ q) (h1 : q ≤ 1) :
    0 ≤ toPlaces places q ∧ toPlaces places q ≤ 1 := by
  have hpos : (0 : ℚ) < 10 ^ places := by positivity
  have hlow : (0 : ℤ) ≤ roundHalfEven (q * 10 ^ places) :=
    le_roundHalfEven (by push_cast; positivity)
  have hhigh : roundHalfEven (q * 10 ^ places) ≤ (10 ^ places : ℕ) :=
    roundHalfEven_le (by push_cast; exact mul_le_of_le_one_left hpos.le h1)
  have hlow' : (0 : ℚ) ≤ roundHalfEven (q * 10 ^ places) := by exact_mod_cast hlow
  have hhigh' : (roundHalfEven (q * 10 ^ places) : ℚ) ≤ 10 ^ places := by exact_mod_cast hhigh
  exact ⟨div_nonneg hlow' hpos.le, div_le_one_of_le₀ hhigh' hpos.le⟩

/-- The last digit of a number up to 1 is a fraction. -/
theorem exponent_nonpos (h1 : q ≤ 1) : exponent q ≤ 0 := by
  have hlog : Int.log 2 q ≤ 0 := by
    rcases le_or_gt q 0 with hq | hq
    · rw [Int.log_of_right_le_zero 2 hq]
    · have hmono : Int.log 2 q ≤ Int.log 2 (1 : ℚ) := Int.log_mono_right hq h1
      rwa [Int.log_one_right] at hmono
  exact max_le (by omega) (by norm_num)

/-- A number that is not negative is not rounded below zero. -/
theorem nearest_nonneg (h : 0 ≤ q) : 0 ≤ nearest q := by
  have hpos : (0 : ℚ) < 2 ^ exponent q := zpow_pos two_pos _
  have hround : 0 ≤ roundHalfEven (q / 2 ^ exponent q) :=
    le_roundHalfEven (by exact_mod_cast div_nonneg h hpos.le)
  exact mul_nonneg (by exact_mod_cast hround) hpos.le

/-- Rounding to the format keeps the unit interval. -/
theorem nearest_mem_unit (h0 : 0 ≤ q) (h1 : q ≤ 1) : 0 ≤ nearest q ∧ nearest q ≤ 1 := by
  obtain ⟨k, hk⟩ := Int.exists_eq_neg_ofNat (exponent_nonpos h1)
  have hpos : (0 : ℚ) < 2 ^ exponent q := zpow_pos (by norm_num) _
  have hinv : (2 : ℚ) ^ exponent q * 2 ^ k = 1 := by
    rw [hk, zpow_neg, zpow_natCast]
    exact inv_mul_cancel₀ (pow_ne_zero k two_ne_zero)
  -- 1 is a whole number of units of the last digit.
  have hhigh : roundHalfEven (q / 2 ^ exponent q) ≤ (2 ^ k : ℕ) := by
    refine roundHalfEven_le ?_
    rw [div_le_iff₀ hpos]
    push_cast
    linarith
  have hhigh' : (roundHalfEven (q / 2 ^ exponent q) : ℚ) ≤ 2 ^ k := by exact_mod_cast hhigh
  refine ⟨nearest_nonneg h0, ?_⟩
  calc nearest q ≤ 2 ^ k * 2 ^ exponent q := mul_le_mul_of_nonneg_right hhigh' hpos.le
    _ = 1 := by rw [mul_comm, hinv]

/-! ## Errors -/

/-- Rounding to an integer moves a number by one half at most. -/
theorem abs_roundHalfEven_sub_le (q : ℚ) : |(roundHalfEven q : ℚ) - q| ≤ 1 / 2 := by
  have hfract := Int.floor_add_fract q
  have hnonneg := Int.fract_nonneg q
  have hlt := Int.fract_lt_one q
  rw [abs_le]
  unfold roundHalfEven
  split_ifs with hr
  · have hhalf : Int.fract q ≤ 1 / 2 := by
      rcases hr with hr | ⟨hr, _⟩
      · exact hr.le
      · exact hr.le
    constructor <;> linarith
  · have hhalf : 1 / 2 ≤ Int.fract q := not_lt.1 fun h => hr (.inl h)
    push_cast
    constructor <;> linarith

/-- A number is rounded to the only integer within one half of it. -/
theorem roundHalfEven_eq (h : |q - a| < 1 / 2) : roundHalfEven q = a := by
  have herror := abs_le.1 (abs_roundHalfEven_sub_le q)
  have hdist := abs_lt.1 h
  have hlow : ((a - 1 : ℤ) : ℚ) < roundHalfEven q := by
    push_cast
    linarith
  have hhigh : (roundHalfEven q : ℚ) < (a + 1 : ℤ) := by
    push_cast
    linarith
  have hlow' : a - 1 < roundHalfEven q := by exact_mod_cast hlow
  have hhigh' : roundHalfEven q < a + 1 := by exact_mod_cast hhigh
  omega

/-- Rounding to the format moves a number by half a unit of its last digit at most. -/
theorem abs_nearest_sub_le (q : ℚ) : |nearest q - q| ≤ 2 ^ exponent q / 2 := by
  have hpos : (0 : ℚ) < 2 ^ exponent q := zpow_pos (by norm_num) _
  have herror := abs_roundHalfEven_sub_le (q / 2 ^ exponent q)
  have hscale : nearest q - q =
      (roundHalfEven (q / 2 ^ exponent q) - q / 2 ^ exponent q) * 2 ^ exponent q := by
    rw [nearest, sub_mul, div_mul_cancel₀ _ hpos.ne']
  rw [hscale, abs_mul, abs_of_pos hpos]
  calc _ ≤ 1 / 2 * 2 ^ exponent q := mul_le_mul_of_nonneg_right herror hpos.le
    _ = 2 ^ exponent q / 2 := by ring

/-- A unit of the last digit is small next to the number, or it is that of the subnormal numbers. -/
theorem zpow_exponent_le (hq : 0 < q) :
    (2 : ℚ) ^ exponent q ≤ q / 2 ^ 52 ∨ (2 : ℚ) ^ exponent q = 2 ^ (-1074 : ℤ) := by
  rcases le_total (-1074) (Int.log 2 q - 52) with h | h
  · left
    have hlog : (2 : ℚ) ^ Int.log 2 q ≤ q := by exact_mod_cast Int.zpow_log_le_self one_lt_two hq
    rw [exponent, max_eq_left h, zpow_sub₀ two_ne_zero]
    exact div_le_div_of_nonneg_right hlog (by positivity)
  · right
    rw [exponent, max_eq_right h]

/-- A normal number is rounded to a normal number. -/
theorem normal_nearest (h : (2 : ℚ) ^ (-1022 : ℤ) ≤ q) : (2 : ℚ) ^ (-1022 : ℤ) ≤ nearest q := by
  have hq : 0 < q := (zpow_pos two_pos _).trans_le h
  have hlog : (2 : ℚ) ^ Int.log 2 q ≤ q := by exact_mod_cast Int.zpow_log_le_self one_lt_two hq
  have hnormal : -1022 ≤ Int.log 2 q := by
    rw [← Int.zpow_le_iff_le_log one_lt_two hq]
    exact_mod_cast h
  have hexponent : exponent q = Int.log 2 q - 52 := max_eq_left (by omega)
  have hpos : (0 : ℚ) < 2 ^ exponent q := zpow_pos two_pos _
  have hunits : (2 : ℚ) ^ Int.log 2 q = 2 ^ 52 * 2 ^ exponent q := by
    rw [hexponent, ← zpow_natCast, ← zpow_add₀ two_ne_zero]
    congr 1
    push_cast
    ring
  have hround : ((2 ^ 52 : ℕ) : ℤ) ≤ roundHalfEven (q / 2 ^ exponent q) := by
    refine le_roundHalfEven ?_
    have hcast : (((2 ^ 52 : ℕ) : ℤ) : ℚ) = 2 ^ 52 := by norm_num
    rwa [le_div_iff₀ hpos, hcast, ← hunits]
  have hround' : (2 : ℚ) ^ 52 ≤ roundHalfEven (q / 2 ^ exponent q) := by exact_mod_cast hround
  calc (2 : ℚ) ^ (-1022 : ℤ) ≤ 2 ^ Int.log 2 q := zpow_le_zpow_right₀ one_le_two hnormal
    _ = 2 ^ 52 * 2 ^ exponent q := hunits
    _ ≤ nearest q := mul_le_mul_of_nonneg_right hround' hpos.le

end Binary64
