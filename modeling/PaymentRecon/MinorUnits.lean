import Mathlib.Data.Rat.Floor
import PaymentRecon.Money

/-!
# Rounding to minor units

`to_minor_units` rounds half up: what it returns for a decimal is the floor of the amount in minor units
and one half (`toMinorUnits_eq`), as long as the digits of the decimal fit the context, which those of a
float's shortest text do. The floor is the integer next to the amount, the greater one of two
(`Decimal.nearestUp_rounded`).
-/

namespace PaymentRecon

/-- The integer next to a number, and the greater one of two. -/
structure NearestUp (q : ℚ) (n : ℤ) : Prop where
  /-- No integer is nearer. -/
  nearest : ∀ m : ℤ, |q - n| ≤ |q - m|
  /-- Ties go up. -/
  ties : ∀ m : ℤ, |q - m| = |q - n| → m ≤ n

/-- The floor of a number and one half is next to it. -/
theorem nearestUp_floor (q : ℚ) : NearestUp q ⌊q + 1 / 2⌋ := by
  have hle := Int.floor_le (q + 1 / 2)
  have hlt := Int.lt_floor_add_one (q + 1 / 2)
  generalize ⌊q + 1 / 2⌋ = n at hle hlt
  -- Integers above and below are half a unit away or more.
  have habove : ∀ m : ℤ, n < m → |q - n| < |q - m| := by
    intro m hm
    have hcast : (n : ℚ) + 1 ≤ m := by exact_mod_cast hm
    rw [abs_lt, abs_of_neg (by linarith : q - m < 0)]
    constructor <;> linarith
  have hbelow : ∀ m : ℤ, m < n → |q - n| ≤ |q - m| := by
    intro m hm
    have hcast : (m : ℚ) + 1 ≤ n := by exact_mod_cast hm
    rw [abs_le, abs_of_pos (by linarith : 0 < q - m)]
    constructor <;> linarith
  constructor
  · intro m
    rcases lt_trichotomy m n with h | rfl | h
    · exact hbelow m h
    · exact le_rfl
    · exact (habove m h).le
  · intro m heq
    by_contra hnot
    exact (habove m (not_le.1 hnot)).ne heq.symm

namespace Decimal

/-- The amount in minor units, before it is rounded. -/
def minor (d : Decimal) : ℚ := 100 * d.value

/-- The value is not negative. -/
theorem value_nonneg (d : Decimal) : 0 ≤ d.value :=
  mul_nonneg (Nat.cast_nonneg _) (zpow_nonneg (by norm_num) _)

/-- An amount without a sign is not negative. -/
theorem minor_nonneg (d : Decimal) : 0 ≤ d.minor := by
  have := d.value_nonneg
  unfold minor
  positivity

/-- The minor units, rounded half up. -/
def rounded (d : Decimal) : ℕ := ⌊d.minor + 1 / 2⌋₊

/-- The rounded minor units as a floor. -/
theorem rounded_eq_floor (d : Decimal) : (d.rounded : ℤ) = ⌊d.minor + 1 / 2⌋ :=
  Int.natCast_floor_eq_floor (by have := d.minor_nonneg; positivity)

/-- The minor units are the integer next to the exact ones. -/
theorem nearestUp_rounded (d : Decimal) : NearestUp d.minor (d.rounded : ℤ) := by
  rw [rounded_eq_floor]
  exact nearestUp_floor d.minor

/-- Whole minor units are not rounded. -/
theorem rounded_of_minor {d : Decimal} {n : ℕ} (h : d.minor = n) : d.rounded = n := by
  rw [rounded, h, Nat.floor_eq_iff (by positivity)]
  constructor <;> linarith

/-- Greater amounts have no fewer minor units. -/
theorem rounded_mono {d d' : Decimal} (h : d.value ≤ d'.value) :
    d.rounded ≤ d'.rounded := by
  refine Nat.floor_le_floor ?_
  unfold minor
  linarith

/-- Dividing half up is the floor of the quotient and one half. -/
theorem divHalfUp_eq_floor (n k : ℕ) : divHalfUp n k = ⌊(n : ℚ) / 10 ^ k + 1 / 2⌋₊ := by
  have hpos : (0 : ℚ) < 10 ^ k := by positivity
  have hhalf : 10 ^ k = 1 ∨ 10 ^ k % 2 = 0 := by
    rcases k with _ | k
    · exact .inl rfl
    · rw [pow_succ]
      omega
  refine eq_of_forall_le_iff fun m => ?_
  rw [Nat.le_floor_iff (by positivity), divHalfUp, Nat.le_div_iff_mul_le (by positivity)]
  -- The halves of a power of ten are whole, or there is nothing to divide by.
  have hdouble : m * 10 ^ k ≤ n + 10 ^ k / 2 ↔ 2 * (m * 10 ^ k) ≤ 2 * n + 10 ^ k := by
    generalize 10 ^ k = p at hhalf ⊢
    generalize m * p = q
    omega
  have hcast : 2 * (m * 10 ^ k) ≤ 2 * n + 10 ^ k ↔ 2 * ((m : ℚ) * 10 ^ k) ≤ 2 * n + 10 ^ k := by
    exact_mod_cast Iff.rfl
  have hdiv : (n : ℚ) / 10 ^ k + 1 / 2 = (2 * n + 10 ^ k) / (2 * 10 ^ k) := by
    field_simp
  rw [hdouble, hcast, hdiv, le_div_iff₀ (by positivity)]
  constructor <;> intro h <;> linarith

/-- A whole number is rounded to itself. -/
theorem rounded_natCast (c k : ℕ) : (⟨c, (k : ℤ)⟩ : Decimal).rounded = c * 100 * 10 ^ k := by
  have hminor : (⟨c, (k : ℤ)⟩ : Decimal).minor = ((c * 100 * 10 ^ k : ℕ) : ℚ) := by
    rw [minor, value, zpow_natCast]
    push_cast
    ring
  exact rounded_of_minor hminor

/-- A fraction is rounded half up. -/
theorem rounded_neg (c k : ℕ) : (⟨c, -(k : ℤ)⟩ : Decimal).rounded = divHalfUp (c * 100) k := by
  have hminor : (⟨c, -(k : ℤ)⟩ : Decimal).minor = ((c * 100 : ℕ) : ℚ) / 10 ^ k := by
    rw [minor, value, zpow_neg, zpow_natCast]
    push_cast
    ring
  rw [rounded, hminor, divHalfUp_eq_floor]

/-- The product with 100 is exact when the digits leave room for two more. -/
theorem value_timesHundred {d : Decimal} (h : d.coeff * 100 < 10 ^ 28) : d.timesHundred.value = d.minor := by
  rw [timesHundred, fix_of_lt h, minor, value, value]
  push_cast
  ring

end Decimal

/-- `to_minor_units` of a decimal whose digits fit the context rounds half up, up to the 28 digits of the
context. -/
theorem toMinorUnits_eq {d : Decimal} (h : d.coeff * 100 < 10 ^ 28) :
    toMinorUnits (.finite d) =
      if d.rounded < 10 ^ 28 then .ok (d.rounded : ℤ) else .error .invalidOperation := by
  obtain ⟨c, e⟩ := d
  rw [toMinorUnits, Decimal.timesHundred, Decimal.fix_of_lt h]
  rcases Int.eq_nat_or_neg e with ⟨k, rfl | rfl⟩
  · rw [Decimal.quantize_natCast, Decimal.rounded_natCast]
  · rw [Decimal.quantize_neg, Decimal.rounded_neg]

/-- Hundredths are minor units. -/
theorem toMinorUnits_hundredths {n : ℕ} (h : n < 10 ^ 26) :
    toMinorUnits (.finite ⟨n, -2⟩) = .ok (n : ℤ) := by
  have hrounded : (⟨n, -2⟩ : Decimal).rounded = n := by
    rw [show (-2 : ℤ) = -((2 : ℕ) : ℤ) from rfl, Decimal.rounded_neg, Decimal.divHalfUp]
    omega
  rw [toMinorUnits_eq (by dsimp only; omega), hrounded, if_pos (by omega)]

end PaymentRecon
