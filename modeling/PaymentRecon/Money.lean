import Mathlib.Data.Nat.Log
import Mathlib.Data.Rat.Defs
import Mathlib.Algebra.Order.Ring.Rat
import Mathlib.Algebra.Field.Rat
import Mathlib.Algebra.Order.Field.Basic
import Mathlib.Data.Nat.Cast.Order.Field
import Mathlib.Tactic.Linarith
import Mathlib.Tactic.Positivity
import Mathlib.Tactic.Ring

/-!
# Money

The part of `app/timeutils.py` that converts amounts. A float enters the program as the decimal text
that `str` gives for it, so an amount is a `Decimal`: a coefficient and an exponent, finite and not
negative. `toMinorUnits` multiplies by 100 and rounds to an integer, half up, in Python's default
decimal context of 28 digits: `Decimal.fix` is the rounding of an operation to the context (half
even), and `Decimal.quantize` raises `InvalidOperation` when its result needs more digits.
-/

namespace PaymentRecon

/-- A finite decimal that is not negative: `coeff * 10 ^ exp`. -/
structure Decimal where
  /-- The digits. -/
  coeff : ℕ
  /-- The exponent of the last digit. -/
  exp : ℤ
deriving DecidableEq, Repr

/-- A float, by the text that `str` gives for it. -/
inductive PyFloat
  /-- A finite number that is not negative. -/
  | finite (d : Decimal)
  /-- `inf`. -/
  | inf
  /-- `nan`. -/
  | nan
deriving DecidableEq, Repr

/-- What the conversion raises. -/
inductive MoneyError
  /-- `ValueError("invalid amount: ...")`. -/
  | invalidAmount
  /-- `decimal.InvalidOperation`, which is no `ValueError`. -/
  | invalidOperation
deriving DecidableEq, Repr

namespace Decimal

/-- The number that a decimal stands for. -/
def value (d : Decimal) : ℚ := d.coeff * (10 : ℚ) ^ d.exp

/-- `n / 10^k`, rounded to the nearest integer, ties to the even one. -/
def divHalfEven (n k : ℕ) : ℕ :=
  let q := n / 10 ^ k
  let r := n % 10 ^ k
  if 2 * r < 10 ^ k ∨ (2 * r = 10 ^ k ∧ q % 2 = 0) then q else q + 1

/-- `n / 10^k`, rounded to the nearest integer, ties up. -/
def divHalfUp (n k : ℕ) : ℕ := (n + 10 ^ k / 2) / 10 ^ k

/-- Round to the 28 digits of the context. A coefficient that rounds up to a power of ten loses one
more digit, which is a zero. -/
def fix (d : Decimal) : Decimal :=
  if d.coeff < 10 ^ 28 then d
  else
    -- The digits beyond the 28th.
    let drop := Nat.log 10 d.coeff + 1 - 28
    let c := divHalfEven d.coeff drop
    if c < 10 ^ 28 then ⟨c, d.exp + drop⟩ else ⟨c / 10, d.exp + drop + 1⟩

/-- `d * 100`. -/
def timesHundred (d : Decimal) : Decimal := fix ⟨d.coeff * 100, d.exp⟩

/-- `int(d.quantize(Decimal("1"), rounding=ROUND_HALF_UP))`. -/
def quantize (d : Decimal) : Except MoneyError ℤ :=
  let n := if 0 ≤ d.exp then d.coeff * 10 ^ d.exp.toNat else divHalfUp d.coeff (-d.exp).toNat
  if n < 10 ^ 28 then .ok n else .error .invalidOperation

end Decimal

/-- `to_minor_units`: a major-unit amount in integer minor units. -/
def toMinorUnits : PyFloat → Except MoneyError ℤ
  | .finite d => d.timesHundred.quantize
  | .inf => .error .invalidAmount
  | .nan => .error .invalidAmount

/-! ## The bound on amounts -/

namespace Decimal

/-- A decimal with a negative exponent is bounded by `m` through its coefficient. -/
theorem value_le_iff_of_neg {c k m : ℕ} :
    (⟨c, -(k : ℤ)⟩ : Decimal).value ≤ m ↔ c ≤ m * 10 ^ k := by
  have hpos : (0 : ℚ) < 10 ^ k := by positivity
  rw [value, zpow_neg, zpow_natCast, ← div_eq_mul_inv, div_le_iff₀ hpos]
  exact_mod_cast Iff.rfl

/-- A decimal with an exponent that is not negative is an integer. -/
theorem value_le_iff_of_nonneg {c k m : ℕ} :
    (⟨c, (k : ℤ)⟩ : Decimal).value ≤ m ↔ c * 10 ^ k ≤ m := by
  rw [value, zpow_natCast]
  exact_mod_cast Iff.rfl

/-- Zeros at the end of the digits are places of the exponent. -/
theorem value_mul_pow (c k : ℕ) (e : ℤ) :
    (⟨c * 10 ^ k, e⟩ : Decimal).value = (⟨c, e + k⟩ : Decimal).value := by
  rw [value, value, zpow_add₀ (by norm_num), zpow_natCast]
  push_cast
  ring

/-- Digits that fit the context are kept. -/
theorem fix_of_lt {d : Decimal} (h : d.coeff < 10 ^ 28) : fix d = d := if_pos h

/-- Rounding half up does not pass a whole bound. -/
theorem divHalfUp_le {n m k : ℕ} (h : n ≤ m * 10 ^ k) : divHalfUp n k ≤ m := by
  have hpos : 0 < 10 ^ k := by positivity
  rw [divHalfUp, ← Nat.lt_succ_iff, Nat.div_lt_iff_lt_mul hpos, Nat.succ_mul]
  omega

/-- Rounding half to even does not pass a whole bound. -/
theorem divHalfEven_le {n m k : ℕ} (h : n ≤ m * 10 ^ k) : divHalfEven n k ≤ m := by
  have hpos : 0 < 10 ^ k := by positivity
  have hq : n / 10 ^ k ≤ m := Nat.div_le_of_le_mul (by rwa [Nat.mul_comm])
  simp only [divHalfEven]
  split_ifs with hr
  · exact hq
  · -- The quotient is `m` only without a remainder, which does not round up.
    rcases Nat.eq_or_lt_of_le hq with heq | hlt
    · have hdiv := Nat.div_add_mod n (10 ^ k)
      rw [heq, Nat.mul_comm] at hdiv
      omega
    · exact hlt

/-- Rounding to the context keeps a bound of at most 28 digits. -/
theorem fix_le {c k m : ℕ} (hm : m < 10 ^ 28) (h : c ≤ m * 10 ^ k) :
    ∃ c' k' : ℕ, fix ⟨c, -(k : ℤ)⟩ = ⟨c', -(k' : ℤ)⟩ ∧ c' ≤ m * 10 ^ k' := by
  simp only [fix]
  split_ifs with hc hround
  · exact ⟨c, k, rfl, h⟩
  all_goals
    have hlog : 28 ≤ Nat.log 10 c := Nat.le_log_of_pow_le (by norm_num) (not_lt.1 hc)
    obtain ⟨drop, hdrop⟩ : ∃ drop, Nat.log 10 c + 1 - 28 = drop := ⟨_, rfl⟩
    rw [hdrop] at hround ⊢
    -- The coefficient has `drop + 28` digits, and the bound leaves room for `k + 28`.
    have hle : drop ≤ k := by
      have hlow : 10 ^ (drop + 27) ≤ c := by
        rw [show drop + 27 = Nat.log 10 c by omega]
        exact Nat.pow_log_le_self 10 (by omega)
      have hhigh : c < 10 ^ (28 + k) := by
        rw [pow_add]
        exact h.trans_lt (Nat.mul_lt_mul_of_pos_right hm (by positivity))
      have := (Nat.pow_lt_pow_iff_right (by norm_num)).1 (hlow.trans_lt hhigh)
      omega
    obtain ⟨rest, rfl⟩ := Nat.exists_eq_add_of_le hle
    have hcoeff : divHalfEven c drop ≤ m * 10 ^ rest := by
      refine divHalfEven_le (h.trans_eq ?_)
      rw [pow_add]
      ring
  · refine ⟨divHalfEven c drop, rest, ?_, hcoeff⟩
    congr 1
    push_cast
    ring
  · -- A coefficient of 29 digits is above `m`, so a digit is left to drop.
    cases rest with
    | zero => omega
    | succ rest =>
      refine ⟨divHalfEven c drop / 10, rest, ?_, ?_⟩
      · congr 1
        push_cast
        ring
      · refine Nat.div_le_of_le_mul (hcoeff.trans_eq ?_)
        rw [pow_succ]
        ring

end Decimal

namespace Decimal

/-- An integer is itself. -/
theorem quantize_natCast (c k : ℕ) :
    quantize ⟨c, (k : ℤ)⟩ =
      if c * 10 ^ k < 10 ^ 28 then .ok ((c * 10 ^ k : ℕ) : ℤ) else .error .invalidOperation := by
  simp only [quantize, Int.natCast_nonneg, if_true, Int.toNat_natCast]

/-- A fraction is rounded. -/
theorem quantize_neg (c k : ℕ) :
    quantize ⟨c, -(k : ℤ)⟩ =
      if divHalfUp c k < 10 ^ 28 then .ok (divHalfUp c k : ℤ) else .error .invalidOperation := by
  cases k with
  | zero =>
    rw [Nat.cast_zero, neg_zero, ← Nat.cast_zero, quantize_natCast]
    simp [divHalfUp]
  | succ k =>
    have hneg : ¬ 0 ≤ -((k + 1 : ℕ) : ℤ) := by omega
    simp only [quantize, hneg, if_false, neg_neg, Int.toNat_natCast]

/-- Rounding to an integer keeps a bound of at most 28 digits, and succeeds. -/
theorem exists_quantize {c k m : ℕ} (hm : m < 10 ^ 28) (h : c ≤ m * 10 ^ k) :
    ∃ n ≤ m, quantize ⟨c, -(k : ℤ)⟩ = .ok n := by
  have hup := divHalfUp_le h
  exact ⟨divHalfUp c k, hup, by rw [quantize_neg, if_pos (hup.trans_lt hm)]⟩

end Decimal

/-- An amount of at most `m` major units is converted, to at most `100 * m` minor units. -/
theorem exists_toMinorUnits {d : Decimal} {m : ℕ} (hm : 100 * m < 10 ^ 28) (h : d.value ≤ m) :
    ∃ n ≤ 100 * m, toMinorUnits (.finite d) = .ok n := by
  obtain ⟨c, e⟩ := d
  simp only [toMinorUnits, Decimal.timesHundred]
  rcases Int.eq_nat_or_neg e with ⟨k, rfl | rfl⟩
  · rw [Decimal.value_le_iff_of_nonneg] at h
    have hc : c * 100 * 10 ^ k ≤ 100 * m := by nlinarith
    have hsmall : c * 100 < 10 ^ 28 :=
      (Nat.le_mul_of_pos_right _ (by positivity)).trans_lt (hc.trans_lt hm)
    exact ⟨c * 100 * 10 ^ k, hc,
      by rw [Decimal.fix_of_lt hsmall, Decimal.quantize_natCast, if_pos (hc.trans_lt hm)]⟩
  · rw [Decimal.value_le_iff_of_neg] at h
    obtain ⟨c', k', hfix, hc'⟩ := Decimal.fix_le hm (show c * 100 ≤ 100 * m * 10 ^ k by nlinarith)
    rw [hfix]
    exact Decimal.exists_quantize hm hc'

/-- An amount of at most `m` major units is at most `100 * m` minor units. -/
theorem toMinorUnits_le {d : Decimal} {m : ℕ} {minor : ℤ} (hm : 100 * m < 10 ^ 28)
    (h : d.value ≤ m) (hd : toMinorUnits (.finite d) = .ok minor) : minor ≤ 100 * m := by
  obtain ⟨n, hn, hok⟩ := exists_toMinorUnits hm h
  rw [hok] at hd
  obtain rfl := Except.ok.inj hd
  exact_mod_cast hn

example : toMinorUnits (.finite ⟨8115, -3⟩) = .ok 812 := by decide

example : toMinorUnits (.finite ⟨1524829, -2⟩) = .ok 1524829 := by decide

end PaymentRecon
