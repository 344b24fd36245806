import PaymentRecon.MinorUnits
import PaymentRecon.Numeric.Shortest

/-!
# Minor and major units

`to_minor_units` rounds an amount once: the product with 100 is exact, as the digits of a float's text
leave room for two more in the context, and `quantize` rounds it half up. `to_major_units` divides in the
context and rounds to a float, whose text `to_minor_units` reads again. The digits of an amount up to
10^11 minor units survive both (`Binary64.value_shortest_nearest`), so that `minor_units_exact` gives the
amount back.
-/

namespace PaymentRecon

namespace Decimal

/-- The text that `str` gives for the digits of a float. Zeros fill it up to the point, which a digit
follows, unless it would have more than 16 digits before the point: then it has an exponent. -/
def reprText (d : ℕ × ℤ) : Decimal :=
  if 0 ≤ d.2 ∧ (Nat.log 10 d.1 + 1 : ℕ) + d.2 ≤ 16 then ⟨d.1 * 10 ^ (d.2.toNat + 1), -1⟩
  else ⟨d.1, d.2⟩

/-- `float(d)`. What overflows is infinite. -/
def toFloat (d : Decimal) : PyFloat :=
  let f := Binary64.nearest d.value
  if f < 2 ^ 1024 then .finite (reprText (Binary64.shortest f)) else .inf

/-- `Decimal(n) / 100`, with no more decimal places than it needs. -/
def divHundred (n : ℕ) : Decimal :=
  fix (if n % 100 = 0 then ⟨n / 100, 0⟩ else if n % 10 = 0 then ⟨n / 10, -1⟩ else ⟨n, -2⟩)

end Decimal

/-- `to_major_units`: integer minor units, which are not negative, as a float. -/
def toMajorUnits : Option ℕ → Option PyFloat
  | none => none
  | some amount_minor => some (Decimal.divHundred amount_minor).toFloat

namespace Decimal

/-! ## Minor units -/

/-- An amount of at most `10^9`, whose text has at most 17 digits. -/
structure Admitted (a : Decimal) : Prop where
  /-- The digits of the text. -/
  digits : a.coeff < 10 ^ 17
  /-- The amount is positive. -/
  pos : 0 < a.value
  /-- The amount is bounded. -/
  le : a.value ≤ 10 ^ 9

variable {a b : Decimal}

/-- An amount is at most `10^11` minor units. -/
theorem Admitted.rounded_le (h : a.Admitted) : a.rounded ≤ 10 ^ 11 := by
  have hle := h.le
  have hnonneg := a.minor_nonneg
  rw [rounded, ← Nat.lt_succ_iff, Nat.floor_lt (by positivity), minor]
  push_cast
  linarith

/-- The digits of an amount leave room for two more in the context. -/
theorem Admitted.hundred (h : a.Admitted) : a.coeff * 100 < 10 ^ 28 := by
  have hdigits := h.digits
  omega

/-- An admitted amount converts to its rounded minor units. -/
theorem Admitted.toMinorUnits (h : a.Admitted) : toMinorUnits (.finite a) = .ok (a.rounded : ℤ) := by
  have hle := h.rounded_le
  rw [toMinorUnits_eq h.hundred, if_pos (by omega)]

/-! ## Major units -/

/-- The text stands for the number that the digits stand for. -/
theorem value_reprText (d : ℕ × ℤ) : (reprText d).value = Binary64.value d := by
  unfold reprText
  split_ifs with h
  · obtain ⟨k, hk⟩ := Int.eq_ofNat_of_zero_le h.1
    rw [value_mul_pow, hk, Int.toNat_natCast, show -1 + ((k + 1 : ℕ) : ℤ) = d.2 by omega]
    rfl
  · rfl

/-- A text has no more than 17 digits when it is made of no more. -/
theorem coeff_reprText_lt {d : ℕ × ℤ} (h : d.1 < 10 ^ 17) : (reprText d).coeff < 10 ^ 17 := by
  unfold reprText
  split_ifs with hpoint
  · obtain ⟨k, hk⟩ := Int.eq_ofNat_of_zero_le hpoint.1
    have hplaces : Nat.log 10 d.1 + 1 + k ≤ 16 := by
      have := hpoint.2
      omega
    have hlt : d.1 < 10 ^ (Nat.log 10 d.1 + 1) := Nat.lt_pow_succ_log_self (by norm_num) d.1
    rw [hk, Int.toNat_natCast]
    calc d.1 * 10 ^ (k + 1) < 10 ^ (Nat.log 10 d.1 + 1) * 10 ^ (k + 1) :=
          Nat.mul_lt_mul_of_pos_right hlt (by positivity)
      _ = 10 ^ (Nat.log 10 d.1 + 1 + (k + 1)) := (pow_add _ _ _).symm
      _ ≤ 10 ^ 17 := Nat.pow_le_pow_right (by norm_num) (by omega)
  · exact h

/-- The text of a float has no more than 17 digits. -/
theorem coeff_toFloat_lt (h : a.toFloat = .finite b) : b.coeff < 10 ^ 17 := by
  unfold toFloat at h
  dsimp only at h
  split_ifs at h
  obtain rfl := PyFloat.finite.inj h
  have hnonneg := Binary64.nearest_nonneg a.value_nonneg
  rcases hnonneg.eq_or_lt with hzero | hpos
  · rw [← hzero, Binary64.shortest_zero]
    decide
  · exact coeff_reprText_lt (Binary64.fst_shortest_lt hpos)

/-- A decimal of at most fifteen digits survives conversion to float and back through `str`, when it is
not too small and not too large for a float. -/
theorem exists_toFloat {n : ℕ} {e : ℤ} (hn : n < 10 ^ 15)
    (hlow : (2 : ℚ) ^ (-1022 : ℤ) ≤ (⟨n, e⟩ : Decimal).value)
    (hhigh : (⟨n, e⟩ : Decimal).value ≤ 2 ^ 1023) :
    ∃ b, (⟨n, e⟩ : Decimal).toFloat = .finite b ∧ b.value = (⟨n, e⟩ : Decimal).value := by
  have hsurvives := Binary64.value_shortest_nearest hn hlow
  have hpos : 0 < (⟨n, e⟩ : Decimal).value := (zpow_pos two_pos _).trans_le hlow
  have hclose := abs_lt.1 (Binary64.abs_sub_lt hpos rfl (Binary64.normal_nearest hlow))
  have hfinite : Binary64.nearest (⟨n, e⟩ : Decimal).value < 2 ^ 1024 := by
    calc Binary64.nearest (⟨n, e⟩ : Decimal).value < 2 * (⟨n, e⟩ : Decimal).value := by
          linarith [hclose.2]
      _ ≤ 2 * 2 ^ 1023 := mul_le_mul_of_nonneg_left hhigh two_pos.le
      _ = 2 ^ 1024 := (pow_succ' 2 1023).symm
  refine ⟨_, if_pos hfinite, ?_⟩
  rw [value_reprText]
  exact hsurvives

/-- The text of zero. -/
theorem toFloat_zero : (⟨0, -2⟩ : Decimal).toFloat = .finite ⟨0, -1⟩ := by
  have hnearest : Binary64.nearest 0 = 0 := by
    simp [Binary64.nearest, Binary64.roundHalfEven]
  have hvalue : (⟨0, -2⟩ : Decimal).value = 0 := by
    simp [value]
  rw [toFloat, hvalue, hnearest, Binary64.shortest_zero]
  exact if_pos (by positivity)

/-- Division by 100 is exact up to the digits of the context. -/
theorem toFloat_divHundred {n : ℕ} (hn : n < 10 ^ 28) :
    (divHundred n).toFloat = (⟨n, -2⟩ : Decimal).toFloat := by
  have hvalue : (divHundred n).value = (⟨n, -2⟩ : Decimal).value := by
    unfold divHundred
    split_ifs with hhundred hten
    · obtain ⟨k, rfl⟩ := Nat.dvd_of_mod_eq_zero hhundred
      rw [fix_of_lt (by dsimp only; omega), Nat.mul_div_cancel_left k (by norm_num), Nat.mul_comm]
      exact (value_mul_pow k 2 (-2)).symm
    · obtain ⟨k, rfl⟩ := Nat.dvd_of_mod_eq_zero hten
      rw [fix_of_lt (by dsimp only; omega), Nat.mul_div_cancel_left k (by norm_num), Nat.mul_comm]
      exact (value_mul_pow k 1 (-2)).symm
    · rw [fix_of_lt hn]
  rw [toFloat, hvalue]
  rfl

end Decimal

/-- Minor units come back from major units. -/
theorem toMinorUnits_toMajorUnits {n : ℕ} (hn : n ≤ 10 ^ 11) :
    ∃ x, toMajorUnits (some n) = some x ∧ toMinorUnits x = .ok (n : ℤ) := by
  refine ⟨_, rfl, ?_⟩
  rw [Decimal.toFloat_divHundred (by omega)]
  have hvalue : (⟨n, -2⟩ : Decimal).value = n / 100 := by
    rw [Decimal.value]
    norm_num
    ring
  -- The text of the float has at most 17 digits, so that `quantize` does not raise.
  have hback : ∀ b : Decimal, (⟨n, -2⟩ : Decimal).toFloat = .finite b → b.value = n / 100 →
      toMinorUnits (⟨n, -2⟩ : Decimal).toFloat = .ok (n : ℤ) := by
    intro b hfloat hb
    have hdigits := Decimal.coeff_toFloat_lt hfloat
    have hrounded : b.rounded = n := by
      refine Decimal.rounded_of_minor ?_
      rw [Decimal.minor, hb]
      ring
    rw [hfloat, toMinorUnits_eq (by omega), hrounded, if_pos (by omega)]
  have hle : (n : ℚ) ≤ 10 ^ 11 := by exact_mod_cast hn
  -- A hundredth of a positive number is in the normal range of floats, where `n / 100` reads back.
  rcases Nat.eq_zero_or_pos n with rfl | hpos
  · exact hback _ Decimal.toFloat_zero (by simp [Decimal.value])
  · have hone : (1 : ℚ) ≤ n := by exact_mod_cast hpos
    have hlow : (2 : ℚ) ^ (-1022 : ℤ) ≤ n / 100 :=
      calc (2 : ℚ) ^ (-1022 : ℤ) ≤ 2 ^ (-7 : ℤ) := zpow_le_zpow_right₀ one_le_two (by norm_num)
        _ ≤ n / 100 := by
          norm_num
          linarith
    have hhigh : (n : ℚ) / 100 ≤ 2 ^ 1023 :=
      calc (n : ℚ) / 100 ≤ 2 ^ 30 := by
            norm_num
            linarith
        _ ≤ 2 ^ 1023 := pow_le_pow_right₀ one_le_two (by norm_num)
    rw [← hvalue] at hlow hhigh
    obtain ⟨b, hfloat, hb⟩ := Decimal.exists_toFloat (by omega) hlow hhigh
    exact hback b hfloat (hb.trans hvalue)

/-- The conversion to minor units is exact. For every amount of at most `10^9` whose text has at most 17
digits, the product with 100 is not rounded, and the minor units are the integer next to it, the greater
one of two; they are at least 0 and at most `10^11`, and they are the product itself when the amount has
at most two decimals. Greater amounts have no fewer minor units. Every number of minor units from 0 to
`10^11` comes back from major units. -/
theorem minor_units_exact :
    (∀ a : Decimal, a.Admitted →
      a.timesHundred.value = 100 * a.value ∧
      ∃ n : ℤ, toMinorUnits (.finite a) = .ok n ∧ NearestUp (100 * a.value) n ∧
        0 ≤ n ∧ n ≤ 10 ^ 11 ∧
        ((∃ m : ℕ, a.value = m / 100) → (n : ℚ) = 100 * a.value)) ∧
      (∀ a b : Decimal, a.Admitted → b.Admitted → a.value ≤ b.value → ∀ n m,
        toMinorUnits (.finite a) = .ok n → toMinorUnits (.finite b) = .ok m → n ≤ m) ∧
      ∀ n : ℕ, n ≤ 10 ^ 11 →
        ∃ x, toMajorUnits (some n) = some x ∧ toMinorUnits x = .ok (n : ℤ) := by
  refine ⟨fun a ha => ⟨Decimal.value_timesHundred ha.hundred, _, ha.toMinorUnits, ?_, ?_, ?_, ?_⟩, ?_,
    fun n hn => toMinorUnits_toMajorUnits hn⟩
  · exact a.nearestUp_rounded
  · exact Int.natCast_nonneg _
  · exact_mod_cast ha.rounded_le
  -- A whole number of hundredths is not rounded.
  · rintro ⟨m, hm⟩
    have hminor : a.minor = m := by
      rw [Decimal.minor, hm]
      ring
    rw [Decimal.rounded_of_minor hminor, ← Decimal.minor, hminor]
    rfl
  -- Rounding is monotone, and nothing else happens to the value.
  · intro a b ha hb hle n m hn hm
    rw [ha.toMinorUnits] at hn
    rw [hb.toMinorUnits] at hm
    rw [← Except.ok.inj hn, ← Except.ok.inj hm]
    exact_mod_cast Decimal.rounded_mono hle

/-- Half a minor unit goes up, and 8.12 comes back. -/
theorem minor_units_exact_half :
    (∃ n : ℤ, toMinorUnits (.finite ⟨8115, -3⟩) = .ok n ∧ NearestUp (811 + 1 / 2) n) ∧
      ∃ x, toMajorUnits (some 812) = some x ∧ toMinorUnits x = .ok 812 := by
  have hvalue : (⟨8115, -3⟩ : Decimal).value = 8115 / 1000 := by
    norm_num [Decimal.value]
  have hadmitted : (⟨8115, -3⟩ : Decimal).Admitted :=
    ⟨by norm_num, by rw [hvalue]; norm_num, by rw [hvalue]; norm_num⟩
  obtain ⟨hexact, _, hback⟩ := minor_units_exact
  obtain ⟨_, n, hn, hnearest, _⟩ := hexact _ hadmitted
  have hhalf : 100 * (⟨8115, -3⟩ : Decimal).value = 811 + 1 / 2 := by
    rw [hvalue]
    norm_num
  rw [hhalf] at hnearest
  exact ⟨⟨n, hn, hnearest⟩, hback 812 (by norm_num)⟩

end PaymentRecon
