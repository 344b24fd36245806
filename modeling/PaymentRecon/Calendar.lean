import Mathlib.Data.List.Lex
import Mathlib.Tactic.Linarith
import PaymentRecon.Timeutils

/-!
# The calendar and the instants

The days of the proleptic Gregorian calendar are numbered by `ordinal`, and `ord2ymd` finds the date of
a number (`ord2ymd_spec`). The microseconds of an instant order instants as their fields do
(`Utc.micros_lt_iff`), so they tell instants apart, and `ofMicros` inverts them: it fails exactly from
the end of the year 9999 on (`ofMicros_eq_some`, `ofMicros_eq_none`).
-/

namespace PaymentRecon

/-! ## Years and months -/

/-- The rule for leap years, as a proposition. -/
theorem isLeap_iff {year : ℕ} :
    isLeap year = true ↔ year % 4 = 0 ∧ (year % 100 ≠ 0 ∨ year % 400 = 0) := by
  simp [isLeap]

/-- The days of a year. -/
def daysInYear (year : ℕ) : ℕ := if isLeap year then 366 else 365

/-- A year begins when the year before it is over. -/
theorem daysBeforeYear_succ {year : ℕ} (h : 1 ≤ year) :
    daysBeforeYear (year + 1) = daysBeforeYear year + daysInYear year := by
  obtain ⟨y, rfl⟩ : ∃ y, year = y + 1 := ⟨year - 1, by omega⟩
  have h4 := @Nat.succ_div y 4
  have h100 := @Nat.succ_div y 100
  have h400 := @Nat.succ_div y 400
  -- One more leap day is due when 4 divides the year, one less when 100 does, and so on.
  have hleap : isLeap (y + 1) = true ↔ 4 ∣ y + 1 ∧ (¬ 100 ∣ y + 1 ∨ 400 ∣ y + 1) := by
    rw [isLeap_iff]
    omega
  have h100of : 400 ∣ y + 1 → 100 ∣ y + 1 := (by decide : 100 ∣ 400).trans
  have h4of : 100 ∣ y + 1 → 4 ∣ y + 1 := (by decide : 4 ∣ 100).trans
  have hle : y / 100 ≤ y / 4 := Nat.div_le_div_left (by decide) (by decide)
  simp only [daysBeforeYear, daysInYear, hleap, Nat.add_sub_cancel]
  by_cases d4 : 4 ∣ y + 1
  · by_cases d100 : 100 ∣ y + 1
    · by_cases d400 : 400 ∣ y + 1
      · simp only [d4, d100, d400, if_true] at h4 h100 h400
        simp only [d4, d400, or_true, and_self, if_true]
        omega
      · simp only [d4, d100, d400, if_true, if_false] at h4 h100 h400
        simp only [d100, d400, not_true_eq_false, or_self, and_false, if_false]
        omega
    · have d400 : ¬ 400 ∣ y + 1 := mt h100of d100
      simp only [d4, d100, d400, if_true, if_false] at h4 h100 h400
      simp only [d4, d100, not_false_eq_true, true_or, and_self, if_true]
      omega
  · have d100 : ¬ 100 ∣ y + 1 := mt h4of d4
    have d400 : ¬ 400 ∣ y + 1 := mt h100of d100
    simp only [d4, d100, d400, if_false] at h4 h100 h400
    simp only [d4, false_and, if_false]
    omega

/-- Later years begin later. -/
theorem daysBeforeYear_mono {year year' : ℕ} (h1 : 1 ≤ year) (h : year ≤ year') :
    daysBeforeYear year ≤ daysBeforeYear year' := by
  induction year', h using Nat.le_induction with
  | base => exact le_rfl
  | succ year' hle ih =>
    rw [daysBeforeYear_succ (h1.trans hle)]
    omega

/-- A month begins when the month before it is over. -/
theorem daysBeforeMonth_succ (year : ℕ) {month : ℕ} (h : 1 ≤ month) :
    daysBeforeMonth year (month + 1) = daysBeforeMonth year month + daysInMonth year month := by
  obtain ⟨m, rfl⟩ : ∃ m, month = m + 1 := ⟨month - 1, by omega⟩
  simp [daysBeforeMonth, List.range_succ]

/-- Later months begin later. -/
theorem daysBeforeMonth_mono (year : ℕ) {month month' : ℕ} (h1 : 1 ≤ month) (h : month ≤ month') :
    daysBeforeMonth year month ≤ daysBeforeMonth year month' := by
  induction month', h using Nat.le_induction with
  | base => exact le_rfl
  | succ month' hle ih =>
    rw [daysBeforeMonth_succ year (h1.trans hle)]
    omega

/-- The months depend on whether the year is a leap year, and on nothing else. -/
theorem daysInMonth_congr {year year' : ℕ} (h : isLeap year = isLeap year') (month : ℕ) :
    daysInMonth year month = daysInMonth year' month := by
  unfold daysInMonth
  rw [h]

/-- What comes before a month depends on whether the year is a leap year. -/
theorem daysBeforeMonth_congr {year year' : ℕ} (h : isLeap year = isLeap year') (month : ℕ) :
    daysBeforeMonth year month = daysBeforeMonth year' month := by
  unfold daysBeforeMonth
  simp only [daysInMonth_congr h]

/-- The months make up the year. -/
theorem daysBeforeMonth_thirteen (year : ℕ) : daysBeforeMonth year 13 = daysInYear year := by
  cases h : isLeap year with
  | true =>
    rw [daysBeforeMonth_congr (show isLeap year = isLeap 2024 from h), daysInYear, if_pos h]
    decide
  | false =>
    rw [daysBeforeMonth_congr (show isLeap year = isLeap 2023 from h), daysInYear,
      if_neg (by simp [h])]
    decide

/-! ## Days -/

/-- The number of a date: the days from the first day of year 1 on. -/
def ordinal (year month day : ℕ) : ℕ := daysBeforeYear year + daysBeforeMonth year month + (day - 1)

/-- The date of a number of days in a year. -/
theorem month_spec (year : ℕ) {n : ℕ} (h : n < daysInYear year) :
    let month := (n + 50) / 32
    let month := if daysBeforeMonth year month > n then month - 1 else month
    (1 ≤ month ∧ month ≤ 12) ∧ daysBeforeMonth year month ≤ n ∧
      n - daysBeforeMonth year month + 1 ≤ daysInMonth year month := by
  -- A year of each kind, day by day.
  have hleap : ∀ n < 366, let month := (n + 50) / 32
      let month := if daysBeforeMonth 2024 month > n then month - 1 else month
      (1 ≤ month ∧ month ≤ 12) ∧ daysBeforeMonth 2024 month ≤ n ∧
        n - daysBeforeMonth 2024 month + 1 ≤ daysInMonth 2024 month := by decide +kernel
  have hcommon : ∀ n < 365, let month := (n + 50) / 32
      let month := if daysBeforeMonth 2023 month > n then month - 1 else month
      (1 ≤ month ∧ month ≤ 12) ∧ daysBeforeMonth 2023 month ≤ n ∧
        n - daysBeforeMonth 2023 month + 1 ≤ daysInMonth 2023 month := by decide +kernel
  cases hyear : isLeap year with
  | true =>
    have hsame : isLeap year = isLeap 2024 := hyear
    rw [daysInYear, if_pos hyear] at h
    simp only [daysBeforeMonth_congr hsame, daysInMonth_congr hsame]
    exact hleap n h
  | false =>
    have hsame : isLeap year = isLeap 2023 := hyear
    rw [daysInYear, if_neg (by simp [hyear])] at h
    simp only [daysBeforeMonth_congr hsame, daysInMonth_congr hsame]
    exact hcommon n h

/-- A date of the calendar. -/
def ValidDate (year month day : ℕ) : Prop :=
  1 ≤ year ∧ (1 ≤ month ∧ month ≤ 12) ∧ 1 ≤ day ∧ day ≤ daysInMonth year month

/-- The days before a year, by its cycles of 400, 100, 4, and 1 years. -/
theorem daysBeforeYear_cycles {a b c d : ℕ} (hb : b ≤ 3) (hc : c ≤ 24) (hd : d ≤ 3) :
    daysBeforeYear (a * 400 + 1 + b * 100 + c * 4 + d) =
      146097 * a + 36524 * b + 1461 * c + 365 * d := by
  have hy : a * 400 + 1 + b * 100 + c * 4 + d - 1 = 400 * a + 100 * b + 4 * c + d := by omega
  have h4 : (400 * a + 100 * b + 4 * c + d) / 4 = 100 * a + 25 * b + c := by omega
  have h100 : (400 * a + 100 * b + 4 * c + d) / 100 = 4 * a + b := by omega
  have h400 : (400 * a + 100 * b + 4 * c + d) / 400 = a := by omega
  simp only [daysBeforeYear, hy, h4, h100, h400]
  omega

/-- The last day of a year. -/
theorem ordinal_last {year : ℕ} (h : 1 ≤ year) :
    ordinal year 12 31 + 1 = daysBeforeYear (year + 1) := by
  have hmonth := daysBeforeMonth_succ year (by decide : 1 ≤ 12)
  have hdays : daysInMonth year 12 = 31 := rfl
  rw [daysBeforeMonth_thirteen, hdays] at hmonth
  rw [daysBeforeYear_succ h, hmonth, ordinal]
  omega

/-- A number has the date that `_ord2ymd` computes. -/
theorem ord2ymd_spec (days : ℕ) :
    ValidDate (Utc.ord2ymd days).1 (Utc.ord2ymd days).2.1 (Utc.ord2ymd days).2.2 ∧
      ordinal (Utc.ord2ymd days).1 (Utc.ord2ymd days).2.1 (Utc.ord2ymd days).2.2 = days := by
  -- The cycles that are over, and what is left of the year.
  obtain ⟨a, ha⟩ : ∃ a, days / 146097 = a := ⟨_, rfl⟩
  obtain ⟨b, hb⟩ : ∃ b, days % 146097 / 36524 = b := ⟨_, rfl⟩
  obtain ⟨c, hc⟩ : ∃ c, days % 146097 % 36524 / 1461 = c := ⟨_, rfl⟩
  obtain ⟨d, hd⟩ : ∃ d, days % 146097 % 36524 % 1461 / 365 = d := ⟨_, rfl⟩
  obtain ⟨n, hn⟩ : ∃ n, days % 146097 % 36524 % 1461 % 365 = n := ⟨_, rfl⟩
  have hdays : days = 146097 * a + 36524 * b + 1461 * c + 365 * d + n := by omega
  have hn365 : n < 365 := by omega
  simp only [Utc.ord2ymd, ha, hb, hc, hd, hn]
  by_cases hlast : d = 4 ∨ b = 4
  · -- The last day of a cycle of 4 or of 400 years, the day before the next cycle.
    obtain ⟨year, hyear, hnext⟩ : ∃ year, a * 400 + 1 + b * 100 + c * 4 + d = year + 1 + 1 ∧
        daysBeforeYear (year + 1 + 1) = days + 1 := by
      refine ⟨a * 400 + b * 100 + c * 4 + d - 1, by omega, ?_⟩
      rcases hlast with h | h
      · have hcycle := @daysBeforeYear_cycles a b (c + 1) 0 (by omega) (by omega) (by omega)
        rw [show a * 400 + b * 100 + c * 4 + d - 1 + 1 + 1 =
          a * 400 + 1 + b * 100 + (c + 1) * 4 + 0 by omega, hcycle]
        omega
      · have hcycle := @daysBeforeYear_cycles (a + 1) 0 0 0 (by omega) (by omega) (by omega)
        rw [show a * 400 + b * 100 + c * 4 + d - 1 + 1 + 1 =
          (a + 1) * 400 + 1 + 0 * 100 + 0 * 4 + 0 by omega, hcycle]
        omega
    have hordinal := ordinal_last (by omega : 1 ≤ year + 1)
    have hmonth : daysInMonth (year + 1) 12 = 31 := rfl
    rw [if_pos hlast, hyear, Nat.add_sub_cancel]
    dsimp only
    exact ⟨⟨by omega, ⟨by omega, by omega⟩, by omega, hmonth.ge⟩, by omega⟩
  · rw [not_or] at hlast
    have hbefore := @daysBeforeYear_cycles a b c d (by omega) (by omega) (by omega)
    have hyear : n < daysInYear (a * 400 + 1 + b * 100 + c * 4 + d) := by
      unfold daysInYear
      split_ifs <;> omega
    obtain ⟨hmonth, hle, hday⟩ := month_spec _ hyear
    rw [if_neg (not_or.2 hlast)]
    dsimp only
    refine ⟨⟨by omega, hmonth, by omega, hday⟩, ?_⟩
    rw [ordinal, hbefore, Nat.add_sub_cancel]
    omega

/-! ## Order -/

/-- Numbers in a mixed radix are in the order of their digits. -/
theorem mul_add_lt_mul_add_iff {k q r q' r' : ℕ} (hr : r < k) (hr' : r' < k) :
    q * k + r < q' * k + r' ↔ q < q' ∨ (q = q' ∧ r < r') := by
  rcases lt_trichotomy q q' with h | rfl | h
  · have hle : (q + 1) * k ≤ q' * k := Nat.mul_le_mul_right k h
    rw [Nat.add_mul, Nat.one_mul] at hle
    exact iff_of_true (by omega) (.inl h)
  · simp
  · have hle : (q' + 1) * k ≤ q * k := Nat.mul_le_mul_right k h
    rw [Nat.add_mul, Nat.one_mul] at hle
    exact iff_of_false (by omega) (by omega)

/-- A date lies in its year and in its month. -/
theorem ValidDate.ordinal_lt {year month day : ℕ} (h : ValidDate year month day) :
    daysBeforeMonth year month + (day - 1) < daysBeforeMonth year (month + 1) ∧
      daysBeforeMonth year month + (day - 1) < daysInYear year := by
  obtain ⟨_, ⟨hm1, hm12⟩, hd1, hday⟩ := h
  have hnext := daysBeforeMonth_succ year hm1
  have hyear := daysBeforeMonth_mono year (by omega : 1 ≤ month + 1) (by omega : month + 1 ≤ 13)
  rw [daysBeforeMonth_thirteen] at hyear
  omega

/-- A date in an earlier year, or in an earlier month, or earlier in the month, has a smaller
number. -/
theorem ordinal_lt_of {year month day year' month' day' : ℕ} (h : ValidDate year month day)
    (h' : ValidDate year' month' day')
    (hlt : year < year' ∨ (year = year' ∧ (month < month' ∨ (month = month' ∧ day < day')))) :
    ordinal year month day < ordinal year' month' day' := by
  obtain ⟨hmonth, hyear⟩ := h.ordinal_lt
  unfold ordinal
  rcases hlt with hlt | ⟨rfl, hlt | ⟨rfl, hlt⟩⟩
  · have hnext := daysBeforeYear_succ h.1
    have hle := daysBeforeYear_mono (by omega : 1 ≤ year + 1) hlt
    omega
  · have hle := daysBeforeMonth_mono year (by omega : 1 ≤ month + 1) hlt
    omega
  · have := h.2.2.1
    omega

/-- Dates are in the order of their numbers. -/
theorem ordinal_lt_iff {year month day year' month' day' : ℕ} (h : ValidDate year month day)
    (h' : ValidDate year' month' day') :
    ordinal year month day < ordinal year' month' day' ↔
      year < year' ∨ (year = year' ∧ (month < month' ∨ (month = month' ∧ day < day'))) := by
  refine ⟨fun hlt => ?_, ordinal_lt_of h h'⟩
  by_contra hnot
  -- Then the dates are equal or in the other order.
  rcases (by omega : (year = year' ∧ month = month' ∧ day = day') ∨ (year' < year ∨ (year' = year ∧
      (month' < month ∨ (month' = month ∧ day' < day))))) with ⟨rfl, rfl, rfl⟩ | hgt
  · exact lt_irrefl _ hlt
  · exact lt_asymm hlt (ordinal_lt_of h' h hgt)

namespace Utc

variable (t : Utc)

/-- The date of an instant is one of the calendar. -/
theorem validDate : ValidDate t.year t.month t.day := by
  obtain ⟨⟨hyear, _⟩, hmonth, hday, _⟩ := t.valid
  exact ⟨hyear, hmonth, hday⟩

/-- The fields, from the year down to the microsecond. -/
def fieldList : List ℕ := [t.year, t.month, t.day, t.hour, t.minute, t.second, t.microsecond]

/-- The microseconds since midnight. -/
def clockMicros : ℕ := ((t.hour * 60 + t.minute) * 60 + t.second) * 1000000 + t.microsecond

/-- The clock stays within a day. -/
theorem clockMicros_lt : t.clockMicros < 86400000000 := by
  obtain ⟨_, _, _, hhour, hminute, hsecond, hmicrosecond⟩ := t.valid
  unfold clockMicros
  omega

/-- An instant is a day and a time of day. -/
theorem micros_eq : t.micros = ordinal t.year t.month t.day * 86400000000 + t.clockMicros := by
  unfold micros clockMicros ordinal
  omega

variable {t}

/-- Instants are in the order of their fields. -/
theorem micros_lt_iff {t' : Utc} : t.micros < t'.micros ↔ t.fieldList < t'.fieldList := by
  obtain ⟨_, _, _, hhour, hminute, hsecond, hmicrosecond⟩ := t.valid
  obtain ⟨_, _, _, hhour', hminute', hsecond', hmicrosecond'⟩ := t'.valid
  have hclock : t.clockMicros < t'.clockMicros ↔ t.hour < t'.hour ∨ (t.hour = t'.hour ∧
      (t.minute < t'.minute ∨ (t.minute = t'.minute ∧
        (t.second < t'.second ∨ (t.second = t'.second ∧ t.microsecond < t'.microsecond))))) := by
    unfold clockMicros
    omega
  have hlt := ordinal_lt_iff t.validDate t'.validDate
  have hgt := ordinal_lt_iff t'.validDate t.validDate
  rw [micros_eq, micros_eq, mul_add_lt_mul_add_iff t.clockMicros_lt t'.clockMicros_lt, hclock]
  simp only [fieldList, List.cons_lt_cons_iff, List.not_lt_nil, and_false, or_false]
  omega

/-- The microseconds tell instants apart. -/
theorem micros_injective : Function.Injective micros := by
  intro t t' h
  have hlt : ¬ t.fieldList < t'.fieldList := mt micros_lt_iff.2 h.not_lt
  have hgt : ¬ t'.fieldList < t.fieldList := mt micros_lt_iff.2 h.symm.not_lt
  have heq : t.fieldList = t'.fieldList := le_antisymm (not_lt.1 hgt) (not_lt.1 hlt)
  obtain ⟨year, month, day, hour, minute, second, microsecond, _⟩ := t
  obtain ⟨year', month', day', hour', minute', second', microsecond', _⟩ := t'
  simp only [fieldList, List.cons.injEq, and_true] at heq
  obtain ⟨rfl, rfl, rfl, rfl, rfl, rfl, rfl⟩ := heq
  rfl

/-- The end of the year 9999: the first microsecond after 3652059 days. -/
def endMicros : ℕ := 3652059 * 86400000000

/-- The calendar has this many days in all. -/
theorem daysBeforeYear_end : daysBeforeYear 10000 = 3652059 := by decide

/-- Instants lie before the end of the year 9999. -/
theorem micros_lt_endMicros (t : Utc) : t.micros < endMicros := by
  obtain ⟨⟨_, hyear⟩, _⟩ := t.valid
  have hclock := t.clockMicros_lt
  have hday := t.validDate.ordinal_lt.2
  have hnext := daysBeforeYear_succ t.validDate.1
  have hle : daysBeforeYear (t.year + 1) ≤ 3652059 :=
    daysBeforeYear_end ▸ daysBeforeYear_mono (by omega) (by omega)
  rw [micros_eq, endMicros, ordinal]
  omega

/-- The fields that `ofMicros` computes are those of an instant until the end of the year 9999. -/
theorem validFields_ofMicros (n : ℕ) :
    ValidFields (ord2ymd (n / 86400000000)).1 (ord2ymd (n / 86400000000)).2.1
        (ord2ymd (n / 86400000000)).2.2 (n % 86400000000 / 3600000000)
        (n % 86400000000 / 60000000 % 60) (n % 86400000000 / 1000000 % 60)
        (n % 86400000000 % 1000000) ↔ n < endMicros := by
  obtain ⟨hdate, hordinal⟩ := ord2ymd_spec (n / 86400000000)
  have hday := hdate.ordinal_lt.2
  have hnext := daysBeforeYear_succ hdate.1
  rw [ordinal] at hordinal
  constructor
  -- Only the year may be out of range: it is below 10000 when the day number is.
  · rintro ⟨⟨_, hyear⟩, _⟩
    have hle := daysBeforeYear_mono (Nat.le_add_left 1 _) (Nat.succ_le_succ hyear)
    rw [daysBeforeYear_end] at hle
    rw [endMicros]
    omega
  · intro hlt
    obtain ⟨hyear, hmonth, hday⟩ := hdate
    refine ⟨⟨hyear, ?_⟩, hmonth, hday, by omega⟩
    by_contra hlate
    have hle := daysBeforeYear_mono (by decide : 1 ≤ 10000) (not_le.1 hlate)
    rw [daysBeforeYear_end] at hle
    rw [endMicros] at hlt
    omega

/-- `ofMicros` fails from the end of the year 9999 on. -/
theorem ofMicros_eq_none {n : ℕ} : ofMicros n = none ↔ endMicros ≤ n := by
  rw [← not_lt, ← validFields_ofMicros, ofMicros]
  dsimp only
  split_ifs with h
  · exact iff_of_false not_false (not_not.2 h)
  · exact iff_of_true rfl h

/-- `ofMicros` inverts `micros`. -/
theorem ofMicros_eq_some {n : ℕ} {t : Utc} : ofMicros n = some t ↔ t.micros = n := by
  have hinv : ∀ {n t}, ofMicros n = some t → t.micros = n := by
    intro n t h
    obtain ⟨_, hordinal⟩ := ord2ymd_spec (n / 86400000000)
    simp only [ofMicros] at h
    split_ifs at h with hvalid
    obtain rfl := Option.some.inj h
    rw [micros_eq, hordinal, clockMicros]
    dsimp only
    omega
  refine ⟨hinv, ?_⟩
  rintro rfl
  obtain ⟨t', h⟩ := Option.ne_none_iff_exists'.1
    (mt ofMicros_eq_none.1 t.micros_lt_endMicros.not_ge)
  rw [h, micros_injective (hinv h)]

/-- An hour is 3600 seconds. -/
theorem minusHours_eq_some {t t' : Utc} {hours : ℕ} :
    t.minusHours hours = some t' ↔ t'.micros + hours * 3600000000 = t.micros := by
  unfold minusHours
  split_ifs with h
  · rw [ofMicros_eq_some]
    omega
  · exact iff_of_false nofun (by omega)

/-- Subtracting hours fails before year 1. -/
theorem minusHours_eq_none {t : Utc} {hours : ℕ} :
    t.minusHours hours = none ↔ t.micros < hours * 3600000000 := by
  have hend := t.micros_lt_endMicros
  unfold minusHours
  split_ifs with h
  · rw [ofMicros_eq_none]
    omega
  · exact iff_of_true rfl (by omega)

end Utc

end PaymentRecon
