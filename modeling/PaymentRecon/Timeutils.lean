import Mathlib.Algebra.Ring.Nat
import Mathlib.Data.String.Basic
import Mathlib.Order.MinMax

/-!
# Timestamps

The part of `app/timeutils.py` that handles time. Python's aware `datetime` in UTC is a `Utc`: the
calendar and clock fields, with their ranges as a field of the structure. `formatTs` writes one in
the canonical fixed-width form that the service stores (`TS_FORMAT`), and `minusHours` is
`datetime - timedelta(hours=...)`, which raises `OverflowError` when the result leaves the years 1
to 9999. The calendar is the proleptic Gregorian one, by the functions of Python's `datetime.py`.

`Canonical` is what every stored timestamp satisfies: it is the canonical text of some instant.
-/

namespace PaymentRecon

/-! ## The calendar -/

/-- Leap years. -/
def isLeap (year : ℕ) : Bool := year % 4 == 0 && (year % 100 != 0 || year % 400 == 0)

/-- The days of a month. -/
def daysInMonth (year month : ℕ) : ℕ :=
  match month with
  | 2 => if isLeap year then 29 else 28
  | 4 | 6 | 9 | 11 => 30
  | _ => 31

/-- The days before the first of January of a year, counted from year 1. -/
def daysBeforeYear (year : ℕ) : ℕ :=
  let y := year - 1
  y * 365 + y / 4 - y / 100 + y / 400

/-- The days of a year before the first of a month. -/
def daysBeforeMonth (year month : ℕ) : ℕ :=
  ((List.range (month - 1)).map fun m => daysInMonth year (m + 1)).sum

/-- The ranges of the fields of a `datetime`. -/
def ValidFields (year month day hour minute second microsecond : ℕ) : Prop :=
  (1 ≤ year ∧ year ≤ 9999) ∧ (1 ≤ month ∧ month ≤ 12) ∧
    (1 ≤ day ∧ day ≤ daysInMonth year month) ∧ hour < 24 ∧ minute < 60 ∧ second < 60 ∧
    microsecond < 1000000

instance (year month day hour minute second microsecond : ℕ) :
    Decidable (ValidFields year month day hour minute second microsecond) :=
  inferInstanceAs (Decidable (_ ∧ _))

/-- A `datetime` whose `tzinfo` is UTC. -/
structure Utc where
  /-- The year, 1 to 9999. -/
  year : ℕ
  /-- The month, 1 to 12. -/
  month : ℕ
  /-- The day of the month. -/
  day : ℕ
  /-- The hour. -/
  hour : ℕ
  /-- The minute. -/
  minute : ℕ
  /-- The second. -/
  second : ℕ
  /-- The microsecond. -/
  microsecond : ℕ
  /-- Every field is in its range. -/
  valid : ValidFields year month day hour minute second microsecond
deriving DecidableEq

namespace Utc

/-- The microseconds since the start of year 1. -/
def micros (t : Utc) : ℕ :=
  ((((daysBeforeYear t.year + daysBeforeMonth t.year t.month + (t.day - 1)) * 24 + t.hour) * 60 +
    t.minute) * 60 + t.second) * 1000000 + t.microsecond

/-- The date that begins a number of days after the first day of year 1, as `_ord2ymd` computes
it. -/
def ord2ymd (days : ℕ) : ℕ × ℕ × ℕ :=
  -- Cycles of 400, 100, 4, and 1 years; the last day of a cycle falls outside its last year.
  let n400 := days / 146097
  let n := days % 146097
  let n100 := n / 36524
  let n := n % 36524
  let n4 := n / 1461
  let n := n % 1461
  let n1 := n / 365
  let n := n % 365
  let year := n400 * 400 + 1 + n100 * 100 + n4 * 4 + n1
  if n1 = 4 ∨ n100 = 4 then (year - 1, 12, 31)
  else
    -- The estimate of the month is at most one too large.
    let month := (n + 50) / 32
    let month := if daysBeforeMonth year month > n then month - 1 else month
    (year, month, n - daysBeforeMonth year month + 1)

/-- The instant a number of microseconds after the start of year 1, unless it lies past the year
9999. -/
def ofMicros (n : ℕ) : Option Utc :=
  let (year, month, day) := ord2ymd (n / 86400000000)
  let r := n % 86400000000
  if h : ValidFields year month day (r / 3600000000) (r / 60000000 % 60) (r / 1000000 % 60)
      (r % 1000000) then
    some ⟨year, month, day, _, _, _, _, h⟩
  else none

/-- `t - timedelta(hours=hours)`; `none` for the `OverflowError` of a result before year 1. -/
def minusHours (t : Utc) (hours : ℕ) : Option Utc :=
  if hours * 3600000000 ≤ t.micros then ofMicros (t.micros - hours * 3600000000) else none

end Utc

/-! ## The canonical form -/

/-- The decimal digits of `n` in a field of a given width. -/
def pad : ℕ → ℕ → List Char
  | 0, _ => []
  | width + 1, n => pad width (n / 10) ++ [Nat.digitChar (n % 10)]

/-- `value.strftime("%Y-%m-%dT%H:%M:%S.%f+00:00")`, the canonical form of an instant. -/
def formatTs (value : Utc) : String :=
  String.ofList (pad 4 value.year ++ '-' :: pad 2 value.month ++ '-' :: pad 2 value.day ++
    'T' :: pad 2 value.hour ++ ':' :: pad 2 value.minute ++ ':' :: pad 2 value.second ++
    '.' :: pad 6 value.microsecond ++ "+00:00".toList)

/-- `TimestampError`, by what its message says. -/
inductive TimestampError
  /-- `timestamp must not be empty`. -/
  | empty
  /-- `invalid ISO-8601 timestamp: {value!r}`. -/
  | invalid (value : String)
  /-- `invalid date: {text!r}`. -/
  | invalidDate (text : String)
deriving DecidableEq, Repr

/-- A canonical timestamp: the text of some instant. -/
def Canonical (s : String) : Prop := ∃ t, formatTs t = s

/-- A canonical timestamp is not empty, so it is true where Python tests it. -/
theorem Canonical.ne_empty {s : String} (h : Canonical s) : s ≠ "" := by
  obtain ⟨t, rfl⟩ := h
  intro h
  have := congrArg String.toList h
  simp [formatTs, pad] at this

example : formatTs ⟨2026, 1, 8, 12, 11, 58, 85567, by decide⟩ =
    "2026-01-08T12:11:58.085567+00:00" := by decide

example : (Utc.minusHours ⟨2026, 3, 1, 2, 0, 0, 0, by decide⟩ 48).map formatTs =
    some "2026-02-27T02:00:00.000000+00:00" := by decide

end PaymentRecon
