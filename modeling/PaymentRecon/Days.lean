import PaymentRecon.TimeOrder

/-!
# Days

A `Day` is a date in the years 1 to 9999, written `YYYY-MM-DD` (`Day.text`). It begins at `Day.start` and
ends at `Day.finish`, a microsecond before the next one, and the canonical text of an instant begins with
the text of its day (`take_formatTs`). Texts, ordinals, and instants put days in one order
(`Day.text_lt_iff`, `Day.between_iff`).
-/

namespace PaymentRecon

/-- A date in the years 1 to 9999. -/
structure Day where
  /-- The year. -/
  year : ℕ
  /-- The month. -/
  month : ℕ
  /-- The day of the month. -/
  day : ℕ
  /-- The date is one of the calendar. -/
  valid : ValidFields year month day 0 0 0 0
deriving DecidableEq

/-- The day of an instant. -/
def Utc.date (t : Utc) : Day where
  year := t.year
  month := t.month
  day := t.day
  valid := by
    obtain ⟨hyear, hmonth, hday, _⟩ := t.valid
    exact ⟨hyear, hmonth, hday, by decide, by decide, by decide, by decide⟩

namespace Day

variable (d : Day)

/-- `YYYY-MM-DD`. -/
def text : String := String.ofList (pad 4 d.year ++ '-' :: pad 2 d.month ++ '-' :: pad 2 d.day)

/-- The number of the day. -/
def number : ℕ := ordinal d.year d.month d.day

/-- The first microsecond. -/
def start : Utc where
  year := d.year
  month := d.month
  day := d.day
  hour := 0
  minute := 0
  second := 0
  microsecond := 0
  valid := d.valid

/-- The last microsecond. -/
def finish : Utc where
  year := d.year
  month := d.month
  day := d.day
  hour := 23
  minute := 59
  second := 59
  microsecond := 999999
  valid := by
    obtain ⟨hyear, hmonth, hday, _⟩ := d.valid
    exact ⟨hyear, hmonth, hday, by decide, by decide, by decide, by decide⟩

/-- A day is a date of the calendar. -/
theorem validDate : ValidDate d.year d.month d.day := d.start.validDate

/-- A day starts at its number of days. -/
theorem micros_start : d.start.micros = d.number * 86400000000 := by
  have hclock : d.start.clockMicros = 0 := by simp [Utc.clockMicros, start]
  have hnumber : ordinal d.start.year d.start.month d.start.day = d.number := rfl
  rw [Utc.micros_eq, hclock, hnumber, add_zero]

/-- A day finishes a microsecond before the next one. -/
theorem micros_finish : d.finish.micros = d.number * 86400000000 + 86399999999 := by
  have hclock : d.finish.clockMicros = ((23 * 60 + 59) * 60 + 59) * 1000000 + 999999 := rfl
  have hnumber : ordinal d.finish.year d.finish.month d.finish.day = d.number := rfl
  rw [Utc.micros_eq, hclock, hnumber]

/-- An instant lies in its day. -/
theorem micros_div (t : Utc) : t.micros / 86400000000 = t.date.number := by
  have hclock := t.clockMicros_lt
  have hmicros := t.micros_eq
  unfold number Utc.date
  dsimp only
  omega

variable {d} {d' : Day}

/-- The instants from the start of one day to the end of another are those of the days between. -/
theorem between_iff {t : Utc} :
    d.start.micros ≤ t.micros ∧ t.micros ≤ d'.finish.micros ↔
      d.number ≤ t.date.number ∧ t.date.number ≤ d'.number := by
  rw [micros_start, micros_finish, ← micros_div]
  omega

/-- Numbers tell days apart. -/
theorem number_injective : Function.Injective number := by
  intro d d' h
  have hstart : d.start = d'.start := by
    apply Utc.micros_injective
    rw [micros_start, micros_start, h]
  obtain ⟨year, month, day, _⟩ := d
  obtain ⟨year', month', day', _⟩ := d'
  simp only [start, Utc.mk.injEq] at hstart
  obtain ⟨rfl, rfl, rfl, _⟩ := hstart
  rfl

/-- The day of an instant is the one between whose ends it lies. -/
theorem date_eq_iff {t : Utc} :
    t.date = d ↔ d.start.micros ≤ t.micros ∧ t.micros ≤ d.finish.micros := by
  rw [between_iff, ← number_injective.eq_iff, eq_comm, le_antisymm_iff]

/-- A canonical text begins with that of its day. -/
theorem toList_formatTs (t : Utc) :
    (formatTs t).toList = t.date.text.toList ++ 'T' :: (pad 2 t.hour ++ ':' :: pad 2 t.minute ++
      ':' :: pad 2 t.second ++ '.' :: pad 6 t.microsecond ++ "+00:00".toList) := by
  simp only [formatTs, text, Utc.date, String.toList_ofList, List.append_assoc, List.cons_append]

/-- The text of a day is ten characters long. -/
@[simp] theorem length_text : d.text.length = 10 := by
  rw [text, String.length_ofList]
  simp [length_pad]

/-- `substr(t, 1, 10)`. -/
theorem take_formatTs (t : Utc) : String.ofList ((formatTs t).toList.take 10) = t.date.text := by
  have hlength : t.date.text.toList.length = 10 := by rw [String.length_toList, length_text]
  rw [toList_formatTs, List.take_left' hlength, String.ofList_toList]

/-- Days are written in the order of their numbers. -/
theorem text_lt_iff : d.text < d'.text ↔ d.number < d'.number := by
  obtain ⟨hyear, hmonth, hday, _⟩ := fields_lt d.start
  obtain ⟨hyear', hmonth', hday', _⟩ := fields_lt d'.start
  have hlast := @pad_lt_pad_iff 2 d.day d'.day hday hday'
  rw [String.lt_iff_toList_lt, number, number, ordinal_lt_iff d.validDate d'.validDate]
  simp only [start] at hyear hmonth hyear' hmonth'
  simp only [text, String.toList_ofList, List.append_assoc, List.cons_append,
    cons_lt_cons_self_iff, pad_append_lt_iff hyear hyear', pad_append_lt_iff hmonth hmonth', hlast]

/-- The texts of days are in the order of the days. -/
theorem text_le_iff : d.text ≤ d'.text ↔ d.number ≤ d'.number := by
  rw [← not_lt, text_lt_iff, not_lt]

variable (d) in
/-- A day is written in ASCII. -/
theorem utf8Length_text : utf8Length d.text = 10 := by
  have hascii : ∀ c ∈ d.text.toList, c.utf8Size = 1 := by
    simp only [text, String.toList_ofList, List.mem_append, List.mem_cons]
    rintro c ((h | rfl | h) | rfl | h)
    all_goals first | rfl | exact utf8Size_of_isDigit (isDigit_of_mem_pad h)
  rw [utf8Length, List.map_congr_left hascii, List.map_const', List.sum_replicate, String.length_toList,
    length_text]
  rfl

/-- A day written out is read as a date. -/
theorem dateFromisoformat_text : dateFromisoformat d.text = some (d.year, d.month, d.day) := by
  obtain ⟨hyear, hmonth, hday, _⟩ := fields_lt d.start
  have hparse := @parseIsoformatDate_pad d.year d.month d.day hyear hmonth hday
  have hlength : utf8Length d.text ∈ [7, 8, 10] := by rw [d.utf8Length_text]; decide
  rw [dateFromisoformat, if_pos hlength, text, String.toList_ofList, hparse, Option.filter_some,
    if_pos (decide_eq_true d.valid)]

end Day

end PaymentRecon
