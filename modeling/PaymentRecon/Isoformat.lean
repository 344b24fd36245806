import Mathlib.Tactic.IntervalCases
import PaymentRecon.Timeutils

/-!
# `datetime.fromisoformat`

The parser of Python 3.11 and later, under the names of its functions in `Lib/datetime.py`. It reads a
date in one of the forms `YYYY-MM-DD`, `YYYYMMDD`, `YYYY-Www-D`, and `YYYYWwwD` (the day of the week may
be left out), any one character, and a time `HH:MM:SS.f` with or without its colons and its last parts,
with an offset from UTC. A digit is one of ASCII, as in the implementation in C. A `Datetime` is what
comes out: the fields as they were written and the offset, and `Datetime.toUtc` converts it, which
overflows when the instant leaves the years 1 to 9999.

`fromisoformat_formatTs` says that it reads the canonical form back.
-/

namespace PaymentRecon

/-! ## Fields -/

/-- The value of decimal digits. -/
def digitsValue (digits : List Char) : ℕ := digits.foldl (fun n c => 10 * n + (c.toNat - 48)) 0

/-- A field of a given number of digits, and what follows it. -/
def readDigits (width : ℕ) (s : List Char) : Option (ℕ × List Char) :=
  let field := s.take width
  if field.length = width ∧ field.all Char.isDigit = true then
    some (digitsValue field, s.drop width)
  else none

/-- The separator between two fields, which is there in the extended format and only there. -/
def readSeparator (extended : Bool) (separator : Char) (s : List Char) : Option (List Char) :=
  if extended then
    if s.head? = some separator then some s.tail else none
  else some s

/-! ## Dates -/

/-- `_isoweek_to_gregorian`: the date of a day of an ISO week. -/
def isoweekToGregorian (year week day : ℕ) : Option (ℕ × ℕ × ℕ) :=
  -- The day of the week of the first of January, 0 for Monday.
  let firstWeekday := daysBeforeYear year % 7
  let isLong := firstWeekday = 3 ∨ (firstWeekday = 2 ∧ isLeap year = true)
  if ¬ (1 ≤ year ∧ year ≤ 9999) then none
  else if ¬ (1 ≤ week ∧ (week ≤ 52 ∨ (week = 53 ∧ isLong))) then none
  else if ¬ (1 ≤ day ∧ day ≤ 7) then none
  else
    -- The first week is the one with the first Thursday.
    let monday := daysBeforeYear year - firstWeekday + if firstWeekday > 3 then 7 else 0
    some (Utc.ord2ymd (monday + (week - 1) * 7 + (day - 1)))

/-- `_parse_isoformat_date`. It does not look at what follows the day. -/
def parseIsoformatDate (s : List Char) : Option (ℕ × ℕ × ℕ) :=
  (readDigits 4 s).bind fun (year, s) =>
    let extended := s.head? == some '-'
    let s := if extended then s.tail else s
    if s.head? = some 'W' then
      (readDigits 2 s.tail).bind fun (week, s) =>
        if s = [] then isoweekToGregorian year week 1
        else (readSeparator extended '-' s).bind fun s =>
          (readDigits 1 s).bind fun (day, _) => isoweekToGregorian year week day
    else
      (readDigits 2 s).bind fun (month, s) =>
        (readSeparator extended '-' s).bind fun s =>
          (readDigits 2 s).map fun (day, _) => (year, month, day)

/-- `_find_isoformat_datetime_separator`: the length of the date. -/
def findDatetimeSeparator (s : List Char) : Option ℕ :=
  if s.length = 7 then some 7
  else if s[4]? = some '-' then
    if s[5]? = some 'W' then
      if s[8]? = some '-' then
        if s.length = 9 then none
        -- `YYYY-Www-##`: the hyphen is taken as the separator.
        else if s[10]?.any Char.isDigit then some 8
        else some 10
      else some 8
    else some 10
  else if s[4]? = some 'W' then
    -- `YYYYWww` or `YYYYWwwD`, by the number of digits that follow.
    let idx := 7 + ((s.drop 7).takeWhile Char.isDigit).length
    if idx < 9 then some idx else if idx % 2 = 0 then some 7 else some 8
  else some 8

/-! ## Times -/

/-- The fields of a time of day. -/
structure Clock where
  /-- The hours. -/
  hour : ℕ
  /-- The minutes. -/
  minute : ℕ
  /-- The seconds. -/
  second : ℕ
  /-- The microseconds. -/
  microsecond : ℕ
deriving DecidableEq

/-- The microseconds of a time of day. -/
def Clock.micros (c : Clock) : ℕ :=
  ((c.hour * 60 + c.minute) * 60 + c.second) * 1000000 + c.microsecond

/-- The microseconds that the digits after the decimal mark stand for. Those beyond the sixth are
dropped. -/
def readFraction (s : List Char) : Option ℕ :=
  if s ≠ [] ∧ s.all Char.isDigit = true then
    some (digitsValue (s.take 6) * 10 ^ (6 - s.length))
  else none

/-- `_parse_hh_mm_ss_ff`. -/
def parseClock (s : List Char) : Option Clock :=
  (readDigits 2 s).bind fun (hour, s) =>
    let extended := s.head? == some ':'
    if s = [] then some ⟨hour, 0, 0, 0⟩
    else (readSeparator extended ':' s).bind fun s =>
      (readDigits 2 s).bind fun (minute, s) =>
        if s = [] then some ⟨hour, minute, 0, 0⟩
        else (readSeparator extended ':' s).bind fun s =>
          (readDigits 2 s).bind fun (second, s) =>
            match s with
            | [] => some ⟨hour, minute, second, 0⟩
            | mark :: s =>
              if mark = '.' ∨ mark = ',' then
                (readFraction s).map fun microsecond => ⟨hour, minute, second, microsecond⟩
              else none

/-- Whether a character begins the offset of a time. -/
def isZone (c : Char) : Bool := c == '+' || c == '-' || c == 'Z'

/-- `_parse_isoformat_time`: the time and, if there is one, its offset from UTC in microseconds. -/
def parseIsoformatTime (s : List Char) : Option (Clock × Option ℤ) :=
  (parseClock (s.takeWhile fun c => !isZone c)).bind fun clock =>
    match s.dropWhile fun c => !isZone c with
    | [] => some (clock, none)
    | sign :: zone =>
      if sign = 'Z' then
        if zone = [] then some (clock, some 0) else none
      else (parseClock zone).map fun offset =>
        (clock, some (if sign = '-' then -offset.micros else offset.micros))

/-! ## Datetimes -/

/-- The offset of a `timezone` is less than a day. -/
def ValidOffset (offset : Option ℤ) : Prop :=
  ∀ o ∈ offset, -86400000000 < o ∧ o < 86400000000

instance (offset : Option ℤ) : Decidable (ValidOffset offset) :=
  inferInstanceAs (Decidable (∀ o ∈ offset, -86400000000 < o ∧ o < 86400000000))

/-- A `datetime`, naive or aware. -/
structure Datetime where
  /-- The fields as they read. -/
  fields : Utc
  /-- The offset from UTC in microseconds; none of a naive `datetime`. -/
  offset : Option ℤ
  /-- The offset is less than a day. -/
  offset_valid : ValidOffset offset

/-- `datetime.fromisoformat`; `none` for `ValueError`. -/
def fromisoformat (s : String) : Option Datetime :=
  let s := s.toList
  if s.length < 7 then none
  else (findDatetimeSeparator s).bind fun location =>
    (parseIsoformatDate (s.take location)).bind fun (year, month, day) =>
      let time : Option (Clock × Option ℤ) := match s.drop location with
        | [] => some (⟨0, 0, 0, 0⟩, none)
        | _ :: time => parseIsoformatTime time
      time.bind fun (clock, offset) =>
        if h : ValidFields year month day clock.hour clock.minute clock.second clock.microsecond ∧
            ValidOffset offset then
          some ⟨⟨_, _, _, _, _, _, _, h.1⟩, offset, h.2⟩
        else none

/-- `to_utc`; `none` for the `OverflowError` of `astimezone`. -/
def Datetime.toUtc (value : Datetime) : Option Utc :=
  match value.offset with
  | none | some 0 => some value.fields
  | some offset =>
    let micros := value.fields.micros - offset
    if micros < 0 then none else Utc.ofMicros micros.toNat

/-! ## The canonical form is read back -/

/-- A field has its width. -/
@[simp] theorem length_pad (width n : ℕ) : (pad width n).length = width := by
  induction width generalizing n with
  | zero => rfl
  | succ width ih => rw [pad, List.length_append, ih, List.length_singleton]

/-- The digit of a number below ten, and its value. -/
theorem digitChar_spec {d : ℕ} (h : d < 10) :
    (Nat.digitChar d).isDigit = true ∧ (Nat.digitChar d).toNat - 48 = d := by
  interval_cases d <;> decide

/-- A padded field consists of digits. -/
theorem isDigit_of_mem_pad {width n : ℕ} {c : Char} (h : c ∈ pad width n) : c.isDigit = true := by
  induction width generalizing n with
  | zero => cases h
  | succ width ih =>
    rw [pad, List.mem_append, List.mem_singleton] at h
    rcases h with h | rfl
    · exact ih h
    · exact (digitChar_spec (Nat.mod_lt n (by decide))).1

/-- A digit takes one byte. -/
theorem utf8Size_of_isDigit {c : Char} (h : c.isDigit = true) : c.utf8Size = 1 := by
  simp only [Char.isDigit, Bool.and_eq_true, decide_eq_true_eq, ge_iff_le, UInt32.le_iff_toNat_le] at h
  have hhigh : c.toNat ≤ 57 := h.2
  rw [Char.utf8Size, if_pos (UInt32.le_iff_toNat_le.2 (hhigh.trans (by decide)))]

/-- What begins with a padded field begins with a digit. -/
theorem head?_pad_append (width n : ℕ) (rest : List Char) {c : Char} (hc : c.isDigit = false) :
    (pad (width + 1) n ++ rest).head? ≠ some c := by
  intro hhead
  obtain ⟨first, tail, hpad⟩ : ∃ first tail, pad (width + 1) n = first :: tail :=
    List.exists_cons_of_length_eq_add_one (length_pad _ _)
  have hdigit := isDigit_of_mem_pad (hpad ▸ List.mem_cons_self : first ∈ pad (width + 1) n)
  rw [hpad, List.cons_append, List.head?_cons, Option.some.injEq] at hhead
  rw [hhead, hc] at hdigit
  cases hdigit

/-- One more digit. -/
theorem digitsValue_concat (digits : List Char) (c : Char) :
    digitsValue (digits ++ [c]) = 10 * digitsValue digits + (c.toNat - 48) := by
  rw [digitsValue, List.foldl_append]
  rfl

/-- The value of a padded field is what it was made from, up to its width. -/
theorem digitsValue_pad (width n : ℕ) : digitsValue (pad width n) = n % 10 ^ width := by
  induction width generalizing n with
  | zero => rw [pow_zero, Nat.mod_one, pad, digitsValue, List.foldl_nil]
  | succ width ih =>
    have hlast := (digitChar_spec (Nat.mod_lt n (by decide : 0 < 10))).2
    rw [pad, digitsValue_concat, ih, hlast, pow_succ', Nat.mod_mul, Nat.add_comm]

/-- A padded field is read back. -/
theorem readDigits_pad {width n : ℕ} (h : n < 10 ^ width) (rest : List Char) :
    readDigits width (pad width n ++ rest) = some (n, rest) := by
  have htake : (pad width n ++ rest).take width = pad width n :=
    List.take_left' (length_pad width n)
  have hdrop : (pad width n ++ rest).drop width = rest := List.drop_left' (length_pad width n)
  have hall : (pad width n).all Char.isDigit = true :=
    List.all_eq_true.2 fun c hc => isDigit_of_mem_pad hc
  rw [readDigits, htake, hdrop]
  simp only [length_pad, hall, and_self, if_true, digitsValue_pad, Nat.mod_eq_of_lt h]

/-- A fraction of six digits is read back. -/
theorem readFraction_pad {n : ℕ} (h : n < 10 ^ 6) : readFraction (pad 6 n) = some n := by
  have hall : (pad 6 n).all Char.isDigit = true :=
    List.all_eq_true.2 fun c hc => isDigit_of_mem_pad hc
  have htake : (pad 6 n).take 6 = pad 6 n := List.take_of_length_le (length_pad 6 n).le
  have hne : pad 6 n ≠ [] := by
    intro hnil
    have := length_pad 6 n
    rw [hnil] at this
    cases this
  rw [readFraction, if_pos ⟨hne, hall⟩, htake, digitsValue_pad, length_pad, Nat.mod_eq_of_lt h,
    Nat.sub_self, pow_zero, Nat.mul_one]

/-- A digit does not begin an offset. -/
theorem isZone_of_isDigit {c : Char} (h : c.isDigit = true) : isZone c = false := by
  rw [Bool.eq_false_iff]
  intro hzone
  simp only [isZone, Bool.or_eq_true, beq_iff_eq] at hzone
  rcases hzone with (rfl | rfl) | rfl <;> exact absurd h (by decide)

/-- A time in the canonical form is read back. -/
theorem parseIsoformatTime_pad {hour minute second microsecond : ℕ} (hh : hour < 10 ^ 2)
    (hm : minute < 10 ^ 2) (hs : second < 10 ^ 2) (hus : microsecond < 10 ^ 6) :
    parseIsoformatTime ((pad 2 hour ++ ':' :: pad 2 minute ++ ':' :: pad 2 second ++
        '.' :: pad 6 microsecond) ++ "+00:00".toList) =
      some (⟨hour, minute, second, microsecond⟩, some 0) := by
  have hparse : parseClock (pad 2 hour ++ ':' :: pad 2 minute ++ ':' :: pad 2 second ++
      '.' :: pad 6 microsecond) = some ⟨hour, minute, second, microsecond⟩ := by
    simp only [List.append_assoc, List.cons_append]
    rw [parseClock, readDigits_pad hh]
    simp [readSeparator, readDigits_pad hm, readDigits_pad hs, readFraction_pad hus]
  -- No character of the time begins the offset.
  have hclock : ∀ c ∈ pad 2 hour ++ ':' :: pad 2 minute ++ ':' :: pad 2 second ++
      '.' :: pad 6 microsecond, (!isZone c) = true := by
    simp only [List.mem_append, List.mem_cons]
    rintro c ((((h | rfl | h) | rfl | h)) | rfl | h)
    all_goals first | rfl | rw [isZone_of_isDigit (isDigit_of_mem_pad h)]; rfl
  have htake : "+00:00".toList.takeWhile (fun c => !isZone c) = [] := by decide
  have hdrop : "+00:00".toList.dropWhile (fun c => !isZone c) = '+' :: "00:00".toList := by decide
  have hzone : parseClock ['0', '0', ':', '0', '0'] = some ⟨0, 0, 0, 0⟩ := by decide
  rw [parseIsoformatTime, List.takeWhile_append_of_pos hclock, List.dropWhile_append_of_pos hclock,
    htake, hdrop, List.append_nil, hparse, Option.bind_some]
  simp [hzone, Clock.micros]

/-- A date `YYYY-MM-DD` is read back. -/
theorem parseIsoformatDate_pad {year month day : ℕ} (hyear : year < 10 ^ 4) (hmonth : month < 10 ^ 2)
    (hday : day < 10 ^ 2) :
    parseIsoformatDate (pad 4 year ++ '-' :: pad 2 month ++ '-' :: pad 2 day) =
      some (year, month, day) := by
  have hweek := head?_pad_append 1 month ('-' :: pad 2 day) (by decide : 'W'.isDigit = false)
  have hend := @readDigits_pad 2 day hday []
  rw [List.append_nil] at hend
  rw [List.append_assoc, parseIsoformatDate, readDigits_pad hyear]
  simp only [Option.bind_some, List.cons_append, List.head?_cons, beq_self_eq_true, if_true,
    List.tail_cons]
  rw [if_neg hweek, readDigits_pad hmonth]
  simp [readSeparator, hend]

/-- The canonical form of an instant is read back, as an aware `datetime` of offset 0. -/
theorem fromisoformat_formatTs (t : Utc) :
    fromisoformat (formatTs t) = some ⟨t, some 0, by decide⟩ := by
  obtain ⟨⟨_, hyear⟩, ⟨_, hmonth⟩, ⟨_, hday⟩, hhour, hminute, hsecond, hmicrosecond⟩ := t.valid
  have hdays : daysInMonth t.year t.month ≤ 31 := by
    unfold daysInMonth
    split <;> (try split_ifs) <;> omega
  -- The text is a date of ten characters, the separator, and a time.
  obtain ⟨date, hdate⟩ : ∃ date, pad 4 t.year ++ '-' :: pad 2 t.month ++ '-' :: pad 2 t.day = date :=
    ⟨_, rfl⟩
  obtain ⟨time, htime⟩ : ∃ time, (pad 2 t.hour ++ ':' :: pad 2 t.minute ++ ':' :: pad 2 t.second ++
      '.' :: pad 6 t.microsecond) ++ "+00:00".toList = time := ⟨_, rfl⟩
  have htext : (formatTs t).toList = date ++ 'T' :: time := by
    rw [formatTs, String.toList_ofList, ← hdate, ← htime]
    simp only [List.append_assoc, List.cons_append]
  have hlength : date.length = 10 := by
    rw [← hdate]
    simp
  have hparse : parseIsoformatDate date = some (t.year, t.month, t.day) := by
    rw [← hdate]
    exact parseIsoformatDate_pad (by omega) (by omega) (by omega)
  have hlocation : findDatetimeSeparator (date ++ 'T' :: time) = some 10 := by
    have hdash : (date ++ 'T' :: time)[4]? = some '-' := by
      rw [← hdate]
      simp
    have hweek : (date ++ 'T' :: time)[5]? ≠ some 'W' := by
      have := head?_pad_append 1 t.month ('-' :: pad 2 t.day ++ 'T' :: time)
        (by decide : 'W'.isDigit = false)
      rw [List.head?_eq_getElem?] at this
      rw [← hdate]
      simp only [List.append_assoc, List.cons_append] at this ⊢
      rwa [List.getElem?_append_right (by simp), length_pad, List.getElem?_cons_succ]
    have hseven : (date ++ 'T' :: time).length ≠ 7 := by
      rw [List.length_append, hlength]
      omega
    rw [findDatetimeSeparator, if_neg hseven, if_pos hdash, if_neg hweek]
  have hlong : ¬ (date ++ 'T' :: time).length < 7 := by
    rw [List.length_append, hlength]
    omega
  have hdate' : (date ++ 'T' :: time).take 10 = date := List.take_left' hlength
  have htime' : (date ++ 'T' :: time).drop 10 = 'T' :: time := List.drop_left' hlength
  have hclock : parseIsoformatTime time =
      some (⟨t.hour, t.minute, t.second, t.microsecond⟩, some 0) := by
    rw [← htime]
    exact parseIsoformatTime_pad (by omega) (by omega) (by omega) (by omega)
  rw [fromisoformat]
  simp only [htext, hlong, if_false, hlocation, Option.bind_some, hdate', hparse, htime', hclock]
  rw [dif_pos ⟨t.valid, by decide⟩]

example : ((fromisoformat "2026-W02-4T14:11:58,5+02:00").bind Datetime.toUtc).map formatTs =
    some "2026-01-08T12:11:58.500000+00:00" := by decide +kernel

end PaymentRecon
