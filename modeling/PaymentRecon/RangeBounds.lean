import PaymentRecon.Days

/-!
# The bounds of a date range

`range_lower_bound` and `range_upper_bound` complete a text of ten characters to a timestamp as it
stands, once `date.fromisoformat` has accepted it, and normalise every other text. A date `YYYY-MM-DD`
becomes the two ends of its day (`rangeLowerBound_text`, `rangeUpperBound_text`). A date `YYYY-Www-D` has
ten characters too, and so has a date without hyphens with two characters after it, which nobody looks at;
they become texts that are no canonical timestamps. `range_bounds_exact_iff` says that nothing else goes
wrong.
-/

namespace PaymentRecon

/-! ## Days -/

namespace Day

variable (d : Day)

/-- The first microsecond is the day with the suffix of a lower bound. -/
theorem text_append_start : d.text ++ "T00:00:00.000000+00:00" = formatTs d.start := by
  apply String.toList_injective
  have hsuffix : "T00:00:00.000000+00:00".toList = 'T' :: (pad 2 0 ++ ':' :: pad 2 0 ++
      ':' :: pad 2 0 ++ '.' :: pad 6 0 ++ "+00:00".toList) := by decide
  rw [String.toList_append, hsuffix, toList_formatTs]
  rfl

/-- The last microsecond is the day with the suffix of an upper bound. -/
theorem text_append_finish : d.text ++ "T23:59:59.999999+00:00" = formatTs d.finish := by
  apply String.toList_injective
  have hsuffix : "T23:59:59.999999+00:00".toList = 'T' :: (pad 2 23 ++ ':' :: pad 2 59 ++
      ':' :: pad 2 59 ++ '.' :: pad 6 999999 ++ "+00:00".toList) := by decide
  rw [String.toList_append, hsuffix, toList_formatTs]
  rfl

/-- A day is written without blanks. -/
theorem strip_text : strip d.text = d.text := by
  refine strip_of_not_isSpace fun c hc => @isSpace_of_mem_formatTs d.start c ?_
  rw [toList_formatTs]
  exact List.mem_append_left _ hc

/-- The bounds of a text that is a day are the ends of the day. -/
theorem rangeBound_of_strip {value : String} (h : strip value = d.text) (suffix : String) :
    rangeBound suffix value = .ok (d.text ++ suffix) := by
  simp only [rangeBound, h, length_text, if_true, dateFromisoformat_text]
  rfl

/-- The lower bound of a day is its start. -/
theorem rangeLowerBound_text : rangeLowerBound d.text = .ok (formatTs d.start) := by
  rw [← text_append_start]
  exact d.rangeBound_of_strip d.strip_text _

/-- The upper bound of a day is its last microsecond. -/
theorem rangeUpperBound_text : rangeUpperBound d.text = .ok (formatTs d.finish) := by
  rw [← text_append_finish]
  exact d.rangeBound_of_strip d.strip_text _

end Day

/-- The text has the hyphen of `YYYY-MM-DD` after the year, and no week there. -/
def CalendarForm (s : String) : Prop := s.toList[4]? = some '-' ∧ s.toList[5]? ≠ some 'W'

instance (s : String) : Decidable (CalendarForm s) := inferInstanceAs (Decidable (_ ∧ _))

/-- A text of ten characters that is read as a date and has the calendar form is a day. -/
theorem exists_day {s : String} {year month day : ℕ} (hs : s.length = 10)
    (h : dateFromisoformat s = some (year, month, day)) (hform : CalendarForm s) :
    ∃ d : Day, s = d.text ∧ (d.year, d.month, d.day) = (year, month, day) := by
  obtain ⟨hhyphen, hweek⟩ := hform
  unfold dateFromisoformat at h
  split_ifs at h
  obtain ⟨hparse, hvalid⟩ := Option.filter_eq_some_iff.1 h
  obtain ⟨year', extended, _, hcases⟩ := parseIsoformatDate_cases hparse
  rw [← String.length_toList] at hs
  rcases hcases with ⟨month', day', rest, _, _, hdate, hshape⟩ | ⟨week, _, hshape⟩ |
    ⟨week, day', rest, _, hshape⟩
  · cases hdate
    refine ⟨⟨year, month, day, of_decide_eq_true hvalid⟩, ?_, rfl⟩
    cases extended with
    | false =>
      -- Without the hyphens, the digits of the month stand there.
      rw [hshape] at hhyphen
      simp [isoSeparator] at hhyphen
      have hdigit := @isDigit_of_mem_pad 2 month '-' (hhyphen ▸ List.getElem_mem _)
      cases hdigit
    | true =>
      -- The hyphens and the digits are all ten characters.
      have hrest : rest = [] := by
        rw [hshape] at hs
        simp [isoSeparator] at hs
        exact List.length_eq_zero_iff.1 (by omega)
      apply String.toList_injective
      rw [hshape, hrest, Day.text, String.toList_ofList]
      simp [isoSeparator]
  all_goals
    rw [hshape] at hhyphen hweek
    cases extended <;> simp [isoSeparator] at hhyphen hweek
  -- The week stands after the hyphen.
  refine absurd ?_ hweek
  rw [List.getElem?_append_right (by simp), length_pad]
  rfl

/-! ## Exact bounds -/

/-- The bounds of a text are canonical timestamps, so that comparing texts with them compares instants;
they are in order; and between the bounds of a date lie the instants of the day. -/
def RangeBoundsExact (value lower upper : String) : Prop :=
  (∃ l u : Utc, formatTs l = lower ∧ formatTs u = upper ∧ ∀ x : Utc,
      (formatTs x < lower ↔ x.micros < l.micros) ∧ (lower < formatTs x ↔ l.micros < x.micros) ∧
      (formatTs x < upper ↔ x.micros < u.micros) ∧ (upper < formatTs x ↔ u.micros < x.micros)) ∧
    lower ≤ upper ∧
    ∀ date, (strip value).length = 10 → dateFromisoformat (strip value) = some date →
      ∀ x : Utc, (lower ≤ formatTs x ∧ formatTs x ≤ upper ↔ (x.year, x.month, x.day) = date)

/-- The ends of a day are exact bounds of the text of the day. -/
theorem rangeBoundsExact_of_day {value : String} {d : Day} (h : strip value = d.text) :
    RangeBoundsExact value (formatTs d.start) (formatTs d.finish) := by
  refine ⟨⟨d.start, d.finish, rfl, rfl, fun x => ⟨formatTs_lt_iff, formatTs_lt_iff, formatTs_lt_iff,
    formatTs_lt_iff⟩⟩, ?_, fun date _ hdate x => ?_⟩
  · rw [formatTs_le_iff, Day.micros_start, Day.micros_finish]
    exact Nat.le_add_right _ _
  · rw [h, Day.dateFromisoformat_text] at hdate
    rw [formatTs_le_iff, formatTs_le_iff, ← Day.date_eq_iff, ← Option.some.inj hdate]
    obtain ⟨year, month, day, _⟩ := d
    simp [Utc.date]

/-- An instant is an exact bound on both sides. -/
theorem rangeBoundsExact_of_instant {value : String} (h : (strip value).length ≠ 10) (t : Utc) :
    RangeBoundsExact value (formatTs t) (formatTs t) :=
  ⟨⟨t, t, rfl, rfl, fun _ => ⟨formatTs_lt_iff, formatTs_lt_iff, formatTs_lt_iff, formatTs_lt_iff⟩⟩,
    le_rfl, fun _ hten => absurd hten h⟩

/-- A canonical timestamp has the calendar form. -/
theorem calendarForm_formatTs (t : Utc) : CalendarForm (formatTs t) := by
  obtain ⟨rest, hrest⟩ : ∃ rest, (formatTs t).toList = pad 4 t.year ++ '-' :: (pad 2 t.month ++ rest) := by
    rw [formatTs, String.toList_ofList]
    simp only [List.append_assoc, List.cons_append]
    exact ⟨_, rfl⟩
  refine ⟨by rw [hrest]; simp, ?_⟩
  rw [hrest, List.getElem?_append_right (by simp), length_pad, List.getElem?_cons_succ,
    ← List.head?_eq_getElem?]
  exact head?_pad_append 1 t.month rest (by decide)

/-- Exactly when the bounds of a range are exact: for every text that both functions accept, they are if
and only if the text has the form `YYYY-MM-DD` when it is ten characters long. -/
theorem range_bounds_exact_iff {value lower upper : String} (hl : rangeLowerBound value = .ok lower)
    (hu : rangeUpperBound value = .ok upper) :
    RangeBoundsExact value lower upper ↔ ((strip value).length = 10 → CalendarForm (strip value)) := by
  by_cases hten : (strip value).length = 10
  · have hdate : ∃ date, dateFromisoformat (strip value) = some date := by
      refine Option.ne_none_iff_exists'.1 fun hnone => ?_
      simp only [rangeLowerBound, rangeBound, hten, hnone, if_true] at hl
      cases hl
    obtain ⟨⟨year, month, day⟩, hdate⟩ := hdate
    by_cases hform : CalendarForm (strip value)
    swap
    · refine iff_of_false ?_ (fun h => hform (h hten))
      rintro ⟨⟨l, u, hlower, _⟩, _⟩
      -- The lower bound begins with the text.
      have htext : strip value ++ "T00:00:00.000000+00:00" = lower := by
        simp only [rangeLowerBound, rangeBound, hten, hdate, if_true] at hl
        exact Except.ok.inj hl
      have hsame : ∀ i < 10, (formatTs l).toList[i]? = (strip value).toList[i]? := by
        intro i hi
        rw [hlower, ← htext, String.toList_append, List.getElem?_append_left]
        rwa [String.length_toList, hten]
      have hcanonical := calendarForm_formatTs l
      rw [CalendarForm, hsame 4 (by decide), hsame 5 (by decide)] at hcanonical
      exact hform hcanonical
    · obtain ⟨d, hd, _⟩ := exists_day hten hdate hform
      have hlower := d.rangeBound_of_strip hd "T00:00:00.000000+00:00"
      have hupper := d.rangeBound_of_strip hd "T23:59:59.999999+00:00"
      rw [Day.text_append_start] at hlower
      rw [Day.text_append_finish] at hupper
      obtain rfl := Except.ok.inj (hl.symm.trans hlower)
      obtain rfl := Except.ok.inj (hu.symm.trans hupper)
      exact iff_of_true (rangeBoundsExact_of_day hd) (fun _ => hform)
  · simp only [rangeLowerBound, rangeUpperBound, rangeBound, hten, if_false] at hl hu
    obtain ⟨t, _, rfl⟩ := normaliseTs_eq_ok.1 hl
    obtain rfl := Except.ok.inj (hl.symm.trans hu)
    exact iff_of_true (rangeBoundsExact_of_instant hten t) (fun h => absurd h hten)

/-- The bounds of the eighth of January. -/
theorem range_bounds_exact_iff_day :
    RangeBoundsExact " 2026-01-08 " "2026-01-08T00:00:00.000000+00:00"
        "2026-01-08T23:59:59.999999+00:00" :=
  (range_bounds_exact_iff (by decide +kernel) (by decide +kernel)).2 fun _ => by decide

/-- The eighth of January is also the fourth day of the second week. Written so, it is accepted as a
bound, but the texts that come out are no timestamps, and an instant of the day does not lie between
them. The same goes for a date without hyphens that two characters follow. -/
theorem week_bounds_not_exact :
    rangeLowerBound "2026-W02-4" = .ok "2026-W02-4T00:00:00.000000+00:00" ∧
      rangeUpperBound "2026-W02-4" = .ok "2026-W02-4T23:59:59.999999+00:00" ∧
      dateFromisoformat "2026-W02-4" = some (2026, 1, 8) ∧
      ¬ "2026-W02-4T00:00:00.000000+00:00" ≤ "2026-01-08T12:11:58.085567+00:00" ∧
      (∀ text ∈ ["2026010812", "20260108xx", "2026W024xx"],
        rangeLowerBound text = .ok (text ++ "T00:00:00.000000+00:00") ∧
          dateFromisoformat text = some (2026, 1, 8) ∧
          ¬ text ++ "T00:00:00.000000+00:00" ≤ "2026-01-08T12:11:58.085567+00:00") ∧
      ¬ ∀ value lower upper, rangeLowerBound value = .ok lower → rangeUpperBound value = .ok upper →
        RangeBoundsExact value lower upper := by
  have hlower : rangeLowerBound "2026-W02-4" = .ok "2026-W02-4T00:00:00.000000+00:00" := by
    decide +kernel
  have hupper : rangeUpperBound "2026-W02-4" = .ok "2026-W02-4T23:59:59.999999+00:00" := by
    decide +kernel
  have hdate : dateFromisoformat "2026-W02-4" = some (2026, 1, 8) := by decide +kernel
  have hnot : ¬ "2026-W02-4T00:00:00.000000+00:00" ≤ "2026-01-08T12:11:58.085567+00:00" := by
    decide +kernel
  refine ⟨hlower, hupper, hdate, hnot, by decide +kernel, fun h => ?_⟩
  have hday := (h _ _ _ hlower hupper).2.2 (2026, 1, 8) (by decide +kernel) (by decide +kernel)
    ⟨2026, 1, 8, 12, 11, 58, 85567, by decide⟩
  exact hnot (hday.2 rfl).1

end PaymentRecon
