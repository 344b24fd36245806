import PaymentRecon.Timestamps

/-!
# What the timestamp parser accepts

A date that `fromisoformat` reads begins in one of six ways, with the digits of its fields padded
(`parseIsoformatDate_cases`). A text without an offset is read as one with the offset `+00:00` is
(`fromisoformat_append_utc`), which `parse_ts` writes for a last `Z` or `z` (`reading_append_z`).
-/

namespace PaymentRecon

/-! ## Fields -/

/-- A digit is that of its value. -/
theorem digitChar_toNat {c : Char} (h : c.isDigit = true) :
    c.toNat - 48 < 10 ∧ Nat.digitChar (c.toNat - 48) = c := by
  simp only [Char.isDigit, Bool.and_eq_true, decide_eq_true_eq, ge_iff_le,
    UInt32.le_iff_toNat_le] at h
  have hlow : 48 ≤ c.toNat := h.1
  have hhigh : c.toNat ≤ 57 := h.2
  refine ⟨by omega, ?_⟩
  have hchar : c = Char.ofNat c.toNat := (Char.ofNat_toNat c).symm
  obtain ⟨n, hn⟩ : ∃ n, c.toNat = n := ⟨_, rfl⟩
  rw [hn] at hlow hhigh hchar ⊢
  rw [hchar]
  interval_cases n <;> decide

/-- A field of digits is the padded field of its value. -/
theorem pad_digitsValue {digits : List Char} (h : digits.all Char.isDigit = true) :
    pad digits.length (digitsValue digits) = digits ∧
      digitsValue digits < 10 ^ digits.length := by
  induction digits using List.reverseRecOn with
  | nil => exact ⟨rfl, by decide⟩
  | append_singleton digits c ih =>
    rw [List.all_append, Bool.and_eq_true] at h
    obtain ⟨hpad, hlt⟩ := ih h.1
    obtain ⟨hc, hchar⟩ := digitChar_toNat (by simpa using h.2 : c.isDigit = true)
    have hdiv : (10 * digitsValue digits + (c.toNat - 48)) / 10 = digitsValue digits := by omega
    have hmod : (10 * digitsValue digits + (c.toNat - 48)) % 10 = c.toNat - 48 := by omega
    rw [List.length_append, List.length_singleton, digitsValue_concat, pad, hdiv, hmod, hpad, hchar,
      pow_succ]
    exact ⟨rfl, by omega⟩

/-- What `readDigits` reads is a padded field. -/
theorem readDigits_eq_some {width n : ℕ} {s rest : List Char}
    (h : readDigits width s = some (n, rest)) : s = pad width n ++ rest ∧ n < 10 ^ width := by
  simp only [readDigits] at h
  split_ifs at h with hfield
  obtain ⟨hlength, hdigits⟩ := hfield
  obtain ⟨hpad, hlt⟩ := pad_digitsValue hdigits
  rw [hlength] at hpad hlt
  simp only [Option.some.injEq, Prod.mk.injEq] at h
  obtain ⟨rfl, rfl⟩ := h
  exact ⟨by rw [hpad, List.take_append_drop], hlt⟩

/-- The separator of the extended format, and nothing in the basic one. -/
def isoSeparator (extended : Bool) : List Char := if extended then ['-'] else []

/-- What `readSeparator` reads. -/
theorem readSeparator_eq_some {extended : Bool} {s rest : List Char}
    (h : readSeparator extended '-' s = some rest) : s = isoSeparator extended ++ rest := by
  unfold readSeparator at h
  unfold isoSeparator
  cases extended with
  | false => exact Option.some.inj h
  | true =>
    simp only [if_true] at h ⊢
    split_ifs at h with hhead
    obtain rfl := Option.some.inj h
    exact (List.cons_head?_tail hhead).symm

/-! ## Dates -/

/-- A date is a year, a month, and a day, or a year, a week, and perhaps a day of the week, with
hyphens between them or without. Anything may follow a day. -/
theorem parseIsoformatDate_cases {s : List Char} {date : ℕ × ℕ × ℕ}
    (h : parseIsoformatDate s = some date) :
    ∃ year extended, year < 10 ^ 4 ∧
      ((∃ month day rest, month < 10 ^ 2 ∧ day < 10 ^ 2 ∧ date = (year, month, day) ∧
          s = pad 4 year ++ isoSeparator extended ++ pad 2 month ++ isoSeparator extended ++
            pad 2 day ++ rest) ∨
        (∃ week, isoweekToGregorian year week 1 = some date ∧
          s = pad 4 year ++ isoSeparator extended ++ 'W' :: pad 2 week) ∨
        ∃ week day rest, isoweekToGregorian year week day = some date ∧
          s = pad 4 year ++ isoSeparator extended ++ 'W' :: pad 2 week ++ isoSeparator extended ++
            pad 1 day ++ rest) := by
  unfold parseIsoformatDate at h
  obtain ⟨⟨year, s₁⟩, hyear, h⟩ := Option.bind_eq_some_iff.1 h
  obtain ⟨hs, hlt⟩ := readDigits_eq_some hyear
  obtain ⟨extended, hextended⟩ : ∃ extended, (s₁.head? == some '-') = extended := ⟨_, rfl⟩
  -- What follows the separator.
  obtain ⟨s₂, hs₂⟩ : ∃ s₂, (if extended then s₁.tail else s₁) = s₂ := ⟨_, rfl⟩
  have hs₁ : s₁ = isoSeparator extended ++ s₂ := by
    unfold isoSeparator
    cases extended with
    | false => exact hs₂
    | true =>
      rw [if_pos rfl] at hs₂ ⊢
      rw [← hs₂]
      exact (List.cons_head?_tail (beq_iff_eq.1 hextended)).symm
  refine ⟨year, extended, hlt, ?_⟩
  dsimp only at h
  rw [hextended, hs₂] at h
  split_ifs at h with hweek
  · have hs₂' : s₂ = 'W' :: s₂.tail := (List.cons_head?_tail hweek).symm
    obtain ⟨⟨week, s₃⟩, hread, h⟩ := Option.bind_eq_some_iff.1 h
    obtain ⟨htail, _⟩ := readDigits_eq_some hread
    dsimp only at h
    split_ifs at h with hend
    · subst hend
      exact .inr (.inl ⟨week, h, by rw [hs, hs₁, hs₂', htail]; simp⟩)
    · obtain ⟨s₄, hseparator, h⟩ := Option.bind_eq_some_iff.1 h
      obtain ⟨⟨day, s₅⟩, hday, h⟩ := Option.bind_eq_some_iff.1 h
      obtain ⟨hs₄, _⟩ := readDigits_eq_some hday
      have hs₃ := readSeparator_eq_some hseparator
      exact .inr (.inr ⟨week, day, s₅, h, by rw [hs, hs₁, hs₂', htail, hs₃, hs₄]; simp⟩)
  · obtain ⟨⟨month, s₃⟩, hread, h⟩ := Option.bind_eq_some_iff.1 h
    obtain ⟨hmonth, hmonthlt⟩ := readDigits_eq_some hread
    dsimp only at h
    obtain ⟨s₄, hseparator, h⟩ := Option.bind_eq_some_iff.1 h
    obtain ⟨⟨day, s₅⟩, hday, hdate⟩ := Option.map_eq_some_iff.1 h
    obtain ⟨hs₄, hdaylt⟩ := readDigits_eq_some hday
    have hs₃ := readSeparator_eq_some hseparator
    exact .inl ⟨month, day, s₅, hmonthlt, hdaylt, hdate.symm,
      by rw [hs, hs₁, hmonth, hs₃, hs₄]; simp⟩

/-! ## Texts without an offset -/

/-- `+00:00`. -/
def utcSuffix : List Char := "+00:00".toList

/-- What the suffix begins with is seen at the end of a text only, and by no test that is made
there. -/
theorem getElem?_append_utc {s : List Char} {i : ℕ} (hi : i ≤ s.length) {p : Char → Bool}
    (hp : p '+' = false) : (s ++ utcSuffix)[i]?.any p = s[i]?.any p := by
  rcases Nat.lt_or_eq_of_le hi with hlt | rfl
  · rw [List.getElem?_append_left hlt]
  · rw [List.getElem?_append_right le_rfl, Nat.sub_self, List.getElem?_eq_none le_rfl]
    exact hp

/-- A character that the suffix does not begin with. -/
theorem getElem?_append_utc_eq_some {s : List Char} {i : ℕ} (hi : i ≤ s.length) {c : Char}
    (hc : c ≠ '+') : (s ++ utcSuffix)[i]? = some c ↔ s[i]? = some c := by
  have hany := @getElem?_append_utc s i hi (fun d => d == c) (beq_false_of_ne hc.symm)
  have heq : ∀ x : Option Char, x = some c ↔ x.any (fun d => d == c) = true := by
    rintro (_ | d) <;> simp
  rw [heq, heq, hany]

/-- A time without an offset, completed. -/
theorem parseIsoformatTime_append_utc {s : List Char} {clock : Clock}
    (h : parseIsoformatTime s = some (clock, none)) :
    parseIsoformatTime (s ++ utcSuffix) = some (clock, some 0) := by
  obtain ⟨clock', hclock, hzone⟩ := Option.bind_eq_some_iff.1 h
  -- An offset would show in the result.
  have hnil : (s.dropWhile fun c => !isZone c) = [] := by
    cases hdrop : s.dropWhile fun c => !isZone c with
    | nil => rfl
    | cons sign zone =>
      rw [hdrop] at hzone
      dsimp only at hzone
      split_ifs at hzone
      · cases hzone
      all_goals
        obtain ⟨_, _, hoffset⟩ := Option.map_eq_some_iff.1 hzone
        cases hoffset
  rw [hnil] at hzone
  obtain rfl : clock' = clock := congrArg Prod.fst (Option.some.inj hzone)
  have hall : ∀ c ∈ s, (!isZone c) = true := List.dropWhile_eq_nil_iff.1 hnil
  have htake : (s.takeWhile fun c => !isZone c) = s := List.takeWhile_eq_self_iff.2 hall
  have hsuffix : (utcSuffix.takeWhile fun c => !isZone c) = [] := by decide
  have hrest : (utcSuffix.dropWhile fun c => !isZone c) = '+' :: "00:00".toList := by decide
  have hoffset : parseClock "00:00".toList = some ⟨0, 0, 0, 0⟩ := by decide
  rw [htake] at hclock
  rw [parseIsoformatTime, List.takeWhile_append_of_pos hall, List.dropWhile_append_of_pos hall,
    hsuffix, List.append_nil, hclock, Option.bind_some, hrest]
  simp only [hoffset, Option.map_some]
  rfl

/-- A date of seven characters is a week in the basic format. -/
theorem eq_basicWeek_of_length {s : List Char} {date : ℕ × ℕ × ℕ} (h : parseIsoformatDate s = some date)
    (hseven : s.length = 7) : ∃ year week, s = pad 4 year ++ 'W' :: pad 2 week := by
  obtain ⟨year, extended, _, hcases⟩ := parseIsoformatDate_cases h
  rcases hcases with ⟨month, day, rest, _, _, _, hshape⟩ | ⟨week, _, hshape⟩ | ⟨week, day, rest, _, hshape⟩
  all_goals
    have hsize := congrArg List.length hshape
    cases extended <;> simp [isoSeparator, hseven] at hsize hshape
  any_goals omega
  exact ⟨year, week, hshape⟩

/-- A date with a hyphen and no week after the year has ten characters at least. -/
theorem length_of_hyphen {s : List Char} {date : ℕ × ℕ × ℕ} (h : parseIsoformatDate s = some date)
    (hfour : s[4]? = some '-') (hfive : s[5]? ≠ some 'W') : 10 ≤ s.length := by
  obtain ⟨year, extended, _, hcases⟩ := parseIsoformatDate_cases h
  rcases hcases with ⟨month, day, rest, _, _, _, hshape⟩ | ⟨week, _, hshape⟩ | ⟨week, day, rest, _, hshape⟩
  all_goals
    rw [hshape] at hfour hfive ⊢
    cases extended <;> simp [isoSeparator] at hfour hfive ⊢
  any_goals omega
  -- In the basic format, the digits of the month stand there.
  have hdigit := @isDigit_of_mem_pad 2 month '-' (hfour ▸ List.getElem_mem _)
  cases hdigit

/-- The suffix does not begin with a digit. -/
theorem takeWhile_isDigit_append_utc (s : List Char) :
    (s ++ utcSuffix).takeWhile Char.isDigit = s.takeWhile Char.isDigit := by
  have hsuffix : utcSuffix.takeWhile Char.isDigit = [] := by decide
  rw [List.takeWhile_append, hsuffix, List.append_nil]
  split_ifs with hall
  · exact ((List.takeWhile_prefix _).eq_of_length hall).symm
  · rfl

/-- The separator is found where it was before the text was completed. -/
theorem findDatetimeSeparator_append_utc {s : List Char} {location : ℕ} {date : ℕ × ℕ × ℕ}
    (hs : 7 ≤ s.length) (h : findDatetimeSeparator s = some location)
    (hdate : parseIsoformatDate (s.take location) = some date) :
    findDatetimeSeparator (s ++ utcSuffix) = some location ∧ location ≤ s.length := by
  have hlength : (s ++ utcSuffix).length = s.length + 6 := List.length_append
  by_cases hseven : s.length = 7
  · rw [findDatetimeSeparator, if_pos hseven] at h
    obtain rfl := Option.some.inj h
    rw [List.take_of_length_le hseven.le] at hdate
    -- Seven characters are `YYYYWww`; with the suffix, the digits after them decide, and there are none.
    obtain ⟨year, week, hbasic⟩ := eq_basicWeek_of_length hdate hseven
    have hfour : (s ++ utcSuffix)[4]? = some 'W' := by
      rw [hbasic]
      simp
    have hdrop : (s ++ utcSuffix).drop 7 = utcSuffix := List.drop_left' hseven
    refine ⟨?_, hs⟩
    rw [findDatetimeSeparator, if_neg (by omega), hfour, if_neg (by decide), if_pos rfl, hdrop]
    rfl
  · have hlong : 8 ≤ s.length := by omega
    -- The characters that the search looks at are the same, and the suffix has no digit where one is
    -- tried.
    have hat : ∀ i ≤ 8, ∀ c ≠ '+', (s ++ utcSuffix)[i]? = some c ↔ s[i]? = some c :=
      fun i hi c hc => getElem?_append_utc_eq_some (hi.trans hlong) hc
    unfold findDatetimeSeparator at h ⊢
    rw [if_neg hseven] at h
    simp only [hat 4 (by decide) '-' (by decide), hat 4 (by decide) 'W' (by decide),
      hat 5 (by decide) 'W' (by decide), hat 8 (by decide) '-' (by decide)]
    rw [if_neg (by omega)]
    by_cases hfour : s[4]? = some '-'
    · rw [if_pos hfour] at h ⊢
      by_cases hfive : s[5]? = some 'W'
      · rw [if_pos hfive] at h ⊢
        by_cases height : s[8]? = some '-'
        · rw [if_pos height] at h ⊢
          obtain ⟨hlt, _⟩ := List.getElem?_eq_some_iff.1 height
          -- `YYYY-Www-`: the eleventh character decides, and the suffix has no digit there.
          split_ifs at h with hnine hten
          all_goals
            obtain rfl := Option.some.inj h
            rw [if_neg (by omega), getElem?_append_utc (by omega) (by decide)]
          · exact ⟨if_pos hten, hlong⟩
          · exact ⟨if_neg hten, by omega⟩
        · rw [if_neg height] at h ⊢
          obtain rfl := Option.some.inj h
          exact ⟨rfl, hlong⟩
      · rw [if_neg hfive] at h ⊢
        obtain rfl := Option.some.inj h
        -- `YYYY-MM-DD` takes ten characters, and a date that was read there has them all.
        have htake : ∀ i < 10, (s.take 10)[i]? = s[i]? := fun i hi => List.getElem?_take_of_lt hi
        have hten : 10 ≤ (s.take 10).length :=
          length_of_hyphen hdate ((htake 4 (by decide)).trans hfour) (htake 5 (by decide) ▸ hfive)
        rw [List.length_take] at hten
        exact ⟨rfl, by omega⟩
    · rw [if_neg hfour] at h ⊢
      by_cases hweek : s[4]? = some 'W'
      · rw [if_pos hweek] at h ⊢
        -- `YYYYWww` or `YYYYWwwD`: the suffix adds no digit to those that are counted.
        have hdrop : (s ++ utcSuffix).drop 7 = s.drop 7 ++ utcSuffix :=
          List.drop_append_of_le_length hs
        have hle : ((s.drop 7).takeWhile Char.isDigit).length ≤ (s.drop 7).length :=
          (List.takeWhile_prefix _).length_le
        rw [List.length_drop] at hle
        refine ⟨by rw [hdrop, takeWhile_isDigit_append_utc]; exact h, ?_⟩
        dsimp only at h
        split_ifs at h <;> obtain rfl := Option.some.inj h <;> omega
      · rw [if_neg hweek] at h ⊢
        obtain rfl := Option.some.inj h
        exact ⟨rfl, hlong⟩

/-- The time of a text, by what follows its date. -/
def timePart : List Char → Option (Clock × Option ℤ)
  | [] => some (⟨0, 0, 0, 0⟩, none)
  | _ :: time => parseIsoformatTime time

/-- The time of a `datetime`. -/
def Utc.clock (t : Utc) : Clock := ⟨t.hour, t.minute, t.second, t.microsecond⟩

/-- The parts that a text is read from. -/
theorem fromisoformat_eq_some_iff {s : String} {d : Datetime} :
    fromisoformat s = some d ↔ 7 ≤ s.toList.length ∧ ∃ location,
      findDatetimeSeparator s.toList = some location ∧
      parseIsoformatDate (s.toList.take location) =
        some (d.fields.year, d.fields.month, d.fields.day) ∧
      timePart (s.toList.drop location) = some (d.fields.clock, d.offset) := by
  have hparts : fromisoformat s = if s.toList.length < 7 then none
      else (findDatetimeSeparator s.toList).bind fun location =>
        (parseIsoformatDate (s.toList.take location)).bind fun date =>
          (timePart (s.toList.drop location)).bind fun time =>
            if h : ValidFields date.1 date.2.1 date.2.2 time.1.hour time.1.minute time.1.second
                time.1.microsecond ∧ ValidOffset time.2 then
              some ⟨⟨_, _, _, _, _, _, _, h.1⟩, time.2, h.2⟩
            else none := rfl
  rw [hparts]
  -- The parts are bound one after another, and checked together at the end.
  constructor
  · intro h
    split_ifs at h with hshort
    obtain ⟨location, hlocation, h⟩ := Option.bind_eq_some_iff.1 h
    obtain ⟨date, hdate, h⟩ := Option.bind_eq_some_iff.1 h
    obtain ⟨time, htime, h⟩ := Option.bind_eq_some_iff.1 h
    split_ifs at h with hvalid
    obtain rfl := Option.some.inj h
    exact ⟨not_lt.1 hshort, location, hlocation, hdate, htime⟩
  · rintro ⟨hlong, location, hlocation, hdate, htime⟩
    rw [if_neg (not_lt.2 hlong), hlocation, Option.bind_some, hdate, Option.bind_some, htime,
      Option.bind_some]
    exact dif_pos ⟨d.fields.valid, d.offset_valid⟩

/-- A text without an offset is read as the text with the offset of UTC is. -/
theorem fromisoformat_append_utc {s : String} {d : Datetime} (h : fromisoformat s = some d)
    (hoffset : d.offset = none) : ∃ d', fromisoformat (String.ofList (s.toList ++ utcSuffix)) =
      some d' ∧ d'.fields = d.fields ∧ d'.offset.getD 0 = 0 := by
  obtain ⟨hlong, location, hlocation, hdate, htime⟩ := fromisoformat_eq_some_iff.1 h
  obtain ⟨hlocation', hle⟩ := findDatetimeSeparator_append_utc hlong hlocation hdate
  have htake : (s.toList ++ utcSuffix).take location = s.toList.take location :=
    List.take_append_of_le_length hle
  have hdrop : (s.toList ++ utcSuffix).drop location = s.toList.drop location ++ utcSuffix :=
    List.drop_append_of_le_length hle
  have hlong' : 7 ≤ (s.toList ++ utcSuffix).length := by
    rw [List.length_append]
    omega
  -- A date alone is followed by a sign, which separates it from the time `00:00`.
  have htime' : ∃ offset, ValidOffset offset ∧ offset.getD 0 = 0 ∧
      timePart (s.toList.drop location ++ utcSuffix) = some (d.fields.clock, offset) := by
    rw [hoffset] at htime
    cases hrest : s.toList.drop location with
    | nil =>
      rw [hrest] at htime
      refine ⟨none, by decide, rfl, ?_⟩
      rw [← htime]
      decide
    | cons separator time =>
      rw [hrest] at htime
      exact ⟨some 0, by decide, rfl, parseIsoformatTime_append_utc htime⟩
  obtain ⟨offset, hvalid, hzero, htime'⟩ := htime'
  refine ⟨⟨d.fields, offset, hvalid⟩, fromisoformat_eq_some_iff.2 ?_, rfl, hzero⟩
  rw [String.toList_ofList]
  exact ⟨hlong', location, hlocation', by rw [htake]; exact hdate, by rw [hdrop]; exact htime'⟩

/-! ## Readings -/

/-- What `parse_ts` takes a text for, before it converts it to UTC. -/
def reading (value : String) : Option Datetime := fromisoformat (explicitOffset (strip value))

/-- `parse_ts` converts what it reads. -/
theorem parseTs_of_reading {value : String} {d : Datetime} (h : reading value = some d) :
    parseTs value = d.toUtc.elim (.error .overflow) .ok := by
  have hne : strip value ≠ "" := by
    intro hempty
    have hnone : fromisoformat (explicitOffset "") = none := by decide
    rw [reading, hempty, hnone] at h
    cases h
  unfold reading at h
  simp only [parseTs, hne, if_false, h]

/-- `parse_ts` reports what it cannot read. -/
theorem parseTs_of_none {value : String} (h : reading value = none) :
    ∃ e, parseTs value = .error (.timestamp e) := by
  unfold reading at h
  by_cases hempty : strip value = ""
  · exact ⟨.empty, by simp only [parseTs, hempty, if_true]⟩
  · exact ⟨.invalid value, by simp only [parseTs, hempty, if_false, h]⟩

/-- Stripping a text that ends in characters other than blanks. -/
theorem strip_append {s : List Char} {last : List Char} (hne : last ≠ [])
    (h : ∀ c ∈ last, isSpace c = false) :
    strip (String.ofList (s ++ last)) = String.ofList (s.dropWhile isSpace ++ last) := by
  apply String.toList_injective
  have hfront : (s ++ last).dropWhile isSpace = s.dropWhile isSpace ++ last := by
    have hlast : last.dropWhile isSpace = last := by
      rw [List.dropWhile_eq_self_iff]
      intro hl
      rw [h _ (List.getElem_mem hl)]
      exact Bool.false_ne_true
    rw [List.dropWhile_append, hlast]
    split_ifs with hnil
    · rw [List.isEmpty_iff.1 hnil, List.nil_append]
    · rfl
  have hback : (s.dropWhile isSpace ++ last).rdropWhile isSpace = s.dropWhile isSpace ++ last := by
    rw [List.rdropWhile_eq_self_iff]
    intro hl
    rw [List.getLast_append_of_ne_nil hl hne, h _ (List.getLast_mem hne)]
    exact Bool.false_ne_true
  rw [toList_strip, String.toList_ofList, String.toList_ofList, hfront, hback]

/-- The offset of UTC has no blanks. -/
theorem isSpace_of_mem_utcSuffix {c : Char} (h : c ∈ utcSuffix) : isSpace c = false := by
  have hall : (utcSuffix.all fun c => !isSpace c) = true := by decide
  simpa using List.all_eq_true.1 hall c h

/-- A last `Z` or `z` is replaced. -/
theorem explicitOffset_append_z {s : List Char} {z : Char} (hz : z = 'Z' ∨ z = 'z') :
    explicitOffset (String.ofList (s ++ [z])) = String.ofList (s ++ utcSuffix) := by
  have hlast : (s ++ [z]).getLast? = some z := List.getLast?_concat
  rw [explicitOffset, String.toList_ofList, hlast, List.dropLast_concat,
    if_pos (by rcases hz with rfl | rfl <;> simp)]
  rfl

/-- An offset that is there stays. -/
theorem explicitOffset_append_utc (s : List Char) :
    explicitOffset (String.ofList (s ++ utcSuffix)) = String.ofList (s ++ utcSuffix) := by
  have hlast : (s ++ utcSuffix).getLast? = some '0' := by
    rw [List.getLast?_append]
    rfl
  rw [explicitOffset, String.toList_ofList, hlast, if_neg (by decide)]

/-- A last `Z` stands for the offset of UTC, as does a last `z`. -/
theorem reading_append_z (value : String) {z : Char} (hz : z = 'Z' ∨ z = 'z') :
    reading (String.ofList (value.toList ++ [z])) =
      reading (String.ofList (value.toList ++ utcSuffix)) := by
  have hspace : ∀ c ∈ [z], isSpace c = false := by
    intro c hc
    obtain rfl := List.mem_singleton.1 hc
    rcases hz with rfl | rfl <;> rfl
  rw [reading, reading, strip_append (List.cons_ne_nil _ _) hspace,
    strip_append (by decide) fun _ => isSpace_of_mem_utcSuffix, explicitOffset_append_z hz,
    explicitOffset_append_utc]

/-- A text without an offset is read as the text with a last `Z` is. -/
theorem reading_of_naive {value : String} {d : Datetime}
    (htext : explicitOffset (strip value) = strip value) (h : reading value = some d)
    (hoffset : d.offset = none) : ∃ d', reading (String.ofList ((strip value).toList ++ ['Z'])) =
      some d' ∧ d'.fields = d.fields ∧ d'.offset.getD 0 = 0 := by
  rw [reading, htext] at h
  obtain ⟨d', hd', hsame⟩ := fromisoformat_append_utc h hoffset
  refine ⟨d', ?_, hsame⟩
  rw [reading_append_z _ (.inl rfl), reading,
    strip_append (by decide) fun _ => isSpace_of_mem_utcSuffix, dropWhile_strip,
    explicitOffset_append_utc, hd']

end PaymentRecon
