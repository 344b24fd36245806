import PaymentRecon.Calendar
import PaymentRecon.IsoSpellings

/-!
# String order is time order

Every range filter, every sort, and every test of staleness compares canonical timestamps as texts.
`formatTs_lt_iff` says that this compares the instants: a padded field is in the order of its number
(`pad_lt_pad_iff`), and the fields stand at fixed places, from the year down to the microsecond.

A `datetime` stands for the instant `Datetime.instant`, whatever its offset, and `toUtc` finds the
instant when it lies in the years 1 to 9999 (`Datetime.toUtc_eq_some`).
-/

namespace PaymentRecon

/-! ## Padded fields -/

section

variable {α : Type} [LinearOrder α] {l l' r r' : List α}

/-- Texts whose first parts are of one length are in the order of these, then in that of the rest. -/
theorem append_lt_append_iff (h : l.length = l'.length) :
    l ++ r < l' ++ r' ↔ l < l' ∨ (l = l' ∧ r < r') := by
  induction l generalizing l' with
  | nil =>
    obtain rfl := List.length_eq_zero_iff.1 h.symm
    simp
  | cons a l ih =>
    obtain ⟨b, l', rfl⟩ := List.exists_cons_of_length_eq_add_one h.symm
    have htail := ih (Nat.succ.inj h)
    simp only [List.cons_append, List.cons_lt_cons_iff, htail, List.cons.injEq]
    constructor
    · rintro (hlt | ⟨rfl, hlt | ⟨rfl, hlt⟩⟩)
      · exact .inl (.inl hlt)
      · exact .inl (.inr ⟨rfl, hlt⟩)
      · exact .inr ⟨⟨rfl, rfl⟩, hlt⟩
    · rintro ((hlt | ⟨rfl, hlt⟩) | ⟨⟨rfl, rfl⟩, hlt⟩)
      · exact .inl hlt
      · exact .inr ⟨rfl, .inl hlt⟩
      · exact .inr ⟨rfl, .inr ⟨rfl, hlt⟩⟩

end

/-- Digits are in the order of their values. -/
theorem digitChar_lt_iff {d d' : ℕ} (h : d < 10) (h' : d' < 10) :
    Nat.digitChar d < Nat.digitChar d' ↔ d < d' := by
  interval_cases d <;> interval_cases d' <;> decide

/-- A padded field tells its number. -/
theorem pad_injective {width n n' : ℕ} (h : n < 10 ^ width) (h' : n' < 10 ^ width)
    (heq : pad width n = pad width n') : n = n' := by
  have hvalue := digitsValue_pad width n
  rw [heq, digitsValue_pad, Nat.mod_eq_of_lt h, Nat.mod_eq_of_lt h'] at hvalue
  exact hvalue.symm

/-- Padded fields are in the order of their numbers. -/
theorem pad_lt_pad_iff {width n n' : ℕ} (h : n < 10 ^ width) (h' : n' < 10 ^ width) :
    pad width n < pad width n' ↔ n < n' := by
  induction width generalizing n n' with
  | zero =>
    have hn : n = 0 := by simpa using h
    have hn' : n' = 0 := by simpa using h'
    simp [pad, hn, hn']
  | succ width ih =>
    have hdiv : n / 10 < 10 ^ width := Nat.div_lt_of_lt_mul (by rwa [← pow_succ'])
    have hdiv' : n' / 10 < 10 ^ width := Nat.div_lt_of_lt_mul (by rwa [← pow_succ'])
    have hmod := Nat.mod_lt n (by decide : 0 < 10)
    have hmod' := Nat.mod_lt n' (by decide : 0 < 10)
    have heq : pad width (n / 10) = pad width (n' / 10) ↔ n / 10 = n' / 10 :=
      ⟨pad_injective hdiv hdiv', fun h => h ▸ rfl⟩
    have hdigit : [Nat.digitChar (n % 10)] < [Nat.digitChar (n' % 10)] ↔ n % 10 < n' % 10 := by
      rw [List.cons_lt_cons_iff, digitChar_lt_iff hmod hmod']
      simp
    rw [pad, pad, append_lt_append_iff (by rw [length_pad, length_pad]), ih hdiv hdiv', heq, hdigit]
    omega

/-- A padded field and what follows it are in the order of the number, then in that of the rest. -/
theorem pad_append_lt_iff {width n n' : ℕ} (h : n < 10 ^ width) (h' : n' < 10 ^ width)
    {rest rest' : List Char} :
    pad width n ++ rest < pad width n' ++ rest' ↔ n < n' ∨ (n = n' ∧ rest < rest') := by
  have heq : pad width n = pad width n' ↔ n = n' := ⟨pad_injective h h', fun h => h ▸ rfl⟩
  rw [append_lt_append_iff (by rw [length_pad, length_pad]), pad_lt_pad_iff h h', heq]

/-- A separator does not decide an order. -/
theorem cons_lt_cons_self_iff {c : Char} {rest rest' : List Char} :
    c :: rest < c :: rest' ↔ rest < rest' := by
  rw [List.cons_lt_cons_iff]
  simp

/-! ## Canonical timestamps -/

/-- A canonical timestamp has 32 characters. -/
theorem length_formatTs (t : Utc) : (formatTs t).length = 32 := by
  rw [formatTs, String.length_ofList]
  simp [length_pad]

/-- The fields of an instant fit their widths. -/
theorem fields_lt (t : Utc) :
    t.year < 10 ^ 4 ∧ t.month < 10 ^ 2 ∧ t.day < 10 ^ 2 ∧ t.hour < 10 ^ 2 ∧ t.minute < 10 ^ 2 ∧
      t.second < 10 ^ 2 ∧ t.microsecond < 10 ^ 6 := by
  obtain ⟨⟨_, hyear⟩, ⟨_, hmonth⟩, ⟨_, hday⟩, hhour, hminute, hsecond, hmicrosecond⟩ := t.valid
  have hdays : daysInMonth t.year t.month ≤ 31 := by
    unfold daysInMonth
    split <;> (try split_ifs) <;> omega
  omega

/-- Canonical timestamps are in the order of the fields. -/
theorem formatTs_lt_iff_fieldList {t t' : Utc} :
    formatTs t < formatTs t' ↔ t.fieldList < t'.fieldList := by
  obtain ⟨hyear, hmonth, hday, hhour, hminute, hsecond, hmicrosecond⟩ := fields_lt t
  obtain ⟨hyear', hmonth', hday', hhour', hminute', hsecond', hmicrosecond'⟩ := fields_lt t'
  rw [String.lt_iff_toList_lt]
  simp only [formatTs, String.toList_ofList, List.append_assoc, List.cons_append,
    cons_lt_cons_self_iff, pad_append_lt_iff hyear hyear', pad_append_lt_iff hmonth hmonth',
    pad_append_lt_iff hday hday', pad_append_lt_iff hhour hhour', pad_append_lt_iff hminute hminute',
    pad_append_lt_iff hsecond hsecond', pad_append_lt_iff hmicrosecond hmicrosecond']
  simp [Utc.fieldList, List.cons_lt_cons_iff]

/-- Canonical timestamps are in the order of their instants. -/
theorem formatTs_lt_iff {t t' : Utc} : formatTs t < formatTs t' ↔ t.micros < t'.micros := by
  rw [formatTs_lt_iff_fieldList, Utc.micros_lt_iff]

/-- Canonical texts are in the order of their instants. -/
theorem formatTs_le_iff {t t' : Utc} : formatTs t ≤ formatTs t' ↔ t.micros ≤ t'.micros := by
  rw [← not_lt, formatTs_lt_iff, not_lt]

/-- Canonical timestamps tell instants apart. -/
theorem formatTs_injective : Function.Injective formatTs := by
  intro t t' h
  have hle := formatTs_le_iff.1 h.le
  have hge := formatTs_le_iff.1 h.ge
  exact Utc.micros_injective (le_antisymm hle hge)

/-! ## Datetimes -/

namespace Datetime

/-- The instant of a `datetime`, in microseconds since the start of year 1. A naive one is read as
UTC. -/
def instant (value : Datetime) : ℤ := value.fields.micros - value.offset.getD 0

/-- The instant lies in the years 1 to 9999. -/
def InRange (value : Datetime) : Prop := 0 ≤ value.instant ∧ value.instant < Utc.endMicros

instance (value : Datetime) : Decidable value.InRange := inferInstanceAs (Decidable (_ ∧ _))

/-- `format_ts`; `none` for the `OverflowError` of `to_utc`. -/
def formatTs (value : Datetime) : Option String := value.toUtc.map PaymentRecon.formatTs

variable {value : Datetime}

/-- `to_utc` finds the instant. -/
theorem toUtc_eq_some {t : Utc} : value.toUtc = some t ↔ (t.micros : ℤ) = value.instant := by
  obtain ⟨fields, offset, hoffset⟩ := value
  have hsame : some fields = some t ↔ (t.micros : ℤ) = fields.micros - (0 : ℤ) := by
    rw [Option.some.injEq, sub_zero, Nat.cast_inj]
    exact ⟨fun h => h ▸ rfl, fun h => (Utc.micros_injective h).symm⟩
  unfold toUtc instant
  dsimp only
  split
  · exact hsame
  · exact hsame
  · -- An aware `datetime` of another offset is shifted.
    dsimp only [Option.getD_some]
    split_ifs with hneg
    · exact iff_of_false nofun (by omega)
    · rw [Utc.ofMicros_eq_some]
      omega

/-- `to_utc` overflows when the instant leaves the years 1 to 9999, and only then. -/
theorem toUtc_eq_none : value.toUtc = none ↔ ¬ value.InRange := by
  constructor
  · intro hnone hrange
    obtain ⟨hstart, hend⟩ := hrange
    obtain ⟨t, ht⟩ : ∃ t, Utc.ofMicros value.instant.toNat = some t :=
      Option.ne_none_iff_exists'.1 (mt Utc.ofMicros_eq_none.1 (by omega))
    have hmicros := Utc.ofMicros_eq_some.1 ht
    rw [toUtc_eq_some.2 (by omega : (t.micros : ℤ) = value.instant)] at hnone
    cases hnone
  · intro hrange
    rw [Option.eq_none_iff_forall_ne_some]
    intro t ht
    have hmicros := toUtc_eq_some.1 ht
    have hend := t.micros_lt_endMicros
    exact hrange ⟨by omega, by omega⟩

/-- An instant in range is converted. -/
theorem exists_toUtc (h : value.InRange) :
    ∃ t, value.toUtc = some t ∧ (t.micros : ℤ) = value.instant := by
  obtain ⟨t, ht⟩ := Option.ne_none_iff_exists'.1 fun hnone => toUtc_eq_none.1 hnone h
  exact ⟨t, ht, toUtc_eq_some.1 ht⟩

end Datetime

/-! ## Texts -/

/-- A text is read as an instant in range, or overflows, or is reported. -/
theorem parseTs_cases (value : String) :
    (∃ d t, reading value = some d ∧ (t.micros : ℤ) = d.instant ∧ parseTs value = .ok t) ∨
      (∃ d, reading value = some d ∧ ¬ d.InRange ∧ parseTs value = .error .overflow) ∨
      ∃ e, reading value = none ∧ parseTs value = .error (.timestamp e) := by
  cases hread : reading value with
  | none =>
    obtain ⟨e, he⟩ := parseTs_of_none hread
    exact .inr (.inr ⟨e, rfl, he⟩)
  | some d =>
    have hparse := parseTs_of_reading hread
    cases hutc : d.toUtc with
    | none =>
      rw [hutc] at hparse
      exact .inr (.inl ⟨d, rfl, Datetime.toUtc_eq_none.1 hutc, hparse⟩)
    | some t =>
      rw [hutc] at hparse
      exact .inl ⟨d, t, rfl, Datetime.toUtc_eq_some.1 hutc, hparse⟩

/-- What `parse_ts` accepts is the text of the instant. -/
theorem parseTs_eq_ok {value : String} {t : Utc} :
    parseTs value = .ok t ↔ (reading value).map Datetime.instant = some (t.micros : ℤ) := by
  rcases parseTs_cases value with ⟨d, t', hread, ht', hparse⟩ | ⟨d, hread, hrange, hparse⟩ |
    ⟨e, hread, hparse⟩
  · rw [hparse, hread, Option.map_some, ← ht', Except.ok.injEq, Option.some.injEq, Nat.cast_inj,
      Utc.micros_injective.eq_iff]
  · rw [hparse, hread, Option.map_some]
    refine iff_of_false nofun fun h => hrange ?_
    have hend := t.micros_lt_endMicros
    have hinstant := Option.some.inj h
    exact ⟨by omega, by omega⟩
  · rw [hparse, hread]
    exact iff_of_false nofun nofun

/-- What `normalise_ts` accepts is what `parse_ts` accepts. -/
theorem normaliseTs_eq_ok {value text : String} :
    normaliseTs value = .ok text ↔ ∃ t, parseTs value = .ok t ∧ formatTs t = text := by
  unfold normaliseTs
  cases parseTs value with
  | error e => exact iff_of_false nofun (by rintro ⟨_, h, _⟩; cases h)
  | ok t => simp [Except.map]

/-- Two texts have the same canonical form when they stand for the same instant. -/
theorem normaliseTs_eq_iff {value value' text text' : String} (h : normaliseTs value = .ok text)
    (h' : normaliseTs value' = .ok text') :
    text = text' ↔
      (reading value).map Datetime.instant = (reading value').map Datetime.instant := by
  obtain ⟨t, hparse, rfl⟩ := normaliseTs_eq_ok.1 h
  obtain ⟨t', hparse', rfl⟩ := normaliseTs_eq_ok.1 h'
  rw [parseTs_eq_ok.1 hparse, parseTs_eq_ok.1 hparse', Option.some.injEq, Nat.cast_inj,
    formatTs_injective.eq_iff, Utc.micros_injective.eq_iff]

/-- A text that stands for the same instant is accepted as well. -/
theorem normaliseTs_congr {value value' : String} {d d' : Datetime} (h : reading value = some d)
    (h' : reading value' = some d') (hinstant : d.instant = d'.instant) :
    normaliseTs value = normaliseTs value' := by
  have hutc : d.toUtc = d'.toUtc := by
    apply Option.ext
    intro t
    rw [Datetime.toUtc_eq_some, Datetime.toUtc_eq_some, hinstant]
  rw [normaliseTs, normaliseTs, parseTs_of_reading h, parseTs_of_reading h', hutc]

/-- String order is time order. For all `datetime`s whose instants lie in the years 1 to 9999: their
canonical texts have one length, are in the order of the instants, are equal when the instants are, and
are read back as the instants. So `normaliseTs` is idempotent, and it tells two accepted texts apart
exactly when they stand for different instants; a last `Z`, a last `z`, the offset `+00:00`, and no
offset at all are spellings of one instant. -/
theorem string_order_is_time_order {a b : Datetime} (ha : a.InRange) (hb : b.InRange) :
    (∃ sa sb, a.formatTs = some sa ∧ b.formatTs = some sb ∧ sa.length = sb.length ∧
        (sa < sb ↔ a.instant < b.instant) ∧ (sa = sb ↔ a.instant = b.instant) ∧
        ∃ t, a.toUtc = some t ∧ (t.micros : ℤ) = a.instant ∧ parseTs sa = .ok t) ∧
      (∀ value text, normaliseTs value = .ok text → normaliseTs text = .ok text) ∧
      (∀ value value' text text', normaliseTs value = .ok text → normaliseTs value' = .ok text' →
        (text = text' ↔
          (reading value).map Datetime.instant = (reading value').map Datetime.instant)) ∧
      (∀ value : String, ∀ z ∈ ['Z', 'z'], reading (String.ofList (value.toList ++ [z])) =
        reading (String.ofList (value.toList ++ "+00:00".toList))) ∧
      ∀ value d, explicitOffset (strip value) = strip value → reading value = some d →
        d.offset = none →
          normaliseTs (String.ofList ((strip value).toList ++ ['Z'])) = normaliseTs value := by
  obtain ⟨ta, hta, hmicrosa⟩ := Datetime.exists_toUtc ha
  obtain ⟨tb, htb, hmicrosb⟩ := Datetime.exists_toUtc hb
  refine ⟨⟨formatTs ta, formatTs tb, by rw [Datetime.formatTs, hta, Option.map_some],
    by rw [Datetime.formatTs, htb, Option.map_some], by rw [length_formatTs, length_formatTs], ?_, ?_,
    ta, hta, hmicrosa, parseTs_formatTs ta⟩, fun value text h => ?_,
    fun value value' text text' => normaliseTs_eq_iff, fun value z hz => ?_,
    fun value d htext h hoffset => ?_⟩
  · rw [formatTs_lt_iff, ← hmicrosa, ← hmicrosb, Nat.cast_lt]
  · rw [formatTs_injective.eq_iff, ← hmicrosa, ← hmicrosb, Nat.cast_inj,
      Utc.micros_injective.eq_iff]
  · exact normaliseTs_of_canonical (canonical_of_normaliseTs h)
  · exact reading_append_z value (by simpa using hz)
  -- With the `Z` the same fields are read with offset 0, which is what a naive `datetime` is taken for.
  · obtain ⟨d', h', hfields, hzero⟩ := reading_of_naive htext h hoffset
    refine normaliseTs_congr h' h ?_
    rw [Datetime.instant, Datetime.instant, hfields, hzero, hoffset]
    rfl

/-- Half past eleven at night on a leap day, five hours behind UTC, and a naive `datetime` of the next
day that is a microsecond later. -/
theorem string_order_over_leap_day :
    ∃ sa sb, (⟨⟨2024, 2, 29, 23, 30, 0, 0, by decide⟩, some (-18000000000), by decide⟩ :
        Datetime).formatTs = some sa ∧
      (⟨⟨2024, 3, 1, 4, 30, 0, 1, by decide⟩, none, by decide⟩ : Datetime).formatTs = some sb ∧
      sa < sb := by
  obtain ⟨⟨sa, sb, ha, hb, _, hlt, _⟩, _⟩ := @string_order_is_time_order
    ⟨⟨2024, 2, 29, 23, 30, 0, 0, by decide⟩, some (-18000000000), by decide⟩
    ⟨⟨2024, 3, 1, 4, 30, 0, 1, by decide⟩, none, by decide⟩ (by decide) (by decide)
  exact ⟨sa, sb, ha, hb, hlt.2 (by decide)⟩

end PaymentRecon
