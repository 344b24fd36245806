import PaymentRecon.DiscrepancyTexts
import PaymentRecon.Validation

/-!
# Errors of timestamps

`parse_ts` turns a `ValueError` into a `TimestampError`, which validation and the routes report. A text
that stands for an instant outside the years 1 to 9999 makes `astimezone` raise `OverflowError`
instead, which is no `ValueError` and passes through all of them; and an instant whose cutoff lies
before year 1 does so in `get_discrepancies`, outside of the `try`. `timestamps_reported_iff` says that
there is no other way out.
-/

namespace PaymentRecon

/-! ## Fields that raise nothing -/

section

variable {e : AppError}

/-- A text field raises nothing but a `ValueError`. -/
theorem strField_ne_raised (min_length max_length : ℕ) (raw : Json) :
    violation (strField min_length max_length raw) ≠ some (.raised e) := by
  unfold strField
  split
  · split_ifs <;> exact nofun
  · exact nofun

/-- Nor does an identifier. -/
theorem identifierField_ne_raised (raw : Json) :
    violation (identifierField raw) ≠ some (.raised e) := by
  unfold identifierField
  split
  · split_ifs <;> exact nofun
  · exact nofun

/-- Nor does an event type. -/
theorem eventTypeField_ne_raised (raw : Json) :
    violation (eventTypeField raw) ≠ some (.raised e) := by
  unfold eventTypeField
  split <;> exact nofun

/-- Nor does the name of a merchant. -/
theorem merchantNameField_ne_raised (raw : Option Json) :
    violation (merchantNameField raw) ≠ some (.raised e) := by
  unfold merchantNameField
  split
  · exact nofun
  · exact nofun
  · rename_i raw _
    have h := @strField_ne_raised e 0 256 raw
    cases hfield : strField 0 256 raw with
    | ok s => exact nofun
    | error v =>
      rw [hfield] at h
      exact h

/-- The amounts that the field lets through do not overflow the decimal context. -/
theorem amountField_ne_raised (toFloat : Json → Option (Bool × PyFloat)) (raw : Json) :
    violation (amountField toFloat raw) ≠ some (.raised e) := by
  unfold amountField
  split
  · exact nofun
  · exact nofun
  · exact nofun
  · exact nofun
  · rename_i d _
    split_ifs with hlt hle
    · exact nofun
    · exact nofun
    · have hvalue : d.value ≤ (1000000000 : ℕ) := by exact_mod_cast not_lt.1 hlt
      obtain ⟨n, _, hn⟩ := exists_toMinorUnits (by norm_num) hvalue
      unfold checkAmount
      split
      · exact nofun
      · rename_i herror
        rw [hn] at herror
        cases herror
      · split_ifs <;> exact nofun

/-- Nor does a currency. -/
theorem currencyField_ne_raised (raw : Json) :
    violation (currencyField raw) ≠ some (.raised e) := by
  have h := @strField_ne_raised e 3 3 raw
  unfold currencyField
  cases hfield : strField 3 3 raw with
  | error v =>
    rw [hfield] at h
    exact h
  | ok value =>
    dsimp only
    split_ifs <;> exact nofun

/-- A field that must be there raises what it raises when it is. -/
theorem required_ne_raised {α : Type} {field : Json → Except Violation α}
    (h : ∀ raw, violation (field raw) ≠ some (.raised e)) (raw : Option Json) :
    violation (required field raw) ≠ some (.raised e) := by
  cases raw with
  | none => exact nofun
  | some raw => exact h raw

end

/-- Without an exception, the errors of all fields are reported. -/
theorem failure_of_ne_raised {fields : List (String × Option Violation)}
    (h : ∀ field ∈ fields, ∀ e, field.2 ≠ some (.raised e)) :
    failure fields = .rejected (fields.filterMap fun field => field.2.map fun v => ⟨field.1, v⟩) := by
  unfold failure
  dsimp only
  split
  · rename_i e heq
    obtain ⟨field, hfield, hsome⟩ := List.exists_of_findSome?_eq_some heq
    split at hsome
    · rename_i e' hraised
      exact absurd hraised (h field hfield e')
    · cases hsome
  · rfl

/-- An event with a bad timestamp is rejected with an error of the field `timestamp`. -/
theorem modelValidate_of_timestamp {pydantic : Pydantic}
    {members : List (String × Json)} {s : String} {e : TimestampError}
    (hs : members.lookup "timestamp" = some (.str s))
    (he : normaliseTs s = .error (.timestamp e)) :
    ∃ errors, EventIn.modelValidate pydantic (.obj members) = .error (.rejected errors) ∧
      ⟨"timestamp", .timestamp e⟩ ∈ errors := by
  have hfield : required timestampField (members.lookup "timestamp") = .error (.timestamp e) := by
    rw [hs, required, timestampField]
    split
    · rename_i text heq
      rw [he] at heq
      cases heq
    · rename_i e' heq
      rw [he] at heq
      cases heq
      rfl
    · rename_i heq
      rw [he] at heq
      cases heq
  simp only [EventIn.modelValidate]
  split
  · rename_i hok
    rw [hfield] at hok
    cases hok
  · refine ⟨_, congrArg Except.error (failure_of_ne_raised ?_), ?_⟩
    · -- No other field raises, and this one does not either.
      simp only [List.forall_mem_cons, List.not_mem_nil, false_implies, implies_true, and_true]
      exact ⟨fun _ => required_ne_raised identifierField_ne_raised _,
        fun _ => required_ne_raised eventTypeField_ne_raised _,
        fun _ => required_ne_raised identifierField_ne_raised _,
        fun _ => required_ne_raised identifierField_ne_raised _,
        fun _ => merchantNameField_ne_raised _,
        fun _ => required_ne_raised (amountField_ne_raised pydantic.toFloat) _,
        fun _ => required_ne_raised currencyField_ne_raised _,
        fun _ => by rw [hfield]; exact nofun⟩
    · rw [List.mem_filterMap]
      exact ⟨("timestamp", some (.timestamp e)), by simp [hfield, violation], rfl⟩

/-! ## The errors of a text -/

/-- Every error of reading a text is a `TimestampError`, and validation reports it with the field
`timestamp`. -/
def TimestampReported (s : String) : Prop :=
  (∀ e, parseTs s = .error e → ∃ e', e = .timestamp e') ∧
    (∀ e, normaliseTs s = .error e → ∃ e', e = .timestamp e') ∧
    ∀ (pydantic : Pydantic) (members : List (String × Json)) (e : ParseError),
      members.lookup "timestamp" = some (.str s) → normaliseTs s = .error e →
        ∃ errors e', EventIn.modelValidate pydantic (.obj members) = .error (.rejected errors) ∧
          ⟨"timestamp", .timestamp e'⟩ ∈ errors

/-- The text is reported exactly when it does not stand for an instant out of range. -/
theorem timestampReported_iff {s : String} :
    TimestampReported s ↔ ∀ d, reading s = some d → d.InRange := by
  unfold TimestampReported normaliseTs
  rcases parseTs_cases s with ⟨d, t, hread, ht, hparse⟩ | ⟨d, hread, hrange, hparse⟩ |
    ⟨e, hread, hparse⟩
  · rw [hparse, hread]
    -- The text denotes an instant of the calendar, and nothing is raised.
    have hend := t.micros_lt_endMicros
    refine iff_of_true ⟨nofun, nofun, nofun⟩ ?_
    intro d' hd'
    obtain rfl := Option.some.inj hd'
    exact ⟨by omega, by omega⟩
  · rw [hparse, hread]
    -- It denotes one outside, and `OverflowError` is not reported as a `TimestampError`.
    refine iff_of_false (fun h => ?_) fun h => hrange (h d rfl)
    obtain ⟨_, h⟩ := h.1 .overflow rfl
    cases h
  · rw [hparse, hread]
    -- It denotes none, which is reported, also as the error of a field of a raw event.
    refine iff_of_true ⟨?_, ?_, ?_⟩ nofun
    · rintro _ ⟨⟩
      exact ⟨e, rfl⟩
    · rintro _ ⟨⟩
      exact ⟨e, rfl⟩
    · intro pydantic members e' hmember _
      obtain ⟨errors, herrors, hmem⟩ := @modelValidate_of_timestamp pydantic members s e hmember
        (by rw [normaliseTs, hparse]; rfl)
      exact ⟨errors, e, herrors, hmem⟩

/-- Exactly when timestamps are reported. For every text: `parseTs` and `normaliseTs` return or raise
`TimestampError`, and validation reports the error, if and only if the text does not stand for an instant
outside the years 1 to 9999. For every request and every time: the cutoff is computed or the answer is
422, if and only if `as_of` does not stand for an instant that lies past the year 9999, or less than
`stale_after_hours` after the start of year 1. -/
theorem timestamps_reported_iff (s : String) (request : DiscrepancyRequest) (now : Utc) :
    (TimestampReported s ↔ ∀ d, reading s = some d → d.InRange) ∧
      ((∀ e, request.cutoff now = .error e → e.Is422) ↔
        ∀ i, request.asOfInstant now = some i →
          request.stale_after_hours * 3600000000 ≤ i ∧ i < Utc.endMicros) :=
  ⟨timestampReported_iff, DiscrepancyRequest.cutoff_is422_iff⟩

/-- The first moment of year 1 in India lies before year 1 in UTC: reading it overflows, and so does the
cutoff two days before the first day of year 1. -/
theorem timestamps_escape :
    parseTs "0001-01-01T00:00:00+05:30" = .error .overflow ∧
      normaliseTs "9999-12-31T23:59:59-01:00" = .error .overflow ∧
      (∀ now, ({ as_of := some "0001-01-01" } : DiscrepancyRequest).cutoff now = .error .overflow) ∧
      ¬ ((∀ s, TimestampReported s) ∧
        ∀ (request : DiscrepancyRequest) (now : Utc), request.stale_after_hours ≤ 8760 →
          ∀ e, request.cutoff now = .error e → e.Is422) := by
  have hparse : parseTs "0001-01-01T00:00:00+05:30" = .error .overflow := by decide +kernel
  refine ⟨hparse, by decide +kernel, fun now => ?_, fun h => ?_⟩
  -- The first instant of the calendar is readable, but 48 hours before it there is none.
  · have hts : ({ as_of := some "0001-01-01" } : DiscrepancyRequest).asOfTs now =
        .ok (formatTs ⟨1, 1, 1, 0, 0, 0, 0, by decide⟩) := by
      have hnormal : normaliseTs "0001-01-01" = .ok "0001-01-01T00:00:00.000000+00:00" := by
        decide +kernel
      have hformat : formatTs ⟨1, 1, 1, 0, 0, 0, 0, by decide⟩ =
          "0001-01-01T00:00:00.000000+00:00" := by decide
      rw [hformat]
      show (normaliseTs "0001-01-01").mapError ParseError.toAppError = _
      rw [hnormal]
      rfl
    have hminus : Utc.minusHours ⟨1, 1, 1, 0, 0, 0, 0, by decide⟩ 48 = none := by decide
    rw [DiscrepancyRequest.cutoff_of_ok hts, hminus]
    rfl
  · obtain ⟨_, h⟩ := (h.1 "0001-01-01T00:00:00+05:30").1 .overflow hparse
    cases h

end PaymentRecon
