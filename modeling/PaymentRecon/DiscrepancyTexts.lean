import PaymentRecon.TimeOrder
import PaymentRecon.Transactions

/-!
# The texts of a report request

The part of `get_discrepancies` that reads the texts of the query string: `as_of`, from which the
cutoff of staleness is computed, and the window. `getDiscrepancies` is what the route does with the
instants and the bounds that come out (`DiscrepancyRequest.answer_eq_ok`).

The text `as_of` is read within a `try`, and the arithmetic on the instant stands outside of it.
-/

namespace PaymentRecon

open Store

/-- What an exception of `parse_ts` is where no route catches it. -/
def ParseError.uncaught : ParseError → AppError
  | timestamp _ => .other "TimestampError"
  | overflow => .overflow

/-- An error that is answered with status 422. -/
def AppError.Is422 : AppError → Prop
  | timestamp _ => True
  | api status_code _ _ => status_code = 422
  | _ => False

instance : DecidablePred AppError.Is422 := fun e => by
  cases e <;> unfold AppError.Is422 <;> infer_instance

/-- The query string of `GET /reconciliation/discrepancies`. -/
structure DiscrepancyRequest where
  /-- The types to report; all but `DUPLICATE_EVENTS` when there is none. -/
  type : List DiscrepancyType := []
  /-- The merchants. -/
  merchant_id : Option (List String) := none
  /-- The severity to show. -/
  severity : Option Severity := none
  /-- The inclusive start of the window, a date or a timestamp. -/
  date_from : Option String := none
  /-- The inclusive end of the window, a date or a timestamp. -/
  date_to : Option String := none
  /-- How long a transaction may sit unsettled before it counts as stale. -/
  stale_after_hours : ℕ := 48
  /-- The instant at which staleness is evaluated; now when there is none. -/
  as_of : Option String := none
  /-- The column to sort by. -/
  sort_by : DiscrepancySort := .severity
  /-- The direction of the sort. -/
  sort_order : SortOrder := .desc
  /-- The size of a page. -/
  limit : ℕ := 50
  /-- The rows before the page, fewer than 2^63. -/
  offset : ℕ := 0

namespace DiscrepancyRequest

variable (request : DiscrepancyRequest)

/-- `as_of_ts`. -/
def asOfTs (now : Utc) : Except AppError String :=
  match request.as_of with
  | none | some "" => .ok (formatTs now)
  | some text => (normaliseTs text).mapError ParseError.toAppError

/-- The instant `parse_ts(as_of_ts)` and the instant that `cutoff` is the text of. -/
def cutoff (now : Utc) : Except AppError (Utc × Utc) := do
  let as_of_ts ← request.asOfTs now
  let as_of ← (parseTs as_of_ts).mapError ParseError.uncaught
  let cutoff ← (as_of.minusHours request.stale_after_hours).elim (.error .overflow) .ok
  return (as_of, cutoff)

/-- The query, once its texts have been read. -/
def query (as_of : Utc) (window : Option String × Option String) : DiscrepancyQuery where
  type := request.type
  merchant_id := request.merchant_id
  severity := request.severity
  lower := window.1
  upper := window.2
  stale_after_hours := request.stale_after_hours
  as_of := some as_of
  sort_by := request.sort_by
  sort_order := request.sort_order
  limit := request.limit
  offset := request.offset

/-- `get_discrepancies`. -/
def answer (db : Database) (now : Utc) : Except AppError DiscrepancyResponse := do
  let (as_of, cutoff) ← request.cutoff now
  let window ← resolveWindow request.date_from request.date_to
  return (request.query as_of window).response db as_of cutoff

/-- The instant that `as_of` stands for, in microseconds since the start of year 1. -/
def asOfInstant (now : Utc) : Option ℤ :=
  match request.as_of with
  | none | some "" => some now.micros
  | some text => (reading text).map Datetime.instant

variable {request}

/-- `as_of` is read as an instant in range, or overflows, or is reported. -/
theorem asOfTs_cases (request : DiscrepancyRequest) (now : Utc) :
    (∃ as_of : Utc, request.asOfInstant now = some (as_of.micros : ℤ) ∧
        request.asOfTs now = .ok (formatTs as_of)) ∨
      (∃ i, request.asOfInstant now = some i ∧ ¬ (0 ≤ i ∧ i < Utc.endMicros) ∧
        request.asOfTs now = .error .overflow) ∨
      ∃ e, request.asOfInstant now = none ∧ request.asOfTs now = .error (.timestamp e) := by
  unfold asOfInstant asOfTs
  split
  · exact .inl ⟨now, rfl, rfl⟩
  · exact .inl ⟨now, rfl, rfl⟩
  · rename_i text _ _
    unfold normaliseTs
    rcases parseTs_cases text with ⟨d, t, hread, ht, hparse⟩ | ⟨d, hread, hrange, hparse⟩ |
      ⟨e, hread, hparse⟩
    · exact .inl ⟨t, by rw [hread, Option.map_some, ht], by rw [hparse]; rfl⟩
    · exact .inr (.inl ⟨d.instant, by rw [hread, Option.map_some], hrange, by rw [hparse]; rfl⟩)
    · exact .inr (.inr ⟨e, by rw [hread, Option.map_none], by rw [hparse]; rfl⟩)

/-- With an instant, the cutoff is what `minusHours` gives. -/
theorem cutoff_of_ok {now as_of : Utc} (h : request.asOfTs now = .ok (formatTs as_of)) :
    request.cutoff now = (as_of.minusHours request.stale_after_hours).elim (.error .overflow)
      fun cutoff => .ok (as_of, cutoff) := by
  have hparse : (parseTs (formatTs as_of)).mapError ParseError.uncaught = .ok as_of := by
    rw [parseTs_formatTs]
    rfl
  unfold cutoff
  rw [h, ok_bind, hparse, ok_bind]
  cases as_of.minusHours request.stale_after_hours <;> rfl

/-- Without one there is the error. -/
theorem cutoff_of_error {now : Utc} {e : AppError} (h : request.asOfTs now = .error e) :
    request.cutoff now = .error e := by
  unfold cutoff
  rw [h, error_bind]

/-- The cutoff lies the given hours before the instant of `as_of`. -/
theorem cutoff_eq_ok {now as_of cutoff : Utc} :
    request.cutoff now = .ok (as_of, cutoff) ↔
      request.asOfInstant now = some (as_of.micros : ℤ) ∧
        cutoff.micros + request.stale_after_hours * 3600000000 = as_of.micros := by
  rcases request.asOfTs_cases now with ⟨t, hinstant, hts⟩ | ⟨i, hinstant, hrange, hts⟩ |
    ⟨e, hinstant, hts⟩
  · rw [cutoff_of_ok hts, hinstant, Option.some.injEq, Nat.cast_inj, Utc.micros_injective.eq_iff]
    -- `as_of` is an instant of the calendar; its cutoff may lie before the year 1.
    cases hminus : t.minusHours request.stale_after_hours with
    | none =>
      rw [Utc.minusHours_eq_none] at hminus
      refine iff_of_false nofun ?_
      rintro ⟨rfl, hcutoff⟩
      omega
    | some t' =>
      rw [Utc.minusHours_eq_some] at hminus
      constructor
      · intro h
        cases h
        exact ⟨rfl, hminus⟩
      · rintro ⟨rfl, hcutoff⟩
        have heq : t'.micros = cutoff.micros := by omega
        rw [Utc.micros_injective heq]
        rfl
  · rw [cutoff_of_error hts, hinstant]
    refine iff_of_false nofun ?_
    rintro ⟨hi, _⟩
    -- It denotes an instant outside the calendar, which `astimezone` refuses.
    have hend := as_of.micros_lt_endMicros
    have heq := Option.some.inj hi
    exact hrange ⟨by omega, by omega⟩
  · rw [cutoff_of_error hts, hinstant]
    refine iff_of_false nofun ?_
    rintro ⟨hi, _⟩
    cases hi

/-- Every error of the cutoff is answered with status 422 exactly when the instant lies in the years 1
to 9999 and the cutoff does not lie before them. -/
theorem cutoff_is422_iff {now : Utc} :
    (∀ e, request.cutoff now = .error e → e.Is422) ↔
      ∀ i, request.asOfInstant now = some i →
        request.stale_after_hours * 3600000000 ≤ i ∧ i < Utc.endMicros := by
  rcases request.asOfTs_cases now with ⟨t, hinstant, hts⟩ | ⟨i, hinstant, hrange, hts⟩ |
    ⟨e, hinstant, hts⟩
  · have hend := t.micros_lt_endMicros
    rw [cutoff_of_ok hts, hinstant]
    simp only [Option.some.injEq, forall_eq']
    -- The subtraction overflows when the cutoff is before the year 1, and `OverflowError` is no 422.
    cases hminus : t.minusHours request.stale_after_hours with
    | none =>
      rw [Utc.minusHours_eq_none] at hminus
      exact iff_of_false (fun h => h .overflow rfl) (by omega)
    | some t' =>
      rw [Utc.minusHours_eq_some] at hminus
      exact iff_of_true nofun (by omega)
  · rw [cutoff_of_error hts, hinstant]
    simp only [Option.some.injEq, forall_eq']
    exact iff_of_false (fun h => h .overflow rfl) fun h => hrange ⟨by omega, h.2⟩
  · rw [cutoff_of_error hts, hinstant]
    -- A text that is no timestamp is a 422.
    refine iff_of_true (fun e' h => ?_) nofun
    cases h
    exact trivial

/-- A request is answered with the report of its query. -/
theorem answer_eq_ok {db : Database} {now : Utc} {response : DiscrepancyResponse}
    (h : request.answer db now = .ok response) :
    ∃ as_of cutoff window, request.cutoff now = .ok (as_of, cutoff) ∧
      resolveWindow request.date_from request.date_to = .ok window ∧
      getDiscrepancies db now (request.query as_of window) = .ok response ∧
      response = (request.query as_of window).response db as_of cutoff := by
  unfold answer at h
  obtain ⟨⟨as_of, cutoff⟩, hcutoff, h⟩ := exists_of_bind_eq_ok h
  obtain ⟨window, hwindow, h⟩ := exists_of_bind_eq_ok h
  obtain rfl := Except.ok.inj h
  have hminus : ((request.query as_of window).as_of.getD now).minusHours
      (request.query as_of window).stale_after_hours = some cutoff :=
    Utc.minusHours_eq_some.2 (cutoff_eq_ok.1 hcutoff).2
  exact ⟨as_of, cutoff, window, hcutoff, hwindow, getDiscrepancies_of_some hminus db, rfl⟩

end DiscrepancyRequest

end PaymentRecon
