import PaymentRecon.Isoformat
import PaymentRecon.Unicode

/-!
# Reading timestamps

The part of `app/timeutils.py` that reads texts: `parse_ts`, `normalise_ts`, and the bounds of a date
range. A text that is no timestamp raises `TimestampError`, and an instant that leaves the years 1 to
9999 once it is converted to UTC raises `OverflowError`, which `parse_ts` does not catch.

A canonical timestamp is read back as the instant that it was made from (`parseTs_formatTs`), so
`normaliseTs` leaves it as it is.
-/

namespace PaymentRecon

/-- What reading a timestamp raises. -/
inductive ParseError
  /-- `TimestampError`. -/
  | timestamp (e : TimestampError)
  /-- `OverflowError`, which is no `ValueError`. -/
  | overflow
deriving DecidableEq, Repr

/-- `text[:-1] + "+00:00"` of a text that ends in `Z` or `z`. -/
def explicitOffset (text : String) : String :=
  if text.toList.getLast? = some 'Z' ∨ text.toList.getLast? = some 'z' then
    String.ofList (text.toList.dropLast ++ "+00:00".toList)
  else text

/-- `parse_ts`. -/
def parseTs (value : String) : Except ParseError Utc :=
  let text := strip value
  if text = "" then .error (.timestamp .empty)
  else match fromisoformat (explicitOffset text) with
    | none => .error (.timestamp (.invalid value))
    | some parsed => parsed.toUtc.elim (.error .overflow) .ok

/-- `normalise_ts`. -/
def normaliseTs (value : String) : Except ParseError String := (parseTs value).map formatTs

/-! ## Date ranges -/

/-- The length of a text in UTF-8. -/
def utf8Length (s : String) : ℕ := (s.toList.map Char.utf8Size).sum

/-- `date.fromisoformat`; `none` for `ValueError`. The length is the one in UTF-8, as in the implementation
in C. Ten characters may be the eight of a date without hyphens and any two after them. -/
def dateFromisoformat (s : String) : Option (ℕ × ℕ × ℕ) :=
  if utf8Length s ∈ [7, 8, 10] then
    (parseIsoformatDate s.toList).filter fun (year, month, day) =>
      ValidFields year month day 0 0 0 0
  else none

/-- A bound of a date range: a text of ten characters is a date, which the suffix completes. -/
def rangeBound (suffix value : String) : Except ParseError String :=
  let text := strip value
  if text.length = 10 then
    -- `_validate_date`
    if dateFromisoformat text = none then .error (.timestamp (.invalidDate text))
    else .ok (text ++ suffix)
  else normaliseTs text

/-- `range_lower_bound`. -/
def rangeLowerBound (value : String) : Except ParseError String :=
  rangeBound "T00:00:00.000000+00:00" value

/-- `range_upper_bound`. -/
def rangeUpperBound (value : String) : Except ParseError String :=
  rangeBound "T23:59:59.999999+00:00" value

/-! ## Canonical timestamps -/

/-- What is normalised is canonical. -/
theorem canonical_of_normaliseTs {value text : String} (h : normaliseTs value = .ok text) :
    Canonical text := by
  unfold normaliseTs at h
  cases ht : parseTs value with
  | error e =>
    rw [ht] at h
    cases h
  | ok t =>
    rw [ht] at h
    exact ⟨t, Except.ok.inj h⟩

/-- A canonical timestamp has no blanks. -/
theorem isSpace_of_mem_formatTs {t : Utc} {c : Char} (h : c ∈ (formatTs t).toList) :
    isSpace c = false := by
  have hdigit : ∀ {c : Char}, c.isDigit = true → isSpace c = false := by
    intro c hc
    simp only [Char.isDigit, Bool.and_eq_true, decide_eq_true_eq, ge_iff_le,
      UInt32.le_iff_toNat_le] at hc
    have hlow : 48 ≤ c.toNat := hc.1
    have hhigh : c.toNat ≤ 57 := hc.2
    rw [Bool.eq_false_iff]
    simp only [ne_eq, isSpace, Bool.or_eq_true, Bool.and_eq_true, decide_eq_true_eq, beq_iff_eq]
    omega
  have hzone : ∀ c ∈ "+00:00".toList, isSpace c = false := by
    have hall : ("+00:00".toList.all fun c => !isSpace c) = true := by decide
    simpa using hall
  rw [formatTs, String.toList_ofList] at h
  simp only [List.mem_append, List.mem_cons] at h
  -- Fields of digits, and what stands between them.
  rcases h with ((((((h | rfl | h) | rfl | h) | rfl | h) | rfl | h) | rfl | h) | rfl | h) | h
  all_goals first | rfl | exact hdigit (isDigit_of_mem_pad h) | exact hzone c h

/-- A canonical timestamp is read back. -/
theorem parseTs_formatTs (t : Utc) : parseTs (formatTs t) = .ok t := by
  have hstrip := strip_of_not_isSpace fun c (hc : c ∈ (formatTs t).toList) =>
    isSpace_of_mem_formatTs hc
  have hlast : (formatTs t).toList.getLast? = some '0' := by
    rw [formatTs, String.toList_ofList, List.getLast?_append]
    rfl
  have hne : formatTs t ≠ "" := Canonical.ne_empty ⟨t, rfl⟩
  have hoffset : explicitOffset (formatTs t) = formatTs t := by
    rw [explicitOffset, hlast, if_neg (by decide)]
  rw [parseTs]
  simp only [hstrip, hne, if_false, hoffset, fromisoformat_formatTs]
  rfl

/-- Normalising leaves a canonical timestamp as it is. -/
theorem normaliseTs_of_canonical {s : String} (h : Canonical s) : normaliseTs s = .ok s := by
  obtain ⟨t, rfl⟩ := h
  rw [normaliseTs, parseTs_formatTs]
  rfl

example : normaliseTs " 2026-01-08T12:11z " = .ok "2026-01-08T12:11:00.000000+00:00" := by
  decide +kernel

example : rangeUpperBound "2026-01-08" = .ok "2026-01-08T23:59:59.999999+00:00" := by decide +kernel

end PaymentRecon
