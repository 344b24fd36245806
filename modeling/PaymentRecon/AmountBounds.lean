import PaymentRecon.Constraints
import PaymentRecon.DiscrepancyTexts
import PaymentRecon.FilterMeaning
import PaymentRecon.MinorUnits
import PaymentRecon.Pages

/-!
# The amount bounds of `GET /transactions`

A bound is a float in major units. The route rounds it half up to minor units before SQL compares it, and
an error of the conversion or of the binding is caught by nobody. `amount_bounds_exact_iff` says for
which bounds the request still shows the transactions whose exact amount lies between them, in every
reachable database: rounding must not carry the bound past an amount that can be stored, which is one of
1 to 10^11 minor units, and the rounded bound must fit 64 bits.
-/

namespace PaymentRecon

open Store Sql

/-! ## Bounds -/

/-- The text that `str` gives for a float has at most 17 digits. -/
def PyFloat.IsShortest : PyFloat → Prop
  | finite d => d.coeff < 10 ^ 17
  | _ => True

/-- `x <= q`, exactly. -/
def PyFloat.atMost (x : PyFloat) (q : ℚ) : Bool :=
  match x with
  | finite d => d.value ≤ q
  | _ => false

/-- `q <= x`, exactly. -/
def PyFloat.atLeast (x : PyFloat) (q : ℚ) : Bool :=
  match x with
  | finite d => q ≤ d.value
  | inf => true
  | nan => false

/-- Whether an amount in minor units lies between the bounds. -/
def inBounds (min_amount max_amount : Option PyFloat) (amount_minor : ℤ) : Bool :=
  min_amount.all (fun low => low.atMost (amount_minor / 100)) &&
    max_amount.all (fun high => high.atLeast (amount_minor / 100))

/-- A bound that fits 64 bits once it is rounded. -/
def PyFloat.Fits : PyFloat → Prop
  | finite d => d.minor + 1 / 2 < 2 ^ 63
  | _ => False

/-- A lower bound that is rounded past no amount: it is a whole number of minor units, or it is rounded
up, or it is below 1 or above every amount. -/
def PyFloat.LowExact : PyFloat → Prop
  | finite d => Int.fract d.minor = 0 ∨ 1 / 2 ≤ Int.fract d.minor ∨ d.minor < 1 ∨
      10 ^ 11 + 1 ≤ d.minor
  | _ => False

/-- An upper bound that is rounded past no amount: it is rounded down, or it is not below any
amount. -/
def PyFloat.HighExact : PyFloat → Prop
  | finite d => Int.fract d.minor < 1 / 2 ∨ 10 ^ 11 ≤ d.minor
  | _ => False

namespace Decimal

variable {d : Decimal} {a : ℤ}

/-- A rounded amount is at most a whole one when its half unit stays below the next. -/
theorem rounded_le_iff : (d.rounded : ℤ) ≤ a ↔ d.minor + 1 / 2 < a + 1 := by
  rw [rounded_eq_floor, ← Int.lt_add_one_iff, Int.floor_lt]
  push_cast
  rfl

/-- A whole amount is at most a rounded one when the half unit reaches it. -/
theorem le_rounded_iff : a ≤ (d.rounded : ℤ) ↔ (a : ℚ) ≤ d.minor + 1 / 2 := by
  rw [rounded_eq_floor, Int.le_floor]

/-- A float bound is at most an amount in minor units when its own minor units are. -/
theorem atMost_iff : (PyFloat.finite d).atMost (a / 100) = true ↔ d.minor ≤ a := by
  rw [PyFloat.atMost, decide_eq_true_iff, minor, le_div_iff₀ (by norm_num), mul_comm]

/-- A float bound is at least an amount in minor units when its own minor units are. -/
theorem atLeast_iff : (PyFloat.finite d).atLeast (a / 100) = true ↔ (a : ℚ) ≤ d.minor := by
  rw [PyFloat.atLeast, decide_eq_true_iff, minor, div_le_iff₀ (by norm_num), mul_comm]

end Decimal

/-- An integer is not below a floor, or it is below it by 1 at least. -/
theorem floor_le_or_lt (q : ℚ) (a : ℤ) : (⌊q⌋ : ℚ) ≤ a ∨ (a : ℚ) + 1 ≤ ⌊q⌋ := by
  rcases le_or_gt ⌊q⌋ a with hle | hgt
  · exact .inl (by exact_mod_cast hle)
  · exact .inr (by exact_mod_cast hgt)

/-- The minor units that a bound is compared as. -/
def PyFloat.rounded : PyFloat → ℤ
  | finite d => d.rounded
  | _ => 0

namespace PyFloat

variable {x : PyFloat}

/-- A bound that fits is finite. -/
theorem Fits.exists_eq_finite (h : x.Fits) : ∃ d, x = finite d := by
  cases x with
  | inf => exact h.elim
  | nan => exact h.elim
  | finite d => exact ⟨d, rfl⟩

/-- A lower bound that is rounded past no amount compares as it is. -/
theorem LowExact.rounded_le_iff (h : x.LowExact) {a : ℤ} (ha : AmountInRange a) :
    x.rounded ≤ a ↔ x.atMost (a / 100) = true := by
  cases x with
  | inf => exact h.elim
  | nan => exact h.elim
  | finite d =>
    have hfloor := Int.floor_add_fract d.minor
    have hfract := Int.fract_nonneg d.minor
    have hlt := Int.fract_lt_one d.minor
    have hone : (1 : ℚ) ≤ a := by exact_mod_cast ha.1
    have htop : (a : ℚ) ≤ 10 ^ 11 := by exact_mod_cast ha.2
    rw [rounded, Decimal.rounded_le_iff, Decimal.atMost_iff]
    rcases h with hwhole | hup | hlow | hhigh
    · rcases floor_le_or_lt d.minor a with hle | hgt <;> constructor <;> intro _ <;> linarith
    · -- Rounding up leaves the amounts up to the floor below the bound.
      rcases floor_le_or_lt d.minor (a - 1) with hle | hgt <;> push_cast at * <;> constructor <;>
        intro _ <;> linarith
    · constructor <;> intro _ <;> linarith
    · constructor <;> intro _ <;> linarith

/-- Any other lower bound is rounded down to an amount that it excludes. -/
theorem rounded_of_not_lowExact (hf : x.Fits) (h : ¬ x.LowExact) :
    AmountInRange x.rounded ∧ x.atMost (x.rounded / 100) = false := by
  obtain ⟨d, rfl⟩ := hf.exists_eq_finite
  have hfloor := Int.floor_add_fract d.minor
  have hfract := Int.fract_nonneg d.minor
  simp only [LowExact, not_or, not_le, not_lt] at h
  obtain ⟨hne, hhalf, hone, htop⟩ := h
  have hpos : 0 < Int.fract d.minor := lt_of_le_of_ne hfract (Ne.symm hne)
  have hrounded : (d.rounded : ℤ) = ⌊d.minor⌋ := by
    rw [Decimal.rounded_eq_floor, Int.floor_eq_iff]
    constructor <;> linarith
  have htop' : ⌊d.minor⌋ < 10 ^ 11 + 1 := Int.floor_lt.2 (by exact_mod_cast htop)
  have hone' : 1 ≤ ⌊d.minor⌋ := Int.le_floor.2 (by exact_mod_cast hone)
  rw [rounded, ← Bool.not_eq_true, Decimal.atMost_iff, hrounded]
  exact ⟨⟨hone', by omega⟩, by linarith⟩

/-- An upper bound that is rounded past no amount compares as it is. -/
theorem HighExact.le_rounded_iff (h : x.HighExact) {a : ℤ} (ha : AmountInRange a) :
    a ≤ x.rounded ↔ x.atLeast (a / 100) = true := by
  cases x with
  | inf => exact h.elim
  | nan => exact h.elim
  | finite d =>
    have hfloor := Int.floor_add_fract d.minor
    have hfract := Int.fract_nonneg d.minor
    have htop : (a : ℚ) ≤ 10 ^ 11 := by exact_mod_cast ha.2
    rw [rounded, Decimal.le_rounded_iff, Decimal.atLeast_iff]
    rcases h with hdown | hhigh
    · rcases floor_le_or_lt d.minor (a - 1) with hle | hgt <;> push_cast at * <;> constructor <;>
        intro _ <;> linarith
    · constructor <;> intro _ <;> linarith

/-- Any other upper bound is rounded up to an amount that it excludes. -/
theorem rounded_of_not_highExact (hf : x.Fits) (h : ¬ x.HighExact) :
    AmountInRange x.rounded ∧ x.atLeast (x.rounded / 100) = false := by
  obtain ⟨d, rfl⟩ := hf.exists_eq_finite
  have hfloor := Int.floor_add_fract d.minor
  have hlt := Int.fract_lt_one d.minor
  simp only [HighExact, not_or, not_lt, not_le] at h
  obtain ⟨hhalf, htop⟩ := h
  have hrounded : (d.rounded : ℤ) = ⌊d.minor⌋ + 1 := by
    rw [Decimal.rounded_eq_floor, Int.floor_eq_iff]
    push_cast
    constructor <;> linarith
  have hfloor0 : 0 ≤ ⌊d.minor⌋ := Int.floor_nonneg.2 d.minor_nonneg
  have htop' : ⌊d.minor⌋ < 10 ^ 11 := Int.floor_lt.2 (by exact_mod_cast htop)
  rw [rounded, ← Bool.not_eq_true, Decimal.atLeast_iff, hrounded]
  refine ⟨⟨by omega, by omega⟩, ?_⟩
  push_cast
  linarith

/-- Rounding keeps the order of the bounds. -/
theorem rounded_le_rounded {y : PyFloat} (hx : x.Fits) (hy : y.Fits) (h : x.gt y = false) :
    x.rounded ≤ y.rounded := by
  obtain ⟨d, rfl⟩ := hx.exists_eq_finite
  obtain ⟨d', rfl⟩ := hy.exists_eq_finite
  have hle : d.value ≤ d'.value := by simpa [gt] using h
  have hminor : d.minor ≤ d'.minor := mul_le_mul_of_nonneg_left hle (by norm_num)
  rw [rounded, rounded, Decimal.rounded_eq_floor, Decimal.rounded_eq_floor]
  exact Int.floor_le_floor (by linarith)

end PyFloat

/-! ## Conversion and binding -/

/-- Whether a bound in minor units can be bound to a parameter. -/
def fitsBound (bound : Option ℤ) : Bool := bound.all fun n => (Value.int n).fits

/-- A bound is converted to its rounded minor units, which can be bound when it fits, or the conversion
ends in an error that is not answered with status 422. -/
theorem minorBound_cases {bound : Option PyFloat} (hs : ∀ x ∈ bound, x.IsShortest) :
    (minorBound bound = .ok (bound.map PyFloat.rounded) ∧
        (fitsBound (bound.map PyFloat.rounded) = true ↔ ∀ x ∈ bound, x.Fits)) ∨
      ∃ e : AppError, minorBound bound = .error e ∧ ¬ e.Is422 ∧ ¬ ∀ x ∈ bound, x.Fits := by
  match bound with
  | none => exact .inl ⟨rfl, by simp [fitsBound]⟩
  -- `to_minor_units` raises a `ValueError` on these two, which nobody turns into a 422.
  | some .inf => exact .inr ⟨_, rfl, not_false, fun h => h _ rfl⟩
  | some .nan => exact .inr ⟨_, rfl, not_false, fun h => h _ rfl⟩
  | some (.finite d) =>
    have hshort : d.coeff < 10 ^ 17 := hs _ rfl
    have hfits : (d.rounded : ℤ) < 2 ^ 63 ↔ ∀ x ∈ some (PyFloat.finite d), x.Fits := by
      rw [Decimal.rounded_eq_floor, Int.floor_lt]
      simp only [Option.mem_def, Option.some.injEq, forall_eq', PyFloat.Fits]
      exact_mod_cast Iff.rfl
    rw [minorBound, toMinorUnits_eq (by omega)]
    -- `quantize` raises beyond 28 digits, and such a bound is far above 2^63.
    split_ifs with hsmall
    · refine .inl ⟨rfl, ?_⟩
      rw [← hfits]
      simp only [fitsBound, Option.map_some, Option.all_some, Value.fits, PyFloat.rounded,
        decide_eq_true_eq]
      omega
    · refine .inr ⟨_, rfl, not_false, ?_⟩
      rw [← hfits]
      omega

/-- Texts can be bound; the bounds in minor units decide. -/
theorem all_fits_bindings (f : TransactionFilter) :
    (f.bindings.all fun p => p.2.fits) =
      (fitsBound f.min_amount_minor && fitsBound f.max_amount_minor) := by
  have hin : ∀ pre values, ((inBindings pre values).all fun p => p.2.fits) = true := by
    intro pre values
    rw [inBindings, List.all_map, List.all_eq_true]
    exact fun _ _ => rfl
  have htext : ∀ name value, ((textBindings name value).all fun p => p.2.fits) = true := by
    intro name value
    unfold textBindings
    split <;> rfl
  have hint : ∀ name value, ((intBindings name value).all fun p => p.2.fits) = fitsBound value := by
    intro name value
    unfold intBindings fitsBound
    split <;> simp
  simp only [TransactionFilter.bindings, List.all_append, hin, htext, hint, Bool.true_and]

namespace TransactionQuery

variable (query : TransactionQuery)

/-- The same request without bounds on the amount. -/
def base : TransactionQuery := { query with min_amount := none, max_amount := none }

/-- The arguments of `build_transaction_filters`, for a window and bounds in minor units. -/
def filter (window : Option String × Option String) (low high : Option ℤ) : TransactionFilter where
  merchant_id := query.merchant_id
  status := query.status.map fun values => values.map TransactionStatus.value
  payment_status := query.payment_status.map fun values => values.map PaymentStatus.value
  settlement_status := query.settlement_status.map fun values => values.map SettlementStatus.value
  currency := (query.currency.filter fun currency => currency ≠ "").map upper
  date_from := window.1
  date_to := window.2
  date_field := query.date_field
  min_amount_minor := low
  max_amount_minor := high
  has_duplicates := query.has_duplicates

/-- The condition of a request whose bounds are in order. -/
theorem accepted_eq (horder : ∀ low ∈ query.min_amount, ∀ high ∈ query.max_amount,
    low.gt high = false) :
    query.accepted = (resolveWindow query.date_from query.date_to).bind fun window =>
      (minorBound query.min_amount).bind fun low => (minorBound query.max_amount).bind fun high =>
        if (fitsBound low && fitsBound high) = true then
          .ok (buildTransactionFilters (query.filter window low high))
        else .error .overflow := by
  have hfits : ∀ window low high,
      ((buildTransactionFilters (query.filter window low high)).params.all fun p => p.2.fits) =
        (fitsBound low && fitsBound high) := by
    intro window low high
    rw [buildTransactionFilters_eq, all_fits_bindings]
    rfl
  -- With both bounds there is the comparison of the two, which they pass.
  have hwhere : query.where_ = (resolveWindow query.date_from query.date_to).bind fun window =>
      (minorBound query.min_amount).bind fun low => (minorBound query.max_amount).bind fun high =>
        .ok (buildTransactionFilters (query.filter window low high)) := by
    unfold where_
    cases hmin : query.min_amount with
    | none => rfl
    | some low =>
      cases hmax : query.max_amount with
      | none => rfl
      | some high =>
        have hgt := horder low hmin high hmax
        simp only [hgt, if_false, Bool.false_eq_true]
        rfl
  rw [accepted, hwhere]
  -- The first of the three that fails is the error; the bindings come last.
  cases resolveWindow query.date_from query.date_to with
  | error e => rfl
  | ok window =>
    cases minorBound query.min_amount with
    | error e => rfl
    | ok low =>
      cases minorBound query.max_amount with
      | error e => rfl
      | ok high =>
        simp only [Except.bind, hfits]

variable {query}

/-- Bounds that fit are bound to parameters. -/
theorem accepted_of_fits (horder : ∀ low ∈ query.min_amount, ∀ high ∈ query.max_amount,
      low.gt high = false)
    (hmin : ∀ x ∈ query.min_amount, x.IsShortest ∧ x.Fits)
    (hmax : ∀ x ∈ query.max_amount, x.IsShortest ∧ x.Fits) :
    query.accepted = (resolveWindow query.date_from query.date_to).map fun window =>
      buildTransactionFilters (query.filter window (query.min_amount.map PyFloat.rounded)
        (query.max_amount.map PyFloat.rounded)) := by
  have hbound : ∀ bound : Option PyFloat, (∀ x ∈ bound, x.IsShortest ∧ x.Fits) →
      minorBound bound = .ok (bound.map PyFloat.rounded) ∧
        fitsBound (bound.map PyFloat.rounded) = true := by
    intro bound h
    rcases minorBound_cases fun x hx => (h x hx).1 with ⟨hok, hfits⟩ | ⟨_, _, _, hnot⟩
    · exact ⟨hok, hfits.2 fun x hx => (h x hx).2⟩
    · exact absurd (fun x hx => (h x hx).2) hnot
  obtain ⟨hlow, hlowfits⟩ := hbound _ hmin
  obtain ⟨hhigh, hhighfits⟩ := hbound _ hmax
  rw [accepted_eq _ horder, hlow, hhigh]
  simp only [Except.bind, hlowfits, hhighfits, Bool.and_self, if_true]
  rfl

/-- A bound that does not fit ends in an error that is not answered with status 422. -/
theorem accepted_of_not_fits {window : Option String × Option String}
    (hwindow : resolveWindow query.date_from query.date_to = .ok window)
    (horder : ∀ low ∈ query.min_amount, ∀ high ∈ query.max_amount, low.gt high = false)
    (hmin : ∀ x ∈ query.min_amount, x.IsShortest) (hmax : ∀ x ∈ query.max_amount, x.IsShortest)
    (h : ¬ ((∀ x ∈ query.min_amount, x.Fits) ∧ ∀ x ∈ query.max_amount, x.Fits)) :
    ∃ e : AppError, query.accepted = .error e ∧ ¬ e.Is422 := by
  rw [accepted_eq _ horder, hwindow]
  rcases minorBound_cases hmin with ⟨hlow, hlowfits⟩ | ⟨e, hlow, he, _⟩
  · rcases minorBound_cases hmax with ⟨hhigh, hhighfits⟩ | ⟨e, hhigh, he, _⟩
    · rw [← hlowfits, ← hhighfits, ← Bool.and_eq_true] at h
      rw [hlow, hhigh]
      simp only [Except.bind, if_neg h]
      exact ⟨_, rfl, not_false⟩
    · rw [hlow, hhigh]
      exact ⟨e, rfl, he⟩
  · rw [hlow]
    exact ⟨e, rfl, he⟩

/-- Without bounds, only the window can be refused. -/
theorem accepted_base (query : TransactionQuery) :
    query.base.accepted = (resolveWindow query.date_from query.date_to).map fun window =>
      buildTransactionFilters (query.filter window none none) := by
  rw [@accepted_of_fits query.base nofun nofun nofun]
  rfl

/-- The bounds are two more conditions. -/
theorem selects_filter (query : TransactionQuery) (window : Option String × Option String)
    (low high : Option ℤ) (t : TransactionRow) :
    (buildTransactionFilters (query.filter window low high)).selects t = true ↔
      (buildTransactionFilters (query.filter window none none)).selects t = true ∧
        (∀ n ∈ low, n ≤ t.amount_minor) ∧ ∀ n ∈ high, t.amount_minor ≤ n := by
  rw [selects_iff_matches, selects_iff_matches]
  constructor
  · intro h
    exact ⟨{ h with min_amount := nofun, max_amount := nofun }, h.min_amount, h.max_amount⟩
  · rintro ⟨h, hlow, hhigh⟩
    exact { h with min_amount := hlow, max_amount := hhigh }

/-- The request is refused with status 422 at every offset that can be bound, or it shows the
transactions that satisfy the other filters and whose amount lies between the bounds. -/
def AnsweredExactly (query : TransactionQuery) (db : Database) : Prop :=
  (∃ e : AppError, e.Is422 ∧ ∀ offset < 2 ^ 63, query.request db offset = .error e) ∨
    ∃ where_, query.base.accepted = .ok where_ ∧ ∃ rows : List (TransactionRow × String),
      (rows.map Prod.fst).Perm (db.transactions.rows.filter fun t =>
        where_.selects t && inBounds query.min_amount query.max_amount t.amount_minor) ∧
      Shows (query.request db) query.limit (rows.map transactionOut)

end TransactionQuery

/-! ## One amount -/

/-- The example event with another amount. -/
def EventIn.withAmount (minor : ℕ) (h : AmountInRange minor) : EventIn :=
  { exampleEvent with
    amount := ⟨minor, -2⟩
    amount_le := by
      have hle : minor ≤ 1000000000 * 10 ^ 2 := by
        have := h.2
        omega
      exact_mod_cast @Decimal.value_le_iff_of_neg minor 2 1000000000 |>.2 hle
    amount_minor_pos := by
      have hone := h.1
      have htop := h.2
      exact ⟨minor, toMinorUnits_hundredths (by omega), by omega⟩ }

/-- Every amount in range is the amount of a transaction that is the only one. -/
theorem exists_reachable_amount {a : ℤ} (ha : AmountInRange a) :
    ∃ db, Reachable db ∧ ∃ t, db.transactions.rows = [t] ∧ t.amount_minor = a := by
  have hone := ha.1
  lift a to ℕ using by omega
  let event := EventIn.withAmount a ha
  have hnew : Database.empty.events.find? event.event_id = none := rfl
  have hamount : event.amount_minor = a := by
    have htop := ha.2
    have hconv := event.toMinorUnits_amount
    rw [show event.amount = ⟨a, -2⟩ from rfl, toMinorUnits_hundredths (by omega)] at hconv
    exact (Except.ok.inj hconv).symm
  refine ⟨_, ⟨_, Run.empty.ingest "" [event]⟩, (event.row "").transactionRow, ?_, hamount⟩
  rw [Database.applyAll_cons, Database.applyAll_nil, Database.apply_of_new hnew]
  exact congrArg Table.rows (Table.upsert_of_none _ _ rfl)

/-! ## Exactness -/

/-- The bounds fit 64 bits once they are rounded, and are rounded past no amount. -/
structure BoundsExact (min_amount max_amount : Option PyFloat) : Prop where
  /-- The lower bound. -/
  low : ∀ x ∈ min_amount, x.Fits ∧ x.LowExact
  /-- The upper bound. -/
  high : ∀ x ∈ max_amount, x.Fits ∧ x.HighExact

namespace TransactionQuery

variable {query : TransactionQuery}

/-- With exact bounds, a request shows what it asks for. -/
theorem answeredExactly_of_boundsExact
    (horder : ∀ low ∈ query.min_amount, ∀ high ∈ query.max_amount, low.gt high = false)
    (hmin : ∀ x ∈ query.min_amount, x.IsShortest) (hmax : ∀ x ∈ query.max_amount, x.IsShortest)
    (h : BoundsExact query.min_amount query.max_amount) {db : Database} (hr : Reachable db)
    (hl : 0 < query.limit) (hbase : ∀ e, query.base.accepted = .error e → e.Is422) :
    query.AnsweredExactly db := by
  have haccepted := accepted_of_fits horder (fun x hx => ⟨hmin x hx, (h.low x hx).1⟩)
    fun x hx => ⟨hmax x hx, (h.high x hx).1⟩
  rw [accepted_base] at hbase
  unfold AnsweredExactly
  rw [accepted_base]
  cases hwindow : resolveWindow query.date_from query.date_to with
  | error e =>
    rw [hwindow] at hbase haccepted
    exact .inl ⟨e, hbase e rfl, fun offset _ => request_of_error haccepted db offset⟩
  | ok window =>
    rw [hwindow] at haccepted
    obtain ⟨rows, hperm, _, hshows⟩ := shows_transactions hr.projected hl haccepted
    refine .inr ⟨_, rfl, rows, ?_, hshows⟩
    -- The rounded bounds select the same transactions as the bounds.
    have hselects : ∀ t ∈ db.transactions.rows,
        (buildTransactionFilters (query.filter window (query.min_amount.map PyFloat.rounded)
          (query.max_amount.map PyFloat.rounded))).selects t =
        ((buildTransactionFilters (query.filter window none none)).selects t &&
          inBounds query.min_amount query.max_amount t.amount_minor) := by
      intro t ht
      have ha := hr.valid.transaction_amount t ht
      have hlow : (∀ n ∈ query.min_amount.map PyFloat.rounded, n ≤ t.amount_minor) ↔
          query.min_amount.all (fun x => x.atMost (t.amount_minor / 100)) = true := by
        rw [Option.all_eq_true, Option.forall_mem_map]
        exact forall₂_congr fun x hx => (h.low x hx).2.rounded_le_iff ha
      have hhigh : (∀ n ∈ query.max_amount.map PyFloat.rounded, t.amount_minor ≤ n) ↔
          query.max_amount.all (fun x => x.atLeast (t.amount_minor / 100)) = true := by
        rw [Option.all_eq_true, Option.forall_mem_map]
        exact forall₂_congr fun x hx => (h.high x hx).2.le_rounded_iff ha
      rw [Bool.eq_iff_iff, selects_filter, hlow, hhigh, inBounds, Bool.and_eq_true,
        Bool.and_eq_true]
    rwa [← List.filter_congr hselects]

/-- A request that is answered as it should be is not refused with any other status. -/
theorem is422_of_answeredExactly {db : Database} (h : query.AnsweredExactly db) {e : AppError}
    (he : query.accepted = .error e) : e.Is422 := by
  have hrequest := request_of_error he db 0
  rcases h with ⟨e', he', hrefused⟩ | ⟨_, _, rows, _, hshows⟩
  · rw [hrefused 0 (by norm_num)] at hrequest
    cases hrequest
    exact he'
  · obtain ⟨answer, hanswer, _⟩ := hshows.answer 0 (by norm_num)
    rw [hanswer] at hrequest
    cases hrequest

end TransactionQuery

section

variable {min_amount max_amount : Option PyFloat}

/-- An amount between the rounded bounds is between the bounds, if the requests with bounds alone are
answered as they should be. -/
theorem inBounds_of_answeredExactly
    (hanswered : ∀ db, Reachable db →
      TransactionQuery.AnsweredExactly { min_amount := min_amount, max_amount := max_amount } db)
    (hmin : ∀ x ∈ min_amount, x.IsShortest ∧ x.Fits) (hmax : ∀ x ∈ max_amount, x.IsShortest ∧ x.Fits)
    (horder : ∀ low ∈ min_amount, ∀ high ∈ max_amount, low.gt high = false) {a : ℤ}
    (ha : AmountInRange a) (hlow : ∀ x ∈ min_amount, x.rounded ≤ a)
    (hhigh : ∀ x ∈ max_amount, a ≤ x.rounded) : inBounds min_amount max_amount a = true := by
  let query : TransactionQuery := { min_amount := min_amount, max_amount := max_amount }
  obtain ⟨db, hr, t, hrows, rfl⟩ := exists_reachable_amount ha
  have haccepted := @TransactionQuery.accepted_of_fits query horder hmin hmax
  have hselects : (buildTransactionFilters (query.filter (none, none)
      (min_amount.map PyFloat.rounded) (max_amount.map PyFloat.rounded))).selects t = true := by
    rw [TransactionQuery.selects_filter]
    refine ⟨rfl, ?_, ?_⟩
    · rwa [Option.forall_mem_map]
    · rwa [Option.forall_mem_map]
  have hrequest := request_of_ok haccepted db 0
  have hcount : countTransactions (buildTransactionFilters (query.filter (none, none)
      (min_amount.map PyFloat.rounded) (max_amount.map PyFloat.rounded))) db = 1 := by
    rw [countTransactions, hrows, List.filter_singleton, hselects]
    rfl
  rcases hanswered db hr with ⟨e, _, hrefused⟩ | ⟨where_, _, rows, hperm, hshows⟩
  · rw [hrefused 0 (by norm_num)] at hrequest
    cases hrequest
  · -- The total counts the transaction, so it is one of those that should be shown.
    obtain ⟨answer, hanswer, _, htotal, _⟩ := hshows.answer 0 (by norm_num)
    rw [hanswer] at hrequest
    cases hrequest
    have hlength : 0 < (db.transactions.rows.filter fun t =>
        where_.selects t && inBounds min_amount max_amount t.amount_minor).length := by
      rw [← hperm.length_eq, List.length_map, ← @List.length_map _ _ _ transactionOut, ← htotal]
      exact hcount.symm ▸ Nat.one_pos
    obtain ⟨t', ht'⟩ := List.exists_mem_of_length_pos hlength
    rw [List.mem_filter, hrows, List.mem_singleton, Bool.and_eq_true] at ht'
    obtain ⟨rfl, _, hin⟩ := ht'
    exact hin

/-- Bounds whose requests are answered as they should be are exact. -/
theorem boundsExact_of_answeredExactly
    (hanswered : ∀ db, Reachable db →
      TransactionQuery.AnsweredExactly { min_amount := min_amount, max_amount := max_amount } db)
    (hmin : ∀ x ∈ min_amount, x.IsShortest) (hmax : ∀ x ∈ max_amount, x.IsShortest)
    (horder : ∀ low ∈ min_amount, ∀ high ∈ max_amount, low.gt high = false) :
    BoundsExact min_amount max_amount := by
  have hfits : (∀ x ∈ min_amount, x.Fits) ∧ ∀ x ∈ max_amount, x.Fits := by
    by_contra hnot
    obtain ⟨e, he, hne⟩ := @TransactionQuery.accepted_of_not_fits
      { min_amount := min_amount, max_amount := max_amount } (none, none) rfl horder hmin hmax hnot
    exact hne (TransactionQuery.is422_of_answeredExactly (hanswered _ ⟨_, .empty⟩) he)
  have hbetween := @inBounds_of_answeredExactly _ _ hanswered (fun x hx => ⟨hmin x hx, hfits.1 x hx⟩)
    (fun x hx => ⟨hmax x hx, hfits.2 x hx⟩) horder
  constructor
  · intro low hlow
    refine ⟨hfits.1 low hlow, ?_⟩
    by_contra hnot
    -- The bound is rounded to an amount that is shown and should not be.
    obtain ⟨ha, hfalse⟩ := PyFloat.rounded_of_not_lowExact (hfits.1 low hlow) hnot
    have hin := hbetween ha (fun x hx => by rw [Option.mem_unique hx hlow]) fun x hx =>
      PyFloat.rounded_le_rounded (hfits.1 low hlow) (hfits.2 x hx) (horder low hlow x hx)
    rw [inBounds, Bool.and_eq_true, Option.all_eq_true] at hin
    rw [hin.1 low hlow] at hfalse
    cases hfalse
  · intro high hhigh
    refine ⟨hfits.2 high hhigh, ?_⟩
    by_contra hnot
    obtain ⟨ha, hfalse⟩ := PyFloat.rounded_of_not_highExact (hfits.2 high hhigh) hnot
    have hin := hbetween ha (fun x hx => PyFloat.rounded_le_rounded (hfits.1 x hx)
      (hfits.2 high hhigh) (horder x hx high hhigh)) fun x hx => by rw [Option.mem_unique hx hhigh]
    rw [inBounds, Bool.and_eq_true, Option.all_eq_true, Option.all_eq_true] at hin
    rw [hin.2 high hhigh] at hfalse
    cases hfalse

/-- The bounds of the amounts are exact when rounding keeps them. For every pair of bounds in order, each
the shortest text of a float: every request with these bounds, in every reachable database and with any
other filters that are not refused otherwise than with status 422, is refused with status 422 or shows
exactly the transactions that satisfy the other filters and whose amount lies between the bounds,
compared exactly, if and only if both bounds fit 64 bits and are rounded past no amount. -/
theorem amount_bounds_exact_iff (hmin : ∀ x ∈ min_amount, x.IsShortest)
    (hmax : ∀ x ∈ max_amount, x.IsShortest)
    (horder : ∀ low ∈ min_amount, ∀ high ∈ max_amount, low.gt high = false) :
    (∀ (query : TransactionQuery) (db : Database), query.min_amount = min_amount →
      query.max_amount = max_amount → 0 < query.limit → Reachable db →
      (∀ e, query.base.accepted = .error e → e.Is422) → query.AnsweredExactly db) ↔
    BoundsExact min_amount max_amount := by
  constructor
  · intro h
    exact boundsExact_of_answeredExactly (fun db hr => h _ db rfl rfl (Nat.succ_pos 49) hr nofun)
      hmin hmax horder
  · rintro h query db rfl rfl hl hr hbase
    exact TransactionQuery.answeredExactly_of_boundsExact horder hmin hmax h hr hl hbase

end

/-- Between 100 and 200.5. -/
theorem amount_bounds_exact_iff_hundred :
    TransactionQuery.AnsweredExactly { min_amount := some (.finite ⟨100, 0⟩)
                                       max_amount := some (.finite ⟨2005, -1⟩) } .empty := by
  have hlow : (⟨100, 0⟩ : Decimal).minor = (10000 : ℤ) := by norm_num [Decimal.minor, Decimal.value]
  have hhigh : (⟨2005, -1⟩ : Decimal).minor = (20050 : ℤ) := by
    norm_num [Decimal.minor, Decimal.value]
  have hexact : BoundsExact (some (.finite ⟨100, 0⟩)) (some (.finite ⟨2005, -1⟩)) := by
    constructor
    · intro low hmem
      rw [← Option.some.inj hmem, PyFloat.Fits, PyFloat.LowExact, hlow, Int.fract_intCast]
      norm_num
    · intro high hmem
      rw [← Option.some.inj hmem, PyFloat.Fits, PyFloat.HighExact, hhigh, Int.fract_intCast]
      norm_num
  refine (amount_bounds_exact_iff ?_ ?_ ?_).2 hexact _ _ rfl rfl (by decide) ⟨_, .empty⟩ ?_
  · intro low hmem
    rw [← Option.some.inj hmem]
    norm_num [PyFloat.IsShortest]
  · intro high hmem
    rw [← Option.some.inj hmem]
    norm_num [PyFloat.IsShortest]
  · intro low hlow high hhigh
    rw [← Option.some.inj hlow, ← Option.some.inj hhigh]
    norm_num [PyFloat.gt, Decimal.value]
  · intro e he
    cases he

/-- A lower bound of infinity or of 10^17 ends in an exception that nobody catches, and one of 0.014 shows
a transaction of 0.01. -/
theorem amount_bounds_escape :
    let infinite : TransactionQuery := { min_amount := some .inf }
    let large : TransactionQuery := { min_amount := some (.finite ⟨1, 17⟩) }
    let between : TransactionQuery := { min_amount := some (.finite ⟨14, -3⟩) }
    infinite.request .empty 0 = .error (.amount .invalidAmount) ∧
      large.request .empty 0 = .error .overflow ∧
      ¬ infinite.AnsweredExactly .empty ∧ ¬ large.AnsweredExactly .empty ∧
      ∃ db, Reachable db ∧ ¬ between.AnsweredExactly db := by
  have hinfinite : ({ min_amount := some .inf } : TransactionQuery).accepted =
      .error (.amount .invalidAmount) := rfl
  have hlarge : ({ min_amount := some (.finite ⟨1, 17⟩) } : TransactionQuery).accepted =
      .error .overflow := by decide
  refine ⟨request_of_error hinfinite _ 0, request_of_error hlarge _ 0,
    fun h => TransactionQuery.is422_of_answeredExactly h hinfinite,
    fun h => TransactionQuery.is422_of_answeredExactly h hlarge, ?_⟩
  -- If the third request were answered exactly over every database, its bound would be exact.
  by_contra hnot
  push Not at hnot
  have hexact := boundsExact_of_answeredExactly hnot (by rintro x ⟨⟩; norm_num [PyFloat.IsShortest])
    nofun nofun
  have hminor : (⟨14, -3⟩ : Decimal).minor = 7 / 5 := by norm_num [Decimal.minor, Decimal.value]
  -- But 100 * 0.014 = 1.4 is rounded down, to the amount of the transaction below the bound.
  have hfract : Int.fract (7 / 5 : ℚ) = 2 / 5 := by
    rw [Int.fract_eq_iff]
    exact ⟨by norm_num, by norm_num, 1, by norm_num⟩
  have hlow := (hexact.low _ rfl).2
  rw [PyFloat.LowExact, hminor, hfract] at hlow
  norm_num at hlow

end PaymentRecon
