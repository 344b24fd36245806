import PaymentRecon.Timestamps
import PaymentRecon.Run

/-!
# Validation of raw events

`EventIn.model_validate` of `app/schemas.py`. Each field goes through the checks of its type and of
`Field` on the raw value first, and through its validator afterwards. The errors of all fields are
collected, each with the name of its field; an exception that is no `ValueError` passes through
instead. A raw event is a dictionary, so a name occurs once among its members, and the members that
the model does not know are kept.

What is pydantic's own is a parameter (`Pydantic`): how it converts a raw value to a float, and what it
makes of fields that the model does not know, on the way in and in `model_dump`.
-/

namespace PaymentRecon

open Store

/-! ## Errors -/

/-- Why a field is not accepted. -/
inductive Violation
  /-- A required field is not there. -/
  | missing
  /-- The value is not of the type of the field. -/
  | wrongType
  /-- `min_length`. -/
  | tooShort (min_length : ℕ)
  /-- `max_length`. -/
  | tooLong (max_length : ℕ)
  /-- `gt=0`. -/
  | notPositive
  /-- `le=MAX_AMOUNT`. -/
  | tooLarge
  /-- The `ValueError` of a validator. -/
  | value (message : String)
  /-- The `ValueError` that a `TimestampError` is turned into. -/
  | timestamp (e : TimestampError)
  /-- An exception that is no `ValueError`. -/
  | raised (e : AppError)
deriving DecidableEq

/-- The error of a field. -/
structure FieldError where
  /-- The name of the field; empty for the event itself. -/
  loc : String
  /-- What is wrong with it. -/
  violation : Violation
deriving DecidableEq

/-- What validation raises. -/
inductive ValidationFailure
  /-- `pydantic.ValidationError`. -/
  | rejected (errors : List FieldError)
  /-- An exception that passed through. -/
  | raised (e : AppError)
deriving DecidableEq

/-- What a list of fields, each with what is wrong with it, is answered with. -/
def failure (fields : List (String × Option Violation)) : ValidationFailure :=
  let exception := fields.findSome? fun field => match field.2 with
    | some (.raised e) => some e
    | _ => none
  match exception with
  | some e => .raised e
  | none => .rejected (fields.filterMap fun field => field.2.map fun v => ⟨field.1, v⟩)

/-! ## Fields -/

/-- A `str` field with bounds on its length. -/
def strField (min_length max_length : ℕ) : Json → Except Violation String
  | .str s =>
    if s.length < min_length then .error (.tooShort min_length)
    else if max_length < s.length then .error (.tooLong max_length)
    else .ok s
  | _ => .error .wrongType

/-- `Field(min_length=1, max_length=128)` and `_strip_identifier`. -/
def identifierField (raw : Json) : Except Violation {s : String // Identifier s} :=
  match raw with
  | .str s =>
    if s.length < 1 then .error (.tooShort 1)
    else if hmax : 128 < s.length then .error (.tooLong 128)
    else if hblank : strip s = "" then .error (.value "must not be blank")
    else .ok ⟨strip s, strip_strip s, hblank, (length_strip_le s).trans (not_lt.1 hmax)⟩
  | _ => .error .wrongType

/-- The values of `EventType`. -/
def eventTypeField : Json → Except Violation EventType
  | .str "payment_initiated" => .ok .payment_initiated
  | .str "payment_processed" => .ok .payment_processed
  | .str "payment_failed" => .ok .payment_failed
  | .str "settled" => .ok .settled
  | _ => .error .wrongType

/-- `str | None`, `Field(default=None, max_length=256)`. -/
def merchantNameField : Option Json → Except Violation (Option String)
  | none | some .null => .ok none
  | some raw => (strField 0 256 raw).map some

/-- What the field `amount` accepts: at most `MAX_AMOUNT`, and at least one minor unit. -/
def AcceptedAmount (d : Decimal) : Prop :=
  d.value ≤ 1000000000 ∧ ∃ minor, toMinorUnits (.finite d) = .ok minor ∧ 0 < minor

/-- `_check_amount`, of a finite amount in the range of the field. -/
def checkAmount (d : Decimal) (hd : d.value ≤ 1000000000) :
    Except Violation {d : Decimal // AcceptedAmount d} :=
  match h : toMinorUnits (.finite d) with
  | .error .invalidAmount => .error (.value "invalid amount")
  | .error .invalidOperation => .error (.raised (.amount .invalidOperation))
  | .ok minor =>
    if hpos : 0 < minor then .ok ⟨d, hd, minor, h, hpos⟩
    else .error (.value "amount must be greater than zero")

/-- `Field(gt=0, le=MAX_AMOUNT)` and `_check_amount`. -/
def amountField (toFloat : Json → Option (Bool × PyFloat)) (raw : Json) :
    Except Violation {d : Decimal // AcceptedAmount d} :=
  match toFloat raw with
  | none => .error .wrongType
  -- A comparison with `nan` is false, so that it is left to the validator.
  | some (_, .nan) => .error (.value "invalid amount")
  | some (true, _) => .error .notPositive
  | some (false, .inf) => .error .tooLarge
  | some (false, .finite d) =>
    if hle : 1000000000 < d.value then .error .tooLarge
    else if d.value ≤ 0 then .error .notPositive
    else checkAmount d (not_lt.1 hle)

/-- `Field(min_length=3, max_length=3)` and `_upper_currency`. -/
def currencyField (raw : Json) : Except Violation String :=
  match strField 3 3 raw with
  | .error v => .error v
  | .ok value =>
    let code := upper (strip value)
    if isAlpha code then .ok code
    else .error (.value "currency must be a 3-letter ISO-4217 code")

/-- `_normalise_timestamp`. -/
def timestampField (raw : Json) : Except Violation {s : String // Canonical s} :=
  match raw with
  | .str s =>
    match h : normaliseTs s with
    | .ok text => .ok ⟨text, canonical_of_normaliseTs h⟩
    | .error (.timestamp e) => .error (.timestamp e)
    | .error .overflow => .error (.raised .overflow)
  | _ => .error .wrongType

/-- A field that must be there. -/
def required {α : Type} (field : Json → Except Violation α) : Option Json → Except Violation α
  | none => .error .missing
  | some raw => field raw

/-! ## Events -/

/-- What validation and `model_dump` rely on pydantic for. -/
structure Pydantic where
  /-- The conversion of a raw value to a float: its sign, and the text of its absolute value. -/
  toFloat : Json → Option (Bool × PyFloat)
  /-- The values that unknown fields of a document are read as: numbers that are the same float are the
  same value. -/
  readExtra : List (String × Json) → List (String × Json)
  /-- The exception that `model_dump` raises on unknown fields, if it does. -/
  dumpError : List (String × Json) → Option AppError
  /-- What `model_dump(mode="json")` makes of unknown fields when it returns. -/
  dumpExtra : List (String × Json) → List (String × Json)
  /-- The fields are read under their names. -/
  readExtra_names : ∀ members, (readExtra members).map Prod.fst = members.map Prod.fst
  /-- The fields are dumped under their names. -/
  dumpExtra_names : ∀ members, (dumpExtra members).map Prod.fst = members.map Prod.fst
  /-- What has been dumped is dumped as it is when it is read again. -/
  dumpExtra_readExtra : ∀ members, dumpExtra (readExtra (dumpExtra members)) = dumpExtra members

/-- The names of the fields. -/
def fieldNames : List String :=
  ["event_id", "event_type", "transaction_id", "merchant_id", "merchant_name", "amount", "currency",
    "timestamp"]

/-- What is wrong with a field. -/
def violation {α : Type} : Except Violation α → Option Violation
  | .ok _ => none
  | .error v => some v

/-- The value of a member of an object. -/
def Json.member (name : String) : Json → Option Json
  | .obj members => members.lookup name
  | _ => none

/-- The members of an object that the model does not know. -/
def Json.unknown : Json → List (String × Json)
  | .obj members => members.filter fun m => m.1 ∉ fieldNames
  | _ => []

/-- `EventIn.model_validate`. -/
def EventIn.modelValidate (pydantic : Pydantic) (raw : Json) :
    Except ValidationFailure EventIn :=
  match raw with
  | .obj members =>
    let event_id := required identifierField (members.lookup "event_id")
    let event_type := required eventTypeField (members.lookup "event_type")
    let transaction_id := required identifierField (members.lookup "transaction_id")
    let merchant_id := required identifierField (members.lookup "merchant_id")
    let merchant_name := merchantNameField (members.lookup "merchant_name")
    let amount := required (amountField pydantic.toFloat) (members.lookup "amount")
    let currency := required currencyField (members.lookup "currency")
    let timestamp := required timestampField (members.lookup "timestamp")
    match event_id, event_type, transaction_id, merchant_id, merchant_name, amount, currency,
      timestamp with
    | .ok event_id, .ok event_type, .ok transaction_id, .ok merchant_id, .ok merchant_name,
      .ok amount, .ok currency, .ok timestamp =>
      .ok
        { event_id := event_id
          event_type := event_type
          transaction_id := transaction_id
          merchant_id := merchant_id
          merchant_name := merchant_name
          amount := amount
          currency := currency
          timestamp := timestamp
          extra := pydantic.readExtra raw.unknown
          extra_dump := pydantic.dumpExtra (pydantic.readExtra raw.unknown)
          event_id_valid := event_id.2
          transaction_id_valid := transaction_id.2
          merchant_id_valid := merchant_id.2
          amount_le := amount.2.1
          amount_minor_pos := amount.2.2
          timestamp_canonical := timestamp.2 }
    | _, _, _, _, _, _, _, _ =>
      .error (failure
        [("event_id", violation event_id), ("event_type", violation event_type),
          ("transaction_id", violation transaction_id), ("merchant_id", violation merchant_id),
          ("merchant_name", violation merchant_name), ("amount", violation amount),
          ("currency", violation currency), ("timestamp", violation timestamp)])
  | _ => .error (.rejected [⟨"", .wrongType⟩])

/-! ## A sample of pydantic -/

/-- A conversion of the numbers that are written as `repr` writes floats. -/
def numberToFloat : Json → Option (Bool × PyFloat)
  | .num negative d => some (negative, .finite d)
  | _ => none

mutual

/-- A value as it is dumped: a float that is rounded to infinity becomes `null`. -/
def Json.dump : Json → Json
  | .num negative d => if d.exp = 0 ∨ d.value < 2 ^ 1024 - 2 ^ 970 then .num negative d else .null
  | .arr items => .arr (dumpItems items)
  | .obj members => .obj (dumpMembers members)
  | raw => raw

/-- The items of an array as they are dumped. -/
def dumpItems : List Json → List Json
  | [] => []
  | item :: items => item.dump :: dumpItems items

/-- The members of an object as they are dumped. -/
def dumpMembers : List (String × Json) → List (String × Json)
  | [] => []
  | (name, raw) :: members => (name, raw.dump) :: dumpMembers members

end

mutual

/-- How deep a value is nested. -/
def Json.depth : Json → ℕ
  | .arr items => depthItems items + 1
  | .obj members => depthMembers members + 1
  | _ => 0

/-- How deep the items of an array are nested. -/
def depthItems : List Json → ℕ
  | [] => 0
  | item :: items => max item.depth (depthItems items)

/-- How deep the members of an object are nested. -/
def depthMembers : List (String × Json) → ℕ
  | [] => 0
  | (_, raw) :: members => max raw.depth (depthMembers members)

end

mutual

/-- A value that has been dumped is dumped as it is. -/
theorem Json.dump_dump : ∀ raw : Json, raw.dump.dump = raw.dump
  | .num negative d => by
    rw [Json.dump]
    split_ifs with hfinite
    · rw [Json.dump, if_pos hfinite]
    · rfl
  | .arr items => by rw [Json.dump, Json.dump, dumpItems_dumpItems]
  | .obj members => by rw [Json.dump, Json.dump, dumpMembers_dumpMembers]
  | .null => rfl
  | .bool _ => rfl
  | .str _ => rfl

/-- So are items. -/
theorem dumpItems_dumpItems : ∀ items, dumpItems (dumpItems items) = dumpItems items
  | [] => rfl
  | item :: items => by rw [dumpItems, dumpItems, item.dump_dump, dumpItems_dumpItems]

/-- So are members. -/
theorem dumpMembers_dumpMembers : ∀ members, dumpMembers (dumpMembers members) = dumpMembers members
  | [] => rfl
  | (name, raw) :: members => by
    rw [dumpMembers, dumpMembers, raw.dump_dump, dumpMembers_dumpMembers]

end

/-- Members keep their names when they are dumped. -/
theorem dumpMembers_names : ∀ members, (dumpMembers members).map Prod.fst = members.map Prod.fst
  | [] => rfl
  | (name, raw) :: members => by
    rw [dumpMembers, List.map_cons, List.map_cons, dumpMembers_names]

/-- pydantic as the samples use it, on documents in which floats are written as `repr` writes them. The
guard of its `model_dump` against cycles refuses 256 levels of nesting. -/
def samplePydantic : Pydantic where
  toFloat := numberToFloat
  readExtra := id
  dumpError members := if depthMembers members < 256 then none
    else some (.other "Circular reference detected (depth exceeded)")
  dumpExtra := dumpMembers
  readExtra_names _ := rfl
  dumpExtra_names := dumpMembers_names
  dumpExtra_readExtra := dumpMembers_dumpMembers

end PaymentRecon
