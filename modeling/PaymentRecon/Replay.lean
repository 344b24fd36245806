import PaymentRecon.Validation
import PaymentRecon.Convergence

/-!
# Replaying stored payloads

`raw_payload` is the document of a validated event, so validating it again should give the event
back. Each field is a fixed point of its own validator but the currency, whose length is checked
before it is stripped and upper-cased: a blank that is stripped makes the code shorter, and a letter
such as `ß`, whose upper-case form is two letters long, makes it longer. The fields that the model does
not know are what `model_dump` makes of them: it has no document for fields that are nested too deep, and
an infinite number comes back as `null`. `Replayable` is what validation is meant to promise of an event,
and `replayable_iff` says for which raw events it does.
-/

namespace PaymentRecon

open Store

/-- Three upper-case letters. -/
def ThreeUpper (s : String) : Prop := s.length = 3 ∧ ∀ c ∈ s.toList, isUpper c = true

instance (s : String) : Decidable (ThreeUpper s) :=
  decidable_of_iff (s.length = 3 ∧ s.toList.all isUpper = true)
    (and_congr_right' List.all_eq_true)

section

variable (pydantic : Pydantic)

/-- An event is accepted when all of its fields are. -/
theorem modelValidate_eq_ok_iff {members : List (String × Json)} {event : EventIn} :
    EventIn.modelValidate pydantic (.obj members) = .ok event ↔
      required identifierField (members.lookup "event_id") =
          .ok ⟨event.event_id, event.event_id_valid⟩ ∧
        required eventTypeField (members.lookup "event_type") = .ok event.event_type ∧
        required identifierField (members.lookup "transaction_id") =
          .ok ⟨event.transaction_id, event.transaction_id_valid⟩ ∧
        required identifierField (members.lookup "merchant_id") =
          .ok ⟨event.merchant_id, event.merchant_id_valid⟩ ∧
        merchantNameField (members.lookup "merchant_name") = .ok event.merchant_name ∧
        required (amountField pydantic.toFloat) (members.lookup "amount") =
          .ok ⟨event.amount, event.amount_le, event.amount_minor_pos⟩ ∧
        required currencyField (members.lookup "currency") = .ok event.currency ∧
        required timestampField (members.lookup "timestamp") =
          .ok ⟨event.timestamp, event.timestamp_canonical⟩ ∧
        pydantic.readExtra (Json.obj members).unknown = event.extra ∧
        pydantic.dumpExtra event.extra = event.extra_dump := by
  simp only [EventIn.modelValidate]
  constructor
  · intro h
    -- All eight fields are accepted, or there is an error.
    split at h
    · rename_i h₁ h₂ h₃ h₄ h₅ h₆ h₇ h₈
      cases h
      exact ⟨h₁, h₂, h₃, h₄, h₅, h₆, h₇, h₈, rfl, rfl⟩
    · cases h
  · rintro ⟨h₁, h₂, h₃, h₄, h₅, h₆, h₇, h₈, h₉, h₁₀⟩
    simp only [h₁, h₂, h₃, h₄, h₅, h₆, h₇, h₈, h₉, h₁₀]

end

/-! ## Fixed points of the fields -/

section Fields

variable {toFloat : Json → Option (Bool × PyFloat)}

/-- A text field accepts the texts within its bounds. -/
theorem strField_eq_ok_iff {min_length max_length : ℕ} {raw : Json} {s : String} :
    strField min_length max_length raw = .ok s ↔
      raw = .str s ∧ min_length ≤ s.length ∧ s.length ≤ max_length := by
  cases raw with
  | str s' =>
    simp only [strField]
    split_ifs <;> simp <;> grind
  | _ => simp [strField]

/-- An identifier is accepted as it is. -/
theorem identifierField_self {s : String} (h : Identifier s) :
    identifierField (.str s) = .ok ⟨s, h⟩ := by
  obtain ⟨hstrip, hne, hlength⟩ := h
  have hpos : ¬ s.length < 1 := by
    rw [Nat.lt_one_iff, String.length_eq_zero_iff]
    exact hne
  simp only [identifierField, hpos, not_lt.2 hlength, hstrip, hne, if_false, dif_neg,
    not_false_eq_true]

/-- The text of an event type is accepted as the type. -/
theorem eventTypeField_self (type : EventType) : eventTypeField (.str type.value) = .ok type := by
  cases type <;> rfl

/-- A canonical timestamp is accepted as it is. -/
theorem timestampField_self {s : String} (h : Canonical s) :
    timestampField (.str s) = .ok ⟨s, h⟩ := by
  have hself := normaliseTs_of_canonical h
  simp only [timestampField]
  split <;> rename_i hs <;> rw [hself] at hs <;> cases hs
  rfl

/-- A merchant's name that is accepted is accepted again. -/
theorem merchantNameField_self {raw : Option Json} {name : Option String}
    (h : merchantNameField raw = .ok name) :
    merchantNameField (some (name.elim .null .str)) = .ok name := by
  cases name with
  | none => rfl
  | some name =>
    unfold merchantNameField at h
    split at h
    · cases h
    · cases h
    · rename_i raw _
      cases hraw : strField 0 256 raw with
      | error v =>
        rw [hraw] at h
        cases h
      | ok s =>
        rw [hraw] at h
        cases h
        obtain ⟨rfl, _⟩ := strField_eq_ok_iff.1 hraw
        simp only [Option.elim_some, merchantNameField, hraw]
        rfl

/-- An amount is accepted only as a finite float that is not negative. -/
theorem toFloat_of_amountField {raw : Json} {d : Decimal} {hd : AcceptedAmount d}
    (h : amountField toFloat raw = .ok ⟨d, hd⟩) : toFloat raw = some (false, .finite d) := by
  unfold amountField at h
  split at h
  · cases h
  · cases h
  · cases h
  · cases h
  · rename_i d' hraw
    split_ifs at h
    unfold checkAmount at h
    split at h
    · cases h
    · cases h
    · split_ifs at h
      cases h
      exact hraw

/-- An amount that the field accepts, however it is written. -/
theorem amountField_of_toFloat {raw : Json} {d : Decimal} (hd : AcceptedAmount d)
    (h : toFloat raw = some (false, .finite d)) : amountField toFloat raw = .ok ⟨d, hd⟩ := by
  obtain ⟨hle, minor, hminor, hpos⟩ := hd
  have hvalue : ¬ d.value ≤ 0 := by
    intro hzero
    have := toMinorUnits_le (m := 0) (by norm_num) (by exact_mod_cast hzero) hminor
    omega
  have hcheck : checkAmount d hle = .ok ⟨d, hle, minor, hminor, hpos⟩ := by
    unfold checkAmount
    split <;> rename_i hm <;> rw [hminor] at hm <;> cases hm
    rw [dif_pos hpos]
  rw [amountField, h]
  simp only [not_lt.2 hle, hvalue, if_false, dif_neg, not_false_eq_true, hcheck]

/-- A code of three upper-case letters is accepted as it is. -/
theorem currencyField_self {s : String} (h : ThreeUpper s) : currencyField (.str s) = .ok s := by
  obtain ⟨hlength, hupper⟩ := h
  have hstrip : strip s = s := strip_of_not_isSpace fun c hc => isSpace_of_isUpper (hupper c hc)
  have halpha : isAlpha s = true := by
    have hne : s ≠ "" := by
      rintro rfl
      cases hlength
    simp only [isAlpha, hne, ne_eq, not_false_eq_true, decide_true, Bool.true_and, List.all_eq_true]
    exact fun c hc => isLetter_of_isUpper (hupper c hc)
  have hraw : strField 3 3 (.str s) = .ok s := by simp [strField, hlength]
  simp only [currencyField, hraw, hstrip, upper_of_isUpper hupper, halpha, if_true]

end Fields

/-! ## The currency -/

/-- The raw currency is as long as its code, and the code is upper-case: upper-casing adds as many
letters as there are blanks around, and the other characters have upper-case forms that are made up
of upper-case letters. -/
def Fits (currency : String) : Prop :=
  let letters := (strip currency).toList
  (letters.map fun c => (upperChar c).length - 1).sum = currency.length - letters.length ∧
    ∀ c ∈ letters, ∀ u ∈ upperChar c, isUpper u = true

instance (currency : String) : Decidable (Fits currency) :=
  let letters := (strip currency).toList
  decidable_of_iff
    ((letters.map fun c => (upperChar c).length - 1).sum = currency.length - letters.length ∧
      (letters.all fun c => (upperChar c).all isUpper) = true)
    (and_congr_right' (by simp only [List.all_eq_true, letters]))

/-- The code of an accepted currency is three upper-case letters when the raw text fits. -/
theorem threeUpper_iff {currency code : String} (h : currencyField (.str currency) = .ok code) :
    ThreeUpper code ↔ Fits currency := by
  cases hraw : strField 3 3 (.str currency) with
  | error v =>
    simp only [currencyField, hraw] at h
    cases h
  | ok s =>
    obtain ⟨hs, hlow, hhigh⟩ := strField_eq_ok_iff.1 hraw
    cases hs
    simp only [currencyField, hraw] at h
    split_ifs at h
    obtain rfl := Except.ok.inj h
    obtain ⟨letters, hletters⟩ : ∃ letters, (strip currency).toList = letters := ⟨_, rfl⟩
    have hle : letters.length ≤ 3 := by
      rw [← hletters, String.length_toList]
      exact (length_strip_le currency).trans hhigh
    -- Each letter contributes itself and what upper-casing adds.
    have hsum : ∀ l : List Char, (l.flatMap upperChar).length =
        (l.map fun c => (upperChar c).length - 1).sum + l.length := by
      intro l
      induction l with
      | nil => rfl
      | cons c l ih =>
        have := List.length_pos_iff.2 (upperChar_ne_nil c)
        simp only [List.flatMap_cons, List.length_append, ih, List.map_cons, List.sum_cons,
          List.length_cons]
        omega
    have hlength : (upper (strip currency)).length =
        (letters.map fun c => (upperChar c).length - 1).sum + letters.length := by
      rw [upper, String.length_ofList, hletters, hsum]
    have hmem : (∀ c ∈ (upper (strip currency)).toList, isUpper c = true) ↔
        ∀ c ∈ letters, ∀ u ∈ upperChar c, isUpper u = true := by
      rw [upper, String.toList_ofList, hletters]
      simp only [List.mem_flatMap]
      refine ⟨fun hall c hc u hu => hall u ⟨c, hc, hu⟩, fun hall u hu => ?_⟩
      obtain ⟨c, hc, hu⟩ := hu
      exact hall c hc u hu
    unfold ThreeUpper Fits
    simp only [hmem, hlength, hletters]
    exact and_congr_left' (by omega)

/-! ## Replays -/

/-- The text of a float reads back as the float: what `repr` promises of the texts that it writes,
and `json.loads` of those that it reads. -/
def ReadsBack (pydantic : Pydantic) : Prop :=
  ∀ raw d, pydantic.toFloat raw = some (false, .finite d) →
    pydantic.toFloat (.num false d) = some (false, .finite d)

/-- `model_dump` returns on the values of fields, and what it writes is read as these values. -/
def Pydantic.Keeps (pydantic : Pydantic) (members : List (String × Json)) : Prop :=
  pydantic.dumpError (pydantic.readExtra members) = none ∧
    pydantic.readExtra (pydantic.dumpExtra (pydantic.readExtra members)) = pydantic.readExtra members

/-- What validation is meant to promise of an event. -/
structure Replayable (pydantic : Pydantic) (event : EventIn) : Prop where
  /-- Trimmed, not blank, at most 128 characters. -/
  event_id : Identifier event.event_id
  /-- Trimmed, not blank, at most 128 characters. -/
  transaction_id : Identifier event.transaction_id
  /-- Trimmed, not blank, at most 128 characters. -/
  merchant_id : Identifier event.merchant_id
  /-- Three upper-case letters. -/
  currency : ThreeUpper event.currency
  /-- The canonical form. -/
  timestamp : Canonical event.timestamp
  /-- At least one minor unit. -/
  amount : 1 ≤ event.amount_minor
  /-- The event has a document. -/
  dumps : pydantic.dumpError event.extra = none
  /-- The document of the event validates, as the event. -/
  validates : EventIn.modelValidate pydantic event.modelDump = .ok event
  /-- Where the event is stored, its payload can be ingested again and is absorbed as an equal
  replay. -/
  replays : ∀ db, Reachable db → ∀ now, event.eventRow now ∈ db.events.rows → ∀ now',
    ∃ replay acc result, EventIn.modelValidate pydantic (event.eventRow now).raw_payload = .ok replay ∧
      (db.ingest (fun _ => none) now' [replay] pydantic.dumpError).result = .ok acc ∧
        acc.results = [result] ∧ result.status = .duplicate ∧ result.payload_conflict = false

/-- An event that is stored is an equal replay. -/
theorem result_of_eventRow {db : Database} {event : EventIn} {now : String}
    (h : event.eventRow now ∈ db.events.rows) (now' : String) :
    (db.result now' event).status = .duplicate ∧
      (db.result now' event).payload_conflict = false := by
  have hfind : db.events.find? event.event_id = some (event.eventRow now) := Table.find?_key h
  rw [Database.result_of_stored hfind]
  refine ⟨rfl, ?_⟩
  simp [duplicateResult, payloadDiffers, EventIn.eventRow, Params.eventRow, EventIn.row,
    EventIn.params]

section

variable {pydantic : Pydantic} {members : List (String × Json)} {event : EventIn}

/-- An event as its document has it: the unknown fields are what is read where they were dumped. -/
def EventIn.reloaded (pydantic : Pydantic) (event : EventIn) : EventIn :=
  { event with extra := pydantic.readExtra event.extra_dump }

/-- An event whose unknown fields are read back is as its document has it. -/
theorem EventIn.reloaded_eq (h : pydantic.readExtra event.extra_dump = event.extra) :
    event.reloaded pydantic = event := by
  rw [reloaded, h]

/-- The document of an event has the unknown fields as they are dumped. -/
theorem unknown_modelDump (event : EventIn) :
    event.modelDump.unknown = event.extra_dump.filter fun m => m.1 ∉ fieldNames := by
  rw [EventIn.modelDump, Json.unknown, List.filter_append]
  simp [fieldNames]

/-- The document of an event validates when its currency does, whose code the event then has. Its
unknown fields are dumped once more. -/
theorem modelValidate_modelDump
    (hname : merchantNameField (some (event.merchant_name.elim .null .str)) = .ok event.merchant_name)
    (hamount : pydantic.toFloat (.num false event.amount) = some (false, .finite event.amount))
    (hextra : (event.extra_dump.filter fun m => m.1 ∉ fieldNames) = event.extra_dump)
    {currency code : String} (hcurrency : currencyField (.str currency) = .ok code) :
    EventIn.modelValidate pydantic { event with currency := currency }.modelDump =
      .ok { event.reloaded pydantic with
        currency := code, extra_dump := pydantic.dumpExtra (pydantic.readExtra event.extra_dump) } :=
  (modelValidate_eq_ok_iff pydantic).2 ⟨identifierField_self event.event_id_valid,
    eventTypeField_self event.event_type, identifierField_self event.transaction_id_valid,
    identifierField_self event.merchant_id_valid, hname,
    amountField_of_toFloat ⟨event.amount_le, event.amount_minor_pos⟩ hamount, hcurrency,
    timestampField_self event.timestamp_canonical,
    congrArg pydantic.readExtra ((unknown_modelDump _).trans hextra), rfl⟩

/-- What is known of an event that was accepted: its own fields would be accepted again, whatever its
currency, and the unknown ones be dumped again. -/
theorem accepted_again (hfloat : ReadsBack pydantic)
    (h : EventIn.modelValidate pydantic (.obj members) = .ok event) :
    merchantNameField (some (event.merchant_name.elim .null .str)) = .ok event.merchant_name ∧
      pydantic.toFloat (.num false event.amount) = some (false, .finite event.amount) ∧
      (event.extra_dump.filter fun m => m.1 ∉ fieldNames) = event.extra_dump ∧
      pydantic.dumpExtra (pydantic.readExtra event.extra_dump) = event.extra_dump := by
  obtain ⟨-, -, -, -, hname, hamount, -, -, hextra, hdump⟩ := (modelValidate_eq_ok_iff pydantic).1 h
  refine ⟨merchantNameField_self hname, ?_, ?_, ?_⟩
  · cases hraw : members.lookup "amount" with
    | none =>
      rw [hraw] at hamount
      cases hamount
    | some raw =>
      rw [hraw] at hamount
      exact hfloat raw _ (toFloat_of_amountField hamount)
  · -- The fields are dumped under their names, which are unknown.
    refine List.filter_eq_self.2 fun m hm => ?_
    have hname : m.1 ∈ (Json.obj members).unknown.map Prod.fst := by
      rw [← pydantic.readExtra_names, hextra, ← pydantic.dumpExtra_names, hdump]
      exact List.mem_map_of_mem hm
    obtain ⟨m', hm', hsame⟩ := List.mem_map.1 hname
    rw [Json.unknown, List.mem_filter] at hm'
    rw [← hsame]
    exact hm'.2
  · rw [← hdump]
    exact pydantic.dumpExtra_readExtra _

/-- Validation makes a replayable event exactly when the raw currency fits and `model_dump` keeps the
unknown fields. -/
theorem replayable_iff {raw : Json} (hfloat : ReadsBack pydantic)
    (h : EventIn.modelValidate pydantic raw = .ok event) :
    Replayable pydantic event ↔
      (∃ currency, raw.member "currency" = some (.str currency) ∧ Fits currency) ∧
        pydantic.Keeps raw.unknown := by
  cases raw with
  | obj members =>
    obtain ⟨-, -, -, -, -, -, hcurrency, -, hextra, hdump⟩ := (modelValidate_eq_ok_iff pydantic).1 h
    obtain ⟨hname, hamount, hunknown, hagain⟩ := accepted_again hfloat h
    rw [Pydantic.Keeps, hextra, hdump]
    obtain ⟨currency, hmember, hcode⟩ : ∃ currency, members.lookup "currency" = some (.str currency) ∧
        currencyField (.str currency) = .ok event.currency := by
      cases hraw : members.lookup "currency" with
      | none =>
        rw [hraw] at hcurrency
        cases hcurrency
      | some raw =>
        rw [hraw] at hcurrency
        cases raw with
        | str currency => exact ⟨currency, rfl, hcurrency⟩
        | _ => cases hcurrency
    constructor
    · intro hreplay
      refine ⟨⟨currency, hmember, (threeUpper_iff hcode).1 hreplay.currency⟩, hreplay.dumps, ?_⟩
      -- The event of the document has the fields as they were dumped.
      obtain ⟨-, -, -, -, -, -, -, -, hsame, -⟩ :=
        (modelValidate_eq_ok_iff pydantic).1 hreplay.validates
      have hkept : pydantic.readExtra event.modelDump.unknown = event.extra := hsame
      rwa [unknown_modelDump, hunknown] at hkept
    · rintro ⟨⟨currency', hmember', hfits⟩, hdumps, hkept⟩
      cases hmember.symm.trans hmember'
      have hupper := (threeUpper_iff hcode).2 hfits
      have hvalidates : EventIn.modelValidate pydantic event.modelDump = .ok event := by
        have hdocument := modelValidate_modelDump hname hamount hunknown (currencyField_self hupper)
        rw [hagain] at hdocument
        exact hdocument.trans (congrArg Except.ok (EventIn.reloaded_eq hkept))
      refine ⟨event.event_id_valid, event.transaction_id_valid, event.merchant_id_valid, hupper,
        event.timestamp_canonical, event.zero_lt_amount_minor, hdumps, hvalidates, ?_⟩
      intro db hdb now hstored now'
      have hresult := result_of_eventRow hstored now'
      have hrun := (ingestEvents_run_clean hdb.checked now' [event]).1
      rw [← ingestEvents_of_dumps (List.forall_mem_singleton.2 hdumps)] at hrun
      refine ⟨event, _, _, hvalidates, hrun, ?_, hresult⟩
      rw [Ingested.results_start_addAll]
      rfl
  | _ => cases h

end

/-! ## The example of the API documentation -/

/-- The sample reads numbers back as they are. -/
theorem readsBack_samplePydantic : ReadsBack samplePydantic := fun _ _ _ => rfl

/-- The example event with another currency. -/
def exampleIn (currency : String) : EventIn := { exampleEvent with currency := currency }

/-- The document of the example, with any text as its currency, is accepted when the currency is. -/
theorem modelValidate_exampleIn {currency code : String}
    (h : currencyField (.str currency) = .ok code) :
    EventIn.modelValidate samplePydantic (exampleIn currency).modelDump = .ok (exampleIn code) :=
  @modelValidate_modelDump samplePydantic exampleEvent rfl rfl rfl _ _ h

/-- The example event with an unknown field. -/
def exampleWith (raw : Json) : EventIn :=
  { exampleEvent with extra := [("gateway", raw)], extra_dump := [("gateway", raw.dump)] }

/-- The document of the example with an unknown field is accepted, whatever the field is. -/
theorem modelValidate_exampleWith (raw : Json) :
    EventIn.modelValidate samplePydantic
      { exampleEvent with extra_dump := [("gateway", raw)] }.modelDump = .ok (exampleWith raw) :=
  @modelValidate_modelDump samplePydantic { exampleEvent with extra_dump := [("gateway", raw)] }
    rfl rfl rfl "INR" _ (by decide +kernel)

/-- The example in lower case is replayable. -/
theorem replayable_iff_lower : Replayable samplePydantic (exampleIn "INR") :=
  (replayable_iff readsBack_samplePydantic
    (modelValidate_exampleIn (by decide +kernel : currencyField (.str "inr") = .ok "INR"))).2
    ⟨⟨"inr", rfl, by decide +kernel⟩, rfl, rfl⟩

/-- A currency of a blank and two letters is accepted as a code of two letters, and the document of
the event is rejected. An unknown number that is infinite as a float is dumped as `null`, so that the
document is another event. -/
theorem blank_currency_not_replayable :
    (EventIn.modelValidate samplePydantic (exampleIn " IN").modelDump = .ok (exampleIn "IN") ∧
      ¬ Replayable samplePydantic (exampleIn "IN") ∧
      ∀ replay, EventIn.modelValidate samplePydantic (exampleIn "IN").modelDump ≠ .ok replay) ∧
    EventIn.modelValidate samplePydantic
        { exampleEvent with extra_dump := [("gateway", .num false ⟨1, 999⟩)] }.modelDump =
        .ok (exampleWith (.num false ⟨1, 999⟩)) ∧
      ¬ Replayable samplePydantic (exampleWith (.num false ⟨1, 999⟩)) ∧
      EventIn.modelValidate samplePydantic (exampleWith (.num false ⟨1, 999⟩)).modelDump =
        .ok (exampleWith .null) := by
  have hlarge : (2 : ℚ) ^ 1024 ≤ 10 ^ 999 :=
    calc (2 : ℚ) ^ 1024 ≤ 2 ^ (3 * 999) := pow_le_pow_right₀ (by norm_num) (by norm_num)
      _ = (2 ^ 3) ^ 999 := pow_mul 2 3 999
      _ ≤ 10 ^ 999 := pow_le_pow_left₀ (by norm_num) (by norm_num) 999
  have hdump : (Json.num false ⟨1, 999⟩).dump = .null := by
    rw [Json.dump, if_neg]
    rintro (hinteger | hsmall)
    · cases hinteger
    · have hvalue : Decimal.value ⟨1, 999⟩ = 10 ^ 999 := one_mul _
      have hpos : (0 : ℚ) < 2 ^ 970 := by positivity
      rw [hvalue] at hsmall
      exact not_lt.2 hlarge (hsmall.trans (sub_lt_self _ hpos))
  have hagain : EventIn.modelValidate samplePydantic (exampleWith (.num false ⟨1, 999⟩)).modelDump =
      .ok (exampleWith .null) := by
    rw [exampleWith, hdump]
    exact modelValidate_exampleWith .null
  refine ⟨⟨modelValidate_exampleIn (by decide +kernel), fun h => ?_, fun replay h => ?_⟩,
    modelValidate_exampleWith _, fun h => ?_, hagain⟩
  · exact absurd h.currency.1 (by decide)
  · obtain ⟨-, -, -, -, -, -, hcurrency, -⟩ := (modelValidate_eq_ok_iff samplePydantic).1 h
    cases hcurrency
  · have hextra := congrArg EventIn.extra (Except.ok.inj (hagain.symm.trans h.validates))
    cases hextra

end PaymentRecon
