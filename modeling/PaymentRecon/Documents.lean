import PaymentRecon.FilterMeaning
import PaymentRecon.Ledger
import PaymentRecon.Replay
import PaymentRecon.Severities
import PaymentRecon.Staleness
import PaymentRecon.Surfacing

/-!
# Reports on documents

What the document of an event says is read from its texts: identifiers without the spaces around them, an
amount in minor units, an instant. The discrepancy report is a function of what the accepted documents say,
in the order in which they came (`report_of_documents`): of the documents with one event id the first one
counts, and a transaction is stale when the given hours have passed since its first document of the type,
whatever the offsets in which the documents and the request write their times.
-/

namespace PaymentRecon

open Store Sql

/-! ## What a document says -/

/-- What the document of an event says. -/
structure Statement where
  /-- The idempotency key. -/
  event_id : String
  /-- The transaction. -/
  transaction_id : String
  /-- The merchant. -/
  merchant_id : String
  /-- What happened. -/
  event_type : EventType
  /-- The amount in minor units. -/
  amount_minor : ℤ
  /-- The currency code. -/
  currency : String
  /-- When it happened. -/
  time : Utc
deriving DecidableEq

/-- What is stored of it. -/
def Statement.entry (s : Statement) : Entry :=
  ⟨s.event_id, s.transaction_id, s.merchant_id, s.event_type, s.amount_minor, s.currency, formatTs s.time⟩

/-- Statements that are stored alike are the same. -/
theorem Statement.entry_injective : Function.Injective Statement.entry := by
  rintro ⟨_, _, _, _, _, _, time⟩ ⟨_, _, _, _, _, _, time'⟩ h
  obtain ⟨rfl, rfl, rfl, rfl, rfl, rfl, htime⟩ := Entry.mk.inj h
  obtain rfl : time = time' := formatTs_injective htime
  rfl

namespace Json

/-- The text of a member. -/
def text (document : Json) (name : String) : Option String :=
  match document.member name with
  | some (.str s) => some s
  | _ => none

/-- The type of event that a member names. -/
def eventType (document : Json) (name : String) : Option EventType :=
  (document.text name).bind fun value =>
    [EventType.payment_initiated, .payment_processed, .payment_failed, .settled].find? fun type =>
      type.value = value

/-- The amount of a member, in minor units. -/
def minorUnits (pydantic : Pydantic) (document : Json) (name : String) : Option ℤ :=
  ((document.member name).bind pydantic.toFloat).bind fun x => (toMinorUnits x.2).toOption

/-- The instant of a member, which `parse_ts` reads. -/
def time (document : Json) (name : String) : Option Utc :=
  (document.text name).bind fun timestamp => (parseTs timestamp).toOption

/-- What a document says. -/
def statement (pydantic : Pydantic) (document : Json) : Option Statement := do
  let event_id ← document.text "event_id"
  let transaction_id ← document.text "transaction_id"
  let merchant_id ← document.text "merchant_id"
  let event_type ← document.eventType "event_type"
  let amount_minor ← document.minorUnits pydantic "amount"
  let currency ← document.text "currency"
  let time ← document.time "timestamp"
  return ⟨strip event_id, strip transaction_id, strip merchant_id, event_type, amount_minor,
    upper (strip currency), time⟩

end Json

section

variable {pydantic : Pydantic}

/-- An identifier is a text without the spaces around it. -/
theorem text_of_identifierField {raw : Option Json} {v : {s : String // Identifier s}}
    (h : required identifierField raw = .ok v) : ∃ s, raw = some (.str s) ∧ strip s = v := by
  cases raw with
  | none => cases h
  | some raw =>
    cases raw with
    | str s =>
      simp only [required, identifierField] at h
      split_ifs at h
      exact ⟨s, rfl, congrArg Subtype.val (Except.ok.inj h)⟩
    | _ => cases h

/-- A type of event is its name. -/
theorem text_of_eventTypeField {raw : Option Json} {type : EventType}
    (h : required eventTypeField raw = .ok type) : raw = some (.str type.value) := by
  cases raw with
  | none => cases h
  | some raw =>
    simp only [required, eventTypeField] at h
    split at h <;> cases h <;> rfl

/-- A currency code is a text in upper case, without the spaces around it. -/
theorem text_of_currencyField {raw : Option Json} {code : String}
    (h : required currencyField raw = .ok code) : ∃ s, raw = some (.str s) ∧ upper (strip s) = code := by
  cases raw with
  | none => cases h
  | some raw =>
    cases raw with
    | str s =>
      simp only [required, currencyField] at h
      split at h
      · cases h
      · rename_i hvalue
        obtain ⟨hs, -⟩ := strField_eq_ok_iff.1 hvalue
        cases hs
        split_ifs at h
        exact ⟨s, rfl, Except.ok.inj h⟩
    | _ => cases h

/-- A timestamp is a text that `parse_ts` accepts. -/
theorem text_of_timestampField {raw : Option Json} {v : {s : String // Canonical s}}
    (h : required timestampField raw = .ok v) :
    ∃ s t, raw = some (.str s) ∧ parseTs s = .ok t ∧ formatTs t = v := by
  cases raw with
  | none => cases h
  | some raw =>
    cases raw with
    | str s =>
      simp only [required, timestampField] at h
      split at h
      · rename_i text htext
        obtain ⟨t, ht, hformat⟩ := normaliseTs_eq_ok.1 htext
        exact ⟨s, t, rfl, ht, hformat.trans (congrArg Subtype.val (Except.ok.inj h))⟩
      · cases h
      · cases h
    | _ => cases h

/-- An accepted document says what is stored of it. -/
theorem statement_of_modelValidate {document : Json} {event : EventIn}
    (h : EventIn.modelValidate pydantic document = .ok event) :
    ∃ s, document.statement pydantic = some s ∧ s.entry = event.entry := by
  cases document with
  | obj members =>
    obtain ⟨hid, htype, htransaction, hmerchant, -, hamount, hcurrency, htime, -⟩ :=
      (modelValidate_eq_ok_iff pydantic).1 h
    obtain ⟨event_id, hid, hevent_id⟩ := text_of_identifierField hid
    obtain ⟨transaction_id, htransaction, htransaction_id⟩ := text_of_identifierField htransaction
    obtain ⟨merchant_id, hmerchant, hmerchant_id⟩ := text_of_identifierField hmerchant
    obtain ⟨currency, hcurrency, hcode⟩ := text_of_currencyField hcurrency
    obtain ⟨timestamp, time, htime, hparse, hformat⟩ := text_of_timestampField htime
    have htype := text_of_eventTypeField htype
    -- Each member that is read gives what the validated field holds.
    have hamount : Json.minorUnits pydantic (.obj members) "amount" = some event.amount_minor := by
      cases hraw : members.lookup "amount" with
      | none =>
        rw [hraw] at hamount
        cases hamount
      | some raw =>
        rw [hraw] at hamount
        rw [Json.minorUnits, Json.member, hraw, Option.bind_some, toFloat_of_amountField hamount,
          Option.bind_some, event.toMinorUnits_amount]
        rfl
    have hnamed : Json.eventType (.obj members) "event_type" = some event.event_type := by
      rw [Json.eventType, Json.text, Json.member, htype]
      cases event.event_type <;> rfl
    have htimed : Json.time (.obj members) "timestamp" = some time := by
      rw [Json.time, Json.text, Json.member, htime, Option.bind_some, hparse]
      rfl
    refine ⟨⟨strip event_id, strip transaction_id, strip merchant_id, event.event_type,
      event.amount_minor, upper (strip currency), time⟩, ?_, ?_⟩
    · simp only [Json.statement, hnamed, hamount, htimed, Json.text, Json.member, hid, htransaction,
        hmerchant, hcurrency]
      rfl
    · rw [Statement.entry, EventIn.entry, hevent_id, htransaction_id, hmerchant_id, hcode, hformat]
  | _ => cases h

/-! ## What the documents of a run say -/

/-- The events of a run are those of the documents that were accepted. -/
def Posted (pydantic : Pydantic) (documents : List Json)
    (trace : List Occurrence) : Prop :=
  List.Forall₂ (fun document o => EventIn.modelValidate pydantic document = .ok o.1) documents trace

/-- What documents say, in their order. -/
def statements (pydantic : Pydantic) (documents : List Json) : List Statement :=
  documents.filterMap (Json.statement pydantic)

/-- What is said of a transaction. Of the statements with one event id the first one counts. -/
def said (statements : List Statement) (id : String) : List Statement :=
  (Table.firsts Statement.event_id statements).filter fun s => s.transaction_id = id

/-- The documents of a run say what it was given. -/
theorem Posted.entries {documents : List Json} {trace : List Occurrence}
    (h : Posted pydantic documents trace) :
    (trace.map fun o => o.1.entry) = (statements pydantic documents).map Statement.entry := by
  induction h with
  | nil => rfl
  | @cons document o documents trace hdocument _ ih =>
    obtain ⟨s, hs, hentry⟩ := statement_of_modelValidate hdocument
    rw [statements, List.filterMap_cons_some hs, List.map_cons, List.map_cons, hentry, ih, statements]

/-- Documents are counted by their event ids as the events are. -/
theorem Posted.countP {documents : List Json} {trace : List Occurrence}
    (h : Posted pydantic documents trace) (p : String → Bool) :
    (statements pydantic documents).countP (fun s => p s.event_id) =
      trace.countP fun o => p o.1.event_id := by
  have hmap := congrArg (List.countP fun x : Entry => p x.event_id) h.entries
  rw [List.countP_map, List.countP_map] at hmap
  exact hmap.symm

/-- The documents of a part of a run. -/
theorem Posted.append {before after : List Json} {trace : List Occurrence}
    (h : Posted pydantic (before ++ after) trace) :
    ∃ earlier later, trace = earlier ++ later ∧ Posted pydantic before earlier ∧
      Posted pydantic after later := by
  induction before generalizing trace with
  | nil => exact ⟨[], trace, rfl, .nil, h⟩
  | cons document before ih =>
    cases h with
    | cons hdocument h =>
      obtain ⟨earlier, later, rfl, hearlier, hlater⟩ := ih h
      exact ⟨_ :: earlier, later, rfl, .cons hdocument hearlier, hlater⟩

/-- A database keeps the ledger of what it was given. -/
theorem History.keeps {trace : List Occurrence} {db : Database} (h : History trace db) :
    Keeps db (Ledger.empty.offerAll (trace.map fun o => o.1.entry)) := by
  induction h with
  | empty => exact keeps_empty
  | @snoc trace db h now event ih =>
    rw [List.map_append, Ledger.offerAll, List.foldl_append, ← Ledger.offerAll]
    exact ih.apply h now event

section

variable {documents : List Json} {trace : List Occurrence} {db : Database}

/-- The log of a transaction is what is said of it. -/
theorem Posted.log (hposted : Posted pydantic documents trace) (h : History trace db) (id : String) :
    (db.log id).map EventRow.entry =
      (said (statements pydantic documents) id).map Statement.entry := by
  have hrows : db.events.rows.map EventRow.entry =
      (Table.firsts Statement.event_id (statements pydantic documents)).map Statement.entry := by
    rw [h.keeps.entries, Ledger.entries_offerAll, hposted.entries]
    exact (Table.rows_offerAll_empty _).trans (Table.firsts_map Statement.entry _)
  rw [entries_log, hrows, List.filter_map, said]
  rfl

/-- The first statement decides on the merchant, the amount and the currency of a transaction. -/
theorem Posted.exists_first (hposted : Posted pydantic documents trace) (h : History trace db)
    {t : TransactionRow} (ht : t ∈ db.transactions.rows) :
    ∃ first, (said (statements pydantic documents) t.transaction_id).head? = some first ∧
      first.merchant_id = t.merchant_id ∧ first.amount_minor = t.amount_minor ∧
        first.currency = t.currency := by
  have hp := h.projected.projects _ t (Table.find?_key ht)
  have hhead : (said (statements pydantic documents) t.transaction_id).head?.map Statement.entry =
      (db.log t.transaction_id).head?.map EventRow.entry := by
    rw [← List.head?_map, ← List.head?_map, hposted.log h]
  obtain ⟨e, he, hmerchant⟩ := Option.map_eq_some_iff.1 hp.merchant_id
  have hamount := hp.amount_minor
  have hcurrency := hp.currency
  rw [he, Option.map_some] at hhead hamount hcurrency
  obtain ⟨first, hfirst, hentry⟩ := Option.map_eq_some_iff.1 hhead
  exact ⟨first, hfirst, (congrArg Entry.merchant_id hentry).trans hmerchant,
    (congrArg Entry.amount_minor hentry).trans (Option.some.inj hamount),
    (congrArg Entry.currency hentry).trans (Option.some.inj hcurrency)⟩

/-- The times of the log are those of the statements. -/
theorem Posted.times_said (hposted : Posted pydantic documents trace) (h : History trace db) (id : String) :
    ((said (statements pydantic documents) id).map fun s => formatTs s.time) =
      (db.log id).map EventRow.occurred_at := by
  have hmap := congrArg (List.map Entry.occurred_at) (hposted.log h id)
  rw [List.map_map, List.map_map] at hmap
  exact hmap.symm

/-- An event of the log is a statement. -/
theorem Posted.exists_log (hposted : Posted pydantic documents trace) (h : History trace db) {id : String}
    (p : Entry → Prop) : (∃ e ∈ db.log id, p e.entry) ↔
      ∃ s ∈ said (statements pydantic documents) id, p s.entry := by
  have hmem : (∃ x ∈ (db.log id).map EventRow.entry, p x) ↔
      ∃ x ∈ (said (statements pydantic documents) id).map Statement.entry, p x := by
    rw [hposted.log h]
  simpa only [List.mem_map, exists_exists_and_eq_and] using hmem

end

end

/-! ## Answers -/

/-- The answer to a statement after others. -/
def answerTo (earlier : List Statement) (s : Statement) : IngestResult :=
  match earlier.find? fun s' => s'.event_id = s.event_id with
  | none => ⟨s.event_id, s.transaction_id, .created, false, none⟩
  | some first => ⟨s.event_id, first.transaction_id, .duplicate, decide (first ≠ s), some (if first ≠ s then
      "event_id already ingested with a different payload; the stored event was kept"
    else "event already ingested; ignored")⟩

/-- The outcome of an event is the verdict of the ledger of the earlier ones. -/
theorem History.verdict {trace : List Occurrence} {db : Database} (h : History trace db)
    {before after : List Occurrence} {o : Occurrence} (htrace : trace = before ++ o :: after) :
    o.2 = (Ledger.empty.offerAll (before.map fun o => o.1.entry)).verdict o.1.entry := by
  induction h generalizing after with
  | empty => exact absurd htrace (List.append_ne_nil_of_right_ne_nil _ (List.cons_ne_nil _ _)).symm
  | @snoc trace db h now event ih =>
    rcases List.eq_nil_or_concat after with rfl | ⟨init, last, rfl⟩
    · -- The last event.
      obtain ⟨rfl, hlast⟩ := List.append_inj' htrace rfl
      obtain rfl := List.singleton_inj.1 hlast
      exact h.keeps.result now event
    · -- An earlier one.
      rw [List.concat_eq_append, ← List.cons_append, ← List.append_assoc] at htrace
      exact ih (List.append_inj' htrace rfl).1

/-- The verdict on a statement looks for the first one with its event id. -/
theorem verdict_entry (earlier : List Statement) (s : Statement) :
    (Ledger.empty.offerAll (earlier.map Statement.entry)).verdict s.entry = answerTo earlier s := by
  have hfind : (Ledger.empty.offerAll (earlier.map Statement.entry)).entries.find? s.entry.event_id =
      (earlier.find? fun s' => s'.event_id = s.event_id).map Statement.entry := by
    rw [Ledger.entries_offerAll, Table.find?_offerAll, List.find?_map]
    rfl
  unfold Ledger.verdict answerTo
  rw [hfind]
  cases earlier.find? fun s' => s'.event_id = s.event_id with
  | none => rfl
  | some first =>
    have hne : first.entry ≠ s.entry ↔ first ≠ s := Statement.entry_injective.ne_iff
    simp only [Option.map_some, hne]
    rfl

/-- The answer to a document is a function of what it and the earlier ones say. The first document with an
event id creates the event, and another one is a conflict when it says something else: another spelling of a
time, of an amount or of a currency code is none, nor is another name of the merchant or another unknown
field. -/
theorem answers_of_documents {trace : List Occurrence} {db : Database} (h : Run trace db)
    {pydantic : Pydantic} {before after : List Json} {document : Json}
    (hposted : Posted pydantic (before ++ document :: after) trace) :
    ∃ earlier o later s, trace = earlier ++ o :: later ∧ earlier.length = before.length ∧
      document.statement pydantic = some s ∧ o.2 = answerTo (statements pydantic before) s := by
  obtain ⟨earlier, later, rfl, hearlier, hlater⟩ := hposted.append
  cases hlater with
  | @cons _ o _ later hdocument =>
    obtain ⟨s, hs, hentry⟩ := statement_of_modelValidate hdocument
    refine ⟨earlier, o, later, s, rfl, hearlier.length_eq.symm, hs, ?_⟩
    rw [h.history.verdict rfl, hearlier.entries, ← hentry, verdict_entry]

/-- The documents of a transaction that comes twice, with the currency code in lower case and in upper
case. -/
def respelled : List Json := [(exampleIn "inr").modelDump, (exampleIn "INR").modelDump]

/-- The two spellings are posted as one event twice. -/
theorem posted_respelled : Posted samplePydantic respelled
    ([] ++ [exampleIn "INR", exampleIn "INR"].zip
      (Database.empty.results "" [exampleIn "INR", exampleIn "INR"])) :=
  .cons (modelValidate_exampleIn (by decide +kernel))
    (.cons (modelValidate_exampleIn (by decide +kernel)) .nil)

/-- The second one is a replay, and no conflict. -/
theorem answers_of_documents_respelled : ∃ earlier o later,
    [exampleIn "INR", exampleIn "INR"].zip
        (Database.empty.results "" [exampleIn "INR", exampleIn "INR"]) = earlier ++ o :: later ∧
      earlier.length = 1 ∧ o.2.status = .duplicate ∧ o.2.payload_conflict = false := by
  have hposted : Posted samplePydantic ([(exampleIn "inr").modelDump] ++ (exampleIn "INR").modelDump :: [])
      _ := posted_respelled
  obtain ⟨earlier, o, later, s, htrace, hlength, hs, ho⟩ :=
    answers_of_documents (Run.empty.ingest "" [exampleIn "INR", exampleIn "INR"]) hposted
  have hanswer : ∀ s ∈ (exampleIn "INR").modelDump.statement samplePydantic,
      (answerTo (statements samplePydantic [(exampleIn "inr").modelDump]) s).status = .duplicate ∧
        (answerTo (statements samplePydantic [(exampleIn "inr").modelDump]) s).payload_conflict =
          false := by
    decide +kernel
  obtain ⟨hstatus, hconflict⟩ := hanswer s hs
  exact ⟨earlier, o, later, htrace, hlength, ho ▸ hstatus, ho ▸ hconflict⟩

/-! ## What is found in what is said -/

/-- It is said that an event of the type happened. -/
def Saying (type : EventType) (said : List Statement) : Prop := ∃ s ∈ said, s.event_type = type

/-- It is said that an event of the type happened before an instant. -/
def SayingBefore (cutoff : ℤ) (type : EventType) (said : List Statement) : Prop :=
  ∃ s ∈ said, s.event_type = type ∧ (s.time.micros : ℤ) < cutoff

/-- What is said before a cutoff is said. -/
theorem SayingBefore.saying {cutoff : ℤ} {type : EventType} {said : List Statement}
    (h : SayingBefore cutoff type said) : Saying type said := by
  obtain ⟨s, hs, htype, -⟩ := h
  exact ⟨s, hs, htype⟩

/-- What the statements tell of a transaction. -/
def Told (cutoff : ℤ) (statements : List Statement) (id : String) : DiscrepancyType → Prop :=
  let said := said statements id
  fun
  | .settled_after_failure => Saying .settled said ∧ Saying .payment_failed said
  | .settled_without_processing =>
    Saying .settled said ∧ ¬ Saying .payment_processed said ∧ ¬ Saying .payment_failed said
  | .processed_not_settled =>
    SayingBefore cutoff .payment_processed said ∧ ¬ Saying .payment_failed said ∧
      ¬ Saying .settled said
  | .stuck_in_initiated =>
    SayingBefore cutoff .payment_initiated said ∧ ¬ Saying .payment_processed said ∧
      ¬ Saying .payment_failed said ∧ ¬ Saying .settled said
  | .conflicting_payment_state => Saying .payment_processed said ∧ Saying .payment_failed said
  | .amount_mismatch => ∃ s ∈ said, ∃ s' ∈ said, s.amount_minor ≠ s'.amount_minor
  | .merchant_mismatch => ∃ s ∈ said, ∃ s' ∈ said, s.merchant_id ≠ s'.merchant_id
  | .duplicate_events => ∃ s ∈ said, 2 ≤ statements.countP fun s' => s'.event_id = s.event_id

section

variable {pydantic : Pydantic} {documents : List Json} {trace : List Occurrence}
  {db : Database}

/-- The log has events of the types that are said. -/
theorem Posted.has_iff (hposted : Posted pydantic documents trace) (h : History trace db) (id : String)
    (type : EventType) :
    Has type (db.log id) ↔ Saying type (said (statements pydantic documents) id) :=
  hposted.exists_log h fun x => x.event_type = type

/-- The log has an event of a type before the cutoff when one is said to have happened before it. -/
theorem Posted.stale_iff (hposted : Posted pydantic documents trace) (h : History trace db) (id : String)
    (type : EventType) (cutoff : Utc) : Stale (formatTs cutoff) type (db.log id) ↔
      SayingBefore cutoff.micros type (said (statements pydantic documents) id) := by
  refine (hposted.exists_log h fun x => x.event_type = type ∧ x.occurred_at < formatTs cutoff).trans ?_
  refine exists_congr fun s => and_congr_right fun _ => and_congr_right fun _ => ?_
  rw [Nat.cast_lt]
  exact formatTs_lt_iff

/-- Two events of the log disagree when two statements do. -/
theorem Posted.disagree_iff (hposted : Posted pydantic documents trace) (h : History trace db)
    (id : String) {α : Type} (g : Entry → α) : Disagree (fun e => g e.entry) (db.log id) ↔
      ∃ s ∈ said (statements pydantic documents) id, ∃ s' ∈ said (statements pydantic documents) id,
        g s.entry ≠ g s'.entry := by
  refine Iff.trans ?_ (hposted.exists_log h fun x =>
    ∃ s' ∈ said (statements pydantic documents) id, g x ≠ g s'.entry)
  exact exists_congr fun e => and_congr_right fun _ => hposted.exists_log h fun x => g e.entry ≠ g x

/-- An event that is stored has come twice when one of its arrivals was a replay. -/
theorem History.two_le_count_iff (h : History trace db) {row : EventRow}
    (hrow : row ∈ db.events.rows) : 2 ≤ trace.countP (fun o => o.1.event_id = row.event_id) ↔
      ∃ o ∈ trace, o.2.status = .duplicate ∧ o.1.event_id = row.event_id := by
  have hsplit : trace.countP (fun o => o.1.event_id = row.event_id) =
      trace.countP (fun o => o.2.status = .created ∧ o.1.event_id = row.event_id) +
        trace.countP fun o => o.2.status = .duplicate ∧ o.1.event_id = row.event_id := by
    clear h
    induction trace with
    | nil => rfl
    | cons o trace ih =>
      rw [List.countP_cons, List.countP_cons, List.countP_cons, ih]
      cases o.2.status <;> by_cases hid : o.1.event_id = row.event_id <;> simp [hid] <;> omega
  -- A stored id was created once, so that every other document with it was a replay.
  have hcreated := h.count_created row.event_id
  rw [Table.find?_key hrow, if_pos Option.isSome_some] at hcreated
  have hle : ∀ n : ℕ, 2 ≤ 1 + n ↔ 0 < n := by omega
  rw [hsplit, hcreated, hle, List.countP_pos_iff]
  simp only [decide_eq_true_eq]

/-- A transaction has replays when two documents have an event id that is one of its own. -/
theorem Posted.duplicates_iff (hposted : Posted pydantic documents trace) (h : History trace db)
    (id : String) : 0 < (db.transactions.find? id).elim 0 TransactionRow.duplicate_event_count ↔
      ∃ s ∈ said (statements pydantic documents) id,
        2 ≤ (statements pydantic documents).countP fun s' => s'.event_id = s.event_id := by
  have hcount : ∀ event_id, (statements pydantic documents).countP (fun s' => s'.event_id = event_id) =
      trace.countP fun o => o.1.event_id = event_id :=
    fun event_id => hposted.countP fun event_id' => event_id' = event_id
  rw [h.duplicate_event_count, countStatusOf, List.countP_pos_iff]
  simp only [hcount, decide_eq_true_eq]
  refine Iff.trans ?_
    (hposted.exists_log h fun x => 2 ≤ trace.countP fun o => o.1.event_id = x.event_id)
  constructor
  · -- A replay is put down to the transaction of the stored event.
    rintro ⟨o, ho, hstatus, hid⟩
    obtain ⟨-, row, hfind, htransaction, -⟩ := h.answered o ho
    have hrow := Table.mem_of_find? hfind
    have hkey : row.event_id = o.1.event_id := Table.key_of_find? hfind
    refine ⟨row, List.mem_filter.2 ⟨hrow, decide_eq_true (htransaction.symm.trans hid)⟩, ?_⟩
    exact (h.two_le_count_iff hrow).2 ⟨o, ho, hstatus, hkey.symm⟩
  · -- The second document with the id was a replay of the stored event.
    rintro ⟨row, hlog, htwice⟩
    obtain ⟨hrow, hid⟩ := List.mem_filter.1 hlog
    obtain ⟨o, ho, hstatus, hkey⟩ := (h.two_le_count_iff hrow).1 htwice
    obtain ⟨-, row', hfind, htransaction, -⟩ := h.answered o ho
    rw [hkey, Table.find?_key hrow] at hfind
    obtain rfl := Option.some.inj hfind
    exact ⟨o, ho, hstatus, htransaction.trans (of_decide_eq_true hid)⟩

/-- What is found in a row is what is told of its transaction. -/
theorem Posted.found_iff (hposted : Posted pydantic documents trace) (h : History trace db)
    {t : TransactionRow} (ht : t ∈ db.transactions.rows) (cutoff : Utc) (type : DiscrepancyType) :
    Found (formatTs cutoff) t type ↔
      Told cutoff.micros (statements pydantic documents) t.transaction_id type := by
  have hfind := Table.find?_key ht
  have hp := h.projected.projects _ t hfind
  -- Replays leave no event in the log, which tells all other types.
  by_cases hne : type = .duplicate_events
  · subst hne
    have hdup := hposted.duplicates_iff h t.transaction_id
    rw [hfind] at hdup
    exact hdup
  · rw [hp.found_iff (formatTs cutoff) hne]
    have hhas := hposted.has_iff h t.transaction_id
    have hstale := fun type => hposted.stale_iff h t.transaction_id type cutoff
    cases type with
    | duplicate_events => exact absurd rfl hne
    | amount_mismatch => exact hposted.disagree_iff h _ Entry.amount_minor
    | merchant_mismatch => exact hposted.disagree_iff h _ Entry.merchant_id
    | settled_after_failure => exact and_congr (hhas _) (hhas _)
    | settled_without_processing =>
      exact and_congr (hhas _) (and_congr (not_congr (hhas _)) (not_congr (hhas _)))
    | conflicting_payment_state => exact and_congr (hhas _) (hhas _)
    | processed_not_settled =>
      -- A stale event is an event.
      simp only [FoundIn, Told, hhas, hstale]
      constructor
      · rintro ⟨-, hfailed, hsettled, hbefore⟩
        exact ⟨hbefore, hfailed, hsettled⟩
      · rintro ⟨hbefore, hfailed, hsettled⟩
        exact ⟨hbefore.saying, hfailed, hsettled, hbefore⟩
    | stuck_in_initiated =>
      simp only [FoundIn, Told, hhas, hstale]
      constructor
      · rintro ⟨-, hprocessed, hfailed, hsettled, hbefore⟩
        exact ⟨hbefore, hprocessed, hfailed, hsettled⟩
      · rintro ⟨hbefore, hprocessed, hfailed, hsettled⟩
        exact ⟨hbefore.saying, hprocessed, hfailed, hsettled, hbefore⟩

end

/-! ## The report -/

instance (type : EventType) (said : List Statement) : Decidable (Saying type said) :=
  inferInstanceAs (Decidable (∃ s ∈ said, s.event_type = type))

instance (cutoff : ℤ) (type : EventType) (said : List Statement) :
    Decidable (SayingBefore cutoff type said) :=
  inferInstanceAs (Decidable (∃ s ∈ said, s.event_type = type ∧ (s.time.micros : ℤ) < cutoff))

instance (cutoff : ℤ) (statements : List Statement) (id : String) :
    DecidablePred (Told cutoff statements id) := fun type => by
  cases type <;> unfold Told <;> infer_instance

namespace DiscrepancyRequest

/-- The types to report of what the statements tell. -/
def toldTypes (request : DiscrepancyRequest) (cutoff : ℤ) (statements : List Statement) (id : String) :
    List DiscrepancyType :=
  (discrepancyFlags.map Prod.fst).filter fun type =>
    Told cutoff statements id type ∧ type ∈ request.selectedTypes

/-- The filter of a request lets a transaction through: its first statement is about one of the merchants,
and its first time is in the window. -/
structure Admits (request : DiscrepancyRequest) (said : List Statement) : Prop where
  /-- The merchant is the one of the first arrival. -/
  merchant_id : ∀ ids ∈ request.merchant_id, ids ≠ [] → ∃ first ∈ said.head?, first.merchant_id ∈ ids
  /-- The window is compared with the earliest time, as texts. -/
  window : ∃ window, resolveWindow request.date_from request.date_to = .ok window ∧
    ∃ s ∈ said, (∀ s' ∈ said, s.time.micros ≤ s'.time.micros) ∧
      (∀ lower ∈ window.1, lower ≠ "" → lower ≤ formatTs s.time) ∧
      ∀ upper ∈ window.2, upper ≠ "" → formatTs s.time ≤ upper

end DiscrepancyRequest

section

variable {pydantic : Pydantic} {documents : List Json} {trace : List Occurrence}
  {db : Database} {request : DiscrepancyRequest}

/-- The filter selects the transactions that it admits. -/
theorem Posted.admits_iff (hposted : Posted pydantic documents trace) (h : History trace db)
    {t : TransactionRow} (ht : t ∈ db.transactions.rows) :
    request.Admits (said (statements pydantic documents) t.transaction_id) ↔
      ∃ window, resolveWindow request.date_from request.date_to = .ok window ∧
        (request.condition window).selects t = true := by
  have hp := h.projected.projects _ t (Table.find?_key ht)
  obtain ⟨first, hfirst, hmerchant, -⟩ := hposted.exists_first h ht
  have htimes := congrArg List.min? (hposted.times_said h t.transaction_id)
  rw [← hp.first_event_at] at htimes
  obtain ⟨hmem, hleast⟩ := List.min?_eq_some_iff.1 htimes
  constructor
  · rintro ⟨hmerchants, window, hwindow, s, hs, hle, hlower, hupper⟩
    -- The row has the least of the times.
    have htime : t.first_event_at = formatTs s.time := by
      obtain ⟨s', hs', heq⟩ := List.mem_map.1 hmem
      refine le_antisymm (hleast _ (List.mem_map_of_mem hs)) ?_
      rw [← heq]
      exact formatTs_le_iff.2 (hle s' hs')
    refine ⟨window, hwindow, (selects_iff_matches _ _).2
      ⟨?_, nofun, nofun, nofun, nofun, ?_, ?_, nofun, nofun, nofun⟩⟩
    · intro ids hids hne
      obtain ⟨first', hfirst', hmem'⟩ := hmerchants ids hids hne
      obtain rfl : first = first' := Option.some.inj (hfirst.symm.trans hfirst')
      exact hmerchant ▸ hmem'
    · intro lower hlow hne
      exact ⟨_, rfl, htime ▸ hlower lower hlow hne⟩
    · intro upper hup hne
      exact ⟨_, rfl, htime ▸ hupper upper hup hne⟩
  · rintro ⟨window, hwindow, hselects⟩
    have hmatches := (selects_iff_matches _ _).1 hselects
    obtain ⟨s, hs, htime⟩ := List.mem_map.1 hmem
    refine ⟨fun ids hids hne => ⟨first, hfirst, ?_⟩, window, hwindow, s, hs, ?_, ?_, ?_⟩
    · rw [hmerchant]
      exact hmatches.merchant_id ids hids hne
    · intro s' hs'
      rw [← formatTs_le_iff, htime]
      exact hleast _ (List.mem_map_of_mem hs')
    · intro lower hlow hne
      obtain ⟨date, hdate, hle⟩ := hmatches.date_from lower hlow hne
      obtain rfl := Option.some.inj hdate
      rwa [htime]
    · intro upper hup hne
      obtain ⟨date, hdate, hle⟩ := hmatches.date_to upper hup hne
      obtain rfl := Option.some.inj hdate
      rwa [htime]

/-- A row shows what is told of its transaction. -/
theorem Posted.present_eq (hposted : Posted pydantic documents trace) (h : History trace db)
    (request : DiscrepancyRequest) {filter : Condition} {cutoff : Utc} {r : FlaggedRow}
    (hr : r ∈ flagged db filter (formatTs cutoff)) :
    r.present request.selectedTypes =
      request.toldTypes cutoff.micros (statements pydantic documents) r.t.transaction_id := by
  refine List.filter_congr fun type _ => decide_eq_decide.2 (and_congr_left fun _ => ?_)
  -- A flag is 0 or 1.
  have hle := flag_le_one h.checked hr type
  have hone : r.flag type ≠ 0 ↔ r.flag type = 1 := by omega
  rw [hone, flag_eq_one_of_mem hr]
  obtain ⟨t, m, ht, -, -, rfl⟩ := mem_flagged.1 hr
  exact hposted.found_iff h ht cutoff type

/-- The report is a function of what the accepted documents say, in the order in which they came. -/
theorem report_of_documents (h : Run trace db) (hposted : Posted pydantic documents trace)
    (hl : 0 < request.limit) {now : Utc} {i : ℤ} (hi : request.asOfInstant now = some i)
    (hin : request.stale_after_hours * 3600000000 ≤ i ∧ i < Utc.endMicros) (id : String)
    (types : List DiscrepancyType) (severity : Severity) :
    (∃ item, request.Reports db now item ∧ item.transaction_id = id ∧ item.discrepancy_types = types ∧
        item.severity = severity) ↔
      request.Admits (said (statements pydantic documents) id) ∧
        types = request.toldTypes (i - request.stale_after_hours * 3600000000)
          (statements pydantic documents) id ∧
        types ≠ [] ∧ severity = maxSeverity types ∧ ∀ s ∈ request.severity, severity = s := by
  obtain ⟨as_of, cutoff, hcutoff, hmicros⟩ := DiscrepancyRequest.exists_cutoff hi hin
  have hi' : i - request.stale_after_hours * 3600000000 = cutoff.micros := by omega
  have hist := h.history
  rw [hi']
  constructor
  · rintro ⟨item, hitem, rfl, rfl, rfl⟩
    obtain ⟨⟨window, hwindow, r, hr, hsel, rfl⟩, hseverity⟩ :=
      (DiscrepancyRequest.reports_iff hcutoff hl).1 hitem
    have hpresent := hposted.present_eq hist request hr
    have hne := present_ne_nil hist.checked hr hsel
    obtain ⟨t, m, ht, -, hselects, rfl⟩ := mem_flagged.1 hr
    exact ⟨(hposted.admits_iff hist ht).2 ⟨window, hwindow, hselects⟩, hpresent, hne, rfl, hseverity⟩
  · rintro ⟨hadmits, rfl, hne, rfl, hseverity⟩
    -- The transaction has a row, since something is said of it.
    obtain ⟨t, hfind⟩ : ∃ t, db.transactions.find? id = some t := by
      obtain ⟨-, -, s, hs, -⟩ := hadmits.window
      refine Option.ne_none_iff_exists'.1 fun hnone => ?_
      have hlog := hposted.log hist id
      rw [hist.projected.logged id hnone] at hlog
      exact List.ne_nil_of_mem hs (List.map_eq_nil_iff.1 hlog.symm)
    have ht := Table.mem_of_find? hfind
    obtain rfl : t.transaction_id = id := Table.key_of_find? hfind
    obtain ⟨m, hm⟩ := hist.projected.merchant_of_transaction ht
    obtain ⟨window, hwindow, hselects⟩ := (hposted.admits_iff hist ht).1 hadmits
    have hr : flagRow (formatTs cutoff) t m.merchant_name ∈
        flagged db (request.condition window) (formatTs cutoff) :=
      mem_flagged.2 ⟨t, m, ht, hm, hselects, rfl⟩
    have hpresent : (flagRow (formatTs cutoff) t m.merchant_name).present request.selectedTypes =
        request.toldTypes cutoff.micros (statements pydantic documents) t.transaction_id :=
      hposted.present_eq hist request hr
    refine ⟨_, (DiscrepancyRequest.reports_iff hcutoff hl).2 ⟨⟨window, hwindow, _, hr, ?_, rfl⟩, ?_⟩, rfl,
      hpresent, congrArg maxSeverity hpresent⟩
    · obtain ⟨type, htype⟩ := List.exists_mem_of_ne_nil _ hne
      rw [← hpresent] at htype
      obtain ⟨hfound, hmem⟩ := (mem_present hist.checked hr).1 htype
      exact (selected_iff hr _).2 ⟨type, hmem, hfound⟩
    · intro s hs
      exact (congrArg maxSeverity hpresent).trans (hseverity s hs)

/-- A transaction that comes twice, and a request for the first microsecond at which it is stale. -/
theorem report_of_documents_stuck :
    let request : DiscrepancyRequest :=
      { type := [.stuck_in_initiated, .duplicate_events]
        as_of := some "2026-01-10T17:41:58.085568+05:30" }
    ∃ item, request.Reports (Database.empty.applyAll "" [exampleIn "INR", exampleIn "INR"]) fourDaysLater
        item ∧
      item.transaction_id = exampleEvent.transaction_id ∧
      item.discrepancy_types = [.stuck_in_initiated, .duplicate_events] ∧ item.severity = .low := by
  intro request
  have hi : request.asOfInstant fourDaysLater = some 63903643918085568 := by decide +kernel
  refine (report_of_documents (Run.empty.ingest "" [exampleIn "INR", exampleIn "INR"]) posted_respelled
    (by decide) hi (by decide) _ _ _).2
      ⟨⟨nofun, (none, none), rfl, ?_⟩, by decide +kernel, by decide, by decide, nofun⟩
  obtain ⟨s, hs, hle⟩ : ∃ s ∈ said (statements samplePydantic respelled) exampleEvent.transaction_id,
      ∀ s' ∈ said (statements samplePydantic respelled) exampleEvent.transaction_id,
        s.time.micros ≤ s'.time.micros := by
    decide +kernel
  exact ⟨s, hs, hle, nofun, nofun⟩

end

end PaymentRecon
