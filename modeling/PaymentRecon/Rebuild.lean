import PaymentRecon.SeedScript

/-!
# Rebuilding a database from its log

`raw_payload` keeps the document of every stored event, to replay from. The seed script, given the
documents of a log in their order and an empty database, rebuilds the database from which they come, but
for the times of the wall clock and the count of replays, exactly when the currency of every stored event
is a fixed point of its validator (`rebuild_iff`).
-/

namespace PaymentRecon

open Store Sql

variable {pydantic : Pydantic}

/-- The documents of a log, in its order. -/
def Database.payloads (db : Database) : List Json := db.events.rows.map EventRow.raw_payload

/-- The event of a document was accepted. -/
def Accepted (pydantic : Pydantic) (event : EventIn) : Prop :=
  ∃ raw, EventIn.modelValidate pydantic raw = .ok event

/-- What a history leaves is what its created events leave, taken in once, in the order of the log. -/
theorem History.content {trace : List Occurrence} {db : Database} (h : History trace db) :
    ∃ events : List EventIn, (∀ event ∈ events, event ∈ trace.map Prod.fst) ∧
      SameContent (Database.empty.applyAll "" events) db ∧
      db.events.rows.map EventRow.untimed =
        events.map fun event => (event.eventRow "").untimed := by
  induction h with
  | empty => exact ⟨[], fun event he => absurd he List.not_mem_nil, ⟨rfl, rfl, rfl⟩, rfl⟩
  | @snoc trace db _ now event ih =>
    obtain ⟨events, hmem, hsame, hrows⟩ := ih
    have hlater : ∀ e ∈ events, e ∈ (trace ++ [(event, db.result now event)]).map Prod.fst := by
      intro e he
      rw [List.map_append]
      exact List.mem_append_left _ (hmem e he)
    cases he : db.events.find? event.event_id with
    | some existing =>
      -- A replay is absorbed.
      have hknown : db.events.find? event.event_id ≠ none := he ▸ Option.some_ne_none _
      refine ⟨events, hlater, ?_, ?_⟩
      · exact sameContent_equivalence.trans hsame
          (sameContent_equivalence.symm (absorbing_apply.absorb now hknown))
      · rw [Database.events_of_stored he, hrows]
    | none =>
      refine ⟨events ++ [event], ?_, ?_, ?_⟩
      · intro e he'
        rcases List.mem_append.1 he' with he' | he'
        · exact hlater e he'
        · obtain rfl := List.mem_singleton.1 he'
          simp
      · rw [Database.applyAll, List.foldl_append]
        exact hsame.apply "" now event
      · rw [Database.rows_events_of_new he, List.map_append, List.map_append, hrows]
        rfl

/-- A batch does the same when its events come from their documents. -/
theorem applyAll_reloaded (now : String) (db : Database) (events : List EventIn) :
    db.applyAll now (events.map (EventIn.reloaded pydantic)) = db.applyAll now events := by
  have happly : ∀ (db : Database) (event : EventIn),
      db.apply now (event.reloaded pydantic) = db.apply now event := fun _ _ => rfl
  simp only [Database.applyAll, List.foldl_map, happly]

/-- The documents of accepted events whose currencies are fixed points are accepted, as the events. -/
theorem acceptedEvents_modelDump (hfloat : ReadsBack pydantic) {events : List EventIn}
    (haccepted : ∀ event ∈ events, Accepted pydantic event)
    (hcurrency : ∀ event ∈ events, currencyField (.str event.currency) = .ok event.currency) :
    acceptedEvents pydantic (events.map EventIn.modelDump) =
      .ok (events.map (EventIn.reloaded pydantic)) := by
  induction events with
  | nil => rfl
  | cons event events ih =>
    obtain ⟨raw, hraw⟩ := haccepted event List.mem_cons_self
    have hvalid : EventIn.modelValidate pydantic event.modelDump = .ok (event.reloaded pydantic) := by
      cases raw with
      | obj members =>
        obtain ⟨hname, hamount, hextra, hagain⟩ := accepted_again hfloat hraw
        have := modelValidate_modelDump hname hamount hextra (hcurrency event List.mem_cons_self)
        rwa [hagain] at this
      | _ => cases hraw
    rw [List.map_cons, acceptedEvents, hvalid]
    simp only [ih (fun e he => haccepted e (List.mem_cons_of_mem _ he))
      fun e he => hcurrency e (List.mem_cons_of_mem _ he)]
    rfl

/-- An event that is accepted from a list of records has its record there. -/
theorem exists_record_of_mem {records : List Json} {events : List EventIn}
    (h : acceptedEvents pydantic records = .ok events) :
    ∀ event ∈ events, ∃ record ∈ records, EventIn.modelValidate pydantic record = .ok event := by
  induction records generalizing events with
  | nil =>
    obtain rfl := Except.ok.inj h
    exact fun event he => absurd he List.not_mem_nil
  | cons record records ih =>
    have hrest : ∀ rest, acceptedEvents pydantic records = .ok rest → ∀ event ∈ rest,
        ∃ r ∈ record :: records, EventIn.modelValidate pydantic r = .ok event := by
      intro rest hrest event he
      obtain ⟨r, hr, hvalid⟩ := ih hrest event he
      exact ⟨r, List.mem_cons_of_mem _ hr, hvalid⟩
    -- The first record is accepted, rejected, or raises.
    unfold acceptedEvents at h
    split at h
    · rename_i event hvalid
      obtain ⟨rest, hok, rfl⟩ := exists_of_map_eq_ok h
      intro e he
      rcases List.mem_cons.1 he with rfl | he
      · exact ⟨record, List.mem_cons_self, hvalid⟩
      · exact hrest rest hok e he
    · exact hrest events h
    · cases h

/-- The event of a document has the document's id, and the code of its currency. -/
theorem of_modelValidate_modelDump {event event' : EventIn}
    (h : EventIn.modelValidate pydantic event.modelDump = .ok event') :
    event'.event_id = event.event_id ∧
      currencyField (.str event.currency) = .ok event'.currency := by
  obtain ⟨hid, -, -, -, -, -, hcurrency, -, -⟩ := (modelValidate_eq_ok_iff pydantic).1 h
  have hself := identifierField_self event.event_id_valid
  refine ⟨?_, hcurrency⟩
  have hsame : (⟨event.event_id, event.event_id_valid⟩ : {s : String // Identifier s}) =
      ⟨event'.event_id, event'.event_id_valid⟩ := Except.ok.inj (hself.symm.trans hid)
  exact (Subtype.mk.inj hsame).symm

/-- The events of a file, when the script is done with it. -/
theorem seedEvents_of_done {run : SeedRun} {file : Except AppError Json} {db : Database}
    {stats : SeedStats} (h : (run.load pydantic file db).1 = .done stats) :
    ∃ events, seedEvents pydantic file = .ok events := by
  unfold SeedRun.load at h
  unfold seedEvents
  cases hrecords : file >>= seedRecords with
  | error e =>
    rw [hrecords] at h
    cases h
  | ok records =>
    rw [hrecords] at h
    dsimp only at h
    cases hvalid : validateRecords pydantic records with
    | error e =>
      rw [hvalid] at h
      cases h
    | ok valid =>
      refine ⟨valid.1, ?_⟩
      show acceptedEvents pydantic records = _
      rw [acceptedEvents_eq, hvalid]
      rfl

/-- The documents of a log rebuild the database exactly when the currency of every stored event is a fixed
point of its validator: the seed script, run with the documents on an empty database until it is done,
leaves the content of the database that the log is from. -/
theorem rebuild_iff (hfloat : ReadsBack pydantic) {trace : List Occurrence} {db : Database}
    (h : History trace db) (haccepted : ∀ o ∈ trace, Accepted pydantic o.1)
    {database_path path : String} (hmemory : path ≠ ":memory:") {files : String → Database}
    (hempty : files path = .empty) {run : SeedRun} (hrun : run.Keeps database_path path)
    (hsize : 0 < run.batch_size) {stats : SeedStats} {rebuilt : String → Database}
    (hdone : seedMain pydantic database_path (some (.ok (.arr db.payloads))) run files =
      (.done stats, rebuilt)) :
    SameContent (rebuilt path) db ↔
      ∀ row ∈ db.events.rows, currencyField (.str row.currency) = .ok row.currency := by
  obtain ⟨events, hmem, hsame, hrows⟩ := h.content
  have hpayloads : db.payloads = events.map EventIn.modelDump := by
    have := congrArg (List.map EventRow.raw_payload) hrows
    rwa [List.map_map, List.map_map] at this
  rw [seedMain_of_keeps hrun hmemory, hempty] at hdone
  obtain ⟨hstats, rfl⟩ := Prod.mk.inj hdone
  rw [Function.update_self]
  obtain ⟨valid, hvalid⟩ := seedEvents_of_done hstats
  obtain ⟨inputs, hdb, -, hspec⟩ := load_spec hvalid (⟨_, .empty⟩ : Reachable .empty)
  obtain ⟨hall, -⟩ := (hspec stats hstats).1 hsize
  -- The script leaves what a batch of the accepted events leaves.
  have hloaded : SameContent (run.load pydantic (.ok (.arr db.payloads)) .empty).2
      (Database.empty.applyAll "" valid) := by
    rw [hdb, applyAll_eq_runAll]
    refine absorbing_apply.runAll_same (sameContent_equivalence.refl _) ?_
    rw [hall, List.map_map]
    exact (List.map_id _).symm
  change acceptedEvents pydantic db.payloads = .ok valid at hvalid
  have hrow : ∀ row ∈ db.events.rows, ∃ event ∈ events, row.untimed = (event.eventRow "").untimed := by
    intro row hrow
    obtain ⟨event, hevent, heq⟩ := List.mem_map.1 (hrows ▸ List.mem_map_of_mem hrow)
    exact ⟨event, hevent, heq.symm⟩
  constructor
  · intro hrebuilt row hstored
    -- The row of the id in the rebuilt log is that of an accepted document.
    have hcontent := sameContent_equivalence.trans (sameContent_equivalence.symm hloaded) hrebuilt
    obtain ⟨row', hstored', hsame'⟩ :
        ∃ row' ∈ (Database.empty.applyAll "" valid).events.rows, row'.untimed = row.untimed :=
      List.mem_map.1 (hcontent.events ▸ List.mem_map_of_mem hstored)
    have hcopy : row'.event_id = row.event_id ∧ row'.currency = row.currency :=
      ⟨(congrArg EventRow.event_id hsame' : row'.untimed.event_id = row.untimed.event_id),
        (congrArg EventRow.currency hsame' : row'.untimed.currency = row.untimed.currency)⟩
    obtain ⟨o, ho, -, now, rfl⟩ := (History.empty.applyAll "" valid).stored_from_created row' hstored'
    have hvalid' : o.1 ∈ valid := (List.of_mem_zip ho).1
    obtain ⟨record, hrecord, hmodel⟩ := exists_record_of_mem hvalid o.1 hvalid'
    rw [hpayloads] at hrecord
    obtain ⟨event, hevent, rfl⟩ := List.mem_map.1 hrecord
    obtain ⟨hid, hcurrency⟩ := of_modelValidate_modelDump hmodel
    -- The document is that of the row, because the ids are distinct.
    obtain ⟨event', hevent', heq⟩ := hrow row hstored
    have hids : (events.map EventIn.event_id).Nodup := by
      have hnodup := db.events.nodup_keys
      have hkeys : db.events.rows.map EventRow.event_id = events.map EventIn.event_id := by
        have := congrArg (List.map EventRow.event_id) hrows
        rwa [List.map_map, List.map_map] at this
      rwa [hkeys] at hnodup
    have hid' : event'.event_id = row.event_id := (congrArg EventRow.event_id heq).symm
    obtain rfl : event = event' :=
      List.inj_on_of_nodup_map hids hevent hevent' (hid.symm.trans (hcopy.1.trans hid'.symm))
    have hcode : event.currency = row.currency := (congrArg EventRow.currency heq).symm
    rw [hcode] at hcurrency
    exact hcurrency.trans (congrArg Except.ok hcopy.2)
  · intro hfixed
    have hcurrency : ∀ event ∈ events, currencyField (.str event.currency) = .ok event.currency := by
      intro event hevent
      obtain ⟨row, hstored, heq⟩ : ∃ row ∈ db.events.rows,
          row.untimed = (event.eventRow "").untimed :=
        List.mem_map.1 (hrows ▸ List.mem_map_of_mem hevent)
      have hcode : row.currency = event.currency := congrArg EventRow.currency heq
      exact hcode ▸ hfixed row hstored
    have hsource : ∀ event ∈ events, Accepted pydantic event := by
      intro event hevent
      obtain ⟨o, ho, rfl⟩ := List.mem_map.1 (hmem event hevent)
      exact haccepted o ho
    rw [hpayloads, acceptedEvents_modelDump hfloat hsource hcurrency] at hvalid
    obtain rfl := Except.ok.inj hvalid
    rw [applyAll_reloaded] at hloaded
    exact sameContent_equivalence.trans hloaded hsame

/-- Two events and a replay of the first one, posted one after another. -/
def replayedDatabase : Database :=
  Database.empty.applyAll "" [exampleIn "INR", repricedEvent, exampleIn "INR"]

/-- Its log rebuilds it. -/
theorem rebuild_iff_replayed : ∃ stats rebuilt,
    seedMain samplePydantic "payments.db" (some (.ok (.arr replayedDatabase.payloads))) {} noFiles =
        (.done stats, rebuilt) ∧
      SameContent (rebuilt "payments.db") replayedDatabase := by
  have hmemory : "payments.db" ≠ ":memory:" := by decide
  have hrun : ({} : SeedRun).Keeps "payments.db" "payments.db" := ⟨rfl, rfl⟩
  have hist := History.empty.applyAll "" [exampleIn "INR", repricedEvent, exampleIn "INR"]
  have haccepted : ∀ event ∈ [exampleIn "INR", repricedEvent, exampleIn "INR"],
      Accepted samplePydantic event := by
    intro event hevent
    simp only [List.mem_cons, List.not_mem_nil, or_false] at hevent
    rcases hevent with rfl | rfl | rfl
    · exact ⟨_, modelValidate_example (.inl rfl)⟩
    · exact ⟨_, modelValidate_example (.inr rfl)⟩
    · exact ⟨_, modelValidate_example (.inl rfl)⟩
  have hpayloads : replayedDatabase.payloads =
      [(exampleIn "INR").modelDump, repricedEvent.modelDump] := rfl
  have hcurrencies : replayedDatabase.events.rows.map EventRow.currency = ["INR", "INR"] := rfl
  have hevents : seedEvents samplePydantic (.ok (.arr replayedDatabase.payloads)) =
      .ok [exampleIn "INR", repricedEvent] := by
    show acceptedEvents samplePydantic replayedDatabase.payloads = _
    rw [hpayloads, acceptedEvents, modelValidate_example (.inl rfl), acceptedEvents,
      modelValidate_example (.inr rfl)]
    rfl
  obtain ⟨stats, hstats⟩ := @load_of_unfailing samplePydantic {} (fun _ _ => rfl) (by decide) _
    (⟨_, .empty⟩ : Reachable (noFiles "payments.db")) _ _ hevents
  have hdone := @seedMain_of_keeps samplePydantic _ _ _ (.ok (.arr replayedDatabase.payloads)) hrun
    hmemory noFiles
  rw [hstats] at hdone
  refine ⟨stats, _, hdone, (rebuild_iff readsBack_samplePydantic hist
    (fun o ho => haccepted o.1 (List.of_mem_zip ho).1) hmemory rfl hrun (by decide) hdone).2 ?_⟩
  intro row hrow
  have hcurrency : row.currency = "INR" := by
    have hmem := List.mem_map_of_mem (f := EventRow.currency) hrow
    rw [show (Database.empty.applyAll "" [exampleIn "INR", repricedEvent, exampleIn "INR"]).events.rows.map
      EventRow.currency = ["INR", "INR"] from hcurrencies] at hmem
    simpa using hmem
  rw [hcurrency]
  exact currencyField_self (by decide)

end PaymentRecon
