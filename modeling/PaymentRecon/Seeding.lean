import PaymentRecon.Replay
import PaymentRecon.Constraints
import PaymentRecon.Irreversible
import PaymentRecon.Sql.Paging

/-!
# Seeding at start-up

`_seed_if_empty` of `app/main.py`. A boot reads the seed file when the log is empty, validates its
records, and ingests those that are accepted in chunks of 2,000, each in a transaction of its own. A
boot may meet a failure at any operation, and the process may die between two chunks (or in one, which
is rolled back and so the same). Log messages are left out, and with them the number of records that
are rejected.

The chunks before a failure stay committed, so that the next boot finds a log that is not empty and
skips the rest of the file (`seeding_breaks_off`). `seeding_converges` is what holds of boots that do
not break off between two chunks.
-/

namespace PaymentRecon

open Store Sql

/-! ## The seed file -/

/-- `for record in document`. -/
def Json.iterate : Json → Except AppError (List Json)
  | .arr items => .ok items
  | .obj members => .ok (members.map fun m => .str m.1)
  | .str s => .ok (s.toList.map fun c => .str (String.ofList [c]))
  | _ => .error (.other "object is not iterable")

/-- The records of a document: `{"events": [...]}` or the document itself. -/
def seedRecords (document : Json) : Except AppError (List Json) :=
  match document with
  | .obj members => ((members.lookup "events").getD (.arr [])).iterate
  | document => document.iterate

/-- The loop over the records: those that are rejected are left out, and any other exception ends
it. -/
def acceptedEvents (pydantic : Pydantic) :
    List Json → Except AppError (List EventIn)
  | [] => .ok []
  | record :: records =>
    match EventIn.modelValidate pydantic record with
    | .ok event => (acceptedEvents pydantic records).map fun events => event :: events
    | .error (.rejected _) => acceptedEvents pydantic records
    | .error (.raised e) => .error e

/-- The events of a seed file, whose text may not be JSON. -/
def seedEvents (pydantic : Pydantic) (file : Except AppError Json) :
    Except AppError (List EventIn) :=
  (file >>= seedRecords) >>= acceptedEvents pydantic

/-- `events[start:start + 2000]` for `start in range(0, len(events), 2000)`. -/
def chunks (events : List EventIn) : List (List EventIn) :=
  (offsets 2000 events.length).map fun start => page 2000 start events

/-! ## Boots -/

/-- What a boot meets. -/
structure Boot where
  /-- `settings.seed_on_startup`. -/
  seed_on_startup : Bool := true
  /-- The seed file is there. -/
  seed_file_exists : Bool := true
  /-- The failure of the query that counts the events. -/
  count_failure : Option AppError := none
  /-- The failure to read the seed file. -/
  read_failure : Option AppError := none
  /-- The time of each chunk. -/
  now : ℕ → String := fun _ => ""
  /-- The failures of the operations of each chunk. -/
  faults : ℕ → ℕ → Option (Fault AppError) := fun _ _ => none
  /-- The chunk before which the process dies. -/
  dies : Option ℕ := none

/-- How `_seed_if_empty` ends. -/
inductive SeedOutcome
  /-- Seeding is switched off. -/
  | disabled
  /-- There is no seed file. -/
  | missing
  /-- The log is not empty. -/
  | skipped
  /-- Every chunk is committed. -/
  | seeded
  /-- An exception, which is logged. -/
  | failed (e : Exc AppError)
  /-- The process has died. -/
  | died

/-- It finished without an error: it seeded, or it skipped because the log was not empty. -/
def SeedOutcome.Finished (outcome : SeedOutcome) : Prop := outcome = .seeded ∨ outcome = .skipped

/-- The loop over the chunks, from chunk number `i` on. -/
def seedChunks (boot : Boot) : ℕ → List (List EventIn) → Database → SeedOutcome × Database
  | _, [], db => (.seeded, db)
  | i, chunk :: rest, db =>
    if boot.dies = some i then (.died, db)
    else
      let out := db.ingest (boot.faults i) (boot.now i) chunk
      match out.result with
      | .ok _ => seedChunks boot (i + 1) rest out.conn.committed
      | .error e => (.failed e, out.conn.committed)

/-- `_seed_if_empty`. -/
def seedIfEmpty (pydantic : Pydantic) (file : Except AppError Json)
    (boot : Boot) (db : Database) : SeedOutcome × Database :=
  if ¬ boot.seed_on_startup then (.disabled, db)
  else if ¬ boot.seed_file_exists then (.missing, db)
  else match boot.count_failure with
    | some e => (.failed (.raised e), db)
    | none =>
      if db.events.rows.length ≠ 0 then (.skipped, db)
      else match boot.read_failure with
        | some e => (.failed (.raised e), db)
        | none =>
          match seedEvents pydantic file with
          | .error e => (.failed (.raised e), db)
          | .ok events => seedChunks boot 0 (chunks events) db

/-- The databases that boots reach from the empty one, with no other writer, when each boot meets a
condition that may depend on the database it finds. -/
inductive Booted (pydantic : Pydantic) (file : Except AppError Json)
    (condition : Boot → Database → Prop) : Database → Prop
  /-- `init_schema`. -/
  | empty : Booted pydantic file condition .empty
  /-- One more boot. -/
  | boot {db : Database} (h : Booted pydantic file condition db) {boot : Boot}
    (hb : condition boot db) : Booted pydantic file condition (seedIfEmpty pydantic file boot db).2

/-! ## What a boot leaves -/

section

variable {pydantic : Pydantic} {file : Except AppError Json}

/-- Every record of the file that validation accepts is stored. -/
def AllStored (pydantic : Pydantic) (file : Except AppError Json)
    (db : Database) : Prop :=
  ∀ records, file >>= seedRecords = .ok records → ∀ record ∈ records, ∀ event,
    EventIn.modelValidate pydantic record = .ok event →
      ∃ row, db.events.find? event.event_id = some row

/-- A record that is accepted is among the events. -/
theorem mem_acceptedEvents {records : List Json} {events : List EventIn}
    (h : acceptedEvents pydantic records = .ok events) {record : Json} (hr : record ∈ records)
    {event : EventIn} (hv : EventIn.modelValidate pydantic record = .ok event) : event ∈ events := by
  induction records generalizing events with
  | nil => cases hr
  | cons first records ih =>
    unfold acceptedEvents at h
    split at h
    -- The first record is accepted: it is the one meant, or that is one of the rest.
    · rename_i event' hfirst
      cases hrest : acceptedEvents pydantic records with
      | error e =>
        rw [hrest] at h
        cases h
      | ok rest =>
        rw [hrest] at h
        cases h
        rcases List.mem_cons.1 hr with rfl | hr
        · rw [hfirst] at hv
          cases hv
          exact List.mem_cons_self
        · exact List.mem_cons_of_mem _ (ih hrest hr)
    -- It is rejected and left out, so it is not the one meant.
    · rename_i errors hfirst
      rcases List.mem_cons.1 hr with rfl | hr
      · rw [hfirst] at hv
        cases hv
      · exact ih h hr
    · cases h

/-- The chunks put together are the events. -/
theorem flatten_chunks (events : List EventIn) : (chunks events).flatten = events := by
  rw [chunks, ← List.flatMap_def]
  exact flatMap_page_offsets (by decide) events

/-- What is stored stays stored. -/
theorem Later.stored {db db' : Database} (hr : Reachable db) (h : Later db db') {id : String}
    {row : EventRow} (hrow : db.events.find? id = some row) : db'.events.find? id = some row := by
  obtain ⟨hmem, rfl⟩ := Table.find?_eq_some.1 hrow
  exact Table.find?_key ((h.grows hr).events.subset hmem)

/-- A chunk is committed as a whole, or it is rolled back. -/
theorem ingest_cases {db : Database} (hr : Reachable db) (faults : ℕ → Option (Fault AppError))
    (now : String) (chunk : List EventIn) :
    (∃ e, (db.ingest faults now chunk).result = .error e ∧
        (db.ingest faults now chunk).conn.committed = db) ∨
      ∃ acc, (db.ingest faults now chunk).result = .ok acc ∧
        (db.ingest faults now chunk).conn.committed = db.applyAll now chunk ∧
        ∀ n < (db.ingest faults now chunk).ticks, faults n = none := by
  unfold Database.ingest
  rcases ingestEvents_run hr.checked chunk faults with ⟨e, he, hconn⟩ | ⟨hacc, hconn, hfree⟩
  · exact .inl ⟨e, he, by rw [hconn]; rfl⟩
  · exact .inr ⟨_, hacc, by rw [hconn]; rfl, hfree⟩

/-- None of the operations that a chunk takes fails. -/
def Unfailing (faults : ℕ → Option (Fault AppError)) (now : String) (chunk : List EventIn)
    (db : Database) : Prop :=
  ∀ n < (db.ingest (fun _ => none) now chunk).ticks, faults n = none

/-- A chunk is committed exactly when none of its operations fails. -/
theorem unfailing_iff {db : Database} (hr : Reachable db) (faults : ℕ → Option (Fault AppError))
    (now : String) (chunk : List EventIn) :
    Unfailing faults now chunk db ↔ ∃ acc, (db.ingest faults now chunk).result = .ok acc := by
  constructor
  · intro h
    have hrun : db.ingest (fun _ => none) now chunk = db.ingest faults now chunk :=
      Prog.run_congr fun n _ hn => (h n hn).symm
    rw [← hrun]
    exact ⟨_, (ingestEvents_run_clean hr.checked now chunk).1⟩
  · rintro ⟨acc, hacc⟩ n hn
    rcases ingest_cases hr faults now chunk with ⟨e, he, _⟩ | ⟨_, _, _, hfree⟩
    · rw [hacc] at he
      cases he
    · have hrun : db.ingest faults now chunk = db.ingest (fun _ => none) now chunk :=
        Prog.run_congr fun n _ hn => hfree n hn
      exact hfree n (by rwa [hrun])

/-- The process lives through the chunks, from chunk number `i` on, and none of their operations
fails. -/
def Boot.Carries (boot : Boot) : ℕ → List (List EventIn) → Database → Prop
  | _, [], _ => True
  | i, chunk :: rest, db =>
    boot.dies ≠ some i ∧ Unfailing (boot.faults i) (boot.now i) chunk db ∧
      boot.Carries (i + 1) rest (db.applyAll (boot.now i) chunk)

/-- A chunk that is carried is committed, and the loop goes on. -/
theorem seedChunks_cons {boot : Boot} {i : ℕ} {chunk : List EventIn} {db : Database}
    (hr : Reachable db) (hlives : boot.dies ≠ some i)
    (hfaults : Unfailing (boot.faults i) (boot.now i) chunk db) (rest : List (List EventIn)) :
    seedChunks boot i (chunk :: rest) db =
      seedChunks boot (i + 1) rest (db.applyAll (boot.now i) chunk) := by
  obtain ⟨acc, hacc⟩ := (unfailing_iff hr _ _ _).1 hfaults
  rcases ingest_cases hr (boot.faults i) (boot.now i) chunk with
    ⟨e, he, _⟩ | ⟨_, _, hcommitted, _⟩
  · rw [hacc] at he
    cases he
  · simp only [seedChunks, hlives, if_false, hacc, hcommitted]

/-- A chunk that is not carried ends the loop and changes nothing. -/
theorem seedChunks_stops {boot : Boot} {i : ℕ} {chunk : List EventIn} {db : Database}
    (hr : Reachable db)
    (h : boot.dies = some i ∨ ¬ Unfailing (boot.faults i) (boot.now i) chunk db)
    (rest : List (List EventIn)) :
    ∃ outcome, seedChunks boot i (chunk :: rest) db = (outcome, db) ∧ ¬ outcome.Finished := by
  by_cases hdies : boot.dies = some i
  · exact ⟨.died, by simp [seedChunks, hdies], by simp [SeedOutcome.Finished]⟩
  · rw [unfailing_iff hr] at h
    rcases ingest_cases hr (boot.faults i) (boot.now i) chunk with
      ⟨e, he, hcommitted⟩ | ⟨acc, hacc, _⟩
    · refine ⟨.failed e, ?_, by simp [SeedOutcome.Finished]⟩
      simp only [seedChunks, hdies, if_false, he, hcommitted]
    · exact absurd ⟨acc, hacc⟩ (h.resolve_left hdies)

/-- The loop over chunks that are carried: all of their events are stored, and those that were stored
before still are. -/
theorem seedChunks_carried {boot : Boot} {i : ℕ} {rest : List (List EventIn)} {db : Database}
    (hr : Reachable db) (h : boot.Carries i rest db) :
    ∃ db', seedChunks boot i rest db = (.seeded, db') ∧ Later db db' ∧
      ∀ event ∈ rest.flatten, ∃ row, db'.events.find? event.event_id = some row := by
  induction rest generalizing i db with
  | nil =>
    refine ⟨db, rfl, .refl, fun event he => ?_⟩
    rw [List.flatten_nil] at he
    cases he
  | cons chunk rest ih =>
    obtain ⟨hlives, hfaults, hrest⟩ := h
    have hstep : Ingests db (db.applyAll (boot.now i) chunk) := .applyAll hr.checked _ _
    obtain ⟨db', hseeded, hlater, hstored⟩ := ih (hstep.reachable hr) hrest
    refine ⟨db', ?_, .head hstep hlater, fun event he => ?_⟩
    · rw [seedChunks_cons hr hlives hfaults, hseeded]
    · rw [List.flatten_cons, List.mem_append] at he
      rcases he with he | he
      · obtain ⟨row, hrow⟩ := Database.stored_applyAll (boot.now i) db he
        exact ⟨row, hlater.stored (hstep.reachable hr) hrow⟩
      · exact hstored event he

/-- A boot comes to the seed file: seeding is on, the file is there and can be read, and the log is
empty. -/
structure Boot.Seeds (boot : Boot) (db : Database) : Prop where
  /-- Seeding is on. -/
  seed_on_startup : boot.seed_on_startup = true
  /-- The file is there. -/
  seed_file_exists : boot.seed_file_exists = true
  /-- The events are counted. -/
  count_failure : boot.count_failure = none
  /-- There is none. -/
  empty : db.events.rows = []
  /-- The file is read. -/
  read_failure : boot.read_failure = none

/-- A boot that comes to the seed file. -/
theorem seedIfEmpty_of_seeds {boot : Boot} {db : Database} (h : boot.Seeds db) :
    seedIfEmpty pydantic file boot db =
      match seedEvents pydantic file with
      | .error e => (.failed (.raised e), db)
      | .ok events => seedChunks boot 0 (chunks events) db := by
  simp only [seedIfEmpty, h.seed_on_startup, h.seed_file_exists, h.count_failure, h.empty,
    h.read_failure, List.length_nil, ne_eq, not_true_eq_false, if_false]

/-- A boot that does not come to the seed file changes nothing, and finishes only where the log is
not empty. -/
theorem seedIfEmpty_of_not_seeds {boot : Boot} {db : Database} (h : ¬ boot.Seeds db) :
    ∃ outcome, seedIfEmpty pydantic file boot db = (outcome, db) ∧
      (outcome.Finished → db.events.rows ≠ []) := by
  -- Each return before the loop leaves the database alone, and only the one for a log with rows is final.
  unfold seedIfEmpty
  split
  · exact ⟨.disabled, rfl, by simp [SeedOutcome.Finished]⟩
  rename_i hon
  split
  · exact ⟨.missing, rfl, by simp [SeedOutcome.Finished]⟩
  rename_i hexists
  split
  · exact ⟨.failed _, rfl, by simp [SeedOutcome.Finished]⟩
  rename_i hcount
  split
  · rename_i hrows
    exact ⟨.skipped, rfl, fun _ hnil => hrows (by rw [hnil]; rfl)⟩
  rename_i hrows
  split
  · exact ⟨.failed _, rfl, by simp [SeedOutcome.Finished]⟩
  rename_i hread
  exact absurd ⟨not_not.1 hon, not_not.1 hexists, hcount,
    List.length_eq_zero_iff.1 (not_not.1 hrows), hread⟩ h

/-- A boot does not break off between two chunks of the file: once it has carried the first chunk, it
carries them all. -/
def UnbrokenBoot (pydantic : Pydantic) (file : Except AppError Json)
    (boot : Boot) (db : Database) : Prop :=
  boot.Seeds db → ∀ events first rest, seedEvents pydantic file = .ok events →
    chunks events = first :: rest → boot.dies ≠ some 0 →
      Unfailing (boot.faults 0) (boot.now 0) first db →
        boot.Carries 1 rest (db.applyAll (boot.now 0) first)

/-- A boot that does not break off seeds the whole file, or changes nothing and finishes only where
the log is not empty. -/
theorem seedIfEmpty_unbroken {boot : Boot} {db : Database} (hr : Reachable db)
    (hu : UnbrokenBoot pydantic file boot db) :
    (∃ db', seedIfEmpty pydantic file boot db = (.seeded, db') ∧ Later db db' ∧
        AllStored pydantic file db') ∨
      ∃ outcome, seedIfEmpty pydantic file boot db = (outcome, db) ∧
        (outcome.Finished → db.events.rows ≠ []) := by
  by_cases hs : boot.Seeds db
  swap
  · exact .inr (seedIfEmpty_of_not_seeds hs)
  rw [seedIfEmpty_of_seeds hs]
  cases hevents : seedEvents pydantic file with
  | error e => exact .inr ⟨.failed _, rfl, by simp [SeedOutcome.Finished]⟩
  | ok events =>
    -- The chunks are carried one and all, or the first of them stops the loop.
    have hchunks : boot.Carries 0 (chunks events) db ∨
        ∃ outcome, seedChunks boot 0 (chunks events) db = (outcome, db) ∧ ¬ outcome.Finished := by
      cases hchunks : chunks events with
      | nil => exact .inl trivial
      | cons first rest =>
        by_cases hfirst : boot.dies ≠ some 0 ∧ Unfailing (boot.faults 0) (boot.now 0) first db
        · exact .inl ⟨hfirst.1, hfirst.2, hu hs events first rest hevents hchunks hfirst.1 hfirst.2⟩
        · rw [not_and_or, not_not] at hfirst
          exact .inr (seedChunks_stops hr hfirst rest)
    rcases hchunks with hcarries | ⟨outcome, hkept, hnot⟩
    · obtain ⟨db', hseeded, hlater, hstored⟩ := seedChunks_carried hr hcarries
      refine .inl ⟨db', hseeded, hlater, fun records hrecords record hrecord event hv => ?_⟩
      rw [seedEvents, hrecords] at hevents
      rw [flatten_chunks] at hstored
      exact hstored event (mem_acceptedEvents hevents hrecord hv)
    · exact .inr ⟨outcome, hkept, fun hfinished => absurd hfinished hnot⟩

/-- What boots that do not break off keep: the log is empty or holds the whole file. -/
theorem Booted.unbroken {db : Database}
    (h : Booted pydantic file (UnbrokenBoot pydantic file) db) :
    Reachable db ∧ (db.events.rows = [] ∨ AllStored pydantic file db) := by
  induction h with
  | empty => exact ⟨⟨_, .empty⟩, .inl rfl⟩
  | @boot db _ boot hb ih =>
    obtain ⟨hr, hfile⟩ := ih
    rcases seedIfEmpty_unbroken hr hb with ⟨db', hseeded, hlater, hstored⟩ | ⟨outcome, hkept, _⟩
    · rw [hseeded]
      exact ⟨hlater.reachable hr, .inr hstored⟩
    · rw [hkept]
      exact ⟨hr, hfile⟩

/-- Seeding converges when no boot breaks off between two chunks. In every state that such boots reach
from the empty database: one more that seeds, or that skips because the log is not empty, leaves every
accepted record of the file stored; and one that ends in any other way leaves the database as it
was, with an empty log or with the whole file. -/
theorem seeding_converges {db : Database} (h : Booted pydantic file (UnbrokenBoot pydantic file) db)
    {boot : Boot} (hu : UnbrokenBoot pydantic file boot db) :
    ((seedIfEmpty pydantic file boot db).1.Finished →
        AllStored pydantic file (seedIfEmpty pydantic file boot db).2) ∧
      (¬ (seedIfEmpty pydantic file boot db).1.Finished →
        (seedIfEmpty pydantic file boot db).2 = db ∧
          (db.events.rows = [] ∨ AllStored pydantic file db)) := by
  obtain ⟨hr, hfile⟩ := h.unbroken
  rcases seedIfEmpty_unbroken hr hu with ⟨db', hseeded, _, hstored⟩ | ⟨outcome, hkept, hrows⟩
  · rw [hseeded]
    exact ⟨fun _ => hstored, fun hnot => absurd (.inl rfl) hnot⟩
  · rw [hkept]
    exact ⟨fun hfinished => hfile.resolve_left (hrows hfinished), fun _ => ⟨rfl, hfile⟩⟩

end

/-! ## Boots that fail -/

/-- A boot whose chunk number `i` fails at once, at `BEGIN`. -/
def failingBoot (i : ℕ) : Boot where
  faults j n := if j = i ∧ n = 0 then some (.raise (.operational "database is locked")) else none

/-- A chunk that fails at once is not carried. -/
theorem not_unfailing_failingBoot (i : ℕ) (chunk : List EventIn) (db : Database) :
    ¬ Unfailing ((failingBoot i).faults i) ((failingBoot i).now i) chunk db := by
  intro h
  -- Every chunk takes at least one operation.
  have hticks : 0 < (db.ingest (fun _ => none) ((failingBoot i).now i) chunk).ticks := by
    rw [Database.ingest, ingestEvents_eq, Prog.transaction_eq]
    exact Prog.le_ticks _ _ 1 _
  have := h 0 hticks
  simp [failingBoot] at this

/-- A boot on an empty log comes to the seed file. -/
theorem seeds_failingBoot (i : ℕ) {db : Database} (h : db.events.rows = []) :
    (failingBoot i).Seeds db :=
  ⟨rfl, rfl, rfl, h, rfl⟩

/-- The document of an example event. -/
theorem modelValidate_example {event : EventIn}
    (h : event = exampleIn "INR" ∨ event = repricedEvent) :
    EventIn.modelValidate samplePydantic event.modelDump = .ok event := by
  have hcurrency : currencyField (.str "INR") = .ok "INR" :=
    currencyField_self (by decide +kernel)
  rcases h with rfl | rfl
  · exact modelValidate_exampleIn hcurrency
  · exact @modelValidate_modelDump samplePydantic repricedEvent rfl rfl rfl _ _ hcurrency

/-- The first boot fails at its only chunk, and the second one seeds. -/
theorem seeding_converges_second :
    AllStored samplePydantic (.ok (.arr [(exampleIn "INR").modelDump]))
      (seedIfEmpty samplePydantic (.ok (.arr [(exampleIn "INR").modelDump])) {}
        (seedIfEmpty samplePydantic (.ok (.arr [(exampleIn "INR").modelDump])) (failingBoot 0)
          .empty).2).2 := by
  have hevents : seedEvents samplePydantic (.ok (.arr [(exampleIn "INR").modelDump])) =
      .ok [exampleIn "INR"] := by
    show acceptedEvents samplePydantic [(exampleIn "INR").modelDump] = _
    rw [acceptedEvents, modelValidate_example (.inl rfl)]
    rfl
  -- With one chunk there is no place to break off.
  have hunbroken : ∀ boot db, UnbrokenBoot samplePydantic (.ok (.arr [(exampleIn "INR").modelDump]))
      boot db := by
    intro boot db _ events first rest hevents' hchunks _ _
    cases hevents.symm.trans hevents'
    cases hchunks
    trivial
  have hempty : Reachable .empty := ⟨_, .empty⟩
  refine (seeding_converges (.boot .empty (hunbroken (failingBoot 0) .empty)) (hunbroken {} _)).1 ?_
  have hfirst : (seedIfEmpty samplePydantic (.ok (.arr [(exampleIn "INR").modelDump])) (failingBoot 0)
      .empty).2 = .empty := by
    rw [seedIfEmpty_of_seeds (seeds_failingBoot 0 rfl), hevents]
    obtain ⟨outcome, hkept, _⟩ := seedChunks_stops hempty
      (.inr (not_unfailing_failingBoot 0 [exampleIn "INR"] .empty)) []
    exact congrArg Prod.snd hkept
  rw [hfirst, seedIfEmpty_of_seeds ⟨rfl, rfl, rfl, rfl, rfl⟩, hevents]
  obtain ⟨db', hseeded, _⟩ := @seedChunks_carried {} 0 (chunks [exampleIn "INR"]) _ hempty
    ⟨nofun, fun _ _ => rfl, trivial⟩
  exact .inl (congrArg Prod.fst hseeded)

/-- A file of 2,001 accepted records, of which the first 2,000 are the same. -/
def longFile : Json :=
  .arr (List.replicate 2000 (exampleIn "INR").modelDump ++ [repricedEvent.modelDump])

/-- All records of the file are accepted. -/
theorem seedEvents_longFile : seedEvents samplePydantic (.ok longFile) =
    .ok (List.replicate 2000 (exampleIn "INR") ++ [repricedEvent]) := by
  have hrecords : ∀ n, acceptedEvents samplePydantic
      (List.replicate n (exampleIn "INR").modelDump ++ [repricedEvent.modelDump]) =
        .ok (List.replicate n (exampleIn "INR") ++ [repricedEvent]) := by
    intro n
    induction n with
    | zero =>
      show acceptedEvents samplePydantic [repricedEvent.modelDump] = _
      rw [acceptedEvents, modelValidate_example (.inr rfl)]
      rfl
    | succ n ih =>
      rw [List.replicate_succ, List.cons_append, acceptedEvents, modelValidate_example (.inl rfl)]
      simp only [ih]
      rfl
  exact hrecords 2000

/-- One event more than a chunk. -/
theorem chunks_append_singleton {first : List EventIn} (h : first.length = 2000) (last : EventIn) :
    chunks (first ++ [last]) = [first, [last]] := by
  have hoffsets : offsets 2000 2001 = [0, 2000] := by decide
  rw [chunks, List.length_append, h, List.length_singleton, hoffsets, List.map_cons,
    List.map_singleton, page, page, List.drop_zero, ← h, List.take_left, List.drop_left]
  have hlast : [last].length ≤ first.length := by
    rw [h, List.length_singleton]
    omega
  rw [List.take_of_length_le hlast]

/-- An identifier that is not in a batch is stored after it only if it was before. -/
theorem find?_events_applyAll_of_not_mem {now : String} {id : String} {events : List EventIn}
    (h : ∀ event ∈ events, event.event_id ≠ id) (db : Database) :
    (db.applyAll now events).events.find? id = db.events.find? id := by
  induction events generalizing db with
  | nil => rfl
  | cons event events ih =>
    have hne : id ≠ event.event_id := (h event List.mem_cons_self).symm
    show ((db.apply now event).applyAll now events).events.find? id = _
    rw [ih (fun event' he => h event' (List.mem_cons_of_mem _ he)), Database.find?_events_apply,
      if_neg hne, Option.or_none]

/-- The second chunk of a file of 2,001 records fails at the first boot: the second one finds a log
that is not empty, and the last record is never stored. -/
theorem seeding_breaks_off :
    ¬ ∀ db, Booted samplePydantic (.ok longFile) (fun _ _ => True) db → ∀ boot : Boot,
        (seedIfEmpty samplePydantic (.ok longFile) boot db).1.Finished →
          AllStored samplePydantic (.ok longFile)
            (seedIfEmpty samplePydantic (.ok longFile) boot db).2 := by
  intro h
  have hempty : Reachable .empty := ⟨_, .empty⟩
  obtain ⟨db, hdb⟩ : ∃ db, db = Database.empty.applyAll ((failingBoot 1).now 0)
      (List.replicate 2000 (exampleIn "INR")) := ⟨_, rfl⟩
  -- The first boot commits its first chunk only.
  have hfirst : (seedIfEmpty samplePydantic (.ok longFile) (failingBoot 1) .empty).2 = db := by
    have hlives : (failingBoot 1).dies ≠ some 0 := by simp [failingBoot]
    have hcarried : Unfailing ((failingBoot 1).faults 0) ((failingBoot 1).now 0)
        (List.replicate 2000 (exampleIn "INR")) .empty := fun n _ => by simp [failingBoot]
    have hr : Reachable (Database.empty.applyAll ((failingBoot 1).now 0)
        (List.replicate 2000 (exampleIn "INR"))) :=
      (Ingests.applyAll hempty.checked _ _).reachable hempty
    rw [seedIfEmpty_of_seeds (seeds_failingBoot 1 rfl), seedEvents_longFile]
    show (seedChunks _ 0 (chunks (List.replicate 2000 _ ++ _)) _).2 = _
    rw [chunks_append_singleton List.length_replicate, seedChunks_cons hempty hlives hcarried]
    obtain ⟨outcome, hkept, _⟩ := seedChunks_stops hr
      (.inr (not_unfailing_failingBoot 1 [repricedEvent] _)) []
    rw [hkept, hdb]
  -- The second one skips.
  have hrows : db.events.rows.length ≠ 0 := by
    obtain ⟨row, hrow⟩ := Database.stored_applyAll ((failingBoot 1).now 0) Database.empty
      (List.mem_replicate.2 ⟨by decide, rfl⟩ : exampleIn "INR" ∈ List.replicate 2000 (exampleIn "INR"))
    rw [← hdb] at hrow
    exact (List.length_pos_of_mem (Table.find?_eq_some.1 hrow).1).ne'
  have hsecond : seedIfEmpty samplePydantic (.ok longFile) {} db = (.skipped, db) := by
    simp [seedIfEmpty, hrows]
  have hbooted : Booted samplePydantic (.ok longFile) (fun _ _ => True) db := by
    rw [← hfirst]
    exact .boot .empty trivial
  have hstored := h db hbooted {} (by rw [hsecond]; exact .inr rfl)
  rw [hsecond] at hstored
  obtain ⟨row, hrow⟩ := hstored _ rfl repricedEvent.modelDump (List.mem_append_right _ (.head _)) _
    (modelValidate_example (.inr rfl))
  rw [hdb, find?_events_applyAll_of_not_mem] at hrow
  · cases hrow
  · intro event he
    rw [List.eq_of_mem_replicate he]
    decide

end PaymentRecon
