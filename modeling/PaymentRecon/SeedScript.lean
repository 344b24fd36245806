import PaymentRecon.Concurrency
import PaymentRecon.Content
import PaymentRecon.Seeding
import PaymentRecon.Store.Reading

/-!
# The seed script

`main` of `scripts/seed.py`: it validates the records of a file and ingests the accepted ones in chunks,
each in a transaction of its own. Unlike the service at start-up it does not look whether the log is empty,
so that a run after attempts that broke off takes in the rest of the file (`seed_script_resumes`). It does
so with a positive size of the chunks: with a negative one it reports success and ingests nothing.

The databases are the files of a directory, by their paths; a path without a file reads as the empty
database, which is what `init_db` makes of it. What is printed on the way is left out.
-/

namespace PaymentRecon

open Store Sql

/-- A run of the script: its arguments, the times of the chunks, and the failures of their operations. -/
structure SeedRun where
  /-- `--database`, which overrides `DATABASE_PATH`. -/
  database : Option String := none
  /-- `--batch-size`. -/
  batch_size : ℤ := 2000
  /-- `--reset`: delete the database file before seeding. -/
  reset : Bool := false
  /-- The time of each chunk. -/
  now : ℕ → String := fun _ => ""
  /-- The failures of the operations of each chunk. -/
  faults : ℕ → ℕ → Option (Fault AppError) := fun _ _ => none

/-- What the script prints at the end. -/
structure SeedStats where
  /-- The events that were stored. -/
  created : ℕ
  /-- The events that were absorbed. -/
  duplicates : ℕ
  /-- The records that were not accepted. -/
  rejected : ℕ
  /-- The merchants in the database. -/
  merchants : ℕ
  /-- The transactions in the database. -/
  transactions : ℕ
  /-- The events in the database. -/
  events : ℕ
deriving DecidableEq, Repr

/-- How the script ends. -/
inductive SeedExit
  /-- There is no source file: exit code 1. -/
  | missing
  /-- An exception. -/
  | raised (e : Exc AppError)
  /-- Exit code 0. -/
  | done (stats : SeedStats)

variable (pydantic : Pydantic)

/-- The loop over the records: the events, and the number of the rejected records. -/
def validateRecords : List Json → Except AppError (List EventIn × ℕ)
  | [] => .ok ([], 0)
  | record :: records =>
    match EventIn.modelValidate pydantic record with
    | .ok event => (validateRecords records).map fun r => (event :: r.1, r.2)
    | .error (.rejected _) => (validateRecords records).map fun r => (r.1, r.2 + 1)
    | .error (.raised e) => .error e

/-- `valid[start:start + batch_size]` for `start in range(0, len(valid), batch_size)`. -/
def SeedRun.chunks (run : SeedRun) (valid : List EventIn) : Except AppError (List (List EventIn)) :=
  if run.batch_size = 0 then .error (.other "range() arg 3 must not be zero")
  -- A range that goes down from 0 is empty.
  else if run.batch_size < 0 then .ok []
  else
    let batch_size := run.batch_size.toNat
    .ok ((offsets batch_size valid.length).map fun start => page batch_size start valid)

/-- The loop over the chunks, from chunk number `i` on, with the numbers of the created and the absorbed
events so far. -/
def SeedRun.ingestChunks (run : SeedRun) :
    ℕ → List (List EventIn) → ℕ × ℕ → Database → Except (Exc AppError) (ℕ × ℕ) × Database
  | _, [], counts, db => (.ok counts, db)
  | i, chunk :: rest, counts, db =>
    let out := db.ingest (run.faults i) (run.now i) chunk
    match out.result with
    | .ok acc =>
      run.ingestChunks (i + 1) rest
        (counts.1 + acc.results.countP fun r => r.status = .created,
          counts.2 + acc.results.countP fun r => r.status = .duplicate) out.conn.committed
    | .error e => (.error e, out.conn.committed)

/-- The script on an open database. -/
def SeedRun.load (run : SeedRun) (file : Except AppError Json) (db : Database) :
    SeedExit × Database :=
  match file >>= seedRecords with
  | .error e => (.raised (.raised e), db)
  | .ok records =>
    match validateRecords pydantic records with
    | .error e => (.raised (.raised e), db)
    | .ok (valid, rejected) =>
      match run.chunks valid with
      | .error e => (.raised (.raised e), db)
      | .ok chunks =>
        match run.ingestChunks 0 chunks (0, 0) db with
        | (.error e, db) => (.raised e, db)
        | (.ok counts, db) =>
          (.done ⟨counts.1, counts.2, rejected, db.merchants.rows.length, db.transactions.rows.length,
            db.events.rows.length⟩, db)

/-- `database_path or settings.database_path`. -/
def SeedRun.path (run : SeedRun) (database_path : String) : String :=
  match run.database with
  | none | some "" => database_path
  | some path => path

/-- `args.reset and args.database and args.database != ":memory:"`: the path of the settings is not
reset. -/
def SeedRun.resets (run : SeedRun) : Bool :=
  run.reset && run.database.any fun path => path ≠ "" && path ≠ ":memory:"

/-- `main`, with the path of the settings and the source file, if there is one. -/
def seedMain (database_path : String) (source : Option (Except AppError Json)) (run : SeedRun)
    (files : String → Database) : SeedExit × (String → Database) :=
  match source with
  | none => (.missing, files)
  | some file =>
    let path := run.path database_path
    let db := if path = ":memory:" || run.resets then .empty else files path
    let out := run.load pydantic file db
    -- A database in memory goes with the process.
    (out.1, if path = ":memory:" then files else Function.update files path out.2)

/-! ## What a run does -/

section

variable {pydantic}

/-- The script accepts the records that the service accepts. -/
theorem acceptedEvents_eq (records : List Json) :
    acceptedEvents pydantic records = (validateRecords pydantic records).map Prod.fst := by
  induction records with
  | nil => rfl
  | cons record records ih =>
    unfold acceptedEvents validateRecords
    rw [ih]
    cases EventIn.modelValidate pydantic record with
    | ok event => cases validateRecords pydantic records <;> rfl
    | error failure =>
      cases failure with
      | rejected errors => cases validateRecords pydantic records <;> rfl
      | raised e => rfl

/-- Every record is accepted or rejected. -/
theorem length_validateRecords {records : List Json} {events : List EventIn} {rejected : ℕ}
    (h : validateRecords pydantic records = .ok (events, rejected)) :
    events.length + rejected = records.length := by
  induction records generalizing events rejected with
  | nil =>
    obtain ⟨rfl, rfl⟩ := Prod.mk.inj (Except.ok.inj h)
    rfl
  | cons record records ih =>
    unfold validateRecords at h
    split at h
    · obtain ⟨⟨events', rejected'⟩, hrest, heq⟩ := exists_of_map_eq_ok h
      obtain ⟨rfl, rfl⟩ := Prod.mk.inj heq
      have hsum : events'.length + rejected' = records.length := ih hrest
      simp only [List.length_cons]
      omega
    · obtain ⟨⟨events', rejected'⟩, hrest, heq⟩ := exists_of_map_eq_ok h
      obtain ⟨rfl, rfl⟩ := Prod.mk.inj heq
      have hsum : events'.length + rejected' = records.length := ih hrest
      simp only [List.length_cons]
      omega
    · cases h

/-- The step of ingestion. -/
abbrev takeIn (now : String) (db : Database) (event : EventIn) : Database := db.apply now event

/-- Events whose ids are stored are all absorbed. -/
theorem countP_created_of_known {db : Database} (now : String) {events : List EventIn}
    (h : ∀ event ∈ events, db.events.find? event.event_id ≠ none) :
    (db.results now events).countP (fun r => r.status = .created) = 0 := by
  rw [List.countP_eq_zero]
  intro r hr hcreated
  obtain ⟨event, hevent, hnew⟩ :=
    (db.exists_created_iff now events).1 ⟨r, hr, of_decide_eq_true hcreated⟩
  obtain ⟨row, hrow⟩ := Option.ne_none_iff_exists'.1 (h event hevent)
  exact hnew (Database.mem_storedIds.2 ⟨row, hrow⟩)

variable {run : SeedRun} {db : Database}

/-- The loop over the chunks takes in a part of them, and all of them when it returns, with counts that
account for them. -/
theorem ingestChunks_spec (hr : Reachable db) (i : ℕ) (chunks : List (List EventIn))
    (counts : ℕ × ℕ) :
    ∃ inputs, (run.ingestChunks i chunks counts db).2 = runAll takeIn db inputs ∧
      inputs.map Prod.snd <+: chunks.flatten ∧
      ∀ total, (run.ingestChunks i chunks counts db).1 = .ok total →
        inputs.map Prod.snd = chunks.flatten ∧
        total.1 + total.2 = counts.1 + counts.2 + chunks.flatten.length ∧
        ((∀ event ∈ chunks.flatten, db.events.find? event.event_id ≠ none) → total.1 = counts.1) := by
  induction chunks generalizing i counts db with
  | nil =>
    refine ⟨[], rfl, List.nil_prefix, fun total htotal => ?_⟩
    obtain rfl := Except.ok.inj htotal
    exact ⟨rfl, rfl, fun _ => rfl⟩
  | cons chunk chunks ih =>
    rcases @ingestEvents_run (run.now i) db hr.checked chunk (run.faults i) with
      ⟨e, he, hconn⟩ | ⟨hacc, hconn, -⟩
    · -- The chunk is rolled back, and the exception ends the loop.
      have hrun : run.ingestChunks i (chunk :: chunks) counts db = (.error e, db) := by
        simp only [SeedRun.ingestChunks, Database.ingest, he, hconn]
        rfl
      rw [hrun]
      exact ⟨[], rfl, List.nil_prefix, fun total htotal => by cases htotal⟩
    · have hrun : run.ingestChunks i (chunk :: chunks) counts db =
          run.ingestChunks (i + 1) chunks
            (counts.1 + (db.results (run.now i) chunk).countP fun r => r.status = .created,
              counts.2 + (db.results (run.now i) chunk).countP fun r => r.status = .duplicate)
            (db.applyAll (run.now i) chunk) := by
        simp only [SeedRun.ingestChunks, Database.ingest, hacc, hconn, Ingested.results_start_addAll]
        rfl
      have hstep : Ingests db (db.applyAll (run.now i) chunk) := .applyAll hr.checked _ _
      have hsplit := countP_created_add_duplicate (db.results (run.now i) chunk)
      have hlength := db.length_results (run.now i) chunk
      have hmap : (chunk.map fun event => (run.now i, event)).map Prod.snd = chunk := by
        rw [List.map_map]
        exact List.map_id _
      obtain ⟨inputs, hdb, hinit, hdone⟩ := ih (hstep.reachable hr) (i + 1)
        (counts.1 + (db.results (run.now i) chunk).countP fun r => r.status = .created,
          counts.2 + (db.results (run.now i) chunk).countP fun r => r.status = .duplicate)
      refine ⟨(chunk.map fun event => (run.now i, event)) ++ inputs, ?_, ?_, fun total htotal => ?_⟩
      · rw [hrun, hdb, runAll_append, applyAll_eq_runAll]
      · rw [List.map_append, hmap, List.flatten_cons]
        exact (List.prefix_append_right_inj _).2 hinit
      · rw [hrun] at htotal
        obtain ⟨hall, hcounts, hknown⟩ := hdone total htotal
        refine ⟨?_, ?_, fun hstored => ?_⟩
        · rw [List.map_append, hmap, hall, List.flatten_cons]
        · rw [List.flatten_cons, List.length_append]
          dsimp only at hcounts
          omega
        · rw [List.flatten_cons] at hstored
          have hnone := countP_created_of_known (run.now i) fun event he =>
            hstored event (List.mem_append_left _ he)
          have hrest := hknown fun event he => by
            rw [applyAll_eq_runAll]
            exact absorbing_apply.keeps_runAll (hstored event (List.mem_append_right _ he)) _
          rw [hrest, hnone, Nat.add_zero]

/-- What a run on an open database takes in: a part of the accepted events, and all of them when it is
done and its chunks have a positive size. A run that is done has created nothing when all of them were
stored. -/
theorem load_spec {file : Except AppError Json} {events : List EventIn}
    (hevents : seedEvents pydantic file = .ok events) (hr : Reachable db) :
    ∃ inputs, (run.load pydantic file db).2 = runAll takeIn db inputs ∧
      inputs.map Prod.snd <+: events ∧
      ∀ stats, (run.load pydantic file db).1 = .done stats →
        (0 < run.batch_size → inputs.map Prod.snd = events ∧
          stats.created + stats.duplicates = events.length) ∧
        ((∀ event ∈ events, db.events.find? event.event_id ≠ none) → stats.created = 0) := by
  unfold seedEvents at hevents
  obtain ⟨records, hrecords, hevents⟩ := exists_of_bind_eq_ok hevents
  rw [acceptedEvents_eq] at hevents
  obtain ⟨⟨valid, rejected⟩, hvalid, rfl⟩ := exists_of_map_eq_ok hevents
  have hload : run.load pydantic file db =
      match run.chunks valid with
      | .error e => (.raised (.raised e), db)
      | .ok chunks =>
        match run.ingestChunks 0 chunks (0, 0) db with
        | (.error e, db) => (.raised e, db)
        | (.ok counts, db) =>
          (.done ⟨counts.1, counts.2, rejected, db.merchants.rows.length,
            db.transactions.rows.length, db.events.rows.length⟩, db) := by
    simp only [SeedRun.load, hrecords, hvalid]
  rw [hload]
  cases hchunks : run.chunks valid with
  | error e => exact ⟨[], rfl, List.nil_prefix, fun stats hstats => by cases hstats⟩
  | ok chunks =>
    obtain ⟨inputs, hdb, hinit, hdone⟩ :=
      ingestChunks_spec hr 0 chunks (0, 0)
    -- The chunks are the events, or there are none.
    have hflatten : 0 < run.batch_size ∧ chunks.flatten = valid ∨ run.batch_size < 0 ∧ chunks = [] := by
      unfold SeedRun.chunks at hchunks
      split_ifs at hchunks with hzero hneg
      · exact .inr ⟨hneg, (Except.ok.inj hchunks).symm⟩
      · obtain rfl := Except.ok.inj hchunks
        refine .inl ⟨by omega, ?_⟩
        rw [← List.flatMap_def]
        exact flatMap_page_offsets (by omega) valid
    have hpart : chunks.flatten <+: valid := by
      rcases hflatten with ⟨-, hall⟩ | ⟨-, rfl⟩
      · rw [hall]
      · exact List.nil_prefix
    dsimp only
    cases hloop : run.ingestChunks 0 chunks (0, 0) db with
    | mk result after =>
      rw [hloop] at hdb hdone
      cases result with
      | error e => exact ⟨inputs, hdb, hinit.trans hpart, fun stats hstats => by cases hstats⟩
      | ok counts =>
        obtain ⟨hall, hcounts, hknown⟩ := hdone counts rfl
        refine ⟨inputs, hdb, hinit.trans hpart, fun stats hstats => ?_⟩
        obtain rfl := SeedExit.done.inj hstats
        refine ⟨fun hpos => ?_, fun hstored => hknown fun event he => hstored event (hpart.subset he)⟩
        rcases hflatten with ⟨-, hvalid⟩ | ⟨hneg, -⟩
        · rw [hvalid] at hall hcounts
          exact ⟨hall, hcounts.trans (Nat.zero_add _)⟩
        · omega

/-- A run with a negative size of the chunks is done, and has done nothing, whatever fails. -/
theorem load_of_negative {file : Except AppError Json} {events : List EventIn}
    (hevents : seedEvents pydantic file = .ok events) (hsize : run.batch_size < 0) (db : Database) :
    ∃ stats, run.load pydantic file db = (.done stats, db) ∧ stats.created = 0 ∧
      stats.duplicates = 0 := by
  unfold seedEvents at hevents
  obtain ⟨records, hrecords, hevents⟩ := exists_of_bind_eq_ok hevents
  rw [acceptedEvents_eq] at hevents
  obtain ⟨⟨valid, rejected⟩, hvalid, rfl⟩ := exists_of_map_eq_ok hevents
  have hchunks : run.chunks valid = .ok [] := by
    rw [SeedRun.chunks, if_neg hsize.ne, if_pos hsize]
  simp only [SeedRun.load, hrecords, hvalid, hchunks]
  exact ⟨_, rfl, rfl, rfl⟩

/-- Taking events in leads to a later database. -/
theorem later_runAll (hr : Reachable db) (inputs : List (String × EventIn)) :
    Later db (runAll takeIn db inputs) := by
  induction inputs generalizing db with
  | nil => exact .refl
  | cons input inputs ih =>
    have hstep : Ingests db (db.apply input.1 input.2) := .applyAll hr.checked input.1 [input.2]
    exact (Relation.ReflTransGen.single hstep).trans (ih (hstep.reachable hr))

/-- The run is on the database of a path, and keeps what is there. -/
structure SeedRun.Keeps (run : SeedRun) (database_path path : String) : Prop where
  /-- The path. -/
  path : run.path database_path = path
  /-- The file is not deleted. -/
  resets : run.resets = false

/-- A run that keeps the database file does to it what the script does to an open database, and leaves
the other files alone. -/
theorem seedMain_of_keeps {database_path path : String} {file : Except AppError Json}
    (h : run.Keeps database_path path) (hmemory : path ≠ ":memory:") (files : String → Database) :
    seedMain pydantic database_path (some file) run files =
      ((run.load pydantic file (files path)).1,
        Function.update files path (run.load pydantic file (files path)).2) := by
  simp only [seedMain, h.path, h.resets, hmemory, decide_false, Bool.or_false, Bool.false_eq_true,
    if_false]

/-- Runs one after another, on the files. -/
def seedAttempts (pydantic : Pydantic) (database_path : String)
    (file : Except AppError Json) (attempts : List SeedRun) (files : String → Database) :
    String → Database :=
  attempts.foldl (fun files run => (seedMain pydantic database_path (some file) run files).2) files

/-- Runs one after another each take in a part of the events. -/
theorem seedAttempts_spec {database_path path : String} (hmemory : path ≠ ":memory:")
    {file : Except AppError Json} {events : List EventIn}
    (hevents : seedEvents pydantic file = .ok events) {attempts : List SeedRun}
    (hkeeps : ∀ run ∈ attempts, run.Keeps database_path path) {files : String → Database}
    (hr : Reachable (files path)) :
    (∀ other, other ≠ path → seedAttempts pydantic database_path file attempts files other =
        files other) ∧
      ∃ parts : List (List (String × EventIn)),
        seedAttempts pydantic database_path file attempts files path =
          parts.foldl (runAll takeIn) (files path) ∧
        (∀ part ∈ parts, part.map Prod.snd <+: events) ∧
        Reachable (seedAttempts pydantic database_path file attempts files path) := by
  induction attempts generalizing files with
  | nil => exact ⟨fun _ _ => rfl, [], rfl, fun part hpart => absurd hpart List.not_mem_nil, hr⟩
  | cons run attempts ih =>
    obtain ⟨part, hdb, hinit, -⟩ := load_spec hevents hr
    have hmain := @seedMain_of_keeps pydantic run database_path path file
      (hkeeps run List.mem_cons_self) hmemory files
    have hpath : (seedMain pydantic database_path (some file) run files).2 path =
        runAll takeIn (files path) part := by
      rw [hmain]
      exact (Function.update_self _ _ _).trans hdb
    have hafter := (later_runAll hr part).reachable hr
    rw [← hpath] at hafter
    obtain ⟨hother, parts, hparts, hprefixes, hreach⟩ :=
      ih (fun r hrun => hkeeps r (List.mem_cons_of_mem _ hrun)) hafter
    refine ⟨fun other hne => ?_, part :: parts, ?_, ?_, hreach⟩
    · refine (hother other hne).trans ?_
      rw [hmain]
      exact Function.update_of_ne hne _ _
    · rw [List.foldl_cons, ← hpath]
      exact hparts
    · intro p hp
      rcases List.mem_cons.1 hp with rfl | hp
      · exact hinit
      · exact hprefixes p hp

/-- The numbers that a run prints account for the records. -/
theorem rejected_of_load {file : Except AppError Json} {events : List EventIn} {records : List Json}
    (hrecords : file >>= seedRecords = .ok records) (hevents : seedEvents pydantic file = .ok events)
    {stats : SeedStats} (h : (run.load pydantic file db).1 = .done stats) :
    events.length + stats.rejected = records.length := by
  unfold seedEvents at hevents
  rw [hrecords] at hevents
  change acceptedEvents pydantic records = .ok events at hevents
  rw [acceptedEvents_eq] at hevents
  obtain ⟨⟨valid, rejected⟩, hvalid, rfl⟩ := exists_of_map_eq_ok hevents
  have hlength := length_validateRecords hvalid
  simp only [SeedRun.load, hrecords, hvalid] at h
  split at h
  · cases h
  · split at h
    · cases h
    · obtain rfl := SeedExit.done.inj h
      exact hlength

end

/-- The script resumes. After any number of runs on a database file, each broken off anywhere by any
failure or not at all, a run that is done, with chunks of a positive size, leaves the content that one
undisturbed batch of all accepted events would have left, and accounts for every record. Any number of runs
after it, broken off or not, leave the content as it is, and one that is done reports that it has created
nothing, and every event as a duplicate if its chunks have a positive size. A run with a negative size of
the chunks reports that it is done, too, and leaves all files as they are. The databases of other paths are
as they were throughout. -/
theorem seed_script_resumes {pydantic : Pydantic} {database_path path : String}
    (hmemory : path ≠ ":memory:") {files : String → Database} (hr : Reachable (files path))
    {file : Except AppError Json} {records : List Json}
    (hrecords : file >>= seedRecords = .ok records) {events : List EventIn}
    (hevents : seedEvents pydantic file = .ok events) {attempts : List SeedRun}
    (hkeeps : ∀ run ∈ attempts, run.Keeps database_path path) {tried : String → Database}
    (htried : seedAttempts pydantic database_path file attempts files = tried) :
    (∀ run : SeedRun, run.Keeps database_path path → 0 < run.batch_size → ∀ stats seeded,
      seedMain pydantic database_path (some file) run tried = (.done stats, seeded) →
        SameContent (seeded path) ((files path).applyAll "" events) ∧
        stats.created + stats.duplicates + stats.rejected = records.length ∧
        ∀ later : List SeedRun, (∀ again ∈ later, again.Keeps database_path path) →
          SameContent (seedAttempts pydantic database_path file later seeded path) (seeded path) ∧
          ∀ again : SeedRun, again.Keeps database_path path → ∀ stats' seeded',
            seedMain pydantic database_path (some file) again
                (seedAttempts pydantic database_path file later seeded) = (.done stats', seeded') →
              stats'.created = 0 ∧ (0 < again.batch_size → stats'.duplicates = events.length)) ∧
      (∀ run : SeedRun, run.Keeps database_path path → run.batch_size < 0 →
        ∃ stats, seedMain pydantic database_path (some file) run tried = (.done stats, tried) ∧
          stats.created = 0 ∧ stats.duplicates = 0) ∧
      ∀ other, other ≠ path → tried other = files other := by
  subst htried
  obtain ⟨hother, parts, hparts, hprefixes, hreach⟩ := seedAttempts_spec hmemory hevents hkeeps hr
  refine ⟨fun run hrun hsize stats seeded hdone => ?_, fun run hrun hsize => ?_, hother⟩
  · rw [seedMain_of_keeps hrun hmemory] at hdone
    obtain ⟨hstats, rfl⟩ := Prod.mk.inj hdone
    obtain ⟨inputs, hdb, -, hspec⟩ := load_spec hevents hreach
    obtain ⟨hall, hcounts⟩ := (hspec stats hstats).1 hsize
    have hrejected := rejected_of_load hrecords hevents hstats
    have hreach' := (later_runAll hreach inputs).reachable hreach
    rw [← hdb] at hreach'
    -- After the run, every event is known.
    have hknown : ∀ event ∈ events,
        (run.load pydantic file
          (seedAttempts pydantic database_path file attempts files path)).2.events.find? event.event_id ≠
          none := by
      rw [hdb]
      exact hall ▸ absorbing_apply.learns_runAll _
    refine ⟨?_, by omega, fun later hlater => ?_⟩
    · -- The parts that the earlier runs took in do not matter.
      rw [Function.update_self, hdb, hparts, applyAll_eq_runAll]
      refine sameContent_equivalence.trans
        (absorbing_apply.runAll_attempts _ fun part hpart => hall.symm ▸ hprefixes part hpart) ?_
      refine absorbing_apply.runAll_same (sameContent_equivalence.refl _) ?_
      rw [hall, List.map_map]
      exact (List.map_id _).symm
    · rw [← Function.update_self path (run.load pydantic file _).2
        (seedAttempts pydantic database_path file attempts files)] at hreach' hknown
      obtain ⟨-, parts', hparts', hprefixes', hreach''⟩ :=
        seedAttempts_spec hmemory hevents hlater hreach'
      refine ⟨?_, fun again hagain stats' seeded' hdone' => ?_⟩
      · -- The parts that the later runs take in are known.
        rw [hparts']
        exact absorbing_apply.attempts_known fun part hpart event he =>
          hknown event ((hprefixes' part hpart).subset he)
      · rw [seedMain_of_keeps hagain hmemory] at hdone'
        obtain ⟨hstats', rfl⟩ := Prod.mk.inj hdone'
        obtain ⟨inputs', -, -, hspec'⟩ := load_spec hevents hreach''
        obtain ⟨hcounts', hnone⟩ := hspec' stats' hstats'
        have hcreated : stats'.created = 0 := hnone fun event he => by
          rw [hparts']
          exact absorbing_apply.keeps_attempts (hknown event he) parts'
        refine ⟨hcreated, fun hsize' => ?_⟩
        have hsum := (hcounts' hsize').2
        omega
  · obtain ⟨stats, hload, hnothing⟩ := load_of_negative hevents hsize
      (seedAttempts pydantic database_path file attempts files path)
    refine ⟨stats, ?_, hnothing⟩
    rw [seedMain_of_keeps hrun hmemory, hload, Function.update_eq_self]

/-! ## A run that nothing disturbs -/

section

variable {pydantic}

/-- The loop over the chunks returns when none of their operations fails. -/
theorem ingestChunks_of_unfailing {run : SeedRun} (hfaults : ∀ i n, run.faults i n = none)
    {db : Database} (hr : Reachable db) (i : ℕ) (chunks : List (List EventIn)) (counts : ℕ × ℕ) :
    ∃ total db', run.ingestChunks i chunks counts db = (.ok total, db') := by
  induction chunks generalizing i counts db with
  | nil => exact ⟨counts, db, rfl⟩
  | cons chunk chunks ih =>
    have hnone : run.faults i = fun _ => none := funext (hfaults i)
    obtain ⟨hacc, hconn⟩ := ingestEvents_run_clean hr.checked (run.now i) chunk
    have hstep : Ingests db (db.applyAll (run.now i) chunk) := .applyAll hr.checked _ _
    simp only [SeedRun.ingestChunks, Database.ingest, hnone, hacc, hconn]
    exact ih (hstep.reachable hr) _ _

/-- A run is done when none of its operations fails and its chunks have a size. -/
theorem load_of_unfailing {run : SeedRun} (hfaults : ∀ i n, run.faults i n = none)
    (hsize : run.batch_size ≠ 0) {db : Database} (hr : Reachable db) {file : Except AppError Json}
    {events : List EventIn} (hevents : seedEvents pydantic file = .ok events) :
    ∃ stats, (run.load pydantic file db).1 = .done stats := by
  unfold seedEvents at hevents
  obtain ⟨records, hrecords, hevents⟩ := exists_of_bind_eq_ok hevents
  rw [acceptedEvents_eq] at hevents
  obtain ⟨⟨valid, rejected⟩, hvalid, rfl⟩ := exists_of_map_eq_ok hevents
  obtain ⟨chunks, hchunks⟩ : ∃ chunks, run.chunks valid = .ok chunks := by
    unfold SeedRun.chunks
    rw [if_neg hsize]
    split_ifs
    · exact ⟨_, rfl⟩
    · exact ⟨_, rfl⟩
  obtain ⟨total, db', hloop⟩ := ingestChunks_of_unfailing hfaults hr 0 chunks (0, 0)
  simp only [SeedRun.load, hrecords, hvalid, hchunks, hloop]
  exact ⟨_, rfl⟩

end

/-- A run with chunks of one record whose second chunk fails. -/
def brokenRun : SeedRun where
  batch_size := 1
  faults i n := if i = 1 ∧ n = 0 then some (.raise (.operational "database is locked")) else none

/-- A directory without databases. -/
def noFiles : String → Database := fun _ => .empty

/-- The documents of two events, and a record that is no event. -/
def threeRecords : List Json := [(exampleIn "INR").modelDump, repricedEvent.modelDump, .null]

/-- Two of the records are accepted. -/
theorem seedEvents_threeRecords :
    seedEvents samplePydantic (.ok (.arr threeRecords)) = .ok [exampleIn "INR", repricedEvent] := by
  show acceptedEvents samplePydantic threeRecords = _
  rw [threeRecords, acceptedEvents, modelValidate_example (.inl rfl), acceptedEvents,
    modelValidate_example (.inr rfl)]
  rfl

/-- A run breaks off after the first record, and the next one is done. After another one that breaks off,
a run that is done has created nothing and counts both events as duplicates. -/
theorem seed_script_resumes_broken : ∃ stats seeded stats' seeded',
    seedMain samplePydantic "payments.db" (some (.ok (.arr threeRecords))) {}
        (seedAttempts samplePydantic "payments.db" (.ok (.arr threeRecords)) [brokenRun] noFiles) =
          (.done stats, seeded) ∧
      SameContent (seeded "payments.db") (Database.empty.applyAll "" [exampleIn "INR", repricedEvent]) ∧
      stats.created + stats.duplicates + stats.rejected = 3 ∧
      seedMain samplePydantic "payments.db" (some (.ok (.arr threeRecords))) {}
        (seedAttempts samplePydantic "payments.db" (.ok (.arr threeRecords)) [brokenRun] seeded) =
          (.done stats', seeded') ∧
      stats'.created = 0 ∧ stats'.duplicates = 2 := by
  have hempty : Reachable (noFiles "payments.db") := ⟨_, .empty⟩
  have hmemory : "payments.db" ≠ ":memory:" := by decide
  have hkeeps : ∀ run ∈ [brokenRun], run.Keeps "payments.db" "payments.db" := by
    intro run hrun
    obtain rfl := List.mem_singleton.1 hrun
    exact ⟨rfl, rfl⟩
  have hrun : ({} : SeedRun).Keeps "payments.db" "payments.db" := ⟨rfl, rfl⟩
  -- A run without failures is done, from any reachable database.
  have hends : ∀ files : String → Database, Reachable (files "payments.db") → ∃ stats seeded,
      seedMain samplePydantic "payments.db" (some (.ok (.arr threeRecords))) {} files =
          (.done stats, seeded) ∧ Reachable (seeded "payments.db") := by
    intro files hr
    obtain ⟨stats, hstats⟩ := @load_of_unfailing samplePydantic {} (fun _ _ => rfl) (by decide) _ hr _
      _ seedEvents_threeRecords
    have hdone := @seedMain_of_keeps samplePydantic _ _ _ (.ok (.arr threeRecords)) hrun hmemory files
    obtain ⟨inputs, hdb, -⟩ := @load_spec samplePydantic {} _ _ _ seedEvents_threeRecords hr
    rw [hstats] at hdone
    refine ⟨stats, _, hdone, ?_⟩
    rw [Function.update_self, hdb]
    exact (later_runAll hr inputs).reachable hr
  obtain ⟨-, _, -, -, htried⟩ := seedAttempts_spec hmemory seedEvents_threeRecords hkeeps hempty
  obtain ⟨stats, seeded, hdone, hseeded⟩ := hends _ htried
  obtain ⟨-, _, -, -, hretried⟩ := seedAttempts_spec hmemory seedEvents_threeRecords hkeeps hseeded
  obtain ⟨stats', seeded', hdone', -⟩ := hends _ hretried
  obtain ⟨hcontent, hcounts, hlater⟩ := (seed_script_resumes hmemory hempty
    (rfl : (Except.ok (.arr threeRecords) : Except AppError Json) >>= seedRecords = .ok threeRecords)
    seedEvents_threeRecords hkeeps rfl).1 {} hrun (by decide) stats seeded hdone
  obtain ⟨hcreated, hduplicates⟩ := (hlater [brokenRun] hkeeps).2 {} hrun stats' seeded' hdone'
  exact ⟨stats, seeded, stats', seeded', hdone, hcontent, hcounts, hdone', hcreated,
    hduplicates (by decide)⟩

end PaymentRecon
