import PaymentRecon.Isolation
import PaymentRecon.Store.Absorbing

/-!
# What a database holds

The content of a database is what events have put there: everything but the times of the wall clock and the
count of replays. Ingestion absorbs the events that are stored: up to their content, databases are alike
before and after (`absorbing_apply`).
-/

namespace PaymentRecon

open Store

/-- A merchant without its times. -/
def MerchantRow.content (m : MerchantRow) : MerchantRow := { m with created_at := "", updated_at := "" }

/-- A row without its times and its replays. -/
def TransactionRow.content (t : TransactionRow) : TransactionRow :=
  { t with duplicate_event_count := 0, created_at := "", updated_at := "" }

/-- Databases with the same content. -/
structure SameContent (db db' : Database) : Prop where
  /-- The same events, in the same order. -/
  events : db.events.rows.map EventRow.untimed = db'.events.rows.map EventRow.untimed
  /-- The same merchants. -/
  merchants : db.merchants.rows.map MerchantRow.content = db'.merchants.rows.map MerchantRow.content
  /-- The same transactions. -/
  transactions : db.transactions.rows.map TransactionRow.content =
    db'.transactions.rows.map TransactionRow.content

/-- To have the same content is an equivalence. -/
theorem sameContent_equivalence : Equivalence SameContent where
  refl _ := ⟨rfl, rfl, rfl⟩
  symm h := ⟨h.events.symm, h.merchants.symm, h.transactions.symm⟩
  trans h h' := ⟨h.events.trans h'.events, h.merchants.trans h'.merchants,
    h.transactions.trans h'.transactions⟩

/-- An event does the same to the same content, at any times. -/
theorem SameContent.apply {db db' : Database} (h : SameContent db db') (now now' : String)
    (event : EventIn) : SameContent (db.apply now event) (db'.apply now' event) := by
  have hkey : ∀ e : EventRow, e.untimed.event_id = e.event_id := fun _ => rfl
  cases he : db.events.find? event.event_id with
  | none =>
    -- The id is new to both logs, so both databases fold the event in.
    have he' := (Table.find?_eq_none_of_alike hkey h.events event.event_id).1 he
    rw [Database.apply_of_new he, Database.apply_of_new he']
    refine ⟨?_, ?_, ?_⟩
    · simp only [Table.rows_push, List.map_append, h.events]
      rfl
    · refine (Table.alike_upsert (f := MerchantRow.content) (fun _ => rfl) (fun _ => rfl) h.merchants
        _ _ fun _ => rfl).trans ?_
      exact Table.alike_upsert_congr rfl rfl fun _ => rfl
    · refine (Table.alike_upsert (f := TransactionRow.content) (fun _ => rfl) (fun _ => rfl)
        h.transactions _ _ fun _ => rfl).trans ?_
      exact Table.alike_upsert_congr rfl rfl fun _ => rfl
  | some existing =>
    -- The id is stored in both, so both only bump a counter, which is no content.
    obtain ⟨existing', he'⟩ : ∃ e, db'.events.find? event.event_id = some e := by
      refine Option.ne_none_iff_exists'.1 fun hnone => ?_
      rw [(Table.find?_eq_none_of_alike hkey h.events event.event_id).2 hnone] at he
      cases he
    rw [Database.apply_of_stored he, Database.apply_of_stored he']
    refine ⟨h.events, h.merchants, ?_⟩
    have hbump : ∀ (db : Database) (now id : String), (db.transactions.update id
        (TransactionRow.bump now) (TransactionRow.transaction_id_bump now)).rows.map
          TransactionRow.content = db.transactions.rows.map TransactionRow.content :=
      fun db now id => Table.alike_update (TransactionRow.transaction_id_bump now) (fun _ => rfl) id
    exact (hbump _ _ _).trans (h.transactions.trans (hbump _ _ _).symm)

/-- Ingestion absorbs the events that are stored. -/
theorem absorbing_apply : Absorbing (fun now db event => Database.apply now db event) SameContent
    fun db event => db.events.find? event.event_id ≠ none where
  equivalence := sameContent_equivalence
  step_same event h := h.apply _ _ event
  absorb {db event} now h := by
    obtain ⟨existing, he⟩ := Option.ne_none_iff_exists'.1 h
    rw [Database.apply_of_stored he]
    exact ⟨rfl, rfl, Table.alike_update (TransactionRow.transaction_id_bump now) (fun _ => rfl) _⟩
  learns now db event := by
    rw [Database.find?_events_apply, if_pos rfl]
    cases db.events.find? event.event_id <;> simp
  keeps {db event} now other h := by
    obtain ⟨existing, he⟩ := Option.ne_none_iff_exists'.1 h
    rw [Database.find?_events_apply, he, Option.some_or]
    exact Option.some_ne_none _

/-- A batch takes its events in at one time. -/
theorem applyAll_eq_runAll (db : Database) (now : String) (events : List EventIn) :
    db.applyAll now events =
      runAll (fun now db event => Database.apply now db event) db (events.map fun e => (now, e)) := by
  rw [runAll, List.foldl_map]
  rfl

/-- A batch of replays leaves the content of the database. -/
theorem Database.sameContent_applyAll {db : Database} (now : String) {events : List EventIn}
    (hstored : ∀ event ∈ events, event.event_id ∈ db.storedIds) :
    SameContent (db.applyAll now events) db := by
  rw [applyAll_eq_runAll]
  refine absorbing_apply.runAll_known ?_
  rw [List.map_map]
  intro event hevent
  obtain ⟨event', hevent', rfl⟩ := List.mem_map.1 hevent
  obtain ⟨row, hrow⟩ := mem_storedIds.1 (hstored event' hevent')
  exact Option.ne_none_iff_exists'.2 ⟨row, hrow⟩

/-- A batch has an outcome that says `created` when it has an event that is not stored. -/
theorem Database.exists_created_iff (now : String) (db : Database) (events : List EventIn) :
    (∃ r ∈ db.results now events, r.status = .created) ↔
      ∃ event ∈ events, event.event_id ∉ db.storedIds := by
  induction events generalizing db with
  | nil => simp [results]
  | cons event events ih =>
    rw [results, List.exists_mem_cons_iff, List.exists_mem_cons_iff, created_iff, ih]
    cases hfind : db.events.find? event.event_id with
    | none =>
      refine iff_of_true (.inl rfl) (.inl fun hmem => ?_)
      obtain ⟨row, hrow⟩ := mem_storedIds.1 hmem
      rw [hfind] at hrow
      cases hrow
    | some existing =>
      -- The head is a replay, and leaves the log to the rest of the batch.
      have hids : (db.apply now event).storedIds = db.storedIds := by
        rw [storedIds, events_of_stored hfind, storedIds]
      have hmem : event.event_id ∈ db.storedIds := mem_storedIds.2 ⟨existing, hfind⟩
      rw [hids]
      exact or_congr (iff_of_false (Option.some_ne_none _) fun hnot => hnot hmem) Iff.rfl

end PaymentRecon
