import PaymentRecon.Run

/-!
# The name of a merchant

`_UPSERT_MERCHANT` keeps the stored name when the event carries none: that is what its
`COALESCE(NULLIF(excluded.merchant_name, ''), merchants.merchant_name)` is for, and `expectedName`
is the name that a merchant would have then. But `_to_row` has already put the merchant's id in the
place of a missing name, so the upsert never sees an empty one (`shownName_ne_empty`) and the last
new event always wins (`History.stored_name`). `merchant_name_eq_expected_iff` says exactly when the
two agree.
-/

namespace PaymentRecon

open Store Sql

/-- The non-empty name that an event carries. -/
def EventIn.carriedName (event : EventIn) : Option String :=
  event.merchant_name.filter fun name => name ≠ ""

/-- The name that `_to_row` gives to an event. -/
def EventIn.shownName (event : EventIn) : String := event.carriedName.getD event.merchant_id

/-- The newly created events of a merchant, in the order of their ingestion. -/
def created (merchant_id : String) (trace : List Occurrence) : List EventIn :=
  (trace.filter fun o => o.2.status = .created ∧ o.1.merchant_id = merchant_id).map Prod.fst

/-- The last non-empty name that a created event of the merchant carried, or the merchant's id. -/
def expectedName (merchant_id : String) (trace : List Occurrence) : String :=
  ((created merchant_id trace).filterMap EventIn.carriedName).getLast?.getD merchant_id

/-- `_to_row` never gives an empty name. -/
theorem EventIn.shownName_ne_empty (event : EventIn) : event.shownName ≠ "" := by
  unfold shownName carriedName
  cases h : event.merchant_name.filter fun name => name ≠ "" with
  | none => exact event.merchant_id_valid.2.1
  | some name => simpa using (Option.filter_eq_some_iff.1 h).2

/-- The parameter `merchant_name` of an event. -/
theorem EventIn.merchant_name_row (event : EventIn) (now : String) :
    (event.row now).merchant_name = event.shownName := by
  unfold shownName carriedName
  simp only [row, params]
  cases h : event.merchant_name with
  | none => rfl
  | some name =>
    by_cases hn : name = "" <;> simp [hn, Option.filter_some]

/-- The upsert overwrites the name, since `NULLIF` never gives `NULL`. -/
theorem EventIn.merchant_name_upsert (event : EventIn) (now : String) (old : Option MerchantRow) :
    (old.elim (event.row now).merchantRow (event.row now).mergeMerchant).merchant_name =
      event.shownName := by
  cases old with
  | none => exact event.merchant_name_row now
  | some m =>
    simp only [Option.elim_some, Params.mergeMerchant, event.merchant_name_row now, nullif,
      event.shownName_ne_empty, if_false, Option.getD_some]

/-- The created events of a merchant, when one more occurrence is traced. -/
theorem created_append (merchant_id : String) (trace : List Occurrence) (o : Occurrence) :
    created merchant_id (trace ++ [o]) =
      created merchant_id trace ++
        if o.2.status = .created ∧ o.1.merchant_id = merchant_id then [o.1] else [] := by
  unfold created
  rw [List.filter_append, List.map_append, List.filter_singleton]
  split_ifs with h <;> simp [h]

/-- The stored name of a merchant is what its last created event shows, and a merchant without a
created event has no row. -/
theorem History.stored_name {trace : List Occurrence} {db : Database} (h : History trace db)
    (merchant_id : String) :
    (db.merchants.find? merchant_id).map MerchantRow.merchant_name =
      (created merchant_id trace).getLast?.map EventIn.shownName := by
  induction h with
  | empty => rfl
  | @snoc trace db _ now event ih =>
    rw [created_append]
    cases he : db.events.find? event.event_id with
    | some existing =>
      have hdup : (db.result now event).status ≠ .created := by
        simp [Database.created_iff, he]
      rw [if_neg fun h => hdup h.1, List.append_nil, Database.merchants_of_stored he]
      exact ih
    | none =>
      -- A new event is the last of its merchant, and its name is the one that is stored.
      have hnew : (db.result now event).status = .created := Database.created_iff.2 he
      rw [Database.find?_merchants_of_new he]
      by_cases hm : event.merchant_id = merchant_id
      · rw [if_pos hm.symm, if_pos ⟨hnew, hm⟩, Option.map_some, event.merchant_name_upsert]
        simp
      · rw [if_neg (Ne.symm hm), if_neg fun h => hm h.2, List.append_nil]
        exact ih

/-- The created events of a merchant are its own. -/
theorem merchant_id_of_mem_created {merchant_id : String} {trace : List Occurrence} {event : EventIn}
    (h : event ∈ created merchant_id trace) : event.merchant_id = merchant_id := by
  simp only [created, List.mem_map, List.mem_filter, decide_eq_true_eq] at h
  obtain ⟨o, ⟨_, _, hm⟩, rfl⟩ := h
  exact hm

/-- The example event again, under a new id and without a name. -/
def unnamedEvent : EventIn :=
  { exampleEvent with
    event_id := "unnamed"
    merchant_name := none
    event_id_valid := by decide }

/-- The database after an event with a name and one without. -/
theorem find?_merchant_forgotten :
    (Database.empty.applyAll "" [exampleEvent, unnamedEvent]).merchants.find? "merchant_2" =
      some ⟨"merchant_2", "merchant_2", "", ""⟩ := by decide

/-- In every run, the name of a merchant is the expected one exactly when its last created event
carries a name, or none of its created events does, or the last name carried is its id. -/
theorem merchant_name_eq_expected_iff {trace : List Occurrence} {db : Database} (h : Run trace db)
    {merchant_id : String} {m : MerchantRow} (hm : db.merchants.find? merchant_id = some m) :
    m.merchant_name = expectedName merchant_id trace ↔
      (∃ event, (created merchant_id trace).getLast? = some event ∧ event.carriedName ≠ none) ∨
        (∀ event ∈ created merchant_id trace, event.carriedName = none) ∨
        ((created merchant_id trace).filterMap EventIn.carriedName).getLast? = some merchant_id := by
  have hname := h.history.stored_name merchant_id
  rw [hm, Option.map_some, eq_comm, Option.map_eq_some_iff] at hname
  obtain ⟨last, hlast, hshown⟩ := hname
  obtain ⟨before, hbefore⟩ := List.getLast?_eq_some_iff.1 hlast
  have hid : last.merchant_id = merchant_id :=
    merchant_id_of_mem_created (List.mem_of_getLast? hlast)
  rw [← hshown, expectedName]
  cases hc : last.carriedName with
  | some name =>
    -- The last event carries a name, which is both stored and expected.
    refine iff_of_true ?_ (.inl ⟨last, hlast, by simp [hc]⟩)
    rw [hbefore, List.filterMap_append, EventIn.shownName, hc]
    simp [hc]
  | none =>
    -- The last event carries none, so the id is stored.
    rw [EventIn.shownName, hc, Option.getD_none, hid]
    constructor
    · intro heq
      cases hl : ((created merchant_id trace).filterMap EventIn.carriedName).getLast? with
      | none =>
        refine .inr (.inl fun event he => ?_)
        rw [List.getLast?_eq_none_iff, List.filterMap_eq_nil_iff] at hl
        exact hl event he
      | some name =>
        rw [hl, Option.getD_some] at heq
        exact .inr (.inr (by rw [heq]))
    · rintro (⟨event, he, hne⟩ | hnone | hself)
      · rw [hlast] at he
        cases he
        exact absurd hc hne
      · rw [List.filterMap_eq_nil_iff.2 hnone]
        rfl
      · rw [hself, Option.getD_some]

/-- The condition fails for an event with a name and one without. -/
theorem merchant_name_eq_expected_iff_forgotten :
    "merchant_2" ≠ expectedName "merchant_2"
      ([exampleEvent, unnamedEvent].zip (Database.empty.results "" [exampleEvent, unnamedEvent])) :=
  (merchant_name_eq_expected_iff (Run.empty.ingest "" [exampleEvent, unnamedEvent])
    find?_merchant_forgotten).not.2 (by decide)

/-- A known name is lost: an event without a name overwrites it. -/
theorem merchant_name_lost :
    ¬ ∀ trace db, Run trace db → ∀ merchant_id m, db.merchants.find? merchant_id = some m →
      m.merchant_name = expectedName merchant_id trace := by
  intro h
  have := h _ _ (Run.empty.ingest "" [exampleEvent, unnamedEvent]) "merchant_2" _
    find?_merchant_forgotten
  revert this
  decide

end PaymentRecon
