import PaymentRecon.Projection

/-!
# What the answers say about the database

A history records for every event whether it was created or a duplicate. These facts connect the
record with the tables: every stored event is the row of a created occurrence
(`History.stored_from_created`), every occurrence names the transaction of the stored event with its
id (`History.answered`), the log holds as many events as were created, and the counters of
`transactions` add up to the created and the duplicate occurrences, in all and for each transaction.
-/

namespace PaymentRecon

open Store

/-- The occurrences with a status. -/
def countStatus (status : IngestStatus) (trace : List Occurrence) : ℕ :=
  trace.countP fun o => o.2.status = status

/-- The occurrences with a status that were put down to a transaction. -/
def countStatusOf (status : IngestStatus) (id : String) (trace : List Occurrence) : ℕ :=
  trace.countP fun o => o.2.status = status ∧ o.2.transaction_id = id

/-- The occurrences with a status, when one more is traced. -/
theorem countStatus_concat (status : IngestStatus) (trace : List Occurrence) (o : Occurrence) :
    countStatus status (trace ++ [o]) =
      countStatus status trace + if o.2.status = status then 1 else 0 := by
  unfold countStatus
  rw [List.countP_append, List.countP_singleton]
  simp only [decide_eq_true_eq]

/-- The occurrences put down to a transaction, when one more is traced. -/
theorem countStatusOf_concat (status : IngestStatus) (id : String) (trace : List Occurrence)
    (o : Occurrence) : countStatusOf status id (trace ++ [o]) =
      countStatusOf status id trace +
        if o.2.status = status ∧ o.2.transaction_id = id then 1 else 0 := by
  unfold countStatusOf
  rw [List.countP_append, List.countP_singleton]
  simp only [decide_eq_true_eq]

namespace History

variable {trace : List Occurrence} {db : Database}

/-- A stored event is the row of a created occurrence. -/
theorem stored_from_created (h : History trace db) :
    ∀ row ∈ db.events.rows, ∃ o ∈ trace, o.2.status = .created ∧ ∃ now, row = o.1.eventRow now := by
  induction h with
  | empty => exact nofun
  | @snoc trace db _ now event ih =>
    intro row hrow
    have old : row ∈ db.events.rows → ∃ o ∈ trace ++ [(event, db.result now event)],
        o.2.status = .created ∧ ∃ now, row = o.1.eventRow now := by
      intro hrow
      obtain ⟨o, ho, hst, hnow⟩ := ih row hrow
      exact ⟨o, List.mem_append_left _ ho, hst, hnow⟩
    cases he : db.events.find? event.event_id with
    | some existing =>
      rw [Database.events_of_stored he] at hrow
      exact old hrow
    | none =>
      rw [Database.rows_events_of_new he, List.mem_append, List.mem_singleton] at hrow
      rcases hrow with hrow | rfl
      · exact old hrow
      · exact ⟨(event, db.result now event), by simp, Database.created_iff.2 he, now, rfl⟩

/-- An occurrence names its event and the transaction of the stored event with its id, which is its
own row when it was created. -/
theorem answered (h : History trace db) : ∀ o ∈ trace, o.2.event_id = o.1.event_id ∧
    ∃ row, db.events.find? o.1.event_id = some row ∧ o.2.transaction_id = row.transaction_id ∧
      (o.2.status = .created → ∃ now, row = o.1.eventRow now) := by
  induction h with
  | empty =>
    intro o ho
    cases ho
  | @snoc trace db _ now event ih =>
    intro o ho
    rcases List.mem_append.1 ho with ho | ho
    -- An earlier occurrence: the rows of the log stay.
    · obtain ⟨hid, row, hrow, ht, hst⟩ := ih o ho
      refine ⟨hid, row, ?_, ht, hst⟩
      rw [Database.find?_events_apply, hrow, Option.some_or]
    · rw [List.mem_singleton] at ho
      subst ho
      refine ⟨Database.event_id_result, ?_⟩
      simp only [Database.find?_events_apply, if_true]
      cases he : db.events.find? event.event_id with
      | some existing =>
        -- A replay is answered with the stored row, and is not created.
        refine ⟨existing, by rw [Option.some_or], by rw [Database.result_of_stored he]; rfl,
          fun hst => ?_⟩
        rw [Database.created_iff, he] at hst
        cases hst
      | none =>
        exact ⟨event.eventRow now, by rw [Option.none_or],
          by rw [Database.result_of_new he]; rfl, fun _ => ⟨now, rfl⟩⟩

/-- There are as many stored events as created occurrences. -/
theorem length_events (h : History trace db) :
    db.events.rows.length = countStatus .created trace := by
  induction h with
  | empty => rfl
  | @snoc trace db _ now event ih =>
    rw [countStatus_concat, ← ih]
    cases he : db.events.find? event.event_id with
    | some existing =>
      rw [Database.events_of_stored he, Database.result_of_stored he]
      rfl
    | none =>
      rw [Database.rows_events_of_new he, Database.result_of_new he, List.length_append]
      rfl

/-- An id is created once when it is stored, and never otherwise. -/
theorem count_created (h : History trace db) (id : String) :
    trace.countP (fun o => o.2.status = .created ∧ o.1.event_id = id) =
      if (db.events.find? id).isSome then 1 else 0 := by
  induction h with
  | empty => rfl
  | @snoc trace db _ now event ih =>
    rw [List.countP_append, ih, List.countP_singleton, Database.find?_events_apply]
    simp only [Database.created_iff, decide_eq_true_eq]
    by_cases hid : event.event_id = id
    · -- The event is created when its id was absent, and then the id is stored.
      subst hid
      cases db.events.find? event.event_id <;> simp
    · have hnot : ¬ (db.events.find? event.event_id = none ∧ event.event_id = id) :=
        fun hc => hid hc.2
      rw [if_neg hnot, if_neg (Ne.symm hid), Option.or_none, Nat.add_zero]

/-- The events of all transactions add up to the created occurrences. -/
theorem sum_event_count (h : History trace db) :
    (db.transactions.rows.map TransactionRow.event_count).sum = countStatus .created trace := by
  induction h with
  | empty => rfl
  | @snoc trace db hist now event ih =>
    rw [countStatus_concat, ← ih]
    cases he : db.events.find? event.event_id with
    | some existing =>
      rw [Database.result_of_stored he, Database.apply_of_stored he, Table.rows_update, List.map_map]
      refine congrArg List.sum (List.map_congr_left fun t _ => ?_)
      simp only [Function.comp]
      split_ifs <;> rfl
    | none =>
      rw [Database.result_of_new he, Database.apply_of_new he]
      exact Table.sum_upsert _ rfl fun _ => rfl

/-- The transaction of a stored event has a row. -/
theorem transaction_of_stored (h : History trace db) {id : String} {row : EventRow}
    (hrow : db.events.find? id = some row) :
    ∃ t, db.transactions.find? row.transaction_id = some t := by
  refine Option.ne_none_iff_exists'.1 fun hnone => ?_
  have hmem : row ∈ db.log row.transaction_id :=
    Database.mem_log.2 ⟨Table.mem_of_find? hrow, rfl⟩
  rw [h.projected.logged _ hnone] at hmem
  cases hmem

/-- The replays of all transactions add up to the duplicate occurrences. -/
theorem sum_duplicate_event_count (h : History trace db) :
    (db.transactions.rows.map TransactionRow.duplicate_event_count).sum =
      countStatus .duplicate trace := by
  induction h with
  | empty => rfl
  | @snoc trace db hist now event ih =>
    rw [countStatus_concat, ← ih]
    cases he : db.events.find? event.event_id with
    | some existing =>
      -- The transaction of the stored event has a row, so the bump counts the replay.
      obtain ⟨t, ht⟩ := hist.transaction_of_stored he
      have hsum := Table.sum_update ht (TransactionRow.transaction_id_bump now)
        TransactionRow.duplicate_event_count
      have hbump : (t.bump now).duplicate_event_count = t.duplicate_event_count + 1 := rfl
      rw [hbump] at hsum
      rw [Database.result_of_stored he, Database.apply_of_stored he]
      show ((db.transactions.update existing.transaction_id (TransactionRow.bump now)
        (TransactionRow.transaction_id_bump now)).rows.map _).sum = _ + 1
      omega
    | none =>
      rw [Database.result_of_new he, Database.apply_of_new he]
      exact Table.sum_upsert _ rfl fun _ => rfl

/-- The replays of one transaction are the duplicate occurrences that were put down to it. -/
theorem duplicate_event_count (h : History trace db) (id : String) :
    (db.transactions.find? id).elim 0 TransactionRow.duplicate_event_count =
      countStatusOf .duplicate id trace := by
  induction h with
  | empty => rfl
  | @snoc trace db hist now event ih =>
    rw [countStatusOf_concat, ← ih]
    cases he : db.events.find? event.event_id with
    | some existing =>
      rw [Database.find?_transactions_of_stored he, Database.result_of_stored he]
      obtain ⟨t, ht⟩ := hist.transaction_of_stored he
      -- The counter of the transaction of the stored event goes up, whatever transaction the replay
      -- names.
      by_cases hid : id = existing.transaction_id
      · subst hid
        rw [if_pos rfl, ht]
        simp [duplicateResult, TransactionRow.bump]
      · rw [if_neg hid]
        simp [duplicateResult, Ne.symm hid]
    | none =>
      rw [Database.find?_transactions_of_new he, Database.result_of_new he]
      -- A new event counts no replay; the row of its transaction keeps its counter, or starts at 0.
      split_ifs with hid hst
      · simp [createdResult] at hst
      · subst hid
        cases db.transactions.find? event.transaction_id <;> rfl
      · simp [createdResult] at *
      · rfl

/-- The stored events of one transaction are the created occurrences that were put down to it. -/
theorem length_log (h : History trace db) (id : String) :
    (db.log id).length = countStatusOf .created id trace := by
  induction h with
  | empty => rfl
  | @snoc trace db hist now event ih =>
    rw [countStatusOf_concat, ← ih]
    cases he : db.events.find? event.event_id with
    | some existing =>
      rw [Database.log_of_stored he, Database.result_of_stored he]
      rfl
    | none =>
      have hres : (createdResult (event.row now)).transaction_id = event.transaction_id := rfl
      rw [Database.log_of_new he, Database.result_of_new he, List.length_append, hres]
      by_cases hid : id = event.transaction_id
      · subst hid
        simp [createdResult]
      · rw [if_neg hid]
        simp [Ne.symm hid]

end History

/-- The occurrences put down to a transaction are created or duplicates. -/
theorem countStatusOf_add (id : String) (trace : List Occurrence) :
    countStatusOf .created id trace + countStatusOf .duplicate id trace =
      trace.countP fun o => o.2.transaction_id = id := by
  unfold countStatusOf
  induction trace with
  | nil => rfl
  | cons o trace ih =>
    rw [List.countP_cons, List.countP_cons, List.countP_cons, ← ih]
    cases o.2.status <;> by_cases hid : o.2.transaction_id = id <;> simp [hid] <;> omega

end PaymentRecon
