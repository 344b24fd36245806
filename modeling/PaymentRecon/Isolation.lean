import PaymentRecon.Convergence

/-!
# Transactions do not interfere

What a run of batches leaves of one transaction is a function of the events that carry its id:
`View` is the row with the stored events, without the wall-clock columns, and `View.apply` is the
effect of one event on it. When equal event ids carry equal payloads, an event of another transaction
leaves the view alone (`view_apply_of_ne`), also when it is a replay, because the replay bumps the
transaction that holds the stored event, which then is the one that the replay names. So two runs in
which a transaction has the same events leave the same of it, whatever else they ingest and however
they are cut into batches (`transactions_isolated`).
-/

namespace PaymentRecon

open Store

/-- A row without its wall-clock columns. -/
def TransactionRow.untimed (t : TransactionRow) : TransactionRow :=
  { t with created_at := "", updated_at := "" }

/-- A stored event without the time of its arrival. -/
def EventRow.untimed (e : EventRow) : EventRow := { e with received_at := "" }

/-- What the database holds of one transaction. -/
structure View where
  /-- The row. -/
  row : Option TransactionRow
  /-- The stored events. -/
  log : List EventRow

/-- The view of a transaction. -/
def Database.view (db : Database) (id : String) : View :=
  ⟨(db.transactions.find? id).map TransactionRow.untimed, (db.log id).map EventRow.untimed⟩

/-- The effect of an event of the transaction on the view. -/
def View.apply (v : View) (event : EventIn) : View :=
  if v.log.any fun e => e.event_id = event.event_id then
    ⟨v.row.map (TransactionRow.bump ""), v.log⟩
  else
    ⟨some (v.row.elim (event.row "").transactionRow (event.row "").mergeTransaction),
      v.log ++ [event.eventRow ""]⟩

section Step

variable {trace : List Occurrence} {db : Database} {event : EventIn} (h : History trace db)
  (hc : Consistent (trace.map Prod.fst ++ [event]))

include h hc

/-- The transaction that holds a stored event is the one that its replay names. -/
theorem transaction_id_of_stored {existing : EventRow}
    (he : db.events.find? event.event_id = some existing) :
    existing.transaction_id = event.transaction_id := by
  obtain ⟨o, ho, _, now, rfl⟩ := h.stored_from_created existing (Table.mem_of_find? he)
  have hid : (o.1.eventRow now).event_id = event.event_id := Table.key_of_find? he
  have hentry := hc o.1 (List.mem_append_left _ (List.mem_map_of_mem ho)) event
    (List.mem_append_right _ (List.mem_singleton_self _)) hid
  exact congrArg Entry.transaction_id hentry

/-- An event of another transaction leaves the view alone. -/
theorem view_apply_of_ne {id : String} (hne : event.transaction_id ≠ id) (now : String) :
    (db.apply now event).view id = db.view id := by
  unfold Database.view
  cases he : db.events.find? event.event_id with
  | some existing =>
    have hid := transaction_id_of_stored h hc he
    rw [Database.log_of_stored he, Database.find?_transactions_of_stored he,
      if_neg (hid ▸ Ne.symm hne)]
  | none =>
    rw [Database.log_of_new he, Database.find?_transactions_of_new he, if_neg (Ne.symm hne),
      if_neg (Ne.symm hne), List.append_nil]

/-- The view knows whether an event of the transaction is stored. -/
theorem any_view_log (id : String) (hid : event.transaction_id = id) :
    ((db.view id).log.any fun e => e.event_id = event.event_id) =
      (db.events.find? event.event_id).isSome := by
  have hany : ((db.view id).log.any fun e => e.event_id = event.event_id) = true ↔
      ∃ e ∈ db.log id, e.event_id = event.event_id := by
    rw [Database.view, List.any_map, List.any_eq_true]
    exact exists_congr fun e => and_congr_right fun _ => decide_eq_true_iff
  rw [Bool.eq_iff_iff, hany, Option.isSome_iff_exists]
  constructor
  · rintro ⟨e, he, heid⟩
    exact ⟨e, Table.find?_eq_some.2 ⟨(Database.mem_log.1 he).1, heid⟩⟩
  · rintro ⟨e, he⟩
    obtain ⟨hmem, heid⟩ := Table.find?_eq_some.1 he
    exact ⟨e, Database.mem_log.2 ⟨hmem, (transaction_id_of_stored h hc he).trans hid⟩, heid⟩

/-- An event of the transaction acts on the view. -/
theorem view_apply (now : String) :
    (db.apply now event).view event.transaction_id =
      (db.view event.transaction_id).apply event := by
  have hany := any_view_log h hc event.transaction_id rfl
  unfold View.apply
  rw [hany]
  cases he : db.events.find? event.event_id with
  | some existing =>
    have hid := transaction_id_of_stored h hc he
    simp only [Database.view, Database.log_of_stored he, Database.find?_transactions_of_stored he,
      hid, if_true, Option.isSome_some]
    cases db.transactions.find? event.transaction_id <;> rfl
  | none =>
    simp only [Database.view, Database.log_of_new he, Database.find?_transactions_of_new he, if_true,
      Option.isSome_none, Bool.false_eq_true, if_false, List.map_append]
    cases db.transactions.find? event.transaction_id <;> rfl

end Step

/-- What a history leaves of a transaction is the effect of its events, one after another. -/
theorem History.view_eq {trace : List Occurrence} {db : Database} (h : History trace db)
    (hc : Consistent (trace.map Prod.fst)) (id : String) :
    db.view id =
      ((trace.map Prod.fst).filter fun event => event.transaction_id = id).foldl View.apply
        ⟨none, []⟩ := by
  induction h with
  | empty => rfl
  | @snoc trace db hist now event ih =>
    rw [List.map_append, List.map_singleton] at hc ⊢
    have hbefore : Consistent (trace.map Prod.fst) := fun e he e' he' =>
      hc e (List.mem_append_left _ he) e' (List.mem_append_left _ he')
    rw [List.filter_append, List.foldl_append, ← ih hbefore]
    by_cases hid : event.transaction_id = id
    · subst hid
      rw [view_apply hist hc]
      simp
    · rw [view_apply_of_ne hist hc hid]
      simp [hid]

/-- The example event again, under a new id and of another transaction. -/
def otherEvent : EventIn :=
  { exampleEvent with
    event_id := "other"
    transaction_id := "other"
    event_id_valid := by decide
    transaction_id_valid := by decide }

/-- Transactions do not interfere. Two runs from the empty database that commit the same events of a
transaction in the same order leave the same row of it, but for `created_at` and `updated_at`, and the
same stored events in the same order, but for `received_at`, when within each run equal event ids
carry equal payloads: whatever events of other transactions come before, between, and after them, and
however the runs are cut into batches. -/
theorem transactions_isolated {batches batches' : List Batch} {db db' : Database}
    (h : Commits .empty batches db) (h' : Commits .empty batches' db')
    (hc : Consistent (batches.flatMap Batch.events))
    (hc' : Consistent (batches'.flatMap Batch.events)) {id : String}
    (hsame : (batches.flatMap Batch.events).filter (fun event => event.transaction_id = id) =
      (batches'.flatMap Batch.events).filter fun event => event.transaction_id = id) :
    (db.transactions.find? id).map TransactionRow.untimed =
        (db'.transactions.find? id).map TransactionRow.untimed ∧
      (db.log id).map EventRow.untimed = (db'.log id).map EventRow.untimed := by
  obtain ⟨trace, hist, hmap⟩ := h.history
  obtain ⟨trace', hist', hmap'⟩ := h'.history
  rw [← hmap] at hc hsame
  rw [← hmap'] at hc' hsame
  have hview : db.view id = db'.view id := by
    rw [hist.view_eq hc, hist'.view_eq hc', hsame]
  exact ⟨congrArg View.row hview, congrArg View.log hview⟩

/-- The example event alone, and after an event of another transaction. -/
theorem transactions_isolated_beside :
    ((Database.empty.ingestAll [⟨"", [exampleEvent]⟩]).transactions.find?
        exampleEvent.transaction_id).map TransactionRow.untimed =
      ((Database.empty.ingestAll [⟨"", [otherEvent, exampleEvent]⟩]).transactions.find?
        exampleEvent.transaction_id).map TransactionRow.untimed :=
  (transactions_isolated (.exists Run.empty.history.checked [⟨"", [exampleEvent]⟩])
    (.exists Run.empty.history.checked [⟨"", [otherEvent, exampleEvent]⟩])
    (.of_nodup (by decide)) (.of_nodup (by decide)) rfl).1

end PaymentRecon
