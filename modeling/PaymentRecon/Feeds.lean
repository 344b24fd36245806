import PaymentRecon.Sql.Growing
import PaymentRecon.FilterMeaning
import PaymentRecon.Snapshots

/-!
# Paging while batches commit

A client pages through a listing, and batches commit in the meantime. The log only grows, and a stored
event never changes, so `GET /events` shows such a client every event that it would have shown when the
client began (`event_feed_complete`). A transaction can move within a listing, and it can leave one: it does
neither when the listing is sorted by a column that stays and filtered by conditions that last
(`transaction_feed_complete`). A lasting discrepancy stays in the report (`discrepancy_feed_complete`).

`has_more` compares the page with a total that was read before it, so a client can rely on it only when no
batch commits between the two (`Client.trusting`). The length of the page is of the page itself
(`Client.careful`).
-/

namespace PaymentRecon

open Store Sql

/-- How a client pages. -/
inductive Client
  /-- It goes on while `has_more` says so, and no batch commits while a request is being answered. -/
  | trusting
  /-- It goes on while the pages are full, and batches commit at any time. -/
  | careful

section

variable {α ρ ν : Type}

/-- A request for the page at an offset, answered among commits. -/
def Asked (client : Client) (limit : ℕ) (request : ℕ → Reading Database AppError α)
    (answer : α → Answer ρ) (db : Database) (offset : ℕ) (db' : Database) (items : List ρ)
    (more : Bool) : Prop :=
  ∃ seen response, Reading.Reads Ingests (request offset) db seen (.ok response) ∧
    seen.getLastD db = db' ∧ (answer response).items = items ∧
    match client with
    | .trusting => (∀ s ∈ seen, s = db') ∧ (answer response).has_more = more
    | .careful => decide (items.length = limit) = more

/-- What an endpoint shows: the last statement reads the page, and `has_more` compares it with a total
that was read before. Rows do not go, and keep their order. -/
structure Listing (request : ℕ → Reading Database AppError α) (answer : α → Answer ρ)
    (limit : ℕ) (rows : Database → List ν) (name : ρ → ν) : Prop where
  /-- The page is one of the rows that the last statement sees. -/
  page : ∀ {db offset seen response}, Reachable db →
    Reading.Reads Ingests (request offset) db seen (.ok response) →
      Later db (seen.getLastD db) ∧
        (answer response).items.map name = page limit offset (rows (seen.getLastD db)) ∧
        ((∀ s ∈ seen, s = seen.getLastD db) → (answer response).has_more =
          decide (offset + (answer response).items.length < (rows (seen.getLastD db)).length))
  /-- Rows stay. -/
  grows : ∀ {db db'}, Reachable db → Later db db' → (rows db).Sublist (rows db')

/-- A listing is a feed to either client. -/
theorem Listing.feed {request : ℕ → Reading Database AppError α} {answer : α → Answer ρ} {limit : ℕ}
    {rows : Database → List ν} {name : ρ → ν} (h : Listing request answer limit rows name)
    (hl : 0 < limit) (client : Client) :
    Feed (Asked client limit request answer) rows name limit Reachable Later where
  trans := Relation.ReflTransGen.trans
  serves := by
    rintro db offset db' items more hdb ⟨seen, response, hreads, rfl, rfl, hmore⟩
    obtain ⟨hlater, hpage, hhas⟩ := h.page hdb hreads
    have hlength := congrArg List.length hpage
    rw [List.length_map] at hlength
    refine ⟨hlater.reachable hdb, hlater, _, hlater, h.grows hdb hlater, .refl _, hpage, ?_⟩
    rintro rfl
    cases client with
    | trusting =>
      obtain ⟨hsame, hfalse⟩ := hmore
      have hnot := of_decide_eq_false ((hhas hsame).symm.trans hfalse)
      rw [hlength] at hnot
      exact not_not.1 fun hne => hnot ((has_more_iff hl).2 hne)
    | careful =>
      -- A page that is not full has nothing after it.
      have hshort := of_decide_eq_false hmore
      rw [hlength, length_page] at hshort
      rw [List.drop_eq_nil_iff]
      omega

end

/-! ## Events -/

/-- The answer in a page of events. -/
def EventListResponse.answer (response : EventListResponse) : Answer EventOut :=
  ⟨response.items, response.pagination.total, response.pagination.has_more⟩

/-- The events that a query matches, as it shows them. -/
def eventRows (clauses : List EventClause) (db : Database) : List EventOut :=
  (orderBy eventKeys (db.events.rows.filter (selectsEvent clauses))).map eventOut

/-- There is an item for every event that matches. -/
theorem length_eventRows (clauses : List EventClause) (db : Database) :
    (eventRows clauses db).length = (db.events.rows.filter (selectsEvent clauses)).length := by
  rw [eventRows, List.length_map, length_orderBy]

/-- The matching events are sorted, and stay. -/
theorem eventRows_sublist {db db' : Database} (hdb : Reachable db) (h : Later db db')
    (clauses : List EventClause) : (eventRows clauses db).Sublist (eventRows clauses db') := by
  have hids : ∀ db : Database,
      ((db.events.rows.filter (selectsEvent clauses)).map EventRow.event_id).Nodup := fun db =>
    db.events.nodup_keys.sublist (List.filter_sublist.map _)
  refine (sublist_of_sortedBy (sortedBy_orderBy (hids db)) (sortedBy_orderBy (hids db')) ?_).map _
  intro row hrow
  rw [mem_orderBy, List.mem_filter] at hrow ⊢
  exact ⟨(h.grows hdb).events.subset hrow.1, hrow.2⟩

/-- The run of a request for events: a statement for the total, and one for the page. -/
theorem listEvents_inv {query : EventQuery} {clauses : List EventClause}
    (hq : query.where_ = .ok clauses) {db : Database} {seen : List Database}
    {response : EventListResponse}
    (h : Reading.Reads Ingests (listEvents query) db seen (.ok response)) :
    ∃ s s', seen = [s, s'] ∧ Later db s' ∧
      response.items = page query.limit query.offset (eventRows clauses s') ∧
      response.pagination.has_more =
        decide (query.offset + response.items.length < (eventRows clauses s).length) := by
  rw [listEvents, hq, Reading.calling_ok_bind] at h
  have hlater := h.later_of_mem
  obtain ⟨s, seen', rfl, _, h⟩ := Reading.Reads.stmt_inv h
  obtain ⟨s', seen'', rfl, _, h⟩ := Reading.Reads.stmt_inv h
  obtain ⟨rfl, hresponse⟩ := Reading.Reads.ret_inv h
  obtain rfl := Except.ok.inj hresponse
  refine ⟨s, s', rfl, hlater s' (List.mem_cons_of_mem _ List.mem_cons_self), map_page _ _ _ _, ?_⟩
  rw [length_eventRows]
  rfl

/-- `GET /events` shows the events that a query matches. -/
theorem listing_events {query : EventQuery} {clauses : List EventClause}
    (hq : query.where_ = .ok clauses) :
    Listing (fun offset => listEvents { query with offset := offset }) EventListResponse.answer
      query.limit (eventRows clauses) id where
  page := by
    intro db offset seen response _ h
    obtain ⟨s, s', rfl, hlater, hitems, hmore⟩ :=
      @listEvents_inv { query with offset := offset } _ hq _ _ _ h
    refine ⟨hlater, (List.map_id _).trans hitems, fun hsame => ?_⟩
    obtain rfl : s = s' := hsame s List.mem_cons_self
    exact hmore
  grows hdb h := eventRows_sublist hdb h clauses

/-- A client that pages through the events receives every event that matched when it began, in order,
whatever commits in the meantime, and no other than stored ones that match. -/
theorem event_feed_complete {db : Database} (h : Reachable db) {query : EventQuery}
    (hl : 0 < query.limit) {clauses : List EventClause} (hq : query.where_ = .ok clauses)
    (client : Client) {pages : List (List EventOut)}
    (hpages : FeedLoop (Asked client query.limit
      (fun offset => listEvents { query with offset := offset }) EventListResponse.answer)
        query.limit db 0 pages) :
    (eventRows clauses db).Sublist pages.flatten ∧
      ∀ item ∈ pages.flatten, ∃ db', Later db db' ∧ ∃ row ∈ db'.events.rows,
        selectsEvent clauses row = true ∧ eventOut row = item := by
  have hfeed := (listing_events hq).feed hl client
  refine ⟨?_, fun item hitem => ?_⟩
  · have hsub := hpages.sublist hfeed h
    rwa [List.drop_zero, List.map_id] at hsub
  · obtain ⟨db', hlater, hmem⟩ := hpages.mem_rows hfeed h item hitem
    obtain ⟨row, hrow, heq⟩ := List.mem_map.1 hmem
    rw [mem_orderBy, List.mem_filter] at hrow
    exact ⟨db', hlater, row, hrow.1, hrow.2, heq⟩

/-- A batch that commits between the total and the page. -/
theorem later_onceInitiated :
    Later onceInitiated (onceInitiated.applyAll "" [repricedEvent]) := .single ingests_onceInitiated

/-- A careful client pages through two events, one to a page. After the first page, a later event is
committed inside the second request, and the client sees the first event again. -/
theorem event_feed_complete_torn :
    let db := Database.empty.applyAll exampleEvent.timestamp [exampleEvent, repricedEvent]
    ∃ pages, FeedLoop (Asked .careful 1 (fun offset => listEvents { limit := 1, offset := offset })
        EventListResponse.answer) 1 db 0 pages ∧
      (pages.map fun page => page.map EventOut.event_id) =
        [[exampleEvent.event_id], [exampleEvent.event_id], ["repriced"], []] ∧
      (eventRows [] db).Sublist pages.flatten := by
  intro db
  have hr : Reachable db := ⟨_, Run.empty.ingest _ _⟩
  have hwhere : ∀ offset, ({ limit := 1, offset := offset } : EventQuery).where_ = .ok [] := fun _ => rfl
  have hlater : Later db (db.applyAll processedNextDay.timestamp [processedNextDay]) :=
    .single (.applyAll hr.checked _ _)
  have hloop : FeedLoop (Asked .careful 1 (fun offset => listEvents { limit := 1, offset := offset })
      EventListResponse.answer) 1 db 0 _ :=
    .more ⟨_, _, listEvents_reads .refl (hwhere 0), rfl, rfl, by decide +kernel⟩
      (.more ⟨_, _, listEvents_reads hlater (hwhere 1), rfl, rfl, by decide +kernel⟩
        (.more ⟨_, _, listEvents_reads .refl (hwhere 2), rfl, rfl, by decide +kernel⟩
          (.last ⟨_, _, listEvents_reads .refl (hwhere 3), rfl, rfl, by decide +kernel⟩)))
  have hcomplete := event_feed_complete hr (show 0 < ({ limit := 1 } : EventQuery).limit by decide)
    (hwhere 0) .careful hloop
  exact ⟨_, hloop, by decide +kernel, hcomplete.1⟩

/-! ## Transactions -/

/-- A query whose matches stay: what it sorts by never changes, and what it filters by does not go back. -/
structure TransactionQuery.Lasting (query : TransactionQuery) : Prop where
  /-- The column stays. -/
  sort_by : query.sort_by ∈ [.amount, .merchant_id, .transaction_id]
  /-- With a status, every later one. -/
  status : ∀ values ∈ query.status, ∀ s ∈ values, ∀ s', s.rank ≤ s'.rank → s' ∈ values
  /-- With a status of the payment leg, every later one. -/
  payment_status : ∀ values ∈ query.payment_status, ∀ p ∈ values, ∀ p', p.Le p' → p' ∈ values
  /-- With what is pending, what is settled. -/
  settlement_status : ∀ values ∈ query.settlement_status,
    SettlementStatus.pending ∈ values → SettlementStatus.settled ∈ values
  /-- First times move back. -/
  date_from : query.date_field ≠ .last_event_at → query.date_from = none
  /-- The last time moves on. -/
  date_to : query.date_field = .last_event_at → query.date_to = none
  /-- Replays are not taken back. -/
  has_duplicates : query.has_duplicates ≠ some false

/-- The filter that a query stands for. -/
theorem TransactionQuery.exists_filter {query : TransactionQuery} {where_ : Condition}
    (h : query.where_ = .ok where_) :
    ∃ window min_amount max_amount, resolveWindow query.date_from query.date_to = .ok window ∧
      where_ = buildTransactionFilters
        { merchant_id := query.merchant_id
          status := query.status.map fun values => values.map TransactionStatus.value
          payment_status := query.payment_status.map fun values => values.map PaymentStatus.value
          settlement_status :=
            query.settlement_status.map fun values => values.map SettlementStatus.value
          currency := (query.currency.filter fun currency => currency ≠ "").map upper
          date_from := window.1
          date_to := window.2
          date_field := query.date_field
          min_amount_minor := min_amount
          max_amount_minor := max_amount
          has_duplicates := query.has_duplicates } := by
  unfold TransactionQuery.where_ at h
  dsimp only at h
  -- Whether both bounds are given, and in order, decides on an error only.
  split at h
  on_goal 1 => split_ifs at h
  on_goal 1 => cases h
  all_goals
    obtain ⟨window, hwindow, h⟩ := exists_of_bind_eq_ok h
    obtain ⟨min_amount, _, h⟩ := exists_of_bind_eq_ok h
    obtain ⟨max_amount, _, h⟩ := exists_of_bind_eq_ok h
    exact ⟨window, min_amount, max_amount, hwindow, (Except.ok.inj h).symm⟩

/-- A bound that is not given is not there. -/
theorem resolveWindow_none {date_from date_to : Option String}
    {window : Option String × Option String} (h : resolveWindow date_from date_to = .ok window) :
    (date_from = none → window.1 = none) ∧ (date_to = none → window.2 = none) := by
  unfold resolveWindow at h
  obtain ⟨lower, hlower, h⟩ := exists_of_bind_eq_ok h
  obtain ⟨upper, hupper, h⟩ := exists_of_bind_eq_ok h
  have hwindow : window = (lower, upper) := by
    split at h
    · split_ifs at h
      exact (Except.ok.inj h).symm
    · exact (Except.ok.inj h).symm
  rw [hwindow]
  refine ⟨?_, ?_⟩
  · rintro rfl
    exact (Except.ok.inj hlower).symm
  · rintro rfl
    exact (Except.ok.inj hupper).symm

/-- A list of values that is closed upwards keeps the rows that it selects. -/
theorem mem_values_of_le {α : Type} {value : α → String} (hinj : Function.Injective value)
    {le : α → α → Prop} {values : Option (List α)}
    (hclosed : ∀ vs ∈ values, ∀ a ∈ vs, ∀ a', le a a' → a' ∈ vs) {a a' : α} (hle : le a a')
    (h : ∀ vs ∈ values.map fun vs => vs.map value, vs ≠ [] → value a ∈ vs) :
    ∀ vs ∈ values.map fun vs => vs.map value, vs ≠ [] → value a' ∈ vs := by
  intro vs hvs hne
  have hmem := h vs hvs hne
  obtain ⟨vs', hvs', rfl⟩ := Option.mem_map.1 hvs
  obtain ⟨b, hb, heq⟩ := List.mem_map.1 hmem
  obtain rfl := hinj heq
  exact List.mem_map_of_mem (hclosed vs' hvs' b hb a' hle)

/-- What a lasting query selects, it selects later. -/
theorem TransactionQuery.Lasting.selects {query : TransactionQuery} (hlast : query.Lasting)
    {where_ : Condition} (hq : query.where_ = .ok where_) {t t' : TransactionRow}
    (hadv : Advances t t') (h : where_.selects t = true) : where_.selects t' = true := by
  obtain ⟨window, min_amount, max_amount, hwindow, rfl⟩ := TransactionQuery.exists_filter hq
  rw [selects_iff_matches] at h ⊢
  have hnone := resolveWindow_none hwindow
  -- The time of a kind that is there stays there, on the right side of the bound.
  have hdate : ∀ date ∈ query.date_field.read t, ∃ date' ∈ query.date_field.read t',
      (query.date_field ≠ .last_event_at → date' ≤ date) ∧
        (query.date_field = .last_event_at → date ≤ date') := by
    intro date hdate
    cases hfield : query.date_field with
    | first_event_at =>
      rw [hfield] at hdate
      obtain rfl := Option.some.inj hdate
      exact ⟨_, rfl, fun _ => hadv.first_event_at, nofun⟩
    | last_event_at =>
      rw [hfield] at hdate
      obtain rfl := Option.some.inj hdate
      exact ⟨_, rfl, fun h => absurd rfl h, fun _ => hadv.last_event_at⟩
    | initiated_at =>
      rw [hfield] at hdate
      obtain ⟨date', hdate', hle⟩ := hadv.occurrence .payment_initiated date hdate
      exact ⟨date', hdate', fun _ => hle, nofun⟩
    | settled_at =>
      rw [hfield] at hdate
      obtain ⟨date', hdate', hle⟩ := hadv.occurrence .settled date hdate
      exact ⟨date', hdate', fun _ => hle, nofun⟩
  have hstatus : Function.Injective TransactionStatus.value := by
    intro s s' heq
    cases s <;> cases s' <;> first | rfl | (revert heq; decide)
  have hpayment : Function.Injective PaymentStatus.value := by
    intro p p' heq
    cases p <;> cases p' <;> first | rfl | (revert heq; decide)
  have hsettlement : Function.Injective SettlementStatus.value := by
    intro s s' heq
    cases s <;> cases s' <;> first | rfl | (revert heq; decide)
  have hsettled : ∀ values ∈ query.settlement_status, ∀ s ∈ values, ∀ s',
      (s = .settled → s' = .settled) → s' ∈ values := by
    intro values hvalues s hs s' hle
    cases s with
    | pending =>
      cases s' with
      | pending => exact hs
      | settled => exact hlast.settlement_status values hvalues hs
    | settled =>
      obtain rfl := hle rfl
      exact hs
  constructor
  · exact hadv.merchant_id ▸ h.merchant_id
  · exact mem_values_of_le hstatus hlast.status hadv.status h.status
  · exact mem_values_of_le hpayment hlast.payment_status hadv.payment_status h.payment_status
  · exact mem_values_of_le hsettlement hsettled hadv.settlement_status h.settlement_status
  · exact hadv.currency ▸ h.currency
  · intro lower hlower hne
    obtain ⟨date, hread, hle⟩ := h.date_from lower hlower hne
    obtain ⟨date', hread', -, hlate⟩ := hdate date hread
    by_cases hfield : query.date_field = .last_event_at
    · exact ⟨date', hread', hle.trans (hlate hfield)⟩
    · rw [Option.mem_def, hnone.1 (hlast.date_from hfield)] at hlower
      cases hlower
  · intro upper hupper hne
    obtain ⟨date, hread, hle⟩ := h.date_to upper hupper hne
    obtain ⟨date', hread', hearly, -⟩ := hdate date hread
    by_cases hfield : query.date_field = .last_event_at
    · rw [Option.mem_def, hnone.2 (hlast.date_to hfield)] at hupper
      cases hupper
    · exact ⟨date', hread', (hearly hfield).trans hle⟩
  · exact hadv.amount_minor ▸ h.min_amount
  · exact hadv.amount_minor ▸ h.max_amount
  · intro has hhas
    have hbefore := h.has_duplicates has hhas
    cases has with
    | true => exact ⟨fun _ => (hbefore.1 rfl).trans_le hadv.duplicate_event_count, fun _ => rfl⟩
    | false => exact absurd hhas hlast.has_duplicates

/-- The answer in a page of transactions. -/
def TransactionListResponse.answer (response : TransactionListResponse) : Answer TransactionOut :=
  ⟨response.items, response.pagination.total, response.pagination.has_more⟩

/-- The transactions that a query matches, in its order. -/
def transactionRows (where_ : Condition) (sort_by : TransactionSort) (sort_order : SortOrder)
    (db : Database) : List (TransactionRow × String) :=
  orderBy (sort_by.keys sort_order) (db.joined.filter fun r => where_.selects r.1)

/-- The transactions that a query matches, by their ids. -/
def transactionIds (where_ : Condition) (sort_by : TransactionSort) (sort_order : SortOrder)
    (db : Database) : List String :=
  (transactionRows where_ sort_by sort_order db).map fun r => r.1.transaction_id

/-- The rows of the list are the transactions that match, each with the name of its merchant. -/
theorem mem_transactionRows {where_ : Condition} {sort_by : TransactionSort} {sort_order : SortOrder}
    {db : Database} {r : TransactionRow × String} :
    r ∈ transactionRows where_ sort_by sort_order db ↔ r.1 ∈ db.transactions.rows ∧
      (db.merchants.find? r.1.merchant_id).map MerchantRow.merchant_name = some r.2 ∧
      where_.selects r.1 = true := by
  rw [transactionRows, mem_orderBy, List.mem_filter, Database.joined, List.mem_filterMap, ← and_assoc]
  refine and_congr_left fun _ => ?_
  constructor
  · rintro ⟨t, ht, heq⟩
    obtain ⟨m, hm, rfl⟩ := Option.map_eq_some_iff.1 heq
    exact ⟨ht, by rw [hm, Option.map_some]⟩
  · rintro ⟨hmem, hname⟩
    obtain ⟨m, hm, heq⟩ := Option.map_eq_some_iff.1 hname
    exact ⟨r.1, hmem, by rw [hm, Option.map_some, heq]⟩

/-- A matching transaction has a merchant, and so a row. -/
theorem exists_transactionRow {db : Database} (hp : db.Projected) {where_ : Condition}
    {t : TransactionRow} (ht : t ∈ db.transactions.rows) (hsel : where_.selects t = true)
    (sort_by : TransactionSort) (sort_order : SortOrder) :
    ∃ name, (t, name) ∈ transactionRows where_ sort_by sort_order db := by
  obtain ⟨m, hm⟩ := hp.merchant_of_transaction ht
  exact ⟨m.merchant_name, mem_transactionRows.2 ⟨ht, by rw [hm, Option.map_some], hsel⟩⟩

/-- There are as many ids as the count says. -/
theorem length_transactionIds {db : Database} (hp : db.Projected) (where_ : Condition)
    (sort_by : TransactionSort) (sort_order : SortOrder) :
    (transactionIds where_ sort_by sort_order db).length = countTransactions where_ db := by
  have hmatching := hp.joined_filter_map_fst where_.selects
  rw [transactionIds, List.length_map, transactionRows, length_orderBy, countTransactions, ← hmatching,
    List.length_map]

/-- A column that stays. -/
theorem TransactionQuery.Lasting.column {query : TransactionQuery} (hlast : query.Lasting)
    {t t' : TransactionRow} (hadv : Advances t t') (hid : t'.transaction_id = t.transaction_id) :
    query.sort_by.column t' = query.sort_by.column t := by
  have hmem := hlast.sort_by
  simp only [List.mem_cons, List.not_mem_nil, or_false] at hmem
  rcases hmem with h | h | h <;> rw [h]
  · exact congrArg (fun n => some (Value.int n)) hadv.amount_minor
  · exact congrArg (fun s => some (Value.text s)) hadv.merchant_id
  · exact congrArg (fun s => some (Value.text s)) hid

/-- The transactions that a lasting query matches stay, and keep their order. -/
theorem transactionIds_sublist {db db' : Database} (hdb : Reachable db) (h : Later db db')
    {query : TransactionQuery} (hlast : query.Lasting) {where_ : Condition}
    (hq : query.where_ = .ok where_) :
    (transactionIds where_ query.sort_by query.sort_order db).Sublist
      (transactionIds where_ query.sort_by query.sort_order db') := by
  -- The column that decides, with the id.
  let named (r : TransactionRow × String) : Option Value × String :=
    (query.sort_by.column r.1, r.1.transaction_id)
  have hsorted : ∀ db, Reachable db →
      SortedBy (ρ := Option Value × String) ⟨Prod.fst, query.sort_order == .desc⟩
        (fun a b => a.2 < b.2)
        ((transactionRows where_ query.sort_by query.sort_order db).map named) := by
    intro db hdb
    refine sortedBy_map (fun _ => rfl) rfl (fun _ => rfl) (sortedBy_orderBy ?_)
    exact db.transactions.nodup_of_map_eq_filter (hdb.projected.joined_filter_map_fst where_.selects)
  have hids : ∀ db, transactionIds where_ query.sort_by query.sort_order db =
      ((transactionRows where_ query.sort_by query.sort_order db).map named).map Prod.snd := by
    intro db
    rw [List.map_map]
    rfl
  rw [hids, hids]
  refine (sublist_of_sortedBy (hsorted db hdb) (hsorted db' (h.reachable hdb)) ?_).map _
  intro name hname
  obtain ⟨r, hr, rfl⟩ := List.mem_map.1 hname
  obtain ⟨hmem, -, hsel⟩ := mem_transactionRows.1 hr
  -- The row of the transaction is there later.
  obtain ⟨t', ht', hadv⟩ := (h.grows hdb).transactions _ r.1 (Table.find?_key hmem)
  obtain ⟨hmem', hid⟩ := Table.find?_eq_some.1 ht'
  obtain ⟨name', hr'⟩ := exists_transactionRow (h.reachable hdb).projected hmem'
    (hlast.selects hq hadv hsel) query.sort_by query.sort_order
  exact List.mem_map.2 ⟨(t', name'), hr', Prod.ext (hlast.column hadv hid) hid⟩

/-- The run of a request for transactions: a statement for the total, and one for the page. -/
theorem getTransactions_inv {query : TransactionQuery} {where_ : Condition}
    (hq : query.accepted = .ok where_) {db : Database} {seen : List Database}
    {response : TransactionListResponse}
    (h : Reading.Reads Ingests (getTransactions query) db seen (.ok response)) :
    ∃ s s', seen = [s, s'] ∧ Later db s ∧ Later db s' ∧
      response.items = (listTransactions where_ query.sort_by query.sort_order query.limit
        query.offset s').map transactionOut ∧
      response.pagination.has_more =
        decide (query.offset + response.items.length < countTransactions where_ s) := by
  obtain ⟨where', hw, hfits⟩ := exists_of_bind_eq_ok hq
  split_ifs at hfits with hall
  obtain rfl := Except.ok.inj hfits
  rw [getTransactions, hw, Reading.calling_ok_bind] at h
  simp only [Condition.query, if_pos hall] at h
  have hlater := h.later_of_mem
  -- The count reads one database, and the list of rows a later one.
  obtain ⟨s, seen', rfl, _, h⟩ := Reading.Reads.stmt_inv h
  obtain ⟨s', seen'', rfl, _, h⟩ := Reading.Reads.stmt_inv h
  obtain ⟨rfl, hresponse⟩ := Reading.Reads.ret_inv h
  obtain rfl := Except.ok.inj hresponse
  refine ⟨s, s', rfl, hlater s List.mem_cons_self,
    hlater s' (List.mem_cons_of_mem _ List.mem_cons_self), rfl, ?_⟩
  rw [List.length_map]
  rfl

/-- `GET /transactions` shows the transactions that a lasting query matches. -/
theorem listing_transactions {query : TransactionQuery} (hlast : query.Lasting) {where_ : Condition}
    (hq : query.accepted = .ok where_) :
    Listing (fun offset => getTransactions { query with offset := offset })
      TransactionListResponse.answer query.limit
      (transactionIds where_ query.sort_by query.sort_order) TransactionOut.transaction_id where
  page := by
    intro db offset seen response hdb h
    obtain ⟨s, s', rfl, hs, hlater, hitems, hmore⟩ :=
      @getTransactions_inv { query with offset := offset } _ hq _ _ _ h
    refine ⟨hlater, ?_, fun hsame => ?_⟩
    · show response.items.map _ = _
      rw [hitems, List.map_map, listTransactions, map_page]
      rfl
    -- Where nothing committed between the two statements, the total is that of the page.
    · obtain rfl : s = s' := hsame s List.mem_cons_self
      refine hmore.trans ?_
      rw [← length_transactionIds (hs.reachable hdb).projected]
      rfl
  grows hdb h := by
    obtain ⟨where', hw, hfits⟩ := exists_of_bind_eq_ok hq
    split_ifs at hfits
    obtain rfl := Except.ok.inj hfits
    exact transactionIds_sublist hdb h hlast hw

/-- A client that pages through the transactions by a lasting query receives every transaction that
matched when it began, in order, whatever commits in the meantime. -/
theorem transaction_feed_complete {db : Database} (h : Reachable db) {query : TransactionQuery}
    (hl : 0 < query.limit) (hlast : query.Lasting) {where_ : Condition}
    (hq : query.accepted = .ok where_) (client : Client) {pages : List (List TransactionOut)}
    (hpages : FeedLoop (Asked client query.limit
      (fun offset => getTransactions { query with offset := offset }) TransactionListResponse.answer)
        query.limit db 0 pages) :
    (transactionIds where_ query.sort_by query.sort_order db).Sublist
        (pages.flatten.map TransactionOut.transaction_id) ∧
      ∀ t ∈ db.transactions.rows, where_.selects t = true →
        ∃ item ∈ pages.flatten, item.transaction_id = t.transaction_id := by
  have hsub := hpages.sublist ((listing_transactions hlast hq).feed hl client) h
  rw [List.drop_zero] at hsub
  refine ⟨hsub, fun t ht hsel => ?_⟩
  obtain ⟨name, hrow⟩ :=
    exists_transactionRow h.projected ht hsel query.sort_by query.sort_order
  exact List.mem_map.1 (hsub.subset (List.mem_map_of_mem hrow))

/-- What is settled or has failed, in the order of the ids, one on a page. -/
def finishedQuery : TransactionQuery :=
  { status := some [.settled, .failed], sort_by := .transaction_id, sort_order := .asc, limit := 1 }

/-- What has been finished stays so. -/
theorem lasting_finishedQuery : finishedQuery.Lasting where
  sort_by := by decide
  status := by
    intro values hvalues s hs s' hle
    obtain rfl := Option.some.inj hvalues
    revert hs hle
    cases s <;> cases s' <;> decide
  payment_status _ h := absurd h (Option.not_mem_none _)
  settlement_status _ h := absurd h (Option.not_mem_none _)
  date_from _ := rfl
  date_to _ := rfl
  has_duplicates := by decide

/-- Two transactions are finished, and a third one is settled between the two pages: the client sees
`d` again. -/
theorem transaction_feed_complete_moved : ∃ pages : List (List TransactionOut),
    (pages.map fun page => page.map TransactionOut.transaction_id) = [["d"], ["d"], ["e"], []] ∧
      (transactionIds (buildTransactionFilters { status := some ["settled", "failed"] })
        .transaction_id .asc settledAndStuck).Sublist
          (pages.flatten.map TransactionOut.transaction_id) := by
  have hq : ∀ offset, ({ finishedQuery with offset := offset } : TransactionQuery).accepted =
      .ok (buildTransactionFilters { status := some ["settled", "failed"] }) := fun _ => rfl
  let settled := settledAndStuck.applyAll "" [sampleEvent "7" "c" .settled]
  have hlater : Later settledAndStuck settled :=
    .single (.applyAll reachable_settledAndStuck.checked _ _)
  have hloop : FeedLoop (Asked .careful 1
      (fun offset => getTransactions { finishedQuery with offset := offset })
        TransactionListResponse.answer) 1 settledAndStuck 0 _ :=
    .more ⟨_, _, getTransactions_reads .refl (hq 0), rfl, rfl, by decide +kernel⟩
      (.more ⟨_, _, getTransactions_reads hlater (hq 1), rfl, rfl, by decide +kernel⟩
        (.more ⟨_, _, getTransactions_reads .refl (hq 2), rfl, rfl, by decide +kernel⟩
          (.last ⟨_, _, getTransactions_reads .refl (hq 3), rfl, rfl, by decide +kernel⟩)))
  have hcomplete := transaction_feed_complete reachable_settledAndStuck
    (show 0 < finishedQuery.limit by decide) lasting_finishedQuery (hq 0) .careful hloop
  exact ⟨_, by decide +kernel, hcomplete.1⟩

/-! ## Discrepancies -/

/-- A report whose rows stay: it asks for discrepancies that last, and sorts by what never changes. -/
structure DiscrepancyQuery.Lasting (query : DiscrepancyQuery) : Prop where
  /-- Some types are asked for. -/
  some_type : query.type ≠ []
  /-- They last. -/
  type : ∀ type ∈ query.type, type.Lasting
  /-- The column stays. -/
  sort_by : query.sort_by ∈ [.amount, .transaction_id]
  /-- Every severity is shown. -/
  severity : query.severity = none
  /-- First times move back. -/
  lower : query.lower = none

namespace DiscrepancyQuery.Lasting

variable {query : DiscrepancyQuery} (hlast : query.Lasting)
include hlast

/-- The requested types are the selected ones, as there are some. -/
theorem selectedTypes : query.selectedTypes = query.type := if_neg hlast.some_type

/-- A transaction that the filter selects is selected when it has advanced. -/
theorem selects {t t' : TransactionRow} (hadv : Advances t t') (h : query.filter.selects t = true) :
    query.filter.selects t' = true := by
  rw [DiscrepancyQuery.filter, selects_iff_matches] at h ⊢
  refine ⟨hadv.merchant_id ▸ h.merchant_id, nofun, nofun, nofun, nofun, ?_, ?_, nofun, nofun, nofun⟩
  · intro lower hlower
    rw [hlast.lower] at hlower
    cases hlower
  · intro upper hupper hne
    obtain ⟨date, hdate, hle⟩ := h.date_to upper hupper hne
    obtain rfl := Option.some.inj hdate
    exact ⟨_, rfl, hadv.first_event_at.trans hle⟩

/-- The column of the sort stays when a transaction advances. -/
theorem column {t t' : TransactionRow} (hadv : Advances t t')
    (hid : t'.transaction_id = t.transaction_id) (c c' name name' : String) :
    query.sort_by.column (flagRow c' t' name') = query.sort_by.column (flagRow c t name) := by
  have hmem := hlast.sort_by
  simp only [List.mem_cons, List.not_mem_nil, or_false] at hmem
  rcases hmem with h | h <;> rw [h]
  · exact congrArg Value.int hadv.amount_minor
  · exact congrArg Value.text hid

/-- Rows with lasting discrepancies are of one severity. -/
theorem severity_rank {r : FlaggedRow} (h : r.selected query.selectedTypes = true) :
    r.severity_rank = 3 := by
  rw [hlast.selectedTypes, FlaggedRow.selected, List.any_eq_true] at h
  obtain ⟨type, htype, hflag⟩ := h
  have hhigh : type.severity = .high := by
    have := hlast.type type htype
    revert this
    cases type <;> decide
  have hhas : r.HasSeverity .high := ⟨type, of_decide_eq_true hflag, hhigh⟩
  rcases r.severity_rank_cases with h | h | h
  · exact h.1
  · exact absurd hhas h.2.1
  · exact absurd hhas h.2.1

end DiscrepancyQuery.Lasting

/-- The transactions of a report, by their ids. -/
def DiscrepancyQuery.ids (query : DiscrepancyQuery) (cutoff : String) (db : Database) : List String :=
  (reportRows db query.filter query.selectedTypes cutoff query.sort_by query.sort_order).map
    fun r => r.t.transaction_id

/-- The transactions of a lasting report stay, and keep their order, whatever the cutoffs. -/
theorem DiscrepancyQuery.ids_sublist {query : DiscrepancyQuery} (hlast : query.Lasting)
    {db db' : Database} (hdb : Reachable db) (h : Later db db') (c c' : String) :
    (query.ids c db).Sublist (query.ids c' db') := by
  let rows (c : String) (db : Database) : List FlaggedRow :=
    reportRows db query.filter query.selectedTypes c query.sort_by query.sort_order
  let named (r : FlaggedRow) : Option Value × String :=
    (some (query.sort_by.column r), r.t.transaction_id)
  have hsecond : query.sort_by.secondKey = ⟨fun r => some (.int r.severity_rank), true⟩ := by
    have hmem := hlast.sort_by
    simp only [List.mem_cons, List.not_mem_nil, or_false] at hmem
    rcases hmem with h | h <;> rw [h] <;> rfl
  have hsorted : ∀ db, Reachable db → ∀ c,
      SortedBy (ρ := Option Value × String) ⟨Prod.fst, query.sort_order == .desc⟩
        (fun a b => a.2 < b.2) ((rows c db).map named) := by
    intro db hdb c
    refine sortedBy_map (k := query.sort_by.key query.sort_order) (fun _ => rfl) rfl (fun _ => rfl)
      ((hdb.projected.sorted_reportRows query c).2.imp_of_mem fun {r r'} hr hr' hle => ?_)
    refine ⟨hle.1, fun heq => (hle.2 heq).2 ?_⟩
    -- The severities do not tell the rows apart.
    rw [hsecond]
    dsimp only
    rw [hlast.severity_rank (mem_reportRows.1 hr).2, hlast.severity_rank (mem_reportRows.1 hr').2]
  have hids : ∀ c db, query.ids c db = ((rows c db).map named).map Prod.snd := by
    intro c db
    rw [List.map_map]
    rfl
  rw [hids, hids]
  refine (sublist_of_sortedBy (hsorted db hdb c) (hsorted db' (h.reachable hdb) c') ?_).map _
  intro name hname
  obtain ⟨r, hr, rfl⟩ := List.mem_map.1 hname
  obtain ⟨hflagged, hselected⟩ := mem_reportRows.1 hr
  obtain ⟨type, htype, hfound⟩ := (selected_iff hflagged _).1 hselected
  obtain ⟨t, m, ht, -, hsel, rfl⟩ := mem_flagged.1 hflagged
  obtain ⟨t', ht', hadv⟩ := (h.grows hdb).transactions _ t (Table.find?_key ht)
  obtain ⟨hmem', hid⟩ := Table.find?_eq_some.1 ht'
  obtain ⟨m', hm'⟩ := (h.reachable hdb).projected.merchant_of_transaction hmem'
  have hflagged' : flagRow c' t' m'.merchant_name ∈ flagged db' query.filter c' :=
    mem_flagged.2 ⟨t', m', hmem', hm', hlast.selects hadv hsel, rfl⟩
  have hlasting : type.Lasting := hlast.type type (hlast.selectedTypes ▸ htype)
  refine List.mem_map.2 ⟨_, mem_reportRows.2 ⟨hflagged', (selected_iff hflagged' _).2
    ⟨type, htype, hadv.found hlasting hfound c'⟩⟩, ?_⟩
  exact Prod.ext (congrArg some (hlast.column hadv hid _ _ _ _)) hid

/-- The cutoff does not matter to a lasting report. -/
theorem DiscrepancyQuery.ids_eq {query : DiscrepancyQuery} (hlast : query.Lasting) {db : Database}
    (hdb : Reachable db) (c c' : String) : query.ids c db = query.ids c' db :=
  (query.ids_sublist hlast hdb .refl c c').antisymm (query.ids_sublist hlast hdb .refl c' c)

/-- The answer in a page of a report. -/
def DiscrepancyResponse.answer (response : DiscrepancyResponse) : Answer DiscrepancyItem :=
  ⟨response.items, response.pagination.total, response.pagination.has_more⟩

/-- The run of a request for a report: a statement for the total, one for the counts, and one for the
page. -/
theorem readDiscrepancyReport_inv {query : DiscrepancyQuery} (hs : query.severity = none) {now : Utc}
    {db : Database} {seen : List Database} {response : DiscrepancyResponse}
    (h : Reading.Reads Ingests (readDiscrepancyReport now query) db seen (.ok response)) :
    ∃ s s' s'' cutoff, seen = [s, s', s''] ∧ Later db s ∧ Later db s'' ∧
      response.items = (page query.limit query.offset
        (reportRows s'' query.filter query.selectedTypes cutoff query.sort_by query.sort_order)).map
          (shapeDiscrepancyRow query.selectedTypes) ∧
      response.pagination.has_more = decide (query.offset + response.items.length <
        (reportRows s query.filter query.selectedTypes cutoff query.sort_by query.sort_order).length) := by
  rw [readDiscrepancyReport] at h
  cases hcutoff : (query.as_of.getD now).minusHours query.stale_after_hours with
  | none =>
    rw [hcutoff, Option.elim_none] at h
    cases (Reading.Reads.ret_inv h).2
  | some cutoff =>
    rw [hcutoff, Option.elim_some, Reading.calling_ok_bind] at h
    have hlater := h.later_of_mem
    -- The total, the counts by type, and the rows: three statements, each on a database of its own.
    obtain ⟨s, _, rfl, _, h⟩ := Reading.Reads.stmt_inv h
    obtain ⟨s', _, rfl, _, h⟩ := Reading.Reads.stmt_inv h
    obtain ⟨s'', _, rfl, _, h⟩ := Reading.Reads.stmt_inv h
    obtain ⟨rfl, hresponse⟩ := Reading.Reads.ret_inv h
    obtain rfl := Except.ok.inj hresponse
    refine ⟨s, s', s'', formatTs cutoff, rfl, hlater s (by simp), hlater s'' (by simp), ?_, ?_⟩
    · rw [DiscrepancyQuery.shape, hs]
      rfl
    · rw [DiscrepancyQuery.shape, hs, ← discrepancies_total query.limit query.offset]
      rfl

/-- `GET /reconciliation/discrepancies` shows the transactions of a lasting report. -/
theorem listing_discrepancies {query : DiscrepancyQuery} (hlast : query.Lasting) (now : ℕ → Utc) :
    Listing (fun offset => readDiscrepancyReport (now offset) { query with offset := offset })
      DiscrepancyResponse.answer query.limit (query.ids "") DiscrepancyItem.transaction_id where
  page := by
    intro db offset seen response hdb h
    obtain ⟨s, s', s'', cutoff, rfl, hs, hlater, hitems, hmore⟩ :=
      @readDiscrepancyReport_inv { query with offset := offset } hlast.severity _ _ _ _ h
    have hids : ∀ db, Reachable db → query.ids "" db = query.ids cutoff db := fun db hdb =>
      query.ids_eq hlast hdb _ _
    refine ⟨hlater, ?_, fun hsame => ?_⟩
    · show response.items.map _ = page _ _ (query.ids "" s'')
      rw [hitems, List.map_map, hids s'' (hlater.reachable hdb), DiscrepancyQuery.ids, ← map_page]
      rfl
    · obtain rfl : s = s'' := hsame s List.mem_cons_self
      refine hmore.trans ?_
      show _ = decide (_ < (query.ids "" s).length)
      rw [hids s (hs.reachable hdb), DiscrepancyQuery.ids, List.length_map]
      rfl
  grows hdb h := query.ids_sublist hlast hdb h _ _

/-- A client that pages through a lasting report receives every transaction that had one of its
discrepancies when it began, in order, whatever commits in the meantime and whatever the time. -/
theorem discrepancy_feed_complete {db : Database} (h : Reachable db) {query : DiscrepancyQuery}
    (hl : 0 < query.limit) (hlast : query.Lasting) (now : ℕ → Utc) (client : Client)
    {pages : List (List DiscrepancyItem)}
    (hpages : FeedLoop (Asked client query.limit
      (fun offset => readDiscrepancyReport (now offset) { query with offset := offset })
        DiscrepancyResponse.answer) query.limit db 0 pages) (cutoff : String) :
    (query.ids cutoff db).Sublist (pages.flatten.map DiscrepancyItem.transaction_id) ∧
      ∀ t ∈ query.matching db cutoff,
        ∃ item ∈ pages.flatten, item.transaction_id = t.transaction_id := by
  have hsub := hpages.sublist ((listing_discrepancies hlast now).feed hl client) h
  rw [List.drop_zero, query.ids_eq hlast h "" cutoff] at hsub
  refine ⟨hsub, fun t ht => ?_⟩
  have hperm := (h.projected.sorted_reportRows query cutoff).1
  obtain ⟨r, hr, rfl⟩ := List.mem_map.1 (hperm.mem_iff.2 ht)
  exact List.mem_map.1 (hsub.subset (List.mem_map_of_mem hr))

/-- The transactions that were settled after a failure, one on a page. -/
def reversedQuery : DiscrepancyQuery :=
  { type := [.settled_after_failure], sort_by := .transaction_id, sort_order := .asc, limit := 1 }

/-- A settlement after a failure is not taken back. -/
theorem lasting_reversedQuery : reversedQuery.Lasting where
  some_type := by decide
  type := by decide
  sort_by := by decide
  severity := rfl
  lower := rfl

/-- A settled transaction fails between the total and the page. -/
theorem discrepancy_feed_complete_failed : ∃ pages : List (List DiscrepancyItem),
    (pages.map fun page => page.map DiscrepancyItem.transaction_id) = [["d"], []] ∧
      (reversedQuery.ids (formatTs dayOfTheSamples) settledAndStuck).Sublist
        (pages.flatten.map DiscrepancyItem.transaction_id) := by
  let failed := settledAndStuck.applyAll "" [sampleEvent "7" "d" .payment_failed]
  have hlater : Later settledAndStuck failed :=
    .single (.applyAll reachable_settledAndStuck.checked _ _)
  have hcutoff : ∀ offset, (({ reversedQuery with offset := offset } : DiscrepancyQuery).as_of.getD
      twoDaysLater).minusHours 48 = some dayOfTheSamples := fun _ => twoDaysLater_minusHours
  have hloop : FeedLoop (Asked .careful 1
      (fun offset => readDiscrepancyReport twoDaysLater { reversedQuery with offset := offset })
        DiscrepancyResponse.answer) 1 settledAndStuck 0 _ :=
    .more ⟨_, _, readDiscrepancyReport_reads hlater (hcutoff 0), rfl, rfl, by decide +kernel⟩
      (.last ⟨_, _, readDiscrepancyReport_reads .refl (hcutoff 1), rfl, rfl, by decide +kernel⟩)
  have hcomplete := discrepancy_feed_complete reachable_settledAndStuck
    (show 0 < reversedQuery.limit by decide) lasting_reversedQuery (fun _ => twoDaysLater) .careful
    hloop (formatTs dayOfTheSamples)
  exact ⟨_, by decide +kernel, hcomplete.1⟩

end PaymentRecon
