import PaymentRecon.Constraints
import PaymentRecon.Convergence
import PaymentRecon.Reports
import PaymentRecon.Severities
import PaymentRecon.Sql.Join
import PaymentRecon.Summary

/-!
# `GET /merchants`

`list_merchants` joins the transactions to the merchants from the left and counts a column that is `NULL`
where there is no transaction; the summary by merchant joins the merchants to the transactions. A merchant
without transactions is in the list only. `merchants_agree` shows that the two agree on all others, and
that the list is complete: a merchant has a row exactly when a stored event names it, and every transaction
has a merchant with a row.
-/

namespace PaymentRecon

open Store Sql

/-! ## The list -/

/-- An item of the list. The amount is in minor units, which `to_major_units` divides by 100. -/
structure MerchantVolume where
  /-- The merchant. -/
  merchant_id : String
  /-- The name of the merchant. -/
  merchant_name : String
  /-- The transactions of the merchant. -/
  transaction_count : ℕ
  /-- Their amount in minor units. -/
  total_amount_minor : ℤ
deriving DecidableEq, Repr

/-- `list_merchants`. `COUNT` and `SUM` leave out `NULL`. -/
def listMerchants (db : Database) : List MerchantVolume :=
  let rows := leftJoin (fun (m : MerchantRow) (t : TransactionRow) => t.merchant_id = m.merchant_id)
    db.merchants.rows db.transactions.rows
  let key (m : MerchantRow) := (m.merchant_id, m.merchant_name)
  let groups := (rows.map fun r => key r.1).dedup.map fun k =>
    let group := (rows.filter fun r => key r.1 = k).filterMap Prod.snd
    { merchant_id := k.1
      merchant_name := k.2
      transaction_count := group.length
      total_amount_minor := (group.map TransactionRow.amount_minor).sum }
  orderBy [⟨fun m => some (.text m.merchant_id), false⟩] groups

/-- The response of `GET /merchants`. -/
structure MerchantsResponse where
  /-- The merchants. -/
  total : ℕ
  /-- The list. -/
  items : List MerchantVolume
deriving DecidableEq, Repr

/-- `merchants`. -/
def merchants : Reading Database AppError MerchantsResponse := do
  let items ← Reading.query listMerchants
  return ⟨items.length, items⟩

/-- The transactions of a merchant. -/
def transactionsOf (db : Database) (merchant_id : String) : List TransactionRow :=
  db.transactions.rows.filter fun t => t.merchant_id = merchant_id

/-- The item of a merchant. -/
def volume (db : Database) (m : MerchantRow) : MerchantVolume where
  merchant_id := m.merchant_id
  merchant_name := m.merchant_name
  transaction_count := (transactionsOf db m.merchant_id).length
  total_amount_minor := ((transactionsOf db m.merchant_id).map TransactionRow.amount_minor).sum

/-- A merchant is the only one with its id and name. -/
theorem filter_merchants {db : Database} {m : MerchantRow} (hm : m ∈ db.merchants.rows) :
    (db.merchants.rows.filter fun m' =>
      (m'.merchant_id, m'.merchant_name) = (m.merchant_id, m.merchant_name)) = [m] := by
  have hcongr : (db.merchants.rows.filter fun m' =>
      (m'.merchant_id, m'.merchant_name) = (m.merchant_id, m.merchant_name)) =
        db.merchants.rows.filter fun m' => m'.merchant_id = m.merchant_id := by
    refine List.filter_congr fun m' hm' => ?_
    rw [decide_eq_decide]
    constructor
    · intro heq
      exact (Prod.mk.inj heq).1
    · intro heq
      rw [Table.eq_of_key_eq hm' hm heq]
  rw [hcongr, db.merchants.filter_key, Table.find?_key hm, Option.toList_some]

/-- The list has the item of every merchant, once. -/
theorem listMerchants_perm (db : Database) :
    (listMerchants db).Perm (db.merchants.rows.map (volume db)) := by
  let on (m : MerchantRow) (t : TransactionRow) : Bool := t.merchant_id = m.merchant_id
  let rows := leftJoin on db.merchants.rows db.transactions.rows
  let key (m : MerchantRow) := (m.merchant_id, m.merchant_name)
  let item (k : String × String) : MerchantVolume :=
    { merchant_id := k.1
      merchant_name := k.2
      transaction_count := ((rows.filter fun r => key r.1 = k).filterMap Prod.snd).length
      total_amount_minor :=
        (((rows.filter fun r => key r.1 = k).filterMap Prod.snd).map
          TransactionRow.amount_minor).sum }
  -- The keys are those of the merchants, each once.
  have hkeys : (rows.map fun r => key r.1).dedup.Perm (db.merchants.rows.map key) := by
    refine dedup_leftJoin_perm (List.Nodup.of_map Prod.fst ?_)
    rw [List.map_map]
    exact db.merchants.nodup_keys
  -- The group of a merchant is made of its transactions.
  have hitem : ∀ m ∈ db.merchants.rows, item (key m) = volume db m := by
    intro m hm
    have hgroup : (rows.filter fun r => key r.1 = key m).filterMap Prod.snd =
        transactionsOf db m.merchant_id := by
      rw [leftJoin_filter fun m' => key m' = key m, filter_merchants hm, filterMap_leftJoin,
        List.flatMap_singleton]
      rfl
    simp only [item, hgroup]
    rfl
  have hlist : listMerchants db = orderBy [⟨fun m => some (.text m.merchant_id), false⟩]
      ((rows.map fun r => key r.1).dedup.map item) := rfl
  have hitems : (db.merchants.rows.map key).map item = db.merchants.rows.map (volume db) := by
    rw [List.map_map]
    exact List.map_congr_left hitem
  rw [hlist, ← hitems]
  exact (perm_orderBy _ _).trans (hkeys.map item)

/-- The list is in the order of the merchants. -/
theorem pairwise_listMerchants (db : Database) :
    ((listMerchants db).map MerchantVolume.merchant_id).Pairwise (· < ·) := by
  have hids : ((listMerchants db).map MerchantVolume.merchant_id).Nodup := by
    rw [((listMerchants_perm db).map MerchantVolume.merchant_id).nodup_iff, List.map_map]
    exact db.merchants.nodup_keys
  have hle : (listMerchants db).Pairwise fun m m' => m.merchant_id ≤ m'.merchant_id :=
    (pairwise_orderBy _ _).imp fun h => le_text_iff.1 h
  rw [List.pairwise_map]
  exact hle.imp₂ (fun m m' hle hne => lt_of_le_of_ne hle hne) (List.pairwise_map.1 hids)

/-- A merchant with a row is named by a stored event. -/
theorem History.exists_event {trace : List Occurrence} {db : Database} (h : History trace db)
    {merchant_id : String} (hm : db.merchants.find? merchant_id ≠ none) :
    ∃ e ∈ db.events.rows, e.merchant_id = merchant_id := by
  induction h with
  | empty => exact absurd rfl hm
  | @snoc trace db _ now event ih =>
    cases he : db.events.find? event.event_id with
    | some existing =>
      rw [Database.merchants_of_stored he] at hm
      rw [Database.events_of_stored he]
      exact ih hm
    | none =>
      rw [Database.find?_merchants_of_new he] at hm
      rw [Database.rows_events_of_new he]
      split_ifs at hm with hid
      · exact ⟨_, List.mem_append_right _ (List.mem_singleton_self _), hid.symm⟩
      · obtain ⟨e, hmem, hmerchant⟩ := ih hm
        exact ⟨e, List.mem_append_left _ hmem, hmerchant⟩

/-- The merchants of the list are those that the stored events name. -/
theorem Reachable.mem_listMerchants {db : Database} (h : Reachable db) {merchant_id : String} :
    merchant_id ∈ (listMerchants db).map MerchantVolume.merchant_id ↔
      ∃ e ∈ db.events.rows, e.merchant_id = merchant_id := by
  have hids : merchant_id ∈ (listMerchants db).map MerchantVolume.merchant_id ↔
      db.merchants.find? merchant_id ≠ none := by
    rw [((listMerchants_perm db).map MerchantVolume.merchant_id).mem_iff, List.map_map]
    exact Table.mem_keys_iff
  rw [hids]
  constructor
  · obtain ⟨_, h⟩ := h
    exact h.history.exists_event
  · rintro ⟨e, he, rfl⟩
    exact h.valid.merchant_of_event e he

/-- The items add up over all transactions. -/
theorem sum_listMerchants {db : Database} (h : db.Valid) {M : Type} [AddCommMonoid M]
    {f : List TransactionRow → M} {column : MerchantVolume → M} (hnil : f [] = 0)
    (happend : ∀ a b, f (a ++ b) = f a + f b) (hperm : ∀ {a b}, a.Perm b → f a = f b)
    (hcolumn : ∀ m, column (volume db m) = f (transactionsOf db m.merchant_id)) :
    ((listMerchants db).map column).sum = f db.transactions.rows := by
  have hkeys : ∀ t ∈ db.transactions.rows,
      t.merchant_id ∈ db.merchants.rows.map MerchantRow.merchant_id := fun t ht =>
    Table.mem_keys_iff.2 (h.merchant_of_transaction t ht)
  rw [((listMerchants_perm db).map column).sum_eq, List.map_map,
    ← sum_filter_keys hnil happend hperm TransactionRow.merchant_id db.merchants.nodup_keys hkeys,
    List.map_map]
  exact congrArg List.sum (List.map_congr_left fun m _ => hcolumn m)

/-! ## The groups by merchant -/

section

variable {db : Database} {filter : Condition}

/-- The key of a group by merchant is the id and the name of a merchant. -/
theorem exists_merchant_of_mem_groupKeys {k : List String}
    (hk : k ∈ groupKeys db filter [.merchant]) :
    ∃ m ∈ db.merchants.rows, k = [m.merchant_id, m.merchant_name] := by
  obtain ⟨r, hr, rfl⟩ := mem_sortedKeys.1 hk
  have hjoined : r ∈ db.joined := List.mem_of_mem_filter hr
  have hname := Database.name_of_mem_joined hjoined
  obtain ⟨m, hm, hmname⟩ := Option.map_eq_some_iff.1 hname
  obtain ⟨hmem, hid⟩ := Table.find?_eq_some.1 hm
  refine ⟨m, hmem, ?_⟩
  rw [hid, hmname]
  rfl

/-- The group of a merchant is made of its transactions, when all are selected. -/
theorem groupOf_merchant (h : db.Projected) (hall : ∀ t, filter.selects t = true) (cutoff : String)
    {m : MerchantRow} (hk : [m.merchant_id, m.merchant_name] ∈ groupKeys db filter [.merchant]) :
    (groupOf db filter [.merchant] cutoff [m.merchant_id, m.merchant_name]).metrics =
      metrics cutoff (transactionsOf db m.merchant_id) := by
  have hvalues : ∀ t : TransactionRow, [Dimension.merchant].map (Dimension.value t) =
      combination [.merchant] [m.merchant_id, m.merchant_name] ↔ t.merchant_id = m.merchant_id := by
    intro t
    simp [Dimension.value, combination]
  rw [h.groupOf_eq hk, groupTransactions, List.filter_eq_self.2 fun t _ => hall t]
  simp only [hvalues]
  rfl

/-- A merchant has a group when it has transactions. -/
theorem mem_groupKeys_merchant_iff (h : db.Projected) (hall : ∀ t, filter.selects t = true)
    {m : MerchantRow} (hm : m ∈ db.merchants.rows) :
    [m.merchant_id, m.merchant_name] ∈ groupKeys db filter [.merchant] ↔
      transactionsOf db m.merchant_id ≠ [] := by
  constructor
  · intro hk hnil
    obtain ⟨r, hr, hkey⟩ := mem_sortedKeys.1 hk
    obtain ⟨hmem, -⟩ := (h.exists_groupRow filter [.merchant]).1 ⟨r, hr, rfl⟩
    have hid : r.1.merchant_id = m.merchant_id := (List.cons.inj hkey).1
    have ht : r.1 ∈ transactionsOf db m.merchant_id :=
      List.mem_filter.2 ⟨hmem, decide_eq_true hid⟩
    rw [hnil] at ht
    exact absurd ht List.not_mem_nil
  · intro hne
    obtain ⟨t, ht⟩ := List.exists_mem_of_ne_nil _ hne
    obtain ⟨hmem, hid⟩ := List.mem_filter.1 ht
    obtain ⟨r, hr, rfl⟩ := (h.exists_groupRow filter [.merchant]).2 ⟨hmem, hall t⟩
    have hk : [Dimension.merchant].flatMap (Dimension.key r) ∈ groupKeys db filter [.merchant] :=
      mem_sortedKeys.2 ⟨r, hr, rfl⟩
    obtain ⟨m', hm', hkey⟩ := exists_merchant_of_mem_groupKeys hk
    -- Its key is that of the merchant with its id.
    have hid' : r.1.merchant_id = m'.merchant_id := (List.cons.inj hkey).1
    have heq : m' = m := Table.eq_of_key_eq hm' hm (hid'.symm.trans (of_decide_eq_true hid))
    rw [← heq, ← hkey]
    exact hk

/-- The group of a merchant among all groups. -/
theorem find?_merchant (h : db.Projected) (hall : ∀ t, filter.selects t = true) (cutoff : String)
    {m : MerchantRow} (hm : m ∈ db.merchants.rows) :
    ((groupKeys db filter [.merchant]).map (groupOf db filter [.merchant] cutoff)).find?
        (fun g => g.key.head? = some m.merchant_id) =
      if transactionsOf db m.merchant_id = [] then none
      else some ⟨[m.merchant_id, m.merchant_name], metrics cutoff (transactionsOf db m.merchant_id)⟩ := by
  let groups := (groupKeys db filter [.merchant]).map (groupOf db filter [.merchant] cutoff)
  -- A group whose key starts with the merchant is the group of its id and name.
  have hgroup : ∀ g ∈ groups, g.key.head? = some m.merchant_id →
      [m.merchant_id, m.merchant_name] ∈ groupKeys db filter [.merchant] ∧
        g = ⟨[m.merchant_id, m.merchant_name],
          metrics cutoff (transactionsOf db m.merchant_id)⟩ := by
    intro g hg hhead
    obtain ⟨k, hk, rfl⟩ := List.mem_map.1 hg
    obtain ⟨m', hm', rfl⟩ := exists_merchant_of_mem_groupKeys hk
    obtain rfl : m' = m := Table.eq_of_key_eq hm' hm (Option.some.inj hhead)
    refine ⟨hk, ?_⟩
    rw [← groupOf_merchant h hall cutoff hk]
    rfl
  split_ifs with hnil
  · rw [List.find?_eq_none]
    intro g hg hhead
    obtain ⟨hk, -⟩ := hgroup g hg (of_decide_eq_true hhead)
    exact (mem_groupKeys_merchant_iff h hall hm).1 hk hnil
  · have hk := (mem_groupKeys_merchant_iff h hall hm).2 hnil
    have hsome : (groups.find? fun g => g.key.head? = some m.merchant_id).isSome := by
      rw [List.find?_isSome]
      exact ⟨_, List.mem_map_of_mem hk, decide_eq_true rfl⟩
    obtain ⟨g, hg⟩ := Option.isSome_iff_exists.1 hsome
    have hhead := List.find?_some hg
    obtain ⟨-, heq⟩ := hgroup g (List.mem_of_find?_eq_some hg) (of_decide_eq_true hhead)
    rw [← heq]
    exact hg

/-- The item of a merchant is what its group says, and empty when it has none. -/
theorem group_of_volume (h : db.Projected) (hall : ∀ t, filter.selects t = true) (cutoff : String)
    {m : MerchantRow} (hm : m ∈ db.merchants.rows) :
    let group := ((groupKeys db filter [.merchant]).map (groupOf db filter [.merchant] cutoff)).find?
      fun g => g.key.head? = some m.merchant_id
    (∀ g ∈ group, g.key = [m.merchant_id, m.merchant_name]) ∧
      (volume db m).transaction_count = group.elim 0 (fun g => g.metrics.transaction_count) ∧
      (volume db m).total_amount_minor = group.elim 0 (fun g => g.metrics.total_amount_minor) := by
  intro group
  have hgroup := find?_merchant h hall cutoff hm
  change group = _ at hgroup
  rw [hgroup]
  split_ifs with hnil
  · refine ⟨fun g hg => (Option.not_mem_none g hg).elim, ?_, ?_⟩
    · simp only [volume, hnil, List.length_nil, Option.elim_none]
    · simp only [volume, hnil, List.map_nil, List.sum_nil, Option.elim_none]
  · refine ⟨fun g hg => ?_, rfl, rfl⟩
    rw [← Option.some.inj hg]

end

/-! ## The list and the summary -/

/-- What groups by the merchant alone. -/
theorem parseGroupBy_merchant : parseGroupBy "merchant" = .ok [.merchant] := by decide +kernel

/-- The query for a page of the groups by merchant, without a filter. -/
def merchantQuery (stale_after_hours limit offset : ℕ) : SummaryQuery where
  stale_after_hours := stale_after_hours
  limit := limit
  offset := offset

/-- The merchants and the summary by merchant agree. For every reachable database, `GET /merchants`
answers with a list in strictly increasing order of the merchants, which are those that a stored event
names. At any time with a cutoff, and for every page size, the groups of the unfiltered summary by
merchant, all pages put together, are groups of merchants of the list; every merchant of the list has
the count and the amount of its group, and zero when it has none; and the counts and the amounts of the
list add up to the totals. -/
theorem merchants_agree {db : Database} (h : Reachable db) {now cutoff : Utc}
    {stale_after_hours limit : ℕ} (hcutoff : now.minusHours stale_after_hours = some cutoff)
    (hl : 0 < limit) :
    ∃ (response : MerchantsResponse) (pages : ℕ → SummaryResponse),
      merchants.eval db = .ok response ∧
      (∀ offset < 2 ^ 63,
        (getSummary now (merchantQuery stale_after_hours limit offset)).eval db = .ok (pages offset)) ∧
      response.total = response.items.length ∧
      (response.items.map MerchantVolume.merchant_id).Pairwise (· < ·) ∧
      (∀ merchant_id, merchant_id ∈ response.items.map MerchantVolume.merchant_id ↔
        ∃ e ∈ db.events.rows, e.merchant_id = merchant_id) ∧
      (let groups := (offsets limit (pages 0).filters.group_count).flatMap fun offset =>
        (pages offset).groups
      (∀ g ∈ groups, ∃ item ∈ response.items, g.key = [item.merchant_id, item.merchant_name]) ∧
      ∀ item ∈ response.items,
        let group := groups.find? fun g => g.key.head? = some item.merchant_id
        (∀ g ∈ group, g.key = [item.merchant_id, item.merchant_name]) ∧
        item.transaction_count = group.elim 0 (fun g => g.metrics.transaction_count) ∧
        item.total_amount_minor = group.elim 0 (fun g => g.metrics.total_amount_minor)) ∧
      (response.items.map MerchantVolume.transaction_count).sum = (pages 0).totals.transaction_count ∧
      (response.items.map MerchantVolume.total_amount_minor).sum =
        (pages 0).totals.total_amount_minor := by
  have hp := h.projected
  let all : Condition := (merchantQuery stale_after_hours limit 0).where_ (none, none)
  have hall : ∀ t, all.selects t = true := fun t => rfl
  let summary := reconciliationSummary db all [.merchant] (formatTs cutoff) limit
  have hpages : ∀ offset, (getSummary now (merchantQuery stale_after_hours limit offset)).eval db =
      .ok ((merchantQuery stale_after_hours limit offset).response [.merchant] (none, none)
        (summary offset)) :=
    fun offset => @eval_getSummary_of_ok now cutoff (merchantQuery stale_after_hours limit offset)
      [.merchant] (none, none) parseGroupBy_merchant rfl hcutoff db
  have hgroups := flatMap_groups db all (formatTs cutoff) limit (List.cons_ne_nil .merchant []) hl
  have htotals : (summary 0).totals = metrics (formatTs cutoff) db.transactions.rows := by
    rw [reconciliationSummary_totals, List.filter_eq_self.2 fun t _ => hall t]
  have hitem : ∀ {item}, item ∈ listMerchants db ↔ ∃ m ∈ db.merchants.rows, volume db m = item := by
    intro item
    rw [(listMerchants_perm db).mem_iff, List.mem_map]
  refine ⟨⟨(listMerchants db).length, listMerchants db⟩, _, rfl, fun offset _ => hpages offset, rfl,
    pairwise_listMerchants db, fun merchant_id => h.mem_listMerchants, ⟨?_, ?_⟩, ?_, ?_⟩
  -- A group has the key of a merchant who is listed.
  · intro g hg
    obtain ⟨k, hk, rfl⟩ := List.mem_map.1 (hgroups ▸ hg)
    obtain ⟨m, hm, hkey⟩ := exists_merchant_of_mem_groupKeys hk
    exact ⟨volume db m, hitem.2 ⟨m, hm, rfl⟩, hkey⟩
  -- A merchant's group has his volume, and where he has none the volume is zero.
  · intro item hmem
    obtain ⟨m, hm, rfl⟩ := hitem.1 hmem
    have hvolume := group_of_volume hp hall (formatTs cutoff) hm
    rw [← hgroups] at hvolume
    exact hvolume
  -- The merchants split the transactions, since every transaction has its merchant listed.
  · rw [sum_listMerchants h.valid rfl (fun _ _ => List.length_append) List.Perm.length_eq fun m => rfl]
    show _ = (summary 0).totals.transaction_count
    rw [htotals]
    rfl
  · have happend : ∀ a b : List TransactionRow, ((a ++ b).map TransactionRow.amount_minor).sum =
        (a.map TransactionRow.amount_minor).sum + (b.map TransactionRow.amount_minor).sum := by
      intro a b
      rw [List.map_append, List.sum_append]
    rw [sum_listMerchants h.valid rfl happend (fun hab => (hab.map _).sum_eq) fun m => rfl]
    show _ = (summary 0).totals.total_amount_minor
    rw [htotals]
    rfl

/-- The list has the merchant that only the contrary event names, which has no group. -/
theorem merchants_agree_on_mismatch :
    let db := Database.empty.applyAll "" [exampleEvent, contraryEvent]
    ∃ (response : MerchantsResponse) (pages : ℕ → SummaryResponse),
      merchants.eval db = .ok response ∧
      (∀ offset < 2 ^ 63, (getSummary fourDaysLater (merchantQuery 48 1 offset)).eval db =
        .ok (pages offset)) ∧
      (response.items.map MerchantVolume.transaction_count).sum =
        (pages 0).totals.transaction_count := by
  intro db
  obtain ⟨response, pages, hresponse, hpages, -, -, -, -, hcount, -⟩ := @merchants_agree db
    ⟨_, Run.empty.ingest "" _⟩ fourDaysLater twoDaysLater 48 1 fourDaysLater_minusHours Nat.one_pos
  exact ⟨response, pages, hresponse, hpages, hcount⟩

end PaymentRecon
