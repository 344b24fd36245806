import PaymentRecon.Severities

/-!
# The order by severity

A report by severity is in the order of `severity_rank`, and shows the severities of the requested
types. The displayed severities are in order, in both directions and on all pages, exactly when they
are a monotone function of the rank (`severityOrdered_iff`). Whether they are depends on the selection
of types: a type that is present but not requested raises the rank and is not displayed, so a
selection must have the types that may be present beside its own (`RanksAgree`).
`shownRank_eq_agreedRank` is the one direction; for the other, a database with twelve transactions has
a pair that is out of order for every other selection (`ranksAgree_of_pairs`).
-/

namespace PaymentRecon

open Store Sql

/-- The severities that the items display do not increase or do not decrease, as the order says. -/
def SeverityOrdered (sort_order : SortOrder) (items : List DiscrepancyItem) : Prop :=
  items.Pairwise fun a b => match sort_order with
    | .desc => b.severity.rank ≤ a.severity.rank
    | .asc => a.severity.rank ≤ b.severity.rank

section

variable {db : Database} {filter : Condition} {types : List DiscrepancyType} {cutoff : String}

/-- The rank of the severity that a row displays. -/
def FlaggedRow.shownRank (types : List DiscrepancyType) (r : FlaggedRow) : ℕ :=
  (maxSeverity (r.present types)).rank

/-- The keys of the report by severity after the first one. -/
def tieKeys : List (SortKey FlaggedRow) :=
  [⟨fun r => some (.text r.t.last_event_at), true⟩, ⟨fun r => some (.text r.t.transaction_id), false⟩]

/-- The order of two rows in the report by severity. -/
theorem le_severity_iff {sort_order : SortOrder} {r r' : FlaggedRow} :
    le (DiscrepancySort.severity.keys sort_order) r r' = true ↔
      (match sort_order with
        | .desc => r'.severity_rank ≤ r.severity_rank
        | .asc => r.severity_rank ≤ r'.severity_rank) ∧
      (r.severity_rank = r'.severity_rank → le tieKeys r r' = true) := by
  simp only [DiscrepancySort.keys, le_cons_iff, SortKey.Before, Option.some.injEq, Value.int.injEq,
    Nat.cast_inj, Value.int_le_int, Nat.cast_le]
  cases sort_order <;> simp [tieKeys, le_cons_iff, SortKey.Before]

/-- The report by severity shows the displayed severities in order, in both orders and on all pages,
exactly when they are a monotone function of the rank that SQL sorts by. -/
theorem Database.Projected.severityOrdered_iff (h : db.Projected) :
    (∀ sort_order limit offset, SeverityOrdered sort_order
        (discrepancies db filter types cutoff .severity sort_order limit offset).items) ↔
      ∀ r ∈ flagged db filter cutoff, ∀ r' ∈ flagged db filter cutoff, r.selected types = true →
        r'.selected types = true → r.severity_rank ≤ r'.severity_rank →
          r.shownRank types ≤ r'.shownRank types := by
  constructor
  · intro hall r hr r' hr' hsel hsel' hrank
    -- The whole report, in either order.
    have hsorted : ∀ sort_order, (reportRows db filter types cutoff .severity sort_order).Pairwise
        fun a b => match sort_order with
          | .desc => b.shownRank types ≤ a.shownRank types
          | .asc => a.shownRank types ≤ b.shownRank types := by
      intro sort_order
      have := hall sort_order (reportRows db filter types cutoff .severity sort_order).length 0
      rw [discrepancies_items, page_length, SeverityOrdered, List.pairwise_map] at this
      exact this
    have hrel : ∀ sort_order a b, a ∈ flagged db filter cutoff → b ∈ flagged db filter cutoff →
        a.selected types = true → b.selected types = true →
        le (DiscrepancySort.severity.keys sort_order) a b = true → a = b ∨
          match sort_order with
          | .desc => b.shownRank types ≤ a.shownRank types
          | .asc => a.shownRank types ≤ b.shownRank types := by
      intro sort_order a b ha hb hsa hsb hle
      have ha' : a ∈ reportRows db filter types cutoff .severity sort_order :=
        mem_reportRows.2 ⟨ha, hsa⟩
      have hb' : b ∈ reportRows db filter types cutoff .severity sort_order :=
        mem_reportRows.2 ⟨hb, hsb⟩
      cases hge : le (DiscrepancySort.severity.keys sort_order) b a with
      | true => exact .inl (h.eq_of_le ha' hb' hle hge)
      | false => exact .inr (rel_of_le (pairwise_orderBy _ _) (hsorted sort_order) ha' hb' hle hge)
    -- Rows of different ranks stand in order in the descending report. Rows of one rank stand in
    -- the same order in both, which is in order for the one or for the other.
    rcases total_of (fun a b => le tieKeys a b = true) r r' with hle | hle
    · rcases hrel .asc r r' hr hr' hsel hsel' (le_severity_iff.2 ⟨hrank, fun _ => hle⟩) with
        rfl | hshown
      · exact le_rfl
      · exact hshown
    · rcases hrel .desc r' r hr' hr hsel' hsel (le_severity_iff.2 ⟨hrank, fun _ => hle⟩) with
        rfl | hshown
      · exact le_rfl
      · exact hshown
  · intro hmono sort_order limit offset
    rw [discrepancies_items, SeverityOrdered, List.pairwise_map]
    refine List.Pairwise.sublist (page_sublist limit offset _) ?_
    refine (pairwise_orderBy _ _).imp_of_mem fun hma hmb hle => ?_
    obtain ⟨ha, hsa⟩ := mem_reportRows.1 hma
    obtain ⟨hb, hsb⟩ := mem_reportRows.1 hmb
    have hrank := (le_severity_iff.1 hle).1
    cases sort_order with
    | asc => exact hmono _ ha _ hb hsa hsb hrank
    | desc => exact hmono _ hb _ ha hsb hsa hrank

/-- The severity that a reported row displays is the greatest one of the requested types that are
present. -/
theorem isGreatest_shownRank (hc : db.Checked) {r : FlaggedRow} (hr : r ∈ flagged db filter cutoff)
    (hsel : r.selected types = true) :
    IsGreatest {n | ∃ type ∈ types, Found cutoff r.t type ∧ type.severity.rank = n}
      (r.shownRank types) := by
  have hne : r.present types ≠ [] := by
    obtain ⟨type, hmem, hf⟩ := (selected_iff hr types).1 hsel
    exact List.ne_nil_of_mem ((mem_present hc hr).2 ⟨hf, hmem⟩)
  have hset : ranksOf (r.present types) =
      {n | ∃ type ∈ types, Found cutoff r.t type ∧ type.severity.rank = n} := by
    ext n
    simp only [ranksOf, Set.mem_ofPred_eq, mem_present hc hr]
    exact exists_congr fun type => by rw [and_comm (a := Found _ _ _), and_assoc]
  rw [← hset]
  exact isGreatest_maxSeverity hne

/-- The severity that SQL sorts a row by, in terms of its transaction. -/
theorem hasSeverity_iff {r : FlaggedRow} (hr : r ∈ flagged db filter cutoff) (severity : Severity) :
    r.HasSeverity severity ↔ ∃ type, Found cutoff r.t type ∧ type.severity = severity := by
  simp only [FlaggedRow.HasSeverity, flag_eq_one_of_mem hr]

/-- The selections of types for which the two severities agree on the order: those of one severity,
and those that have `AMOUNT_MISMATCH` and `MERCHANT_MISMATCH` with any type that may be present beside
these, and, with `DUPLICATE_EVENTS`, which may be present beside any type, all types of severity
`high`, and either both of severity `medium` or none. -/
def RanksAgree (types : List DiscrepancyType) : Prop :=
  (∃ severity, ∀ type ∈ types, type.severity = severity) ∨
    ((∀ type ∈ types, type.severity = .medium ∨ type = .stuck_in_initiated →
        .amount_mismatch ∈ types ∧ .merchant_mismatch ∈ types) ∧
      (.duplicate_events ∈ types → (∀ type, type.severity = .high → type ∈ types) ∧
        ((∀ type, type.severity = .medium → type ∈ types) ∨
          ∀ type ∈ types, type.severity ≠ .medium)))

/-- A type of severity `high` that may be present beside one of the payment's stages is one of the two
mismatches. -/
theorem Found.eq_mismatch {t : TransactionRow} {high type : DiscrepancyType}
    (hhigh : Found cutoff t high) (hs : high.severity = .high) (hf : Found cutoff t type)
    (htype : type.severity = .medium ∨ type = .stuck_in_initiated) :
    high = .amount_mismatch ∨ high = .merchant_mismatch := by
  cases high <;> cases type <;> simp_all [Found, DiscrepancyType.severity]

/-- A stuck payment has no discrepancy of severity `medium`. -/
theorem Found.not_stuck {t : TransactionRow} {type : DiscrepancyType} (hf : Found cutoff t type)
    (hs : type.severity = .medium) : ¬ Found cutoff t .stuck_in_initiated := by
  cases type <;> simp_all [Found, DiscrepancyType.severity]

/-- The types of severity `low`. -/
theorem DiscrepancyType.eq_of_low {type : DiscrepancyType} (h : type.severity = .low) :
    type = .stuck_in_initiated ∨ type = .duplicate_events := by
  cases type <;> simp_all [DiscrepancyType.severity]

/-- A transaction with a discrepancy of severity `high` and a requested one has a requested one of
severity `high`, when the mismatches are requested with the stages and all of these with replays. -/
theorem Found.exists_requested_high {t : TransactionRow} {high shown : DiscrepancyType}
    (hhigh : Found cutoff t high) (hs : high.severity = .high) (hshown : shown ∈ types)
    (hf : Found cutoff t shown)
    (hstage : ∀ type ∈ types, type.severity = .medium ∨ type = .stuck_in_initiated →
      .amount_mismatch ∈ types ∧ .merchant_mismatch ∈ types)
    (hdup : .duplicate_events ∈ types → ∀ type, type.severity = .high → type ∈ types) :
    ∃ type ∈ types, Found cutoff t type ∧ type.severity = .high := by
  have hmismatch : shown.severity = .medium ∨ shown = .stuck_in_initiated → high ∈ types := by
    intro hkind
    have hboth := hstage shown hshown hkind
    rcases hhigh.eq_mismatch hs hf hkind with rfl | rfl
    exacts [hboth.1, hboth.2]
  cases hss : shown.severity with
  | high => exact ⟨shown, hshown, hf, hss⟩
  | medium => exact ⟨high, hmismatch (.inl hss), hhigh, hs⟩
  | low =>
    rcases DiscrepancyType.eq_of_low hss with rfl | rfl
    · exact ⟨high, hmismatch (.inr rfl), hhigh, hs⟩
    · exact ⟨high, hdup hshown high hs, hhigh, hs⟩

/-- The rank that is displayed for a rank that SQL sorts by, when the selection agrees but has types of
several severities: without a type of severity `medium`, the rows of that rank display `low`. -/
def agreedRank (types : List DiscrepancyType) (rank : ℕ) : ℕ :=
  if rank = 2 ∧ ∀ type ∈ types, type.severity ≠ .medium then 1 else rank

/-- What a row displays under such a selection, by the rank that SQL sorts it by. -/
theorem shownRank_eq_agreedRank (hc : db.Checked) {r : FlaggedRow}
    (hr : r ∈ flagged db filter cutoff) (hsel : r.selected types = true)
    (hstage : ∀ type ∈ types, type.severity = .medium ∨ type = .stuck_in_initiated →
      .amount_mismatch ∈ types ∧ .merchant_mismatch ∈ types)
    (hdup : .duplicate_events ∈ types → (∀ type, type.severity = .high → type ∈ types) ∧
      ((∀ type, type.severity = .medium → type ∈ types) ∨
        ∀ type ∈ types, type.severity ≠ .medium)) :
    r.shownRank types = agreedRank types r.severity_rank := by
  obtain ⟨⟨shown, hshown, hshownf, hrank⟩, hmax⟩ := isGreatest_shownRank hc hr hsel
  -- A type that is requested and present has at most the rank that is displayed.
  have hle : ∀ type ∈ types, Found cutoff r.t type → type.severity.rank ≤ r.shownRank types :=
    fun type hmem hf => hmax ⟨type, hmem, hf, rfl⟩
  have hsql := r.severity_rank_cases
  simp only [hasSeverity_iff hr] at hsql
  rw [← hrank] at hle ⊢
  rcases hsql with ⟨heq, high, hhigh, hs⟩ | ⟨heq, hnone, medium, hmedium, hs⟩ | ⟨heq, hnone, hnone'⟩
  · -- Rank 3: a type of severity `high` is present and requested.
    obtain ⟨type, hmem, hf, hhigh⟩ := hhigh.exists_requested_high hs hshown hshownf hstage
      fun hd => (hdup hd).1
    have := hle type hmem hf
    rw [hhigh] at this
    have hlt : shown.severity.rank ≤ 3 := by cases shown.severity <;> decide
    rw [heq, agreedRank, if_neg (by omega)]
    exact le_antisymm hlt this
  · by_cases hmed : ∀ type ∈ types, type.severity ≠ .medium
    · -- Rank 2, and no type of severity `medium` is requested.
      rw [heq, agreedRank, if_pos ⟨rfl, hmed⟩]
      cases hss : shown.severity with
      | high => exact absurd ⟨shown, hshownf, hss⟩ hnone
      | medium => exact absurd hss (hmed shown hshown)
      | low => rfl
    · -- Rank 2, and the type that is present is requested, with or without replays.
      rw [heq, agreedRank, if_neg fun h => hmed h.2]
      cases hss : shown.severity with
      | high => exact absurd ⟨shown, hshownf, hss⟩ hnone
      | medium => rfl
      | low =>
        rcases DiscrepancyType.eq_of_low hss with rfl | rfl
        · exact absurd hshownf (hmedium.not_stuck hs)
        · have hall := ((hdup hshown).2.resolve_right hmed) medium hs
          have := hle medium hall hmedium
          rw [hs, hss] at this
          exact absurd this (by decide)
  · -- Rank 1: nothing else is present.
    rw [heq, agreedRank, if_neg (by omega)]
    cases hss : shown.severity with
    | high => exact absurd ⟨shown, hshownf, hss⟩ hnone
    | medium => exact absurd ⟨shown, hshownf, hss⟩ hnone'
    | low => rfl

/-- Under a selection that agrees, a row of a higher rank displays no lower severity. -/
theorem RanksAgree.shownRank_le (h : RanksAgree types) (hc : db.Checked) {r r' : FlaggedRow}
    (hr : r ∈ flagged db filter cutoff) (hr' : r' ∈ flagged db filter cutoff)
    (hsel : r.selected types = true) (hsel' : r'.selected types = true)
    (hrank : r.severity_rank ≤ r'.severity_rank) : r.shownRank types ≤ r'.shownRank types := by
  rcases h with ⟨severity, hall⟩ | ⟨hstage, hdup⟩
  · obtain ⟨⟨type, hmem, _, hshown⟩, _⟩ := isGreatest_shownRank hc hr hsel
    obtain ⟨⟨type', hmem', _, hshown'⟩, _⟩ := isGreatest_shownRank hc hr' hsel'
    rw [← hshown, ← hshown', hall type hmem, hall type' hmem']
  · rw [shownRank_eq_agreedRank hc hr hsel hstage hdup,
      shownRank_eq_agreedRank hc hr' hsel' hstage hdup]
    have hone : 1 ≤ r.severity_rank := by
      rcases r.severity_rank_cases with h | h | h <;> omega
    unfold agreedRank
    by_cases hmed : ∀ type ∈ types, type.severity ≠ .medium
    · simp only [and_iff_left hmed]
      split_ifs <;> omega
    · simpa only [hmed, and_false, if_false] using hrank

end

/-! Twelve transactions, each with two discrepancies of different severity. -/

/-- Two events that disagree on the amount. -/
def repricedPair (event_id event_id' transaction_id : String) (event_type : EventType)
    (hid : Identifier event_id := by decide) (hid' : Identifier event_id' := by decide)
    (ht : Identifier transaction_id := by decide) : List EventIn :=
  [sampleEvent event_id transaction_id event_type hid ht,
    (sampleEvent event_id transaction_id event_type hid ht).repriced event_id' hid']

/-- Two events that disagree on the merchant. -/
def reassignedPair (event_id event_id' transaction_id : String) (event_type : EventType)
    (hid : Identifier event_id := by decide) (hid' : Identifier event_id' := by decide)
    (ht : Identifier transaction_id := by decide) : List EventIn :=
  [sampleEvent event_id transaction_id event_type hid ht,
    (sampleEvent event_id transaction_id event_type hid ht).reassigned event_id' hid']

/-- The events of the twelve transactions. -/
def mixedEvents : List EventIn :=
  repricedPair "A" "B" "m" .settled ++ reassignedPair "C" "D" "n" .settled ++
  repricedPair "E" "F" "o" .payment_processed ++ reassignedPair "G" "H" "p" .payment_processed ++
  repricedPair "I" "J" "q" .payment_initiated ++ reassignedPair "K" "L" "r" .payment_initiated ++
  [sampleEvent "M" "s" .settled, sampleEvent "M" "s" .settled,
    sampleEvent "N" "s" .payment_failed,
    sampleEvent "O" "t" .payment_processed, sampleEvent "O" "t" .payment_processed,
    sampleEvent "P" "t" .payment_failed,
    sampleEvent "Q" "u" .payment_processed, sampleEvent "Q" "u" .payment_processed,
    (sampleEvent "Q" "u" .settled).repriced "R",
    sampleEvent "S" "v" .payment_processed, sampleEvent "S" "v" .payment_processed,
    (sampleEvent "S" "v" .settled).reassigned "T",
    sampleEvent "U" "w" .settled, sampleEvent "U" "w" .settled,
    sampleEvent "V" "x" .payment_processed, sampleEvent "V" "x" .payment_processed]

/-- The database with the twelve transactions. -/
def mixed : Database := Database.empty.applyAll "" mixedEvents

/-- The service reaches it by one batch. -/
theorem reachable_mixed : Reachable mixed := ⟨_, Run.empty.ingest "" mixedEvents⟩

/-- The discrepancies of the twelve transactions, the more severe one first. -/
def mixedTypes : List (DiscrepancyType × DiscrepancyType) :=
  [(.amount_mismatch, .settled_without_processing), (.merchant_mismatch, .settled_without_processing),
    (.amount_mismatch, .processed_not_settled), (.merchant_mismatch, .processed_not_settled),
    (.amount_mismatch, .stuck_in_initiated), (.merchant_mismatch, .stuck_in_initiated),
    (.settled_after_failure, .duplicate_events), (.conflicting_payment_state, .duplicate_events),
    (.amount_mismatch, .duplicate_events), (.merchant_mismatch, .duplicate_events),
    (.settled_without_processing, .duplicate_events), (.processed_not_settled, .duplicate_events)]

/-- The transactions have these discrepancies and no others. -/
theorem flags_mixed : (flagged mixed (buildTransactionFilters {}) (formatTs twoDaysLater)).map
      (fun r => (discrepancyFlags.map Prod.fst).filter fun type => r.flag type = 1) =
    mixedTypes.map fun p => [p.1, p.2] := by decide

/-- What the transaction of a pair displays, when one of the two discrepancies is requested. -/
def pairShown (types : List DiscrepancyType) (p : DiscrepancyType × DiscrepancyType) : Option ℕ :=
  if p.1 ∈ types then some p.1.severity.rank
  else if p.2 ∈ types then some p.2.severity.rank
  else none

/-- There is a row with the discrepancies of each pair. It sorts by the severity of the first one, and
displays what `pairShown` says. -/
theorem exists_mixed {p : DiscrepancyType × DiscrepancyType} (hp : p ∈ mixedTypes) :
    ∃ r ∈ flagged mixed (buildTransactionFilters {}) (formatTs twoDaysLater),
      r.severity_rank = p.1.severity.rank ∧ ∀ types n, pairShown types p = some n →
        r.selected types = true ∧ r.shownRank types = n := by
  have hmem := List.mem_map_of_mem (f := fun p : DiscrepancyType × DiscrepancyType => [p.1, p.2]) hp
  rw [← flags_mixed, List.mem_map] at hmem
  obtain ⟨r, hr, hflags⟩ := hmem
  have hall : ∀ q ∈ mixedTypes, q.2.severity.rank ≤ q.1.severity.rank := by decide
  have hle := hall p hp
  have hflag : ∀ type, r.flag type = 1 ↔ type = p.1 ∨ type = p.2 := by
    intro type
    have hall : type ∈ discrepancyFlags.map Prod.fst := by cases type <;> decide
    have := congrArg (type ∈ ·) hflags
    simpa [hall] using this
  have hfound : ∀ type, Found (formatTs twoDaysLater) r.t type ↔ type = p.1 ∨ type = p.2 := fun type => by
    rw [← flag_eq_one_of_mem hr, hflag]
  refine ⟨r, hr, ?_, fun types n hn => ?_⟩
  -- The rank that the rows are sorted by is that of all flags, and the first of the pair is the greater.
  · refine (isGreatest_severity_rank ⟨p.1, (hflag _).2 (.inl rfl)⟩).unique ⟨?_, ?_⟩
    · exact ⟨p.1, (hflag _).2 (.inl rfl), rfl⟩
    · rintro m ⟨type, hf, rfl⟩
      rcases (hflag type).1 hf with rfl | rfl
      exacts [le_rfl, hle]
  -- The rank that is shown is that of the selected flags: the second one's when the first is not
  -- selected.
  · have hsel : r.selected types = true := by
      rw [selected_iff hr]
      unfold pairShown at hn
      split_ifs at hn with h1 h2
      exacts [⟨p.1, h1, (hfound _).2 (.inl rfl)⟩, ⟨p.2, h2, (hfound _).2 (.inr rfl)⟩]
    refine ⟨hsel, (isGreatest_shownRank reachable_mixed.checked hr hsel).unique ⟨?_, ?_⟩⟩
    · unfold pairShown at hn
      split_ifs at hn with h1 h2
      · exact ⟨p.1, h1, (hfound _).2 (.inl rfl), Option.some.inj hn⟩
      · exact ⟨p.2, h2, (hfound _).2 (.inr rfl), Option.some.inj hn⟩
    · rintro m ⟨type, hreq, hf, rfl⟩
      unfold pairShown at hn
      rcases (hfound type).1 hf with rfl | rfl
      · rw [if_pos hreq] at hn
        exact (Option.some.inj hn).le
      · split_ifs at hn with h1
        · exact hle.trans (Option.some.inj hn).le
        · exact (Option.some.inj hn).le

/-- When the transactions of the pairs that sort alike display alike, the selection agrees. -/
theorem ranksAgree_of_pairs {types : List DiscrepancyType}
    (h : ∀ p ∈ mixedTypes, ∀ q ∈ mixedTypes, p.1.severity = q.1.severity → ∀ m n,
      pairShown types p = some m → pairShown types q = some n → m = n) :
    RanksAgree types := by
  have hreq : ∀ {a b}, a ∈ types → pairShown types (a, b) = some a.severity.rank :=
    fun ha => if_pos ha
  have hhidden : ∀ {a b}, a ∉ types → b ∈ types → pairShown types (a, b) = some b.severity.rank := by
    intro a b ha hb
    rw [pairShown, if_neg ha, if_pos hb]
  have hdup : ∀ a, a.severity ≠ .low → (a, DiscrepancyType.duplicate_events) ∈ mixedTypes := by
    intro a ha
    cases a <;> first | decide | exact absurd rfl ha
  have hbeside : ∀ y, y = .amount_mismatch ∨ y = .merchant_mismatch → ∀ x, x.severity ≠ .high →
      (y, x) ∈ mixedTypes := by
    rintro y (rfl | rfl) x hx <;> cases x <;> first | decide | exact absurd rfl hx
  by_cases hone : ∃ severity, ∀ type ∈ types, type.severity = severity
  · exact .inl hone
  have hother : ∀ severity, ∃ type ∈ types, type.severity ≠ severity := by
    intro severity
    by_contra hall
    push Not at hall
    exact hone ⟨severity, hall⟩
  -- A mismatch that may be present beside a requested type of lower severity is requested.
  have hstage : ∀ y, y = .amount_mismatch ∨ y = .merchant_mismatch → ∀ x ∈ types,
      x.severity ≠ .high → y ∈ types := by
    intro y hy x hx hxs
    by_contra hmem
    have hys : y.severity = .high := by rcases hy with rfl | rfl <;> rfl
    obtain ⟨z, hz, hne⟩ := hother x.severity
    by_cases hzs : z.severity = .high
    · have := h _ (hbeside y hy x hxs) _ (hdup z (by rw [hzs]; decide)) (hys.trans hzs.symm) _ _
        (hhidden hmem hx) (hreq hz)
      exact hne (Severity.rank_injective this.symm)
    · have := h _ (hbeside y hy x hxs) _ (hbeside y hy z hzs) rfl _ _ (hhidden hmem hx)
        (hhidden hmem hz)
      exact hne (Severity.rank_injective this.symm)
  refine .inr ⟨fun x hx hs => ?_, fun hd => ⟨fun high hs => ?_, ?_⟩⟩
  · have hxs : x.severity ≠ .high := by
      rcases hs with hs | rfl
      · rw [hs]
        decide
      · decide
    exact ⟨hstage _ (.inl rfl) x hx hxs, hstage _ (.inr rfl) x hx hxs⟩
  · by_contra hmem
    have hamount := hstage _ (.inl rfl) _ hd (by decide)
    have := h _ (hdup high (by rw [hs]; decide)) _ (hdup .amount_mismatch (by decide)) hs _ _
      (hhidden hmem hd) (hreq hamount)
    exact absurd this (by decide)
  · by_cases hmed : ∀ type ∈ types, type.severity ≠ .medium
    · exact .inr hmed
    · push Not at hmed
      obtain ⟨m, hm, hms⟩ := hmed
      refine .inl fun m' hms' => ?_
      by_contra hmem
      have := h _ (hdup m' (by rw [hms']; decide)) _ (hdup m (by rw [hms]; decide))
        (hms'.trans hms.symm) _ _ (hhidden hmem hd) (hreq hm)
      rw [hms] at this
      exact absurd this (by decide)

/-- The order by severity agrees with the displayed severities exactly for the selections that
`RanksAgree` describes. A selection of types is of this kind if and only if, in every reachable
database, under every filter and every cutoff, in both orders and on every page, the displayed
severities of the items are in order; and each of them is the greatest one of the item's types. -/
theorem severity_order_iff (types : List DiscrepancyType) :
    (∀ db, Reachable db → ∀ filter cutoff sort_order limit offset,
      SeverityOrdered sort_order
          (discrepancies db filter types cutoff .severity sort_order limit offset).items ∧
        ∀ item ∈ (discrepancies db filter types cutoff .severity sort_order limit offset).items,
          IsGreatest (ranksOf item.discrepancy_types) item.severity.rank) ↔
      RanksAgree types := by
  constructor
  · intro hall
    -- One database has a transaction for each mixed pair of types, so that its reports compare all of
    -- them.
    have hmono := reachable_mixed.projected.severityOrdered_iff.1 fun sort_order limit offset =>
      (hall _ reachable_mixed (buildTransactionFilters {}) (formatTs twoDaysLater) sort_order limit
        offset).1
    refine ranksAgree_of_pairs fun p hp q hq hpq m n hm hn => ?_
    obtain ⟨r, hr, hrank, hshown⟩ := exists_mixed hp
    obtain ⟨r', hr', hrank', hshown'⟩ := exists_mixed hq
    obtain ⟨hsel, rfl⟩ := hshown types m hm
    obtain ⟨hsel', rfl⟩ := hshown' types n hn
    have heq : r.severity_rank = r'.severity_rank := by rw [hrank, hrank', hpq]
    exact le_antisymm (hmono r hr r' hr' hsel hsel' heq.le) (hmono r' hr' r hr hsel' hsel heq.ge)
  · intro hagree db h filter cutoff sort_order limit offset
    refine ⟨h.projected.severityOrdered_iff.2 (fun r hr r' hr' hsel hsel' hrank =>
      hagree.shownRank_le h.checked hr hr' hsel hsel' hrank) sort_order limit offset,
      fun item hitem => ?_⟩
    obtain ⟨r, hr, hsel, rfl⟩ := mem_items hitem
    obtain ⟨type, hmem, hf⟩ := (selected_iff hr types).1 hsel
    exact isGreatest_maxSeverity (List.ne_nil_of_mem ((mem_present h.checked hr).2 ⟨hf, hmem⟩))

/-- Two transactions that were settled without processing, the first under two merchants and the
second with two amounts. -/
def settledPairs : List EventIn :=
  reassignedPair "A" "B" "m" .settled ++ repricedPair "C" "D" "n" .settled

/-- When the amount is compared and the merchant is not, both sort as `high`, and the first one, which
displays `medium`, comes before the second one, which displays `high`. -/
theorem severity_order_broken :
    Reachable (Database.empty.applyAll "" settledPairs) ∧
      ¬ SeverityOrdered .desc (discrepancies (Database.empty.applyAll "" settledPairs)
        (buildTransactionFilters {}) [.settled_without_processing, .amount_mismatch]
        (formatTs twoDaysLater) .severity .desc 50 0).items := by
  refine ⟨⟨_, Run.empty.ingest "" settledPairs⟩, ?_⟩
  unfold SeverityOrdered
  decide

end PaymentRecon
