import PaymentRecon.Sql.OrderBy

/-!
# Paging through a sorted result

`ORDER BY` sorts: `le_cons_iff` reads the order of two rows key by key (`SortKey.Before` is the order
of one key, and the next key decides between rows with equal values), so that `pairwise_orderBy` says
what a sorted result looks like. A result is cut into pages at the multiples of the limit
(`flatMap_page_offsets`), and a client that requests one page after the other until there are no more
(`ClientLoop`) stops with all of them (`clientLoop_of_page`). `Shows` is what a paged endpoint owes its
clients, and `shows_of_page` is the form of the answers that pays it.
-/

namespace Sql

variable {ρ : Type}

/-! ## Sorted results -/

/-- By one key, the first row stands before the second or has the same value. `NULL` comes last. -/
def SortKey.Before (k : SortKey ρ) (a b : ρ) : Prop :=
  match k.column a, k.column b with
  | _, none => True
  | none, some _ => False
  | some x, some y => if k.desc then y ≤ x else x ≤ y

namespace SortKey

variable {k : SortKey ρ} {a b c : ρ}

/-- Of two rows, one sorts no later than the other. -/
theorem before_total (k : SortKey ρ) (a b : ρ) : k.Before a b ∨ k.Before b a := by
  unfold Before
  cases k.column a <;> cases k.column b <;> try simp
  split_ifs <;> exact le_total _ _

/-- The order of a key is transitive. -/
theorem Before.trans (hab : k.Before a b) (hbc : k.Before b c) : k.Before a c := by
  unfold Before at *
  cases hc : k.column c with
  | none => trivial
  | some z =>
    cases hb : k.column b with
    | none => simp [hb, hc] at hbc
    | some y =>
      cases ha : k.column a with
      | none => simp [ha, hb] at hab
      | some x =>
        simp only [ha, hb, hc] at hab hbc ⊢
        split_ifs at * with hd
        · exact hbc.trans hab
        · exact hab.trans hbc

/-- Rows that stand before each other have the same value. -/
theorem Before.antisymm (hab : k.Before a b) (hba : k.Before b a) : k.column a = k.column b := by
  unfold Before at *
  cases ha : k.column a <;> cases hb : k.column b <;> simp only [ha, hb] at hab hba
  · rfl
  · congr 1
    split_ifs at hab hba with hd
    · exact le_antisymm hba hab
    · exact le_antisymm hab hba

/-- Rows with the same value stand before each other. -/
theorem before_of_eq (h : k.column a = k.column b) : k.Before a b := by
  rcases k.before_total a b with hab | hba
  · exact hab
  · unfold Before at hba ⊢
    rwa [h] at hba ⊢

/-- The three results of a comparison. -/
theorem cmp_cases (k : SortKey ρ) (a b : ρ) :
    (k.cmp a b = .eq ∧ k.column a = k.column b) ∨
      (k.cmp a b = .lt ∧ k.Before a b ∧ k.column a ≠ k.column b) ∨
      (k.cmp a b = .gt ∧ ¬ k.Before a b) := by
  unfold cmp Before
  cases ha : k.column a <;> cases hb : k.column b <;> simp only
  · simp
  · simp
  · simp
  · rename_i x y
    by_cases heq : x = y
    · simp [heq]
    · cases k.desc with
      | true =>
        rcases lt_or_ge y x with h | h
        · simp [heq, h, h.le]
        · simp [heq, h, lt_of_le_of_ne h heq]
      | false =>
        rcases lt_or_ge x y with h | h
        · simp [heq, h, h.le]
        · simp [heq, h, lt_of_le_of_ne h (Ne.symm heq)]

end SortKey

/-- A row may stand before another when it does by the first key, and by the other keys if the first
one does not tell the two apart. -/
theorem le_cons_iff {k : SortKey ρ} {ks : List (SortKey ρ)} {a b : ρ} :
    le (k :: ks) a b = true ↔
      k.Before a b ∧ (k.column a = k.column b → le ks a b = true) := by
  simp only [le]
  rcases k.cmp_cases a b with ⟨hcmp, h⟩ | ⟨hcmp, h, hne⟩ | ⟨hcmp, h⟩
  · simp [hcmp, h, SortKey.before_of_eq h]
  · simp [hcmp, h, hne]
  · simp [hcmp, h]

instance (keys : List (SortKey ρ)) : Std.Total fun a b => le keys a b = true := by
  refine ⟨fun a b => ?_⟩
  induction keys with
  | nil => exact .inl rfl
  | cons k ks ih =>
    simp only [le_cons_iff]
    by_cases heq : k.column a = k.column b
    · -- The other keys decide.
      have hab := SortKey.before_of_eq heq
      have hba := SortKey.before_of_eq heq.symm
      exact ih.imp (fun h => ⟨hab, fun _ => h⟩) fun h => ⟨hba, fun _ => h⟩
    · exact (k.before_total a b).imp (fun h => ⟨h, fun he => absurd he heq⟩) fun h =>
        ⟨h, fun he => absurd he.symm heq⟩

instance (keys : List (SortKey ρ)) : IsTrans ρ fun a b => le keys a b = true := by
  refine ⟨fun a b c hab hbc => ?_⟩
  induction keys with
  | nil => rfl
  | cons k ks ih =>
    rw [le_cons_iff] at hab hbc ⊢
    refine ⟨hab.1.trans hbc.1, fun hac => ?_⟩
    -- Equal values at both ends leave no room in the middle.
    have hba : k.Before b a := hbc.1.trans (SortKey.before_of_eq hac.symm)
    have heq : k.column a = k.column b := hab.1.antisymm hba
    exact ih (hab.2 heq) (hbc.2 (heq ▸ hac))

/-- Rows that may stand before each other have the same value by every key. -/
theorem column_eq_of_le {keys : List (SortKey ρ)} {a b : ρ} (hab : le keys a b = true)
    (hba : le keys b a = true) : ∀ k ∈ keys, k.column a = k.column b := by
  induction keys with
  | nil => nofun
  | cons k ks ih =>
    rw [le_cons_iff] at hab hba
    have heq : k.column a = k.column b := hab.1.antisymm hba.1
    intro k' hk'
    rcases List.mem_cons.1 hk' with rfl | hk'
    · exact heq
    · exact ih (hab.2 heq) (hba.2 heq.symm) k' hk'

/-- In a sorted result, what holds of every row and a later one holds of a row and one that it may
stand before, unless the two may stand in either order. -/
theorem rel_of_le {keys : List (SortKey ρ)} {R : ρ → ρ → Prop} {rows : List ρ}
    (hs : rows.Pairwise fun a b => le keys a b = true) (hR : rows.Pairwise R) {a b : ρ}
    (ha : a ∈ rows) (hb : b ∈ rows) (hab : le keys a b = true) (hne : le keys b a = false) :
    R a b := by
  induction rows with
  | nil => cases ha
  | cons r rows ih =>
    rw [List.pairwise_cons] at hs hR
    rcases List.mem_cons.1 ha with rfl | ha'
    · rcases List.mem_cons.1 hb with rfl | hb'
      · rw [hab] at hne
        cases hne
      · exact hR.1 b hb'
    · rcases List.mem_cons.1 hb with rfl | hb'
      · rw [hs.1 a ha'] at hne
        cases hne
      · exact ih hs.2 hR.2 ha' hb'

/-- `ORDER BY` sorts. -/
theorem pairwise_orderBy (keys : List (SortKey ρ)) (rows : List ρ) :
    (orderBy keys rows).Pairwise fun a b => le keys a b = true := List.pairwise_insertionSort _ _

/-- `ORDER BY` keeps every row as often as it occurs. -/
theorem perm_orderBy (keys : List (SortKey ρ)) (rows : List ρ) : (orderBy keys rows).Perm rows :=
  List.perm_insertionSort _ _

/-- Sorting keeps the number of rows. -/
@[simp] theorem length_orderBy (keys : List (SortKey ρ)) (rows : List ρ) :
    (orderBy keys rows).length = rows.length := (perm_orderBy keys rows).length_eq

/-! ## Pages -/

/-- A page is full unless the rows run out. -/
@[simp] theorem length_page (limit offset : ℕ) (rows : List ρ) :
    (page limit offset rows).length = min limit (rows.length - offset) := by
  rw [page, List.length_take, List.length_drop]

/-- A page is a part of the result, in the same order. -/
theorem page_sublist (limit offset : ℕ) (rows : List ρ) :
    (page limit offset rows).Sublist rows :=
  (List.take_sublist _ _).trans (List.drop_sublist _ _)

/-- What is left after an offset is a page and what is left after it. -/
theorem drop_eq_page_append (limit offset : ℕ) (rows : List ρ) :
    rows.drop offset = page limit offset rows ++ rows.drop (offset + limit) := by
  rw [page, ← List.drop_drop, List.take_append_drop]

/-- Whether the rows before a page and on it are fewer than all: whether a row comes after it. -/
theorem has_more_iff {limit offset : ℕ} {rows : List ρ} (hl : 0 < limit) :
    offset + (page limit offset rows).length < rows.length ↔ rows.drop (offset + limit) ≠ [] := by
  rw [length_page, ← List.length_pos_iff, List.length_drop]
  omega

/-- A page of the size of the result shows it. -/
theorem page_length (rows : List ρ) : page rows.length 0 rows = rows := by
  rw [page, List.drop_zero, List.take_length]

/-- The offsets of the pages that show a result of `total` rows: the multiples of the limit below
`total`. -/
def offsets (limit total : ℕ) : List ℕ :=
  (List.range ((total + limit - 1) / limit)).map fun k => k * limit

/-- The first pages show the first rows. -/
theorem flatMap_page_range (limit n : ℕ) (rows : List ρ) :
    ((List.range n).flatMap fun k => page limit (k * limit) rows) = rows.take (n * limit) := by
  induction n with
  | zero => simp
  | succ n ih =>
    rw [List.range_succ, List.flatMap_append, ih, List.flatMap_singleton, Nat.succ_mul,
      List.take_add]
    rfl

/-- The pages put together are the result. -/
theorem flatMap_page_offsets {limit : ℕ} (hl : 0 < limit) (rows : List ρ) :
    ((offsets limit rows.length).flatMap fun offset => page limit offset rows) = rows := by
  rw [offsets, List.flatMap_map, flatMap_page_range]
  refine List.take_of_length_le ?_
  have hmod := Nat.mod_lt (rows.length + limit - 1) hl
  have hdiv := Nat.div_add_mod (rows.length + limit - 1) limit
  rw [Nat.mul_comm] at hdiv
  omega

/-! ## The client -/

/-- A client that requests the page at an offset and, as long as the answer says that there are more,
the next one: the pages that it has received when it stops. -/
inductive ClientLoop {ε : Type} (request : ℕ → Except ε (List ρ × Bool)) (limit : ℕ) :
    ℕ → List (List ρ) → Prop
  /-- The last page. -/
  | last {offset : ℕ} {items : List ρ} (h : request offset = .ok (items, false)) :
    ClientLoop request limit offset [items]
  /-- A page with more to come. -/
  | more {offset : ℕ} {items : List ρ} {pages : List (List ρ)}
    (h : request offset = .ok (items, true))
    (rest : ClientLoop request limit (offset + limit) pages) :
    ClientLoop request limit offset (items :: pages)

/-- A client whose requests are answered with the pages of a result stops, and has received what is
left after the first offset. -/
theorem clientLoop_of_page {ε : Type} {request : ℕ → Except ε (List ρ × Bool)} {limit : ℕ}
    (hl : 0 < limit) {rows : List ρ}
    (h : ∀ offset, request offset = .ok (page limit offset rows,
      decide (offset + (page limit offset rows).length < rows.length))) (offset : ℕ) :
    ∃ pages, ClientLoop request limit offset pages ∧ pages.flatten = rows.drop offset := by
  -- What is left gets shorter with every page.
  induction hn : rows.length - offset using Nat.strong_induction_on generalizing offset with
  | _ n ih =>
    have hpage := h offset
    by_cases hmore : offset + (page limit offset rows).length < rows.length
    · rw [decide_eq_true hmore] at hpage
      rw [length_page] at hmore
      obtain ⟨pages, hrest, hflat⟩ := ih _ (by omega) (offset + limit) rfl
      refine ⟨_, .more hpage hrest, ?_⟩
      rw [List.flatten_cons, hflat, ← drop_eq_page_append]
    · rw [decide_eq_false hmore] at hpage
      refine ⟨_, .last hpage, ?_⟩
      have hend : rows.drop (offset + limit) = [] := not_not.1 fun hne =>
        hmore ((has_more_iff hl).2 hne)
      rw [drop_eq_page_append limit, hend, List.append_nil, List.flatten_singleton]

/-- A client has one run at most. -/
theorem ClientLoop.unique {ε : Type} {request : ℕ → Except ε (List ρ × Bool)} {limit offset : ℕ}
    {pages pages' : List (List ρ)} (h : ClientLoop request limit offset pages)
    (h' : ClientLoop request limit offset pages') : pages = pages' := by
  induction h generalizing pages' with
  | last h =>
    cases h' with
    | last h' =>
      cases h.symm.trans h'
      rfl
    | more h' _ => cases h.symm.trans h'
  | more h _ ih =>
    cases h' with
    | last h' => cases h.symm.trans h'
    | more h' rest' =>
      cases h.symm.trans h'
      rw [ih rest']

/-- An answer to a request for a page. -/
structure Answer (ρ : Type) where
  /-- The rows of the page. -/
  items : List ρ
  /-- The rows of all pages. -/
  total : ℕ
  /-- Whether another page follows. -/
  has_more : Bool

/-- The requests at the offsets that fit a signed 64-bit integer, which is what an `OFFSET` is bound as,
show a result, page by page. -/
structure Shows {ε : Type} (request : ℕ → Except ε (Answer ρ)) (limit : ℕ) (rows : List ρ) :
    Prop where
  /-- Every answer has the rows at its offset, the number of all rows, and whether one comes after the
  page. -/
  answer : ∀ offset < 2 ^ 63, ∃ answer, request offset = .ok answer ∧
    answer.items = page limit offset rows ∧ answer.total = rows.length ∧
      (answer.has_more = true ↔ rows.drop (offset + limit) ≠ [])
  /-- A client that starts at the first page stops, and has received the rows, in order. -/
  loop : ∃ pages, (∀ pages', ClientLoop (fun offset => (request offset).map fun answer =>
    (answer.items, answer.has_more)) limit 0 pages' ↔ pages' = pages) ∧ pages.flatten = rows

/-- Answers that are cut out of a result and compare what they have shown with its length. -/
theorem shows_of_page {ε : Type} {request : ℕ → Except ε (Answer ρ)} {limit : ℕ} (hl : 0 < limit)
    {rows : List ρ}
    (h : ∀ offset, request offset = .ok ⟨page limit offset rows, rows.length,
      decide (offset + (page limit offset rows).length < rows.length)⟩) :
    Shows request limit rows where
  answer offset _ := ⟨_, h offset, rfl, rfl, by rw [decide_eq_true_iff, has_more_iff hl]⟩
  loop := by
    obtain ⟨pages, hloop, hflat⟩ := @clientLoop_of_page ρ ε (fun offset => (request offset).map
      fun answer => (answer.items, answer.has_more)) limit hl rows
      (fun offset => by rw [h offset]; rfl) 0
    refine ⟨pages, fun pages' => ⟨fun h' => h'.unique hloop, ?_⟩, hflat⟩
    rintro rfl
    exact hloop

/-- Rows sorted by a key, where a second order holds between rows with the same value. -/
def SortedBy (k : SortKey ρ) (tie : ρ → ρ → Prop) (rows : List ρ) : Prop :=
  rows.Pairwise fun a b => k.Before a b ∧ (k.column a = k.column b → tie a b)

/-- The order of two rows by a text. -/
theorem le_text_iff {id : ρ → String} {a b : ρ} :
    le [⟨fun r => some (.text (id r)), false⟩] a b = true ↔ id a ≤ id b := by
  rw [le_cons_iff]
  simp [SortKey.Before, le]

/-- In a sorted result, what no two rows share differs from row to row. -/
theorem pairwise_ne_orderBy (keys : List (SortKey ρ)) {id : ρ → String} {rows : List ρ}
    (hn : (rows.map id).Nodup) : (orderBy keys rows).Pairwise fun a b => id a ≠ id b := by
  rw [← List.pairwise_map]
  exact ((perm_orderBy keys rows).map id).nodup_iff.2 hn

/-- Sorting by a key and then by a text that no two rows share. -/
theorem sortedBy_orderBy {k : SortKey ρ} {id : ρ → String} {rows : List ρ}
    (hn : (rows.map id).Nodup) :
    SortedBy k (fun a b => id a < id b)
      (orderBy [k, ⟨fun r => some (.text (id r)), false⟩] rows) := by
  refine (pairwise_orderBy _ rows).imp₂ (fun a b hle hne => ?_) (pairwise_ne_orderBy _ hn)
  obtain ⟨hkey, htie⟩ := le_cons_iff.1 hle
  exact ⟨hkey, fun heq => lt_of_le_of_ne (le_text_iff.1 (htie heq)) hne⟩

/-- Sorting by a key, then by a second one, and then by a text that no two rows share. -/
theorem sortedBy_orderBy₂ {k k' : SortKey ρ} {id : ρ → String} {rows : List ρ}
    (hn : (rows.map id).Nodup) :
    SortedBy k (fun a b => k'.Before a b ∧ (k'.column a = k'.column b → id a < id b))
      (orderBy [k, k', ⟨fun r => some (.text (id r)), false⟩] rows) := by
  refine (pairwise_orderBy _ rows).imp₂ (fun a b hle hne => ?_) (pairwise_ne_orderBy _ hn)
  obtain ⟨hkey, htie⟩ := le_cons_iff.1 hle
  refine ⟨hkey, fun heq => ?_⟩
  obtain ⟨hkey', htie'⟩ := le_cons_iff.1 (htie heq)
  exact ⟨hkey', fun heq' => lt_of_le_of_ne (le_text_iff.1 (htie' heq')) hne⟩

end Sql
