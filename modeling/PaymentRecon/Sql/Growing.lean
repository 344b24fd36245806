import PaymentRecon.Sql.Paging

/-!
# Paging through a growing result

A client requests one page after the other, and rows are added to the result in the meantime. New rows move
the others to later places and never to earlier ones, as long as the rows that stay keep their order:
every result is then a sublist of the next one. `FeedLoop.sublist` says that such a client receives every
row that the result had when it began, in order. A row may come twice.

`sublist_of_sortedBy` is the condition on sorted results: the rows stay, and so do the values that they
are sorted by.
-/

namespace Sql

variable {σ ρ ν : Type}

/-- A client that requests one page after the other. `answers s offset s' items more` is a request for the
page at `offset` that is sent when the store is `s` and answered with `items`; the store is `s'` then, and
the client goes on with the next page when `more` says so. -/
inductive FeedLoop (answers : σ → ℕ → σ → List ρ → Bool → Prop) (limit : ℕ) :
    σ → ℕ → List (List ρ) → Prop
  /-- The last page. -/
  | last {s s' : σ} {offset : ℕ} {items : List ρ} (h : answers s offset s' items false) :
    FeedLoop answers limit s offset [items]
  /-- A page with more to come. -/
  | more {s s' : σ} {offset : ℕ} {items : List ρ} {pages : List (List ρ)}
    (h : answers s offset s' items true) (rest : FeedLoop answers limit s' (offset + limit) pages) :
    FeedLoop answers limit s offset (items :: pages)

/-- An answer is a page of the result at some time between the request and the answer, and a client that
stops has come to the end of that result. -/
structure Serves (rows : σ → List ν) (name : ρ → ν) (limit : ℕ) (s : σ) (offset : ℕ) (s' : σ)
    (items : List ρ) (more : Bool) (t : σ) : Prop where
  /-- No row has gone since the request. -/
  grown : (rows s).Sublist (rows t)
  /-- No row goes until the answer. -/
  grows : (rows t).Sublist (rows s')
  /-- The page. -/
  items : items.map name = page limit offset (rows t)
  /-- There is nothing after the last page. -/
  done : more = false → (rows t).drop (offset + limit) = []

/-- A feed: every request is served from a result that loses no row, while the store moves on. -/
structure Feed (answers : σ → ℕ → σ → List ρ → Bool → Prop) (rows : σ → List ν) (name : ρ → ν)
    (limit : ℕ) (valid : σ → Prop) (later : σ → σ → Prop) : Prop where
  /-- The store moves on. -/
  trans : ∀ {s t u}, later s t → later t u → later s u
  /-- What a request does. -/
  serves : ∀ {s offset s' items more}, valid s → answers s offset s' items more →
    valid s' ∧ later s s' ∧ ∃ t, later s t ∧ Serves rows name limit s offset s' items more t

namespace FeedLoop

variable {answers : σ → ℕ → σ → List ρ → Bool → Prop} {limit offset : ℕ} {rows : σ → List ν}
  {name : ρ → ν} {valid : σ → Prop} {later : σ → σ → Prop} {s : σ} {pages : List (List ρ)}

/-- The client receives the rows that were there when it began. -/
theorem sublist (h : FeedLoop answers limit s offset pages)
    (hfeed : Feed answers rows name limit valid later) (hs : valid s) :
    ((rows s).drop offset).Sublist (pages.flatten.map name) := by
  induction h with
  | @last s s' offset items h =>
    obtain ⟨-, -, t, -, ht⟩ := hfeed.serves hs h
    have hpage : (rows t).drop offset = items.map name := by
      rw [drop_eq_page_append limit, ht.done rfl, List.append_nil, ht.items]
    rw [List.flatten_singleton, ← hpage]
    exact ht.grown.drop offset
  | @more s s' offset items pages h rest ih =>
    obtain ⟨hs', -, t, -, ht⟩ := hfeed.serves hs h
    rw [List.flatten_cons, List.map_append, ht.items]
    refine (ht.grown.drop offset).trans ?_
    rw [drop_eq_page_append limit]
    -- What comes after the page stays there, or moves further back.
    exact ((ht.grows.drop (offset + limit)).trans (ih hs')).append_left _

/-- What the client receives was in the result at some time. -/
theorem mem_rows (h : FeedLoop answers limit s offset pages)
    (hfeed : Feed answers rows name limit valid later) (hs : valid s) :
    ∀ item ∈ pages.flatten, ∃ t, later s t ∧ name item ∈ rows t := by
  have hpage : ∀ {s s' : σ} {offset : ℕ} {items : List ρ} {more : Bool}, valid s →
      answers s offset s' items more → ∀ item ∈ items, ∃ t, later s t ∧ name item ∈ rows t := by
    intro s s' offset items more hs h item hitem
    obtain ⟨-, -, t, hlater, ht⟩ := hfeed.serves hs h
    have hmem : name item ∈ page limit offset (rows t) := ht.items ▸ List.mem_map_of_mem hitem
    exact ⟨t, hlater, mem_of_mem_page hmem⟩
  induction h with
  | last h =>
    rw [List.flatten_singleton]
    exact hpage hs h
  | more h rest ih =>
    obtain ⟨hs', hlater, -⟩ := hfeed.serves hs h
    intro item hitem
    rw [List.flatten_cons, List.mem_append] at hitem
    rcases hitem with hitem | hitem
    · exact hpage hs h item hitem
    · obtain ⟨t, ht, hmem⟩ := ih hs' item hitem
      exact ⟨t, hfeed.trans hlater ht, hmem⟩

end FeedLoop

/-! ## Sorted results -/

/-- A result sorted by a key and an identifier is a sublist of every other one with its rows. -/
theorem sublist_of_sortedBy {k : SortKey ρ} {id : ρ → String} {rows rows' : List ρ}
    (h : SortedBy k (fun a b => id a < id b) rows)
    (h' : SortedBy k (fun a b => id a < id b) rows') (hsub : rows ⊆ rows') : rows.Sublist rows' := by
  let R (a b : ρ) : Prop := k.Before a b ∧ (k.column a = k.column b → id a < id b)
  have hasymm : ∀ a b, R a b → ¬ R b a := by
    intro a b hab hba
    have heq := hab.1.antisymm hba.1
    exact lt_asymm (hab.2 heq) (hba.2 heq.symm)
  have : Std.Antisymm R := ⟨fun a b hab hba => absurd hba (hasymm a b hab)⟩
  have hnodup : rows.Nodup := by
    refine h.imp fun {a b} hab heq => ?_
    subst heq
    exact hasymm a a hab hab
  exact List.sublist_of_subperm_of_pairwise (List.subperm_of_subset hnodup hsub) h h'

/-- A sorted result is sorted by its keys alone. -/
theorem sortedBy_map {k : SortKey ρ} {k' : SortKey ν} {id : ρ → String} {id' : ν → String}
    {f : ρ → ν} {rows : List ρ} (hcolumn : ∀ r, k'.column (f r) = k.column r)
    (hdesc : k'.desc = k.desc) (hid : ∀ r, id' (f r) = id r)
    (h : SortedBy k (fun a b => id a < id b) rows) :
    SortedBy k' (fun a b => id' a < id' b) (rows.map f) := by
  refine List.pairwise_map.2 (h.imp fun {a b} hab => ?_)
  simpa only [SortKey.Before, hcolumn, hdesc, hid] using hab

end Sql
