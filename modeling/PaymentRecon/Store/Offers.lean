import PaymentRecon.Store.Table

/-!
# Idempotent logs

A log with a key is offered entries, any of them any number of times. It keeps an entry unless it has one
with the key already: the first offer wins (`find?_offerAll`), what is kept stays (`rows_offerAll_eq`), and
an empty log keeps the first entry under each key (`rows_offerAll_empty`).
-/

namespace Store

namespace Table

variable {κ π : Type} {key : π → κ} [DecidableEq κ]

/-- Offer an entry. -/
def offer (l : Table κ π key) (x : π) : Table κ π key :=
  match h : l.find? (key x) with
  | none => l.push x h
  | some _ => l

/-- Offer entries, the first one first. -/
def offerAll (l : Table κ π key) (xs : List π) : Table κ π key := xs.foldl offer l

variable {l : Table κ π key} {x : π}

/-- What is new is appended. -/
theorem offer_of_none (h : l.find? (key x) = none) : l.offer x = l.push x h := by
  unfold offer
  split
  · rfl
  · rename_i hsome
    rw [h] at hsome
    cases hsome

/-- What is known is dropped. -/
theorem offer_of_ne_none (h : l.find? (key x) ≠ none) : l.offer x = l := by
  unfold offer
  split
  · contradiction
  · rfl

/-- After an offer, the table has the row unless it had one under the key. -/
theorem find?_offer (l : Table κ π key) (x : π) (k : κ) :
    (l.offer x).find? k = (l.find? k).or (if key x = k then some x else none) := by
  by_cases h : l.find? (key x) = none
  · rw [offer_of_none h, find?_push]
    by_cases hk : k = key x
    · rw [if_pos hk, if_pos hk.symm, hk, h, Option.none_or]
    · rw [if_neg hk, if_neg (Ne.symm hk), Option.or_none]
  · rw [offer_of_ne_none h]
    split_ifs with hk
    · obtain ⟨y, hy⟩ := Option.ne_none_iff_exists'.1 (hk ▸ h)
      rw [hy, Option.some_or]
    · rw [Option.or_none]

/-- Under a key the log keeps what it had, or else the first entry that it was offered. -/
theorem find?_offerAll (l : Table κ π key) (xs : List π) (k : κ) :
    (l.offerAll xs).find? k = (l.find? k).or (xs.find? fun x => key x = k) := by
  induction xs generalizing l with
  | nil => exact (Option.or_none).symm
  | cons x xs ih =>
    rw [offerAll, List.foldl_cons, ← offerAll, ih, find?_offer, Option.or_assoc]
    congr 1
    by_cases hk : key x = k
    · rw [if_pos hk, Option.some_or, List.find?_cons_of_pos (by simpa using hk)]
    · rw [if_neg hk, Option.none_or, List.find?_cons_of_neg (by simpa using hk)]

/-! ## The first entries -/

/-- The first entry under each key. -/
def firsts (key : π → κ) : List π → List π
  | [] => []
  | x :: xs => x :: (firsts key xs).filter fun y => key y ≠ key x

/-- The first ones of images are the images of the first ones. -/
theorem firsts_map {σ : Type} (f : σ → π) (ys : List σ) :
    firsts key (ys.map f) = (firsts (key ∘ f) ys).map f := by
  induction ys with
  | nil => rfl
  | cons y ys ih =>
    rw [List.map_cons, firsts, firsts, ih, List.map_cons, List.filter_map]
    rfl

/-- A log keeps what it had, and the first entries under keys that were free. -/
theorem rows_offerAll_eq (l : Table κ π key) (xs : List π) :
    (l.offerAll xs).rows = l.rows ++ (firsts key xs).filter fun x => l.find? (key x) = none := by
  induction xs generalizing l with
  | nil => exact (List.append_nil _).symm
  | cons x xs ih =>
    rw [offerAll, List.foldl_cons, ← offerAll, ih, firsts]
    -- A new key is appended, and hides later offers of the same key; a known one changes nothing.
    by_cases h : l.find? (key x) = none
    · rw [List.filter_cons_of_pos (by simpa using h), offer_of_none h, rows_push, List.append_assoc,
        List.singleton_append, List.filter_filter]
      congr 2
      refine List.filter_congr fun y _ => ?_
      rw [find?_push]
      by_cases hy : key y = key x
      · simp [hy]
      · simp [hy]
    · have hsame : l.offer x = l := offer_of_ne_none h
      rw [List.filter_cons_of_neg (by simpa using h), hsame, List.filter_filter]
      congr 1
      refine List.filter_congr fun y _ => ?_
      by_cases hy : key y = key x
      · simp [hy, h]
      · simp [hy]

/-- An empty table keeps the first ones of what it is offered. -/
theorem rows_offerAll_empty (xs : List π) :
    ((empty : Table κ π key).offerAll xs).rows = firsts key xs := by
  rw [rows_offerAll_eq]
  exact List.filter_eq_self.2 fun _ _ => rfl

end Table

end Store
