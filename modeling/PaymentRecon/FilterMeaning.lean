import PaymentRecon.Summary
import PaymentRecon.Transactions

/-!
# What a filter means

`build_transaction_filters` writes a condition and its parameters. `TransactionFilter.Matches` is what the
arguments ask of a transaction, without SQL: `selects_iff_matches` shows that the condition selects the
rows that match. The parameters carry it. Their names are generated from prefixes and indices next to
fixed ones, and no two of them are the same (`nodup_names`), so that no assignment overwrites another
and each clause finds the values that it was written for.
-/

namespace PaymentRecon

open Store Sql

/-! ## Names -/

/-- Numbers are written differently. -/
theorem toString_injective : Function.Injective (toString : ℕ → String) := by
  intro m n h
  have hdigits : Nat.toDigits 10 m = Nat.toDigits 10 n := by
    have hrepr : Nat.repr m = Nat.repr n := h
    rw [Nat.repr_eq_ofList_toDigits, Nat.repr_eq_ofList_toDigits] at hrepr
    exact String.ofList_injective hrepr
  have hvalue := congrArg (fun digits => Nat.ofDigitChars 10 digits 0) hdigits
  simpa using hvalue

/-- The assignments of `_in_clause`. -/
def inBindings (pre : String) (values : Option (List String)) : Bindings :=
  (values.getD []).zipIdx.map fun v => (pre ++ toString v.2, .text v.1)

/-- The assignment of a clause on a text, when there is one. -/
def textBindings (name : String) : Option String → Bindings
  | none | some "" => []
  | some value => [(name, .text value)]

/-- The assignment of a clause on an integer, when there is one. -/
def intBindings (name : String) : Option ℤ → Bindings
  | none => []
  | some value => [(name, .int value)]

/-- The assignments to `params`, in their order. -/
def TransactionFilter.bindings (f : TransactionFilter) : Bindings :=
  inBindings "merchant_" f.merchant_id ++ (inBindings "status_" f.status ++
    (inBindings "pstatus_" f.payment_status ++ (inBindings "sstatus_" f.settlement_status ++
      (textBindings "currency" f.currency ++ (textBindings "date_from" f.date_from ++
        (textBindings "date_to" f.date_to ++ (intBindings "min_amount" f.min_amount_minor ++
          intBindings "max_amount" f.max_amount_minor)))))))

/-- The first two characters of a name. -/
def initials (name : String) : List Char := name.toList.take 2

/-- A generated name begins as its prefix does. -/
theorem initials_of_mem_inBindings {pre : String} (hpre : 2 ≤ pre.toList.length)
    {values : Option (List String)} {name : String}
    (h : name ∈ (inBindings pre values).map Prod.fst) : initials name = initials pre := by
  rw [inBindings, List.map_map, List.mem_map] at h
  obtain ⟨v, _, rfl⟩ := h
  show (pre ++ toString v.2).toList.take 2 = pre.toList.take 2
  rw [String.toList_append, List.take_append_of_le_length hpre]

/-- Generated names differ in their indices. -/
theorem nodup_inBindings (pre : String) (values : Option (List String)) :
    ((inBindings pre values).map Prod.fst).Nodup := by
  have hnames : (inBindings pre values).map Prod.fst =
      (List.range' 0 (values.getD []).length).map fun i => pre ++ toString i := by
    rw [← List.zipIdx_map_snd, inBindings, List.map_map, List.map_map]
    rfl
  rw [hnames]
  refine List.Nodup.map (fun i j h => ?_) (List.nodup_range' 1)
  exact toString_injective (String.append_right_inj pre |>.1 h)

/-- Generated names differ from names that begin otherwise. -/
theorem nodup_inBindings_append {pre : String} (hpre : 2 ≤ pre.toList.length)
    (values : Option (List String)) {names : List String} (hnames : names.Nodup)
    (h : ∀ name ∈ names, initials name ≠ initials pre) :
    ((inBindings pre values).map Prod.fst ++ names).Nodup := by
  rw [List.nodup_append]
  refine ⟨nodup_inBindings pre values, hnames, fun name hname name' hname' heq => ?_⟩
  exact h name' hname' (heq ▸ initials_of_mem_inBindings hpre hname)

/-- An optional text binds its own name at most. -/
theorem textBindings_sublist (name : String) (value : Option String) :
    ((textBindings name value).map Prod.fst).Sublist [name] := by
  unfold textBindings
  split
  · exact List.nil_sublist _
  · exact List.nil_sublist _
  · exact List.Sublist.refl _

/-- An optional number binds its own name at most. -/
theorem intBindings_sublist (name : String) (value : Option ℤ) :
    ((intBindings name value).map Prod.fst).Sublist [name] := by
  unfold intBindings
  split
  · exact List.nil_sublist _
  · exact List.Sublist.refl _

/-- Names that begin otherwise than a prefix, and generated ones of other prefixes before them. -/
theorem initials_ne_append {pre pre' : String} {values : Option (List String)} {rest : List String}
    (hpre' : 2 ≤ pre'.toList.length) (hne : initials pre' ≠ initials pre)
    (hrest : ∀ name ∈ rest, initials name ≠ initials pre) :
    ∀ name ∈ (inBindings pre' values).map Prod.fst ++ rest, initials name ≠ initials pre := by
  intro name hname
  rcases List.mem_append.1 hname with hname | hname
  · rwa [initials_of_mem_inBindings hpre' hname]
  · exact hrest name hname

/-- The assignments to fixed names. -/
def TransactionFilter.fixedBindings (f : TransactionFilter) : Bindings :=
  textBindings "currency" f.currency ++ (textBindings "date_from" f.date_from ++
    (textBindings "date_to" f.date_to ++ (intBindings "min_amount" f.min_amount_minor ++
      intBindings "max_amount" f.max_amount_minor)))

/-- The names that are not generated, with those that the queries add. -/
def fixedNames : List String :=
  ["currency", "date_from", "date_to", "min_amount", "max_amount", "limit", "offset", "cutoff", "as_of"]

/-- The names outside the lists are some of the fixed ones, in their order. -/
theorem fixedBindings_sublist (f : TransactionFilter) :
    (f.fixedBindings.map Prod.fst ++ ["limit", "offset", "cutoff", "as_of"]).Sublist fixedNames := by
  simp only [TransactionFilter.fixedBindings, List.map_append, List.append_assoc]
  exact (textBindings_sublist _ _).append ((textBindings_sublist _ _).append
    ((textBindings_sublist _ _).append ((intBindings_sublist _ _).append
      ((intBindings_sublist _ _).append (List.Sublist.refl _)))))

/-- A fixed name begins otherwise than the generated ones. -/
theorem initials_ne_of_mem_fixedNames {name : String} (h : name ∈ fixedNames) {pre : String}
    (hpre : pre ∈ ["merchant_", "status_", "pstatus_", "sstatus_"]) :
    initials name ≠ initials pre := by
  have hall : (fixedNames.all fun name => ["merchant_", "status_", "pstatus_", "sstatus_"].all fun pre =>
      initials name ≠ initials pre) = true := by decide
  exact of_decide_eq_true (List.all_eq_true.1 (List.all_eq_true.1 hall name h) pre hpre)

/-- No name is bound twice, nor is one of those that the queries add. -/
theorem nodup_names (f : TransactionFilter) :
    (f.bindings.map Prod.fst ++ ["limit", "offset", "cutoff", "as_of"]).Nodup := by
  have hsub := fixedBindings_sublist f
  have hbindings : f.bindings = inBindings "merchant_" f.merchant_id ++
      (inBindings "status_" f.status ++ (inBindings "pstatus_" f.payment_status ++
        (inBindings "sstatus_" f.settlement_status ++ f.fixedBindings))) := rfl
  simp only [hbindings, List.map_append, List.append_assoc]
  generalize f.fixedBindings.map Prod.fst ++ ["limit", "offset", "cutoff", "as_of"] = names at hsub
  have hfixed : names.Nodup := List.Nodup.sublist hsub (by decide)
  have hinitials : ∀ pre ∈ ["merchant_", "status_", "pstatus_", "sstatus_"], ∀ name ∈ names,
      initials name ≠ initials pre :=
    fun pre hpre name hname => initials_ne_of_mem_fixedNames (hsub.subset hname) hpre
  have hs := hinitials "sstatus_" (by decide)
  have hp := hinitials "pstatus_" (by decide)
  have ht := hinitials "status_" (by decide)
  have hm := hinitials "merchant_" (by decide)
  -- From the last names to the first.
  have h₁ := @nodup_inBindings_append "sstatus_" (by decide) f.settlement_status names hfixed hs
  have h₂ := @nodup_inBindings_append "pstatus_" (by decide) f.payment_status _ h₁
    (initials_ne_append (by decide) (by decide) hp)
  have h₃ := @nodup_inBindings_append "status_" (by decide) f.status _ h₂
    (initials_ne_append (by decide) (by decide) (initials_ne_append (by decide) (by decide) ht))
  exact @nodup_inBindings_append "merchant_" (by decide) f.merchant_id _ h₃
    (initials_ne_append (by decide) (by decide) (initials_ne_append (by decide) (by decide)
      (initials_ne_append (by decide) (by decide) hm)))

/-! ## The condition -/

/-- Assignments, one after the other. -/
def Bindings.setAll (params : Bindings) (new : Bindings) : Bindings :=
  new.foldl (fun ps b => ps.set b.1 b.2) params

/-- Assignments are made one list after the other. -/
theorem Bindings.setAll_append (params new new' : Bindings) :
    params.setAll (new ++ new') = (params.setAll new).setAll new' := List.foldl_append

/-- Assignments to new names are appended. -/
theorem Bindings.setAll_of_nodup {params new : Bindings}
    (h : ((params ++ new).map Prod.fst).Nodup) : params.setAll new = params ++ new := by
  induction new generalizing params with
  | nil => exact (List.append_nil params).symm
  | cons b new ih =>
    have hset : params.set b.1 b.2 = params ++ [b] := by
      rw [Bindings.set, List.filter_eq_self.2]
      intro p hp
      rw [decide_eq_true_iff]
      rintro heq
      rw [List.map_append, List.nodup_append] at h
      exact h.2.2 _ (List.mem_map_of_mem hp) _ (List.mem_map_of_mem List.mem_cons_self) heq
    have happend : params ++ b :: new = params ++ [b] ++ new := by simp
    rw [happend] at h ⊢
    rw [← ih h, ← hset]
    rfl

/-- The clause of `_in_clause`, when there is one. -/
def inClauses (column : Column) (pre : String) : Option (List String) → List Clause
  | none | some [] => []
  | some values => [.isIn column (values.zipIdx.map fun v => pre ++ toString v.2)]

/-- The clause on a text, when there is one. -/
def textClauses (clause : Clause) : Option String → List Clause
  | none | some "" => []
  | some _ => [clause]

/-- The clause on an integer, when there is one. -/
def intClauses (clause : Clause) : Option ℤ → List Clause
  | none => []
  | some _ => [clause]

namespace Condition

variable (c : Condition)

/-- What a list argument adds to a condition. -/
theorem inClause_eq (column : Column) (values : Option (List String)) (pre : String) :
    c.inClause column values pre = ⟨c.clauses ++ inClauses column pre values,
      c.params.setAll (inBindings pre values)⟩ := by
  match values with
  | none => simp [inClause, inClauses, inBindings, Bindings.setAll]
  | some [] => simp [inClause, inClauses, inBindings, Bindings.setAll]
  | some (v :: vs) => simp [inClause, inClauses, inBindings, Bindings.setAll, List.foldl_map]

/-- What a text argument adds to a condition. -/
theorem textClause_eq (clause : String → Clause) (name : String) (value : Option String) :
    c.textClause clause name value = ⟨c.clauses ++ textClauses (clause name) value,
      c.params.setAll (textBindings name value)⟩ := by
  unfold textClause textClauses textBindings
  split <;> simp [Bindings.setAll]

/-- What a number argument adds to a condition. -/
theorem intClause_eq (clause : String → Clause) (name : String) (value : Option ℤ) :
    c.intClause clause name value = ⟨c.clauses ++ intClauses (clause name) value,
      c.params.setAll (intBindings name value)⟩ := by
  unfold intClause intClauses intBindings
  split <;> simp [Bindings.setAll]

end Condition

/-- The clause on replays, when there is one. -/
def replayClauses : Option Bool → List Clause
  | some true => [.positive .duplicate_event_count]
  | some false => [.zero .duplicate_event_count]
  | none => []

/-- The clauses, in their order. -/
def TransactionFilter.clauses (f : TransactionFilter) : List Clause :=
  inClauses .merchant_id "merchant_" f.merchant_id ++ (inClauses .status "status_" f.status ++
    (inClauses .payment_status "pstatus_" f.payment_status ++
      (inClauses .settlement_status "sstatus_" f.settlement_status ++
        (textClauses (.eq .currency "currency") f.currency ++
          (textClauses (.ge f.date_field.column "date_from") f.date_from ++
            (textClauses (.le f.date_field.column "date_to") f.date_to ++
              (intClauses (.ge .amount_minor "min_amount") f.min_amount_minor ++
                (intClauses (.le .amount_minor "max_amount") f.max_amount_minor ++
                  replayClauses f.has_duplicates))))))))

/-- The condition consists of the clauses and of the assignments, none of which overwrites another. -/
theorem buildTransactionFilters_eq (f : TransactionFilter) :
    buildTransactionFilters f = ⟨f.clauses, f.bindings⟩ := by
  have hnodup : (([] ++ f.bindings).map Prod.fst).Nodup :=
    (nodup_names f).sublist (List.sublist_append_left _ _)
  have hparams : Bindings.setAll [] f.bindings = f.bindings := Bindings.setAll_of_nodup hnodup
  have hbuild : buildTransactionFilters f = ⟨f.clauses, Bindings.setAll [] f.bindings⟩ := by
    simp only [buildTransactionFilters, Condition.inClause_eq, Condition.textClause_eq,
      Condition.intClause_eq, TransactionFilter.bindings, Bindings.setAll_append, List.nil_append,
      TransactionFilter.clauses]
    cases f.has_duplicates with
    | none => simp [replayClauses]
    | some b => cases b <;> simp [replayClauses]
  rw [hbuild, hparams]

/-! ## The rows that match -/

/-- The column of a date range. -/
def DateField.read (t : TransactionRow) : DateField → Option String
  | first_event_at => some t.first_event_at
  | last_event_at => some t.last_event_at
  | initiated_at => t.initiated_at
  | settled_at => t.settled_at

/-- What the arguments ask of a transaction. -/
structure TransactionFilter.Matches (f : TransactionFilter) (t : TransactionRow) : Prop where
  /-- The merchant is one of the list. -/
  merchant_id : ∀ values ∈ f.merchant_id, values ≠ [] → t.merchant_id ∈ values
  /-- The status is one of the list. -/
  status : ∀ values ∈ f.status, values ≠ [] → t.status.value ∈ values
  /-- The payment status is one of the list. -/
  payment_status : ∀ values ∈ f.payment_status, values ≠ [] → t.payment_status.value ∈ values
  /-- The settlement status is one of the list. -/
  settlement_status : ∀ values ∈ f.settlement_status, values ≠ [] →
    t.settlement_status.value ∈ values
  /-- The currency is the given one. -/
  currency : ∀ currency ∈ f.currency, currency ≠ "" → t.currency = currency
  /-- The date is there, and not before the lower bound. -/
  date_from : ∀ lower ∈ f.date_from, lower ≠ "" → ∃ date ∈ f.date_field.read t, lower ≤ date
  /-- The date is there, and not after the upper bound. -/
  date_to : ∀ upper ∈ f.date_to, upper ≠ "" → ∃ date ∈ f.date_field.read t, date ≤ upper
  /-- The amount is not less than the lower bound. -/
  min_amount : ∀ lower ∈ f.min_amount_minor, lower ≤ t.amount_minor
  /-- The amount is not greater than the upper bound. -/
  max_amount : ∀ upper ∈ f.max_amount_minor, t.amount_minor ≤ upper
  /-- There are replays, or there are none. -/
  has_duplicates : ∀ has ∈ f.has_duplicates, (has = true ↔ 0 < t.duplicate_event_count)

/-- A condition selects a row when all of its clauses are true. -/
theorem selects_iff (c : Condition) (t : TransactionRow) :
    c.selects t = true ↔ ∀ clause ∈ c.clauses, (clause.eval c.params t).holds = true := by
  unfold Condition.selects
  generalize c.clauses = clauses
  induction clauses with
  | nil => simp
  | cons clause clauses ih =>
    rw [List.foldr_cons, Tri.holds_and, Bool.and_eq_true, ih, List.forall_mem_cons]

/-- Parameters that are what some assignments have made them. -/
def Bindings.Has (params new : Bindings) : Prop := ∀ b ∈ new, params.lookup b.1 = some b.2

/-- What is assigned to a name that is not assigned again is found. -/
theorem Bindings.has_of_nodup {params new : Bindings} (h : (params.map Prod.fst).Nodup)
    (hsub : new ⊆ params) : params.Has new := by
  intro b hb
  obtain ⟨before, after, hparams⟩ := List.append_of_mem (hsub hb)
  rw [hparams, List.map_append, List.map_cons, List.nodup_append] at h
  rw [hparams, List.lookup_append, List.lookup_eq_none_iff.2, Option.none_or, List.lookup_cons_self]
  intro p hp
  rw [bne_iff_ne]
  exact (h.2.2 _ (List.mem_map_of_mem hp) _ List.mem_cons_self).symm

/-- Parameters have two lists of assignments when they have both. -/
theorem Bindings.has_append {params new new' : Bindings} :
    params.Has (new ++ new') ↔ params.Has new ∧ params.Has new' := List.forall_mem_append

/-- A comparison of values that are there. -/
theorem holds_comparison {r : Value → Value → Prop} [DecidableRel r] (x y : Value) :
    (comparison r (some x) (some y)).holds = true ↔ r x y := by
  simp [comparison]

/-- A comparison with a value that may be `NULL`. -/
theorem holds_comparison_map {r : Value → Value → Prop} [DecidableRel r] (x : Option String)
    (y : Value) :
    (comparison r (x.map .text) (some y)).holds = true ↔ ∃ text ∈ x, r (.text text) y := by
  cases x with
  | none => simp [comparison, Tri.holds]
  | some text => simp [holds_comparison]

section

variable {params : Bindings} {t : TransactionRow}

/-- A column is one of the values of its list. -/
theorem holds_inClauses {column : Column} {text pre : String} {values : Option (List String)}
    (hread : column.read t = some (.text text)) (h : params.Has (inBindings pre values)) :
    (∀ clause ∈ inClauses column pre values, (clause.eval params t).holds = true) ↔
      ∀ vs ∈ values, vs ≠ [] → text ∈ vs := by
  match values with
  | none => simp [inClauses]
  | some [] => simp [inClauses]
  | some (v :: vs) =>
    -- `IN` is a disjunction, which is true when one of its comparisons is.
    have hfold : ∀ names : List String, (names.foldr (fun n acc =>
        (comparison (· = ·) (column.read t) (params.lookup n)).or acc) (some false)).holds = true ↔
          ∃ n ∈ names, (comparison (· = ·) (column.read t) (params.lookup n)).holds = true := by
      intro names
      induction names with
      | nil => simp
      | cons n names ih =>
        rw [List.foldr_cons, Tri.holds_or, Bool.or_eq_true, ih, List.exists_mem_cons_iff]
    simp only [inClauses, List.forall_mem_singleton, Clause.eval, Option.mem_def, Option.some.injEq,
      forall_eq', ne_eq, reduceCtorEq, not_false_eq_true, true_implies]
    rw [hfold, hread]
    constructor
    · rintro ⟨n, hn, hholds⟩
      -- The parameter that makes the comparison true is bound to one of the values.
      obtain ⟨b, hb, rfl⟩ := List.mem_map.1 hn
      have hlookup := h _ (List.mem_map_of_mem hb)
      rw [hlookup, holds_comparison] at hholds
      cases hholds
      exact List.fst_mem_of_mem_zipIdx hb
    · intro hmem
      -- The value at position `i` has a parameter of its own.
      obtain ⟨i, hi⟩ := List.mem_iff_getElem?.1 hmem
      have hb : (text, i) ∈ (v :: vs).zipIdx := List.mem_zipIdx_iff_getElem?.2 hi
      have hlookup := h _ (List.mem_map_of_mem hb)
      refine ⟨_, List.mem_map_of_mem hb, ?_⟩
      rw [hlookup, holds_comparison]

/-- A clause on a text compares with its value. -/
theorem holds_textClauses {clause : Clause} {name : String} {value : Option String} {P : String → Prop}
    (h : params.Has (textBindings name value))
    (hclause : ∀ v, params.lookup name = some (.text v) →
      ((clause.eval params t).holds = true ↔ P v)) :
    (∀ c ∈ textClauses clause value, (c.eval params t).holds = true) ↔
      ∀ v ∈ value, v ≠ "" → P v := by
  unfold textClauses
  unfold textBindings at h
  split
  · simp
  · simp
  · rename_i v hv
    have hlookup := h (name, .text v) (by simp)
    have hne : v ≠ "" := fun heq => hv (heq ▸ rfl)
    rw [List.forall_mem_singleton, hclause v hlookup]
    simp [hne]

/-- A clause on an integer compares with its value. -/
theorem holds_intClauses {clause : Clause} {name : String} {value : Option ℤ} {P : ℤ → Prop}
    (h : params.Has (intBindings name value))
    (hclause : ∀ v, params.lookup name = some (.int v) →
      ((clause.eval params t).holds = true ↔ P v)) :
    (∀ c ∈ intClauses clause value, (c.eval params t).holds = true) ↔ ∀ v ∈ value, P v := by
  unfold intClauses
  unfold intBindings at h
  split
  · simp
  · rename_i v
    have hlookup := h (name, .int v) (by simp)
    rw [List.forall_mem_singleton, hclause v hlookup]
    simp

/-- The clause on replays counts them. -/
theorem holds_replayClauses {has_duplicates : Option Bool} :
    (∀ c ∈ replayClauses has_duplicates, (c.eval params t).holds = true) ↔
      ∀ has ∈ has_duplicates, (has = true ↔ 0 < t.duplicate_event_count) := by
  have hint : ∀ m n : ℤ, Value.int m = Value.int n ↔ m = n := fun m n => by simp
  have hlt : ∀ m n : ℤ, Value.int m > Value.int n ↔ n < m := by
    intro m n
    rw [gt_iff_lt, ← not_le, Value.int_le_int, not_le]
  match has_duplicates with
  | none => simp [replayClauses]
  | some true =>
    simp only [replayClauses, List.forall_mem_singleton, Clause.eval, Column.read, holds_comparison,
      hlt]
    simp
  | some false =>
    simp only [replayClauses, List.forall_mem_singleton, Clause.eval, Column.read, holds_comparison,
      hint]
    simp

end

/-- The value of the column of a date range. -/
theorem DateField.read_column (field : DateField) (t : TransactionRow) :
    field.column.read t = (field.read t).map .text := by
  cases field <;> rfl

/-- The condition selects the rows that match, under three-valued logic. -/
theorem selects_iff_matches (f : TransactionFilter) (t : TransactionRow) :
    (buildTransactionFilters f).selects t = true ↔ f.Matches t := by
  rw [selects_iff, buildTransactionFilters_eq]
  dsimp only
  obtain ⟨params, hparams⟩ : ∃ params, f.bindings = params := ⟨_, rfl⟩
  have hnodup : (f.bindings.map Prod.fst).Nodup :=
    (nodup_names f).sublist (List.sublist_append_left _ _)
  have hhas : params.Has f.bindings :=
    hparams ▸ Bindings.has_of_nodup hnodup (List.Subset.refl _)
  rw [hparams]
  simp only [TransactionFilter.bindings, Bindings.has_append] at hhas
  obtain ⟨hmerchant, hstatus, hpayment, hsettlement, hcurrency, hfrom, hto, hmin, hmax⟩ := hhas
  have htext : ∀ v, params.lookup "currency" = some (.text v) →
      (((Clause.eq .currency "currency").eval params t).holds = true ↔ t.currency = v) := by
    intro v hv
    rw [Clause.eval, hv, Column.read, holds_comparison, Value.text.injEq]
  -- A date that may be `NULL`, compared with a bound.
  have hge : ∀ v, params.lookup "date_from" = some (.text v) →
      (((Clause.ge f.date_field.column "date_from").eval params t).holds = true ↔
        ∃ date ∈ f.date_field.read t, v ≤ date) := by
    intro v hv
    rw [Clause.eval, hv, DateField.read_column, holds_comparison_map]
    simp only [ge_iff_le, Value.text_le_text]
  have hle : ∀ v, params.lookup "date_to" = some (.text v) →
      (((Clause.le f.date_field.column "date_to").eval params t).holds = true ↔
        ∃ date ∈ f.date_field.read t, date ≤ v) := by
    intro v hv
    rw [Clause.eval, hv, DateField.read_column, holds_comparison_map]
    simp only [Value.text_le_text]
  have hlow : ∀ v, params.lookup "min_amount" = some (.int v) →
      (((Clause.ge .amount_minor "min_amount").eval params t).holds = true ↔ v ≤ t.amount_minor) := by
    intro v hv
    rw [Clause.eval, hv, Column.read, holds_comparison, ge_iff_le, Value.int_le_int]
  have hhigh : ∀ v, params.lookup "max_amount" = some (.int v) →
      (((Clause.le .amount_minor "max_amount").eval params t).holds = true ↔ t.amount_minor ≤ v) := by
    intro v hv
    rw [Clause.eval, hv, Column.read, holds_comparison, Value.int_le_int]
  simp only [TransactionFilter.clauses, List.forall_mem_append]
  rw [@holds_inClauses params t .merchant_id t.merchant_id _ _ rfl hmerchant,
    @holds_inClauses params t .status t.status.value _ _ rfl hstatus,
    @holds_inClauses params t .payment_status t.payment_status.value _ _ rfl hpayment,
    @holds_inClauses params t .settlement_status t.settlement_status.value _ _ rfl hsettlement,
    holds_textClauses hcurrency htext, holds_textClauses hfrom hge, holds_textClauses hto hle,
    holds_intClauses hmin hlow, holds_intClauses hmax hhigh, holds_replayClauses]
  constructor
  · rintro ⟨h₁, h₂, h₃, h₄, h₅, h₆, h₇, h₈, h₉, h₁₀⟩
    exact ⟨h₁, h₂, h₃, h₄, h₅, h₆, h₇, h₈, h₉, h₁₀⟩
  · rintro ⟨h₁, h₂, h₃, h₄, h₅, h₆, h₇, h₈, h₉, h₁₀⟩
    exact ⟨h₁, h₂, h₃, h₄, h₅, h₆, h₇, h₈, h₉, h₁₀⟩

/-! ## One set of transactions -/

/-- The rows that a condition selects, put into an order and cut into pages. -/
theorem mem_listTransactions {db : Database} (hp : db.Projected) {where_ : Condition}
    {sort_by : TransactionSort} {sort_order : SortOrder} {limit : ℕ} (hl : 0 < limit) {id : String} :
    (∃ offset, ∃ r ∈ listTransactions where_ sort_by sort_order limit offset db,
        r.1.transaction_id = id) ↔
      id ∈ (db.transactions.rows.filter where_.selects).map TransactionRow.transaction_id := by
  rw [← hp.joined_filter_map_fst, List.map_map, List.mem_map]
  constructor
  · rintro ⟨offset, r, hr, rfl⟩
    exact ⟨r, mem_orderBy.1 (mem_of_mem_page hr), rfl⟩
  · rintro ⟨r, hr, rfl⟩
    obtain ⟨k, hk⟩ := (mem_page hl).1 (mem_orderBy.2 hr)
    exact ⟨_, r, hk, rfl⟩

/-- Filters mean what they say. For all arguments: the condition selects the rows that match them, a
bound of the date range counting when it is not empty; the parameters are the assignments in their
order, and no name is assigned twice, nor is one that the queries add. In every reachable database, the
count, the list over all its pages, the totals, the groups, and the discrepancies are those of one set of
transactions, the ones that match. -/
theorem filters_mean_what_they_say (f : TransactionFilter) {db : Database} (h : Reachable db) :
    let where_ := buildTransactionFilters f
    let ids := (db.transactions.rows.filter where_.selects).map TransactionRow.transaction_id
    (∀ t, where_.selects t = true ↔ f.Matches t) ∧
      where_.params = f.bindings ∧
      (f.bindings.map Prod.fst ++ ["limit", "offset", "cutoff", "as_of"]).Nodup ∧
      (∀ id, id ∈ ids ↔ ∃ t ∈ db.transactions.rows, f.Matches t ∧ t.transaction_id = id) ∧
      countTransactions where_ db = ids.length ∧
      (∀ sort_by sort_order limit, 0 < limit → ∀ id,
        (∃ offset, ∃ r ∈ listTransactions where_ sort_by sort_order limit offset db,
          r.1.transaction_id = id) ↔ id ∈ ids) ∧
      (∀ group_by cutoff limit offset,
        (reconciliationSummary db where_ group_by cutoff limit offset).totals =
            metrics cutoff (db.transactions.rows.filter where_.selects) ∧
          (groupRows db where_ group_by).map (fun r => r.1.transaction_id) = ids) ∧
      ∀ cutoff, (flagged db where_ cutoff).map (fun r => r.t.transaction_id) = ids := by
  have hp := h.projected
  intro where_ ids
  refine ⟨selects_iff_matches f, ?_, nodup_names f, fun id => ?_, ?_,
    fun _ _ _ hl _ => mem_listTransactions hp hl, fun group_by cutoff limit offset => ⟨?_, ?_⟩,
    fun cutoff => ?_⟩
  · simp only [where_, buildTransactionFilters_eq]
  · simp only [ids, List.mem_map, List.mem_filter, where_, selects_iff_matches, and_assoc]
  · simp only [ids, countTransactions, List.length_map]
  -- With the joins, the three queries go through the same transactions, each once.
  · unfold reconciliationSummary
    dsimp only
    split_ifs <;> rfl
  · simp only [ids]
    rw [← hp.groupRows_map_fst where_ group_by, List.map_map]
    rfl
  · simp only [ids]
    rw [← hp.flagged_map_t where_ cutoff, List.map_map]
    rfl

/-- Three transactions of two merchants. -/
def threeTransactions : List EventIn :=
  [exampleEvent, sampleEvent "1" "a" .settled, (sampleEvent "2" "b" .payment_failed).reassigned "3"]

/-- The filter names one merchant twice, and one that is not there: the transactions of the first one are
counted, and listed in pages of one. -/
theorem filters_mean_two_merchants :
    let db := Database.empty.applyAll exampleEvent.timestamp threeTransactions
    let where_ := buildTransactionFilters { merchant_id := some ["merchant_2", "m", "merchant_2"] }
    countTransactions where_ db = 2 ∧
      ∀ id, (∃ offset, ∃ r ∈ listTransactions where_ .amount .desc 1 offset db,
        r.1.transaction_id = id) ↔ id ∈ [exampleEvent.transaction_id, "a"] := by
  intro db where_
  obtain ⟨-, -, -, -, hcount, hlist, -⟩ :=
    filters_mean_what_they_say { merchant_id := some ["merchant_2", "m", "merchant_2"] }
      ⟨_, Run.empty.ingest exampleEvent.timestamp threeTransactions⟩
  have hids : (db.transactions.rows.filter where_.selects).map TransactionRow.transaction_id =
      [exampleEvent.transaction_id, "a"] := by decide +kernel
  refine ⟨hcount.trans (congrArg List.length hids), fun id => ?_⟩
  rw [← hids]
  exact hlist .amount .desc 1 Nat.one_pos id

/-- A bound that is given as the empty text is no bound: a transaction that was never settled is
selected by it, though the date that is to be compared with it is `NULL`. -/
theorem empty_bound_ignored :
    ((Database.empty.applyAll "" [exampleEvent]).transactions.rows.map fun t => (t.settled_at,
        (buildTransactionFilters { date_from := some "", date_field := .settled_at }).selects t)) =
      [(none, true)] ∧
      ¬ ∀ (f : TransactionFilter) (t : TransactionRow), (buildTransactionFilters f).selects t = true →
        ∀ lower ∈ f.date_from, ∃ date ∈ f.date_field.read t, lower ≤ date := by
  have hselected : ((Database.empty.applyAll "" [exampleEvent]).transactions.rows.map fun t =>
      (t.settled_at, (buildTransactionFilters
        { date_from := some "", date_field := .settled_at }).selects t)) = [(none, true)] := by
    decide +kernel
  refine ⟨hselected, fun h => ?_⟩
  have hmem : (none, true) ∈ (Database.empty.applyAll "" [exampleEvent]).transactions.rows.map
      fun t => (t.settled_at, (buildTransactionFilters
        { date_from := some "", date_field := .settled_at }).selects t) := by
    rw [hselected]
    exact List.mem_singleton.2 rfl
  obtain ⟨t, _, ht⟩ := List.mem_map.1 hmem
  obtain ⟨hnull, hselects⟩ := Prod.mk.inj ht
  obtain ⟨date, hdate, _⟩ := h _ t hselects "" rfl
  rw [DateField.read, hnull] at hdate
  cases hdate

end PaymentRecon
