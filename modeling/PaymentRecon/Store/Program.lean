import Mathlib.Data.Nat.Notation

/-!
# Programs over a transactional store

`Prog` is the syntax of a program that talks to a store through one connection: it returns or
raises, or it performs an operation and goes on with the reply or with the exception that the
operation raised. The operations are the three transaction statements, a statement on the store, and
a call of code outside the store, which can only succeed or raise.

A connection (`Conn`) sees the committed contents and, inside a transaction, a working copy. Outside
a transaction a statement commits at once. What the model assumes of the engine is in `Op.attempt`
and `Op.fail`: `commit` makes the working copy the committed contents, `rollback` drops it and cannot
fail inside a transaction, a statement that raises changes nothing, and an operation that fails from
outside leaves the transaction open (`Fault.raise`) or, for a statement and `commit`, may end it
(`Fault.abort`).

`transaction body` is the pattern `begin; try body; commit; except: rollback; raise`.
`transaction_run` shows that it is atomic whichever operations fail, when `body` is made of
statements and calls and does not catch exceptions (`Work`): either it raises and leaves the
connection as it was, or nothing failed and the committed contents are those that `body` computes
(`Prog.eval`).
-/

namespace Store

/-- The engine's own refusals of a transaction statement. -/
inductive Refusal
  /-- `begin` inside a transaction. -/
  | nested
  /-- `commit` or `rollback` outside one. -/
  | noTransaction
deriving DecidableEq, Repr

/-- What a program raises: a refusal of the engine, or an exception of a statement or a call. -/
inductive Exc (ε : Type)
  /-- The engine refused a transaction statement. -/
  | refused (r : Refusal)
  /-- A statement or a call raised. -/
  | raised (e : ε)
deriving DecidableEq, Repr

/-- A failure that comes from outside the program: a busy or broken store, or a call that
raises. -/
inductive Fault (ε : Type)
  /-- The operation raises and the transaction stays open. -/
  | raise (e : ε)
  /-- The operation raises and the engine has already rolled the transaction back. -/
  | abort (e : ε)
deriving DecidableEq, Repr

/-- The exception of a failure. -/
def Fault.error {ε : Type} : Fault ε → ε
  | .raise e => e
  | .abort e => e

/-- The operations of a program over contents `σ`, whose statements reply with at most one row of
type `ρ` and raise exceptions of type `ε`. -/
inductive Op (σ ρ ε : Type)
  /-- Open a transaction and take the write lock. -/
  | begin
  /-- Make the working copy the committed contents. -/
  | commit
  /-- Drop the working copy. -/
  | rollback
  /-- Run a statement. -/
  | stmt (run : σ → Except ε (Option ρ × σ))
  /-- Run code outside the store. -/
  | call

/-- A program: it ends with a value or an exception, or performs an operation and goes on. -/
inductive Prog (σ ρ ε α : Type)
  /-- Return or raise. -/
  | ret (r : Except (Exc ε) α)
  /-- Perform an operation. -/
  | op (o : Op σ ρ ε) (k : Except (Exc ε) (Option ρ) → Prog σ ρ ε α)

/-- A connection: the committed contents, and the working copy of an open transaction. -/
structure Conn (σ : Type) where
  /-- What every other connection reads. -/
  committed : σ
  /-- The contents inside the transaction, when one is open. -/
  working : Option σ
deriving DecidableEq, Repr

/-- A connection without an open transaction. -/
def Conn.idle {σ : Type} (s : σ) : Conn σ := ⟨s, none⟩

/-- What a run ends with: its result, the number of operations performed, and the connection. -/
structure Outcome (σ ε α : Type) where
  /-- The value returned or the exception raised. -/
  result : Except (Exc ε) α
  /-- The operations performed, counted from the start of the fault schedule. -/
  ticks : ℕ
  /-- The connection afterwards. -/
  conn : Conn σ

variable {σ ρ ε α β : Type}

namespace Op

/-- An operation that does not fail from outside. -/
def attempt (o : Op σ ρ ε) (c : Conn σ) : Except (Exc ε) (Option ρ) × Conn σ :=
  match o, c.working with
  | .begin, none => (.ok none, { c with working := some c.committed })
  | .begin, some _ => (.error (.refused .nested), c)
  | .commit, some w => (.ok none, ⟨w, none⟩)
  | .commit, none => (.error (.refused .noTransaction), c)
  | .rollback, some _ => (.ok none, { c with working := none })
  | .rollback, none => (.error (.refused .noTransaction), c)
  | .stmt run, some w =>
    match run w with
    | .ok (row, w') => (.ok row, { c with working := some w' })
    | .error e => (.error (.raised e), c)
  -- Outside a transaction every statement commits at once.
  | .stmt run, none =>
    match run c.committed with
    | .ok (row, s') => (.ok row, ⟨s', none⟩)
    | .error e => (.error (.raised e), c)
  | .call, _ => (.ok none, c)

/-- An operation that fails from outside. A rollback does not. -/
def fail (o : Op σ ρ ε) (f : Fault ε) (c : Conn σ) : Except (Exc ε) (Option ρ) × Conn σ :=
  match o, f with
  | .rollback, _ => attempt .rollback c
  -- The engine may roll back by itself: a full disk, an I/O error, a deadlock.
  | .stmt _, .abort e => (.error (.raised e), { c with working := none })
  | .commit, .abort e => (.error (.raised e), { c with working := none })
  | _, .raise e => (.error (.raised e), c)
  | _, .abort e => (.error (.raised e), c)

/-- An operation under an optional fault. -/
def exec (o : Op σ ρ ε) (fault : Option (Fault ε)) (c : Conn σ) :
    Except (Exc ε) (Option ρ) × Conn σ :=
  match fault with
  | none => o.attempt c
  | some f => o.fail f c

/-- Whether an operation works inside a transaction without ending it: a statement or a call. -/
def IsWork : Op σ ρ ε → Prop
  | .stmt _ => True
  | .call => True
  | _ => False

end Op

namespace Prog

/-- Go on with the value of a program. -/
def bind : Prog σ ρ ε α → (α → Prog σ ρ ε β) → Prog σ ρ ε β
  | .ret (.ok a), f => f a
  | .ret (.error e), _ => .ret (.error e)
  -- The operation may have failed: what comes after is up to its continuation.
  | .op o k, f => .op o fun r => (k r).bind f

/-- Go on with the exception of a program. -/
def tryCatch : Prog σ ρ ε α → (Exc ε → Prog σ ρ ε α) → Prog σ ρ ε α
  | .ret (.ok a), _ => .ret (.ok a)
  | .ret (.error e), h => h e
  | .op o k, h => .op o fun r => (k r).tryCatch h

instance : Monad (Prog σ ρ ε) where
  pure a := .ret (.ok a)
  bind := bind

instance : MonadExcept (Exc ε) (Prog σ ρ ε) where
  throw e := .ret (.error e)
  tryCatch := tryCatch

/-- Perform an operation for its effect. -/
def perform (o : Op σ ρ ε) : Prog σ ρ ε Unit := .op o fun r => .ret (r.map fun _ => ())

/-- Call code outside the store, which returns or raises `r` unless it fails from outside. -/
def calling (r : Except ε α) : Prog σ ρ ε α :=
  .op .call fun reply => match reply with
    | .ok _ => .ret (r.mapError .raised)
    | .error e => .ret (.error e)

/-- Run a statement and fetch its row. -/
def fetchone (run : σ → Except ε (Option ρ × σ)) : Prog σ ρ ε (Option ρ) := .op (.stmt run) .ret

/-- Run a statement that replies with no row. -/
def execute (run : σ → Except ε σ) : Prog σ ρ ε Unit :=
  perform (.stmt fun s => (run s).map fun s' => (none, s'))

/-- Run a program on a connection under a fault schedule: operation number `n` fails as `faults n`
says. -/
def run (faults : ℕ → Option (Fault ε)) : Prog σ ρ ε α → ℕ → Conn σ → Outcome σ ε α
  | .ret r, n, c => ⟨r, n, c⟩
  | .op o k, n, c => (k (o.exec (faults n) c).1).run faults (n + 1) (o.exec (faults n) c).2

/-- The value and the contents that a program of statements and calls computes when nothing fails
from outside. -/
def eval : Prog σ ρ ε α → σ → Except (Exc ε) α × σ
  | .ret r, s => (r, s)
  | .op (.stmt run) k, s =>
    match run s with
    | .ok (row, s') => (k (.ok row)).eval s'
    | .error e => (k (.error (.raised e))).eval s
  | .op _ k, s => (k (.ok none)).eval s

/-- A program made of statements and calls that lets every exception through. -/
def Work : Prog σ ρ ε α → Prop
  | .ret _ => True
  | .op o k => o.IsWork ∧ (∀ e, k (.error e) = .ret (.error e)) ∧ ∀ r, (k r).Work

/-- To return is work. -/
@[simp] theorem work_pure (a : α) : (pure a : Prog σ ρ ε α).Work := trivial

/-- Programs of statements and calls compose. -/
theorem Work.bind {p : Prog σ ρ ε α} {f : α → Prog σ ρ ε β} (hp : p.Work)
    (hf : ∀ a, (f a).Work) : (p >>= f).Work := by
  induction p with
  | ret r =>
    cases r with
    | ok a => exact hf a
    | error e => trivial
  | op o k ih =>
    obtain ⟨ho, hk, hw⟩ := hp
    refine ⟨ho, fun e => ?_, fun r => ih r (hw r)⟩
    -- An exception of the operation passes through both parts.
    simp only [hk]
    rfl

/-- A call is work. -/
@[simp] theorem work_calling (r : Except ε α) : (calling r : Prog σ ρ ε α).Work :=
  ⟨trivial, fun _ => rfl, fun reply => by cases reply <;> trivial⟩

/-- A query is work. -/
@[simp] theorem work_fetchone (run : σ → Except ε (Option ρ × σ)) : (fetchone run).Work :=
  ⟨trivial, fun _ => rfl, fun _ => trivial⟩

/-- A statement is work. -/
@[simp] theorem work_execute (run : σ → Except ε σ) :
    (execute run : Prog σ ρ ε Unit).Work :=
  ⟨trivial, fun _ => rfl, fun _ => trivial⟩

/-- A program's value feeds the rest, on the contents that it leaves. -/
theorem eval_bind {p : Prog σ ρ ε α} (f : α → Prog σ ρ ε β) (s : σ) :
    (p >>= f).eval s =
      match p.eval s with
      | (.ok a, s') => (f a).eval s'
      | (.error e, s') => (.error e, s') := by
  induction p generalizing s with
  | ret r => cases r <;> rfl
  | op o k ih =>
    cases o with
    | stmt run =>
      show Prog.eval (.op (.stmt run) fun r => (k r).bind f) s = _
      simp only [eval]
      cases run s with
      | ok r => exact ih _ _
      | error e => exact ih _ _
    | _ => exact ih _ _

/-- A call gives its value or its exception, and leaves the contents. -/
@[simp] theorem eval_calling (r : Except ε α) (s : σ) :
    (calling r : Prog σ ρ ε α).eval s = (r.mapError .raised, s) := rfl

/-- A statement that succeeds replies with its row. -/
theorem eval_fetchone {run : σ → Except ε (Option ρ × σ)} {s s' : σ} {row : Option ρ}
    (h : run s = .ok (row, s')) : (fetchone run).eval s = (.ok row, s') := by
  simp only [fetchone, eval, h]

/-- A statement that succeeds leaves its contents. -/
theorem eval_execute {run : σ → Except ε σ} {s s' : σ} (h : run s = .ok s') :
    (execute run : Prog σ ρ ε Unit).eval s = (.ok (), s') := by
  simp only [execute, perform, eval, h, Except.map]

/-! ## Transactions -/

/-- Roll back and raise again. -/
def unwind (e : Exc ε) : Prog σ ρ ε α := do
  perform .rollback
  throw e

/-- The part of a transaction after `begin`: the body and `commit`, with `unwind` on an
exception. -/
def guarded (body : Prog σ ρ ε α) : Prog σ ρ ε α :=
  try
    let a ← body
    perform .commit
    pure a
  catch e =>
    unwind e

/-- `begin; try body; commit; except: rollback; raise`. -/
def transaction (body : Prog σ ρ ε α) : Prog σ ρ ε α := do
  perform .begin
  guarded body

/-- Programs that begin with the same operation and go on in the same way are the same. -/
theorem op_congr {o : Op σ ρ ε} {k k' : Except (Exc ε) (Option ρ) → Prog σ ρ ε α}
    (h : ∀ r, k r = k' r) : Prog.op o k = Prog.op o k' :=
  congrArg (Prog.op o) (funext h)

/-- An operation comes first inside the guard, too. -/
theorem guarded_op (o : Op σ ρ ε) (k : Except (Exc ε) (Option ρ) → Prog σ ρ ε α) :
    guarded (.op o k) = .op o fun r => guarded (k r) := rfl

/-- An exception inside the guard is unwound. -/
theorem guarded_error (e : Exc ε) : guarded (.ret (.error e) : Prog σ ρ ε α) = unwind e := rfl

/-- A value inside the guard is committed. -/
theorem guarded_ok (a : α) :
    guarded (.ret (.ok a) : Prog σ ρ ε α) =
      .op .commit fun r => match r with
        | .ok _ => .ret (.ok a)
        | .error e => unwind e :=
  op_congr fun r => by cases r <;> rfl

/-- To unwind is to roll back and to raise again. -/
theorem unwind_eq (e : Exc ε) :
    (unwind e : Prog σ ρ ε α) = .op .rollback fun r => match r with
      | .ok _ => .ret (.error e)
      | .error e' => .ret (.error e') :=
  op_congr fun r => by cases r <;> rfl

/-- A transaction begins, and then is guarded. -/
theorem transaction_eq (body : Prog σ ρ ε α) :
    transaction body = .op .begin fun r => match r with
      | .ok _ => guarded body
      | .error e => .ret (.error e) :=
  op_congr fun r => by cases r <;> rfl

/-- A call that returns is followed by what comes after its value. -/
theorem calling_bind_congr {a : α} {f g : α → Prog σ ρ ε β} (h : f a = g a) :
    (calling (.ok a) >>= f) = calling (.ok a) >>= g :=
  op_congr fun reply => by
    cases reply with
    | ok _ => exact h
    | error e => rfl

/-- A value computed from a transaction's value may be computed inside the transaction. -/
theorem map_transaction (body : Prog σ ρ ε α) (f : α → β) :
    (transaction body >>= fun a => pure (f a)) = transaction (body >>= fun a => pure (f a)) := by
  have hunwind : ∀ e : Exc ε, ((unwind e : Prog σ ρ ε α) >>= fun a => pure (f a)) = unwind e := by
    intro e
    rw [unwind_eq, unwind_eq]
    exact op_congr fun r => by cases r <;> rfl
  -- Applying the function to what the body returns, or to what comes out of the handler around it.
  have hguarded : (guarded body >>= fun a => pure (f a)) =
      guarded (body >>= fun a => pure (f a)) := by
    induction body with
    | ret r =>
      cases r with
      | error e => exact hunwind e
      | ok a =>
        show (guarded (.ret (.ok a)) >>= fun a => pure (f a)) = guarded (.ret (.ok (f a)))
        rw [guarded_ok, guarded_ok]
        refine op_congr fun r => ?_
        cases r with
        | ok _ => rfl
        | error e => exact hunwind e
    | op o k ih => exact op_congr ih
  rw [transaction_eq, transaction_eq]
  refine op_congr fun r => ?_
  cases r with
  | ok _ => exact hguarded
  | error e => rfl

/-- Unwinding raises and closes the transaction, whether or not the engine had closed it before. -/
theorem unwind_run (faults : ℕ → Option (Fault ε)) (e : Exc ε) (n : ℕ) (s : σ) (w : Option σ) :
    (∃ e', ((unwind e : Prog σ ρ ε α).run faults n ⟨s, w⟩).result = .error e') ∧
      ((unwind e : Prog σ ρ ε α).run faults n ⟨s, w⟩).conn = .idle s := by
  -- Without an open transaction the rollback is refused, and that is what is raised.
  rw [unwind_eq]
  cases w <;> cases h : faults n <;> simp [run, Op.exec, Op.fail, Op.attempt, h, Conn.idle]

/-- What a transaction leaves behind after a run that began at operation `n` on idle contents `s`:
an exception and the connection as it was, or the value and the contents of `body`, with no fault
among the operations performed. -/
def Atomic (body : Prog σ ρ ε α) (faults : ℕ → Option (Fault ε)) (n : ℕ) (s w : σ)
    (out : Outcome σ ε α) : Prop :=
  (∃ e, out.result = .error e ∧ out.conn = .idle s) ∨
    ∃ a s', out.result = .ok a ∧ out.conn = .idle s' ∧ body.eval w = (.ok a, s') ∧
      ∀ i, n ≤ i → i < out.ticks → faults i = none

section

variable {faults : ℕ → Option (Fault ε)} {n : ℕ} {s w : σ}

/-- Unwinding is atomic, for it keeps nothing. -/
theorem atomic_unwind (body : Prog σ ρ ε α) (e : Exc ε) (m : ℕ) (w' : Option σ) :
    Atomic body faults n s w ((unwind e : Prog σ ρ ε α).run faults m ⟨s, w'⟩) := by
  obtain ⟨⟨e', he⟩, hc⟩ := unwind_run (ρ := ρ) (α := α) faults e m s w'
  exact .inl ⟨e', he, hc⟩

/-- After an operation without a fault, what is left of a body may be run in its place. -/
theorem Atomic.next {body left : Prog σ ρ ε α} {w' : σ} {out : Outcome σ ε α}
    (h : Atomic left faults (n + 1) s w' out) (hf : faults n = none)
    (he : body.eval w = left.eval w') : Atomic body faults n s w out := by
  rcases h with h | ⟨a, s', hr, hc, hev, hfree⟩
  · exact .inl h
  · refine .inr ⟨a, s', hr, hc, he.trans hev, fun i hi hlt => ?_⟩
    rcases Nat.eq_or_lt_of_le hi with rfl | hi
    · exact hf
    · exact hfree i hi hlt

end

/-- The commit of a value. -/
theorem atomic_commit (a : α) (faults : ℕ → Option (Fault ε)) (n : ℕ) (s w : σ) :
    Atomic (.ret (.ok a) : Prog σ ρ ε α) faults n s w
      ((guarded (.ret (.ok a) : Prog σ ρ ε α)).run faults n ⟨s, some w⟩) := by
  rw [guarded_ok]
  cases hf : faults n with
  | none =>
    refine .inr ⟨a, w, ?_, ?_, rfl, fun i hi hlt => ?_⟩
    · simp [run, Op.exec, Op.attempt, hf]
    · simp [run, Op.exec, Op.attempt, hf, Conn.idle]
    · simp only [run, Op.exec, Op.attempt, hf] at hlt
      rw [show i = n by omega, hf]
  | some f =>
    simp only [run, Op.exec, hf]
    cases f <;> exact atomic_unwind _ _ _ _

/-- The body and `commit` from working contents `w`, by induction on the body: each statement moves
the working contents as `eval` does, and the first failure unwinds. -/
theorem guarded_run {body : Prog σ ρ ε α} (hb : body.Work) (faults : ℕ → Option (Fault ε)) (n : ℕ)
    (s w : σ) : Atomic body faults n s w ((guarded body).run faults n ⟨s, some w⟩) := by
  induction body generalizing n w with
  | ret r =>
    cases r with
    | error e => exact atomic_unwind _ _ _ _
    | ok a => exact atomic_commit a faults n s w
  | op o k ih =>
    obtain ⟨ho, hk, hw⟩ := hb
    rw [guarded_op]
    -- A failed operation makes the rest of the body raise, so the transaction unwinds.
    have failed : ∀ (e : Exc ε) (w' : Option σ), Atomic (.op o k) faults n s w
        ((guarded (k (.error e))).run faults (n + 1) ⟨s, w'⟩) := by
      intro e w'
      rw [hk, guarded_error]
      exact atomic_unwind _ _ _ _
    -- An operation that succeeds leaves the rest of the body, from the next operation on.
    have succeeded : ∀ (row : Option ρ) (w' : σ), faults n = none →
        (Prog.op o k).eval w = (k (.ok row)).eval w' →
        Atomic (.op o k) faults n s w
          ((guarded (k (.ok row))).run faults (n + 1) ⟨s, some w'⟩) :=
      fun row w' hf he => (ih (.ok row) (hw _) (n + 1) w').next hf he
    cases hf : faults n with
    | some f =>
      simp only [run, Op.exec, hf]
      cases o with
      | stmt stmt => cases f <;> exact failed _ _
      | call => cases f <;> exact failed _ _
      | begin => exact ho.elim
      | commit => exact ho.elim
      | rollback => exact ho.elim
    | none =>
      cases o with
      | stmt stmt =>
        simp only [run, Op.exec, Op.attempt, hf]
        cases hs : stmt w with
        | error e => exact failed _ _
        | ok r =>
          obtain ⟨row, w'⟩ := r
          exact succeeded row w' hf (by simp only [eval, hs])
      | call =>
        simp only [run, Op.exec, Op.attempt, hf]
        exact succeeded none w hf rfl
      | begin => exact ho.elim
      | commit => exact ho.elim
      | rollback => exact ho.elim

/-- A transaction is atomic under every fault schedule. -/
theorem transaction_run {body : Prog σ ρ ε α} (hb : body.Work) (faults : ℕ → Option (Fault ε))
    (n : ℕ) (s : σ) :
    Atomic body faults n s s ((transaction body).run faults n (.idle s)) := by
  rw [transaction_eq]
  cases hf : faults n with
  | some f =>
    refine .inl ?_
    cases f <;> simp [run, Op.exec, Op.fail, hf]
  | none =>
    simp only [run, Op.exec, Op.attempt, hf, Conn.idle]
    exact (guarded_run hb faults (n + 1) s s).next hf rfl

/-- The body and `commit` from working contents `w`, when nothing fails from outside and the body
returns. -/
theorem guarded_run_clean {body : Prog σ ρ ε α} (hb : body.Work) {faults : ℕ → Option (Fault ε)}
    (hf : ∀ i, faults i = none) (n : ℕ) (s : σ) {w s' : σ} {a : α}
    (h : body.eval w = (.ok a, s')) :
    ((guarded body).run faults n ⟨s, some w⟩).result = .ok a ∧
      ((guarded body).run faults n ⟨s, some w⟩).conn = .idle s' := by
  induction body generalizing n w with
  | ret r =>
    simp only [eval, Prod.mk.injEq] at h
    obtain ⟨rfl, rfl⟩ := h
    -- What is left is the commit, which succeeds.
    rw [guarded_ok]
    simp [run, Op.exec, Op.attempt, hf, Conn.idle]
  | op o k ih =>
    obtain ⟨ho, hk, hw⟩ := hb
    rw [guarded_op]
    cases o with
    | stmt stmt =>
      simp only [run, Op.exec, Op.attempt, hf]
      -- A refused statement would end the body with an error.
      cases hs : stmt w with
      | error e => simp [eval, hs, hk] at h
      | ok r =>
        simp only [eval, hs] at h
        exact ih _ (hw _) _ h
    | call =>
      simp only [run, Op.exec, Op.attempt, hf]
      exact ih _ (hw _) _ h
    | begin => exact ho.elim
    | commit => exact ho.elim
    | rollback => exact ho.elim

/-- A transaction whose body returns commits what the body computes, when nothing fails from
outside. -/
theorem transaction_run_clean {body : Prog σ ρ ε α} (hb : body.Work)
    {faults : ℕ → Option (Fault ε)} (hf : ∀ i, faults i = none) (n : ℕ) {s s' : σ} {a : α}
    (h : body.eval s = (.ok a, s')) :
    ((transaction body).run faults n (.idle s)).result = .ok a ∧
      ((transaction body).run faults n (.idle s)).conn = .idle s' := by
  rw [transaction_eq]
  simp only [run, Op.exec, Op.attempt, hf, Conn.idle]
  exact guarded_run_clean hb hf _ s h

/-! ## What is raised -/

section

variable {E : Exc ε → Prop} {faults : ℕ → Option (Fault ε)}

/-- Unwinding raises the exception that it was given, or the refusal of its rollback. -/
theorem unwind_raises (hrefused : ∀ r, E (.refused r)) {e : Exc ε} (he : E e) (n : ℕ) (c : Conn σ)
    {e' : Exc ε} (h : ((unwind e : Prog σ ρ ε α).run faults n c).result = .error e') : E e' := by
  obtain ⟨s, w⟩ := c
  rw [unwind_eq] at h
  cases w with
  | none =>
    have : e' = .refused .noTransaction := by
      cases hf : faults n <;> simpa [run, Op.exec, Op.fail, Op.attempt, hf, eq_comm] using h
    rw [this]
    exact hrefused _
  | some w =>
    have : e' = e := by
      cases hf : faults n <;> simpa [run, Op.exec, Op.fail, Op.attempt, hf, eq_comm] using h
    rw [this]
    exact he

/-- The body and `commit` raise what the engine, a failure or the body raises. -/
theorem guarded_raises {body : Prog σ ρ ε α} (hb : body.Work) (hrefused : ∀ r, E (.refused r))
    (hfaults : ∀ n f, faults n = some f → E (.raised f.error)) {n : ℕ} {s w : σ}
    (hbody : ∀ e, (body.eval w).1 = .error e → E e) {e : Exc ε}
    (h : ((guarded body).run faults n ⟨s, some w⟩).result = .error e) : E e := by
  induction body generalizing n w with
  | ret r =>
    cases r with
    | error e' => exact unwind_raises hrefused (hbody e' rfl) n _ h
    | ok a =>
      rw [guarded_ok] at h
      -- The commit is the last operation that may fail.
      cases hf : faults n with
      | none => simp [run, Op.exec, Op.attempt, hf] at h
      | some f =>
        simp only [run, Op.exec, hf] at h
        cases f <;> exact unwind_raises hrefused (hfaults n _ hf) _ _ h
  | op o k ih =>
    obtain ⟨ho, hk, hw⟩ := hb
    rw [guarded_op] at h
    -- A body of work goes on after an error only to pass it on.
    have failed : ∀ {e' : Exc ε} {c : Conn σ}, E e' →
        ((guarded (k (.error e'))).run faults (n + 1) c).result = .error e → E e := by
      intro e' c he' hrun
      rw [hk, guarded_error] at hrun
      exact unwind_raises hrefused he' _ _ hrun
    cases hf : faults n with
    | some f =>
      simp only [run, Op.exec, hf] at h
      cases o with
      | stmt stmt => cases f <;> exact failed (hfaults n _ hf) h
      | call => cases f <;> exact failed (hfaults n _ hf) h
      | begin => exact ho.elim
      | commit => exact ho.elim
      | rollback => exact ho.elim
    | none =>
      cases o with
      | stmt stmt =>
        simp only [run, Op.exec, Op.attempt, hf] at h
        -- Without a failure, the error is one of the body itself.
        cases hs : stmt w with
        | error e' =>
          rw [hs] at h
          exact failed (hbody (.raised e') (by simp only [eval, hs, hk])) h
        | ok r =>
          obtain ⟨row, w'⟩ := r
          rw [hs] at h
          refine ih (.ok row) (hw _) (fun e' he' => hbody e' ?_) h
          rwa [eval, hs]
      | call =>
        simp only [run, Op.exec, Op.attempt, hf] at h
        exact ih (.ok none) (hw _) hbody h
      | begin => exact ho.elim
      | commit => exact ho.elim
      | rollback => exact ho.elim

/-- A transaction raises what the engine, a failure or its body raises. -/
theorem transaction_raises {body : Prog σ ρ ε α} (hb : body.Work) (hrefused : ∀ r, E (.refused r))
    (hfaults : ∀ n f, faults n = some f → E (.raised f.error)) {n : ℕ} {s : σ}
    (hbody : ∀ e, (body.eval s).1 = .error e → E e) {e : Exc ε}
    (h : ((transaction body).run faults n (.idle s)).result = .error e) : E e := by
  rw [transaction_eq] at h
  cases hf : faults n with
  | some f =>
    have he : e = .raised f.error := by
      cases f <;> simpa [run, Op.exec, Op.fail, Fault.error, hf, eq_comm] using h
    rw [he]
    exact hfaults n f hf
  | none =>
    simp only [run, Op.exec, Op.attempt, hf, Conn.idle] at h
    exact guarded_raises hb hrefused hfaults hbody h

end

/-! ## Statements that succeed -/

/-- From contents `s`, every statement that the program meets succeeds, and `P` holds of the contents
before the first one and after each. -/
def Accepts (P : σ → Prop) : Prog σ ρ ε α → σ → Prop
  | .ret _, s => P s
  | .op (.stmt run) k, s => P s ∧ ∃ row s', run s = .ok (row, s') ∧ (k (.ok row)).Accepts P s'
  | .op _ k, s => (k (.ok none)).Accepts P s

variable {P : σ → Prop}

/-- Programs that accept their contents compose. -/
theorem Accepts.bind {p : Prog σ ρ ε α} {f : α → Prog σ ρ ε β} {s : σ} (hp : p.Accepts P s)
    (hf : ∀ a s', p.eval s = (.ok a, s') → P s' → (f a).Accepts P s') : (p >>= f).Accepts P s := by
  induction p generalizing s with
  | ret r =>
    cases r with
    | ok a => exact hf a s rfl hp
    | error e => exact hp
  | op o k ih =>
    cases o with
    | stmt run =>
      obtain ⟨hP, row, s', hrun, hk⟩ := hp
      refine ⟨hP, row, s', hrun, ih _ hk fun a s'' he => hf a s'' ?_⟩
      simp only [eval, hrun, he]
    | _ => exact ih _ hp fun a s' he => hf a s' he

/-- `P` holds of the contents that a program leaves. -/
theorem Accepts.eval {p : Prog σ ρ ε α} {s : σ} (h : p.Accepts P s) : P (p.eval s).2 := by
  induction p generalizing s with
  | ret r => exact h
  | op o k ih =>
    cases o with
    | stmt run =>
      obtain ⟨_, row, s', hrun, hk⟩ := h
      simp only [Prog.eval, hrun]
      exact ih _ hk
    | _ => exact ih _ h

/-- A call that returns is followed by what accepts the contents. -/
theorem accepts_calling_bind {a : α} {f : α → Prog σ ρ ε β} {s : σ} (h : (f a).Accepts P s) :
    (calling (.ok a) >>= f).Accepts P s := h

/-- So is a query that succeeds. -/
theorem accepts_fetchone_bind {run : σ → Except ε (Option ρ × σ)} {f : Option ρ → Prog σ ρ ε β}
    {s s' : σ} {row : Option ρ} (hs : P s) (hr : run s = .ok (row, s'))
    (h : (f row).Accepts P s') : (fetchone run >>= f).Accepts P s :=
  ⟨hs, row, s', hr, h⟩

/-- So is a statement that succeeds and keeps the property. -/
theorem accepts_execute_bind {run : σ → Except ε σ} {f : Unit → Prog σ ρ ε β} {s s' : σ}
    (hs : P s) (hr : run s = .ok s') (h : (f ()).Accepts P s') :
    (execute run >>= f).Accepts P s := by
  refine ⟨hs, none, s', ?_, h⟩
  show (run s).map (fun s' => (none, s')) = _
  rw [hr]
  rfl

/-! ## The faults that a run meets -/

/-- A run performs no fewer operations than those before it. -/
theorem le_ticks (p : Prog σ ρ ε α) (faults : ℕ → Option (Fault ε)) (n : ℕ) (c : Conn σ) :
    n ≤ (p.run faults n c).ticks := by
  induction p generalizing n c with
  | ret r => exact Nat.le_refl n
  | op o k ih => exact Nat.le_trans (Nat.le_succ n) (ih _ (n + 1) _)

/-- A run depends on the faults of the operations that it performs only. -/
theorem run_congr {p : Prog σ ρ ε α} {faults faults' : ℕ → Option (Fault ε)} {n : ℕ} {c : Conn σ}
    (h : ∀ i, n ≤ i → i < (p.run faults n c).ticks → faults i = faults' i) :
    p.run faults n c = p.run faults' n c := by
  induction p generalizing n c with
  | ret r => rfl
  | op o k ih =>
    have hn : faults n = faults' n := h n (Nat.le_refl n) (le_ticks _ faults (n + 1) _)
    simp only [run, ← hn]
    exact ih _ fun i hi hlt => h i (Nat.le_trans (Nat.le_succ n) hi) hlt

end Prog

end Store
