import Mathlib.Logic.Function.Basic
import Mathlib.Logic.Relation
import PaymentRecon.Store.Program

/-!
# Clients of one store, interleaved

Any number of clients send requests to a store, each one after another, and each request is served
by a program of `Program.lean` on a connection of its own. `Step` interleaves the operations of
these programs in any order, and lets any operation fail. What it assumes of the engine is that one
client at a time holds the write lock: `begin`, and a statement outside a transaction, succeed only
for the client that holds it or when it is free.

`serializable` is the result: when every request is either rejected or served by a transaction
(`serving`) of statements and calls, the committed contents of every reachable world are those of the
successful requests run one after another, each alone, in the order of their answers, and each was
answered what it computes there (`Serial`). The invariant that carries it (`Progress`)
says where a running program is: before `begin`; inside, with the lock, and with as much of the body
left as completes what the body computes on the committed contents; or unwinding. `completes` says
that the interleavings are not empty: a client that is not disturbed has its request served.
-/

namespace Store

open Prog

variable {κ Req σ ρ ε α : Type}

/-- A client: the requests that it still sends, and the one being served. -/
structure Session (Req σ ρ ε α : Type) where
  /-- The requests not yet sent, the next one first. -/
  pending : List Req
  /-- The request being served, with what is left of its program. -/
  serving : Option (Req × Prog σ ρ ε α)

/-- The answer to a request. -/
structure Answer (κ Req ε α : Type) where
  /-- Who sent the request. -/
  client : κ
  /-- The request. -/
  request : Req
  /-- What its program returned or raised. -/
  result : Except (Exc ε) α

/-- A store and its clients. -/
structure World (κ Req σ ρ ε α : Type) where
  /-- The committed contents. -/
  committed : σ
  /-- The client that holds the write lock, with the working copy of its transaction. -/
  lock : Option (κ × σ)
  /-- The clients. -/
  sessions : κ → Session Req σ ρ ε α
  /-- The answers so far, oldest first. -/
  answers : List (Answer κ Req ε α)

/-- Whether an operation has to wait for the write lock. -/
def Op.NeedsLock : Op σ ρ ε → Prop
  | .begin => True
  | .stmt _ => True
  | _ => False

namespace World

/-- Before anyone has sent anything. -/
def start (s : σ) (requests : κ → List Req) : World κ Req σ ρ ε α :=
  ⟨s, none, fun c => ⟨requests c, none⟩, []⟩

/-- The client `c` holds the write lock. -/
def Holds (w : World κ Req σ ρ ε α) (c : κ) : Prop := ∃ s, w.lock = some (c, s)

/-- The requests that succeeded, with what they returned, in the order of their answers. -/
def successes (w : World κ Req σ ρ ε α) : List (Req × α) :=
  w.answers.filterMap fun x => x.result.toOption.map (x.request, ·)

variable [DecidableEq κ]

/-- The connection of a client: the working copy is the client's when it holds the lock. -/
def view (w : World κ Req σ ρ ε α) (c : κ) : Conn σ :=
  ⟨w.committed, (w.lock.filter fun l => l.1 = c).map Prod.snd⟩

/-- Take back a client's connection after an operation. -/
def store (w : World κ Req σ ρ ε α) (c : κ) (conn : Conn σ) : World κ Req σ ρ ε α :=
  { w with
    committed := conn.committed
    lock := match conn.working with
      | some s => some (c, s)
      -- The client has no transaction open; another one may have.
      | none => w.lock.filter fun l => l.1 ≠ c }

/-- Let a client's program go on with `p`, or answer its request when `p` has ended. -/
def resume (w : World κ Req σ ρ ε α) (c : κ) (q : Req) : Prog σ ρ ε α → World κ Req σ ρ ε α
  | .ret r =>
    { w with
      sessions := Function.update w.sessions c { w.sessions c with serving := none }
      answers := w.answers ++ [⟨c, q, r⟩] }
  | .op o k =>
    { w with
      sessions := Function.update w.sessions c
        { w.sessions c with serving := some (q, .op o k) } }

/-- Drop a client's next request from those it still sends. -/
def send (w : World κ Req σ ρ ε α) (c : κ) : World κ Req σ ρ ε α :=
  { w with
    sessions := Function.update w.sessions c
      { w.sessions c with pending := (w.sessions c).pending.tail } }

/-- One step of one client: it sends its next request, or the program that serves it performs its
next operation, which may fail. -/
inductive Step (serve : Req → Prog σ ρ ε α) :
    World κ Req σ ρ ε α → World κ Req σ ρ ε α → Prop
  | send {w : World κ Req σ ρ ε α} {c : κ} {q : Req} {qs : List Req}
      (hs : w.sessions c = ⟨q :: qs, none⟩) : Step serve w ((w.send c).resume c q (serve q))
  | perform {w : World κ Req σ ρ ε α} {c : κ} {q : Req} {qs : List Req} {o : Op σ ρ ε}
      {k : Except (Exc ε) (Option ρ) → Prog σ ρ ε α} {fault : Option (Fault ε)}
      (hs : w.sessions c = ⟨qs, some (q, .op o k)⟩)
      (hl : fault = none → o.NeedsLock → w.lock = none ∨ w.Holds c) :
      Step serve w ((w.store c (o.exec fault (w.view c)).2).resume c q
        (k (o.exec fault (w.view c)).1))

/-- The worlds reached from `s` by any interleaving. -/
def Reachable (serve : Req → Prog σ ρ ε α) (s : σ) (requests : κ → List Req)
    (w : World κ Req σ ρ ε α) : Prop :=
  Relation.ReflTransGen (Step serve) (start s requests) w

end World

/-- The program that serves a request that is rejected or runs a transaction. -/
def serving (plan : Req → Except (Exc ε) (Prog σ ρ ε α)) (q : Req) : Prog σ ρ ε α :=
  match plan q with
  | .error e => .ret (.error e)
  | .ok body => transaction body

/-- The contents after the requests of a log, each run alone on what the one before it left, and
each having returned what the log says. -/
inductive Serial (plan : Req → Except (Exc ε) (Prog σ ρ ε α)) (s₀ : σ) : List (Req × α) → σ → Prop
  | nil : Serial plan s₀ [] s₀
  | snoc {log : List (Req × α)} {s s' : σ} {q : Req} {a : α} {body : Prog σ ρ ε α}
      (h : Serial plan s₀ log s) (hw : body.Work) (hq : plan q = .ok body)
      (he : body.eval s = (.ok a, s')) : Serial plan s₀ (log ++ [(q, a)]) s'

namespace World

/-- Where the program `p` that serves `q` for `c` is. -/
inductive Progress (plan : Req → Except (Exc ε) (Prog σ ρ ε α)) (w : World κ Req σ ρ ε α) (c : κ)
    (q : Req) : Prog σ ρ ε α → Prop
  /-- Before `begin`, without the lock. -/
  | waiting {body : Prog σ ρ ε α} (hw : body.Work) (hq : plan q = .ok body)
      (hl : ¬ w.Holds c) : Progress plan w c q (transaction body)
  /-- Inside the transaction, with the lock: what is left of the body completes what the whole body
  computes on the committed contents. -/
  | inside {body left : Prog σ ρ ε α} {s : σ} (hw : body.Work) (hq : plan q = .ok body)
      (hwl : left.Work) (hl : w.lock = some (c, s))
      (he : left.eval s = body.eval w.committed) : Progress plan w c q (guarded left)
  /-- About to roll back. -/
  | unwinding (e : Exc ε) : Progress plan w c q (unwind e)

/-- The invariant of the reachable worlds. -/
structure Inv (plan : Req → Except (Exc ε) (Prog σ ρ ε α)) (s₀ : σ)
    (w : World κ Req σ ρ ε α) : Prop where
  /-- The committed contents are serial. -/
  serial : Serial plan s₀ w.successes w.committed
  /-- A client that is not being served does not hold the lock. -/
  idle : ∀ c, (w.sessions c).serving = none → ¬ w.Holds c
  /-- Every running program is somewhere in its transaction. -/
  progress : ∀ c q p, (w.sessions c).serving = some (q, p) → Progress plan w c q p

variable {plan : Req → Except (Exc ε) (Prog σ ρ ε α)} {s₀ : σ} {w : World κ Req σ ρ ε α} {c d : κ}

/-- Two clients do not hold the lock at once. -/
theorem Holds.eq (hc : w.Holds c) (hd : w.Holds d) : c = d := by
  obtain ⟨s, hs⟩ := hc
  obtain ⟨s', hs'⟩ := hd
  rw [hs] at hs'
  simp only [Option.some.injEq, Prod.mk.injEq] at hs'
  exact hs'.1

/-- Nobody holds a free lock. -/
theorem not_holds_of_free (h : w.lock = none) : ¬ w.Holds c := by
  rintro ⟨s, hs⟩
  rw [h] at hs
  cases hs

variable [DecidableEq κ]

/-- The client with the lock sees its working copy. -/
theorem view_of_holds {s : σ} (h : w.lock = some (c, s)) : w.view c = ⟨w.committed, some s⟩ := by
  simp [view, h]

/-- Every other client sees the committed contents. -/
theorem view_of_not_holds (h : ¬ w.Holds c) : w.view c = .idle w.committed := by
  simp only [view, Conn.idle, Conn.mk.injEq, true_and, Option.map_eq_none_iff,
    Option.filter_eq_none_iff]
  rintro ⟨d, s⟩ hl
  simp only [decide_eq_true_eq]
  rintro rfl
  exact h ⟨s, hl⟩

/-- When the client with the lock leaves its transaction, the lock is free. -/
theorem store_of_holds {s : σ} (h : w.lock = some (c, s)) (s' : σ) :
    w.store c (.idle s') = { w with committed := s', lock := none } := by
  simp [store, Conn.idle, h]

/-- A client that changes nothing leaves the world as it is. -/
theorem store_of_not_holds (h : ¬ w.Holds c) : w.store c (.idle w.committed) = w := by
  cases hl : w.lock with
  | none =>
    simp only [store, Conn.idle, hl, Option.filter_none]
    rw [← hl]
  | some l =>
    have hne : l.1 ≠ c := fun he => h ⟨l.2, by rw [hl, ← he]⟩
    simp only [store, Conn.idle, hl, Option.filter_some, hne, ne_eq, not_false_eq_true,
      decide_true, if_true]
    rw [← hl]

/-- What a step of `c` must leave alone for the other clients: they gain no lock, and under the lock
of one of them nothing changes. -/
def Undisturbed (w w' : World κ Req σ ρ ε α) (c : κ) : Prop :=
  ∀ d, d ≠ c → (w'.Holds d → w.Holds d) ∧
    ∀ s, w.lock = some (d, s) → w'.lock = some (d, s) ∧ w'.committed = w.committed

omit [DecidableEq κ] in
/-- Another client's program stays where it is. -/
theorem Undisturbed.progress {w' : World κ Req σ ρ ε α} (h : Undisturbed w w' c) (hd : d ≠ c)
    {q : Req} {p : Prog σ ρ ε α} (hp : Progress plan w d q p) : Progress plan w' d q p := by
  cases hp with
  | waiting hw hq hl => exact .waiting hw hq fun hl' => hl ((h d hd).1 hl')
  | inside hw hq hwl hl he =>
    obtain ⟨hl', hc'⟩ := (h d hd).2 _ hl
    exact .inside hw hq hwl hl' (by rw [hc', he])
  | unwinding e => exact .unwinding e

/-- Going on with a program leaves the lock. -/
@[simp] theorem lock_resume (q : Req) (p : Prog σ ρ ε α) : (w.resume c q p).lock = w.lock := by
  cases p <;> rfl

/-- Going on with a program leaves the contents. -/
@[simp] theorem committed_resume (q : Req) (p : Prog σ ρ ε α) :
    (w.resume c q p).committed = w.committed := by
  cases p <;> rfl

/-- A program that has not ended goes on. -/
theorem sessions_resume (q : Req) {p : Prog σ ρ ε α} (hp : ∀ r, p ≠ .ret r) :
    (w.resume c q p).sessions c = { w.sessions c with serving := some (q, p) } := by
  cases p with
  | ret r => exact (hp r rfl).elim
  | op o k => exact Function.update_self ..

/-- A program that has not ended gives no answer. -/
theorem answers_resume (q : Req) {p : Prog σ ρ ε α} (hp : ∀ r, p ≠ .ret r) :
    (w.resume c q p).answers = w.answers := by
  cases p with
  | ret r => exact (hp r rfl).elim
  | op o k => rfl

/-- Where a program is depends on the lock and the committed contents only. -/
theorem progress_resume {q q' : Req} {p p' : Prog σ ρ ε α} (hp : Progress plan w d q p) :
    Progress plan (w.resume c q' p') d q p := by
  cases hp with
  | waiting hw hq h => exact .waiting hw hq fun ⟨s, hs⟩ => h ⟨s, (lock_resume q' p').symm.trans hs⟩
  | inside hw hq hwl h he =>
    exact .inside hw hq hwl ((lock_resume q' p').trans h) (by rw [committed_resume, he])
  | unwinding e => exact .unwinding e

omit [DecidableEq κ] in
/-- A world does not disturb itself. -/
theorem Undisturbed.refl (w : World κ Req σ ρ ε α) (c : κ) : Undisturbed w w c :=
  fun _ _ => ⟨id, fun _ h => ⟨h, rfl⟩⟩

omit [DecidableEq κ] in
/-- Whatever a client does that holds the lock before and after, or gives it up. -/
theorem undisturbed_of_holds {w' : World κ Req σ ρ ε α} (hc : w.Holds c)
    (h : w'.lock = none ∨ w'.Holds c) : Undisturbed w w' c := by
  intro d hd
  refine ⟨fun hd' => ?_, fun s hs => absurd (Holds.eq ⟨s, hs⟩ hc) hd⟩
  -- The lock has one holder at most, and that was and is `c`.
  rcases h with h | h
  · exact absurd hd' (not_holds_of_free h)
  · exact absurd (hd'.eq h) hd

/-- The invariant, carried over a step of `c` that leaves the world `w'` and the program `p`. -/
theorem Inv.resume {w' : World κ Req σ ρ ε α} {q : Req} {p : Prog σ ρ ε α} (hi : Inv plan s₀ w)
    (hund : Undisturbed w w' c) (hsess : ∀ d, d ≠ c → w'.sessions d = w.sessions d)
    (hend : ∀ r, p = .ret r → ¬ w'.Holds c ∧
      Serial plan s₀ (w'.successes ++ (r.toOption.map (q, ·)).toList) w'.committed)
    (hgo : ∀ o k, p = .op o k →
      Progress plan w' c q p ∧ Serial plan s₀ w'.successes w'.committed) :
    Inv plan s₀ (w'.resume c q p) := by
  cases p with
  | ret r =>
    -- The request ends: its answer is the last one, and `c` is idle without the lock.
    obtain ⟨hl, hser⟩ := hend r rfl
    refine ⟨?_, fun d hd => ?_, fun d q' p' hd => ?_⟩
    · have : (w'.resume c q (.ret r)).successes =
          w'.successes ++ (r.toOption.map (q, ·)).toList := by
        simp only [World.resume, successes, List.filterMap_append]
        cases r <;> rfl
      rw [this]
      exact hser
    · by_cases h : d = c
      · subst h
        exact hl
      · simp only [World.resume, Function.update_of_ne h, hsess d h] at hd
        exact fun hh => hi.idle d hd ((hund d h).1 hh)
    · by_cases h : d = c
      · subst h
        simp [World.resume] at hd
      · simp only [World.resume, Function.update_of_ne h, hsess d h] at hd
        exact progress_resume (hund.progress h (hi.progress d q' p' hd))
  | op o k =>
    -- The program goes on: only the progress of `c` is new.
    obtain ⟨hp, hser⟩ := hgo o k rfl
    refine ⟨hser, fun d hd => ?_, fun d q' p' hd => ?_⟩
    · by_cases h : d = c
      · subst h
        simp [World.resume] at hd
      · simp only [World.resume, Function.update_of_ne h, hsess d h] at hd
        exact fun hh => hi.idle d hd ((hund d h).1 hh)
    · by_cases h : d = c
      · subst h
        simp only [World.resume, Function.update_self, Option.some.injEq, Prod.mk.injEq] at hd
        obtain ⟨rfl, rfl⟩ := hd
        exact progress_resume hp
      · simp only [World.resume, Function.update_of_ne h, hsess d h] at hd
        exact progress_resume (hund.progress h (hi.progress d q' p' hd))

/-- The invariant, carried over a step of `c` that ends its request with an exception. -/
theorem Inv.fail {w' : World κ Req σ ρ ε α} {q : Req} {e : Exc ε} (hi : Inv plan s₀ w)
    (hund : Undisturbed w w' c) (hsess : ∀ d, d ≠ c → w'.sessions d = w.sessions d)
    (hans : w'.answers = w.answers) (hcom : w'.committed = w.committed) (hn : ¬ w'.Holds c) :
    Inv plan s₀ (w'.resume c q (.ret (.error e))) := by
  refine hi.resume hund hsess (fun r hr => ?_) (fun o k h => by cases h)
  cases hr
  refine ⟨hn, ?_⟩
  have hsucc : w'.successes = w.successes := by simp only [successes, hans]
  rw [hsucc, hcom]
  show Serial plan s₀ (w.successes ++ []) w.committed
  rw [List.append_nil]
  exact hi.serial

omit [DecidableEq κ] in
/-- A transaction that has begun has something to do. -/
theorem guarded_ne_ret (p : Prog σ ρ ε α) (r : Except (Exc ε) α) : guarded p ≠ .ret r := by
  intro h
  cases p with
  | ret r' => cases r' <;> cases h
  | op o k => cases h

/-- A step of a client before `begin`: it takes the lock, or its request fails. -/
theorem Inv.step_waiting (hi : Inv plan s₀ w) {q : Req} {body : Prog σ ρ ε α}
    {fault : Option (Fault ε)} (hw : body.Work) (hq : plan q = .ok body)
    (hn : ¬ w.Holds c) (hl : fault = none → w.lock = none ∨ w.Holds c) :
    Inv plan s₀ ((w.store c ((.begin : Op σ ρ ε).exec fault (w.view c)).2).resume c q
      (match ((.begin : Op σ ρ ε).exec fault (w.view c)).1 with
        | .ok _ => guarded body
        | .error e => .ret (.error e))) := by
  rw [view_of_not_holds hn]
  cases fault with
  | none =>
    -- The lock was free, and the working copy starts as the committed contents.
    have hfree : w.lock = none := (hl rfl).resolve_right hn
    simp only [Op.exec, Op.attempt, Conn.idle]
    refine Inv.resume hi (fun d hd => ⟨fun hd' => ?_, fun s hs => ?_⟩) (fun _ _ => rfl)
      (fun r hr => (guarded_ne_ret _ _ hr).elim)
      (fun o k _ => ⟨.inside (s := w.committed) hw hq hw rfl rfl, hi.serial⟩)
    · obtain ⟨s, hs⟩ := hd'
      simp only [store, Option.some.injEq, Prod.mk.injEq] at hs
      exact absurd hs.1.symm hd
    · rw [hfree] at hs
      cases hs
  | some f =>
    have hfail : ∃ e, (Op.begin : Op σ ρ ε).exec (some f) (.idle w.committed) =
        (.error (.raised e), .idle w.committed) := by
      cases f <;> exact ⟨_, rfl⟩
    obtain ⟨e, he⟩ := hfail
    rw [he, store_of_not_holds hn]
    exact hi.fail (.refl _ _) (fun _ _ => rfl) rfl rfl hn

/-- A step of a client that unwinds: it gives up the lock, if it still has it, and its request
fails. -/
theorem Inv.step_unwinding (hi : Inv plan s₀ w) {q : Req} (e : Exc ε) (fault : Option (Fault ε)) :
    Inv plan s₀ ((w.store c ((.rollback : Op σ ρ ε).exec fault (w.view c)).2).resume c q
      (match ((.rollback : Op σ ρ ε).exec fault (w.view c)).1 with
        | .ok _ => .ret (.error e)
        | .error e' => .ret (.error e'))) := by
  have hexec : (Op.rollback : Op σ ρ ε).exec fault (w.view c) = Op.rollback.attempt (w.view c) := by
    cases fault <;> rfl
  rw [hexec]
  by_cases h : w.Holds c
  · -- The working copy is dropped and the lock is free again.
    obtain ⟨s, hs⟩ := h
    simp only [view_of_holds hs, Op.attempt]
    rw [show (⟨w.committed, none⟩ : Conn σ) = .idle w.committed from rfl, store_of_holds hs]
    exact hi.fail (undisturbed_of_holds ⟨s, hs⟩ (.inl rfl)) (fun _ _ => rfl) rfl rfl
      (not_holds_of_free rfl)
  · simp only [view_of_not_holds h, Conn.idle, Op.attempt]
    rw [show (⟨w.committed, none⟩ : Conn σ) = .idle w.committed from rfl, store_of_not_holds h]
    exact hi.fail (.refl _ _) (fun _ _ => rfl) rfl rfl h

/-- A step of a client that holds the lock, after which it holds the lock or has given it up without
committing, and has the program `p` left. -/
theorem Inv.step_holding (hi : Inv plan s₀ w) {q : Req} {s : σ} (hl : w.lock = some (c, s))
    (conn : Conn σ) (hc : conn.committed = w.committed) (p : Prog σ ρ ε α)
    (hne : ∀ r, p ≠ .ret r) (hp : Progress plan (w.store c conn) c q p) :
    Inv plan s₀ ((w.store c conn).resume c q p) := by
  have hser : Serial plan s₀ (w.store c conn).successes (w.store c conn).committed := by
    show Serial plan s₀ w.successes conn.committed
    rw [hc]
    exact hi.serial
  refine hi.resume (undisturbed_of_holds ⟨s, hl⟩ ?_) (fun _ _ => rfl)
    (fun r hr => (hne r hr).elim) (fun _ _ _ => ⟨hp, hser⟩)
  obtain ⟨s', working⟩ := conn
  cases working with
  | none => exact .inl (by simp [store, hl])
  | some w' => exact .inr ⟨w', rfl⟩

omit [DecidableEq κ] in
/-- So has one that is to be rolled back. -/
theorem unwind_ne_ret (e : Exc ε) (r : Except (Exc ε) α) :
    (unwind e : Prog σ ρ ε α) ≠ .ret r := by
  intro h
  cases h

/-- A step of a client inside its transaction: a statement or call of the body, `commit`, or the
rollback of a body that has raised. -/
theorem Inv.step_inside (hi : Inv plan s₀ w) {q : Req} {body left : Prog σ ρ ε α} {s : σ}
    {o : Op σ ρ ε} {k : Except (Exc ε) (Option ρ) → Prog σ ρ ε α} (fault : Option (Fault ε))
    (hw : body.Work) (hq : plan q = .ok body) (hwl : left.Work)
    (hl : w.lock = some (c, s)) (he : left.eval s = body.eval w.committed)
    (hok : .op o k = guarded left) :
    Inv plan s₀ ((w.store c (o.exec fault (w.view c)).2).resume c q
      (k (o.exec fault (w.view c)).1)) := by
  cases left with
  | ret r =>
    cases r with
    | error e =>
      rw [guarded_error, unwind_eq] at hok
      cases hok
      exact hi.step_unwinding e fault
    | ok a =>
      rw [guarded_ok] at hok
      cases hok
      rw [view_of_holds hl]
      cases fault with
      | none =>
        -- The commit: what is left of the body is its value, so the working copy is its result.
        simp only [Op.exec, Op.attempt]
        rw [show (⟨s, none⟩ : Conn σ) = .idle s from rfl, store_of_holds hl]
        refine hi.resume (undisturbed_of_holds ⟨s, hl⟩ (.inl rfl)) (fun _ _ => rfl)
          (fun r hr => ?_) (fun o k h => by cases h)
        cases hr
        exact ⟨not_holds_of_free rfl, hi.serial.snoc hw hq he.symm⟩
      | some f =>
        cases f with
        | raise e => exact hi.step_holding hl _ rfl _ (unwind_ne_ret _) (.unwinding _)
        | abort e => exact hi.step_holding hl _ rfl _ (unwind_ne_ret _) (.unwinding _)
  | op o' k' =>
    rw [guarded_op] at hok
    cases hok
    obtain ⟨ho, hk, hwk⟩ := hwl
    rw [view_of_holds hl]
    -- After a failed operation the rest of the body raises.
    have failed : ∀ (e : Exc ε) (conn : Conn σ), conn.committed = w.committed →
        Inv plan s₀ ((w.store c conn).resume c q (guarded (k' (.error e)))) := by
      intro e conn hc
      rw [hk, guarded_error]
      exact hi.step_holding hl _ hc _ (unwind_ne_ret _) (.unwinding _)
    -- After one that succeeds the rest of the body completes what the body computes.
    have succeeded : ∀ (row : Option ρ) (s' : σ), (k' (.ok row)).eval s' = body.eval w.committed →
        Inv plan s₀ ((w.store c ⟨w.committed, some s'⟩).resume c q (guarded (k' (.ok row)))) := by
      intro row s' he'
      exact hi.step_holding hl _ rfl _ (guarded_ne_ret _) (.inside hw hq (hwk _) rfl he')
    cases o with
    | stmt stmt =>
      cases fault with
      | some f =>
        cases f with
        | raise e => exact failed _ _ rfl
        | abort e => exact failed _ _ rfl
      | none =>
        simp only [Op.exec, Op.attempt]
        simp only [eval] at he
        cases hs : stmt s with
        | error e => exact failed _ _ rfl
        | ok r =>
          rw [hs] at he
          exact succeeded _ _ he
    | call =>
      cases fault with
      | some f =>
        cases f with
        | raise e => exact failed _ _ rfl
        | abort e => exact failed _ _ rfl
      | none => exact succeeded _ _ he
    | begin => exact ho.elim
    | commit => exact ho.elim
    | rollback => exact ho.elim

/-- Every step keeps the invariant. -/
theorem Inv.step
    (hwork : ∀ q body, plan q = .ok body → body.Work)
    {w' : World κ Req σ ρ ε α} (hi : Inv plan s₀ w) (h : Step (serving plan) w w') :
    Inv plan s₀ w' := by
  cases h with
  | @send c q qs hs =>
    -- A rejected request is answered at once; any other starts its transaction.
    have hn : ¬ w.Holds c := hi.idle c (by rw [hs])
    have hund : Undisturbed w (w.send c) c := fun _ _ => ⟨id, fun _ h => ⟨h, rfl⟩⟩
    have hsess : ∀ d, d ≠ c → (w.send c).sessions d = w.sessions d :=
      fun d hd => Function.update_of_ne hd _ _
    cases hb : plan q with
    | error e =>
      have hprog : serving plan q = .ret (.error e) := by simp only [serving, hb]
      rw [hprog]
      exact hi.fail hund hsess rfl rfl hn
    | ok body =>
      have hprog : serving plan q = transaction body := by simp only [serving, hb]
      rw [hprog]
      refine hi.resume hund hsess (fun r hr => ?_) (fun o k _ => ⟨?_, hi.serial⟩)
      · rw [transaction_eq] at hr
        cases hr
      · exact .waiting (hwork q body hb) hb hn
  | @perform c q qs o k fault hs hl =>
    have hp := hi.progress c q (.op o k) (by rw [hs])
    generalize hok : Prog.op o k = p at hp
    cases hp with
    | waiting hw hq hn =>
      rw [transaction_eq] at hok
      cases hok
      exact hi.step_waiting hw hq hn fun hf => hl hf trivial
    | inside hw hq hwl hlock he => exact hi.step_inside fault hw hq hwl hlock he hok
    | unwinding e =>
      rw [unwind_eq] at hok
      cases hok
      exact hi.step_unwinding e fault

/-- Every interleaving is serializable: in a reachable world the committed contents are those of the
successful requests run alone, one after another, in the order of their answers. -/
theorem serializable
    (hwork : ∀ q body, plan q = .ok body → body.Work)
    {requests : κ → List Req} (h : Reachable (serving plan) s₀ requests w) :
    Serial plan s₀ w.successes w.committed := by
  have hi : Inv plan s₀ w := by
    induction h with
    | refl => exact
        { serial := .nil
          idle := fun c _ => not_holds_of_free rfl
          progress := fun c q p hs => nomatch hs }
    | tail _ hstep ih => exact ih.step hwork hstep
  exact hi.serial

/-! ## A client that is not disturbed -/

/-- What is left of a transaction runs to its commit when nothing fails. -/
theorem commits {q : Req} {qs : List Req} {left : Prog σ ρ ε α} (hwl : left.Work) {s s' : σ} {a : α}
    {w : World κ Req σ ρ ε α} (hs : w.sessions c = ⟨qs, some (q, guarded left)⟩)
    (hl : w.lock = some (c, s)) (he : left.eval s = (.ok a, s')) :
    ∃ w', Relation.ReflTransGen (Step (serving plan)) w w' ∧ w'.committed = s' ∧
      w'.lock = none ∧ w'.sessions c = ⟨qs, none⟩ ∧ w'.answers = w.answers ++ [⟨c, q, .ok a⟩] := by
  induction left generalizing s w with
  | ret r =>
    obtain ⟨rfl, rfl⟩ := Prod.mk.inj he
    rw [guarded_ok] at hs
    have hstep := @Step.perform κ Req σ ρ ε α _ (serving plan) w c q qs .commit _ none hs
      fun _ _ => .inr ⟨s, hl⟩
    refine ⟨_, .single hstep, ?_⟩
    simp [view_of_holds hl, Op.exec, Op.attempt, store, World.resume, hl, hs]
  | op o k ih =>
    obtain ⟨ho, hk, hwk⟩ := hwl
    rw [guarded_op] at hs
    -- One operation that gives `row` and leaves `t` in the working copy, and then the rest.
    have go : ∀ (row : Option ρ) (t : σ),
        o.exec none (w.view c) = (.ok row, ⟨w.committed, some t⟩) →
        (k (.ok row)).eval t = (.ok a, s') →
        ∃ w', Relation.ReflTransGen (Step (serving plan)) w w' ∧ w'.committed = s' ∧
          w'.lock = none ∧ w'.sessions c = ⟨qs, none⟩ ∧
          w'.answers = w.answers ++ [⟨c, q, .ok a⟩] := by
      intro row t hexec het
      have hstep := @Step.perform κ Req σ ρ ε α _ (serving plan) w c q qs o _ none hs
        fun _ _ => .inr ⟨s, hl⟩
      rw [hexec] at hstep
      have hgo := guarded_ne_ret (k (.ok row))
      have hsess : (w.store c ⟨w.committed, some t⟩).sessions c = w.sessions c := rfl
      obtain ⟨w', hsteps, hc, hl', hs', ha⟩ := ih (.ok row) (hwk _)
        ((sessions_resume q hgo).trans (by rw [hsess, hs])) (lock_resume q _) het
      exact ⟨w', .head hstep hsteps, hc, hl', hs', by rw [ha, answers_resume q hgo]; rfl⟩
    rw [view_of_holds hl] at go
    cases o with
    | stmt stmt =>
      simp only [eval] at he
      cases hst : stmt s with
      | error e =>
        rw [hst] at he
        simp only [hk, eval] at he
        cases he
      | ok r =>
        rw [hst] at he
        exact go r.1 r.2 (by simp only [Op.exec, Op.attempt, hst]) he
    | call => exact go none s rfl he
    | begin => exact ho.elim
    | commit => exact ho.elim
    | rollback => exact ho.elim

/-- A client whose turn it is can have its next request served to the end, with the answer and the
contents that its body computes. -/
theorem completes {q : Req} {qs : List Req} {body : Prog σ ρ ε α} (hq : plan q = .ok body)
    (hw : body.Work) (hs : w.sessions c = ⟨q :: qs, none⟩) (hl : w.lock = none) {s' : σ} {a : α}
    (he : body.eval w.committed = (.ok a, s')) :
    ∃ w', Relation.ReflTransGen (Step (serving plan)) w w' ∧ w'.committed = s' ∧
      w'.lock = none ∧ w'.sessions c = ⟨qs, none⟩ ∧ w'.answers = w.answers ++ [⟨c, q, .ok a⟩] := by
  obtain ⟨k, hk, hgo⟩ : ∃ k, serving plan q = .op .begin k ∧ k (.ok none) = guarded body :=
    ⟨_, (show serving plan q = transaction body by simp only [serving, hq]).trans
      (transaction_eq body), rfl⟩
  -- The request is sent, takes the free lock, and its body runs with nobody in between.
  have hsend := @Step.send κ Req σ ρ ε α _ (serving plan) w c q qs hs
  rw [hk] at hsend
  generalize hw₁ : (w.send c).resume c q (.op .begin k) = w₁ at hsend
  have hs₁ : w₁.sessions c = ⟨qs, some (q, .op .begin k)⟩ := by
    rw [← hw₁, sessions_resume q (by simp)]
    simp [send, hs]
  have hl₁ : w₁.lock = none := by rw [← hw₁, lock_resume]; exact hl
  have hc₁ : w₁.committed = w.committed := by rw [← hw₁, committed_resume]; rfl
  have ha₁ : w₁.answers = w.answers := by rw [← hw₁, answers_resume q (by simp)]; rfl
  have hbegin := @Step.perform κ Req σ ρ ε α _ (serving plan) w₁ c q qs .begin k none hs₁
    fun _ _ => .inl hl₁
  rw [view_of_not_holds (not_holds_of_free hl₁)] at hbegin
  simp only [Op.exec, Op.attempt, Conn.idle, hgo] at hbegin
  have hgo := guarded_ne_ret body
  have hsess : (w₁.store c ⟨w₁.committed, some w₁.committed⟩).sessions c = w₁.sessions c := rfl
  rw [← hc₁] at he
  obtain ⟨w', hsteps, hc, hl', hs', ha⟩ := commits hw
    ((sessions_resume q hgo).trans (by rw [hsess, hs₁])) (lock_resume q _) he
  exact ⟨w', .head hsend (.head hbegin hsteps), hc, hl', hs', by
    rw [ha, answers_resume q hgo, ← ha₁]; rfl⟩

end World

end Store
