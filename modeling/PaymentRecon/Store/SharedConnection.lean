import PaymentRecon.Store.Liveness

/-!
# Clients that share one connection

The clients of `Interleaving.lean` have a connection each, and the engine keeps them apart with its lock. Here
they share one, and nothing keeps them apart: whoever performs an operation performs it on whatever the others
have left. What saves them is that `transaction` opens its transaction before the `try`: who finds one open is
refused, and does not go on to a rollback of somebody else's work. `World.SharedInv.turn` makes this exact. It
needs an engine that does not end a transaction by itself (`Fault.StaysOpen`), and then the contents are serial
as they are with a connection for each (`World.SharedReachable.inv`).
-/

namespace Store

open Prog

variable {κ Req σ ρ ε α : Type}

/-- A failure after which the transaction is still open. -/
def Fault.StaysOpen : Fault ε → Prop
  | .raise _ => True
  | .abort _ => False

/-- Work on an open transaction leaves it open. -/
theorem Op.exec_open {o : Op σ ρ ε} (ho : o.IsWork) {fault : Option (Fault ε)}
    (hfault : ∀ f, fault = some f → f.StaysOpen) (s t : σ) :
    ∃ t', (o.exec fault ⟨s, some t⟩).2.working = some t' := by
  cases fault with
  | some f =>
    cases f with
    | abort e => exact (hfault _ rfl).elim
    | raise e => cases o <;> first | exact ⟨t, rfl⟩ | exact ho.elim
  | none =>
    cases o with
    | call => exact ⟨t, rfl⟩
    | stmt run =>
      simp only [Op.exec, Op.attempt]
      cases run t with
      | error e => exact ⟨t, rfl⟩
      | ok r => exact ⟨r.2, rfl⟩
    | begin => exact ho.elim
    | commit => exact ho.elim
    | rollback => exact ho.elim

/-- After its rollback a program ends. -/
theorem Prog.unwind_ends {e : Exc ε} {o o' : Op σ ρ ε} {k k' : Except (Exc ε) (Option ρ) → Prog σ ρ ε α}
    (h : Prog.op o k = unwind e) (r : Except (Exc ε) (Option ρ)) : k r ≠ .op o' k' := by
  rw [unwind_eq] at h
  obtain ⟨rfl, rfl⟩ := Prog.op.inj h
  cases r with
  | ok row => exact fun heq => by cases heq
  | error e' => exact fun heq => by cases heq

namespace World

/-- The connection of all clients. -/
def shared (w : World κ Req σ ρ ε α) : Conn σ := ⟨w.committed, w.lock.map Prod.snd⟩

/-- Take the connection back after an operation of `c`. Who opened the transaction is kept for the record:
the connection does not know it. -/
def put (w : World κ Req σ ρ ε α) (c : κ) (conn : Conn σ) : World κ Req σ ρ ε α :=
  { w with
    committed := conn.committed
    lock := conn.working.map fun s => (w.lock.elim c Prod.fst, s) }

/-- Whoever is being served waits for the beginning of its transaction, or has opened the one that is open. -/
def Placed (w : World κ Req σ ρ ε α) : Prop :=
  ∀ c q p, (w.sessions c).serving = some (q, p) → (∃ body, p = transaction body) ∨ w.Holds c

section

variable {w : World κ Req σ ρ ε α} {c : κ} {s : σ}

/-- To put back what is there changes nothing. -/
theorem put_shared : w.put c w.shared = w := by
  obtain ⟨committed, lock, sessions, answers⟩ := w
  cases lock <;> rfl

/-- While a transaction is open, the connection has its working copy. -/
theorem shared_of_lock (h : w.lock = some (c, s)) : w.shared = ⟨w.committed, some s⟩ := by
  rw [shared, h]
  rfl

/-- A client whose transaction stays open keeps the lock. -/
theorem holds_put (h : w.lock = some (c, s)) {conn : Conn σ} {t : σ} (hconn : conn.working = some t) :
    (w.put c conn).Holds c :=
  ⟨t, by simp [put, h, hconn]⟩

/-- Who has opened the transaction is in it until its program ends. -/
theorem Progress.holds_put {plan : Req → Except (Exc ε) (Prog σ ρ ε α)} {q : Req} {o o' : Op σ ρ ε}
    {k k' : Except (Exc ε) (Option ρ) → Prog σ ρ ε α} (h : Progress plan w c q (.op o k))
    (hl : w.lock = some (c, s)) {fault : Option (Fault ε)} (hfault : ∀ f, fault = some f → f.StaysOpen)
    (hk : k (o.exec fault w.shared).1 = .op o' k') : (w.put c (o.exec fault w.shared).2).Holds c := by
  rw [shared_of_lock hl] at hk ⊢
  generalize hp : Prog.op o k = p at h
  -- A client that holds the transaction is inside its body; at the end, a commit gives the lock up.
  cases h with
  | waiting _ _ hn => exact absurd ⟨s, hl⟩ hn
  | unwinding e => exact absurd hk (unwind_ends hp _)
  | @inside body left _ _ _ hwl =>
    cases left with
    | ret r =>
      cases r with
      | error e => exact absurd hk (unwind_ends (hp.trans (guarded_error e)) _)
      | ok a =>
        rw [guarded_ok] at hp
        obtain ⟨rfl, rfl⟩ := Prog.op.inj hp
        cases fault with
        | none => cases hk
        | some f =>
          cases f with
          -- A commit that fails and leaves the transaction open: the client still has it.
          | raise e => exact World.holds_put hl rfl
          | abort e => exact (hfault _ rfl).elim
    | op o₁ k₁ =>
      rw [guarded_op] at hp
      obtain ⟨rfl, rfl⟩ := Prog.op.inj hp
      obtain ⟨t, ht⟩ := Op.exec_open hwl.1 hfault w.committed s
      exact World.holds_put hl ht

end

section

variable [DecidableEq κ]

/-- The turn of a client: the program that serves it performs its next operation on the shared connection,
which may fail, or it sends its next request. Who has nothing to do passes. -/
def turn (serve : Req → Prog σ ρ ε α) (w : World κ Req σ ρ ε α) (c : κ) (fault : Option (Fault ε)) :
    World κ Req σ ρ ε α :=
  match w.sessions c with
  | ⟨_, some (q, .op o k)⟩ =>
    (w.put c (o.exec fault w.shared).2).resume c q (k (o.exec fault w.shared).1)
  | ⟨q :: _, none⟩ => (w.send c).resume c q (serve q)
  | _ => w

/-- Some client has its turn. -/
def Turns (allowed : Fault ε → Prop) (serve : Req → Prog σ ρ ε α) (w w' : World κ Req σ ρ ε α) : Prop :=
  ∃ c fault, (∀ f, fault = some f → allowed f) ∧ w' = w.turn serve c fault

/-- The worlds reached by any order of turns. -/
def SharedReachable (allowed : Fault ε → Prop) (serve : Req → Prog σ ρ ε α) (s : σ)
    (requests : κ → List Req) (w : World κ Req σ ρ ε α) : Prop :=
  Relation.ReflTransGen (Turns allowed serve) (start s requests) w

/-- Turns, one after another. -/
def turns (serve : Req → Prog σ ρ ε α) (w : World κ Req σ ρ ε α) (schedule : List (κ × Option (Fault ε))) :
    World κ Req σ ρ ε α :=
  schedule.foldl (fun w x => w.turn serve x.1 x.2) w

variable {plan : Req → Except (Exc ε) (Prog σ ρ ε α)} {s₀ : σ} {w : World κ Req σ ρ ε α} {c : κ}

/-- A schedule leads to a reachable world. -/
theorem SharedReachable.turns {allowed : Fault ε → Prop} {serve : Req → Prog σ ρ ε α}
    {requests : κ → List Req} (h : SharedReachable allowed serve s₀ requests w)
    {schedule : List (κ × Option (Fault ε))} (hallowed : ∀ x ∈ schedule, ∀ f, x.2 = some f → allowed f) :
    SharedReachable allowed serve s₀ requests (w.turns serve schedule) := by
  induction schedule generalizing w with
  | nil => exact h
  | cons x schedule ih =>
    have hx := hallowed x List.mem_cons_self
    exact ih (h.tail ⟨x.1, x.2, hx, rfl⟩) fun y hy => hallowed y (List.mem_cons_of_mem _ hy)

/-- The invariant of clients that share a connection. -/
structure SharedInv (plan : Req → Except (Exc ε) (Prog σ ρ ε α)) (s₀ : σ) (w : World κ Req σ ρ ε α) : Prop
    extends Inv plan s₀ w where
  /-- Everybody is in its place. -/
  placed : w.Placed

/-- A client that goes on is placed when its program is. -/
theorem Placed.resume {q : Req} {p : Prog σ ρ ε α}
    (hothers : ∀ d, d ≠ c → ∀ q' p', (w.sessions d).serving = some (q', p') →
      (∃ body, p' = transaction body) ∨ w.Holds d)
    (hself : ∀ o k, p = .op o k → (∃ body, p = transaction body) ∨ w.Holds c) :
    (w.resume c q p).Placed := by
  intro d q' p' hs
  have hholds : (w.resume c q p).Holds d ↔ w.Holds d := by rw [Holds, Holds, lock_resume]
  rw [hholds]
  by_cases hd : d = c
  · subst hd
    rw [sessions_resume_self] at hs
    cases p with
    | ret r => cases hs
    | op o k =>
      obtain ⟨-, rfl⟩ := Prod.mk.inj (Option.some.inj hs)
      exact hself o k rfl
  · rw [sessions_resume_of_ne _ _ hd] at hs
    exact hothers d hd q' p' hs

/-- The turn of a client that has opened the transaction, as if the connection were its own. -/
theorem SharedInv.turn_inside (h : SharedInv plan s₀ w)
    (hwork : ∀ q body, plan q = .ok body → body.Work) {q : Req} {qs : List Req} {o : Op σ ρ ε}
    {k : Except (Exc ε) (Option ρ) → Prog σ ρ ε α} (hs : w.sessions c = ⟨qs, some (q, .op o k)⟩) {s : σ}
    (hl : w.lock = some (c, s)) {fault : Option (Fault ε)} (hfault : ∀ f, fault = some f → f.StaysOpen) :
    SharedInv plan s₀
      ((w.put c (o.exec fault w.shared).2).resume c q (k (o.exec fault w.shared).1)) := by
  have hp : (w.sessions c).serving = some (q, .op o k) := by rw [hs]
  -- The connection has the contents that the client is working on.
  have hview : w.shared = w.view c := by rw [shared_of_lock hl, view_of_holds hl]
  have hput : ∀ conn, w.put c conn = w.store c conn := by
    intro conn
    cases hw : conn.working <;> simp [put, store, hl, hw, Option.filter_some]
  refine ⟨?_, Placed.resume (fun d hd q' p' hd' => .inl ?_) fun o' k' hk => .inr ?_⟩
  · rw [hview, hput]
    exact h.toInv.step hwork (.perform hs fun _ _ => .inr ⟨s, hl⟩)
  · exact (h.placed d q' p' hd').resolve_right fun hholds => hd (hholds.eq ⟨s, hl⟩)
  · exact (h.progress c q _ hp).holds_put hl hfault hk

/-- A client that waits and is not let in is answered with an error, and changes nothing. -/
theorem SharedInv.refused (h : SharedInv plan s₀ w) {q : Req} (hc : ¬ w.Holds c) (e : Exc ε) :
    SharedInv plan s₀ (w.resume c q (.ret (.error e))) :=
  ⟨h.toInv.fail (.refl w c) (fun _ _ => rfl) rfl rfl hc,
    .resume (fun d _ => h.placed d) fun _ _ heq => by cases heq⟩

/-- The turn of a client that waits: it is let in when no transaction is open, and refused otherwise. -/
theorem SharedInv.turn_waiting (h : SharedInv plan s₀ w)
    (hwork : ∀ q body, plan q = .ok body → body.Work) {q : Req} {qs : List Req} {o : Op σ ρ ε}
    {k : Except (Exc ε) (Option ρ) → Prog σ ρ ε α} (hs : w.sessions c = ⟨qs, some (q, .op o k)⟩)
    (hc : ¬ w.Holds c) {fault : Option (Fault ε)} (hfault : ∀ f, fault = some f → f.StaysOpen) :
    SharedInv plan s₀
      ((w.put c (o.exec fault w.shared).2).resume c q (k (o.exec fault w.shared).1)) := by
  -- Who waits is at the start of its transaction.
  obtain ⟨body, hbody⟩ := (h.placed c q (.op o k) (by rw [hs])).resolve_right hc
  have hop := hbody
  rw [transaction_eq] at hop
  obtain ⟨rfl, rfl⟩ := Prog.op.inj hop
  cases fault with
  | some f =>
    cases f with
    | abort e => exact (hfault _ rfl).elim
    | raise e =>
      show SharedInv plan s₀ ((w.put c w.shared).resume c q (.ret (.error (.raised e))))
      rw [put_shared]
      exact h.refused hc _
  | none =>
    cases hl : w.lock with
    | some l =>
      -- Another transaction is open, and `BEGIN` is refused.
      have hexec : (Op.begin : Op σ ρ ε).exec none w.shared = (.error (.refused .nested), w.shared) := by
        rw [shared_of_lock hl]
        rfl
      rw [hexec, put_shared]
      exact h.refused hc _
    | none =>
      -- None is open, and `BEGIN` does what it does on a connection of its own.
      have hview : w.shared = w.view c := by rw [view_of_not_holds hc, shared, hl]; rfl
      have hput : w.put c ((Op.begin : Op σ ρ ε).exec none w.shared).2 =
          w.store c ((Op.begin : Op σ ρ ε).exec none w.shared).2 := by
        rw [shared, hl]
        simp [Op.exec, Op.attempt, put, store, hl]
      refine ⟨?_, Placed.resume (fun d _ q' p' hd' => .inl ?_) fun _ _ _ => .inr ?_⟩
      · rw [hput, hview]
        exact h.toInv.step hwork (.perform hs fun _ _ => .inl hl)
      · exact (h.placed d q' p' hd').resolve_right (not_holds_of_free hl)
      · exact ⟨w.committed, by simp [shared, Op.exec, Op.attempt, put, hl]⟩

/-- Every turn keeps the invariant, as long as the engine does not end a transaction by itself. -/
theorem SharedInv.turn (h : SharedInv plan s₀ w) (hwork : ∀ q body, plan q = .ok body → body.Work) (c : κ)
    {fault : Option (Fault ε)} (hfault : ∀ f, fault = some f → f.StaysOpen) :
    SharedInv plan s₀ (w.turn (serving plan) c fault) := by
  -- It is the turn of a client that is being served, of one with a request to send, or of an idle one.
  cases hs : w.sessions c with
  | mk pending left =>
    cases left with
    | some x =>
      obtain ⟨q, p⟩ := x
      cases p with
      | ret r =>
        rw [World.turn, hs]
        exact h
      | op o k =>
        rw [World.turn, hs]
        by_cases hc : w.Holds c
        · obtain ⟨s, hl⟩ := hc
          exact h.turn_inside hwork hs hl hfault
        · exact h.turn_waiting hwork hs hc hfault
    | none =>
      cases pending with
      | nil =>
        rw [World.turn, hs]
        exact h
      | cons q qs =>
        rw [World.turn, hs]
        have hstep : Step (serving plan) w ((w.send c).resume c q (serving plan q)) := .send hs
        refine ⟨h.toInv.step hwork hstep, Placed.resume (fun d hd q' p' hd' => ?_) fun o k hop => .inl ?_⟩
        · rw [sessions_send_of_ne hd] at hd'
          exact h.placed d q' p' hd'
        · cases hplan : plan q with
          | error e =>
            rw [serving, hplan] at hop
            cases hop
          | ok body => exact ⟨body, by rw [serving, hplan]⟩

/-- The invariant holds of the reachable worlds: clients that share a connection are served as if one after
another, as long as the engine does not end a transaction by itself. -/
theorem SharedReachable.inv (hwork : ∀ q body, plan q = .ok body → body.Work) {requests : κ → List Req}
    (h : SharedReachable Fault.StaysOpen (serving plan) s₀ requests w) : SharedInv plan s₀ w := by
  induction h with
  | refl => exact
      { toInv := Reachable.inv hwork .refl
        placed := fun c q p hs => by cases hs }
  | tail _ hturn ih =>
    obtain ⟨c, fault, hfault, rfl⟩ := hturn
    exact ih.turn hwork c hfault

end

end World

end Store
