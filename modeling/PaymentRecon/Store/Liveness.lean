import Mathlib.Data.DFinsupp.WellFounded
import Mathlib.SetTheory.Cardinal.Order
import PaymentRecon.Store.Progress

/-!
# Clients are served

Clients that share a store do not keep one another from being served. Every step brings one client nearer to
its last answer and leaves the others where they are, so that finitely many clients take finitely many
steps, whatever fails (`World.wellFounded_step`). Nobody is stuck: as long as a request is left, some client
has a step in which nothing fails (`World.Inv.goes`), because who holds the lock can go on, and who failed
lets it go. Each client has its requests answered in order, each once (`World.requests_eq`). When nothing
fails, every transaction is answered with the value of its body (`World.succeeds`).
-/

namespace Store

open Prog

variable {κ Req σ ρ ε α : Type}

/-! ## Runs end -/

/-- Less is left of what a client is being served. -/
inductive Left : Option (Req × Prog σ ρ ε α) → Option (Req × Prog σ ρ ε α) → Prop
  /-- It is answered. -/
  | answered (x : Req × Prog σ ρ ε α) : Left none (some x)
  /-- Its program has performed an operation. -/
  | performed (q : Req) (o : Op σ ρ ε) (k : Except (Exc ε) (Option ρ) → Prog σ ρ ε α)
      (r : Except (Exc ε) (Option ρ)) : Left (some (q, k r)) (some (q, .op o k))

/-- A request is answered after finitely many operations, whatever they reply. -/
theorem wellFounded_left : WellFounded (@Left Req σ ρ ε α) := by
  have hnone : Acc (@Left Req σ ρ ε α) none :=
    .intro _ fun _ h => nomatch h
  have hsome : ∀ (p : Prog σ ρ ε α) (q : Req), Acc Left (some (q, p)) := by
    intro p
    induction p with
    | ret r =>
      refine fun q => .intro _ fun x h => ?_
      cases h
      exact hnone
    | op o k ih =>
      refine fun q => .intro _ fun x h => ?_
      cases h with
      | answered => exact hnone
      | performed _ _ _ r => exact ih r q
  refine ⟨fun x => ?_⟩
  cases x with
  | none => exact hnone
  | some x => exact hsome x.2 x.1

/-- A client is nearer to its last answer. -/
def Session.Nearer : Session Req σ ρ ε α → Session Req σ ρ ε α → Prop :=
  InvImage (Prod.Lex (· < ·) Left) fun s => (s.pending.length, s.serving)

/-- A session cannot come nearer to its end forever. -/
theorem Session.wellFounded_nearer : WellFounded (@Session.Nearer Req σ ρ ε α) :=
  InvImage.wf _ (WellFounded.prod_lex wellFounded_lt wellFounded_left)

/-- What a client is being served after an operation. -/
def Prog.ahead (q : Req) : Prog σ ρ ε α → Option (Req × Prog σ ρ ε α)
  | .ret _ => none
  | .op o k => some (q, .op o k)

/-- What is ahead of an operation is left after it. -/
theorem left_ahead (q : Req) (o : Op σ ρ ε) (k : Except (Exc ε) (Option ρ) → Prog σ ρ ε α)
    (r : Except (Exc ε) (Option ρ)) : Left ((k r).ahead q) (some (q, .op o k)) := by
  have hperformed := Left.performed q o k r
  cases hk : k r with
  | ret => exact .answered _
  | op => rwa [hk] at hperformed

namespace World

section

variable [DecidableEq κ] {serve : Req → Prog σ ρ ε α} {w w' : World κ Req σ ρ ε α} {c d : κ}

/-- The client that goes on has the rest of its program ahead. -/
theorem sessions_resume_self (q : Req) (p : Prog σ ρ ε α) :
    (w.resume c q p).sessions c = ⟨(w.sessions c).pending, p.ahead q⟩ := by
  cases p <;> exact Function.update_self ..

/-- The other clients stay where they are. -/
theorem sessions_resume_of_ne (q : Req) (p : Prog σ ρ ε α) (hd : d ≠ c) :
    (w.resume c q p).sessions d = w.sessions d := by
  cases p <;> exact Function.update_of_ne hd ..

/-- Sending a request is up to one client. -/
theorem sessions_send_of_ne (hd : d ≠ c) : (w.send c).sessions d = w.sessions d :=
  Function.update_of_ne hd ..

/-- A step brings one client nearer to its last answer. -/
theorem Step.nearer (h : Step serve w w') :
    ∃ c, (w'.sessions c).Nearer (w.sessions c) ∧ ∀ d, d ≠ c → w'.sessions d = w.sessions d := by
  cases h with
  | @send c q qs hs =>
    refine ⟨c, ?_, fun d hd => ?_⟩
    · rw [sessions_resume_self, hs]
      have hpending : ((w.send c).sessions c).pending = qs := by simp [World.send, hs]
      rw [hpending]
      exact .left _ _ (Nat.lt_succ_self _)
    · rw [sessions_resume_of_ne _ _ hd, sessions_send_of_ne hd]
  | @perform c q qs o k fault hs hl =>
    refine ⟨c, ?_, fun d hd => sessions_resume_of_ne _ _ hd⟩
    rw [sessions_resume_self, hs]
    have hpending : ((w.store c (o.exec fault (w.view c)).2).sessions c).pending = qs :=
      congrArg Session.pending hs
    rw [hpending]
    exact .right _ (left_ahead q o k _)

/-- Finitely many clients take finitely many steps. -/
theorem wellFounded_step [Finite κ] (serve : Req → Prog σ ρ ε α) :
    WellFounded fun w' w : World κ Req σ ρ ε α => Step serve w w' := by
  -- What the clients have left is compared client by client, in some order of the clients.
  refine Subrelation.wf (fun {w' w} h => ?_) (InvImage.wf World.sessions
    (Pi.Lex.wellFounded (WellOrderingRel : κ → κ → Prop) fun _ => Session.wellFounded_nearer))
  obtain ⟨c, hc, hd⟩ := h.nearer
  exact ⟨c, fun d hlt => hd d fun heq => (irrefl (r := WellOrderingRel) c) (heq ▸ hlt), hc⟩

/-! ## Answers come in order -/

/-- The requests of a client that were answered, oldest first. -/
def answeredTo (w : World κ Req σ ρ ε α) (c : κ) : List Req :=
  (w.answers.filter fun x => x.client = c).map Answer.request

/-- The requests of a client that were sent, oldest first. -/
def sentBy (w : World κ Req σ ρ ε α) (c : κ) : List Req :=
  w.answeredTo c ++ ((w.sessions c).serving.map Prod.fst).toList

/-- The request that goes on is the last one that was sent. -/
theorem sentBy_resume (q : Req) (p : Prog σ ρ ε α) :
    (w.resume c q p).sentBy c = w.answeredTo c ++ [q] := by
  rw [sentBy, sessions_resume_self]
  cases p with
  | ret r => simp [resume, answeredTo, ahead]
  | op o k => simp [resume, answeredTo, ahead]

/-- The other clients are given no answer. -/
theorem answeredTo_resume_of_ne (q : Req) (p : Prog σ ρ ε α) (hd : d ≠ c) :
    (w.resume c q p).answeredTo d = w.answeredTo d := by
  cases p with
  | ret r => simp [resume, answeredTo, hd.symm]
  | op o k => rfl

/-- A step keeps the requests of a client and their order. -/
theorem Step.requests (h : Step serve w w') (d : κ) :
    w'.sentBy d ++ (w'.sessions d).pending = w.sentBy d ++ (w.sessions d).pending := by
  cases h with
  | @send c q qs hs =>
    by_cases hd : d = c
    · subst hd
      rw [sentBy_resume, sessions_resume_self, sentBy, hs]
      simp [World.send, hs, answeredTo]
    · rw [sentBy, answeredTo_resume_of_ne _ _ hd, sessions_resume_of_ne _ _ hd, sessions_send_of_ne hd]
      rfl
  | @perform c q qs o k fault hs hl =>
    by_cases hd : d = c
    · subst hd
      rw [sentBy_resume, sessions_resume_self, sentBy, hs]
      show w.answeredTo d ++ [q] ++ (w.sessions d).pending = _
      rw [hs]
      rfl
    · rw [sentBy, answeredTo_resume_of_ne _ _ hd, sessions_resume_of_ne _ _ hd]
      rfl

/-- The requests of a client are those that were sent and those that it still sends. -/
theorem requests_eq {s₀ : σ} {requests : κ → List Req} (h : Reachable serve s₀ requests w) (c : κ) :
    w.sentBy c ++ (w.sessions c).pending = requests c := by
  induction h with
  | refl => rfl
  | tail _ hstep ih => rw [hstep.requests, ih]

/-! ## Nobody is stuck -/

/-- A step in which nothing fails. -/
inductive Goes (serve : Req → Prog σ ρ ε α) : World κ Req σ ρ ε α → World κ Req σ ρ ε α → Prop
  /-- A client sends its next request. -/
  | send {w : World κ Req σ ρ ε α} {c : κ} {q : Req} {qs : List Req}
      (hs : w.sessions c = ⟨q :: qs, none⟩) : Goes serve w ((w.send c).resume c q (serve q))
  /-- The program that serves it performs its next operation. -/
  | perform {w : World κ Req σ ρ ε α} {c : κ} {q : Req} {qs : List Req} {o : Op σ ρ ε}
      {k : Except (Exc ε) (Option ρ) → Prog σ ρ ε α}
      (hs : w.sessions c = ⟨qs, some (q, .op o k)⟩) (hl : o.NeedsLock → w.lock = none ∨ w.Holds c) :
      Goes serve w ((w.store c (o.exec none (w.view c)).2).resume c q (k (o.exec none (w.view c)).1))

/-- To go on without a failure is to go on. -/
theorem Goes.step (h : Goes serve w w') : Step serve w w' := by
  cases h with
  | send hs => exact .send hs
  | perform hs hl => exact .perform hs fun _ => hl

/-- Every request is answered, and the lock is free. -/
def Quiet (w : World κ Req σ ρ ε α) : Prop := w.lock = none ∧ ∀ c, w.sessions c = ⟨[], none⟩

/-- When all is quiet every request was answered. -/
theorem Quiet.answeredTo {s₀ : σ} {requests : κ → List Req} (hq : w.Quiet)
    (h : Reachable serve s₀ requests w) (c : κ) : w.answeredTo c = requests c := by
  rw [← requests_eq h c, sentBy, hq.2 c]
  simp

end

section

variable {plan : Req → Except (Exc ε) (Prog σ ρ ε α)} {s₀ : σ} [DecidableEq κ]
  {w w' : World κ Req σ ρ ε α} {c : κ}

/-- The invariant holds of the reachable worlds. -/
theorem Reachable.inv (hwork : ∀ q body, plan q = .ok body → body.Work) {requests : κ → List Req}
    (h : Reachable (serving plan) s₀ requests w) : Inv plan s₀ w := by
  induction h with
  | refl => exact
      { serial := .nil
        idle := fun c _ => not_holds_of_free rfl
        progress := fun c q p hs => nomatch hs }
  | tail _ hstep ih => exact ih.step hwork hstep

omit [DecidableEq κ] in
/-- A program that is being served has an operation left. -/
theorem Progress.exists_op {q : Req} {p : Prog σ ρ ε α} (h : Progress plan w c q p) :
    ∃ o k, p = .op o k := by
  cases h with
  | waiting => exact ⟨_, _, transaction_eq _⟩
  | unwinding e => exact ⟨_, _, unwind_eq e⟩
  | @inside _ left =>
    cases left with
    | ret r =>
      cases r with
      | ok a => exact ⟨_, _, guarded_ok a⟩
      | error e => exact ⟨_, _, (guarded_error e).trans (unwind_eq e)⟩
    | op o k => exact ⟨_, _, guarded_op o k⟩

/-- A client that is being served goes on, unless it has to wait for the lock. -/
theorem Inv.goes_of_serving (h : Inv plan s₀ w) {q : Req} {p : Prog σ ρ ε α}
    (hserving : (w.sessions c).serving = some (q, p)) (hl : w.lock = none ∨ w.Holds c) :
    ∃ w', Goes (serving plan) w w' := by
  obtain ⟨o, k, rfl⟩ := (h.progress c q p hserving).exists_op
  have hs : w.sessions c = ⟨(w.sessions c).pending, some (q, .op o k)⟩ := by rw [← hserving]
  exact ⟨_, .perform hs fun _ => hl⟩

/-- As long as a request is left, some client has a step in which nothing fails. -/
theorem Inv.goes (h : Inv plan s₀ w) : w.Quiet ∨ ∃ w', Goes (serving plan) w w' := by
  cases hlock : w.lock with
  | some l =>
    -- Who holds the lock is being served, and does not wait.
    have hholds : w.Holds l.1 := ⟨l.2, hlock⟩
    have hserving : (w.sessions l.1).serving ≠ none := fun hnone => h.idle _ hnone hholds
    obtain ⟨⟨q, p⟩, hp⟩ := Option.ne_none_iff_exists'.1 hserving
    exact .inr (h.goes_of_serving hp (.inr hholds))
  | none =>
    by_cases hquiet : ∀ c, w.sessions c = ⟨[], none⟩
    · exact .inl ⟨hlock, hquiet⟩
    · push Not at hquiet
      obtain ⟨c, hc⟩ := hquiet
      right
      cases hs : w.sessions c with
      | mk pending serving =>
        cases serving with
        | some x => exact h.goes_of_serving (c := c) (by rw [hs]) (.inl hlock)
        | none =>
          cases pending with
          | nil => exact absurd hs hc
          | cons q qs => exact ⟨_, .send hs⟩

/-! ## When nothing fails -/

/-- No client has failed. -/
structure Unfailed (plan : Req → Except (Exc ε) (Prog σ ρ ε α)) (w : World κ Req σ ρ ε α) : Prop where
  /-- Nobody is rolling back. -/
  serving : ∀ c q e, (w.sessions c).serving ≠ some (q, unwind e)
  /-- Every transaction was answered with a value. -/
  answers : ∀ x ∈ w.answers, ∀ body, plan x.request = .ok body → ∃ a, x.result = .ok a

/-- What is left of a body that returns does not roll back. -/
theorem guarded_ne_unwind {left : Prog σ ρ ε α} (hleft : left.Work) {s s' : σ} {a : α}
    (he : left.eval s = (.ok a, s')) (e : Exc ε) : guarded left ≠ unwind e := by
  rw [unwind_eq]
  cases left with
  | ret r =>
    obtain ⟨rfl, -⟩ := Prod.mk.inj he
    rw [guarded_ok]
    intro h
    cases (Prog.op.inj h).1
  | op o k =>
    rw [guarded_op]
    intro h
    rw [(Prog.op.inj h).1] at hleft
    exact hleft.1

/-- A program goes on as it does when nothing fails: it does not roll back, and it ends with a value. -/
theorem Unfailed.resume (h : Unfailed plan w) {q : Req} {p : Prog σ ρ ε α} (hunwind : ∀ e, p ≠ unwind e)
    (hvalue : ∀ r, p = .ret r → ∀ body, plan q = .ok body → ∃ a, r = .ok a) :
    Unfailed plan (w.resume c q p) where
  serving d q' e hs := by
    by_cases hd : d = c
    · subst hd
      rw [sessions_resume_self] at hs
      cases p with
      | ret r => cases hs
      | op o k => exact hunwind e (Prod.mk.inj (Option.some.inj hs)).2
    · rw [sessions_resume_of_ne _ _ hd] at hs
      exact h.serving d q' e hs
  answers x hx := by
    cases p with
    | op o k => exact h.answers x hx
    | ret r =>
      rcases List.mem_append.1 hx with hx | hx
      · exact h.answers x hx
      · obtain rfl := List.mem_singleton.1 hx
        exact hvalue r rfl

/-- What a program does next when nothing fails and its body returns: it does not roll back, and it ends
with a value. -/
theorem Progress.performs {q : Req} {o : Op σ ρ ε} {k : Except (Exc ε) (Option ρ) → Prog σ ρ ε α}
    (h : Progress plan w c q (.op o k)) (hunwind : ∀ e, Prog.op o k ≠ unwind e)
    (hreturns : ∀ body, plan q = .ok body → ∃ a s', body.eval w.committed = (.ok a, s')) :
    (∀ e, k (o.exec none (w.view c)).1 ≠ unwind e) ∧
      ∀ r, k (o.exec none (w.view c)).1 = .ret r → ∃ a, r = .ok a := by
  generalize hp : Prog.op o k = p at h hunwind
  cases h with
  | @waiting body hw hq hl =>
    obtain ⟨a, s', he⟩ := hreturns body hq
    -- The transaction opens, and its body is next.
    rw [transaction_eq] at hp
    obtain ⟨rfl, rfl⟩ := Prog.op.inj hp
    rw [view_of_not_holds hl]
    exact ⟨guarded_ne_unwind hw he, fun r hr => absurd hr (guarded_ne_ret body r)⟩
  | unwinding e => exact absurd rfl (hunwind e)
  | @inside body left s hw hq hwl hl he =>
    obtain ⟨a, s', hbody⟩ := hreturns body hq
    rw [hbody] at he
    cases left with
    | ret r =>
      obtain ⟨rfl, -⟩ := Prod.mk.inj he
      rw [guarded_ok] at hp
      obtain ⟨rfl, rfl⟩ := Prog.op.inj hp
      rw [view_of_holds hl]
      refine ⟨fun e => ?_, fun r hr => ⟨a, (Prog.ret.inj hr).symm⟩⟩
      rw [unwind_eq]
      intro heq
      cases heq
    | op o' k' =>
      obtain ⟨ho, hk, hrest⟩ := hwl
      rw [guarded_op] at hp
      obtain ⟨rfl, rfl⟩ := Prog.op.inj hp
      -- The rest of the body is still to be run, from the contents that the operation leaves.
      have go : ∀ (row : Option ρ) (t : σ), (k' (.ok row)).eval t = (.ok a, s') →
          (∀ e, guarded (k' (.ok row)) ≠ unwind e) ∧
            ∀ r, guarded (k' (.ok row)) = .ret r → ∃ a, r = .ok a :=
        fun row t het =>
          ⟨guarded_ne_unwind (hrest _) het, fun r hr => absurd hr (guarded_ne_ret _ r)⟩
      rw [view_of_holds hl]
      cases o with
      | stmt stmt =>
        simp only [eval] at he
        cases hstmt : stmt s with
        | error e =>
          rw [hstmt] at he
          simp only [hk, eval] at he
          cases he
        | ok r =>
          rw [hstmt] at he
          simp only [Op.exec, Op.attempt, hstmt]
          exact go r.1 r.2 he
      | call => exact go none s he
      | begin => exact ho.elim
      | commit => exact ho.elim
      | rollback => exact ho.elim

/-- A step in which nothing fails leads from a world in which nobody has failed to another one, when the
bodies return on the committed contents. -/
theorem Goes.unfailed (hgoes : Goes (serving plan) w w') (hi : Inv plan s₀ w) (h : Unfailed plan w)
    (hreturns : ∀ q body, plan q = .ok body → ∃ a s', body.eval w.committed = (.ok a, s')) :
    Unfailed plan w' := by
  cases hgoes with
  | @send c q qs hs =>
    have hsend : Unfailed plan (w.send c) := by
      -- A client that sends was not being served, so it was not unwinding.
      refine ⟨fun d q' e hd => ?_, h.answers⟩
      by_cases hdc : d = c
      · subst hdc
        simp [World.send, hs] at hd
      · rw [sessions_send_of_ne hdc] at hd
        exact h.serving d q' e hd
    cases hplan : plan q with
    | error e =>
      simp only [serving, hplan]
      refine hsend.resume (fun e' => ?_) fun r _ body hbody => ?_
      · rw [unwind_eq]
        intro heq
        cases heq
      · rw [hplan] at hbody
        cases hbody
    | ok body =>
      simp only [serving, hplan]
      refine hsend.resume (fun e' => ?_) fun r hr => ?_
      · rw [unwind_eq, transaction_eq]
        intro heq
        cases (Prog.op.inj heq).1
      · rw [transaction_eq] at hr
        cases hr
  | @perform c q qs o k hs hl =>
    -- A step without a failure goes on as the run of the body alone does, which returns.
    have hserving : (w.sessions c).serving = some (q, .op o k) := by rw [hs]
    have hstore : Unfailed plan (w.store c (o.exec none (w.view c)).2) := ⟨h.serving, h.answers⟩
    obtain ⟨hunwind, hvalue⟩ := (hi.progress c q _ hserving).performs
      (fun e he => h.serving c q e (by rw [hserving, he])) (hreturns q)
    exact hstore.resume hunwind fun r hr _ _ => hvalue r hr

/-- In a run in which nothing fails every transaction is answered with a value, when the bodies return on
the contents that the requests lead to. -/
theorem succeeds (hwork : ∀ q body, plan q = .ok body → body.Work)
    (hreturns : ∀ log s, Serial plan s₀ log s → ∀ q body, plan q = .ok body →
      ∃ a s', body.eval s = (.ok a, s')) {requests : κ → List Req}
    (h : Relation.ReflTransGen (Goes (serving plan)) (start s₀ requests) w) :
    ∀ x ∈ w.answers, ∀ body, plan x.request = .ok body → ∃ a, x.result = .ok a := by
  suffices Reachable (serving plan) s₀ requests w ∧ Unfailed plan w from this.2.answers
  induction h with
  | refl => exact ⟨.refl, fun c q e he => absurd he (by simp [start]), fun x hx => absurd hx List.not_mem_nil⟩
  | tail _ hgoes ih =>
    obtain ⟨hreach, hunfailed⟩ := ih
    have hi := hreach.inv hwork
    exact ⟨hreach.tail hgoes.step, hgoes.unfailed hi hunfailed (hreturns _ _ hi.serial)⟩

end

end World

end Store
