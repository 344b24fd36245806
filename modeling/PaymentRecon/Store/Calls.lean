import PaymentRecon.Store.Program

/-!
# Calls that raise

A call of code outside the store may return or raise, and a program may not know which. `Raises p q`
says that `p` is the program `q` but for some calls that raise in `p`, and `Raises.exists_run_eq` that
every run of `p` is then a run of `q` under other failures: one that hits a call is the exception of the
call. So what holds of `q` whatever fails holds of `p` whatever its calls raise.

`SparesCalls` tells the other failures apart: those of a store that is busy or broken.
-/

namespace Store.Prog

variable {σ ρ ε α β : Type}

/-! ## The failures of the store -/

/-- No failure of a schedule hits a call of a run: those that happen are of the store. -/
def SparesCalls (faults : ℕ → Option (Fault ε)) : Prog σ ρ ε α → ℕ → Conn σ → Prop
  | .ret _, _, _ => True
  | .op .call k, n, c => faults n = none ∧ (k (.ok none)).SparesCalls faults (n + 1) c
  | .op o k, n, c =>
    (k (o.exec (faults n) c).1).SparesCalls faults (n + 1) (o.exec (faults n) c).2

/-- Without failures, no call is hit. -/
theorem sparesCalls_of_none {faults : ℕ → Option (Fault ε)} (hf : ∀ i, faults i = none)
    (p : Prog σ ρ ε α) (n : ℕ) (c : Conn σ) : p.SparesCalls faults n c := by
  induction p generalizing n c with
  | ret r => trivial
  | op o k ih =>
    cases o with
    | call => exact ⟨hf n, ih _ _ _⟩
    | _ => exact ih _ _ _

/-! ## Programs with calls that raise -/

/-- The first program is the second one, except that some of its calls raise. -/
inductive Raises : Prog σ ρ ε α → Prog σ ρ ε α → Prop
  /-- Both end. -/
  | ret (r : Except (Exc ε) α) : Raises (.ret r) (.ret r)
  /-- Both perform an operation. -/
  | op (o : Op σ ρ ε) {k k' : Except (Exc ε) (Option ρ) → Prog σ ρ ε α}
    (h : ∀ reply, Raises (k reply) (k' reply)) : Raises (.op o k) (.op o k')
  /-- A call after which the first program goes on as the second one does when the call raises. -/
  | call {k k' : Except (Exc ε) (Option ρ) → Prog σ ρ ε α} (e : ε)
    (hraised : Raises (k (.ok none)) (k' (.error (.raised e))))
    (hfailed : ∀ e', Raises (k (.error e')) (k' (.error e'))) : Raises (.op .call k) (.op .call k')

namespace Raises

variable {p q : Prog σ ρ ε α}

/-- A program is itself. -/
theorem refl (p : Prog σ ρ ε α) : Raises p p := by
  induction p with
  | ret r => exact .ret r
  | op o k ih => exact .op o ih

/-- A call that raises, instead of one that returns. -/
theorem calling (e : ε) (a : α) :
    Raises (Prog.calling (.error e) : Prog σ ρ ε α) (Prog.calling (.ok a)) :=
  .call e (.ret _) fun _ => .ret _

/-- Programs compose. -/
theorem bind {f g : α → Prog σ ρ ε β} (h : Raises p q) (hf : ∀ a, Raises (f a) (g a)) :
    Raises (p >>= f) (q >>= g) := by
  induction h with
  | ret r =>
    cases r with
    | ok a => exact hf a
    | error e => exact .ret _
  | op o _ ih => exact .op o ih
  | call e _ _ ihraised ihfailed => exact .call e ihraised ihfailed

/-- So do the bodies of transactions, with `commit` and the handler around them. -/
theorem guarded (h : Raises p q) : Raises (guarded p) (guarded q) := by
  induction h with
  | ret r => exact refl _
  | op o _ ih => exact .op o ih
  | call e _ _ ihraised ihfailed => exact .call e ihraised ihfailed

/-- So do transactions. -/
theorem transaction (h : Raises p q) : Raises (transaction p) (transaction q) :=
  (refl _).bind fun _ => h.guarded

/-- Every run of a program whose calls may raise is a run of the other one under other failures. -/
theorem exists_run_eq (h : Raises p q) (faults : ℕ → Option (Fault ε)) (n : ℕ) (c : Conn σ) :
    ∃ faults', q.run faults' n c = p.run faults n c := by
  -- One operation, which fails as `fault` says, before a run of the rest under `rest`.
  have next : ∀ {o : Op σ ρ ε} {k' : Except (Exc ε) (Option ρ) → Prog σ ρ ε α}
      {out : Outcome σ ε α} (fault : Option (Fault ε)) (n : ℕ) (c : Conn σ),
      (∃ rest, (k' (o.exec fault c).1).run rest (n + 1) (o.exec fault c).2 = out) →
        ∃ faults', (Prog.op o k').run faults' n c = out := by
    rintro o k' out fault n c ⟨rest, rfl⟩
    refine ⟨fun i => if i = n then fault else rest i, ?_⟩
    rw [run, if_pos rfl]
    exact (run_congr fun i hi _ => (if_neg (Nat.ne_of_gt hi)).symm).symm
  induction h generalizing n c with
  | ret r => exact ⟨faults, rfl⟩
  | op o _ ih => exact next (faults n) n c (ih _ _ _)
  | @call k k' e _ _ ihraised ihfailed =>
    cases hf : faults n with
    | none =>
      -- The failure that hits the call of the other program is the exception.
      refine next (some (.raise e)) n c ?_
      rw [run, hf]
      exact ihraised _ _
    | some f =>
      refine next (some f) n c ?_
      rw [run, hf]
      cases f <;> exact ihfailed _ _ _

end Raises

end Store.Prog
