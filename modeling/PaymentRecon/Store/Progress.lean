import PaymentRecon.Store.Interleaving

/-!
# Worlds move on

A step of a client forgets no answer, so the contents of a world and those of a later one are connected by
the requests that succeeded in between, each run alone (`World.serial_between`).
-/

namespace Store

variable {κ Req σ ρ ε α : Type} {plan : Req → Except (Exc ε) (Prog σ ρ ε α)} {s₀ s s' : σ}

namespace Serial

/-- A log leads to the same contents whenever it is run. -/
theorem eq {log : List (Req × α)} (h : Serial plan s₀ log s) (h' : Serial plan s₀ log s') :
    s = s' := by
  induction h generalizing s' with
  | nil =>
    generalize hlog : ([] : List (Req × α)) = log at h'
    cases h' with
    | nil => rfl
    | snoc => exact absurd hlog.symm (List.concat_ne_nil _ _)
  | @snoc log t t' q a body _ _ hq he ih =>
    generalize hlog : log ++ [(q, a)] = log' at h'
    cases h' with
    | nil => exact absurd hlog (List.concat_ne_nil _ _)
    | snoc h' _ hq' he' =>
      obtain ⟨rfl, hlast⟩ := List.append_inj' hlog rfl
      obtain ⟨rfl, rfl⟩ := Prod.mk.inj (List.cons.inj hlast).1
      obtain rfl := ih h'
      rw [hq] at hq'
      obtain rfl := Except.ok.inj hq'
      rw [he] at he'
      exact (Prod.mk.inj he').2

/-- A log can be run in two parts. -/
theorem split {log log' : List (Req × α)} (h : Serial plan s₀ (log ++ log') s') :
    ∃ s, Serial plan s₀ log s ∧ Serial plan s log' s' := by
  generalize happ : log ++ log' = all at h
  induction h generalizing log' with
  | nil =>
    obtain ⟨rfl, rfl⟩ := List.append_eq_nil_iff.1 happ
    exact ⟨s₀, .nil, .nil⟩
  | @snoc all t t' q a body h hw hq he ih =>
    rcases log'.eq_nil_or_concat with rfl | ⟨log', last, rfl⟩
    · rw [List.append_nil] at happ
      exact ⟨t', happ ▸ .snoc h hw hq he, .nil⟩
    · rw [List.concat_eq_append, ← List.append_assoc] at happ
      obtain ⟨rfl, hlast⟩ := List.append_inj' happ rfl
      obtain rfl := (List.cons.inj hlast).1
      obtain ⟨s, hs, hrest⟩ := ih rfl
      exact ⟨s, hs, List.concat_eq_append ▸ .snoc hrest hw hq he⟩

end Serial

namespace World

variable [DecidableEq κ] {w w' : World κ Req σ ρ ε α}

/-- A step forgets no answer. -/
theorem Step.answers {serve : Req → Prog σ ρ ε α} (h : Step serve w w') :
    w.answers <+: w'.answers := by
  have hresume : ∀ (w : World κ Req σ ρ ε α) (c : κ) (q : Req) (p : Prog σ ρ ε α),
      w.answers <+: (w.resume c q p).answers := by
    intro w c q p
    cases p with
    | ret r => exact List.prefix_append _ _
    | op o k => exact List.prefix_refl _
  cases h with
  | send => exact hresume (w.send _) _ _ _
  | perform => exact hresume (w.store _ _) _ _ _

/-- The requests that succeeded stay. -/
theorem successes_prefix {serve : Req → Prog σ ρ ε α}
    (h : Relation.ReflTransGen (Step serve) w w') : w.successes <+: w'.successes := by
  induction h with
  | refl => exact List.prefix_refl _
  | tail _ hstep ih => exact ih.trans (hstep.answers.filterMap _)

/-- What succeeded in between leads from one world to a later one. -/
theorem serial_between (hwork : ∀ q body, plan q = .ok body → body.Work) {requests : κ → List Req}
    (h : Reachable (serving plan) s₀ requests w)
    (hlater : Relation.ReflTransGen (Step (serving plan)) w w') :
    ∃ log, w'.successes = w.successes ++ log ∧ Serial plan w.committed log w'.committed := by
  obtain ⟨log, hlog⟩ := successes_prefix hlater
  have hserial' := serializable hwork (h.trans hlater)
  rw [← hlog] at hserial'
  obtain ⟨s, hs, hrest⟩ := hserial'.split
  obtain rfl := hs.eq (serializable hwork h)
  exact ⟨log, hlog.symm, hrest⟩

end World

end Store
