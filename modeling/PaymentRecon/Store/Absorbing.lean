import PaymentRecon.Store.Table

/-!
# Absorbing what is known

A store takes inputs in, one after another and each at a time of its own, and absorbs an input that it
knows: up to an equivalence of contents, which forgets the times, such an input changes nothing. Then an
attempt to take in a list that breaks off is harmless: whatever prefixes of the list have been taken in
before, the whole list leads to where it leads alone (`Absorbing.runAll_attempts`), and whatever prefixes
are taken in after it change nothing (`Absorbing.attempts_known`).
-/

namespace Store

variable {τ σ α : Type}

/-- Inputs taken in one after another, each at its time. -/
def runAll (step : τ → σ → α → σ) (s : σ) (inputs : List (τ × α)) : σ :=
  inputs.foldl (fun s p => step p.1 s p.2) s

/-- Inputs are taken in one list after the other. -/
theorem runAll_append (step : τ → σ → α → σ) (s : σ) (inputs inputs' : List (τ × α)) :
    runAll step s (inputs ++ inputs') = runAll step (runAll step s inputs) inputs' :=
  List.foldl_append

/-- A store that absorbs what it knows, up to an equivalence of contents. -/
structure Absorbing (step : τ → σ → α → σ) (same : σ → σ → Prop) (known : σ → α → Prop) : Prop where
  /-- Contents are the same or not. -/
  equivalence : Equivalence same
  /-- An input does the same to the same contents, at any times. -/
  step_same : ∀ {t t' s s'} x, same s s' → same (step t s x) (step t' s' x)
  /-- What is known is absorbed. -/
  absorb : ∀ {s x} t, known s x → same (step t s x) s
  /-- What is taken in is known. -/
  learns : ∀ t s x, known (step t s x) x
  /-- What is known stays known. -/
  keeps : ∀ {s x} t y, known s x → known (step t s y) x

namespace Absorbing

variable {step : τ → σ → α → σ} {same : σ → σ → Prop} {known : σ → α → Prop}
  (h : Absorbing step same known) {s s' : σ} {inputs inputs' : List (τ × α)}

include h

/-- The same inputs do the same to the same contents, at any times. -/
theorem runAll_same (hs : same s s') (hinputs : inputs.map Prod.snd = inputs'.map Prod.snd) :
    same (runAll step s inputs) (runAll step s' inputs') := by
  induction inputs generalizing s s' inputs' with
  | nil =>
    obtain rfl := List.map_eq_nil_iff.1 hinputs.symm
    exact hs
  | cons p inputs ih =>
    obtain ⟨p', inputs', rfl, hp, hrest⟩ := List.map_eq_cons_iff.1 hinputs.symm
    rw [runAll, runAll, List.foldl_cons, List.foldl_cons, hp]
    exact ih (h.step_same p.2 hs) hrest.symm

/-- What is known stays known. -/
theorem keeps_runAll {x : α} (hx : known s x) (inputs : List (τ × α)) :
    known (runAll step s inputs) x := by
  induction inputs generalizing s with
  | nil => exact hx
  | cons p inputs ih => exact ih (h.keeps p.1 p.2 hx)

/-- What is known stays known through attempts. -/
theorem keeps_attempts {x : α} (hx : known s x) (attempts : List (List (τ × α))) :
    known (attempts.foldl (runAll step) s) x := by
  induction attempts generalizing s with
  | nil => exact hx
  | cons attempt attempts ih => exact ih (h.keeps_runAll hx attempt)

/-- What has been taken in is known. -/
theorem learns_runAll (s : σ) : ∀ x ∈ inputs.map Prod.snd, known (runAll step s inputs) x := by
  induction inputs generalizing s with
  | nil =>
    intro x hx
    cases hx
  | cons p inputs ih =>
    intro x hx
    rcases List.mem_cons.1 hx with rfl | hx
    · exact h.keeps_runAll (h.learns p.1 s p.2) inputs
    · exact ih (step p.1 s p.2) x hx

/-- Inputs that are all known are absorbed. -/
theorem runAll_known (hall : ∀ x ∈ inputs.map Prod.snd, known s x) :
    same (runAll step s inputs) s := by
  induction inputs generalizing s with
  | nil => exact h.equivalence.refl s
  | cons p inputs ih =>
    have hp := h.absorb p.1 (hall p.2 List.mem_cons_self)
    refine h.equivalence.trans (ih fun x hx => ?_) hp
    exact h.keeps p.1 p.2 (hall x (List.mem_cons_of_mem _ hx))

/-- Attempts whose inputs are all known are absorbed. -/
theorem attempts_known {attempts : List (List (τ × α))}
    (hall : ∀ attempt ∈ attempts, ∀ x ∈ attempt.map Prod.snd, known s x) :
    same (attempts.foldl (runAll step) s) s := by
  induction attempts generalizing s with
  | nil => exact h.equivalence.refl s
  | cons attempt attempts ih =>
    refine h.equivalence.trans (ih fun a ha x hx => ?_)
      (h.runAll_known (hall attempt List.mem_cons_self))
    exact h.keeps_runAll (hall a (List.mem_cons_of_mem _ ha) x hx) attempt

/-- A list can be taken in again. -/
theorem runAll_again (s : σ) (hinputs : inputs.map Prod.snd = inputs'.map Prod.snd) :
    same (runAll step (runAll step s inputs) inputs') (runAll step s inputs) :=
  h.runAll_known (hinputs ▸ h.learns_runAll s)

/-- A list can be taken in after a part of it. -/
theorem runAll_prefix (s : σ) (hinit : inputs.map Prod.snd <+: inputs'.map Prod.snd) :
    same (runAll step (runAll step s inputs) inputs') (runAll step s inputs') := by
  obtain ⟨rest, hrest⟩ := hinit
  obtain ⟨first, second, rfl, hfirst, -⟩ := List.map_eq_append_iff.1 hrest.symm
  rw [runAll_append, runAll_append]
  refine h.runAll_same ?_ rfl
  exact h.equivalence.trans (h.runAll_again s hfirst.symm)
    (h.runAll_same (h.equivalence.refl s) hfirst.symm)

/-- A list can be taken in after any number of attempts that broke off. -/
theorem runAll_attempts (s : σ) {attempts : List (List (τ × α))}
    (hattempts : ∀ attempt ∈ attempts, attempt.map Prod.snd <+: inputs'.map Prod.snd) :
    same (runAll step (attempts.foldl (runAll step) s) inputs') (runAll step s inputs') := by
  induction attempts generalizing s with
  | nil => exact h.equivalence.refl _
  | cons attempt attempts ih =>
    exact h.equivalence.trans
      (ih (runAll step s attempt) fun a ha => hattempts a (List.mem_cons_of_mem _ ha))
      (h.runAll_prefix s (hattempts attempt List.mem_cons_self))

end Absorbing

/-! ## Upserts -/

namespace Table

variable {κ ρ γ : Type} {key : ρ → κ} [DecidableEq κ] {t : Table κ ρ key} {f : ρ → γ} {r r' : ρ}
  {merge merge' : ρ → ρ}

/-- Upserts that differ in columns that `f` forgets leave tables alike. -/
theorem alike_upsert_congr {hm : ∀ x, key (merge x) = key x} {hm' : ∀ x, key (merge' x) = key x}
    (hkey : key r = key r') (hr : f r = f r') (hmerge : ∀ x, f (merge x) = f (merge' x)) :
    (t.upsert r merge hm).rows.map f = (t.upsert r' merge' hm').rows.map f := by
  cases ht : t.find? (key r) with
  | none =>
    rw [upsert_of_none merge hm ht, upsert_of_none merge' hm' (hkey ▸ ht)]
    simp only [rows_push, List.map_append, List.map_cons, List.map_nil, hr]
  | some old =>
    rw [upsert_of_some merge hm ht, upsert_of_some merge' hm' (hkey ▸ ht), rows_update, rows_update,
      List.map_map, List.map_map, hkey]
    refine List.map_congr_left fun x _ => ?_
    simp only [Function.comp]
    split_ifs
    · exact hmerge x
    · rfl

end Table

end Store
