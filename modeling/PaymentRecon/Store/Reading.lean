import Mathlib.Data.List.Chain
import Mathlib.Logic.Relation

/-!
# Reading outside a transaction

A program that reads a store by statements. Outside a transaction a statement sees what is committed
when it starts, so that other sessions may commit between two statements of one program. `eval` runs
a program on a store that stays as it is. `Reads` runs it among commits and records what each of its
statements has seen: the later a statement, the later the commit that it sees (`Reads.isChain`), and a
program whose statements have all seen the same contents answers as it does on a store that stays as it
is (`Reads.eq_eval`).
-/

namespace Store

variable {σ ε α β : Type}

/-- A computation goes on with what its first part returns. -/
theorem ok_bind (a : α) (f : α → Except ε β) : (Except.ok a >>= f) = f a := rfl

/-- A computation raises what its first part raises. -/
theorem error_bind (e : ε) (f : α → Except ε β) : (Except.error e >>= f) = .error e := rfl

/-- A computation that returns has gone through its first part. -/
theorem exists_of_bind_eq_ok {x : Except ε α} {f : α → Except ε β} {b : β}
    (h : x.bind f = .ok b) : ∃ a, x = .ok a ∧ f a = .ok b := by
  cases x with
  | error e => cases h
  | ok a => exact ⟨a, rfl, h⟩

/-- A computation that returns a function's value has returned the argument. -/
theorem exists_of_map_eq_ok {x : Except ε α} {f : α → β} {b : β} (h : x.map f = .ok b) :
    ∃ a, x = .ok a ∧ f a = b := by
  cases x with
  | error e => cases h
  | ok a => exact ⟨a, rfl, Except.ok.inj h⟩

/-- A program that reads: it ends with a value or an exception, or runs a statement and goes on. -/
inductive Reading (σ ε α : Type) : Type 1
  /-- Return or raise. -/
  | ret (r : Except ε α)
  /-- Run a statement. -/
  | stmt {β : Type} (q : σ → β) (k : β → Reading σ ε α)

namespace Reading

/-- One program after another. -/
def bind : Reading σ ε α → (α → Reading σ ε β) → Reading σ ε β
  | .ret (.ok a), f => f a
  | .ret (.error e), _ => .ret (.error e)
  | .stmt q k, f => .stmt q fun b => (k b).bind f

instance : Monad (Reading σ ε) where
  pure a := .ret (.ok a)
  bind := bind

/-- The result of a statement. -/
def query (q : σ → α) : Reading σ ε α := .stmt q fun a => .ret (.ok a)

/-- Code that does not read. -/
def calling (r : Except ε α) : Reading σ ε α := .ret r

/-- A program on a store that stays as it is. -/
def eval : Reading σ ε α → σ → Except ε α
  | .ret r, _ => r
  | .stmt q k, s => (k (q s)).eval s

/-- One program after another, on a store that stays as it is. -/
theorem eval_bind (p : Reading σ ε α) (f : α → Reading σ ε β) (s : σ) :
    (p >>= f).eval s = (p.eval s).bind fun a => (f a).eval s := by
  show (p.bind f).eval s = _
  induction p with
  | ret r => cases r <;> rfl
  | stmt q k ih => exact ih (q s)

/-- Code that does not read, before a program. -/
theorem eval_calling_bind (r : Except ε α) (f : α → Reading σ ε β) (s : σ) :
    (calling r >>= f).eval s = r.bind fun a => (f a).eval s := by
  cases r <;> rfl

/-- A call that returns reads nothing. -/
theorem calling_ok_bind (a : α) (f : α → Reading σ ε β) :
    (calling (.ok a) >>= f) = f a := rfl

/-! ## Among commits -/

/-- A run among commits, from the contents `s`: what its statements have seen, in order, and how it
ends. -/
inductive Reads (commits : σ → σ → Prop) : Reading σ ε α → σ → List σ → Except ε α → Prop
  /-- The program ends. -/
  | ret {r : Except ε α} {s : σ} : Reads commits (.ret r) s [] r
  /-- Another session commits. -/
  | commit {p : Reading σ ε α} {s s' : σ} {seen : List σ} {r : Except ε α} (hc : commits s s')
    (h : Reads commits p s' seen r) : Reads commits p s seen r
  /-- A statement runs on what is committed. -/
  | stmt {β : Type} {q : σ → β} {k : β → Reading σ ε α} {s : σ} {seen : List σ} {r : Except ε α}
    (h : Reads commits (k (q s)) s seen r) : Reads commits (.stmt q k) s (s :: seen) r

namespace Reads

variable {commits : σ → σ → Prop} {p : Reading σ ε α} {s : σ} {seen : List σ} {r : Except ε α}

/-- The later a statement, the later what it sees. -/
theorem isChain (h : Reads commits p s seen r) :
    (s :: seen).IsChain (Relation.ReflTransGen commits) := by
  induction h with
  | ret => exact .singleton _
  | @commit p s s' seen r hc _ ih =>
    cases ih with
    | singleton => exact .singleton _
    | cons_cons hs hrest => exact .cons_cons (.head hc hs) hrest
  | stmt _ ih => exact .cons_cons .refl ih

/-- What a statement sees comes after the contents at the start. -/
theorem later_of_mem (h : Reads commits p s seen r) :
    ∀ s' ∈ seen, Relation.ReflTransGen commits s s' := by
  induction h with
  | ret => nofun
  | commit hc _ ih => exact fun s' hs' => .head hc (ih s' hs')
  | stmt _ ih =>
    intro s' hs'
    rcases List.mem_cons.1 hs' with rfl | hs'
    · exact .refl
    · exact ih s' hs'

/-- When all statements have seen the same contents, the program answers as on a store that stays as
it is. -/
theorem eq_eval (h : Reads commits p s seen r) {t : σ} (hseen : ∀ s' ∈ seen, s' = t) :
    r = p.eval t := by
  induction h with
  | ret => rfl
  | commit _ _ ih => exact ih hseen
  | @stmt β q k s seen r _ ih =>
    obtain rfl : s = t := hseen s List.mem_cons_self
    exact ih fun s' hs' => hseen s' (List.mem_cons_of_mem _ hs')

/-- The first statement of a program, and what comes after it. -/
theorem stmt_inv {β : Type} {q : σ → β} {k : β → Reading σ ε α}
    (h : Reads commits (.stmt q k) s seen r) :
    ∃ s' seen', seen = s' :: seen' ∧ Relation.ReflTransGen commits s s' ∧
      Reads commits (k (q s')) s' seen' r := by
  generalize hp : Reading.stmt q k = p at h
  induction h with
  | ret => cases hp
  | commit hc _ ih =>
    obtain ⟨s', seen', hseen, hlater, hrest⟩ := ih hp
    exact ⟨s', seen', hseen, .head hc hlater, hrest⟩
  | @stmt _ _ _ s seen r h _ =>
    cases hp
    exact ⟨s, seen, rfl, .refl, h⟩

/-- The end of a program. -/
theorem ret_inv {r' : Except ε α} (h : Reads commits (.ret r') s seen r) : seen = [] ∧ r = r' := by
  generalize hp : Reading.ret r' = p at h
  induction h with
  | ret =>
    cases hp
    exact ⟨rfl, rfl⟩
  | commit _ _ ih => exact ih hp
  | stmt _ _ => cases hp

/-- Other sessions commit. -/
theorem of_later {s' : σ} (hc : Relation.ReflTransGen commits s s')
    (h : Reads commits p s' seen r) : Reads commits p s seen r := by
  induction hc using Relation.ReflTransGen.head_induction_on with
  | refl => exact h
  | head hstep _ ih => exact .commit hstep ih

end Reads

end Reading

end Store
