import PaymentRecon.Seeding
import PaymentRecon.Store.Handles

/-!
# Connections

`connect` opens one connection per call for a file, and hands out one shared connection for `:memory:`.
Who asked for a connection closes it, unless it is the shared one. In every run of a process, whatever the
order of its steps, a connection to a file is open as long as it is held, nobody else holds it, and no open
connection is forgotten (`connections_accounted`).

`_seed_if_empty` closes its connection without the exception for the shared one. So a boot that seeds
`:memory:` leaves the service with a closed connection, and a service answers all of its requests or none
(`boot_serves_iff`).
-/

namespace PaymentRecon

open Store

/-! ## The steps of a process -/

/-- The state of `db.py` in a process, and the connections that its callers hold. A caller is a request, or
a run of `init_db`, of `_seed_if_empty` or of a script. -/
structure Process where
  /-- The connections that were made. -/
  handles : Handles
  /-- `_memory_conn`. -/
  memory_conn : Option ℕ
  /-- The path and the connection that a caller holds. -/
  held : ℕ → Option (String × ℕ)

namespace Process

/-- No caller holds a connection. -/
def start : Process := ⟨.empty, none, fun _ => none⟩

/-- A caller keeps the connection that it was handed, or lets it go. -/
def hold (p : Process) (caller : ℕ) (holding : Option (String × ℕ)) : Process :=
  { p with held := Function.update p.held caller holding }

/-- `close`. -/
def close (p : Process) (conn : ℕ) : Process := { p with handles := p.handles.close conn }

/-- `sqlite3.connect`. -/
def make (p : Process) : Process := { p with handles := p.handles.make }

/-- `connect`, once it has the path. The lock makes the branch of `:memory:` one step. -/
def connect (p : Process) (path : String) : ℕ × Process :=
  if path = ":memory:" then
    match p.memory_conn with
    | some conn => (conn, p)
    | none => (p.handles.made, { p.make with memory_conn := some p.handles.made })
  else (p.handles.made, p.make)

/-- `connect`, when the set-up of the new connection raises. The shared connection is assigned before that;
another one has no reference left, and is closed. -/
def connectRaises (p : Process) (path : String) : Process :=
  if path = ":memory:" then
    match p.memory_conn with
    | some _ => p
    | none => { p.make with memory_conn := some p.handles.made }
  else p.make.close p.handles.made

/-- The end of `init_db` and of `get_db`: close the connection, `if conn is not _memory_conn`. -/
def release (p : Process) (conn : ℕ) : Process :=
  if p.memory_conn = some conn then p else p.close conn

/-- `reset_memory_db`. -/
def resetMemoryDb (p : Process) : Process :=
  match p.memory_conn with
  | some conn => { p.close conn with memory_conn := none }
  | none => p

/-- What can happen in a process. -/
inductive Event
  /-- A caller that holds no connection is handed one. -/
  | connect (caller : ℕ) (path : String)
  /-- `connect` raises. -/
  | connectRaises (path : String)
  /-- `init_db` or a request ends, with or without an exception. -/
  | release (caller : ℕ)
  /-- `_seed_if_empty` or a script ends, and closes its connection. -/
  | close (caller : ℕ)
  /-- `reset_memory_db`. -/
  | reset

/-- One step. A caller that holds a connection does not connect, and one that holds none does not end. -/
def step (p : Process) : Event → Option Process
  | .connect caller path =>
    match p.held caller with
    | some _ => none
    | none => some ((p.connect path).2.hold caller (some (path, (p.connect path).1)))
  | .connectRaises path => some (p.connectRaises path)
  | .release caller => (p.held caller).map fun holding => (p.release holding.2).hold caller none
  | .close caller => (p.held caller).map fun holding => (p.close holding.2).hold caller none
  | .reset => some p.resetMemoryDb

/-- A run of steps, in their order. -/
def run (p : Process) : List Event → Option Process
  | [] => some p
  | event :: events => (p.step event).bind fun p' => p'.run events

/-- What holds before and is kept by every step holds after a run. -/
theorem run_induction {P : Process → Prop} {allowed : Event → Prop}
    (hstep : ∀ {p event p'}, P p → allowed event → p.step event = some p' → P p') {p p' : Process}
    {events : List Event} (hp : P p) (hallowed : ∀ event ∈ events, allowed event)
    (h : p.run events = some p') : P p' := by
  induction events generalizing p with
  | nil => exact Option.some.inj h ▸ hp
  | cons event events ih =>
    obtain ⟨p₁, hfirst, hrest⟩ := Option.bind_eq_some_iff.1 h
    exact ih (hstep hp (hallowed event List.mem_cons_self) hfirst)
      (fun e he => hallowed e (List.mem_cons_of_mem _ he)) hrest

/-! ## Nothing is lost, and nothing is shared but the shared connection -/

/-- The invariant of a process. -/
structure Sound (p : Process) : Prop where
  /-- A connection that is held was made. -/
  held_made : ∀ caller path conn, p.held caller = some (path, conn) → conn < p.handles.made
  /-- So was the shared one. -/
  memory_made : ∀ conn, p.memory_conn = some conn → conn < p.handles.made
  /-- A connection to a file is open while it is held. -/
  file_open : ∀ caller path conn, p.held caller = some (path, conn) → path ≠ ":memory:" →
    p.handles.IsOpen conn
  /-- Nobody else holds it. -/
  file_private : ∀ caller path conn, p.held caller = some (path, conn) → path ≠ ":memory:" →
    ∀ caller' path', p.held caller' = some (path', conn) → caller' = caller
  /-- It is not the shared one. -/
  file_not_shared : ∀ caller path conn, p.held caller = some (path, conn) → path ≠ ":memory:" →
    p.memory_conn ≠ some conn
  /-- Who holds an open connection to `:memory:` holds the shared one. -/
  memory_shared : ∀ caller conn, p.held caller = some (":memory:", conn) → p.handles.IsOpen conn →
    p.memory_conn = some conn
  /-- An open connection is held, or it is the shared one. -/
  accounted : ∀ conn, p.handles.IsOpen conn → p.memory_conn = some conn ∨
    ∃ caller path, p.held caller = some (path, conn)

/-- A process that has just been started is sound. -/
theorem Sound.start : Sound .start where
  held_made := nofun
  memory_made := nofun
  file_open := nofun
  file_private := nofun
  file_not_shared := nofun
  memory_shared := nofun
  accounted conn hopen := absurd hopen.1 (Nat.not_lt_zero conn)

/-- A caller holds what it was given, and the others what they held. -/
@[simp] theorem held_hold (p : Process) (caller caller' : ℕ) (holding : Option (String × ℕ)) :
    (p.hold caller holding).held caller' = if caller' = caller then holding else p.held caller' :=
  Function.update_apply _ _ _ _

/-- Connecting gives nothing to a caller yet. -/
@[simp] theorem held_connect (p : Process) (path : String) : (p.connect path).2.held = p.held := by
  unfold connect
  split_ifs
  · cases p.memory_conn <;> rfl
  · rfl

/-- Nor does a connect that raises. -/
@[simp] theorem held_connectRaises (p : Process) (path : String) :
    (p.connectRaises path).held = p.held := by
  unfold connectRaises
  split_ifs
  · cases p.memory_conn <;> rfl
  · rfl

/-- A release of a connection is not the release by a caller. -/
@[simp] theorem held_release (p : Process) (conn : ℕ) : (p.release conn).held = p.held := by
  unfold release
  split_ifs <;> rfl

/-- A reset takes nothing from a caller. -/
@[simp] theorem held_resetMemoryDb (p : Process) : p.resetMemoryDb.held = p.held := by
  unfold resetMemoryDb
  cases p.memory_conn <;> rfl

section

variable {p : Process} {caller conn : ℕ} {path : String}

/-- A caller is handed a new connection to a file. -/
theorem Sound.hold_file (h : p.Sound) (hfree : p.held caller = none) (hpath : path ≠ ":memory:") :
    (p.make.hold caller (some (path, p.handles.made))).Sound where
  -- The new handle is the next number, so that no caller holds it and it is not the shared one.
  held_made caller' path' conn' hheld := by
    rw [held_hold] at hheld
    split_ifs at hheld with hc
    · cases hheld
      exact Nat.lt_succ_self _
    · exact Nat.lt_succ_of_lt (h.held_made _ _ _ hheld)
  memory_made conn' hm := Nat.lt_succ_of_lt (h.memory_made _ hm)
  file_open caller' path' conn' hheld hpath' := by
    rw [held_hold] at hheld
    refine Handles.isOpen_make.2 ?_
    split_ifs at hheld with hc
    · cases hheld
      exact .inl rfl
    · exact .inr (h.file_open _ _ _ hheld hpath')
  file_private caller' path' conn' hheld hpath' caller'' path'' hheld' := by
    rw [held_hold] at hheld hheld'
    -- Both callers hold the new handle, or one of them does, or none.
    split_ifs at hheld hheld' with hc hc' hc'
    · exact hc'.trans hc.symm
    · cases hheld
      exact absurd (h.held_made _ _ _ hheld') (lt_irrefl _)
    · cases hheld'
      exact absurd (h.held_made _ _ _ hheld) (lt_irrefl _)
    · exact h.file_private _ _ _ hheld hpath' _ _ hheld'
  file_not_shared caller' path' conn' hheld hpath' := by
    rw [held_hold] at hheld
    split_ifs at hheld with hc
    · cases hheld
      exact fun hm => absurd (h.memory_made _ hm) (lt_irrefl _)
    · exact h.file_not_shared _ _ _ hheld hpath'
  memory_shared caller' conn' hheld hopen := by
    rw [held_hold] at hheld
    split_ifs at hheld with hc
    · cases hheld
      exact absurd rfl hpath
    · rcases Handles.isOpen_make.1 hopen with rfl | hopen
      · exact absurd (h.held_made _ _ _ hheld) (lt_irrefl _)
      · exact h.memory_shared _ _ hheld hopen
  accounted conn' hopen := by
    rcases Handles.isOpen_make.1 hopen with rfl | hopen
    · exact .inr ⟨caller, path, by rw [held_hold, if_pos rfl]⟩
    · rcases h.accounted _ hopen with hm | ⟨caller', path', hheld⟩
      · exact .inl hm
      · refine .inr ⟨caller', path', ?_⟩
        rw [held_hold, if_neg]
        -- The caller held nothing before, so another one accounts for the handle.
        · exact hheld
        · rintro rfl
          rw [hfree] at hheld
          cases hheld

/-- The shared connection is made. -/
theorem Sound.share (h : p.Sound) (hnone : p.memory_conn = none) :
    Sound { p.make with memory_conn := some p.handles.made } where
  held_made caller' path' conn' hheld := Nat.lt_succ_of_lt (h.held_made _ _ _ hheld)
  memory_made conn' hm := by
    cases hm
    exact Nat.lt_succ_self _
  file_open caller' path' conn' hheld hpath' :=
    Handles.isOpen_make.2 (.inr (h.file_open _ _ _ hheld hpath'))
  file_private := h.file_private
  file_not_shared caller' path' conn' hheld _ hm := by
    cases hm
    -- What somebody holds was made before.
    exact absurd (h.held_made _ _ _ hheld) (lt_irrefl _)
  memory_shared caller' conn' hheld hopen := by
    rcases Handles.isOpen_make.1 hopen with rfl | hopen
    · rfl
    · -- Before there is a shared connection, nobody holds an open one to `:memory:`.
      have hm := h.memory_shared _ _ hheld hopen
      rw [hnone] at hm
      cases hm
  accounted conn' hopen := by
    rcases Handles.isOpen_make.1 hopen with rfl | hopen
    · exact .inl rfl
    · rcases h.accounted _ hopen with hm | hheld
      · rw [hnone] at hm
        cases hm
      · exact .inr hheld

/-- A caller is handed the shared connection. -/
theorem Sound.hold_shared (h : p.Sound) (hfree : p.held caller = none)
    (hm : p.memory_conn = some conn) : (p.hold caller (some (":memory:", conn))).Sound where
  held_made caller' path' conn' hheld := by
    rw [held_hold] at hheld
    split_ifs at hheld with hc
    · cases hheld
      exact h.memory_made _ hm
    · exact h.held_made _ _ _ hheld
  memory_made := h.memory_made
  file_open caller' path' conn' hheld hpath' := by
    rw [held_hold] at hheld
    split_ifs at hheld with hc
    · cases hheld
      exact absurd rfl hpath'
    · exact h.file_open _ _ _ hheld hpath'
  file_private caller' path' conn' hheld hpath' caller'' path'' hheld' := by
    rw [held_hold] at hheld hheld'
    split_ifs at hheld hheld' with hc hc' hc'
    · exact hc'.trans hc.symm
    · -- The new holder has not asked for a file.
      cases hheld
      exact absurd rfl hpath'
    · -- A connection to a file is not the shared one.
      cases hheld'
      exact absurd hm (h.file_not_shared _ _ _ hheld hpath')
    · exact h.file_private _ _ _ hheld hpath' _ _ hheld'
  file_not_shared caller' path' conn' hheld hpath' := by
    rw [held_hold] at hheld
    split_ifs at hheld with hc
    · cases hheld
      exact absurd rfl hpath'
    · exact h.file_not_shared _ _ _ hheld hpath'
  memory_shared caller' conn' hheld hopen := by
    rw [held_hold] at hheld
    split_ifs at hheld with hc
    · cases hheld
      exact hm
    · exact h.memory_shared _ _ hheld hopen
  accounted conn' hopen := by
    rcases h.accounted _ hopen with hm' | ⟨caller', path', hheld⟩
    · exact .inl hm'
    · -- The caller held nothing, so that it is somebody else's.
      refine .inr ⟨caller', path', ?_⟩
      rw [held_hold, if_neg, hheld]
      rintro rfl
      rw [hfree] at hheld
      cases hheld

/-- Who still holds a connection held it before. -/
theorem held_of_hold_none {caller' : ℕ} {holding : String × ℕ}
    (hheld : (p.hold caller none).held caller' = some holding) :
    caller' ≠ caller ∧ p.held caller' = some holding := by
  rw [held_hold] at hheld
  split_ifs at hheld with hc
  exact ⟨hc, hheld⟩

/-- A caller lets the shared connection go. -/
theorem Sound.let_go (h : p.Sound) (hholds : p.held caller = some (path, conn))
    (hm : p.memory_conn = some conn) : (p.hold caller none).Sound where
  held_made _ _ _ hheld := h.held_made _ _ _ (held_of_hold_none hheld).2
  memory_made := h.memory_made
  file_open _ _ _ hheld := h.file_open _ _ _ (held_of_hold_none hheld).2
  file_private _ _ _ hheld hpath' _ _ hheld' :=
    h.file_private _ _ _ (held_of_hold_none hheld).2 hpath' _ _ (held_of_hold_none hheld').2
  file_not_shared _ _ _ hheld := h.file_not_shared _ _ _ (held_of_hold_none hheld).2
  memory_shared _ _ hheld := h.memory_shared _ _ (held_of_hold_none hheld).2
  accounted conn' hopen := by
    rcases h.accounted _ hopen with hm' | ⟨caller', path', hheld⟩
    · exact .inl hm'
    · by_cases hc : caller' = caller
      · -- What the caller lets go is the shared connection, which stays.
        rw [hc, hholds] at hheld
        cases hheld
        exact .inl hm
      · exact .inr ⟨caller', path', by rw [held_hold, if_neg hc, hheld]⟩

/-- A caller closes its connection. -/
theorem Sound.close (h : p.Sound) (hholds : p.held caller = some (path, conn)) :
    ((p.close conn).hold caller none).Sound where
  held_made _ _ _ hheld :=
    Handles.made_close.symm ▸ h.held_made _ _ _ (held_of_hold_none hheld).2
  memory_made _ hm := Handles.made_close.symm ▸ h.memory_made _ hm
  file_open caller' path' conn' hheld hpath' := by
    obtain ⟨hc, hheld⟩ := held_of_hold_none hheld
    refine Handles.isOpen_close.2 ⟨?_, h.file_open _ _ _ hheld hpath'⟩
    -- Nobody else holds the connection to a file that is closed.
    rintro rfl
    exact hc (h.file_private _ _ _ hheld hpath' _ _ hholds).symm
  file_private _ _ _ hheld hpath' _ _ hheld' :=
    h.file_private _ _ _ (held_of_hold_none hheld).2 hpath' _ _ (held_of_hold_none hheld').2
  file_not_shared _ _ _ hheld := h.file_not_shared _ _ _ (held_of_hold_none hheld).2
  memory_shared _ _ hheld hopen :=
    h.memory_shared _ _ (held_of_hold_none hheld).2 (Handles.isOpen_close.1 hopen).2
  accounted conn' hopen := by
    obtain ⟨hne, hopen⟩ := Handles.isOpen_close.1 hopen
    rcases h.accounted _ hopen with hm' | ⟨caller', path', hheld⟩
    · exact .inl hm'
    · refine .inr ⟨caller', path', ?_⟩
      rw [held_hold, if_neg]
      · exact hheld
      · rintro rfl
        rw [hholds] at hheld
        cases hheld
        exact hne rfl

/-- A new connection is closed before anybody holds it. -/
theorem Sound.discard (h : p.Sound) : (p.make.close p.handles.made).Sound where
  held_made _ _ _ hheld :=
    Handles.made_close.symm ▸ Nat.lt_succ_of_lt (h.held_made _ _ _ hheld)
  memory_made _ hm := Handles.made_close.symm ▸ Nat.lt_succ_of_lt (h.memory_made _ hm)
  file_open _ _ _ hheld hpath' := by
    refine Handles.isOpen_close.2 ⟨?_, Handles.isOpen_make.2 (.inr (h.file_open _ _ _ hheld hpath'))⟩
    rintro rfl
    exact absurd (h.held_made _ _ _ hheld) (lt_irrefl _)
  file_private := h.file_private
  file_not_shared := h.file_not_shared
  memory_shared _ conn' hheld hopen := by
    obtain ⟨hne, hopen⟩ := Handles.isOpen_close.1 hopen
    exact h.memory_shared _ _ hheld ((Handles.isOpen_make.1 hopen).resolve_left hne)
  accounted conn' hopen := by
    obtain ⟨hne, hopen⟩ := Handles.isOpen_close.1 hopen
    exact h.accounted _ ((Handles.isOpen_make.1 hopen).resolve_left hne)

/-- The shared connection is closed, and forgotten. -/
theorem Sound.reset (h : p.Sound) (hm : p.memory_conn = some conn) :
    Sound { p.close conn with memory_conn := none } where
  held_made _ _ _ hheld := Handles.made_close.symm ▸ h.held_made _ _ _ hheld
  memory_made := nofun
  file_open _ _ conn' hheld hpath' := by
    refine Handles.isOpen_close.2 ⟨?_, h.file_open _ _ _ hheld hpath'⟩
    rintro rfl
    exact h.file_not_shared _ _ _ hheld hpath' hm
  file_private := h.file_private
  file_not_shared := nofun
  memory_shared _ conn' hheld hopen := by
    -- A caller may go on holding the closed handle, but it is not open any more.
    obtain ⟨hne, hopen⟩ := Handles.isOpen_close.1 hopen
    have hm' := h.memory_shared _ _ hheld hopen
    rw [hm] at hm'
    cases hm'
    exact absurd rfl hne
  accounted conn' hopen := by
    obtain ⟨hne, hopen⟩ := Handles.isOpen_close.1 hopen
    -- What is open and was shared would be the handle that was closed.
    rcases h.accounted _ hopen with hm' | hheld
    · rw [hm] at hm'
      cases hm'
      exact absurd rfl hne
    · exact .inr hheld

end

/-- Every step keeps the invariant. -/
theorem Sound.step {p p' : Process} (h : p.Sound) {event : Event} (hstep : p.step event = some p') :
    p'.Sound := by
  cases event with
  | connect caller path =>
    cases hfree : p.held caller with
    | some holding =>
      simp only [Process.step, hfree] at hstep
      cases hstep
    | none =>
      simp only [Process.step, hfree] at hstep
      cases hstep
      -- In memory there is one connection for all, made at the first call; a file has one for each call.
      by_cases hpath : path = ":memory:"
      · subst hpath
        cases hm : p.memory_conn with
        | some conn =>
          simp only [connect, if_true, hm]
          exact h.hold_shared hfree hm
        | none =>
          simp only [connect, if_true, hm]
          exact (h.share hm).hold_shared hfree rfl
      · simp only [connect, if_neg hpath]
        exact h.hold_file hfree hpath
  | connectRaises path =>
    obtain rfl := Option.some.inj hstep
    -- What raises after the connection was made leaves the shared one, and discards one to a file.
    by_cases hpath : path = ":memory:"
    · subst hpath
      cases hm : p.memory_conn with
      | some conn =>
        simp only [connectRaises, if_true, hm]
        exact h
      | none =>
        simp only [connectRaises, if_true, hm]
        exact h.share hm
    · simp only [connectRaises, if_neg hpath]
      exact h.discard
  | release caller =>
    obtain ⟨⟨path, conn⟩, hholds, rfl⟩ := Option.map_eq_some_iff.1 hstep
    -- `get_db` closes what it opened, unless it is the shared connection.
    by_cases hm : p.memory_conn = some conn
    · rw [release, if_pos hm]
      exact h.let_go hholds hm
    · rw [release, if_neg hm]
      exact h.close hholds
  | close caller =>
    obtain ⟨⟨path, conn⟩, hholds, rfl⟩ := Option.map_eq_some_iff.1 hstep
    exact h.close hholds
  | reset =>
    obtain rfl := Option.some.inj hstep
    cases hm : p.memory_conn with
    | some conn =>
      simp only [resetMemoryDb, hm]
      exact h.reset hm
    | none =>
      simp only [resetMemoryDb, hm]
      exact h

/-- Every run from the start keeps it. -/
theorem sound_of_run {events : List Event} {p : Process} (h : start.run events = some p) : p.Sound :=
  run_induction (P := Sound) (fun hp _ hstep => hp.step hstep) Sound.start (fun _ _ => trivial) h

/-- A run goes on where its first part ends. -/
theorem run_append (p : Process) (events events' : List Event) :
    p.run (events ++ events') = (p.run events).bind fun p' => p'.run events' := by
  induction events generalizing p with
  | nil => rfl
  | cons event events ih =>
    rw [List.cons_append, run, run, Option.bind_assoc]
    exact congrArg _ (funext fun p' => ih p')

end Process

open Process

/-- In every run of a process, whatever the order of its steps: a connection to a file is open as long as
it is held, and nobody else holds it; those who hold an open connection to `:memory:` hold the same one; and
an open connection is held, or it is the shared one, so that the process with nobody left has no other. -/
theorem connections_accounted {events : List Event} {p : Process}
    (h : Process.start.run events = some p) :
    (∀ caller path conn, p.held caller = some (path, conn) → path ≠ ":memory:" →
      p.handles.IsOpen conn ∧ ∀ caller' path', p.held caller' = some (path', conn) → caller' = caller) ∧
    (∀ caller caller' conn conn', p.held caller = some (":memory:", conn) →
      p.held caller' = some (":memory:", conn') → p.handles.IsOpen conn → p.handles.IsOpen conn' →
        conn = conn') ∧
    ∀ conn, p.handles.IsOpen conn → p.memory_conn = some conn ∨
      ∃ caller path, p.held caller = some (path, conn) := by
  have hsound := sound_of_run h
  refine ⟨fun caller path conn hheld hpath => ⟨hsound.file_open _ _ _ hheld hpath,
    hsound.file_private _ _ _ hheld hpath⟩, ?_, hsound.accounted⟩
  intro caller caller' conn conn' hheld hheld' hopen hopen'
  have hm := hsound.memory_shared _ _ hheld hopen
  have hm' := hsound.memory_shared _ _ hheld' hopen'
  exact Option.some.inj (hm.symm.trans hm')

/-- Two requests to a file, and one to `:memory:` over which the shared connection is reset. -/
theorem connections_accounted_interleaved : ∃ p,
    Process.start.run [.connect 0 "payments.db", .connect 1 "payments.db", .connect 2 ":memory:",
      .release 0, .reset, .connectRaises "payments.db"] = some p ∧ p.handles.IsOpen 1 := by
  have h : Process.start.run [.connect 0 "payments.db", .connect 1 "payments.db", .connect 2 ":memory:",
      .release 0, .reset, .connectRaises "payments.db"] = some _ := rfl
  exact ⟨_, h, ((connections_accounted h).1 1 "payments.db" 1 rfl (by decide)).1⟩

/-! ## Boots -/

/-- The steps of a boot: `init_db`, and `_seed_if_empty` when there is something to seed from. -/
def Boot.events (boot : Boot) (path : String) : List Event :=
  [.connect 0 path, .release 0] ++
    if boot.seed_on_startup ∧ boot.seed_file_exists then [.connect 0 path, .close 0] else []

/-- The steps of the requests: they are handed connections by `get_db`, and end. -/
inductive Process.Event.OfRequest (path : String) : Event → Prop
  /-- A request is handed a connection. -/
  | connect (caller : ℕ) : OfRequest path (.connect caller path)
  /-- It is not, since `connect` raises. -/
  | connectRaises : OfRequest path (.connectRaises path)
  /-- A request ends. -/
  | release (caller : ℕ) : OfRequest path (.release caller)

/-- All callers hold the shared connection, and it stays as it is. -/
structure Process.Serves (conn : ℕ) (usable : Prop) (p : Process) : Prop where
  /-- The shared connection. -/
  memory_conn : p.memory_conn = some conn
  /-- Whether it is open. -/
  isOpen : p.handles.IsOpen conn ↔ usable
  /-- Nobody holds another one. -/
  held : ∀ caller path conn', p.held caller = some (path, conn') → conn' = conn

/-- An event of a request leaves the shared connection as usable as it was. -/
theorem Process.Serves.step {p p' : Process} {conn : ℕ} {usable : Prop} {event : Event}
    (h : p.Serves conn usable) (hrequest : event.OfRequest ":memory:")
    (hstep : p.step event = some p') : p'.Serves conn usable := by
  cases hrequest with
  | connect caller =>
    cases hfree : p.held caller with
    | some holding =>
      simp only [Process.step, hfree] at hstep
      cases hstep
    | none =>
      simp only [Process.step, hfree, Process.connect, if_true, h.memory_conn] at hstep
      cases hstep
      -- The caller is handed the shared connection.
      refine ⟨h.memory_conn, h.isOpen, fun caller' path conn' hheld => ?_⟩
      rw [held_hold] at hheld
      split_ifs at hheld
      · cases hheld
        rfl
      · exact h.held _ _ _ hheld
  | connectRaises =>
    simp only [Process.step, Process.connectRaises, if_true, h.memory_conn] at hstep
    cases hstep
    exact h
  | release caller =>
    obtain ⟨⟨path, conn'⟩, hholds, rfl⟩ := Option.map_eq_some_iff.1 hstep
    obtain rfl := h.held _ _ _ hholds
    rw [Process.release, if_pos h.memory_conn]
    -- A release does not close the shared connection.
    exact ⟨h.memory_conn, h.isOpen, fun _ _ _ hheld => h.held _ _ _ (held_of_hold_none hheld).2⟩

/-- A caller that connects and ends leaves nobody with a connection, if there was nobody. -/
theorem held_turn {p p' : Process} (hfree : ∀ c, p.held c = none) {caller : ℕ} {path : String}
    {event : Event} (hevent : event = .release caller ∨ event = .close caller)
    (h : p.run [.connect caller path, event] = some p') (c : ℕ) : p'.held c = none := by
  obtain ⟨p₁, hconnect, hrest⟩ := Option.bind_eq_some_iff.1 h
  obtain ⟨p₂, hlast, hend⟩ := Option.bind_eq_some_iff.1 hrest
  obtain rfl : p₂ = p' := Option.some.inj hend
  simp only [Process.step, hfree] at hconnect
  obtain rfl := Option.some.inj hconnect
  have hbefore : ∀ c', c' ≠ caller → (((p.connect path).2.hold caller
      (some (path, (p.connect path).1))).held c' = none) := by
    intro c' hc'
    rw [held_hold, if_neg hc', held_connect, hfree]
  rcases hevent with rfl | rfl
  all_goals
    obtain ⟨holding, -, rfl⟩ := Option.map_eq_some_iff.1 hlast
    rw [held_hold]
    split_ifs with hc
    · rfl
    · first
      | rw [held_release]; exact hbefore c hc
      | exact hbefore c hc

/-- A boot leaves nobody with a connection. -/
theorem held_booted (boot : Boot) {path : String} {booted : Process}
    (h : Process.start.run (boot.events path) = some booted) (caller : ℕ) :
    booted.held caller = none := by
  rw [Boot.events, run_append] at h
  obtain ⟨p, hinit, hseed⟩ := Option.bind_eq_some_iff.1 h
  have hfirst := held_turn (fun _ => rfl) (.inl rfl) hinit
  split_ifs at hseed
  · exact held_turn hfirst (.inr rfl) hseed caller
  · exact Option.some.inj hseed ▸ hfirst caller

/-- After a boot over `:memory:` the shared connection is open, unless the boot has seeded. -/
theorem serves_booted (boot : Boot) {booted : Process}
    (h : Process.start.run (boot.events ":memory:") = some booted) :
    booted.Serves 0 (¬ (boot.seed_on_startup = true ∧ boot.seed_file_exists = true)) := by
  have hnobody := held_booted boot h
  unfold Boot.events at h
  split_ifs at h with hseed
  · -- `_seed_if_empty` has closed the connection that it was handed, the shared one.
    obtain rfl := Option.some.inj h
    refine ⟨rfl, iff_of_false (by decide) (not_not.2 hseed), fun caller path conn hheld => ?_⟩
    rw [hnobody caller] at hheld
    cases hheld
  · -- `init_db` leaves the shared connection open.
    obtain rfl := Option.some.inj h
    refine ⟨rfl, iff_of_true (by decide) hseed, fun caller path conn hheld => ?_⟩
    rw [hnobody caller] at hheld
    cases hheld

/-- Callers that ask for one path hold connections of that path. -/
theorem path_of_held {path : String} {p : Process} {events : List Event}
    (hpaths : ∀ event ∈ events, ∀ caller path', event = .connect caller path' → path' = path)
    (h : Process.start.run events = some p) {caller conn : ℕ} {path' : String}
    (hheld : p.held caller = some (path', conn)) : path' = path := by
  refine run_induction (P := fun p => ∀ caller path' conn, p.held caller = some (path', conn) →
    path' = path) (fun {p event p'} hp hallowed hstep => ?_)
    (fun _ _ _ hnone => absurd hnone.symm (Option.some_ne_none _)) hpaths h _ _ _ hheld
  cases event with
  | connect caller path₁ =>
    cases hfree : p.held caller with
    | some holding =>
      simp only [Process.step, hfree] at hstep
      cases hstep
    | none =>
      simp only [Process.step, hfree] at hstep
      cases hstep
      intro caller' path' conn hheld
      rw [held_hold, held_connect] at hheld
      -- Only the caller of this event holds something new, under the path that it asked for.
      split_ifs at hheld
      · cases hheld
        exact hallowed _ _ rfl
      · exact hp _ _ _ hheld
  | connectRaises path₁ =>
    obtain rfl := Option.some.inj hstep
    rw [held_connectRaises]
    exact hp
  | release caller =>
    obtain ⟨holding, -, rfl⟩ := Option.map_eq_some_iff.1 hstep
    intro caller' path' conn hheld
    have hbefore := (held_of_hold_none hheld).2
    rw [held_release] at hbefore
    exact hp _ _ _ hbefore
  | close caller =>
    obtain ⟨holding, -, rfl⟩ := Option.map_eq_some_iff.1 hstep
    exact fun _ _ _ hheld => hp _ _ _ (held_of_hold_none hheld).2
  | reset =>
    obtain rfl := Option.some.inj hstep
    rw [held_resetMemoryDb]
    exact hp

/-- After a boot, all requests are handed an open connection, in whatever order they come and go, unless
the boot went through `_seed_if_empty` over `:memory:`: then all are handed a closed one. -/
theorem boot_serves_iff (boot : Boot) (path : String) {events : List Event}
    (hrequests : ∀ event ∈ events, event.OfRequest path) {p : Process}
    (h : Process.start.run (boot.events path ++ events) = some p) {caller conn : ℕ} {path' : String}
    (hheld : p.held caller = some (path', conn)) :
    p.handles.IsOpen conn ↔
      ¬ (path = ":memory:" ∧ boot.seed_on_startup = true ∧ boot.seed_file_exists = true) := by
  rw [run_append] at h
  obtain ⟨booted, hboot, hrun⟩ := Option.bind_eq_some_iff.1 h
  by_cases hpath : path = ":memory:"
  · -- The requests leave the shared connection as the boot has left it.
    subst hpath
    have hend := run_induction (P := Process.Serves 0 _) (fun hp hallowed hstep => hp.step hallowed hstep)
      (serves_booted boot hboot) hrequests hrun
    rw [hend.held _ _ _ hheld, hend.isOpen, not_iff_not]
    exact ⟨fun hseed => ⟨rfl, hseed⟩, fun hmemory => hmemory.2⟩
  · have hpaths : ∀ event ∈ boot.events path ++ events, ∀ caller path', event = .connect caller path' →
        path' = path := by
      intro event hevent caller path' heq
      subst heq
      rcases List.mem_append.1 hevent with hboot | hrequest
      · unfold Boot.events at hboot
        split_ifs at hboot <;> simp at hboot <;> exact hboot.2
      · cases hrequests _ hrequest
        rfl
    have hrun' : Process.start.run (boot.events path ++ events) = some p := by
      rw [run_append, hboot]
      exact hrun
    -- Over a file everybody holds a connection of its own.
    have hfile : path' ≠ ":memory:" := path_of_held hpaths hrun' hheld ▸ hpath
    exact iff_of_true ((sound_of_run hrun').file_open _ _ _ hheld hfile) fun hmemory => hpath hmemory.1

/-- The first request to a service that has seeded `:memory:` is handed a closed connection; the next one
too. -/
theorem boot_serves_iff_memory : ∃ p,
    Process.start.run (Boot.events {} ":memory:" ++ [.connect 0 ":memory:", .connect 1 ":memory:",
      .release 0]) = some p ∧ p.held 1 = some (":memory:", 0) ∧ ¬ p.handles.IsOpen 0 := by
  have hrequests : ∀ event ∈ [Event.connect 0 ":memory:", .connect 1 ":memory:", .release 0],
      event.OfRequest ":memory:" := by
    intro event hevent
    simp only [List.mem_cons, List.not_mem_nil, or_false] at hevent
    rcases hevent with rfl | rfl | rfl
    · exact .connect 0
    · exact .connect 1
    · exact .release 0
  have hrun : Process.start.run (Boot.events {} ":memory:" ++ [.connect 0 ":memory:",
      .connect 1 ":memory:", .release 0]) = some _ := rfl
  have h := @boot_serves_iff {} ":memory:" _ hrequests _ hrun 1 0 ":memory:" rfl
  exact ⟨_, hrun, rfl, fun hopen => h.1 hopen ⟨rfl, rfl, rfl⟩⟩

end PaymentRecon
