import PaymentRecon.Ledger
import PaymentRecon.Store.SharedConnection

/-!
# The in-memory database

With `DATABASE_PATH=":memory:"`, `connect` of `app/db.py` gives every request the same connection. The requests
still are transactions one after another (`memory_mode_linearizable`), because `ingest_events` opens its
transaction before the `try`: a request that meets the transaction of another one is answered with an error at
once. When the engine may end a transaction by itself this is no longer so (`memory_mode_torn`).
-/

namespace PaymentRecon

open Store

/-- On the one connection of an in-memory database the service is the ledger. In every world that any number of
clients reach, by any order of their operations and under any failures that leave a transaction open, the
responses that were given are those of a ledger that served the successful requests one after another, and the
database is what it keeps. A client that meets the transaction of another one is refused at its first
operation, and leaves everything. -/
theorem memory_mode_linearizable {κ : Type} [DecidableEq κ] {settings : Settings}
    {requests : κ → List Request} {w : World κ Request Database EventRow AppError Response}
    (h : World.SharedReachable Fault.StaysOpen (postEvents settings) .empty requests w) :
    Linearized w.successes w.committed ∧
      ∀ c q p, (w.sessions c).serving = some (q, p) → w.lock ≠ none → ¬ w.Holds c →
        w.turn (postEvents settings) c none = w.resume c q (.ret (.error (.refused .nested))) := by
  rw [postEvents_eq] at h
  have hinv := h.inv fun _ _ => plan_work
  refine ⟨linearized_of_serial hinv.serial, fun c q p hs hlock hc => ?_⟩
  obtain ⟨l, hl⟩ := Option.ne_none_iff_exists'.1 hlock
  -- Who does not hold the lock is at the start of its transaction.
  obtain ⟨body, rfl⟩ := (hinv.placed c q p hs).resolve_right hc
  have hsession : w.sessions c = ⟨(w.sessions c).pending, some (q, Prog.transaction body)⟩ := by rw [← hs]
  rw [Prog.transaction_eq] at hsession
  rw [World.turn, hsession]
  have hexec : (Op.begin : Op Database EventRow AppError).exec none w.shared =
      (.error (.refused .nested), w.shared) := by
    rw [World.shared_of_lock hl]
    rfl
  simp only [hexec, World.put_shared]

/-- What two clients of the in-memory service send. -/
def bothSend : Bool → List Request
  | true => [⟨"", .single exampleEvent⟩]
  | false => [⟨"", .array [exampleEvent, repricedEvent]⟩]

/-- The second client comes while the transaction of the first one is open. -/
def meeting : List (Bool × Option (Fault AppError)) :=
  [(true, none), (true, none), (false, none), (false, none)] ++ List.replicate 8 (true, none)

/-- One client is served, and the other one refused. -/
theorem memory_mode_linearizable_meeting :
    ∃ w : World Bool Request Database EventRow AppError Response,
      World.SharedReachable Fault.StaysOpen (postEvents {}) .empty bothSend w ∧
        w.answers.map (fun x => (x.client, x.result.isOk)) = [(false, false), (true, true)] ∧
        Linearized w.successes w.committed := by
  have hclean : ∀ x ∈ meeting, x.2 = none := by decide
  have hrun : World.SharedReachable Fault.StaysOpen (postEvents {}) .empty bothSend
      ((World.start .empty bothSend).turns (postEvents {}) meeting) := by
    refine World.SharedReachable.turns .refl fun x hx f hf => ?_
    rw [hclean x hx] at hf
    cases hf
  exact ⟨_, hrun, by decide +kernel, (memory_mode_linearizable hrun).1⟩

/-- The engine ends the transaction of the first client. The second one begins its own, and the rollback of the
first one ends that, so that the rest of the batch is committed statement by statement. -/
def breaking : List (Bool × Option (Fault AppError)) :=
  [(true, none), (true, none), (true, none), (true, none),
      (true, some (.abort (.operational "database or disk is full")))] ++
    List.replicate 8 (false, none) ++ (true, none) :: List.replicate 10 (false, none)

/-- An engine that ends a transaction by itself breaks the service on one connection: no request succeeds, and
half of a batch is stored. -/
theorem memory_mode_torn :
    ∃ w : World Bool Request Database EventRow AppError Response,
      World.SharedReachable (fun _ => True) (postEvents {}) .empty bothSend w ∧
        w.answers.map (fun x => (x.client, x.result.isOk)) = [(true, false), (false, false)] ∧
        w.committed.events.rows.map EventRow.event_id = [repricedEvent.event_id] := by
  have hrun : World.SharedReachable (fun _ => True) (postEvents {}) .empty bothSend
      ((World.start .empty bothSend).turns (postEvents {}) breaking) :=
    World.SharedReachable.turns .refl fun _ _ _ _ => trivial
  exact ⟨_, hrun, by decide +kernel, by decide +kernel⟩

end PaymentRecon
