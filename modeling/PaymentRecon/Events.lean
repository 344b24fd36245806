import Mathlib.Data.Finset.Card
import PaymentRecon.Store.Interleaving
import PaymentRecon.Answers

/-!
# `POST /events`

`post_events` of `app/routers/events.py`: it takes a single event, an array, or a wrapped batch,
rejects an empty and an oversized one, ingests the events, and shapes the response. `postEvents_eq`
splits it in the way that the results on concurrent clients need: a request is rejected before the
database is touched, or it is one transaction.
-/

namespace PaymentRecon

open Store

/-- The settings that ingestion reads. -/
structure Settings where
  /-- Largest batch accepted by `POST /events` in a single request. -/
  max_batch_size : ℤ := 5000
deriving DecidableEq, Repr

/-- The body of `POST /events`. -/
inductive Payload
  /-- A single event. -/
  | single (event : EventIn)
  /-- `{"events": [...]}`, which must not be empty. -/
  | batch (events : List EventIn) (nonempty : events ≠ [])
  /-- A bare array. -/
  | array (events : List EventIn)

/-- The events of a body. -/
def Payload.events : Payload → List EventIn
  | single event => [event]
  | batch events _ => events
  | array events => events

/-- A request, with the time at which it is ingested. -/
structure Request where
  /-- What `now_ts` gives. -/
  now : String
  /-- The body. -/
  payload : Payload

/-- An answer: the status code and the body. -/
structure Response where
  /-- The HTTP status code. -/
  status_code : ℕ
  /-- The body. -/
  body : IngestResponse
deriving DecidableEq, Repr

/-- The response to a batch that was ingested. -/
def Ingested.response (acc : Ingested) : Response :=
  let created := acc.results.countP fun r => r.status = .created
  { status_code := if created ≠ 0 then 201 else 200
    body :=
      { received := acc.results.length
        created := created
        duplicates := acc.results.length - created
        transactions_affected := acc.affected.card
        results := acc.results } }

/-- `post_events`. -/
def postEvents (settings : Settings) (request : Request) :
    Prog Database EventRow AppError Response :=
  let events := request.payload.events
  if events = [] then
    throw (.raised (.api 422 "validation_error" "At least one event is required"))
  else if events.length > settings.max_batch_size then
    throw (.raised (.api 413 "payload_too_large"
      ("Batch size " ++ toString events.length ++ " exceeds the maximum of " ++
        toString settings.max_batch_size ++ " events per request")))
  else do
    let acc ← ingestEvents request.now events
    pure acc.response

/-- What a request is served by: an error, or the body of a transaction. -/
def plan (settings : Settings) (request : Request) :
    Except (Exc AppError) (Prog Database EventRow AppError Response) :=
  let events := request.payload.events
  if events = [] then
    .error (.raised (.api 422 "validation_error" "At least one event is required"))
  else if events.length > settings.max_batch_size then
    .error (.raised (.api 413 "payload_too_large"
      ("Batch size " ++ toString events.length ++ " exceeds the maximum of " ++
        toString settings.max_batch_size ++ " events per request")))
  else .ok (ingestLoop request.now events .start >>= fun acc => pure acc.response)

/-- A request is rejected before the database is touched, or it is one transaction. -/
theorem postEvents_eq (settings : Settings) :
    postEvents settings = serving (plan settings) := by
  funext request
  simp only [postEvents, plan, serving]
  split_ifs
  · rfl
  · rfl
  · rw [ingestEvents_eq, Prog.map_transaction]

section Served

variable {settings : Settings} {request : Request} {body : Prog Database EventRow AppError Response}

/-- A request that is not rejected is the loop over its events. -/
theorem plan_eq_ok (h : plan settings request = .ok body) :
    body = ingestLoop request.now request.payload.events .start >>= fun acc => pure acc.response := by
  simp only [plan] at h
  split_ifs at h
  exact (Except.ok.inj h).symm

/-- It is made of statements and calls, and lets every exception through. -/
theorem plan_work (h : plan settings request = .ok body) : body.Work := by
  rw [plan_eq_ok h]
  exact (ingestLoop_work _ _ _).bind fun _ => Prog.work_pure _

/-- It applies every event and answers with the outcomes. -/
theorem plan_eval (h : plan settings request = .ok body) {db : Database} (hc : db.Checked) :
    body.eval db =
      (.ok (Ingested.start.addAll (db.results request.now request.payload.events)).response,
        db.applyAll request.now request.payload.events) := by
  rw [plan_eq_ok h, Prog.eval_bind, ingestLoop_eval hc]
  rfl

end Served

end PaymentRecon
