import PaymentRecon.Concurrency
import PaymentRecon.Content
import PaymentRecon.Store.Liveness

/-!
# Replies

What a client of `POST /events` reads, and what it learns from it. A route returns or raises, and the
handlers of `app/errors.py` answer what is raised with one envelope. Over any run of requests, with any
failures of the driver on the way, the status of a reply tells what became of its batch
(`statuses_tell`). Clients that send their requests at once all have their replies, in any interleaving
(`every_request_answered`).
-/

namespace PaymentRecon

open Store

/-! ## The error envelope -/

/-- One of `details`: what is wrong with a field. -/
structure ErrorDetail where
  /-- The path of the field. -/
  field : String
  /-- The text for a reader. -/
  message : String
  /-- The kind of error. -/
  type : String
deriving DecidableEq, Repr

/-- `error_response`: the status code and the members of the envelope. -/
structure ErrorResponse where
  /-- The HTTP status code. -/
  status_code : ℕ
  /-- The kind of error. -/
  code : String
  /-- The text for a reader. -/
  message : String
  /-- The fields in error, when the error is one of validation. -/
  details : Option (List ErrorDetail)
deriving DecidableEq, Repr

/-- One of the errors of a `RequestValidationError`. -/
structure RequestError where
  /-- Where it is: indices and names. -/
  loc : List (ℕ ⊕ String)
  /-- The text for a reader. -/
  msg : String
  /-- The kind of error. -/
  type : String

/-- What `_validation_error` says of an error. -/
def RequestError.detail (err : RequestError) : ErrorDetail where
  field := ".".intercalate (err.loc.map (Sum.elim toString id))
  message := err.msg
  type := err.type

/-- `_STATUS_CODES`. -/
def statusCodes : List (ℕ × String) :=
  [(400, "bad_request"), (404, "not_found"), (409, "conflict"), (413, "payload_too_large"),
    (422, "validation_error"), (500, "internal_error")]

/-- `str(exc)` of a `TimestampError`, with `repr` of a text as `pyRepr`. -/
def TimestampError.text (pyRepr : String → String) : TimestampError → String
  | empty => "timestamp must not be empty"
  | invalid value => "invalid ISO-8601 timestamp: " ++ pyRepr value
  | invalidDate text => "invalid date: " ++ pyRepr text

/-- `_api_error`, of the exceptions that are an `ApiError`. -/
def AppError.apiError (pyRepr : String → String) : AppError → Option ErrorResponse
  | api status_code code message => some ⟨status_code, code, message, none⟩
  | timestamp e => some ⟨422, "validation_error", e.text pyRepr, none⟩
  | notFound transaction_id =>
    some ⟨404, "not_found", "Transaction " ++ pyRepr transaction_id ++ " was not found", none⟩
  | _ => none

/-- `_unhandled`. -/
def unhandled : ErrorResponse := ⟨500, "internal_error", "An unexpected error occurred", none⟩

/-- What the handlers are given. -/
inductive Raised
  /-- `RequestValidationError`. -/
  | validation (errors : List RequestError)
  /-- `StarletteHTTPException`. -/
  | http (status_code : ℕ) (detail : String)
  /-- An `ApiError`, or any other exception. -/
  | exception (e : Exc AppError)

/-- The handlers that `register_error_handlers` registers. -/
def errorHandler (pyRepr : String → String) : Raised → ErrorResponse
  | .validation errors =>
    ⟨422, "validation_error", "Request validation failed", some (errors.map RequestError.detail)⟩
  | .http status_code detail =>
    ⟨status_code, (statusCodes.lookup status_code).getD "http_error", detail, none⟩
  | .exception (.raised e) => (e.apiError pyRepr).getD unhandled
  | .exception (.refused _) => unhandled

/-- What a client reads. -/
inductive Reply
  /-- The response of the route. -/
  | success (response : Response)
  /-- The envelope of an error. -/
  | failure (error : ErrorResponse)
deriving DecidableEq, Repr

/-- The HTTP status code. -/
def Reply.status_code : Reply → ℕ
  | success response => response.status_code
  | failure error => error.status_code

/-- An exception that is not handled is a 500. -/
@[simp] theorem Reply.status_code_unhandled : (failure unhandled).status_code = 500 := rfl

/-- The reply to a request that was served. -/
def replyTo (pyRepr : String → String) : Except (Exc AppError) Response → Reply
  | .ok response => .success response
  | .error e => .failure (errorHandler pyRepr (.exception e))

/-! ## Runs of requests -/

/-- What FastAPI makes of a body. -/
inductive Body
  /-- It validates as a payload of the route. -/
  | valid (payload : Payload)
  /-- It does not. -/
  | invalid (errors : List RequestError)
  /-- It cannot be read, which is an `HTTPException` with status 400. -/
  | unreadable (detail : String)
  /-- A validator raised what is no `ValueError`. -/
  | raised (e : AppError)

/-- A request as it arrives, with the time at which its batch is ingested. -/
structure Post where
  /-- What `now_ts` gives. -/
  now : String
  /-- The body. -/
  body : Body

/-- The events of a body that validates. -/
def Post.events (post : Post) : List EventIn :=
  match post.body with
  | .valid payload => payload.events
  | _ => []

/-- A request that was answered. -/
structure Exchange where
  /-- The request. -/
  post : Post
  /-- Whether something failed while it was served. -/
  failed : Bool
  /-- The reply. -/
  reply : Reply

/-- The failures come from the driver or the interpreter: none is an `ApiError`. -/
def FromOutside (pyRepr : String → String) (faults : ℕ → Option (Fault AppError)) : Prop :=
  ∀ n f, faults n = some f → f.error.apiError pyRepr = none

/-- Nor is the exception of a validator. -/
def Post.FromOutside (pyRepr : String → String) (post : Post) : Prop :=
  ∀ e, post.body = .raised e → e.apiError pyRepr = none

/-- What a request that reached the route leaves for the client. -/
def exchange (pyRepr : String → String) (faults : ℕ → Option (Fault AppError)) (post : Post)
    (out : Outcome Database AppError Response) : Exchange :=
  ⟨post, (List.range out.ticks).any fun n => (faults n).isSome, replyTo pyRepr out.result⟩

/-- What a request leaves for the client, and in the database. One that does not reach the route leaves
the database alone. -/
def Post.serve (settings : Settings) (pyRepr : String → String) (faults : ℕ → Option (Fault AppError))
    (db : Database) (post : Post) : Exchange × Database :=
  match post.body with
  | .valid payload =>
    let out := (postEvents settings ⟨post.now, payload⟩).run faults 0 (.idle db)
    (exchange pyRepr faults post out, out.conn.committed)
  | .invalid errors => (⟨post, false, .failure (errorHandler pyRepr (.validation errors))⟩, db)
  | .unreadable detail => (⟨post, false, .failure (errorHandler pyRepr (.http 400 detail))⟩, db)
  | .raised e => (⟨post, true, .failure (errorHandler pyRepr (.exception (.raised e)))⟩, db)

/-- The databases that requests lead to, one served after another on a connection of its own, each with the
requests and their replies. -/
inductive Served (settings : Settings) (pyRepr : String → String) : List Exchange → Database → Prop
  /-- `init_schema`. -/
  | start : Served settings pyRepr [] .empty
  /-- One more request. -/
  | request {log : List Exchange} {db : Database} (h : Served settings pyRepr log db)
      {faults : ℕ → Option (Fault AppError)} (hfaults : FromOutside pyRepr faults) {post : Post}
      (hpost : post.FromOutside pyRepr) :
      Served settings pyRepr (log ++ [(post.serve settings pyRepr faults db).1])
        (post.serve settings pyRepr faults db).2

/-- The requests that were answered with a status below 400. -/
def acknowledged (log : List Exchange) : List Post :=
  (log.filter fun x => x.reply.status_code < 400).map Exchange.post

/-- The events that these requests brought. -/
def acknowledgedIds (log : List Exchange) : List String :=
  (acknowledged log).flatMap fun post => post.events.map EventIn.event_id

/-- Requests applied one after another. -/
def Database.serveAll (db : Database) (posts : List Post) : Database :=
  posts.foldl (fun db post => db.applyAll post.now post.events) db

/-- A body is neither empty nor too long. -/
def Payload.Fits (settings : Settings) (payload : Payload) : Prop :=
  payload.events ≠ [] ∧ payload.events.length ≤ settings.max_batch_size

/-- The body validates, and is neither empty nor too long. -/
def Post.Fits (settings : Settings) (post : Post) : Prop :=
  ∃ payload, post.body = .valid payload ∧ payload.Fits settings

/-- The status of a reply tells what became of the request, after the exchanges `before`. -/
structure Exchange.Tells (settings : Settings) (before : List Exchange) (x : Exchange) : Prop where
  /-- 422 is for a body that does not validate, and for one without events. -/
  invalid : x.reply.status_code = 422 ↔ (∃ errors, x.post.body = .invalid errors) ∨
    ∃ payload, x.post.body = .valid payload ∧ payload.events = []
  /-- What is wrong with a body that does not validate is told, error by error. -/
  explained : ∀ errors, x.post.body = .invalid errors → x.reply = .failure
    ⟨422, "validation_error", "Request validation failed", some (errors.map RequestError.detail)⟩
  /-- 400 is for a body that cannot be read. -/
  unreadable : x.reply.status_code = 400 ↔ ∃ detail, x.post.body = .unreadable detail
  /-- 413 is for too many events. -/
  tooLarge : x.reply.status_code = 413 ↔ ∃ payload, x.post.body = .valid payload ∧
    payload.events ≠ [] ∧ settings.max_batch_size < payload.events.length
  /-- 500 is for a failure. -/
  failed : x.reply.status_code = 500 ↔ x.failed = true
  /-- 201 is for a batch with an event that no acknowledged request had brought. -/
  created : x.reply.status_code = 201 ↔ x.post.Fits settings ∧ x.failed = false ∧
    ∃ event ∈ x.post.events, event.event_id ∉ acknowledgedIds before
  /-- 200 is for a batch of replays. -/
  replayed : x.reply.status_code = 200 ↔ x.post.Fits settings ∧ x.failed = false ∧
    ∀ event ∈ x.post.events, event.event_id ∈ acknowledgedIds before
  /-- A failure is not described. -/
  undisclosed : x.failed = true → x.reply = .failure unhandled

/-- The status of a response says whether something was created. -/
theorem Database.status_code_response (now : String) (db : Database) (events : List EventIn) :
    (Ingested.start.addAll (db.results now events)).response.status_code =
      if ∃ event ∈ events, event.event_id ∉ db.storedIds then 201 else 200 := by
  have hcount : (db.results now events).countP (fun r => r.status = .created) ≠ 0 ↔
      ∃ event ∈ events, event.event_id ∉ db.storedIds := by
    rw [← db.exists_created_iff now, ← Nat.pos_iff_ne_zero, List.countP_pos_iff]
    simp only [decide_eq_true_eq]
  rw [Ingested.response, Ingested.results_start_addAll]
  exact if_congr hcount rfl rfl

section

variable {settings : Settings} {pyRepr : String → String} {faults : ℕ → Option (Fault AppError)}
  {db : Database}

/-- Whether something failed among the operations of a run. -/
theorem failed_exchange {post : Post} {out : Outcome Database AppError Response} :
    (exchange pyRepr faults post out).failed = true ↔ ∃ n < out.ticks, faults n ≠ none := by
  simp [exchange, Option.isSome_iff_ne_none]

/-- A request that reaches the route is rejected before the database is touched, or something failed and
it was rolled back, or all of it was applied. -/
theorem exchange_cases (hc : db.Checked) (hfaults : FromOutside pyRepr faults) (post : Post)
    (payload : Payload) {out : Outcome Database AppError Response}
    (hout : (postEvents settings ⟨post.now, payload⟩).run faults 0 (.idle db) = out) :
    (payload.events = [] ∧ (exchange pyRepr faults post out).failed = false ∧
        (exchange pyRepr faults post out).reply.status_code = 422 ∧ out.conn.committed = db) ∨
      (payload.events ≠ [] ∧ settings.max_batch_size < payload.events.length ∧
        (exchange pyRepr faults post out).failed = false ∧
        (exchange pyRepr faults post out).reply.status_code = 413 ∧ out.conn.committed = db) ∨
      (payload.Fits settings ∧ (exchange pyRepr faults post out).failed = true ∧
        (exchange pyRepr faults post out).reply = .failure unhandled ∧ out.conn.committed = db) ∨
      (payload.Fits settings ∧ (exchange pyRepr faults post out).failed = false ∧
        (exchange pyRepr faults post out).reply.status_code =
          (if ∃ event ∈ payload.events, event.event_id ∉ db.storedIds then 201 else 200) ∧
        out.conn.committed = db.applyAll post.now payload.events) := by
  by_cases hnil : payload.events = []
  · refine .inl ⟨hnil, ?_⟩
    rw [postEvents, if_pos hnil] at hout
    subst hout
    exact ⟨rfl, rfl, rfl⟩
  by_cases hlong : payload.events.length > settings.max_batch_size
  · refine .inr (.inl ⟨hnil, hlong, ?_⟩)
    rw [postEvents, if_neg hnil, if_pos hlong] at hout
    subst hout
    exact ⟨rfl, rfl, rfl⟩
  refine .inr (.inr ?_)
  have hfits : payload.Fits settings := ⟨hnil, not_lt.1 hlong⟩
  obtain ⟨body, hplan⟩ : ∃ body, plan settings ⟨post.now, payload⟩ = .ok body :=
    ⟨_, by rw [plan, if_neg hnil, if_neg hlong]⟩
  have heval := plan_eval hplan hc
  have hserve : postEvents settings ⟨post.now, payload⟩ = Prog.transaction body := by
    rw [postEvents_eq, serving, hplan]
  rw [hserve] at hout
  rcases Prog.transaction_run (plan_work hplan) faults 0 db with ⟨e, he, hconn⟩ |
    ⟨response, db', hresult, hconn, hev, hfree⟩
  · refine .inl ⟨hfits, ?_, ?_, ?_⟩
    · -- Without a failure it would have returned.
      rw [failed_exchange, ← hout]
      by_contra hnone
      push Not at hnone
      have hclean := Prog.transaction_run_clean (plan_work hplan) (fun _ => rfl) 0 heval
      rw [← Prog.run_congr fun n _ hn => hnone n hn, he] at hclean
      cases hclean.1
    · -- The transaction raises a failure from outside or a refusal, and neither has a status of its own.
      have hraised : errorHandler pyRepr (.exception e) = unhandled := by
        refine Prog.transaction_raises (E := fun e => errorHandler pyRepr (.exception e) = unhandled)
          (plan_work hplan) (fun _ => rfl) (fun n f hf => ?_) (fun e' he' => ?_) he
        · show (f.error.apiError pyRepr).getD unhandled = unhandled
          rw [hfaults n f hf, Option.getD_none]
        · rw [heval] at he'
          cases he'
      rw [exchange, ← hout, he, replyTo, hraised]
    · rw [← hout, hconn]
      rfl
  · rw [heval] at hev
    obtain ⟨hok, rfl⟩ := Prod.mk.inj hev
    obtain rfl := Except.ok.inj hok
    refine .inr ⟨hfits, ?_, ?_, ?_⟩
    · -- It would not have returned if one of its operations had failed.
      rw [← Bool.not_eq_true, failed_exchange, ← hout]
      rintro ⟨n, hn, hfault⟩
      exact hfault (hfree n (Nat.zero_le n) hn)
    · rw [exchange, ← hout, hresult]
      exact db.status_code_response post.now payload.events
    · rw [← hout, hconn]
      rfl

/-! ## What the statuses tell -/

/-- The requests of a run that were acknowledged, up to one more exchange. -/
theorem acknowledged_concat (log : List Exchange) (x : Exchange) :
    acknowledged (log ++ [x]) =
      acknowledged log ++ if x.reply.status_code < 400 then [x.post] else [] := by
  rw [acknowledged, List.filter_append, List.map_append, acknowledged]
  split_ifs with h <;> simp [h]

/-- A run serves the acknowledged requests and no others. -/
structure Keeping (log : List Exchange) (db : Database) : Prop where
  /-- The `CHECK` constraints hold. -/
  checked : db.Checked
  /-- The acknowledged requests lead to the database. -/
  contents : db = Database.empty.serveAll (acknowledged log)
  /-- Their events are the stored ones. -/
  storedIds : ∀ id, id ∈ db.storedIds ↔ id ∈ acknowledgedIds log

/-- A request that is not acknowledged leaves everything. -/
theorem Keeping.rejected {log : List Exchange} {x : Exchange} (h : Keeping log db)
    (hx : ¬ x.reply.status_code < 400) : Keeping (log ++ [x]) db := by
  have hlog : acknowledged (log ++ [x]) = acknowledged log := by
    rw [acknowledged_concat, if_neg hx, List.append_nil]
  refine ⟨h.checked, ?_, ?_⟩
  · rw [hlog]
    exact h.contents
  · rw [acknowledgedIds, hlog]
    exact h.storedIds

/-- A request that is acknowledged is applied. -/
theorem Keeping.applied {log : List Exchange} {x : Exchange} (h : Keeping log db)
    (hx : x.reply.status_code < 400) :
    Keeping (log ++ [x]) (db.applyAll x.post.now x.post.events) := by
  have hlog : acknowledged (log ++ [x]) = acknowledged log ++ [x.post] := by
    rw [acknowledged_concat, if_pos hx]
  refine ⟨h.checked.applyAll _ _, ?_, fun id => ?_⟩
  · rw [hlog, Database.serveAll, List.foldl_append]
    exact congrArg (fun db => db.applyAll x.post.now x.post.events) h.contents
  · rw [Database.mem_storedIds_applyAll, h.storedIds, acknowledgedIds, acknowledgedIds, hlog,
      List.flatMap_append, List.mem_append, List.flatMap_singleton, or_comm]

/-- The status of one more reply tells what became of its request. -/
theorem Keeping.tells {log : List Exchange} (h : Keeping log db) (hfaults : FromOutside pyRepr faults)
    {post : Post} (hpost : post.FromOutside pyRepr) :
    (post.serve settings pyRepr faults db).1.Tells settings log ∧
      Keeping (log ++ [(post.serve settings pyRepr faults db).1])
        (post.serve settings pyRepr faults db).2 := by
  -- A body that does not reach the route leaves the database alone, and its status is a constant.
  unfold Post.serve
  cases hbody : post.body with
  | invalid errors =>
    have hnot : ¬ post.Fits settings := by simp [Post.Fits, hbody]
    refine ⟨?_, h.rejected (by simp [Reply.status_code, errorHandler])⟩
    constructor <;> simp [Reply.status_code, errorHandler, hbody, hnot]
  | unreadable detail =>
    have hnot : ¬ post.Fits settings := by simp [Post.Fits, hbody]
    refine ⟨?_, h.rejected (by simp [Reply.status_code, errorHandler])⟩
    constructor <;> simp [Reply.status_code, errorHandler, hbody, hnot]
  | raised e =>
    have hreply : errorHandler pyRepr (.exception (.raised e)) = unhandled := by
      rw [errorHandler, hpost e hbody, Option.getD_none]
    refine ⟨?_, h.rejected (by simp [hreply])⟩
    constructor <;> simp [hreply, hbody]
  | valid payload =>
    have hevents : post.events = payload.events := by rw [Post.events, hbody]
    have hfits' : post.Fits settings ↔ payload.Fits settings := by simp [Post.Fits, hbody]
    dsimp only
    obtain ⟨out, hout⟩ : ∃ out,
        (postEvents settings ⟨post.now, payload⟩).run faults 0 (.idle db) = out := ⟨_, rfl⟩
    have hcases := exchange_cases h.checked hfaults post payload hout
    rw [hout]
    obtain ⟨x, hx⟩ : ∃ x, exchange pyRepr faults post out = x := ⟨_, rfl⟩
    have hpost' : x.post = post := by rw [← hx, exchange]
    simp only [hx, h.storedIds] at hcases ⊢
    rcases hcases with ⟨hnil, hfailed, hstatus, hdb⟩ | ⟨hne, hlong, hfailed, hstatus, hdb⟩ |
      ⟨hfits, hfailed, hreply, hdb⟩ | ⟨hfits, hfailed, hstatus, hdb⟩
    · -- A body without events.
      rw [hdb]
      have hnot : ¬ post.Fits settings := fun hfits => (hfits'.1 hfits).1 hnil
      refine ⟨?_, h.rejected (by omega)⟩
      constructor <;> simp [hpost', hbody, hstatus, hfailed, hnot, hnil]
    · -- A body with too many events.
      rw [hdb]
      have hnot : ¬ post.Fits settings := fun hfits => absurd (hfits'.1 hfits).2 (not_le.2 hlong)
      refine ⟨?_, h.rejected (by omega)⟩
      constructor <;> simp [hpost', hbody, hstatus, hfailed, hnot, hne, hlong]
    · -- Something failed, and was rolled back.
      rw [hdb]
      refine ⟨?_, h.rejected (by simp [hreply])⟩
      constructor <;> simp [hpost', hbody, hreply, hfailed, hfits.1, not_lt.2 hfits.2]
    · -- The batch is committed.
      have happlied : out.conn.committed = db.applyAll x.post.now x.post.events := by
        rw [hdb, hpost', hevents]
      rw [happlied]
      have hfits'' := hfits'.2 hfits
      split_ifs at hstatus with hnew
      · refine ⟨?_, h.applied (by omega)⟩
        constructor <;> simp [hpost', hevents, hbody, hstatus, hfailed, hfits'', hfits.1,
          not_lt.2 hfits.2] <;> exact hnew
      · refine ⟨?_, h.applied (by omega)⟩
        push Not at hnew
        constructor <;> simp [hpost', hevents, hbody, hstatus, hfailed, hfits'', hfits.1,
          not_lt.2 hfits.2] <;> exact hnew

/-- A reply with status 200 was for a request that left the content of the database. -/
theorem Keeping.sameContent {log : List Exchange} {x : Exchange} (h : Keeping log db)
    (htells : x.Tells settings log) (hx : x.reply.status_code = 200) :
    SameContent (Database.empty.serveAll (acknowledged (log ++ [x])))
      (Database.empty.serveAll (acknowledged log)) := by
  obtain ⟨-, -, hold⟩ := htells.replayed.1 hx
  rw [← (h.applied (by omega : x.reply.status_code < 400)).contents, ← h.contents]
  exact Database.sameContent_applyAll _ fun event hevent => (h.storedIds _).2 (hold event hevent)

/-- In every run of requests under any failures of the driver, the replies with a status below 400 tell
what is stored: the database is the one that these requests lead to, one after another, and the others
left no trace. The status of each reply is told by its request, by the acknowledged requests before it,
and by whether something failed: 422 for a body that does not validate, whose errors the client reads, and
for one without events, 400 for one that cannot be read, 413 for one with too many events, 500 for a
failure, of which the client reads nothing more, 201 when the batch has an event that is new and 200 when
all are replays, which change nothing but counters and the times of rows. -/
theorem statuses_tell {log : List Exchange} (h : Served settings pyRepr log db) :
    db = Database.empty.serveAll (acknowledged log) ∧
      ∀ before x after, log = before ++ x :: after → x.Tells settings before ∧
        (x.reply.status_code = 200 →
          SameContent (Database.empty.serveAll (acknowledged (before ++ [x])))
            (Database.empty.serveAll (acknowledged before))) := by
  suffices Keeping log db ∧ ∀ before x after, log = before ++ x :: after → x.Tells settings before ∧
      (x.reply.status_code = 200 →
        SameContent (Database.empty.serveAll (acknowledged (before ++ [x])))
          (Database.empty.serveAll (acknowledged before))) from ⟨this.1.contents, this.2⟩
  induction h with
  | start =>
    refine ⟨⟨Run.empty.history.checked, rfl, fun id => ?_⟩, fun before x after hsplit => ?_⟩
    · exact iff_of_false List.not_mem_nil List.not_mem_nil
    · exact absurd hsplit (by simp)
  | @request log db _ faults hfaults post hpost ih =>
    obtain ⟨hkeeping, hbefore⟩ := ih
    obtain ⟨htells, hafter⟩ := hkeeping.tells hfaults hpost
    refine ⟨hafter, fun before x after hsplit => ?_⟩
    rcases after.eq_nil_or_concat with rfl | ⟨after, last, rfl⟩
    · -- The last exchange.
      obtain ⟨rfl, hlast⟩ := List.append_inj' hsplit rfl
      obtain rfl := (List.cons.inj hlast).1
      exact ⟨htells, hkeeping.sameContent htells⟩
    · rw [List.concat_eq_append, ← List.cons_append, ← List.append_assoc] at hsplit
      exact hbefore before x after (List.append_inj_left' hsplit rfl)

/-- The driver fails at the third operation. -/
def lockedOnce : ℕ → Option (Fault AppError) := fun n =>
  if n = 2 then some (.abort (.operational "database is locked")) else none

/-- Nothing fails. -/
theorem fromOutside_none : FromOutside pyRepr fun _ => none := fun _ _ hf => nomatch hf

/-- The failure is one of the driver. -/
theorem fromOutside_lockedOnce : FromOutside id lockedOnce := by
  intro n f hf
  rw [lockedOnce] at hf
  split_ifs at hf
  obtain rfl := Option.some.inj hf
  rfl

/-- What FastAPI says of an event whose id is a number. -/
def numberedError : RequestError :=
  ⟨[.inr "body", .inr "EventIn", .inr "event_id"], "Input should be a valid string", "string_type"⟩

/-- A client sends its event with a number as its id, then until it is told that it is stored, and once
more. -/
theorem statuses_tell_retried : ∃ log db, Served {} id log db ∧
    log.map (fun x => x.reply.status_code) = [422, 500, 201, 200] ∧
    db = Database.empty.serveAll (acknowledged log) ∧ db.storedIds = [exampleEvent.event_id] ∧
    ∀ x ∈ log.head?, x.reply = .failure ⟨422, "validation_error", "Request validation failed",
      some [⟨"body.EventIn.event_id", "Input should be a valid string", "string_type"⟩]⟩ := by
  let post : Post := ⟨exampleEvent.timestamp, .valid (.single exampleEvent)⟩
  have hpost : post.FromOutside id := fun _ h => by cases h
  have hinvalid : (⟨exampleEvent.timestamp, .invalid [numberedError]⟩ : Post).FromOutside id :=
    fun _ h => by cases h
  have hrejected := (Served.start : Served {} id [] .empty).request fromOutside_none hinvalid
  have hfailed := hrejected.request fromOutside_lockedOnce hpost
  have hstored := hfailed.request fromOutside_none hpost
  have hrun := hstored.request fromOutside_none hpost
  obtain ⟨hcontents, htells⟩ := statuses_tell hrun
  refine ⟨_, _, hrun, by decide +kernel, hcontents, by decide +kernel, fun x hx => ?_⟩
  obtain rfl := Option.some.inj hx
  exact (htells [] _ _ rfl).1.explained _ rfl

end

/-! ## Every request is answered -/

/-- A body that is neither empty nor too long is served by a transaction. -/
theorem exists_plan {settings : Settings} {request : Request} (h : request.payload.Fits settings) :
    ∃ body, plan settings request = .ok body :=
  ⟨_, by rw [plan, if_neg h.1, if_neg (not_lt.2 h.2)]⟩

/-- The service keeps no client waiting forever. However finitely many clients interleave their requests,
and whatever fails, their runs are finite; every client is answered in the order of its requests, and each
request once; a run that cannot go on without a failure has answered all requests, and the lock is free:
nobody who failed has kept it. In a run without failures every body that is neither empty nor too long is
acknowledged, however the clients contend. -/
theorem every_request_answered {κ : Type} [DecidableEq κ] [Finite κ] (settings : Settings)
    (requests : κ → List Request) :
    (WellFounded fun w' w : World κ Request Database EventRow AppError Response =>
        World.Step (postEvents settings) w w') ∧
      (∀ w, World.Reachable (postEvents settings) .empty requests w →
        (∀ c, w.answeredTo c <+: requests c) ∧
          ((∀ w', ¬ World.Goes (postEvents settings) w w') →
            w.lock = none ∧ ∀ c, w.answeredTo c = requests c)) ∧
      ∀ w, Relation.ReflTransGen (World.Goes (postEvents settings)) (World.start .empty requests) w →
        ∀ x ∈ w.answers, x.request.payload.Fits settings → ∃ response, x.result = .ok response := by
  refine ⟨World.wellFounded_step _, fun w h => ⟨fun c => ?_, fun hstuck => ?_⟩, fun w h x hx hfits => ?_⟩
  · rw [← World.requests_eq h c, World.sentBy, List.append_assoc]
    exact List.prefix_append _ _
  · rw [postEvents_eq] at hstuck
    have hquiet : w.Quiet := by
      rw [postEvents_eq] at h
      rcases (World.Reachable.inv (fun _ _ => plan_work) h).goes with hquiet | ⟨w', hgoes⟩
      · exact hquiet
      · exact absurd hgoes (hstuck w')
    exact ⟨hquiet.1, hquiet.answeredTo h⟩
  · rw [postEvents_eq] at h
    obtain ⟨body, hplan⟩ := exists_plan hfits
    refine World.succeeds (fun _ _ => plan_work) (fun log db hserial q body hq => ?_) h x hx body hplan
    exact ⟨_, _, plan_eval hq (history_of_serial hserial).1.checked⟩

/-- Two clients post the same event at once. -/
theorem every_request_answered_contended : ∃ w : World Bool Request Database EventRow AppError Response,
    World.Reachable (postEvents {}) .empty (fun _ => [⟨"", .single exampleEvent⟩]) w ∧
      (∀ c, w.answeredTo c = [⟨"", .single exampleEvent⟩]) ∧
      ∀ x ∈ w.answers, x.request.payload.Fits {} → ∃ response, x.result = .ok response := by
  obtain ⟨hwf, hall, hok⟩ := @every_request_answered Bool _ _ {} fun _ => [⟨"", .single exampleEvent⟩]
  obtain ⟨w, hw, hlast⟩ := hwf.has_min
    {w | Relation.ReflTransGen (World.Goes (postEvents {}))
      (World.start .empty fun _ => [⟨"", .single exampleEvent⟩]) w} ⟨_, .refl⟩
  have hreach : World.Reachable (postEvents {}) .empty (fun _ => [⟨"", .single exampleEvent⟩]) w :=
    Relation.ReflTransGen.mono (fun _ _ hgoes => World.Goes.step hgoes) _ _ hw
  have hstuck : ∀ w', ¬ World.Goes (postEvents {}) w w' :=
    fun w' hgoes => hlast w' (hw.tail hgoes) hgoes.step
  exact ⟨w, hreach, ((hall w hreach).2 hstuck).2, hok w hw⟩

end PaymentRecon
