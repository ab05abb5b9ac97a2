import SiphonHttp.Request

/-!
`dispatch.rs`: one request through its middlewares and its route handler, first
in the executor's job (`start`) and, from the first coroutine that can suspend,
in a coroutine of its own (`hand_off`, `drive`). Every function returns with its
result the stage bodies it executed, in order. What the executor, the
interpreter and the asyncio pool do to one request is a parameter, `Machinery`.
-/
namespace SiphonHttp
open Text

namespace Dispatch

/-! ### Script functions -/

/-- A Python exception, by the classes that are told apart. -/
inductive PyErr
  /-- A subclass of `Exception`. -/
  | exception (name : Text)
  | cancelled
  /-- Any other subclass of `BaseException`. -/
  | base (name : Text)
  deriving DecidableEq, Repr

/-- What `except Exception` catches. -/
def PyErr.is_exception : PyErr → Bool
  | .exception _ => true
  | _ => false

/-- `http.Response`, its headers in the order the map yields them. -/
structure PyResponse where
  status : UInt16
  headers : List (Text × Text)
  body_bytes : Octets
  deriving DecidableEq, Repr

/-- What the body of a script function returns. -/
inductive Value
  | none
  | response (response : PyResponse)
  | other
  deriving DecidableEq, Repr

/-- A script function: its identity, whether it is an `async def`, whether its
    coroutine can suspend, and what its body makes of a request. -/
structure Callable where
  id : Nat
  coroutine_function : Bool
  suspends : Bool
  body : PyRequest → Except PyErr Value

/-- What a call hands back. -/
inductive Object
  | value (value : Value)
  /-- A coroutine that has not been started. -/
  | coroutine (function : Callable) (request : PyRequest)

def Object.is_none : Object → Bool
  | .value .none => true
  | _ => false

/-- The execution of a stage body, and how it ended. -/
structure Ran where
  callable : Callable
  request : PyRequest
  returned : Except PyErr Value

/-- `callable.call1((request,))`: an `async def` is not executed yet. -/
def Callable.call1 (callable : Callable) (request : PyRequest) : Except PyErr Object × List Ran :=
  if callable.coroutine_function then (.ok (.coroutine callable request), [])
  else ((callable.body request).map .value, [⟨callable, request, callable.body request⟩])

/-- siphon's `run_coroutine_inline`: a coroutine that cannot suspend is run to
    its end; any other is left unstarted. -/
def run_coroutine_inline : Object → Except PyErr (Option Object) × List Ran
  | .coroutine callable request =>
    if callable.suspends then (.ok none, [])
    else ((callable.body request).map fun value => some (.value value), [⟨callable, request, callable.body request⟩])
  | .value _ => (.error (.exception (lit "TypeError")), [])

/-! ### Routes -/

/-- A middleware or a route handler, marked as what it is. -/
structure Stage where
  callable : Callable
  is_async : Bool
  marked : is_async = callable.coroutine_function

/-- A stage as `drive` gets it. -/
structure Entry where
  handler : Callable
  is_async : Bool
  is_middleware : Bool

def entries (middlewares : List Stage) (handler : Stage) : List Entry :=
  middlewares.map (fun stage => ⟨stage.callable, stage.is_async, true⟩) ++ [⟨handler.callable, handler.is_async, false⟩]

structure Route where
  middlewares : List Stage
  handler : Stage
  stages : List Entry
  built : stages = entries middlewares handler

def Route.new (middlewares : List Stage) (handler : Stage) : Route :=
  ⟨middlewares, handler, entries middlewares handler, rfl⟩

/-- The middlewares and then the handler. -/
def Route.chain (route : Route) : List Stage := route.middlewares ++ [route.handler]

/-! ### Replies -/

structure ScriptReply where
  status : UInt16
  headers : List (Text × Text)
  body : Octets
  deriving DecidableEq, Repr

inductive Reply
  | Script (reply : ScriptReply)
  | Ready (response : Response)
  deriving DecidableEq, Repr

/-- `ScriptReply::from`. -/
def ScriptReply.of (response : PyResponse) : ScriptReply := ⟨response.status, response.headers, response.body_bytes⟩

def ScriptReply.into_response (crates : Crates) (reply : ScriptReply) : Response :=
  let status := (StatusCode.from_u16 reply.status).getD 500
  let headers := crates.valid_fields reply.headers
  if crates.builds headers then ⟨status, headers, reply.body⟩ else error_response 500 (lit "build failed")

def Reply.into_response (crates : Crates) : Reply → Response
  | .Script reply => reply.into_response crates
  | .Ready response => response

def Reply.error (status : Nat) (message : Text) : Reply := .Ready (error_response status message)

def stage_response (value : Object) (is_middleware : Bool) : Reply :=
  match value with
  | .value (.response response) => .Script (ScriptReply.of response)
  | _ =>
    if is_middleware then Reply.error 500 (lit "middleware must return Response or None")
    else Reply.error 500 (lit "bad response")

def stage_raised (is_middleware : Bool) : Reply :=
  if is_middleware then Reply.error 500 (lit "middleware error") else Reply.error 500 (lit "handler error")

/-! ### What surrounds the stages -/

/-- The asyncio pool: what `submit` answers, and the timeout of its coroutines. -/
structure AsyncPool where
  coroutine_timeout : Nat
  submit : Except PyErr Unit

/-- What happens to one request outside the script functions. A step is `ok`
    where it succeeds. -/
structure Machinery where
  /-- `py_executor::try_run` takes the job. -/
  try_run : Bool
  /-- `Py::new(py, request)`. -/
  py_new : Except PyErr Unit
  helpers : Except PyErr Unit
  /-- `Py::new(py, ResponseSink)`. -/
  sink : Except PyErr Unit
  /-- `helpers.drive.call1(…)`. -/
  drive_call : Except PyErr Unit
  pool : Option AsyncPool
  /-- `asyncio.run` up to where the coroutine starts, and after it ended. -/
  run_begin : Except PyErr Unit
  run_end : Except PyErr Unit
  /-- What is thrown into `drive` where it reaches the stage of an index. -/
  thrown_before : Nat → Option PyErr
  /-- What the wait for the coroutine of that stage ends with, when something
      thrown into it is not caught there. -/
  thrown_into : Nat → Option PyErr
  /-- The coroutine timeout is what cancelled. -/
  expired : Bool

/-! ### `drive` -/

/-- How the body of `drive` is left: with a response delivered, behind the last
    stage, or by an exception. -/
inductive Exit
  | responded (reply : Reply)
  | finished
  | raised (error : PyErr)

/-- An exit, the value of `is_middleware` there, and what was executed. -/
structure Loop where
  exit : Exit
  is_middleware : Bool
  ran : List Ran

/-- `await object`, for the stage at the index. -/
def Machinery.await (machinery : Machinery) (index : Nat) : Object → Except PyErr Object × List Ran
  | .coroutine callable request =>
    let returned :=
      match machinery.thrown_into index with
      | some error => .error error
      | none => callable.body request
    (returned.map .value, [⟨callable, request, returned⟩])
  | .value _ => (.error (.exception (lit "TypeError")), [])

/-- The value of one stage: of the coroutine already started, or of a call. -/
def Machinery.value (machinery : Machinery) (index : Nat) (entry : Entry) (request : PyRequest) :
    Option Object → Except PyErr Object × List Ran
  | some started => machinery.await index started
  | none =>
    match entry.handler.call1 request with
    | (.ok value, ran) =>
      if entry.is_async then
        let awaited := machinery.await index value
        (awaited.1, ran ++ awaited.2)
      else (.ok value, ran)
    | (.error error, ran) => (.error error, ran)

/-- The loop of `drive`, over the stages from the index on. -/
def Machinery.loop (machinery : Machinery) (request : PyRequest) :
    List Entry → Nat → Option Object → Bool → Loop
  | [], _, _, is_middleware => ⟨.finished, is_middleware, []⟩
  | entry :: stages, index, started, is_middleware =>
    match machinery.thrown_before index with
    | some error => ⟨.raised error, is_middleware, []⟩
    | none =>
      match machinery.value index entry request started with
      | (.error error, ran) => ⟨.raised error, entry.is_middleware, ran⟩
      | (.ok value, ran) =>
        if entry.is_middleware && value.is_none then
          let rest := machinery.loop request stages (index + 1) none entry.is_middleware
          { rest with ran := ran ++ rest.ran }
        else ⟨.responded (stage_response value entry.is_middleware), entry.is_middleware, ran⟩

/-- `asyncio.timeout` on the way out: its own cancellation becomes a
    `TimeoutError`. -/
def Machinery.leave (machinery : Machinery) (timeout : Option Nat) : PyErr → PyErr
  | .cancelled => if machinery.expired && timeout.isSome then .exception (lit "TimeoutError") else .cancelled
  | error => error

/-- What the sink was given, the exception that left the coroutine, and what was
    executed. -/
structure Driven where
  sent : Option Reply
  left : Except PyErr Unit
  ran : List Ran

def Machinery.drive (machinery : Machinery) (stages : List Entry) (first : Nat) (request : PyRequest)
    (timeout : Option Nat) (started : Object) : Driven :=
  match stages[first]? with
  | none => ⟨none, .error (.exception (lit "IndexError")), []⟩
  | some entry =>
    let loop := machinery.loop request (stages.drop first) first (some started) entry.is_middleware
    match loop.exit with
    | .responded reply => ⟨some reply, .ok (), loop.ran⟩
    | .finished => ⟨none, .ok (), loop.ran⟩
    | .raised error =>
      let error := machinery.leave timeout error
      if error.is_exception then ⟨some (stage_raised loop.is_middleware), .ok (), loop.ran⟩
      else ⟨none, .error error, loop.ran⟩

/-! ### The job -/

/-- `Pending` holds what the receiver gets: nothing when the sink is dropped
    before it delivered. -/
inductive Started
  | Answered (reply : Reply)
  | Pending (received : Option Reply)

/-- The closure of `hand_off`: what the sink was given if every step succeeded. -/
def Machinery.submitted (machinery : Machinery) (route : Route) (first : Nat) (request : PyRequest)
    (started : Object) : Except PyErr (Option Reply) × List Ran :=
  match machinery.helpers, machinery.sink, machinery.drive_call with
  | .ok (), .ok (), .ok () =>
    match machinery.pool with
    | some pool =>
      match pool.submit with
      | .error error => (.error error, [])
      | .ok () =>
        let driven := machinery.drive route.stages first request (some pool.coroutine_timeout) started
        (.ok driven.sent, driven.ran)
    | none =>
      match machinery.run_begin with
      | .error error => (.error error, [])
      | .ok () =>
        let driven := machinery.drive route.stages first request none started
        (do driven.left; machinery.run_end; pure driven.sent, driven.ran)
  | .error error, _, _ | _, .error error, _ | _, _, .error error => (.error error, [])

def Machinery.hand_off (machinery : Machinery) (route : Route) (first : Nat) (request : PyRequest)
    (started : Object) : Started × List Ran :=
  match machinery.submitted route first request started with
  | (.ok received, ran) => (.Pending received, ran)
  | (.error _, ran) => (.Answered (Reply.error 500 (lit "internal error")), ran)

/-- What a stage came to in the job: its value, or a coroutine that has to be
    handed off. -/
inductive InJob
  | returned (returned : Except PyErr Object)
  | suspends (coroutine : Object)

def Stage.in_job (stage : Stage) (request : PyRequest) : InJob × List Ran :=
  match stage.callable.call1 request with
  | (.ok coroutine, ran) =>
    if stage.is_async then
      match run_coroutine_inline coroutine with
      | (.ok (some value), inline) => (.returned (.ok value), ran ++ inline)
      | (.ok none, inline) => (.suspends coroutine, ran ++ inline)
      | (.error error, inline) => (.returned (.error error), ran ++ inline)
    else (.returned (.ok coroutine), ran)
  | (.error error, ran) => (.returned (.error error), ran)

/-- The loop of `start`, over the stages from the index on. -/
def Machinery.start_from (machinery : Machinery) (route : Route) (request : PyRequest) :
    List Stage → Nat → Started × List Ran
  | [], _ => (.Answered (Reply.error 500 (lit "internal error")), [])
  | stage :: stages, index =>
    let is_middleware := decide (index < route.middlewares.length)
    match stage.in_job request with
    | (.suspends coroutine, ran) =>
      let handed := machinery.hand_off route index request coroutine
      (handed.1, ran ++ handed.2)
    | (.returned (.ok value), ran) =>
      if is_middleware && value.is_none then
        let rest := machinery.start_from route request stages (index + 1)
        (rest.1, ran ++ rest.2)
      else (.Answered (stage_response value is_middleware), ran)
    | (.returned (.error _), ran) => (.Answered (stage_raised is_middleware), ran)

def Machinery.start (machinery : Machinery) (route : Route) (request : PyRequest) : Started × List Ran :=
  match machinery.py_new with
  | .error _ => (.Answered (Reply.error 500 (lit "internal error")), [])
  | .ok () => machinery.start_from route request route.chain 0

/-- A response and the stage bodies executed for it. -/
structure Answer where
  response : Response
  ran : List Ran

def Machinery.answer (machinery : Machinery) (crates : Crates) (route : Route) (request : PyRequest) : Answer :=
  if machinery.try_run then
    match machinery.start route request with
    | (.Answered reply, ran) => ⟨reply.into_response crates, ran⟩
    | (.Pending (some reply), ran) => ⟨reply.into_response crates, ran⟩
    | (.Pending none, ran) => ⟨error_response 500 (lit "handler error"), ran⟩
  else ⟨error_response 500 (lit "internal error"), []⟩

end Dispatch
end SiphonHttp
