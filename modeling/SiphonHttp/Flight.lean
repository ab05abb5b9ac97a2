import SiphonHttp.Delivery

/-!
Requests in flight: `dispatch.rs` in small steps, with any number of requests at
once. A request is a job of the executor and, from its first stage that can
suspend on, a coroutine; beside them the task that accepted it waits, or is
dropped by the request timeout. A stage body may come to anything whenever it is
executed, and anything may be thrown into a coroutine anywhere. A step is one of
the script side (`Moves`), in the job or in the coroutine, or one of the task
(`Awaits`), and the requests share nothing.
-/
namespace SiphonHttp.Flight
open Text Dispatch Oneshot Runs Tasks Guards

/-! ### The steps -/

/-- Where the script side of a request is. -/
inductive Place
  | queued
  /-- In the job, in front of the stage of the index. -/
  | job (index : Nat)
  /-- In the loop of `drive`, in front of the stage of the index. Without a pool
      it runs inside of the job. -/
  | drive (index : Nat) (is_middleware inside : Bool)
  /-- On the way out of the timeout block, behind a response. -/
  | leaving (is_middleware inside : Bool)
  /-- The coroutine ended inside of the job, which is still to return. -/
  | ended (left : Except PyErr Unit)
  /-- The coroutine is no longer needed, and its sink with it. -/
  | freed
  | done

/-- What `job.await` finds. -/
inductive Job
  | running
  /-- Refused by the queue, or panicked. -/
  | failed
  | answered (reply : Reply)
  | handed_off

/-- What `answer` waits for. -/
inductive Wait
  | job
  | receiver
  | returned (response : Response)
  | dropped

/-- A request that was accepted: where it is, what was executed for it, and the
    sink and the channel that `hand_off` makes of it, as long as they are not
    used as they were made. -/
structure InFlight where
  route : Route
  request : PyRequest
  place : Place
  job : Job
  wait : Wait
  handed : HandedOff
  ran : List Ran

def InFlight.new (route : Route) (request : PyRequest) : InFlight :=
  ⟨route, request, .queued, .running, .job, .new, []⟩

inductive Action
  | refused
  | begins (py_new : Except PyErr Unit)
  | panics
  /-- The body of the stage is executed; `expired` is whether the timeout of the
      coroutine is what ends it. -/
  | executed (returned : Except PyErr Value) (expired : Bool)
  /-- The stage can suspend. Up to where its coroutine is submitted, or started
      without a pool, `hand_off` may fail. -/
  | hands_off (pool : Bool) (prepared : Except PyErr Unit)
  /-- Thrown into the coroutine where no stage is executed. -/
  | thrown (error : PyErr) (expired : Bool)
  /-- The loop is at its end, or its block is left. -/
  | exits
  /-- `asyncio.run` returns. -/
  | returns (run_end : Except PyErr Unit)
  | drops_sink
  /-- The task of the request goes on, as it has something to go on with. -/
  | polls
  | times_out

namespace InFlight
variable (crates : Crates) (flight : InFlight)

/-- The answer of the request. -/
def answer : Waiting :=
  match flight.wait with
  | .job => .waits
  | .receiver => flight.handed.answer
  | .returned response => .returned response
  | .dropped => .dropped

def internal : Reply := Reply.error 500 (lit "internal error")

/-- The job answers with a reply. -/
def answers (reply : Reply) : InFlight := { flight with place := .done, job := .answered reply }

def records (callable : Callable) (returned : Except PyErr Value) : InFlight :=
  { flight with ran := flight.ran ++ [⟨callable, flight.request, returned⟩] }

/-- The coroutine ends, with a pool or inside of the job. -/
def ends (inside : Bool) (left : Except PyErr Unit) : InFlight :=
  { flight with place := if inside then .ended left else .freed }

/-- A call on the sink. -/
def calls (action : Dispatch.Action) : Option InFlight :=
  (flight.handed.act crates action).map fun handed => { flight with handed := handed }

/-- `asyncio.timeout` on the way out; without a pool there is no timeout. -/
def leave (inside expired : Bool) : PyErr → PyErr
  | .cancelled => if expired && !inside then .exception (lit "TimeoutError") else .cancelled
  | error => error

/-- `except Exception as error: sink.raised(error, is_middleware)`. -/
def raises (is_middleware inside : Bool) (error : PyErr) : Option InFlight :=
  if error.is_exception then (flight.calls crates (.raised error is_middleware)).map (·.ends inside (.ok ()))
  else some (flight.ends inside (.error error))

/-- The stage of the index is executed in the job. -/
def executes_in_job (index : Nat) (returned : Except PyErr Value) : Option InFlight :=
  match flight.route.chain[index]? with
  | some stage =>
    if stage.is_async && stage.callable.suspends then none
    else
      let flight := flight.records stage.callable returned
      let is_middleware := decide (index < flight.route.middlewares.length)
      match returned with
      | .ok value =>
        if is_middleware && (Object.value value).is_none then some { flight with place := .job (index + 1) }
        else some (flight.answers (stage_response (.value value) is_middleware))
      | .error _ => some (flight.answers (stage_raised is_middleware))
  | none => none

/-- The stage of the index is executed in the coroutine. -/
def executes_in_drive (index : Nat) (inside : Bool) (returned : Except PyErr Value) (expired : Bool) :
    Option InFlight :=
  match flight.route.stages[index]? with
  | some entry =>
    let flight := flight.records entry.handler returned
    match returned with
    | .ok value =>
      if entry.is_middleware && (Object.value value).is_none then
        some { flight with place := .drive (index + 1) entry.is_middleware inside }
      else
        (flight.calls crates (.respond (.value value) entry.is_middleware)).map fun flight =>
          { flight with place := .leaving entry.is_middleware inside }
    | .error error => flight.raises crates entry.is_middleware inside (leave inside expired error)
  | none => none

/-- `hand_off`: the stage of the index can suspend. -/
def hands_off (index : Nat) (pool : Bool) (prepared : Except PyErr Unit) : Option InFlight :=
  match flight.route.chain[index]? with
  | some stage =>
    if stage.is_async && stage.callable.suspends then
      match prepared with
      | .ok () =>
        some { flight with
          place := .drive index (decide (index < flight.route.middlewares.length)) (!pool)
          job := if pool then .handed_off else .running }
      | .error _ => some (flight.answers internal)
    else none
  | none => none

/-- The coroutine was run inside of the job, and `asyncio.run` returns. -/
def returns (left run_end : Except PyErr Unit) : InFlight :=
  match left, run_end with
  | .ok (), .ok () => { flight with place := .freed, job := .handed_off }
  | _, _ => { flight with place := .freed, job := .answered internal }

/-- `answer`: what there is to go on with. -/
def polls : Option InFlight :=
  match flight.wait, flight.job with
  | .job, .failed => some { flight with wait := .returned (internal.into_response crates) }
  | .job, .answered reply => some { flight with wait := .returned (reply.into_response crates) }
  | .job, .handed_off => some { flight with wait := .receiver }
  | .receiver, _ =>
    match flight.handed.channel.poll with
    | .pending => none
    | .ready _ => flight.calls crates .poll
  | _, _ => none

/-- The request timeout drops the wait, and the receiver that it has or is to be
    given. -/
def times_out : Option InFlight :=
  match flight.wait with
  | .job => (flight.calls crates .timeout).map fun flight => { flight with wait := .dropped }
  | .receiver => flight.calls crates .timeout
  | _ => none

def act : Action → Option InFlight
  | .polls => flight.polls crates
  | .times_out => flight.times_out crates
  | action =>
    match flight.place, action with
    | .queued, .refused => some { flight with place := .done, job := .failed }
    | .queued, .begins (.ok ()) => some { flight with place := .job 0 }
    | .queued, .begins (.error _) => some (flight.answers internal)
    | .job index, .executed returned _ => flight.executes_in_job index returned
    | .job index, .hands_off pool prepared => flight.hands_off index pool prepared
    | .job _, .panics => some { flight with place := .done, job := .failed }
    | .job index, .exits => if flight.route.chain.length ≤ index then some (flight.answers internal) else none
    | .drive index _ inside, .executed returned expired => flight.executes_in_drive crates index inside returned expired
    | .drive _ is_middleware inside, .thrown error expired
    | .leaving is_middleware inside, .thrown error expired =>
      flight.raises crates is_middleware inside (leave inside expired error)
    | .drive index _ inside, .exits =>
      if flight.route.stages.length ≤ index then some (flight.ends inside (.ok ())) else none
    | .leaving _ inside, .exits => some (flight.ends inside (.ok ()))
    | .ended left, .returns run_end => some (flight.returns left run_end)
    | .freed, .drops_sink => (flight.calls crates .drop_sink).map fun flight => { flight with place := .done }
    | _, _ => none

end InFlight

/-! ### What a step does -/

/-- A stage that lets the request pass: a middleware that returned `None`. -/
def Passes (is_middleware : Bool) (returned : Except PyErr Value) : Prop :=
  is_middleware = true ∧ returned = .ok .none

/-- The script side of a request takes a step. -/
inductive Moves (crates : Crates) (flight : InFlight) : InFlight → Prop
  | fails (before : flight.place = .queued ∨ ∃ index, flight.place = .job index) :
    Moves crates flight { flight with place := .done, job := .failed }
  | answers_internal (before : flight.place = .queued ∨ ∃ index, flight.place = .job index) :
    Moves crates flight (flight.answers InFlight.internal)
  | begins (place : flight.place = .queued) : Moves crates flight { flight with place := .job 0 }
  | job_passes {index : Nat} {stage : Stage} (place : flight.place = .job index)
    (found : flight.route.chain[index]? = some stage) (middleware : index < flight.route.middlewares.length) :
    Moves crates flight { flight.records stage.callable (.ok .none) with place := .job (index + 1) }
  | job_decides {index : Nat} {stage : Stage} {returned : Except PyErr Value} (place : flight.place = .job index)
    (found : flight.route.chain[index]? = some stage)
    (decides : ¬Passes (decide (index < flight.route.middlewares.length)) returned) :
    Moves crates flight ((flight.records stage.callable returned).answers
      (verdict (decide (index < flight.route.middlewares.length)) returned))
  | hands_off {index : Nat} {stage : Stage} (pool : Bool) (place : flight.place = .job index)
    (found : flight.route.chain[index]? = some stage) :
    Moves crates flight { flight with
      place := .drive index (decide (index < flight.route.middlewares.length)) (!pool)
      job := if pool then .handed_off else .running }
  | drive_passes {index : Nat} {is_middleware inside : Bool} {entry : Entry}
    (place : flight.place = .drive index is_middleware inside) (found : flight.route.stages[index]? = some entry)
    (middleware : entry.is_middleware = true) :
    Moves crates flight { flight.records entry.handler (.ok .none) with
      place := .drive (index + 1) entry.is_middleware inside }
  | drive_responds {index : Nat} {is_middleware inside : Bool} {entry : Entry} {value : Value} {handed : HandedOff}
    (place : flight.place = .drive index is_middleware inside) (found : flight.route.stages[index]? = some entry)
    (decides : ¬Passes entry.is_middleware (.ok value))
    (called : flight.handed.act crates (.respond (.value value) entry.is_middleware) = some handed) :
    Moves crates flight { flight.records entry.handler (.ok value) with
      place := .leaving entry.is_middleware inside
      handed := handed }
  | drive_raises {index : Nat} {is_middleware inside : Bool} {entry : Entry} {error left : PyErr} {handed : HandedOff}
    (place : flight.place = .drive index is_middleware inside) (found : flight.route.stages[index]? = some entry)
    (called : flight.handed.act crates (.raised left entry.is_middleware) = some handed) :
    Moves crates flight
      (InFlight.ends { flight.records entry.handler (.error error) with handed := handed } inside (.ok ()))
  | drive_fails {index : Nat} {is_middleware inside : Bool} {entry : Entry} {error left : PyErr}
    (place : flight.place = .drive index is_middleware inside) (found : flight.route.stages[index]? = some entry) :
    Moves crates flight ((flight.records entry.handler (.error error)).ends inside (.error left))
  | raises {is_middleware inside : Bool} {left : PyErr} {handed : HandedOff}
    (place : (∃ index, flight.place = .drive index is_middleware inside) ∨ flight.place = .leaving is_middleware inside)
    (called : flight.handed.act crates (.raised left is_middleware) = some handed) :
    Moves crates flight (InFlight.ends { flight with handed := handed } inside (.ok ()))
  | ends {is_middleware inside : Bool} (left : Except PyErr Unit)
    (place : (∃ index, flight.place = .drive index is_middleware inside) ∨
      flight.place = .leaving is_middleware inside) :
    Moves crates flight (flight.ends inside left)
  | returns {left run_end : Except PyErr Unit} (place : flight.place = .ended left) :
    Moves crates flight (flight.returns left run_end)
  | drops_sink {handed : HandedOff} (place : flight.place = .freed)
    (dropped : flight.handed.act crates .drop_sink = some handed) :
    Moves crates flight { flight with handed := handed, place := .done }

/-- The task of a request takes a step, or is dropped. -/
inductive Awaits (crates : Crates) (flight : InFlight) : InFlight → Prop
  | job_failed (wait : flight.wait = .job) (job : flight.job = .failed) :
    Awaits crates flight { flight with wait := .returned (InFlight.internal.into_response crates) }
  | job_answered {reply : Reply} (wait : flight.wait = .job) (job : flight.job = .answered reply) :
    Awaits crates flight { flight with wait := .returned (reply.into_response crates) }
  | receives (wait : flight.wait = .job) (job : flight.job = .handed_off) :
    Awaits crates flight { flight with wait := .receiver }
  | polls {handed : HandedOff} {received : Option Reply} (wait : flight.wait = .receiver)
    (ready : flight.handed.channel.poll = .ready received) (polled : flight.handed.act crates .poll = some handed) :
    Awaits crates flight { flight with handed := handed }
  | dropped {handed : HandedOff} (wait : flight.wait = .job) (timeout : flight.handed.act crates .timeout = some handed) :
    Awaits crates flight { flight with handed := handed, wait := .dropped }
  | times_out {handed : HandedOff} (wait : flight.wait = .receiver)
    (timeout : flight.handed.act crates .timeout = some handed) :
    Awaits crates flight { flight with handed := handed }

section
variable {crates : Crates} {flight next : InFlight}

theorem verdict_ok (is_middleware : Bool) (value : Value) :
    stage_response (.value value) is_middleware = verdict is_middleware (.ok value) :=
  stage_response_verdict (show Except.map Object.value (.ok value) = .ok (.value value) from rfl) is_middleware

theorem passes_iff {is_middleware : Bool} {value : Value} :
    (is_middleware && (Object.value value).is_none) = true ↔ Passes is_middleware (.ok value) := by
  cases value <;> simp [Passes, Object.is_none]

theorem executes_in_job_moves {index : Nat} {returned : Except PyErr Value} (place : flight.place = .job index)
    (stepped : flight.executes_in_job index returned = some next) : Moves crates flight next := by
  unfold InFlight.executes_in_job at stepped
  split at stepped
  · rename_i stage found
    split_ifs at stepped
    cases returned with
    | error error =>
      cases stepped
      rw [stage_raised_verdict _ error]
      exact .job_decides place found fun passes => by cases passes.2
    | ok value =>
      dsimp only at stepped
      split_ifs at stepped with passed
      · cases stepped
        obtain ⟨middleware, none⟩ := passes_iff.mp passed
        rw [none]
        exact .job_passes place found (of_decide_eq_true middleware)
      · cases stepped
        rw [verdict_ok]
        exact .job_decides place found fun passes => passed (passes_iff.mpr passes)
  · cases stepped

theorem raises_cases {is_middleware inside : Bool} {error : PyErr}
    (stepped : flight.raises crates is_middleware inside error = some next) :
    (∃ handed, flight.handed.act crates (.raised error is_middleware) = some handed ∧
        next = InFlight.ends { flight with handed := handed } inside (.ok ())) ∨
      next = flight.ends inside (.error error) := by
  unfold InFlight.raises InFlight.calls at stepped
  split_ifs at stepped
  · obtain ⟨called, calls, rfl⟩ := Option.map_eq_some_iff.mp stepped
    obtain ⟨handed, acted, rfl⟩ := Option.map_eq_some_iff.mp calls
    exact Or.inl ⟨handed, acted, rfl⟩
  · cases stepped
    exact Or.inr rfl

theorem executes_in_drive_moves {index : Nat} {is_middleware inside expired : Bool} {returned : Except PyErr Value}
    (place : flight.place = .drive index is_middleware inside)
    (stepped : flight.executes_in_drive crates index inside returned expired = some next) :
    Moves crates flight next := by
  unfold InFlight.executes_in_drive at stepped
  split at stepped
  · rename_i entry found
    cases returned with
    | error error =>
      obtain ⟨handed, acted, rfl⟩ | rfl := raises_cases stepped
      · exact .drive_raises place found acted
      · exact .drive_fails place found
    | ok value =>
      dsimp only at stepped
      split_ifs at stepped with passed
      · cases stepped
        obtain ⟨middleware, none⟩ := passes_iff.mp passed
        rw [none]
        exact .drive_passes place found middleware
      · obtain ⟨called, calls, rfl⟩ := Option.map_eq_some_iff.mp stepped
        obtain ⟨handed, acted, rfl⟩ := Option.map_eq_some_iff.mp calls
        exact .drive_responds place found (fun passes => passed (passes_iff.mpr passes)) acted
  · cases stepped

theorem hands_off_moves {index : Nat} {pool : Bool} {prepared : Except PyErr Unit} (place : flight.place = .job index)
    (stepped : flight.hands_off index pool prepared = some next) : Moves crates flight next := by
  unfold InFlight.hands_off at stepped
  split at stepped
  · rename_i stage found
    split at stepped
    · cases prepared with
      | error error =>
        cases stepped
        exact .answers_internal (Or.inr ⟨index, place⟩)
      | ok =>
        cases stepped
        exact .hands_off pool place found
    · cases stepped
  · cases stepped

theorem polls_awaits (stepped : flight.polls crates = some next) : Awaits crates flight next := by
  unfold InFlight.polls at stepped
  split at stepped
  · rename_i wait job
    cases stepped
    exact .job_failed wait job
  · rename_i reply wait job
    cases stepped
    exact .job_answered wait job
  · rename_i wait job
    cases stepped
    exact .receives wait job
  · rename_i wait
    split at stepped
    · cases stepped
    · rename_i received ready
      obtain ⟨handed, polled, rfl⟩ := Option.map_eq_some_iff.mp stepped
      exact .polls wait ready polled
  · cases stepped

theorem times_out_awaits (stepped : flight.times_out crates = some next) : Awaits crates flight next := by
  unfold InFlight.times_out at stepped
  split at stepped
  · rename_i wait
    obtain ⟨called, calls, rfl⟩ := Option.map_eq_some_iff.mp stepped
    obtain ⟨handed, timeout, rfl⟩ := Option.map_eq_some_iff.mp calls
    exact .dropped wait timeout
  · rename_i wait
    obtain ⟨handed, timeout, rfl⟩ := Option.map_eq_some_iff.mp stepped
    exact .times_out wait timeout
  · cases stepped

theorem act_cases {action : Action} (acted : flight.act crates action = some next) :
    Moves crates flight next ∨ Awaits crates flight next := by
  unfold InFlight.act at acted
  split at acted
  · exact Or.inr (polls_awaits acted)
  · exact Or.inr (times_out_awaits acted)
  · left
    split at acted
    · rename_i place _ _
      cases acted
      exact .fails (Or.inl place)
    · rename_i place _ _
      cases acted
      exact .begins place
    · rename_i place _ _
      cases acted
      exact .answers_internal (Or.inl place)
    · rename_i place _ _
      exact executes_in_job_moves place acted
    · rename_i place _ _
      exact hands_off_moves place acted
    · rename_i index place _ _
      cases acted
      exact .fails (Or.inr ⟨index, place⟩)
    · rename_i index place _ _
      split_ifs at acted
      cases acted
      exact .answers_internal (Or.inr ⟨index, place⟩)
    · rename_i place _ _
      exact executes_in_drive_moves place acted
    · rename_i index is_middleware inside error expired place _ _
      obtain ⟨handed, called, rfl⟩ | rfl := raises_cases acted
      · exact .raises (Or.inl ⟨index, place⟩) called
      · exact .ends _ (Or.inl ⟨index, place⟩)
    · rename_i is_middleware inside error expired place _ _
      obtain ⟨handed, called, rfl⟩ | rfl := raises_cases acted
      · exact .raises (Or.inr place) called
      · exact .ends _ (Or.inr place)
    · rename_i index is_middleware inside place _ _
      split_ifs at acted
      cases acted
      exact .ends _ (Or.inl ⟨index, place⟩)
    · rename_i is_middleware inside place _ _
      cases acted
      exact .ends _ (Or.inr place)
    · rename_i left run_end place _ _
      cases acted
      exact .returns place
    · rename_i place _ _
      obtain ⟨called, calls, rfl⟩ := Option.map_eq_some_iff.mp acted
      obtain ⟨handed, dropped, rfl⟩ := Option.map_eq_some_iff.mp calls
      exact .drops_sink place dropped
    · cases acted

theorem act_keeps {action : Action} (acted : flight.act crates action = some next) :
    next.route = flight.route ∧ next.request = flight.request := by
  rcases act_cases acted with moved | awaits
  · cases moved with
    | @returns left run_end place =>
      unfold InFlight.returns
      split
      · exact ⟨rfl, rfl⟩
      · exact ⟨rfl, rfl⟩
    | _ => exact ⟨rfl, rfl⟩
  · cases awaits <;> exact ⟨rfl, rfl⟩

end

/-! ### Any number of requests -/

/-- Requests are accepted at any time, for any route, and each one acts on its
    own. -/
def flights (crates : Crates) : System Unit InFlight (Route × PyRequest) Action where
  start accepted := .new accepted.1 accepted.2
  act _ flight action := (flight.act crates action).map ((), ·)
  in_progress _ := false
  room := 1

end SiphonHttp.Flight
