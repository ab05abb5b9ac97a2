import SiphonHttp.Flight

/-!
What is known of a request in flight, at every moment of every run. By where it
is (`Stands`), which of its stages were executed and what its sink was given;
and so what any response comes from (`every_response_accounted`): an answer of a
stage is lost only where its job failed, and is never another's.
-/
namespace SiphonHttp.Flight
open Text Dispatch Oneshot Runs Tasks Guards

/-! ### What is known of a request -/

/-- The stages in front of the index are middlewares; they were executed, and
    nothing else was, and each of them let the request pass. -/
structure Passing (route : Route) (ran : List Ran) (index : Nat) : Prop where
  executed : ran.map Ran.callable = (route.chain.take index).map Stage.callable
  middlewares : index ≤ route.middlewares.length
  passed : ∀ run ∈ ran, ReturnedNone run

/-- The last executed stage did not let the request pass, and it is answered with
    what that stage came to. -/
def Decided (route : Route) (ran : List Ran) (reply : Reply) : Prop :=
  ∃ passing last, ran = passing ++ [last] ∧
    ¬Passes (decide (passing.length < route.middlewares.length)) last.returned ∧
    reply = verdict (decide (passing.length < route.middlewares.length)) last.returned

/-- No executed stage came to a value that is an answer. -/
def Undecided (route : Route) (ran : List Ran) : Prop :=
  ∀ passing last, ran = passing ++ [last] →
    Passes (decide (passing.length < route.middlewares.length)) last.returned ∨ ∃ error, last.returned = .error error

/-- The reply of an exception that was thrown where no stage is executed. It
    names the middlewares only as long as the handler was not executed. -/
def Interrupted (route : Route) (ran : List Ran) (reply : Reply) : Prop :=
  Undecided route ran ∧
    ∃ is_middleware, reply = stage_raised is_middleware ∧
      (is_middleware = true → ran.length ≤ route.middlewares.length)

/-- What the sink was first given is accounted for; and where it was given
    nothing, no answer was lost. -/
def Delivered (route : Route) (ran : List Ran) (actions : List Dispatch.Action) : Prop :=
  match (deliveries actions).head? with
  | some reply => Decided route ran reply ∨ Interrupted route ran reply
  | none => Undecided route ran

/-- Nothing was delivered yet. -/
def Silent (actions : List Dispatch.Action) : Prop := deliveries actions = [] ∧ sink_dropped actions = false

/-- Where a request stands. -/
def Stands (flight : InFlight) (actions : List Dispatch.Action) : Prop :=
  match flight.place with
  | .queued => flight.job = .running ∧ flight.ran = [] ∧ Silent actions
  | .job index => flight.job = .running ∧ Passing flight.route flight.ran index ∧ Silent actions
  | .drive index _ inside =>
    flight.job = (if inside then .running else .handed_off) ∧ Passing flight.route flight.ran index ∧ Silent actions
  | .leaving _ inside =>
    flight.job = (if inside then .running else .handed_off) ∧ sink_dropped actions = false ∧
      ∃ reply, deliveries actions = [reply] ∧ Decided flight.route flight.ran reply
  | .ended _ => flight.job = .running ∧ sink_dropped actions = false ∧ Delivered flight.route flight.ran actions
  | .freed =>
    (flight.job = .handed_off ∨ flight.job = .answered InFlight.internal) ∧ sink_dropped actions = false ∧
      Delivered flight.route flight.ran actions
  | .done =>
    match flight.job with
    | .running => False
    | .failed => True
    | .answered reply => reply = InFlight.internal ∨ Decided flight.route flight.ran reply
    | .handed_off => sink_dropped actions = true ∧ Delivered flight.route flight.ran actions

/-- What the task waits for is there, or is still to come. -/
def Waits (crates : Crates) (wait : Wait) (job : Job) (answer : Waiting) : Prop :=
  match wait with
  | .job => answer = .waits
  | .receiver => job = .handed_off
  | .returned response =>
    (job = .failed ∧ response = InFlight.internal.into_response crates) ∨
      ∃ reply, job = .answered reply ∧ response = reply.into_response crates
  | .dropped => True

structure Sound (crates : Crates) (flight : InFlight) : Prop where
  guarded : Guarded Ran.callable ReturnedNone (flight.route.chain.map Stage.callable) flight.ran
  request : ∀ run ∈ flight.ran, run.request = flight.request
  waits : Waits crates flight.wait flight.job flight.handed.answer
  known : ∃ actions, After crates actions flight.handed ∧ Stands flight actions

section
variable {crates : Crates} {route : Route} {ran : List Ran} {index : Nat}

theorem Passing.length (passing : Passing route ran index) : ran.length = index := by
  have lengths := congrArg List.length passing.executed
  have chained : route.chain.length = route.middlewares.length + 1 := by simp [Route.chain]
  have inside := passing.middlewares
  simp only [List.length_map, List.length_take, chained] at lengths
  omega

theorem passing_none (route : Route) : Passing route [] 0 := ⟨by simp, Nat.zero_le _, by simp⟩

theorem passing_next {stage : Stage} (passing : Passing route ran index) (found : route.chain[index]? = some stage)
    (middleware : index < route.middlewares.length) (request : PyRequest) :
    Passing route (ran ++ [⟨stage.callable, request, .ok .none⟩]) (index + 1) where
  executed := by
    rw [List.map_append, passing.executed, List.take_add_one, found, List.map_append]
    rfl
  middlewares := middleware
  passed := by
    intro run member
    rcases List.mem_append.mp member with earlier | new
    · exact passing.passed run earlier
    · rw [List.mem_singleton.mp new]
      rfl

/-- Executing the stage that is next is as the chain asks for. -/
theorem guarded_next {stage : Stage} (passing : Passing route ran index) (found : route.chain[index]? = some stage)
    (request : PyRequest) (returned : Except PyErr Value) :
    Guarded Ran.callable ReturnedNone (route.chain.map Stage.callable)
      (ran ++ [⟨stage.callable, request, returned⟩]) := by
  obtain ⟨inside, here⟩ := List.getElem?_eq_some_iff.mp found
  have split : route.chain.map Stage.callable =
      ran.map Ran.callable ++ stage.callable :: (route.chain.drop (index + 1)).map Stage.callable := by
    rw [passing.executed, ← here, ← List.map_cons, ← List.map_append, ← List.drop_eq_getElem_cons inside,
      List.take_append_drop]
  rw [split]
  exact @Guarded.executes _ _ _ _ _ _ ⟨stage.callable, request, returned⟩ passing.passed

theorem decided_next (passing : Passing route ran index) (callable : Callable) (request : PyRequest)
    {returned : Except PyErr Value} (decides : ¬Passes (decide (index < route.middlewares.length)) returned) :
    Decided route (ran ++ [⟨callable, request, returned⟩])
      (verdict (decide (index < route.middlewares.length)) returned) := by
  rw [← passing.length] at decides ⊢
  exact ⟨ran, _, rfl, decides, rfl⟩

theorem undecided_passing (passing : Passing route ran index) : Undecided route ran := by
  rintro before last rfl
  have behind := passing.length
  have inside := passing.middlewares
  rw [List.length_append, List.length_singleton] at behind
  left
  exact ⟨decide_eq_true (by omega), passing.passed last (by simp)⟩

theorem undecided_raised (callable : Callable) (request : PyRequest) (error : PyErr) :
    Undecided route (ran ++ [⟨callable, request, .error error⟩]) := by
  intro before last split
  obtain ⟨-, same⟩ := List.append_inj' split rfl
  cases same
  exact Or.inr ⟨error, rfl⟩

end
/-! ### What a step preserves -/

section
variable {crates : Crates} {flight next : InFlight}

/-- A stage of `drive` is the one of the chain. -/
theorem stage_of_entry {route : Route} {index : Nat} {entry : Entry} (found : route.stages[index]? = some entry) :
    ∃ stage, route.chain[index]? = some stage ∧ entry.handler = stage.callable ∧
      entry.is_middleware = decide (index < route.middlewares.length) := by
  have handler : (route.chain.map Stage.callable)[index]? = some entry.handler := by
    rw [← stages_functions, List.getElem?_map, found, Option.map_some]
  rw [List.getElem?_map] at handler
  obtain ⟨stage, there, same⟩ := Option.map_eq_some_iff.mp handler
  exact ⟨stage, there, same.symm, stages_is_middleware route found⟩

/-- A job that was still to end may end with anything. -/
theorem waits_running {wait : Wait} {answer : Waiting} (waits : Waits crates wait .running answer) (job : Job) :
    Waits crates wait job answer := by
  cases wait with
  | job => exact waits
  | receiver => cases waits
  | returned response =>
    rcases waits with ⟨failed, -⟩ | ⟨reply, answered, -⟩
    · cases failed
    · cases answered
  | dropped => trivial

/-- What a call on the sink leaves of the wait, and what it makes known. -/
theorem called_after {actions : List Dispatch.Action} {handed : HandedOff} {action : Dispatch.Action} {reply : Reply}
    (after : After crates actions flight.handed) (calls : action.reply = some reply)
    (called : flight.handed.act crates action = some handed) :
    handed.answer = flight.handed.answer ∧ After crates (actions ++ [action]) handed ∧
      deliveries (actions ++ [action]) = deliveries actions ++ [reply] ∧
      sink_dropped (actions ++ [action]) = sink_dropped actions := by
  obtain ⟨delivered, dropped, -⟩ := call_delivers calls actions
  exact ⟨(one_answer_of_after after).called (by rw [calls]; rfl) called, act_after after called, delivered, dropped⟩

theorem delivered_more {route : Route} {ran : List Ran} {actions more : List Dispatch.Action}
    (delivered : Delivered route ran actions) (some_reply : deliveries actions ≠ []) :
    Delivered route ran (actions ++ more) := by
  unfold Delivered at delivered ⊢
  rwa [deliveries_append, List.head?_append_of_ne_nil _ some_reply]

theorem delivered_first {route : Route} {ran : List Ran} {actions : List Dispatch.Action} {reply : Reply}
    {rest : List Reply} (first : deliveries actions = reply :: rest)
    (accounted : Decided route ran reply ∨ Interrupted route ran reply) : Delivered route ran actions := by
  unfold Delivered
  rw [first]
  exact accounted

theorem delivered_none {route : Route} {ran : List Ran} {actions : List Dispatch.Action}
    (none : deliveries actions = []) (undecided : Undecided route ran) : Delivered route ran actions := by
  unfold Delivered
  rw [none]
  exact undecided

/-- Where the coroutine ends: inside of the job, or with the sink to be dropped. -/
theorem stands_ends {actions : List Dispatch.Action} {inside : Bool} (left : Except PyErr Unit)
    (job : flight.job = if inside then .running else .handed_off) (open_sink : sink_dropped actions = false)
    (delivered : Delivered flight.route flight.ran actions) : Stands (flight.ends inside left) actions := by
  cases inside with
  | true => exact ⟨job, open_sink, delivered⟩
  | false => exact ⟨Or.inl job, open_sink, delivered⟩

theorem job_before {actions : List Dispatch.Action} (stands : Stands flight actions)
    (before : flight.place = .queued ∨ ∃ index, flight.place = .job index) : flight.job = .running := by
  unfold Stands at stands
  rcases before with place | ⟨index, place⟩
  · rw [place] at stands
    exact stands.1
  · rw [place] at stands
    exact stands.1

theorem stands_job {actions : List Dispatch.Action} {index : Nat} (stands : Stands flight actions)
    (place : flight.place = .job index) :
    flight.job = .running ∧ Passing flight.route flight.ran index ∧ Silent actions := by
  unfold Stands at stands
  rwa [place] at stands

theorem stands_drive {actions : List Dispatch.Action} {index : Nat} {is_middleware inside : Bool}
    (stands : Stands flight actions) (place : flight.place = .drive index is_middleware inside) :
    flight.job = (if inside then .running else .handed_off) ∧ Passing flight.route flight.ran index ∧
      Silent actions := by
  unfold Stands at stands
  rwa [place] at stands

/-- In the coroutine, whether in its loop or behind it, nothing is lost. -/
theorem stands_coroutine {actions : List Dispatch.Action} {is_middleware inside : Bool}
    (stands : Stands flight actions)
    (place : (∃ index, flight.place = .drive index is_middleware inside) ∨
      flight.place = .leaving is_middleware inside) :
    flight.job = (if inside then .running else .handed_off) ∧ sink_dropped actions = false ∧
      Delivered flight.route flight.ran actions ∧
      (deliveries actions = [] → ∃ index, Passing flight.route flight.ran index) := by
  rcases place with ⟨index, place⟩ | place
  · obtain ⟨job, passing, none, open_sink⟩ := stands_drive stands place
    exact ⟨job, open_sink, delivered_none none (undecided_passing passing), fun _ => ⟨index, passing⟩⟩
  · unfold Stands at stands
    rw [place] at stands
    obtain ⟨job, open_sink, reply, first, decided⟩ := stands
    refine ⟨job, open_sink, delivered_first first (Or.inl decided), fun none => ?_⟩
    rw [first] at none
    cases none

theorem request_records {callable : Callable} {returned : Except PyErr Value}
    (request : ∀ run ∈ flight.ran, run.request = flight.request) :
    ∀ run ∈ (flight.records callable returned).ran, run.request = flight.request := by
  intro run member
  rcases List.mem_append.mp member with earlier | new
  · exact request run earlier
  · rw [List.mem_singleton.mp new]

theorem not_passes_error (is_middleware : Bool) (error : PyErr) : ¬Passes is_middleware (.error error) :=
  fun passes => nomatch passes.2

theorem moves_sound (moved : Moves crates flight next) (sound : Sound crates flight) : Sound crates next := by
  obtain ⟨guarded, request, waits, actions, after, stands⟩ := sound
  cases moved with
  | fails before =>
    rw [job_before stands before] at waits
    exact ⟨guarded, request, waits_running waits _, actions, after, trivial⟩
  | answers_internal before =>
    rw [job_before stands before] at waits
    exact ⟨guarded, request, waits_running waits _, actions, after, Or.inl rfl⟩
  | begins place =>
    unfold Stands at stands
    rw [place] at stands
    obtain ⟨job, none, silent⟩ := stands
    refine ⟨guarded, request, waits, actions, after, job, ?_, silent⟩
    show Passing flight.route flight.ran 0
    rw [none]
    exact passing_none flight.route
  | job_passes place found middleware =>
    obtain ⟨job, passing, silent⟩ := stands_job stands place
    exact ⟨guarded_next passing found _ _, request_records request, waits, actions, after, job,
      passing_next passing found middleware _, silent⟩
  | job_decides place found decides =>
    obtain ⟨job, passing, -⟩ := stands_job stands place
    rw [job] at waits
    exact ⟨guarded_next passing found _ _, request_records request, waits_running waits _, actions, after,
      Or.inr (decided_next passing _ _ decides)⟩
  | hands_off pool place found =>
    obtain ⟨job, passing, silent⟩ := stands_job stands place
    rw [job] at waits
    refine ⟨guarded, request, waits_running waits _, actions, after, ?_, passing, silent⟩
    cases pool <;> rfl
  | drive_passes place found middleware =>
    obtain ⟨job, passing, silent⟩ := stands_drive stands place
    obtain ⟨stage, there, handler, kind⟩ := stage_of_entry found
    rw [handler]
    exact ⟨guarded_next passing there _ _, request_records request, waits, actions, after, job,
      passing_next passing there (of_decide_eq_true (kind.symm.trans middleware)) _, silent⟩
  | drive_responds place found decides called =>
    obtain ⟨job, passing, none, open_sink⟩ := stands_drive stands place
    obtain ⟨stage, there, handler, kind⟩ := stage_of_entry found
    obtain ⟨same, later, first, still_open⟩ := called_after after rfl called
    rw [← same] at waits
    rw [handler]
    refine ⟨guarded_next passing there _ _, request_records request, waits, _, later, job,
      still_open.trans open_sink, _, by rw [first, none, List.nil_append], ?_⟩
    rw [kind] at decides ⊢
    rw [verdict_ok]
    exact decided_next passing _ _ decides
  | drive_raises place found called =>
    obtain ⟨job, passing, none, open_sink⟩ := stands_drive stands place
    obtain ⟨stage, there, handler, kind⟩ := stage_of_entry found
    obtain ⟨same, later, first, still_open⟩ := called_after after rfl called
    rw [← same] at waits
    rw [none, List.nil_append] at first
    rw [handler]
    refine ⟨guarded_next passing there _ _, request_records request, waits, _, later,
      stands_ends _ job (still_open.trans open_sink) (delivered_first first (Or.inl ?_))⟩
    rw [kind, stage_raised_verdict]
    exact decided_next passing _ _ (not_passes_error _ _)
  | drive_fails place found =>
    obtain ⟨job, passing, none, open_sink⟩ := stands_drive stands place
    obtain ⟨stage, there, handler, -⟩ := stage_of_entry found
    rw [handler]
    exact ⟨guarded_next passing there _ _, request_records request, waits, actions, after,
      stands_ends _ job open_sink (delivered_none none (undecided_raised _ _ _))⟩
  | raises place called =>
    obtain ⟨job, open_sink, delivered, unanswered⟩ := stands_coroutine stands place
    obtain ⟨same, later, first, still_open⟩ := called_after after rfl called
    rw [← same] at waits
    refine ⟨guarded, request, waits, _, later, stands_ends _ job (still_open.trans open_sink) ?_⟩
    by_cases none : deliveries actions = []
    · obtain ⟨index, passing⟩ := unanswered none
      rw [none, List.nil_append] at first
      refine delivered_first first (Or.inr ⟨undecided_passing passing, _, rfl, fun _ => ?_⟩)
      rw [passing.length]
      exact passing.middlewares
    · exact delivered_more delivered none
  | ends left place =>
    obtain ⟨job, open_sink, delivered, -⟩ := stands_coroutine stands place
    exact ⟨guarded, request, waits, actions, after, stands_ends _ job open_sink delivered⟩
  | @returns left run_end place =>
    unfold Stands at stands
    rw [place] at stands
    obtain ⟨job, open_sink, delivered⟩ := stands
    rw [job] at waits
    unfold InFlight.returns
    split
    · exact ⟨guarded, request, waits_running waits _, actions, after, Or.inl rfl, open_sink, delivered⟩
    · exact ⟨guarded, request, waits_running waits _, actions, after, Or.inr rfl, open_sink, delivered⟩
  | drops_sink place dropped =>
    unfold Stands at stands
    rw [place] at stands
    obtain ⟨job, open_sink, delivered⟩ := stands
    obtain ⟨sink, there, rfl⟩ := Option.map_eq_some_iff.mp dropped
    have later := drop_sink_after after there
    have still : deliveries (actions ++ [Dispatch.Action.drop_sink]) = deliveries actions := by
      simp [deliveries, Dispatch.Action.reply]
    refine ⟨guarded, request, waits, _, later, ?_⟩
    unfold Stands
    rcases job with job | job
    · rw [job]
      refine ⟨by simp [sink_dropped], ?_⟩
      unfold Delivered at delivered ⊢
      rwa [still]
    · rw [job]
      exact Or.inl rfl

/-- Where a request stands depends on its deliveries and on the end of its sink. -/
theorem stands_congr {actions more : List Dispatch.Action} (stands : Stands flight actions)
    (delivered : deliveries more = deliveries actions) (dropped : sink_dropped more = sink_dropped actions) :
    Stands flight more := by
  unfold Stands Delivered Silent at stands ⊢
  rw [delivered, dropped]
  exact stands

theorem awaits_sound (awaits : Awaits crates flight next) (sound : Sound crates flight) : Sound crates next := by
  obtain ⟨guarded, request, waits, actions, after, stands⟩ := sound
  have timed : ∀ {handed : HandedOff}, flight.handed.act crates .timeout = some handed →
      After crates (actions ++ [Dispatch.Action.timeout]) handed ∧ Stands flight (actions ++ [Dispatch.Action.timeout]) :=
    fun timeout => ⟨act_after after timeout,
      stands_congr stands (by simp [deliveries, Dispatch.Action.reply]) (by simp [sink_dropped])⟩
  cases awaits with
  | job_failed wait job => exact ⟨guarded, request, Or.inl ⟨job, rfl⟩, actions, after, stands⟩
  | job_answered wait job => exact ⟨guarded, request, Or.inr ⟨_, job, rfl⟩, actions, after, stands⟩
  | receives wait job => exact ⟨guarded, request, job, actions, after, stands⟩
  | polls wait ready polled =>
    rw [wait] at waits
    refine ⟨guarded, request, ?_, _, act_after after polled,
      stands_congr stands (by simp [deliveries, Dispatch.Action.reply]) (by simp [sink_dropped])⟩
    rw [wait]
    exact waits
  | dropped wait timeout =>
    obtain ⟨later, still⟩ := timed timeout
    exact ⟨guarded, request, trivial, _, later, still⟩
  | times_out wait timeout =>
    obtain ⟨later, still⟩ := timed timeout
    rw [wait] at waits
    refine ⟨guarded, request, ?_, _, later, still⟩
    rw [wait]
    exact waits

theorem new_sound (crates : Crates) (route : Route) (request : PyRequest) : Sound crates (.new route request) :=
  ⟨.idle _, by simp [InFlight.new], rfl, [], after_new crates, rfl, rfl, rfl, rfl⟩

theorem act_sound {action : Action} (acted : flight.act crates action = some next) (sound : Sound crates flight) :
    Sound crates next := by
  rcases act_cases acted with moved | awaits
  · exact moves_sound moved sound
  · exact awaits_sound awaits sound

end

theorem flights_sound {crates : Crates} {events : List (Event (Route × PyRequest) Action)}
    {last : State Unit InFlight} (ran : run (step (flights crates)) ⟨(), []⟩ events = some last) :
    ∀ flight ∈ last.tasks, Sound crates flight := by
  refine each_task (Sound crates) (fun input => new_sound crates input.1 input.2) ?_ ran (by simp)
  intro shared flight action shared' next acted sound
  obtain ⟨after, acts, same⟩ := Option.map_eq_some_iff.mp acted
  cases same
  exact act_sound acts sound

/-! ### The response -/

/-- What a response may come from. An answer of a stage is lost to no other one
    but that of a job that failed. -/
inductive Accounts (crates : Crates) (flight : InFlight) : Response → Prop
  | decided {reply : Reply} (decided : Decided flight.route flight.ran reply) :
    Accounts crates flight (reply.into_response crates)
  | interrupted {reply : Reply} (interrupted : Interrupted flight.route flight.ran reply) :
    Accounts crates flight (reply.into_response crates)
  | internal (job : flight.job ≠ .handed_off) : Accounts crates flight (InFlight.internal.into_response crates)

/-- A coroutine beside its job that has delivered, or has ended, is accounted
    for. -/
theorem stands_delivered {flight : InFlight} {actions : List Dispatch.Action} (stands : Stands flight actions)
    (job : flight.job = .handed_off) (finished : deliveries actions = [] → sink_dropped actions = true) :
    Delivered flight.route flight.ran actions := by
  have silent : ¬Silent actions := by
    rintro ⟨none, open_sink⟩
    rw [finished none] at open_sink
    cases open_sink
  unfold Stands at stands
  cases place : flight.place with
  | queued =>
    rw [place] at stands
    exact absurd stands.2.2 silent
  | job index =>
    rw [place] at stands
    exact absurd stands.2.2 silent
  | drive index is_middleware inside =>
    rw [place] at stands
    exact absurd stands.2.2 silent
  | leaving is_middleware inside =>
    rw [place] at stands
    obtain ⟨-, -, reply, first, decided⟩ := stands
    exact delivered_first first (Or.inl decided)
  | ended left =>
    rw [place] at stands
    exact stands.2.2
  | freed =>
    rw [place] at stands
    exact stands.2.2
  | done =>
    rw [place, job] at stands
    exact stands.2

/-- The job answers with what a stage came to, or that it could not run. -/
theorem stands_answered {flight : InFlight} {actions : List Dispatch.Action} (stands : Stands flight actions)
    {reply : Reply} (job : flight.job = .answered reply) :
    reply = InFlight.internal ∨ Decided flight.route flight.ran reply := by
  have beside : ∀ inside : Bool, flight.job ≠ if inside then .running else .handed_off := by
    intro inside
    rw [job]
    cases inside <;> nofun
  unfold Stands at stands
  cases place : flight.place with
  | queued | job | ended =>
    rw [place] at stands
    rw [job] at stands
    cases stands.1
  | drive index is_middleware inside | leaving is_middleware inside =>
    rw [place] at stands
    exact absurd stands.1 (beside inside)
  | freed =>
    rw [place, job] at stands
    rcases stands.1 with handed_off | answered
    · cases handed_off
    · cases answered
      exact Or.inl rfl
  | done =>
    rw [place, job] at stands
    exact stands

/-- What the receiver gets, or that it gets nothing. -/
theorem outcome_accounts {crates : Crates} {flight : InFlight} {actions : List Dispatch.Action}
    (delivered : Delivered flight.route flight.ran actions) : Accounts crates flight (outcome crates actions) := by
  unfold Delivered at delivered
  unfold outcome
  cases first : (deliveries actions).head? with
  | some reply =>
    rw [first] at delivered
    rcases delivered with decided | interrupted
    · exact .decided decided
    · exact .interrupted interrupted
  | none =>
    rw [first] at delivered
    exact .interrupted ⟨delivered, false, rfl, nofun⟩

theorem sound_accounts {crates : Crates} {flight : InFlight} (sound : Sound crates flight) {response : Response}
    (answered : flight.answer = .returned response) : Accounts crates flight response := by
  obtain ⟨-, -, waits, actions, after, stands⟩ := sound
  unfold InFlight.answer at answered
  cases wait : flight.wait with
  | job =>
    rw [wait] at answered
    cases answered
  | dropped =>
    rw [wait] at answered
    cases answered
  | receiver =>
    rw [wait] at answered waits
    obtain ⟨-, rfl, finished⟩ := after.returned response answered
    exact outcome_accounts (stands_delivered stands waits finished)
  | returned other =>
    rw [wait] at answered waits
    cases answered
    rcases waits with ⟨job, rfl⟩ | ⟨reply, job, rfl⟩
    · exact .internal (by rw [job]; nofun)
    · rcases stands_answered stands job with rfl | decided
      · exact .internal (by rw [job]; nofun)
      · exact .decided decided

/-- In any run of any number of requests, the executed bodies of each are those of
    its chain in order, with none behind one that did not return `None`; and what
    it is answered with is what the last of them came to. Without an answer of a
    stage, it names the kind of stage that was interrupted; and where the job
    failed, it says no more. -/
theorem every_response_accounted (crates : Crates) {events : List (Event (Route × PyRequest) Action)}
    {last : State Unit InFlight} (ran : run (step (flights crates)) ⟨(), []⟩ events = some last) {flight : InFlight}
    (member : flight ∈ last.tasks) :
    Guarded Ran.callable ReturnedNone (flight.route.chain.map Stage.callable) flight.ran ∧
      (∀ run ∈ flight.ran, run.request = flight.request) ∧
      ∀ response, flight.answer = .returned response → Accounts crates flight response := by
  have sound := flights_sound ran flight member
  exact ⟨sound.guarded, sound.request, fun response answered => sound_accounts sound answered⟩

/-! A login check that waits, in front of a handler, while another request is
refused. -/

def waitingRoute : Route :=
  Route.new [⟨⟨1, true, true, fun _ => .ok .none⟩, true, rfl⟩]
    ⟨⟨2, false, false, fun _ => .ok (.response ⟨200, [], utf8 (lit "welcome")⟩)⟩, false, rfl⟩

def overlapping : List (Event (Route × PyRequest) Action) :=
  [.arrive (waitingRoute, emptyRequest), .arrive (waitingRoute, emptyRequest), .act 0 (.begins (.ok ())),
    .act 1 .refused, .act 0 (.hands_off true (.ok ())), .act 1 .polls, .act 0 .polls,
    .act 0 (.executed (.ok .none) false),
    .act 0 (.executed (.ok (.response ⟨200, [], utf8 (lit "welcome")⟩)) false), .act 0 .polls]

theorem welcome_accounted :
    ∃ last flight, run (step (flights plainCrates)) ⟨(), []⟩ overlapping = some last ∧ last.tasks[0]? = some flight ∧
      flight.answer = .returned ⟨200, [], utf8 (lit "welcome")⟩ ∧
      Accounts plainCrates flight ⟨200, [], utf8 (lit "welcome")⟩ :=
  ⟨_, _, rfl, rfl, rfl, (@every_response_accounted plainCrates overlapping _ rfl _ (List.mem_cons_self ..)).2.2 _ rfl⟩

end SiphonHttp.Flight
