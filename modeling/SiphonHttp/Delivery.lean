import SiphonHttp.Oneshot
import SiphonHttp.Raising
import SiphonHttp.Tasks

/-!
Requests that were handed off, from there to their answers: calls on the sink of
each one, the end of the sink, the wait of `answer` and the request timeout, in
any order and for any number of requests. The first reply that a sink delivers
is the only one that is sent; the answer is the response to it, or to nothing
when the sink ends without one; and no request has a part in another's answer.
-/
namespace SiphonHttp.Dispatch
open Text Oneshot Runs Tasks

/-! ### The sink and the wait -/

/-- The sender, until it is taken. -/
inductive Sender
  | sender
  deriving DecidableEq, Repr

structure ResponseSink where
  sender : Option Sender
  deriving DecidableEq, Repr

/-- `answer`, from where it waits for the receiver. -/
inductive Waiting
  | waits
  | returned (response : Response)
  /-- Dropped by the request timeout, and the receiver with it. -/
  | dropped
  deriving DecidableEq, Repr

/-- A request that was handed off; its sink, until it is dropped; and all replies
    that `Sender::send` was ever called with. -/
structure HandedOff where
  sink : Option ResponseSink
  channel : Channel Reply
  answer : Waiting
  sent : List Reply
  deriving DecidableEq, Repr

/-- What `hand_off` leaves when it succeeds. -/
def HandedOff.new : HandedOff := ⟨some ⟨some .sender⟩, .new, .waits, []⟩

/-- What happens to a request. -/
inductive Action
  | respond (value : Object) (is_middleware : Bool)
  | raised (error : PyErr) (is_middleware : Bool)
  | drop_sink
  /-- The task of the request looks at the receiver. -/
  | poll
  | timeout

/-- The reply of a call on the sink. -/
def Action.reply : Action → Option Reply
  | .respond value is_middleware => some (stage_response value is_middleware)
  | .raised _ is_middleware => some (stage_raised is_middleware)
  | _ => none

/-- `ResponseSink::deliver`. -/
def HandedOff.deliver (request : HandedOff) (sink : ResponseSink) (response : Reply) : HandedOff :=
  match sink.sender with
  | some _ =>
    { request with
      sink := some ⟨none⟩
      channel := (request.channel.send response).1
      sent := request.sent ++ [response] }
  | none => request

/-- A sink that was dropped is not called, and a wait that is over is neither
    resumed nor dropped. -/
def HandedOff.act (crates : Crates) (request : HandedOff) : Action → Option HandedOff
  | .respond value is_middleware =>
    request.sink.map fun sink => request.deliver sink (stage_response value is_middleware)
  | .raised _ is_middleware =>
    request.sink.map fun sink => request.deliver sink (stage_raised is_middleware)
  | .drop_sink =>
    request.sink.map fun sink =>
      { request with
        sink := none
        channel := if sink.sender.isSome then request.channel.drop_sender else request.channel }
  | .poll =>
    match request.answer with
    | .waits =>
      match request.channel.poll with
      | .pending => some request
      | .ready (some reply) =>
        some { request with
          channel := request.channel.drop_receiver
          answer := .returned (reply.into_response crates) }
      | .ready none =>
        some { request with
          channel := request.channel.drop_receiver
          answer := .returned (error_response 500 (lit "handler error")) }
    | _ => none
  | .timeout =>
    match request.answer with
    | .waits => some { request with channel := request.channel.drop_receiver, answer := .dropped }
    | _ => none

/-! ### One request -/

/-- The replies of the calls on the sink, in order. -/
def deliveries (actions : List Action) : List Reply := actions.filterMap Action.reply

def sink_dropped (actions : List Action) : Bool :=
  actions.any fun
    | .drop_sink => true
    | _ => false

def timed_out (actions : List Action) : Bool :=
  actions.any fun
    | .timeout => true
    | _ => false

/-- The response that the first delivered reply, or its absence, comes to. -/
def outcome (crates : Crates) (actions : List Action) : Response :=
  (Started.Pending (deliveries actions).head?).response crates

/-- Where a request is after these actions. -/
structure After (crates : Crates) (actions : List Action) (request : HandedOff) : Prop where
  sink : request.sink =
    if sink_dropped actions then none else some ⟨if deliveries actions = [] then some .sender else none⟩
  sender : request.channel.sender = (!sink_dropped actions && decide (deliveries actions = []))
  sent : request.sent = (deliveries actions).take 1
  waits : request.answer = .waits →
    timed_out actions = false ∧ request.channel.receiver = true ∧ request.channel.message = (deliveries actions).head?
  returned : ∀ response, request.answer = .returned response →
    timed_out actions = false ∧ response = outcome crates actions ∧
      (deliveries actions = [] → sink_dropped actions = true)
  dropped : request.answer = .dropped → timed_out actions = true

theorem deliveries_append (actions more : List Action) :
    deliveries (actions ++ more) = deliveries actions ++ deliveries more := List.filterMap_append ..

theorem sink_dropped_append (actions more : List Action) :
    sink_dropped (actions ++ more) = (sink_dropped actions || sink_dropped more) := List.any_append

theorem timed_out_append (actions more : List Action) :
    timed_out (actions ++ more) = (timed_out actions || timed_out more) := List.any_append

theorem after_new (crates : Crates) : After crates [] .new where
  sink := rfl
  sender := rfl
  sent := rfl
  waits _ := ⟨rfl, rfl, rfl⟩
  returned _ answered := nomatch answered
  dropped answered := nomatch answered

theorem outcome_append {crates : Crates} {actions : List Action} (some_reply : deliveries actions ≠ [])
    (more : List Action) : outcome crates (actions ++ more) = outcome crates actions := by
  rw [outcome, outcome, deliveries_append, List.head?_append_of_ne_nil _ some_reply]

/-- What is known of a request depends on no more than its deliveries, the end of
    its sink and its timeout. -/
theorem after_congr {crates : Crates} {actions more : List Action} {request : HandedOff}
    (after : After crates actions request) (delivered : deliveries more = deliveries actions)
    (dropped : sink_dropped more = sink_dropped actions) (timed : timed_out more = timed_out actions) :
    After crates more request := by
  have same : outcome crates more = outcome crates actions := by rw [outcome, outcome, delivered]
  refine ⟨?_, ?_, ?_, ?_, ?_, ?_⟩
  · rw [dropped, delivered]
    exact after.sink
  · rw [dropped, delivered]
    exact after.sender
  · rw [delivered]
    exact after.sent
  · rw [timed, delivered]
    exact after.waits
  · rw [timed, same, delivered, dropped]
    exact after.returned
  · rw [timed]
    exact after.dropped

/-- A sink that is still there holds the sender until the first call. -/
theorem sink_there {crates : Crates} {actions : List Action} {request : HandedOff}
    (after : After crates actions request) {sink : ResponseSink} (there : request.sink = some sink) :
    sink_dropped actions = false ∧ sink = ⟨if deliveries actions = [] then some .sender else none⟩ := by
  have held := after.sink
  rw [there] at held
  cases gone : sink_dropped actions with
  | true =>
    rw [gone] at held
    cases held
  | false =>
    rw [gone] at held
    exact ⟨rfl, Option.some.inj held⟩

/-- A call on the sink adds its reply to the deliveries, and nothing else. -/
theorem call_delivers {action : Action} {reply : Reply} (calls : action.reply = some reply) (actions : List Action) :
    deliveries (actions ++ [action]) = deliveries actions ++ [reply] ∧
      sink_dropped (actions ++ [action]) = sink_dropped actions ∧
      timed_out (actions ++ [action]) = timed_out actions := by
  have quiet : sink_dropped [action] = false ∧ timed_out [action] = false := by
    cases action with
    | respond value is_middleware => exact ⟨rfl, rfl⟩
    | raised error is_middleware => exact ⟨rfl, rfl⟩
    | drop_sink | poll | timeout => cases calls
  refine ⟨?_, ?_, ?_⟩
  · rw [deliveries_append]
    simp [deliveries, calls]
  · rw [sink_dropped_append, quiet.1, Bool.or_false]
  · rw [timed_out_append, quiet.2, Bool.or_false]

/-- The first call on the sink sends its reply. -/
theorem first_call_after {crates : Crates} {actions : List Action} {request : HandedOff}
    (after : After crates actions request) (there : sink_dropped actions = false) (first : deliveries actions = [])
    {action : Action} {reply : Reply} (calls : action.reply = some reply) :
    After crates (actions ++ [action]) (request.deliver ⟨some .sender⟩ reply) := by
  obtain ⟨delivered, still_open, still_timed⟩ := call_delivers calls actions
  rw [first, List.nil_append] at delivered
  refine ⟨?_, ?_, ?_, ?_, ?_, ?_⟩
  · rw [still_open, there, delivered]
    rfl
  · rw [delivered]
    simp [HandedOff.deliver]
  · have none_sent := after.sent
    rw [first] at none_sent
    rw [delivered]
    simp [HandedOff.deliver, none_sent]
  · intro waits
    obtain ⟨in_time, receiver, -⟩ := after.waits waits
    rw [delivered, still_timed]
    exact ⟨in_time, (Channel.send_receiver ..).trans receiver, Channel.send_message receiver reply⟩
  · intro response answered
    obtain ⟨-, -, ended⟩ := after.returned response answered
    rw [there] at ended
    exact absurd (ended first) (by decide)
  · intro dropped
    rw [still_timed]
    exact after.dropped dropped

/-- A later one finds no sender, and changes nothing. -/
theorem later_call_after {crates : Crates} {actions : List Action} {request : HandedOff}
    (after : After crates actions request) (later : deliveries actions ≠ []) {action : Action} {reply : Reply}
    (calls : action.reply = some reply) : After crates (actions ++ [action]) (request.deliver ⟨none⟩ reply) := by
  change After crates (actions ++ [action]) request
  obtain ⟨delivered, still_open, still_timed⟩ := call_delivers calls actions
  have some_reply : deliveries (actions ++ [action]) ≠ [] := by
    rw [delivered]
    exact List.append_ne_nil_of_left_ne_nil later _
  refine ⟨?_, ?_, ?_, ?_, ?_, ?_⟩
  · rw [still_open, if_neg some_reply]
    simpa only [if_neg later] using after.sink
  · rw [still_open, decide_eq_false some_reply]
    simpa only [decide_eq_false later] using after.sender
  · rw [delivered, List.take_append_of_le_length (List.length_pos_of_ne_nil later)]
    exact after.sent
  · intro waits
    rw [still_timed, delivered, List.head?_append_of_ne_nil _ later]
    exact after.waits waits
  · intro response answered
    obtain ⟨in_time, same, -⟩ := after.returned response answered
    rw [still_timed, outcome_append later]
    exact ⟨in_time, same, fun none => absurd none some_reply⟩
  · intro dropped
    rw [still_timed]
    exact after.dropped dropped

theorem deliver_after {crates : Crates} {actions : List Action} {request : HandedOff}
    (after : After crates actions request) {sink : ResponseSink} (there : request.sink = some sink) {action : Action}
    {reply : Reply} (calls : action.reply = some reply) :
    After crates (actions ++ [action]) (request.deliver sink reply) := by
  obtain ⟨not_dropped, rfl⟩ := sink_there after there
  by_cases first : deliveries actions = []
  · rw [if_pos first]
    exact first_call_after after not_dropped first calls
  · rw [if_neg first]
    exact later_call_after after first calls

theorem drop_sink_after {crates : Crates} {actions : List Action} {request : HandedOff}
    (after : After crates actions request) {sink : ResponseSink} (there : request.sink = some sink) :
    After crates (actions ++ [Action.drop_sink])
      { request with
        sink := none
        channel := if sink.sender.isSome then request.channel.drop_sender else request.channel } := by
  obtain ⟨-, rfl⟩ := sink_there after there
  have delivered : deliveries (actions ++ [Action.drop_sink]) = deliveries actions := by simp [deliveries, Action.reply]
  have gone : sink_dropped (actions ++ [Action.drop_sink]) = true := by simp [sink_dropped]
  have timed : timed_out (actions ++ [Action.drop_sink]) = timed_out actions := by simp [timed_out]
  have same : outcome crates (actions ++ [Action.drop_sink]) = outcome crates actions := by
    rw [outcome, outcome, delivered]
  refine ⟨?_, ?_, ?_, ?_, ?_, ?_⟩
  · rw [gone]
    rfl
  · rw [gone]
    by_cases first : deliveries actions = []
    · simp [first, Channel.drop_sender]
    · simpa [first] using after.sender
  · rw [delivered]
    exact after.sent
  · intro waits
    rw [timed, delivered]
    have waiting := after.waits waits
    dsimp only
    split
    · exact waiting
    · exact waiting
  · intro response answered
    obtain ⟨in_time, found, -⟩ := after.returned response answered
    rw [timed, same]
    exact ⟨in_time, found, fun _ => gone⟩
  · intro dropped
    rw [timed]
    exact after.dropped dropped

/-- A look at the receiver finds the first reply, or the end of the sink without
    one, or has to wait on. -/
theorem poll_waits {crates : Crates} {actions : List Action} {request : HandedOff}
    (after : After crates actions request) (waits : request.answer = .waits) :
    request.act crates .poll =
      if deliveries actions = [] ∧ sink_dropped actions = false then some request
      else some { request with
        channel := request.channel.drop_receiver
        answer := .returned (outcome crates actions) } := by
  obtain ⟨-, -, message⟩ := after.waits waits
  have sender := after.sender
  unfold HandedOff.act outcome
  dsimp only
  rw [waits]
  dsimp only
  rw [Channel.poll, message]
  cases found : (deliveries actions).head? with
  | some reply =>
    have answers : ¬(deliveries actions = [] ∧ sink_dropped actions = false) := by
      rintro ⟨none, -⟩
      simp [none] at found
    rw [if_neg answers]
    rfl
  | none =>
    have none_delivered : deliveries actions = [] := List.head?_eq_none_iff.mp found
    rw [sender, none_delivered]
    cases sink_dropped actions <;> rfl

theorem poll_after {crates : Crates} {actions : List Action} {request next : HandedOff}
    (after : After crates actions request) (acted : request.act crates .poll = some next) :
    After crates (actions ++ [Action.poll]) next := by
  have delivered : deliveries (actions ++ [Action.poll]) = deliveries actions := by simp [deliveries, Action.reply]
  have dropped : sink_dropped (actions ++ [Action.poll]) = sink_dropped actions := by simp [sink_dropped]
  have timed : timed_out (actions ++ [Action.poll]) = timed_out actions := by simp [timed_out]
  have still := after_congr after delivered dropped timed
  have waits : request.answer = .waits := by
    cases answer : request.answer with
    | waits => rfl
    | returned response => simp [HandedOff.act, answer] at acted
    | dropped => simp [HandedOff.act, answer] at acted
  rw [poll_waits after waits] at acted
  split_ifs at acted with pending
  · cases acted
    exact still
  · cases acted
    refine ⟨still.sink, still.sender, still.sent, nofun, ?_, nofun⟩
    rintro response ⟨⟩
    refine ⟨(still.waits waits).1, by rw [outcome, outcome, delivered], fun none => ?_⟩
    rw [delivered] at none
    rw [dropped]
    by_contra there
    exact pending ⟨none, Bool.eq_false_of_not_eq_true there⟩

theorem timeout_after {crates : Crates} {actions : List Action} {request next : HandedOff}
    (after : After crates actions request) (acted : request.act crates .timeout = some next) :
    After crates (actions ++ [Action.timeout]) next := by
  have delivered : deliveries (actions ++ [Action.timeout]) = deliveries actions := by simp [deliveries, Action.reply]
  have dropped : sink_dropped (actions ++ [Action.timeout]) = sink_dropped actions := by simp [sink_dropped]
  have timed : timed_out (actions ++ [Action.timeout]) = true := by simp [timed_out]
  cases answer : request.answer with
  | returned response => simp [HandedOff.act, answer] at acted
  | dropped => simp [HandedOff.act, answer] at acted
  | waits =>
    simp only [HandedOff.act, answer] at acted
    cases acted
    refine ⟨?_, ?_, ?_, nofun, nofun, fun _ => timed⟩
    · rw [delivered, dropped]
      exact after.sink
    · rw [delivered, dropped]
      exact after.sender
    · rw [delivered]
      exact after.sent

theorem act_after {crates : Crates} {actions : List Action} {request next : HandedOff}
    (after : After crates actions request) {action : Action} (acted : request.act crates action = some next) :
    After crates (actions ++ [action]) next := by
  cases action with
  | respond value is_middleware =>
    obtain ⟨sink, there, rfl⟩ := Option.map_eq_some_iff.mp acted
    exact deliver_after after there rfl
  | raised error is_middleware =>
    obtain ⟨sink, there, rfl⟩ := Option.map_eq_some_iff.mp acted
    exact deliver_after after there rfl
  | drop_sink =>
    obtain ⟨sink, there, rfl⟩ := Option.map_eq_some_iff.mp acted
    exact drop_sink_after after there
  | poll => exact poll_after after acted
  | timeout => exact timeout_after after acted

/-- So a run keeps it, from wherever a request is. -/
theorem run_after {crates : Crates} {before actions : List Action} {request last : HandedOff}
    (after : After crates before request) (ran : run (HandedOff.act crates) request actions = some last) :
    After crates (before ++ actions) last := by
  induction actions generalizing before request with
  | nil =>
    cases ran
    rwa [List.append_nil]
  | cons action actions ih =>
    obtain ⟨next, acted, rest⟩ := run_cons.mp ran
    rw [List.append_cons]
    exact ih (act_after after acted) rest

/-! ### The calls of the coroutine -/

theorem loop_responded {machinery : Machinery} {request : PyRequest} {stages : List Entry} {index : Nat}
    {started : Option Object} {is_middleware : Bool} {reply : Reply}
    (responded : (machinery.loop request stages index started is_middleware).exit = .responded reply) :
    ∃ value is_middleware, reply = stage_response value is_middleware := by
  induction stages generalizing index started is_middleware with
  | nil => cases responded
  | cons entry stages ih =>
    rw [Machinery.loop] at responded
    split at responded
    · cases responded
    · split at responded
      · cases responded
      · split at responded
        · exact ih responded
        · cases responded
          exact ⟨_, _, rfl⟩

/-- `drive` calls its sink as it says, at most once, and its end is the end of
    the sink; the answer that then finds the receiver is the one that `answer`
    makes of what was sent. -/
theorem driven_answer (machinery : Machinery) (crates : Crates) (stages : List Entry) (first : Nat)
    (request : PyRequest) (timeout : Option Nat) (started : Object) :
    ∃ calls last, deliveries calls = (machinery.drive stages first request timeout started).sent.toList ∧
      run (HandedOff.act crates) .new (calls ++ [Action.drop_sink, .poll]) = some last ∧
      last.answer =
        .returned ((Started.Pending (machinery.drive stages first request timeout started).sent).response crates) := by
  have silent : ∃ calls last, deliveries calls = [] ∧
      run (HandedOff.act crates) .new (calls ++ [Action.drop_sink, .poll]) = some last ∧
      last.answer = .returned ((Started.Pending none).response crates) := ⟨[], _, rfl, rfl, rfl⟩
  unfold Machinery.drive
  split
  · exact silent
  · dsimp only
    split
    · rename_i responded
      obtain ⟨value, is_middleware, rfl⟩ := loop_responded responded
      exact ⟨[.respond value is_middleware], _, rfl, rfl, rfl⟩
    · exact silent
    · rename_i error raised
      split
      · exact ⟨[.raised (machinery.leave timeout error) _], _, rfl, rfl, rfl⟩
      · exact silent

/-! ### Any number of requests -/

/-- Requests are handed off at any time, and each one acts on its own. -/
def requests (crates : Crates) : System Unit HandedOff Unit Action where
  start _ := .new
  act _ request action := (request.act crates action).map ((), ·)
  in_progress _ := false
  room := 1

/-- What a request has sent, and what its answer is or will be. -/
structure OneAnswer (crates : Crates) (actions : List Action) (request : HandedOff) : Prop where
  sent : request.sent = (deliveries actions).take 1
  later : deliveries actions ≠ [] → ∀ {action : Action} {next : HandedOff}, action.reply.isSome →
    request.act crates action = some next → next = request
  returned : ∀ response, request.answer = .returned response →
    response = outcome crates actions ∧ (deliveries actions = [] → sink_dropped actions = true)
  dropped : request.answer = .dropped ↔ timed_out actions = true
  /-- It returns as soon as there is a reply or no sink, and waits for a sender
      that is there. -/
  waits : request.answer = .waits →
    if deliveries actions = [] ∧ sink_dropped actions = false then
      request.sink = some ⟨some .sender⟩ ∧ request.act crates .poll = some request
    else
      ∃ next, request.act crates .poll = some next ∧ next.answer = .returned (outcome crates actions)
  /-- No call on the sink changes where the answer is, with the receiver there or
      not. -/
  called : ∀ {action : Action} {next : HandedOff}, action.reply.isSome → request.act crates action = some next →
    next.answer = request.answer

theorem deliver_answer (request : HandedOff) (sink : ResponseSink) (reply : Reply) :
    (request.deliver sink reply).answer = request.answer := by
  unfold HandedOff.deliver
  split <;> rfl

/-- A call on the sink is a delivery. -/
theorem act_call {crates : Crates} {request next : HandedOff} {action : Action} (calls : action.reply.isSome)
    (acted : request.act crates action = some next) :
    ∃ sink reply, request.sink = some sink ∧ next = request.deliver sink reply := by
  cases action with
  | respond value is_middleware =>
    obtain ⟨sink, there, same⟩ := Option.map_eq_some_iff.mp acted
    exact ⟨sink, _, there, same.symm⟩
  | raised error is_middleware =>
    obtain ⟨sink, there, same⟩ := Option.map_eq_some_iff.mp acted
    exact ⟨sink, _, there, same.symm⟩
  | drop_sink | poll | timeout => cases calls

theorem one_answer_of_after {crates : Crates} {actions : List Action} {request : HandedOff}
    (after : After crates actions request) : OneAnswer crates actions request where
  sent := after.sent
  later := by
    intro delivered action next calls acted
    obtain ⟨sink, reply, there, rfl⟩ := act_call calls acted
    obtain ⟨-, rfl⟩ := sink_there after there
    rw [if_neg delivered]
    rfl
  returned := by
    intro response answered
    exact (after.returned response answered).2
  dropped := by
    refine ⟨after.dropped, fun timed => ?_⟩
    cases answer : request.answer with
    | dropped => rfl
    | waits => exact absurd (timed ▸ (after.waits answer).1) (by decide)
    | returned response => exact absurd (timed ▸ (after.returned response answer).1) (by decide)
  waits := by
    intro waits
    have polled := poll_waits after waits
    split_ifs at polled ⊢ with pending
    · refine ⟨?_, polled⟩
      rw [after.sink, pending.1, pending.2]
      rfl
    · exact ⟨_, polled, rfl⟩
  called := by
    intro action next calls acted
    obtain ⟨sink, reply, -, rfl⟩ := act_call calls acted
    exact deliver_answer request sink reply

/-- In any run of any number of requests, each of them is where its own actions
    lead it; it sends at most the first reply and answers with that; and what one
    request does is nothing to another. -/
theorem first_delivery_answers (crates : Crates) {events : List (Event Unit Action)} {last : State Unit HandedOff}
    (ran : run (step (requests crates)) ⟨(), []⟩ events = some last) {index : Nat} {request : HandedOff}
    (found : last.tasks[index]? = some request) :
    run (HandedOff.act crates) .new (own index events) = some request ∧
      OneAnswer crates (own index events) request ∧
      ∀ {action : Action} {next : State Unit HandedOff}, step (requests crates) last (.act index action) = some next →
        ∀ other, other ≠ index → next.tasks[other]? = last.tasks[other]? := by
  obtain ⟨before, origin, led⟩ := alone (HandedOff.act crates) (fun _ _ _ => rfl) ran found
  have started : before = .new := by
    obtain listed | ⟨-, input, started⟩ := origin
    · cases listed
    · exact started
  subst started
  refine ⟨led, ?_, ?_⟩
  · exact one_answer_of_after (run_after (after_new crates) led)
  · intro action next stepped other another
    exact step_others stepped another

/-! A handler that responds and then raises, beside one that is too slow. -/

def racing : List (Event Unit Action) :=
  [.arrive (), .arrive (), .act 1 .timeout,
    .act 0 (.respond (.value (.response ⟨200, [], utf8 (lit "welcome")⟩)) false),
    .act 1 (.raised (.exception (lit "KeyError")) false), .act 0 (.raised .cancelled false),
    .act 1 .drop_sink, .act 0 .drop_sink, .act 0 .poll]

theorem late_raise_ignored :
    ∃ last request, run (step (requests plainCrates)) ⟨(), []⟩ racing = some last ∧ last.tasks[0]? = some request ∧
      OneAnswer plainCrates (own 0 racing) request ∧ request.sent.length = 1 ∧
      request.answer = .returned ⟨200, [], utf8 (lit "welcome")⟩ :=
  ⟨_, _, rfl, rfl, (first_delivery_answers plainCrates rfl rfl).2.1, rfl, rfl⟩

end SiphonHttp.Dispatch
