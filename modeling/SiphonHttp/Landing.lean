import SiphonHttp.Accounts

/-!
Requests in flight come to their ends: each step of a request lowers its rank
(`act_rank`), and one without an answer goes on by itself (`goes_on`), so it
ends in a bounded number of steps whatever the others do (`every_flight_ends`).
What the functions of `Dispatch` compute in one go is one of these ends
(`answer_in_flight`).
-/
namespace SiphonHttp.Flight
open Text Dispatch Oneshot Runs Tasks Guards

/-! ### The end of a request -/

/-- How many steps are left to the script side of a request. -/
def InFlight.place_rank (flight : InFlight) : Nat :=
  match flight.place with
  | .queued => flight.route.chain.length + 6
  | .job index => flight.route.chain.length - index + 5
  | .drive index _ _ => flight.route.chain.length - index + 4
  | .leaving .. => 3
  | .ended _ => 2
  | .freed => 1
  | .done => 0

/-- And to its task. -/
def InFlight.wait_rank (flight : InFlight) : Nat :=
  match flight.wait with
  | .job => 2
  | .receiver => if flight.handed.answer = .waits then 1 else 0
  | .returned _ | .dropped => 0

def InFlight.rank (flight : InFlight) : Nat := flight.place_rank + flight.wait_rank

section
variable {crates : Crates} {flight next : InFlight}

theorem ends_rank (inside : Bool) (left : Except PyErr Unit) : (flight.ends inside left).place_rank ≤ 2 := by
  cases inside with
  | true => exact Nat.le_refl 2
  | false => exact Nat.le_succ 1

theorem called_answer {action : Dispatch.Action} {handed : HandedOff} (calls : action.reply.isSome)
    (called : flight.handed.act crates action = some handed) : handed.answer = flight.handed.answer := by
  obtain ⟨sink, reply, -, rfl⟩ := act_call calls called
  exact deliver_answer flight.handed sink reply

theorem wait_rank_congr (wait : next.wait = flight.wait) (answer : next.handed.answer = flight.handed.answer) :
    next.wait_rank = flight.wait_rank := by
  unfold InFlight.wait_rank
  rw [wait, answer]

theorem coroutine_rank {is_middleware inside : Bool}
    (place : (∃ index, flight.place = .drive index is_middleware inside) ∨
      flight.place = .leaving is_middleware inside) : 2 < flight.place_rank := by
  unfold InFlight.place_rank
  rcases place with ⟨index, place⟩ | place
  · rw [place]
    dsimp only
    omega
  · rw [place]
    exact Nat.lt_succ_self 2

theorem before_rank (before : flight.place = .queued ∨ ∃ index, flight.place = .job index) :
    0 < flight.place_rank := by
  unfold InFlight.place_rank
  rcases before with place | ⟨index, place⟩
  · rw [place]
    dsimp only
    omega
  · rw [place]
    dsimp only
    omega

theorem moves_rank (moved : Moves crates flight next) :
    next.route = flight.route ∧ next.place_rank < flight.place_rank ∧ next.wait_rank = flight.wait_rank := by
  have inside : ∀ {index : Nat} {stage : Stage}, flight.route.chain[index]? = some stage →
      index < flight.route.chain.length := fun found => (List.getElem?_eq_some_iff.mp found).1
  cases moved with
  | fails before => exact ⟨rfl, before_rank before, rfl⟩
  | answers_internal before => exact ⟨rfl, before_rank before, rfl⟩
  | begins place =>
    refine ⟨rfl, ?_, rfl⟩
    unfold InFlight.place_rank
    rw [place]
    dsimp only
    omega
  | job_passes place found middleware =>
    have := inside found
    refine ⟨rfl, ?_, rfl⟩
    unfold InFlight.place_rank InFlight.records
    rw [place]
    dsimp only
    omega
  | job_decides place found decides => exact ⟨rfl, before_rank (Or.inr ⟨_, place⟩), rfl⟩
  | hands_off pool place found =>
    refine ⟨rfl, ?_, rfl⟩
    unfold InFlight.place_rank
    rw [place]
    dsimp only
    omega
  | drive_passes place found middleware =>
    obtain ⟨stage, there, -, -⟩ := stage_of_entry found
    have := inside there
    refine ⟨rfl, ?_, rfl⟩
    unfold InFlight.place_rank InFlight.records
    rw [place]
    dsimp only
    omega
  | drive_responds place found decides called =>
    refine ⟨rfl, ?_, wait_rank_congr rfl (called_answer rfl called)⟩
    unfold InFlight.place_rank
    rw [place]
    dsimp only
    omega
  | drive_raises place found called =>
    exact ⟨rfl, Nat.lt_of_le_of_lt (ends_rank ..) (coroutine_rank (Or.inl ⟨_, place⟩)),
      wait_rank_congr rfl (called_answer rfl called)⟩
  | drive_fails place found =>
    exact ⟨rfl, Nat.lt_of_le_of_lt (ends_rank ..) (coroutine_rank (Or.inl ⟨_, place⟩)), rfl⟩
  | raises place called =>
    exact ⟨rfl, Nat.lt_of_le_of_lt (ends_rank ..) (coroutine_rank place),
      wait_rank_congr rfl (called_answer rfl called)⟩
  | ends left place => exact ⟨rfl, Nat.lt_of_le_of_lt (ends_rank ..) (coroutine_rank place), rfl⟩
  | returns place =>
    unfold InFlight.returns InFlight.place_rank
    rw [place]
    split <;> exact ⟨rfl, Nat.lt_succ_self 1, rfl⟩
  | drops_sink place dropped =>
    obtain ⟨sink, -, rfl⟩ := Option.map_eq_some_iff.mp dropped
    refine ⟨rfl, ?_, wait_rank_congr rfl rfl⟩
    unfold InFlight.place_rank
    rw [place]
    exact Nat.zero_lt_one

/-- A wait that is over is not resumed. -/
theorem act_waits {handed : HandedOff} {action : Dispatch.Action}
    (ends : action = .timeout ∨ action = .poll ∧ flight.handed.channel.poll ≠ .pending)
    (acted : flight.handed.act crates action = some handed) :
    flight.handed.answer = .waits ∧ handed.answer ≠ .waits := by
  rcases ends with rfl | ⟨rfl, ready⟩
  · cases answer : flight.handed.answer with
    | waits =>
      simp only [HandedOff.act, answer] at acted
      cases acted
      exact ⟨rfl, by simp⟩
    | returned response => simp [HandedOff.act, answer] at acted
    | dropped => simp [HandedOff.act, answer] at acted
  · cases answer : flight.handed.answer with
    | waits =>
      simp only [HandedOff.act, answer] at acted
      split at acted
      · rename_i pending
        exact absurd pending ready
      · cases acted
        exact ⟨rfl, by simp⟩
      · cases acted
        exact ⟨rfl, by simp⟩
    | returned response => simp [HandedOff.act, answer] at acted
    | dropped => simp [HandedOff.act, answer] at acted

theorem receiver_rank {handed : HandedOff} (wait : flight.wait = .receiver)
    (ended : flight.handed.answer = .waits ∧ handed.answer ≠ .waits) :
    InFlight.wait_rank { flight with handed := handed } < flight.wait_rank := by
  unfold InFlight.wait_rank
  rw [wait]
  dsimp only
  rw [if_pos ended.1, if_neg ended.2]
  exact Nat.zero_lt_one

theorem job_rank (wait : flight.wait = .job) : flight.wait_rank = 2 := by
  unfold InFlight.wait_rank
  rw [wait]

theorem awaits_rank (awaits : Awaits crates flight next) :
    next.route = flight.route ∧ next.place_rank = flight.place_rank ∧ next.wait_rank < flight.wait_rank := by
  cases awaits with
  | job_failed wait job =>
    rw [job_rank wait]
    exact ⟨rfl, rfl, Nat.zero_lt_two⟩
  | job_answered wait job =>
    rw [job_rank wait]
    exact ⟨rfl, rfl, Nat.zero_lt_two⟩
  | receives wait job =>
    rw [job_rank wait]
    refine ⟨rfl, rfl, ?_⟩
    unfold InFlight.wait_rank
    dsimp only
    split <;> decide
  | polls wait ready polled =>
    exact ⟨rfl, rfl, receiver_rank wait (act_waits (Or.inr ⟨rfl, by rw [ready]; simp⟩) polled)⟩
  | dropped wait timeout =>
    rw [job_rank wait]
    exact ⟨rfl, rfl, Nat.zero_lt_two⟩
  | times_out wait timeout => exact ⟨rfl, rfl, receiver_rank wait (act_waits (Or.inl rfl) timeout)⟩

theorem act_rank {action : Action} (acted : flight.act crates action = some next) :
    next.route = flight.route ∧ next.rank < flight.rank := by
  unfold InFlight.rank
  rcases act_cases acted with moved | awaits
  · obtain ⟨route, lower, same⟩ := moves_rank moved
    exact ⟨route, by omega⟩
  · obtain ⟨route, same, lower⟩ := awaits_rank awaits
    exact ⟨route, by omega⟩

/-! A request that is not answered goes on by itself. -/

/-- The step that a request takes by itself, with a pool or without: nothing is
    refused or thrown, and a body comes to what it comes to. -/
def InFlight.own_step (flight : InFlight) (pool : Bool) : Action :=
  match flight.place with
  | .queued => .begins (.ok ())
  | .job index =>
    match flight.route.chain[index]? with
    | some stage =>
      if stage.is_async && stage.callable.suspends then .hands_off pool (.ok ())
      else .executed (stage.callable.body flight.request) false
    | none => .exits
  | .drive index _ _ =>
    match flight.route.stages[index]? with
    | some entry => .executed (entry.handler.body flight.request) false
    | none => .exits
  | .leaving .. => .exits
  | .ended _ => .returns (.ok ())
  | .freed => .drops_sink
  | .done => .polls

theorem own_step_not_timed (flight : InFlight) (pool : Bool) : flight.own_step pool ≠ .times_out := by
  unfold InFlight.own_step
  split
  · nofun
  · split
    · split_ifs <;> nofun
    · nofun
  · split <;> nofun
  all_goals nofun

theorem job_goes_on (pool : Bool) {index : Nat} (place : flight.place = .job index) :
    (flight.act crates (flight.own_step pool)).isSome := by
  unfold InFlight.own_step
  rw [place]
  dsimp only
  cases found : flight.route.chain[index]? with
  | none =>
    have past := List.getElem?_eq_none_iff.mp found
    simp [InFlight.act, place, past]
  | some stage =>
    dsimp only
    split_ifs with suspends
    · simp [InFlight.act, place, InFlight.hands_off, found, suspends]
    · simp only [InFlight.act, place, InFlight.executes_in_job, found]
      rw [if_neg suspends]
      cases stage.callable.body flight.request with
      | error => rfl
      | ok value =>
        dsimp only
        split_ifs <;> rfl

/-- As long as the sink is not dropped, it can be called. -/
theorem calls_sink {actions : List Dispatch.Action} (after : After crates actions flight.handed)
    (held : sink_dropped actions = false) {action : Dispatch.Action} (call : action.reply.isSome ∨ action = .drop_sink) :
    (flight.calls crates action).isSome := by
  have there := after.sink
  rw [held] at there
  unfold InFlight.calls
  cases action with
  | respond | raised | drop_sink => simp [HandedOff.act, there]
  | poll | timeout => simp [Dispatch.Action.reply] at call

theorem drive_goes_on {actions : List Dispatch.Action} (after : After crates actions flight.handed)
    (held : sink_dropped actions = false) (pool : Bool) {index : Nat} {is_middleware inside : Bool}
    (place : flight.place = .drive index is_middleware inside) :
    (flight.act crates (flight.own_step pool)).isSome := by
  unfold InFlight.own_step
  rw [place]
  dsimp only
  cases found : flight.route.stages[index]? with
  | none =>
    have past := List.getElem?_eq_none_iff.mp found
    simp [InFlight.act, place, past]
  | some entry =>
    simp only [InFlight.act, place, InFlight.executes_in_drive, found]
    have recorded : After crates actions (flight.records entry.handler (entry.handler.body flight.request)).handed :=
      after
    cases came : entry.handler.body flight.request with
    | ok value =>
      rw [came] at recorded
      dsimp only
      split_ifs
      · rfl
      · rw [Option.isSome_map]
        exact calls_sink recorded held (Or.inl rfl)
    | error error =>
      rw [came] at recorded
      dsimp only
      unfold InFlight.raises
      split_ifs
      · rw [Option.isSome_map]
        exact calls_sink recorded held (Or.inl rfl)
      · rfl

/-- Behind the end of the sink the receiver waits no longer. -/
theorem receiver_goes_on {actions : List Dispatch.Action} (after : After crates actions flight.handed)
    (dropped : sink_dropped actions = true) (wait : flight.wait = .receiver) (waits : flight.handed.answer = .waits) :
    (flight.act crates .polls).isSome := by
  have sender : flight.handed.channel.sender = false := by
    rw [after.sender, dropped]
    rfl
  have polled := poll_waits after waits
  rw [if_neg (by rw [dropped]; simp)] at polled
  show (flight.polls crates).isSome
  unfold InFlight.polls
  rw [wait]
  dsimp only
  split
  · rename_i pending
    unfold Channel.poll at pending
    rw [sender] at pending
    split at pending <;> cases pending
  · unfold InFlight.calls
    rw [polled]
    rfl

theorem done_goes_on (sound : Sound crates flight) (place : flight.place = .done)
    (unanswered : flight.answer = .waits) : (flight.act crates .polls).isSome := by
  obtain ⟨-, -, waits, actions, after, stands⟩ := sound
  unfold Stands at stands
  rw [place] at stands
  unfold InFlight.answer at unanswered
  cases wait : flight.wait with
  | returned response =>
    rw [wait] at unanswered
    cases unanswered
  | dropped =>
    rw [wait] at unanswered
    cases unanswered
  | receiver =>
    rw [wait] at waits unanswered
    have job : flight.job = .handed_off := waits
    rw [job] at stands
    exact receiver_goes_on after stands.1 wait unanswered
  | job =>
    show (flight.polls crates).isSome
    unfold InFlight.polls
    rw [wait]
    cases job : flight.job with
    | running =>
      rw [job] at stands
      exact stands.elim
    | failed | answered | handed_off => rfl

theorem goes_on (sound : Sound crates flight) (unanswered : flight.answer = .waits) (pool : Bool) :
    (flight.act crates (flight.own_step pool)).isSome := by
  obtain ⟨actions, after, stands⟩ := sound.known
  unfold Stands at stands
  cases place : flight.place with
  | queued | leaving | ended => simp [InFlight.own_step, InFlight.act, place]
  | job index => exact job_goes_on pool place
  | drive index is_middleware inside =>
    rw [place] at stands
    exact drive_goes_on after stands.2.2.2 pool place
  | freed =>
    rw [place] at stands
    have dropped := calls_sink after stands.2.1 (Or.inr rfl)
    simpa [InFlight.own_step, InFlight.act, place] using dropped
  | done =>
    rw [InFlight.own_step, place]
    exact done_goes_on sound place unanswered

end

theorem run_route {crates : Crates} {flight last : InFlight} {actions : List Action}
    (ran : run (InFlight.act crates) flight actions = some last) : last.route = flight.route :=
  run_preserves (fun state => state.route = flight.route) (fun acted same => (act_rank acted).1.trans same) ran rfl

/-- In any run of any number of requests, a request takes no more steps of its
    own than there are stages and eight; and as long as it has no answer, it goes on
    by itself, with a pool or without. -/
theorem every_flight_ends (crates : Crates) {events : List (Event (Route × PyRequest) Action)}
    {last : State Unit InFlight} (ran : run (step (flights crates)) ⟨(), []⟩ events = some last) {index : Nat}
    {flight : InFlight} (found : last.tasks[index]? = some flight) :
    (own index events).length ≤ flight.route.chain.length + 8 ∧
      (flight.answer = .waits → ∀ pool, flight.own_step pool ≠ .times_out ∧
        (flight.act crates (flight.own_step pool)).isSome) := by
  obtain ⟨before, origin, led⟩ := alone (InFlight.act crates) (fun _ _ _ => rfl) ran found
  obtain ⟨route, request, rfl⟩ : ∃ route request, before = .new route request := by
    obtain listed | ⟨-, input, started⟩ := origin
    · cases listed
    · exact ⟨input.1, input.2, started⟩
  refine ⟨?_, fun unanswered pool => ⟨own_step_not_timed flight pool, ?_⟩⟩
  · have bounded := run_length_le InFlight.rank (fun acted => (act_rank acted).2) led
    have same : (InFlight.new route request).rank = flight.route.chain.length + 8 := by
      rw [run_route led]
      rfl
    omega
  · exact goes_on (flights_sound ran flight (List.mem_of_getElem? found)) unanswered pool

/-- Behind its login check, the request can still go on to its answer. -/
theorem waiting_goes_on :
    ∃ last flight, run (step (flights plainCrates)) ⟨(), []⟩ (overlapping.take 8) = some last ∧
      last.tasks[0]? = some flight ∧ (own 0 (overlapping.take 8)).length ≤ flight.route.chain.length + 8 ∧
      (flight.act plainCrates (flight.own_step true)).isSome :=
  ⟨_, _, rfl, rfl, (@every_flight_ends plainCrates (overlapping.take 8) _ rfl 0 _ rfl).1,
    ((@every_flight_ends plainCrates (overlapping.take 8) _ rfl 0 _ rfl).2 rfl true).2⟩

/-! ### From start to response in one go -/

section
variable (machinery : Machinery) (crates : Crates) {flight : InFlight}

/-- What `drive` makes of its loop. -/
def driven (timeout : Option Nat) (loop : Loop) : Driven :=
  match loop.exit with
  | .responded reply => ⟨some reply, .ok (), loop.ran⟩
  | .finished => ⟨none, .ok (), loop.ran⟩
  | .raised error =>
    let error := machinery.leave timeout error
    if error.is_exception then ⟨some (stage_raised loop.is_middleware), .ok (), loop.ran⟩
    else ⟨none, .error error, loop.ran⟩

/-- A request whose coroutine ended so. -/
def InFlight.lands (flight : InFlight) (inside : Bool) (driven : Driven) : InFlight :=
  InFlight.ends
    { flight with
      ran := flight.ran ++ driven.ran
      handed := driven.sent.elim .new (HandedOff.new.deliver ⟨some .sender⟩) }
    inside driven.left

theorem drive_driven {stages : List Entry} {first : Nat} {entry : Entry} (found : stages[first]? = some entry)
    (request : PyRequest) (timeout : Option Nat) (started : Object) :
    machinery.drive stages first request timeout started =
      driven machinery timeout
        (machinery.loop request (stages.drop first) first (some started) entry.is_middleware) := by
  unfold Machinery.drive driven
  rewrite [found]
  rfl

theorem leave_leave {timeout : Option Nat} {inside : Bool} (timed : timeout.isSome = !inside) (error : PyErr) :
    InFlight.leave inside machinery.expired error = machinery.leave timeout error := by
  cases error with
  | cancelled => simp [InFlight.leave, Machinery.leave, timed]
  | exception name => rfl
  | base name => rfl

/-- An exception leaves the coroutine as it leaves the loop. -/
theorem raises_lands (handed : flight.handed = .new) (is_middleware inside : Bool) (error : PyErr) :
    flight.raises crates is_middleware inside error =
      some (flight.lands inside
        (if error.is_exception then ⟨some (stage_raised is_middleware), .ok (), []⟩ else ⟨none, .error error, []⟩)) := by
  unfold InFlight.raises InFlight.calls InFlight.lands
  split
  · rw [handed, List.append_nil]
    rfl
  · rw [List.append_nil]
    simp [← handed]

theorem run_one {action : Action} {next : InFlight} (acted : flight.act crates action = some next) :
    run (InFlight.act crates) flight [action] = some next :=
  run_cons.mpr ⟨next, acted, rfl⟩

/-! The loop of `drive`, stage by stage. -/

section
variable {request : PyRequest} {entry : Entry} {stages : List Entry} {index : Nat} {started : Option Object}
  {is_middleware : Bool}

theorem loop_thrown {error : PyErr} (thrown : machinery.thrown_before index = some error) :
    machinery.loop request (entry :: stages) index started is_middleware = ⟨.raised error, is_middleware, []⟩ := by
  rw [Machinery.loop, thrown]

theorem loop_raises (quiet : machinery.thrown_before index = none) {error : PyErr}
    (evaluated : machinery.value index entry request started =
      (.error error, [⟨entry.handler, request, .error error⟩])) :
    machinery.loop request (entry :: stages) index started is_middleware =
      ⟨.raised error, entry.is_middleware, [⟨entry.handler, request, .error error⟩]⟩ := by
  rw [Machinery.loop, quiet]
  dsimp only
  rw [evaluated]

theorem loop_passes (quiet : machinery.thrown_before index = none) {value : Value}
    (evaluated : machinery.value index entry request started =
      (.ok (.value value), [⟨entry.handler, request, .ok value⟩]))
    (continues : (entry.is_middleware && (Object.value value).is_none) = true) :
    machinery.loop request (entry :: stages) index started is_middleware =
      let rest := machinery.loop request stages (index + 1) none entry.is_middleware
      { rest with ran := ⟨entry.handler, request, .ok value⟩ :: rest.ran } := by
  rw [Machinery.loop, quiet]
  dsimp only
  rw [evaluated]
  dsimp only
  rw [if_pos continues]
  rfl

theorem loop_responds (quiet : machinery.thrown_before index = none) {value : Value}
    (evaluated : machinery.value index entry request started =
      (.ok (.value value), [⟨entry.handler, request, .ok value⟩]))
    (decides : ¬(entry.is_middleware && (Object.value value).is_none) = true) :
    machinery.loop request (entry :: stages) index started is_middleware =
      ⟨.responded (stage_response (.value value) entry.is_middleware), entry.is_middleware,
        [⟨entry.handler, request, .ok value⟩]⟩ := by
  rw [Machinery.loop, quiet]
  dsimp only
  rw [evaluated]
  dsimp only
  rw [if_neg decides]

end

/-- Executed bodies come in front of those that the rest executes. -/
theorem driven_ran (timeout : Option Nat) (loop : Loop) (ran : List Ran) :
    driven machinery timeout { loop with ran := ran ++ loop.ran } =
      { driven machinery timeout loop with ran := ran ++ (driven machinery timeout loop).ran } := by
  unfold driven
  cases loop.exit with
  | responded reply => rfl
  | finished => rfl
  | raised error =>
    dsimp only
    split <;> rfl

theorem lands_records {callable : Callable} {returned : Except PyErr Value} (place : Place) (inside : Bool)
    (driven : Driven) :
    InFlight.lands { flight.records callable returned with place := place } inside driven =
      flight.lands inside { driven with ran := ⟨callable, flight.request, returned⟩ :: driven.ran } := by
  simp [InFlight.lands, InFlight.ends, InFlight.records]

/-- From the index on, the loop takes the coroutine where it takes `drive`. -/
theorem loop_lands {timeout : Option Nat} {inside : Bool} (timed : timeout.isSome = !inside) {stages : List Entry}
    {index : Nat} {started : Option Object} {is_middleware : Bool}
    (here : flight.route.stages.drop index = stages) (place : flight.place = .drive index is_middleware inside)
    (handed : flight.handed = .new) (own : ∀ entry ∈ stages.head?, Own entry.handler flight.request started) :
    ∃ actions, run (InFlight.act crates) flight actions =
      some (flight.lands inside
        (driven machinery timeout (machinery.loop flight.request stages index started is_middleware))) := by
  induction stages generalizing flight index started is_middleware with
  | nil =>
    refine ⟨[.exits], run_one crates ?_⟩
    have finished : flight.route.stages.length ≤ index := List.drop_eq_nil_iff.mp here
    have same : flight.lands inside ⟨none, .ok (), []⟩ = flight.ends inside (.ok ()) := by
      simp [InFlight.lands, ← handed]
    simp only [InFlight.act, place, if_pos finished]
    rw [← same]
    rfl
  | cons entry stages ih =>
    obtain ⟨-, found, rest⟩ := drop_cons here
    cases thrown : machinery.thrown_before index with
    | some error =>
      refine ⟨[.thrown error machinery.expired], run_one crates ?_⟩
      rw [loop_thrown machinery thrown]
      simp only [InFlight.act, place]
      rw [raises_lands crates handed, leave_leave machinery timed]
      rfl
    | none =>
      obtain ⟨returned, evaluated, -⟩ :=
        value_once machinery index (stages_marked flight.route entry (List.mem_of_getElem? found)) (own entry rfl)
      cases returned with
      | error error =>
        refine ⟨[.executed (.error error) machinery.expired], run_one crates ?_⟩
        rw [loop_raises machinery thrown evaluated]
        simp only [InFlight.act, place, InFlight.executes_in_drive, found]
        rw [@raises_lands crates (flight.records entry.handler (.error error)) handed, leave_leave machinery timed]
        unfold driven
        dsimp only
        split <;> simp [InFlight.lands, InFlight.records]
      | ok value =>
        by_cases continues : (entry.is_middleware && (Object.value value).is_none) = true
        · obtain ⟨actions, led⟩ := @ih
            { flight.records entry.handler (.ok value) with place := .drive (index + 1) entry.is_middleware inside }
            (index + 1) none entry.is_middleware rest rfl handed (fun other _ => Or.inl rfl)
          refine ⟨.executed (.ok value) machinery.expired :: actions, run_cons.mpr ⟨_, ?_, led.trans ?_⟩⟩
          · simp only [InFlight.act, place, InFlight.executes_in_drive, found, if_pos continues]
          · rw [loop_passes machinery thrown evaluated continues, lands_records]
            exact congrArg (fun driven => some (flight.lands inside driven)) (driven_ran machinery timeout _ [_]).symm
        · rw [loop_responds machinery thrown evaluated continues]
          refine ⟨[.executed (.ok value) machinery.expired, .exits],
            run_cons.mpr ⟨{ flight.records entry.handler (.ok value) with
              place := .leaving entry.is_middleware inside
              handed := HandedOff.new.deliver ⟨some .sender⟩ (stage_response (.value value) entry.is_middleware) },
              ?_, run_one crates rfl⟩⟩
          simp only [InFlight.act, place, InFlight.executes_in_drive, found, if_neg continues]
          simp only [InFlight.calls, InFlight.records, handed]
          rfl

/-! The job, and the task behind it. -/

/-- The script side comes to its end behind these executed bodies, and then the
    task to this response. -/
def Comes (flight : InFlight) (ran : List Ran) (response : Response) : Prop :=
  ∃ actions last, run (InFlight.act crates) flight actions = some last ∧ last.wait = .job ∧
    last.ran = flight.ran ++ ran ∧
    ∃ polls polled, run (InFlight.act crates) last polls = some polled ∧ polled.ran = last.ran ∧
      polled.answer = .returned response

theorem comes_behind {next : InFlight} {actions : List Action} {before ran : List Ran} {response : Response}
    (led : run (InFlight.act crates) flight actions = some next) (ran_before : next.ran = flight.ran ++ before)
    (comes : Comes crates next ran response) : Comes crates flight (before ++ ran) response := by
  obtain ⟨more, last, rest, wait, executed, answered⟩ := comes
  refine ⟨actions ++ more, last, ?_, wait, ?_, answered⟩
  · rw [run_append, led]
    exact rest
  · rw [executed, ran_before, List.append_assoc]

theorem comes_answered {reply : Reply} (wait : flight.wait = .job) (job : flight.job = .answered reply) :
    Comes crates flight [] (reply.into_response crates) := by
  refine ⟨[], flight, rfl, wait, (List.append_nil _).symm, [.polls],
    { flight with wait := .returned (reply.into_response crates) }, run_one crates ?_, rfl, rfl⟩
  simp only [InFlight.act, InFlight.polls, wait, job]

/-- The sink is dropped, and the task finds what it was given. -/
theorem comes_freed {sent : Option Reply} (place : flight.place = .freed) (wait : flight.wait = .job)
    (job : flight.job = .handed_off)
    (handed : flight.handed = sent.elim .new (HandedOff.new.deliver ⟨some .sender⟩)) :
    Comes crates flight [] ((Started.Pending sent).response crates) := by
  obtain ⟨route, request, at_place, at_job, at_wait, at_sink, ran⟩ := flight
  subst place wait job handed
  cases sent with
  | none => exact ⟨[.drops_sink], _, rfl, rfl, (List.append_nil _).symm, [.polls, .polls], _, rfl, rfl, rfl⟩
  | some reply => exact ⟨[.drops_sink], _, rfl, rfl, (List.append_nil _).symm, [.polls, .polls], _, rfl, rfl, rfl⟩

/-- What `hand_off` makes of a coroutine that ran inside of the job. -/
def returned (sent : Option Reply) : Except PyErr Unit → Except PyErr Unit → Started
  | .ok (), .ok () => .Pending sent
  | _, _ => .Answered InFlight.internal

/-- `asyncio.run` returns, and the job with it. -/
theorem comes_ended {sent : Option Reply} {left : Except PyErr Unit} (place : flight.place = .ended left)
    (wait : flight.wait = .job) (handed : flight.handed = sent.elim .new (HandedOff.new.deliver ⟨some .sender⟩))
    (run_end : Except PyErr Unit) : Comes crates flight [] ((returned sent left run_end).response crates) := by
  have acted : flight.act crates (.returns run_end) = some (flight.returns left run_end) := by
    simp only [InFlight.act, place]
  have executed : (flight.returns left run_end).ran = flight.ran ++ [] := by
    unfold InFlight.returns
    split <;> exact (List.append_nil _).symm
  refine comes_behind crates (run_one crates acted) executed ?_
  have internal := @comes_answered crates { flight with place := .freed, job := .answered InFlight.internal } _ wait rfl
  have freed := @comes_freed crates { flight with place := .freed, job := .handed_off } sent rfl wait rfl handed
  cases left with
  | error error => exact internal
  | ok =>
    cases run_end with
    | error error => exact internal
    | ok => exact freed

theorem drive_lands {timeout : Option Nat} {inside : Bool} (timed : timeout.isSome = !inside) {index : Nat}
    {stage : Stage} (place : flight.place = .drive index (decide (index < flight.route.middlewares.length)) inside)
    (handed : flight.handed = .new) (found : flight.route.chain[index]? = some stage) :
    ∃ actions, run (InFlight.act crates) flight actions =
      some (flight.lands inside
        (machinery.drive flight.route.stages index flight.request timeout
          (.coroutine stage.callable flight.request))) := by
  obtain ⟨entry, there, handler⟩ :
      ∃ entry, flight.route.stages[index]? = some entry ∧ entry.handler = stage.callable := by
    rw [← Option.map_eq_some_iff, ← List.getElem?_map, stages_functions, List.getElem?_map, found, Option.map_some]
  rw [← handler, drive_driven machinery there, stages_is_middleware flight.route there]
  refine loop_lands machinery crates timed rfl place handed ?_
  intro first member
  rw [List.head?_drop, there] at member
  cases member
  exact Or.inr rfl

section
variable {index : Nat} {stage : Stage}

theorem hands_off_act (place : flight.place = .job index) (found : flight.route.chain[index]? = some stage)
    (suspends : (stage.is_async && stage.callable.suspends) = true) (pool : Bool) :
    flight.act crates (.hands_off pool (.ok ())) =
      some { flight with
        place := .drive index (decide (index < flight.route.middlewares.length)) (!pool)
        job := if pool then .handed_off else .running } := by
  simp only [InFlight.act, place, InFlight.hands_off, found, if_pos suspends]

theorem hand_off_fails (place : flight.place = .job index) (wait : flight.wait = .job)
    (found : flight.route.chain[index]? = some stage)
    (suspends : (stage.is_async && stage.callable.suspends) = true) :
    Comes crates flight [] (InFlight.internal.into_response crates) := by
  have stopped : flight.act crates (.hands_off true (.error .cancelled)) = some (flight.answers InFlight.internal) := by
    simp only [InFlight.act, place, InFlight.hands_off, found, if_pos suspends]
  exact comes_behind crates (run_one crates stopped) (List.append_nil _).symm (comes_answered crates wait rfl)

theorem pool_comes (place : flight.place = .job index) (wait : flight.wait = .job) (handed : flight.handed = .new)
    (found : flight.route.chain[index]? = some stage)
    (suspends : (stage.is_async && stage.callable.suspends) = true) (timeout : Nat) :
    let driven := machinery.drive flight.route.stages index flight.request (some timeout)
      (.coroutine stage.callable flight.request)
    Comes crates flight driven.ran ((Started.Pending driven.sent).response crates) := by
  intro driven
  obtain ⟨actions, led⟩ := @drive_lands machinery crates
    { flight with place := .drive index (decide (index < flight.route.middlewares.length)) false, job := .handed_off }
    (some timeout) false rfl index stage rfl handed found
  have freed := @comes_freed crates
    (InFlight.lands { flight with
      place := .drive index (decide (index < flight.route.middlewares.length)) false, job := .handed_off } false driven)
    driven.sent rfl wait rfl rfl
  have behind := @comes_behind crates flight _ _ driven.ran [] _
    (run_cons.mpr ⟨_, hands_off_act crates place found suspends true, led⟩) rfl freed
  rwa [List.append_nil] at behind

/-- Without a pool, the job waits for the coroutine. -/
theorem inside_comes (place : flight.place = .job index) (wait : flight.wait = .job) (handed : flight.handed = .new)
    (found : flight.route.chain[index]? = some stage)
    (suspends : (stage.is_async && stage.callable.suspends) = true) :
    let driven := machinery.drive flight.route.stages index flight.request none
      (.coroutine stage.callable flight.request)
    Comes crates flight driven.ran ((returned driven.sent driven.left machinery.run_end).response crates) := by
  intro driven
  obtain ⟨actions, led⟩ := @drive_lands machinery crates
    { flight with place := .drive index (decide (index < flight.route.middlewares.length)) true, job := .running }
    none true rfl index stage rfl handed found
  have ended := @comes_ended crates
    (InFlight.lands { flight with
      place := .drive index (decide (index < flight.route.middlewares.length)) true, job := .running } true driven)
    driven.sent driven.left rfl wait rfl machinery.run_end
  have behind := @comes_behind crates flight _ _ driven.ran [] _
    (run_cons.mpr ⟨_, hands_off_act crates place found suspends false, led⟩) rfl ended
  rwa [List.append_nil] at behind

/-- Handed off at the stage of the index. -/
theorem hand_off_comes (place : flight.place = .job index) (wait : flight.wait = .job) (handed : flight.handed = .new)
    (found : flight.route.chain[index]? = some stage)
    (suspends : (stage.is_async && stage.callable.suspends) = true) :
    let handed := machinery.hand_off flight.route index flight.request (.coroutine stage.callable flight.request)
    Comes crates flight handed.2 (handed.1.response crates) := by
  have fails := hand_off_fails crates place wait found suspends
  have inside := inside_comes machinery crates place wait handed found suspends
  have beside := pool_comes machinery crates place wait handed found suspends
  unfold Machinery.hand_off Machinery.submitted
  cases machinery.helpers with
  | error error => exact fails
  | ok =>
    cases machinery.sink with
    | error error => exact fails
    | ok =>
      cases machinery.drive_call with
      | error error => exact fails
      | ok =>
        cases machinery.pool with
        | some pool =>
          dsimp only
          cases pool.submit with
          | error error => exact fails
          | ok => exact beside pool.coroutine_timeout
        | none =>
          dsimp only
          cases machinery.run_begin with
          | error error => exact fails
          | ok =>
            dsimp only at inside ⊢
            cases left : (machinery.drive flight.route.stages index flight.request none
                (.coroutine stage.callable flight.request)).left with
            | error error =>
              rw [left] at inside
              exact inside
            | ok =>
              rw [left] at inside
              cases ended : machinery.run_end with
              | error error =>
                rw [ended] at inside
                exact inside
              | ok =>
                rw [ended] at inside
                exact inside

theorem executed_act (place : flight.place = .job index) (found : flight.route.chain[index]? = some stage)
    (inline : ¬(stage.is_async && stage.callable.suspends) = true) (returned : Except PyErr Value) :
    flight.act crates (.executed returned false) =
      let executed := flight.records stage.callable returned
      let is_middleware := decide (index < flight.route.middlewares.length)
      match returned with
      | .ok value =>
        if is_middleware && (Object.value value).is_none then some { executed with place := .job (index + 1) }
        else some (executed.answers (stage_response (.value value) is_middleware))
      | .error _ => some (executed.answers (stage_raised is_middleware)) := by
  simp only [InFlight.act, place, InFlight.executes_in_job, found, if_neg inline]
  rfl

end

/-- From the index on, the job takes the request where it takes `start`, and the
    task answers it so. -/
theorem start_from_comes {stages : List Stage} {index : Nat} (here : flight.route.chain.drop index = stages)
    (place : flight.place = .job index) (wait : flight.wait = .job) (handed : flight.handed = .new) :
    let started := machinery.start_from flight.route flight.request stages index
    Comes crates flight started.2 (started.1.response crates) := by
  induction stages generalizing flight index with
  | nil =>
    have finished : flight.route.chain.length ≤ index := List.drop_eq_nil_iff.mp here
    have exits : flight.act crates .exits = some (flight.answers InFlight.internal) := by
      simp only [InFlight.act, place, if_pos finished]
    have answered := @comes_answered crates (flight.answers InFlight.internal) _ wait rfl
    exact comes_behind crates (run_one crates exits) (List.append_nil _).symm answered
  | cons stage stages ih =>
    obtain ⟨-, found, rest⟩ := drop_cons here
    dsimp only
    rw [Machinery.start_from, in_job_cases]
    by_cases suspends : (stage.is_async && stage.callable.suspends) = true
    · rw [if_pos suspends]
      exact hand_off_comes machinery crates place wait handed found suspends
    · rw [if_neg suspends]
      have acted := executed_act crates place found suspends (stage.callable.body flight.request)
      cases returned : stage.callable.body flight.request with
      | error error =>
        rw [returned] at acted
        have answered := @comes_answered crates
          ((flight.records stage.callable (.error error)).answers
            (stage_raised (decide (index < flight.route.middlewares.length)))) _ wait rfl
        exact comes_behind crates (run_one crates acted) rfl answered
      | ok value =>
        rw [returned] at acted
        dsimp only at acted
        by_cases continues : (decide (index < flight.route.middlewares.length) && (Object.value value).is_none) = true
        · rw [if_pos continues] at acted
          have later := @ih { flight.records stage.callable (.ok value) with place := .job (index + 1) } (index + 1)
            rest rfl wait handed
          have behind := @comes_behind crates flight _ _ [⟨stage.callable, flight.request, .ok value⟩] _ _
            (run_one crates acted) rfl later
          simp only [Except.map, continues, if_true]
          exact behind
        · rw [if_neg continues] at acted
          have answered := @comes_answered crates
            ((flight.records stage.callable (.ok value)).answers
              (stage_response (.value value) (decide (index < flight.route.middlewares.length)))) _ wait rfl
          have behind := @comes_behind crates flight _ _ [⟨stage.callable, flight.request, .ok value⟩] _ _
            (run_one crates acted) rfl answered
          simp only [Except.map, if_neg continues]
          exact behind

theorem refused_comes (route : Route) (request : PyRequest) :
    Comes crates (.new route request) [] (InFlight.internal.into_response crates) :=
  ⟨[.refused], { InFlight.new route request with place := .done, job := .failed }, run_one crates rfl, rfl, rfl,
    [.polls], { InFlight.new route request with
      place := .done, job := .failed, wait := .returned (InFlight.internal.into_response crates) },
    run_one crates rfl, rfl, rfl⟩

theorem unmade_comes (route : Route) (request : PyRequest) :
    Comes crates (.new route request) [] (InFlight.internal.into_response crates) := by
  have begun : (InFlight.new route request).act crates (.begins (.error .cancelled)) =
    some ((InFlight.new route request).answers InFlight.internal) := rfl
  have answered := @comes_answered crates ((InFlight.new route request).answers InFlight.internal) _ rfl rfl
  exact comes_behind crates (run_one crates begun) rfl answered

theorem answer_comes (route : Route) (request : PyRequest) :
    Comes crates (.new route request) (machinery.answer crates route request).ran
      (machinery.answer crates route request).response := by
  have begun : (InFlight.new route request).act crates (.begins (.ok ())) =
    some { InFlight.new route request with place := .job 0 } := rfl
  have started := @start_from_comes machinery crates { InFlight.new route request with place := .job 0 } route.chain 0
    rfl rfl rfl rfl
  have behind := @comes_behind crates (.new route request) _ _ [] _ _ (run_one crates begun) rfl started
  unfold Machinery.answer
  cases machinery.try_run with
  | false =>
    rw [if_neg (by decide)]
    exact refused_comes crates route request
  | true =>
    rw [if_pos rfl]
    unfold Machinery.start
    cases machinery.py_new with
    | error error => exact unmade_comes crates route request
    | ok =>
      dsimp only [InFlight.new, List.nil_append] at behind ⊢
      generalize machinery.start_from route request route.chain 0 = result at behind ⊢
      obtain ⟨started, ran⟩ := result
      cases started with
      | Answered reply => exact behind
      | Pending received => cases received <;> exact behind

theorem answer_led (route : Route) (request : PyRequest) :
    ∃ actions last, run (InFlight.act crates) (.new route request) actions = some last ∧
      last.answer = .returned (machinery.answer crates route request).response ∧
      last.ran = (machinery.answer crates route request).ran := by
  obtain ⟨actions, last, ran, -, executed, polls, polled, rest, same, answered⟩ :=
    answer_comes machinery crates route request
  refine ⟨actions ++ polls, polled, ?_, answered, same.trans executed⟩
  rw [run_append, ran]
  exact rest

/-- What the request timeout drops may run on to its end. -/
theorem answer_dropped (route : Route) (request : PyRequest) :
    ∃ actions last, run (InFlight.act crates) (.new route request) actions = some last ∧ last.answer = .dropped ∧
      last.ran = (machinery.answer crates route request).ran := by
  obtain ⟨actions, last, ran, wait, executed, -⟩ := answer_comes machinery crates route request
  have sound := run_preserves (Sound crates) act_sound ran (new_sound crates route request)
  have waits := sound.waits
  rw [wait] at waits
  obtain ⟨handed, timed⟩ : ∃ handed, last.handed.act crates .timeout = some handed := by
    have there : last.handed.answer = .waits := waits
    simp [HandedOff.act, there]
  refine ⟨actions ++ [.times_out], { last with handed := handed, wait := .dropped }, ?_, rfl, executed⟩
  rw [run_append, ran]
  refine run_one crates ?_
  simp [InFlight.act, InFlight.times_out, wait, InFlight.calls, timed]

/-- A request that is accepted beside any others can go, while they rest, to the
    answer that `Dispatch` computes, by executing the same bodies in the same
    order. -/
theorem answer_in_flight (route : Route) (request : PyRequest) (tasks : List InFlight) :
    ∃ events flight, run (step (flights crates)) ⟨(), tasks⟩ events = some ⟨(), tasks ++ [flight]⟩ ∧
      flight.answer = .returned (machinery.answer crates route request).response ∧
      flight.ran = (machinery.answer crates route request).ran := by
  obtain ⟨actions, flight, ran, answered, executed⟩ := answer_led machinery crates route request
  refine ⟨.arrive (route, request) :: actions.map (Event.act tasks.length), flight, ?_, answered, executed⟩
  have arrives : step (flights crates) ⟨(), tasks⟩ (.arrive (route, request)) =
      some ⟨(), tasks ++ [.new route request]⟩ := by
    simp [step, flights]
  exact run_cons.mpr ⟨_, arrives, run_last (InFlight.act crates) (fun _ _ _ => rfl) () tasks ran⟩

end

end SiphonHttp.Flight
