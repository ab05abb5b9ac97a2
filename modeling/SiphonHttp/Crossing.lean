import SiphonHttp.Passage

/-!
Requests under way come to their ends: each step of a request lowers its rank,
from the router on through its frames and its stages (`act_rank`), and one
without an answer goes on by itself (`goes_on`). What `Router.serve` computes in
one go is one of the ways that a request can take (`serve_crosses`), with the
request timeout over while the body is read, while the stages are run, or not at
all.
-/
namespace SiphonHttp.Passage
open Text Dispatch Routes Server Request Runs
open Flight (InFlight)

/-! ### The end of a request -/

/-- How many steps are left to a place, where no route has more than so many
    stages. -/
def Place.rank (stages : Nat) (body : Body) : Place → Nat
  | .arrived => body.frames.length + stages + 10
  | .reads _ route _ frames _ => frames.length + route.chain.length + 9
  | .flies flight => flight.rank
  | .turned _ => 0

def UnderWay.rank (stages : Nat) (passage : UnderWay) : Nat := passage.place.rank stages passage.request.body

section
variable {process : Process} {crates : Crates} {passage next : UnderWay} {stages : Nat}

theorem gate_rank {entries : List RouteEntry} (bounded : ∀ entry ∈ entries, entry.route.chain.length ≤ stages)
    (parts : Parts) (body : Body) (cap : Nat) :
    (gate entries parts body.frames cap).rank stages body < body.frames.length + stages + 10 := by
  unfold gate
  cases route_gate (entries.map RouteEntry.scope) parts with
  | MethodNotAllowed | NotOnThisListener => exact Nat.succ_pos _
  | Handler index =>
    dsimp only
    cases found : (entries.map RouteEntry.route)[index]? with
    | none => exact Nat.succ_pos _
    | some route =>
      obtain ⟨entry, member, rfl⟩ := List.mem_map.mp (List.mem_of_getElem? found)
      have shorter := bounded entry member
      show body.frames.length + entry.route.chain.length + 9 < body.frames.length + stages + 10
      omega

theorem capped_rank {inner : Nat → Place} {body : Body} {limit bound : Nat}
    (below : ∀ cap, (inner cap).rank stages body < bound) :
    (capped crates limit body inner).rank stages body < bound := by
  unfold capped
  cases body.content_length with
  | none => exact below _
  | some length =>
    dsimp only
    split_ifs with past
    · exact Nat.lt_of_le_of_lt (Nat.zero_le _) (below 0)
    · exact below _

theorem enters_rank
    (bounded : ∀ template, ∀ entry ∈ process.router.table.entries template, entry.route.chain.length ≤ stages)
    (place : passage.place = .arrived) (decision : Decision) :
    (passage.enters process crates decision).rank stages < passage.rank stages := by
  have here : passage.rank stages = passage.request.body.frames.length + stages + 10 := by
    rw [UnderWay.rank, place]
    rfl
  rw [here]
  unfold UnderWay.enters
  cases Template.pick process.router.table.paths passage.request.path with
  | none =>
    exact @capped_rank crates stages (fun _ => .turned (empty_response 404)) passage.request.body _ _
      fun _ => Nat.succ_pos _
  | some template =>
    have through := @capped_rank crates stages _ passage.request.body process.router.max_body _
      (gate_rank (bounded template) (routed passage.request template) passage.request.body)
    dsimp only
    cases process.router.admission with
    | none => exact through
    | some admission =>
      cases decision with
      | Admit respond => exact through
      | Refuse refusal => exact Nat.succ_pos _

theorem read_on_rank (trusted : List Net.IpAddr) (parts : Parts) (route : Route) (remaining : Nat) (collected : Octets)
    (frames : List Frame) (body : Body) :
    (read_on trusted parts route remaining collected frames).rank stages body <
      frames.length + route.chain.length + 9 := by
  cases frames with
  | nil =>
    show (InFlight.new route _).rank < 0 + route.chain.length + 9
    have new : ∀ request, (InFlight.new route request).rank = route.chain.length + 8 := fun _ => rfl
    rw [new]
    omega
  | cons frame frames =>
    rw [List.length_cons]
    cases frame with
    | error => exact Nat.succ_pos _
    | trailers =>
      show frames.length + route.chain.length + 9 < _
      omega
    | data octets =>
      rw [read_on]
      split_ifs with past
      · exact Nat.succ_pos _
      · show frames.length + route.chain.length + 9 < _
        omega

/-- Each step of a request lowers its rank. -/
theorem act_rank
    (bounded : ∀ template, ∀ entry ∈ process.router.table.entries template, entry.route.chain.length ≤ stages)
    {action : Action} (acted : passage.act process crates action = some next) :
    next.rank stages < passage.rank stages := by
  unfold UnderWay.act at acted
  cases action with
  | enters decision =>
    cases place : passage.place <;> rw [place] at acted <;> cases acted
    exact enters_rank bounded place decision
  | reads =>
    cases place : passage.place <;> rw [place] at acted <;> cases acted
    rw [UnderWay.rank, UnderWay.rank, place]
    exact read_on_rank process.trusted ..
  | flies action =>
    cases place : passage.place with
    | flies flight =>
      rw [place] at acted
      obtain ⟨after, acts, rfl⟩ := Option.map_eq_some_iff.mp acted
      rw [UnderWay.rank, UnderWay.rank, place]
      exact (Flight.act_rank acts).2
    | _ =>
      rw [place] at acted
      cases acted
  | times_out =>
    cases place : passage.place <;> rw [place] at acted <;> cases acted
    rw [UnderWay.rank, UnderWay.rank, place]
    exact Nat.succ_pos _

/-- The step that a request takes by itself, where the guard decides so. -/
def UnderWay.own_step (passage : UnderWay) (decision : Decision) (pool : Bool) : Action :=
  match passage.place with
  | .arrived => .enters decision
  | .reads .. | .turned _ => .reads
  | .flies flight => .flies (flight.own_step pool)

theorem own_step_not_timed (passage : UnderWay) (decision : Decision) (pool : Bool) :
    passage.own_step decision pool ≠ .times_out ∧ passage.own_step decision pool ≠ .flies .times_out := by
  unfold UnderWay.own_step
  cases passage.place with
  | arrived | reads | turned => exact ⟨nofun, nofun⟩
  | flies flight =>
    refine ⟨nofun, fun timed => ?_⟩
    injection timed with timed
    exact Flight.own_step_not_timed flight pool timed

/-- A request without an answer goes on by itself. -/
theorem goes_on (stands : Stands process crates passage) (unanswered : passage.answer crates = .waits)
    (decision : Decision) (pool : Bool) :
    (passage.act process crates (passage.own_step decision pool)).isSome := by
  unfold UnderWay.answer at unanswered
  unfold Stands at stands
  unfold UnderWay.own_step
  cases place : passage.place with
  | arrived | reads =>
    rw [UnderWay.act, place]
    rfl
  | turned response =>
    rw [place] at unanswered
    cases unanswered
  | flies flight =>
    rw [place] at unanswered stands
    obtain ⟨template, -, -, -, sound⟩ := stands
    have waits : flight.answer = .waits := by
      cases answer : flight.answer with
      | waits => rfl
      | returned | dropped =>
        simp only [answer] at unanswered
        cases unanswered
    have acts := Flight.goes_on sound waits pool
    rw [UnderWay.act, place]
    simpa using acts

end

/-! ### From the router to the response in one go -/

section
variable {process : Process} {crates : Crates}

/-- From here on the request can come to this, on its way out through the guard. -/
def Crosses (process : Process) (crates : Crates) (passage : UnderWay) (served : Served) : Prop :=
  ∃ actions last, run (UnderWay.act process crates) passage actions = some last ∧ last.decided = passage.decided ∧
    last.ran = served.ran ∧ last.answer crates = .returned (passage.leaves crates served.response)

theorem crosses_behind {passage next : UnderWay} {actions : List Action} {served : Served}
    (led : run (UnderWay.act process crates) passage actions = some next) (decided : next.decided = passage.decided)
    (crosses : Crosses process crates next served) : Crosses process crates passage served := by
  obtain ⟨more, last, rest, same, ran, answered⟩ := crosses
  refine ⟨actions ++ more, last, ?_, same.trans decided, ran, ?_⟩
  · rw [run_append, led]
    exact rest
  · rw [answered, UnderWay.leaves, UnderWay.leaves, decided]

variable {request : HttpRequest} {decided : Option Decision}

theorem turned_crosses (response : Response) :
    Crosses process crates ⟨request, decided, .turned response⟩ (.at_once response) :=
  ⟨[], _, rfl, rfl, rfl, rfl⟩

/-- A timeout that is over while the body is read. -/
theorem reads_times_out (parts : Parts) (route : Route) (remaining : Nat) (frames : List Frame) (collected : Octets)
    {served : Served} (response : served.response = empty_response 504) (idle : served.ran = []) :
    Crosses process crates ⟨request, decided, .reads parts route remaining frames collected⟩ served := by
  refine ⟨[.times_out], ⟨request, decided, .turned (empty_response 504)⟩, run_cons.mpr ⟨_, rfl, rfl⟩, rfl, ?_, ?_⟩
  · rw [idle]
    rfl
  · rw [response]
    rfl

/-- The frames of a body that the cap lets through are read to their end. -/
theorem reads_through (parts : Parts) (route : Route) {remaining : Nat} {frames : List Frame} {octets : Octets}
    (collected : Octets) (whole : Body.collect (Body.limit_frames remaining frames) = some octets) :
    ∃ actions, run (UnderWay.act process crates) ⟨request, decided, .reads parts route remaining frames collected⟩ actions =
      some ⟨request, decided, .flies (.new route (request_from_parts process.trusted parts (collected ++ octets)))⟩ := by
  induction frames generalizing remaining octets collected with
  | nil =>
    cases whole
    exact ⟨[.reads], by rw [List.append_nil]; rfl⟩
  | cons frame frames ih =>
    cases frame with
    | error => cases whole
    | trailers =>
      obtain ⟨actions, read⟩ := ih collected whole
      exact ⟨.reads :: actions, run_cons.mpr ⟨_, rfl, read⟩⟩
    | data chunk =>
      rw [Body.limit_frames] at whole
      split_ifs at whole with past
      · cases whole
      · obtain ⟨rest, behind, rfl⟩ := Option.map_eq_some_iff.mp whole
        obtain ⟨actions, read⟩ := ih (collected ++ chunk) behind
        rw [List.append_assoc] at read
        refine ⟨.reads :: actions, run_cons.mpr ⟨_, ?_, read⟩⟩
        simp only [UnderWay.act, read_on, if_neg past]

/-- And those of any other body up to where it breaks off. -/
theorem reads_broken (parts : Parts) (route : Route) {remaining : Nat} {frames : List Frame} (collected : Octets)
    (broken : Body.collect (Body.limit_frames remaining frames) = none) :
    ∃ actions, run (UnderWay.act process crates) ⟨request, decided, .reads parts route remaining frames collected⟩ actions =
      some ⟨request, decided, .turned (error_response 400 (lit "bad body"))⟩ := by
  induction frames generalizing remaining collected with
  | nil => cases broken
  | cons frame frames ih =>
    cases frame with
    | error => exact ⟨[.reads], rfl⟩
    | trailers =>
      obtain ⟨actions, read⟩ := ih collected broken
      exact ⟨.reads :: actions, run_cons.mpr ⟨_, rfl, read⟩⟩
    | data chunk =>
      rw [Body.limit_frames] at broken
      split_ifs at broken with past
      · refine ⟨[.reads], run_cons.mpr ⟨_, ?_, rfl⟩⟩
        simp only [UnderWay.act, read_on, if_pos past]
      · have behind : Body.collect (Body.limit_frames (remaining - chunk.length) frames) = none := by
          simpa [Body.collect] using broken
        obtain ⟨actions, read⟩ := ih (collected ++ chunk) behind
        refine ⟨.reads :: actions, run_cons.mpr ⟨_, ?_, read⟩⟩
        simp only [UnderWay.act, read_on, if_neg past]

/-- A flight takes its steps inside of the passage. -/
theorem flies_led {flight last : InFlight} {actions : List Flight.Action}
    (ran : run (InFlight.act crates) flight actions = some last) :
    run (UnderWay.act process crates) ⟨request, decided, .flies flight⟩ (actions.map .flies) =
      some ⟨request, decided, .flies last⟩ := by
  induction actions generalizing flight with
  | nil =>
    cases ran
    rfl
  | cons action actions ih =>
    obtain ⟨next, stepped, rest⟩ := run_cons.mp ran
    refine run_cons.mpr ⟨_, ?_, ih rest⟩
    simp only [UnderWay.act, stepped, Option.map_some]

variable (machinery : Machinery)

theorem flies_crosses (route : Route) (received : PyRequest) {served : Served}
    (response : served.response = (machinery.answer crates route received).response)
    (ran : served.ran = (machinery.answer crates route received).ran) :
    Crosses process crates ⟨request, decided, .flies (.new route received)⟩ served := by
  obtain ⟨actions, last, led, answered, executed⟩ := Flight.answer_led machinery crates route received
  refine ⟨_, _, flies_led led, rfl, executed.trans ran.symm, ?_⟩
  simp only [UnderWay.answer, answered, response]
  rfl

theorem flies_times_out (route : Route) (received : PyRequest) {served : Served}
    (response : served.response = empty_response 504) (ran : served.ran = (machinery.answer crates route received).ran) :
    Crosses process crates ⟨request, decided, .flies (.new route received)⟩ served := by
  obtain ⟨actions, last, led, dropped, executed⟩ := Flight.answer_dropped machinery crates route received
  refine ⟨_, _, flies_led led, rfl, executed.trans ran.symm, ?_⟩
  simp only [UnderWay.answer, dropped, response]
  rfl

end

/-! ### The layers -/

section
variable {process : Process} {surroundings : Surroundings} {request : HttpRequest} {decided : Option Decision}

/-- `dispatch` under the request timeout. -/
theorem gate_crosses (entries : List RouteEntry) (parts : Parts) (body : Body) (cap : Nat) :
    Crosses process surroundings.crates ⟨request, decided, gate entries parts body.frames cap⟩
      (timeout_layer process.router.timeout
        (Server.dispatch surroundings process.trusted entries parts (body.limited cap))) := by
  unfold gate Server.dispatch
  cases route_gate (entries.map RouteEntry.scope) parts with
  | MethodNotAllowed =>
    rw [timeout_layer_in_time (by simp [Elapsed, Served.at_once])]
    exact turned_crosses _
  | NotOnThisListener =>
    rw [timeout_layer_in_time (by simp [Elapsed, Served.at_once])]
    exact turned_crosses _
  | Handler index =>
    dsimp only
    cases (entries.map RouteEntry.route)[index]? with
    | none =>
      rw [timeout_layer_in_time (by simp [Elapsed, Served.at_once])]
      exact turned_crosses _
    | some route =>
      dsimp only
      cases whole : Body.collect (body.limited cap).frames with
      | none =>
        dsimp only
        obtain ⟨actions, led⟩ := @reads_broken process surroundings.crates request decided parts route cap body.frames []
          whole
        by_cases over_time : Elapsed process.router.timeout surroundings.arrives
        · exact reads_times_out parts route cap body.frames [] (timeout_layer_elapsed over_time)
            (timeout_layer_idle rfl)
        · rw [timeout_layer_in_time over_time]
          exact crosses_behind led rfl (turned_crosses _)
      | some octets =>
        dsimp only
        obtain ⟨actions, led⟩ := @reads_through process surroundings.crates request decided parts route cap body.frames
          octets [] whole
        by_cases over_time : Elapsed process.router.timeout (surroundings.arrives + surroundings.answers)
        · by_cases unstarted : Elapsed process.router.timeout surroundings.arrives
          · refine reads_times_out parts route cap body.frames [] (timeout_layer_elapsed over_time) ?_
            rw [timeout_layer, if_pos over_time]
            exact if_pos unstarted
          · refine crosses_behind led rfl
              (flies_times_out surroundings.machinery route _ (timeout_layer_elapsed over_time) ?_)
            rw [timeout_layer, if_pos over_time]
            exact if_neg unstarted
        · rw [timeout_layer_in_time over_time]
          exact crosses_behind led rfl (flies_crosses surroundings.machinery route _ rfl rfl)

/-- What can be crossed behind every cap of the limit layer can be behind the
    layers. -/
theorem capped_crosses {inner : Nat → Place} {served : Body → Served}
    (behind : ∀ cap, Crosses process surroundings.crates ⟨request, decided, inner cap⟩
      (timeout_layer process.router.timeout (served (request.body.limited cap)))) :
    Crosses process surroundings.crates
      ⟨request, decided, capped surroundings.crates process.router.max_body request.body inner⟩
      (process.router.layers surroundings.crates request.body served) := by
  unfold Router.layers limit_layer capped
  cases request.body.content_length with
  | none => exact behind _
  | some length =>
    dsimp only
    split_ifs with past
    · rw [timeout_layer_in_time (by simp [Elapsed, Served.at_once])]
      exact turned_crosses _
    · exact behind _

theorem entered_crosses {decision : Decision} {entered : UnderWay} {served : Served}
    (enters : (UnderWay.new request).enters process surroundings.crates decision = entered)
    (crosses : Crosses process surroundings.crates entered served) :
    ∃ actions last, run (UnderWay.act process surroundings.crates) (.new request) actions = some last ∧
      last.ran = served.ran ∧
      last.answer surroundings.crates = .returned (entered.leaves surroundings.crates served.response) := by
  obtain ⟨actions, last, led, -, ran, answered⟩ := crosses
  refine ⟨.enters decision :: actions, last, run_cons.mpr ⟨entered, ?_, led⟩, ran, answered⟩
  rw [← enters]
  rfl

/-- A request can take its way to exactly what `Router.serve` makes of it: the same
    bodies are executed for it, and the same response comes out. -/
theorem serve_crosses (process : Process) (surroundings : Surroundings) (request : HttpRequest) :
    ∃ actions last, run (UnderWay.act process surroundings.crates) (.new request) actions = some last ∧
      last.ran = (process.serve surroundings request).ran ∧
      last.answer surroundings.crates = .returned (process.serve surroundings request).response := by
  unfold Process.serve Router.serve
  cases picked : Template.pick process.router.table.paths request.path with
  | none =>
    have crosses := @capped_crosses process surroundings request none (fun _ => .turned (empty_response 404))
      (fun _ => .at_once (empty_response 404)) fun cap => by
        rw [timeout_layer_in_time (by simp [Elapsed, Served.at_once])]
        exact turned_crosses _
    refine @entered_crosses process surroundings request (.Admit fun _ => []) _ _ ?_ crosses
    simp only [UnderWay.enters, UnderWay.new, picked]
  | some template =>
    have crosses := fun decided => @capped_crosses process surroundings request decided _ _
      (gate_crosses (process.router.table.entries template) (routed request template) request.body)
    dsimp only
    cases installed : process.router.admission with
    | none =>
      refine @entered_crosses process surroundings request (.Admit fun _ => []) _ _ ?_ (crosses none)
      simp only [UnderWay.enters, UnderWay.new, picked, installed]
    | some admission =>
      unfold Server.guard
      dsimp only
      cases decides : admission.admit_request (inbound_of (routed request template)) with
      | Admit respond =>
        refine @entered_crosses process surroundings request (.Admit respond) _ _ ?_ (crosses (some (.Admit respond)))
        simp only [UnderWay.enters, UnderWay.new, picked, installed]
      | Refuse refusal =>
        refine @entered_crosses process surroundings request (.Refuse refusal)
          ⟨request, some (.Refuse refusal), .turned (refusal_response surroundings.crates refusal)⟩
          (.at_once (refusal_response surroundings.crates refusal)) ?_ (turned_crosses _)
        simp only [UnderWay.enters, UnderWay.new, picked, installed]

end

end SiphonHttp.Passage
