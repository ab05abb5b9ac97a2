import SiphonHttp.Arrival
import SiphonHttp.Crossing

/-!
The whole server in small steps. Beside the hooks, listeners, reloads and
connections of `Lifecycle`, every request that a connection receives is on its
own way through the router (`Passage`), any number of them at once and in any
order of their steps. What holds of each of them (`every_passage_accounted`) and
that it ends (`every_passage_ends`) depends on nothing but its own actions and the
connection it came through. And what the functions of `Server` compute of a
request is what it can come to here (`served_in_traffic`).
-/
namespace SiphonHttp.Traffic
open Text Config Net Sockets Startup Tls Listening Runs Dispatch Passage
open Lifecycle (Identifies Received)

/-! ### The steps -/

structure State where
  server : Lifecycle.State
  /-- The requests, in the order they were received. -/
  passages : List UnderWay

inductive Event (Peer : Type)
  | server (event : Lifecycle.Event Peer)
  | passes (index : Nat) (action : Passage.Action)

section
variable (rustls : Rustls) (system : System) (process : Server.Process) (crates : Crates)

def spawned (files : FileSystem) (started : Started BoundListener) (startups : List HandlerHandle) : State :=
  ⟨Lifecycle.spawned files started startups, []⟩

/-- A request that is received is in front of the router. -/
def step (state : State) : Event rustls.Peer → Option State
  | .server event =>
    (Lifecycle.step rustls system state.server event).map fun server =>
      ⟨server, state.passages ++ (server.received.drop state.server.received.length).map (.new ·.request)⟩
  | .passes index action =>
    state.passages[index]?.bind fun passage =>
      (passage.act process crates action).map fun passage =>
        { state with passages := state.passages.set index passage }

end

/-- What an event is to the server beside its requests. -/
def Event.of_server {Peer : Type} : Event Peer → Option (Lifecycle.Event Peer)
  | .server event => some event
  | .passes .. => none

/-- The actions of one request among the events. -/
def own {Peer : Type} (index : Nat) (events : List (Event Peer)) : List Passage.Action :=
  events.filterMap fun
    | .passes other action => if other = index then some action else none
    | .server _ => none

section
variable {rustls : Rustls} {system : System} {process : Server.Process} {crates : Crates} {state next last : State}

theorem run_server {events : List (Event rustls.Peer)}
    (ran : run (step rustls system process crates) state events = some last) :
    run (Lifecycle.step rustls system) state.server (events.filterMap Event.of_server) = some last.server := by
  refine run_seen State.server Event.of_server ?_ ?_ ran
  · intro state event next shown stepped same
    cases event with
    | server event =>
      cases same
      obtain ⟨server, inner, rfl⟩ := Option.map_eq_some_iff.mp stepped
      exact inner
    | passes => cases same
  · intro state event next stepped same
    cases event with
    | server => cases same
    | passes index action =>
      obtain ⟨passage, -, acted⟩ := Option.bind_eq_some_iff.mp stepped
      obtain ⟨after, -, rfl⟩ := Option.map_eq_some_iff.mp acted
      rfl

/-! Requests are only ever received behind the others. -/

theorem received_behind {before after : Lifecycle.State} {event : Lifecycle.Event rustls.Peer}
    (stepped : Lifecycle.step rustls system before event = some after) :
    ∃ more, after.received = before.received ++ more := by
  cases event with
  | calls =>
    obtain ⟨hook, startups, -, -, rfl⟩ := Lifecycle.calls_cases stepped
    exact ⟨[], (List.append_nil _).symm⟩
  | returns =>
    obtain ⟨hook, -, rfl⟩ := Lifecycle.returns_cases stepped
    exact ⟨[], (List.append_nil _).symm⟩
  | serves index error =>
    obtain ⟨listener, -, -, -, -, rfl⟩ := Lifecycle.serves_cases stepped
    exact ⟨[], (List.append_nil _).symm⟩
  | reloads index turn =>
    obtain ⟨listener, tls, reloaded, -, -, -, -, rfl⟩ := Lifecycle.reloads_cases stepped
    exact ⟨[], (List.append_nil _).symm⟩
  | accepts index peer local_addr =>
    obtain ⟨listener, -, -, rfl⟩ := Lifecycle.accepts_cases stepped
    exact ⟨[], (List.append_nil _).symm⟩
  | shakes index peer =>
    obtain ⟨connection, config, sha256, -, -, rfl⟩ := Lifecycle.shakes_cases stepped
    exact ⟨[], (List.append_nil _).symm⟩
  | receives index request =>
    obtain ⟨connection, attached, -, -, -, rfl⟩ := Lifecycle.receives_cases stepped
    exact ⟨_, rfl⟩
  | closes index =>
    obtain ⟨connection, -, rfl⟩ := Lifecycle.closes_cases stepped
    exact ⟨[], (List.append_nil _).symm⟩
  | replaces files =>
    cases stepped
    exact ⟨[], (List.append_nil _).symm⟩

/-! ### Each request on its own way -/

/-- Every request that was received is where its own actions lead it from the
    router on. -/
structure Tracked (process : Server.Process) (crates : Crates) {Peer : Type} (events : List (Event Peer))
    (state : State) : Prop where
  paired : state.passages.length = state.server.received.length
  led : ∀ {index passage received}, state.passages[index]? = some passage →
    state.server.received[index]? = some received →
    run (UnderWay.act process crates) (.new received.request) (own index events) = some passage
  unreached : ∀ {index}, state.passages.length ≤ index → own index events = []

theorem server_tracked {events : List (Event rustls.Peer)} (tracked : Tracked process crates events state)
    {event : Lifecycle.Event rustls.Peer}
    (stepped : step rustls system process crates state (.server event) = some next) :
    Tracked process crates (events ++ [.server event]) next := by
  obtain ⟨server, inner, rfl⟩ := Option.map_eq_some_iff.mp stepped
  obtain ⟨more, behind⟩ := received_behind inner
  have same : ∀ index, own index (events ++ [.server event]) = own index events := by
    intro index
    rw [own, List.filterMap_append]
    exact List.append_nil _
  have new : server.received.drop state.server.received.length = more := by rw [behind, List.drop_left]
  refine ⟨?_, ?_, ?_⟩
  · rw [new, behind, List.length_append, List.length_append, List.length_map, tracked.paired]
  · intro index passage received there came
    rw [same]
    rw [new] at there
    rw [behind] at came
    by_cases earlier : index < state.passages.length
    · rw [List.getElem?_append_left earlier] at there
      rw [List.getElem?_append_left (tracked.paired ▸ earlier)] at came
      exact tracked.led there came
    · have later := Nat.le_of_not_lt earlier
      rw [List.getElem?_append_right later, List.getElem?_map, tracked.paired] at there
      rw [List.getElem?_append_right (tracked.paired ▸ later)] at came
      rw [came] at there
      cases there
      rw [tracked.unreached later]
      rfl
  · intro index past
    rw [same]
    refine tracked.unreached (Nat.le_trans ?_ past)
    rw [List.length_append]
    exact Nat.le_add_right ..

theorem passes_tracked {events : List (Event rustls.Peer)} (tracked : Tracked process crates events state)
    {acting : Nat} {action : Passage.Action}
    (stepped : step rustls system process crates state (.passes acting action) = some next) :
    Tracked process crates (events ++ [.passes acting action]) next := by
  obtain ⟨before, found, acted⟩ := Option.bind_eq_some_iff.mp stepped
  obtain ⟨after, acts, rfl⟩ := Option.map_eq_some_iff.mp acted
  obtain ⟨inside, -⟩ := List.getElem?_eq_some_iff.mp found
  have others : ∀ {index}, acting ≠ index → own index (events ++ [.passes acting action]) = own index events := by
    intro index other
    rw [own, List.filterMap_append, List.filterMap_cons_none (by simp [other])]
    exact List.append_nil _
  refine ⟨?_, ?_, ?_⟩
  · rw [List.length_set]
    exact tracked.paired
  · intro index passage received there came
    by_cases here : acting = index
    · subst here
      rw [List.getElem?_set_self inside] at there
      cases there
      have before_led := tracked.led found came
      rw [own, List.filterMap_append, List.filterMap_cons_some (by simp : _ = some action)]
      exact run_concat.mpr ⟨before, before_led, acts⟩
    · rw [List.getElem?_set_ne here] at there
      rw [others here]
      exact tracked.led there came
  · intro index past
    rw [List.length_set] at past
    rw [others (by omega)]
    exact tracked.unreached past

theorem step_tracked {events : List (Event rustls.Peer)} (tracked : Tracked process crates events state)
    {event : Event rustls.Peer} (stepped : step rustls system process crates state event = some next) :
    Tracked process crates (events ++ [event]) next := by
  cases event with
  | server event => exact server_tracked tracked stepped
  | passes acting action => exact passes_tracked tracked stepped

/-- The last request can go wherever its actions lead it, with the others at
    rest. -/
theorem run_passes {server : Lifecycle.State} {passages : List UnderWay} {passage after : UnderWay}
    {actions : List Passage.Action} (led : run (UnderWay.act process crates) passage actions = some after) :
    run (step rustls system process crates) ⟨server, passages ++ [passage]⟩
      (actions.map (Event.passes passages.length)) = some ⟨server, passages ++ [after]⟩ := by
  induction actions generalizing passage with
  | nil =>
    cases led
    rfl
  | cons action actions ih =>
    obtain ⟨next, acted, rest⟩ := run_cons.mp led
    refine run_cons.mpr ⟨_, ?_, ih rest⟩
    simp [step, acted]

theorem run_tracked {files : FileSystem} {started : Started BoundListener} {startups : List HandlerHandle}
    {events : List (Event rustls.Peer)}
    (ran : run (step rustls system process crates) (spawned files started startups) events = some last) :
    Tracked process crates events last := by
  refine run_history (Tracked process crates) (fun _ stepped tracked => step_tracked tracked stepped) ran ?_
  refine ⟨rfl, ?_, fun _ => rfl⟩
  intro index passage received there
  cases there

end

/-! ### What is executed, and what is answered -/

/-- What was executed for a request: the middlewares and the handler of a route
    that has its path and its method on its listener, behind the guard, none of
    them behind one that did not let it pass, and each on all of it. -/
structure Executed (config : HttpConfig) (stages : List Stage) (admission : Option Server.Admission)
    (passage : UnderWay) (process : Server.Process) (route : Routes.Registered) : Prop where
  path : route.1.path.matches passage.request.path
  method : passage.request.method ∈ route.1.methods
  listener : route.1.scope.serves_listener (passage.request.connection.map (·.listener.name)) = true
  admitted : admission.isSome → ∃ respond, passage.decided = some (.Admit respond)
  guarded : Guards.Guarded Ran.callable ReturnedNone ((stages ++ [route.2]).map Stage.callable) passage.ran
  whole : ∀ run ∈ passage.ran, Server.Whole config process.router process.trusted passage.request run.request

section
variable {config : HttpConfig} {registered : List Routes.Registered} {stages : List Stage}
  {admission : Option Server.Admission} {crates : Crates} {passage : UnderWay}

theorem entries_chain {template : Template} {entry : Routes.RouteEntry}
    (member : entry ∈ (Server.spawn_with config registered stages admission).router.table.entries template) :
    ∃ route ∈ registered, route.1.path = template ∧ entry.scope = route.1.scope ∧
      entry.route.chain = stages ++ [route.2] := by
  rw [Server.spawn_with_router, Routes.by_path_entries] at member
  obtain ⟨route, entered, rfl⟩ := List.mem_map.mp member
  obtain ⟨known, same, -⟩ : route ∈ registered ∧ route.1.path = template ∧ _ := by
    simpa [Routes.entered] using entered
  exact ⟨route, known, same, rfl, rfl⟩

theorem stands_executed
    (stands : Stands (Server.spawn_with config registered stages admission) crates passage)
    (executed : passage.ran ≠ []) :
    ∃ route ∈ registered,
      Executed config stages admission passage (Server.spawn_with config registered stages admission) route := by
  obtain ⟨template, led_route, led, read, guarded, request⟩ := stands_executes stands executed
  obtain ⟨picked, admitted, serves⟩ := led
  rw [Routes.outcome_of_eq] at serves
  cases found : ((Server.spawn_with config registered stages admission).router.table.entries template).find?
      fun entry => entry.scope.serves_listener (passage.request.connection.map (·.listener.name)) &&
        decide (passage.request.method ∈ entry.scope.methods) with
  | none =>
    rw [found] at serves
    dsimp only at serves
    split_ifs at serves
  | some entry =>
    rw [found] at serves
    cases serves
    obtain ⟨on_listener, has_method⟩ := by simpa using List.find?_some found
    obtain ⟨route, known, same, scope, chain⟩ := entries_chain (List.mem_of_find?_eq_some found)
    rw [chain] at guarded
    rw [scope] at on_listener has_method
    refine ⟨route, known, ?_, has_method, on_listener, ?_, guarded, ?_⟩
    · rw [same]
      exact (Template.pick_spec picked).2.1
    · rw [Server.spawn_with_router] at admitted
      exact admitted
    · intro run member
      obtain ⟨complete, within, declared⟩ := read
      rw [Server.spawn_with_router] at within declared
      exact ⟨⟨template, picked, request run member⟩, complete, within, declared⟩

theorem entries_bounded (template : Template) :
    ∀ entry ∈ (Server.spawn_with config registered stages admission).router.table.entries template,
      entry.route.chain.length ≤ stages.length + 1 := by
  intro entry member
  obtain ⟨route, -, -, -, chain⟩ := entries_chain member
  rw [chain, List.length_append, List.length_singleton]

variable {rustls : Rustls} {system : System} {files now : FileSystem} {listening : List SocketAddr}
  {is_method : Text → Bool} {servers : List ServerEntry} {routes middlewares startups : List HandlerHandle}
  {started : Started BoundListener} {last : State}

/-- A request under way is one that was received, and is where its own actions led
    it. -/
theorem passage_led {process : Server.Process} {events : List (Event rustls.Peer)}
    (ran : run (step rustls system process crates) (spawned now started startups) events = some last) {index : Nat}
    (found : last.passages[index]? = some passage) :
    ∃ received, last.server.received[index]? = some received ∧ passage.request = received.request ∧
      run (UnderWay.act process crates) (.new received.request) (own index events) = some passage ∧
      Stands process crates passage := by
  have tracked := run_tracked ran
  obtain ⟨inside, -⟩ := List.getElem?_eq_some_iff.mp found
  rw [tracked.paired] at inside
  have there := List.getElem?_eq_getElem inside
  have led := tracked.led found there
  obtain ⟨same, stands⟩ := run_stands led rfl
  exact ⟨_, there, same, led, stands⟩

/-- In any run of the whole server, any number of requests are under way at once,
    each led by its own actions alone. It came when all hooks had returned,
    through a listener of the configuration, in its own connection's session.
    Nothing was executed for it but a chain of stages that was to be, behind the
    guard, on all of it; and whatever it is answered with has its reason. -/
theorem every_passage_accounted (documented : rustls.Documented) {events : List (Event rustls.Peer)}
    (starts : Startup.spawn_with is_method (bind_listener rustls files system listening) servers routes middlewares =
      .ok started)
    (config : HttpConfig) (registered : List Routes.Registered)
    (read : registered.map as_read = started.routes) (admission : Option Server.Admission)
    (ran : run (step rustls system (Server.spawn_with config registered started.middlewares admission) crates)
      (spawned now started startups) events = some last)
    {index : Nat} (found : last.passages[index]? = some passage) :
    ∃ received, last.server.received[index]? = some received ∧
      run (UnderWay.act (Server.spawn_with config registered started.middlewares admission) crates)
        (.new received.request) (own index events) = some passage ∧
      last.server.called = startups ∧
      (∃ server ∈ servers, Server.ArrivesOn server.toServerConfig passage.request ∧
        Identifies rustls server received.tls ∧
        ∃ listener, Lifecycle.OfEntry rustls server listener ∧
          Lifecycle.ArrivesThrough rustls system (Lifecycle.spawned now started startups)
            (events.filterMap Event.of_server) listener received) ∧
      (passage.ran ≠ [] → ∃ route ∈ registered, as_read route ∈ started.routes ∧
        Executed config started.middlewares admission passage
          (Server.spawn_with config registered started.middlewares admission) route) ∧
      ∀ response, passage.answer crates = .returned response → ∃ inner, response = passage.leaves crates inner ∧
        Answers (Server.spawn_with config registered started.middlewares admission) crates passage inner := by
  obtain ⟨received, there, same, led, stands⟩ := passage_led ran found
  have member := List.mem_of_getElem? there
  refine ⟨received, there, led, ?_, ?_, ?_, fun response answered => stands_answers stands answered⟩
  · obtain ⟨request, -, -, connection, attached, connected, -⟩ :=
      (Lifecycle.run_traced rfl rfl (run_server ran)).came_through member
    exact (Lifecycle.hooks_end_first starts (run_server ran)).2 (Lifecycle.exposed_connected connected)
  · obtain ⟨server, inside, listener, entry, arrives⟩ := Lifecycle.run_arrives starts (run_server ran) member
    rw [same]
    exact ⟨server, inside, arrives.arrives_on entry, arrives.session.identifies documented entry, listener, entry,
      arrives⟩
  · intro executed
    obtain ⟨route, known, under⟩ := stands_executed stands executed
    refine ⟨route, known, ?_, under⟩
    rw [← read]
    exact List.mem_map_of_mem known

/-! The listener with a `client_ca` again, and a request that is under way when
its connection is closed. -/

def helloConfig : HttpConfig := ⟨[Lifecycle.guardedEntry.toServerConfig], []⟩

def closedUnderWay : List (Event LastGood.plain.Peer) :=
  Lifecycle.replacedWhileShaking.map .server ++
    [.passes 0 (.enters (.Admit fun _ => [])), .passes 0 .reads, .passes 0 (.flies (.begins (.ok ()))),
      .server (.closes 0), .passes 0 (.flies (.executed (.ok .none) false)), .passes 0 (.flies .polls)]

theorem closed_accounted :
    ∃ last passage, run (step LastGood.plain plainSystem (Server.spawn_with helloConfig Lifecycle.helloRoutes [] none)
        plainCrates) (spawned (LastGood.with_bundle 0 [7]) Lifecycle.greeting [hello [] none]) closedUnderWay = some last ∧
      last.passages[0]? = some passage ∧ last.server.called = [hello [] none] ∧
      (∃ route ∈ Lifecycle.helloRoutes, Executed helloConfig [] none passage
        (Server.spawn_with helloConfig Lifecycle.helloRoutes [] none) route) ∧
      ∃ response inner, passage.answer plainCrates = .returned response ∧ response = passage.leaves plainCrates inner ∧
        Answers (Server.spawn_with helloConfig Lifecycle.helloRoutes [] none) plainCrates passage inner := by
  obtain ⟨last, ran, passage, passages, executed, response, answered⟩ : ∃ last,
      run (step LastGood.plain plainSystem (Server.spawn_with helloConfig Lifecycle.helloRoutes [] none) plainCrates)
        (spawned (LastGood.with_bundle 0 [7]) Lifecycle.greeting [hello [] none]) closedUnderWay = some last ∧
      ∃ passage, last.passages = [passage] ∧ passage.ran.length = 1 ∧
        ∃ response, passage.answer plainCrates = .returned response := ⟨_, rfl, _, rfl, rfl, _, rfl⟩
  have found : last.passages[0]? = some passage := by rw [passages]; rfl
  obtain ⟨received, -, -, hooks, -, routed, answers⟩ :=
    every_passage_accounted LastGood.plain_documented Lifecycle.greeting_starts helloConfig Lifecycle.helloRoutes rfl none
      ran found
  obtain ⟨route, known, -, under⟩ := routed fun none => by rw [none] at executed; cases executed
  obtain ⟨inner, leaves, because⟩ := answers response answered
  exact ⟨last, passage, ran, found, hooks, ⟨route, known, under⟩, response, inner, answered, leaves, because⟩

/-- And each of them ends: it takes no more steps of its own than its body has
    frames, the script has middlewares, and eleven, and as long as it has no
    answer it goes on by itself, whatever the guard decides, with a pool or
    without. -/
theorem every_passage_ends (config : HttpConfig) (registered : List Routes.Registered)
    (admission : Option Server.Admission) {events : List (Event rustls.Peer)}
    (ran : run (step rustls system (Server.spawn_with config registered started.middlewares admission) crates)
      (spawned now started startups) events = some last)
    {index : Nat} (found : last.passages[index]? = some passage) :
    (own index events).length ≤ passage.request.body.frames.length + started.middlewares.length + 11 ∧
      (passage.answer crates = .waits → ∀ decision pool, passage.own_step decision pool ≠ .times_out ∧
        passage.own_step decision pool ≠ .flies .times_out ∧
        (step rustls system (Server.spawn_with config registered started.middlewares admission) crates last
          (.passes index (passage.own_step decision pool))).isSome) := by
  obtain ⟨received, -, same, led, stands⟩ := passage_led ran found
  refine ⟨?_, fun unanswered decision pool => ?_⟩
  · have bounded := run_length_le (UnderWay.rank (started.middlewares.length + 1))
      (fun acted => act_rank entries_bounded acted) led
    have rank : (UnderWay.new received.request).rank (started.middlewares.length + 1) =
        received.request.body.frames.length + (started.middlewares.length + 1) + 10 := rfl
    rw [same]
    omega
  · obtain ⟨waits, flies⟩ := own_step_not_timed passage decision pool
    refine ⟨waits, flies, ?_⟩
    obtain ⟨after, acted⟩ := Option.isSome_iff_exists.mp (goes_on stands unanswered decision pool)
    simp [step, found, acted]

/-- Half of its way, it can go on. -/
theorem closed_ends :
    ∃ last passage, run (step LastGood.plain plainSystem (Server.spawn_with helloConfig Lifecycle.helloRoutes [] none)
        plainCrates) (spawned (LastGood.with_bundle 0 [7]) Lifecycle.greeting [hello [] none]) (closedUnderWay.take 14) =
        some last ∧
      last.passages[0]? = some passage ∧
      (own 0 (closedUnderWay.take 14)).length ≤ passage.request.body.frames.length + 11 ∧
      (step LastGood.plain plainSystem (Server.spawn_with helloConfig Lifecycle.helloRoutes [] none) plainCrates last
        (.passes 0 (passage.own_step (.Admit fun _ => []) true))).isSome := by
  obtain ⟨last, ran, passage, passages, unanswered⟩ : ∃ last,
      run (step LastGood.plain plainSystem (Server.spawn_with helloConfig Lifecycle.helloRoutes [] none) plainCrates)
        (spawned (LastGood.with_bundle 0 [7]) Lifecycle.greeting [hello [] none]) (closedUnderWay.take 14) = some last ∧
      ∃ passage, last.passages = [passage] ∧ passage.answer plainCrates = .waits := ⟨_, rfl, _, rfl, rfl⟩
  have found : last.passages[0]? = some passage := by rw [passages]; rfl
  obtain ⟨bounded, goes⟩ := @every_passage_ends plainCrates passage LastGood.plain plainSystem
    (LastGood.with_bundle 0 [7]) [hello [] none] Lifecycle.greeting last helloConfig Lifecycle.helloRoutes none
    (closedUnderWay.take 14) ran 0 found
  exact ⟨last, passage, ran, found, bounded, (goes unanswered (.Admit fun _ => []) true).2.2⟩

/-- While everything else rests, a request that a connection receives can come to
    exactly what the functions of `Server` make of it in one go. -/
theorem served_in_traffic (process : Server.Process) (surroundings : Server.Surroundings) {state : State} {index : Nat}
    {connection : Lifecycle.Connection} {attached : Lifecycle.Attached}
    (found : state.server.connections[index]? = some connection) (serves : connection.phase = .serves)
    (there : connection.attached = some attached) (request : HttpRequest) :
    ∃ events server passage, run (step rustls system process surroundings.crates) state events =
        some ⟨server, state.passages ++ [passage]⟩ ∧
      server.received =
        state.server.received ++ [⟨index, connection.extend attached request, attached.tls⟩] ∧
      passage.ran = (process.serve surroundings (connection.extend attached request)).ran ∧
      passage.answer surroundings.crates =
        .returned (process.serve surroundings (connection.extend attached request)).response := by
  obtain ⟨actions, passage, led, executed, answered⟩ :=
    serve_crosses process surroundings (connection.extend attached request)
  have received : Lifecycle.step rustls system state.server (.receives index request) =
      some { state.server with
        received := state.server.received ++ [⟨index, connection.extend attached request, attached.tls⟩] } := by
    simp only [Lifecycle.step, found, serves, there]
  refine ⟨.server (.receives index request) :: actions.map (Event.passes state.passages.length),
    { state.server with
      received := state.server.received ++ [⟨index, connection.extend attached request, attached.tls⟩] }, passage,
    run_cons.mpr ⟨_, ?_, run_passes led⟩, rfl, executed, answered⟩
  simp [step, received]

/-- A second request on the connection is answered as in one go. -/
theorem second_in_traffic :
    ∃ state connection attached, run (step LastGood.plain plainSystem
        (Server.spawn_with helloConfig Lifecycle.helloRoutes [] none) plainCrates)
        (spawned (LastGood.with_bundle 0 [7]) Lifecycle.greeting [hello [] none])
        (Lifecycle.replacedWhileShaking.map .server) = some state ∧
      state.server.connections[0]? = some connection ∧ connection.attached = some attached ∧
      ∃ events server passage, run (step LastGood.plain plainSystem
          (Server.spawn_with helloConfig Lifecycle.helloRoutes [] none) plainCrates) state events =
          some ⟨server, state.passages ++ [passage]⟩ ∧
        passage.answer plainCrates = .returned ((Server.spawn_with helloConfig Lifecycle.helloRoutes [] none).serve
          Server.calm (connection.extend attached Lifecycle.getHello)).response := by
  obtain ⟨state, ran, connection, found, serves, attached, there⟩ : ∃ state,
      run (step LastGood.plain plainSystem (Server.spawn_with helloConfig Lifecycle.helloRoutes [] none) plainCrates)
        (spawned (LastGood.with_bundle 0 [7]) Lifecycle.greeting [hello [] none])
        (Lifecycle.replacedWhileShaking.map .server) = some state ∧
      ∃ connection, state.server.connections[0]? = some connection ∧ connection.phase = .serves ∧
        ∃ attached, connection.attached = some attached := ⟨_, rfl, _, rfl, rfl, _, rfl⟩
  obtain ⟨events, server, passage, led, -, -, answered⟩ :=
    @served_in_traffic LastGood.plain plainSystem (Server.spawn_with helloConfig Lifecycle.helloRoutes [] none)
      Server.calm state 0 connection attached found serves there Lifecycle.getHello
  exact ⟨state, connection, attached, ran, found, there, events, server, passage, led, answered⟩

end
end SiphonHttp.Traffic
