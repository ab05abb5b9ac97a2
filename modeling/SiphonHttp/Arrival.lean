import SiphonHttp.Boundary
import SiphonHttp.Lifecycle

/-!
What arrives at the router, and what is executed for it. The events of a run tell
who accepted a connection, and in what state, what its client shook hands with,
and what it sent; a request arrives with exactly that and nothing of any other
connection (`run_traced`). So a `client_ca` verifies every request, whatever is
reloaded meanwhile (`every_request_in_its_session`), and what is executed is a
route of its listener, on that request (`every_execution_routed`).
-/
namespace SiphonHttp.Lifecycle
open Text Config Net Sockets Startup Tls Listening Runs
open LastGood (WasBuilt)
open Parse (extract_path_params parse_query)

/-! ### What the events tell -/

section
variable {Peer : Type}

/-- The handshakes of one connection. -/
def handshakes (index : Nat) (events : List (Event Peer)) : List Peer :=
  events.filterMap fun
    | .shakes connection peer => if connection = index then some peer else none
    | _ => none

/-- The requests as their clients sent them, each over its connection. -/
def sent (events : List (Event Peer)) : List (Nat × HttpRequest) :=
  events.filterMap fun
    | .receives connection request => some (connection, request)
    | _ => none

theorem handshakes_concat (index : Nat) (events : List (Event Peer)) (event : Event Peer) :
    handshakes index (events ++ [event]) = handshakes index events ++ handshakes index [event] :=
  List.filterMap_append

theorem sent_concat (events : List (Event Peer)) (event : Event Peer) :
    sent (events ++ [event]) = sent events ++ sent [event] :=
  List.filterMap_append

theorem handshakes_own (index : Nat) (peer : Peer) : handshakes index [.shakes index peer] = [peer] := by
  simp [handshakes]

theorem handshakes_other {index other : Nat} (differ : index ≠ other) (peer : Peer) :
    handshakes other [.shakes index peer] = [] := by
  simp [handshakes, differ]

end

section
variable (rustls : Rustls) (system : System) (start : State)

/-- The connection of the index was accepted, and by this listener as it was at
    that moment. -/
def Accepted (events : List (Event rustls.Peer)) (index : Nat) (listener : Listener) (peer : SocketAddr)
    (local_addr : Option SocketAddr) : Prop :=
  ∃ before place after state, events = before ++ .accepts place peer local_addr :: after ∧
    run (step rustls system) start before = some state ∧ state.connections.length = index ∧
    state.listeners[place]? = some listener

/-- The session of a connection is that of its own handshake, under the
    configuration of the listener; one in clear text has none. -/
def OwnSession (shaken : List rustls.Peer) (listener : Listener) (tls : Option TlsSession) : Prop :=
  match listener.tls with
  | none => shaken = [] ∧ tls = none
  | some serving => ∃ peer session, shaken = [peer] ∧ rustls.handshake serving.config peer = some session ∧
    tls = some (TlsSession.from_connection serving.sha256 session)

/-- A connection as its own handshakes left it. -/
structure OwnConnection (shaken : List rustls.Peer) (listener : Listener) (connection : Connection) : Prop where
  identity : connection.listener = listener.identity
  shaking : ∀ config sha256, connection.phase = .shaking config sha256 → shaken = [] ∧ connection.attached = none ∧
    ∃ serving, listener.tls = some serving ∧ serving.config = config ∧ serving.sha256 = sha256
  attached : ∀ attached, connection.attached = some attached →
    attached.toConnectionInfo = ⟨listener.identity, connection.local_addr⟩ ∧
      OwnSession rustls shaken listener attached.tls

/-- A request came as it was sent, with what is attached to its connection. -/
def CameThrough (connections : List Connection) (sent : Nat × HttpRequest) (received : Received) : Prop :=
  received.connection = sent.1 ∧ ∃ connection attached, connections[sent.1]? = some connection ∧
    connection.attached = some attached ∧ received.request = connection.extend attached sent.2 ∧
    received.tls = attached.tls

/-- The state is traced back to the events that led to it. -/
structure Traced (events : List (Event rustls.Peer)) (state : State) : Prop where
  connections : ∀ {index connection}, state.connections[index]? = some connection → ∃ listener,
    Accepted rustls system start events index listener connection.peer connection.local_addr ∧
      OwnConnection rustls (handshakes index events) listener connection
  unaccepted : ∀ {index}, state.connections.length ≤ index → handshakes index events = []
  received : List.Forall₂ (CameThrough state.connections) (sent events) state.received

end

section
variable {rustls : Rustls} {system : System} {start state next : State} {events : List (Event rustls.Peer)}

theorem Accepted.concat {index : Nat} {listener : Listener} {peer : SocketAddr} {local_addr : Option SocketAddr}
    (accepted : Accepted rustls system start events index listener peer local_addr) (event : Event rustls.Peer) :
    Accepted rustls system start (events ++ [event]) index listener peer local_addr := by
  obtain ⟨before, place, after, state, rfl, ran, fresh, found⟩ := accepted
  exact ⟨before, place, after ++ [event], state, by rw [List.append_assoc]; rfl, ran, fresh, found⟩

/-! ### One connection -/

theorem accept_own {listener : Listener} (peer : SocketAddr) (local_addr : Option SocketAddr) :
    OwnConnection rustls [] listener (listener.accept peer local_addr) := by
  unfold Listener.accept
  cases serving : listener.tls with
  | none =>
    refine ⟨rfl, nofun, ?_⟩
    intro attached there
    cases there
    refine ⟨rfl, ?_⟩
    rw [OwnSession, serving]
    exact ⟨rfl, rfl⟩
  | some tls =>
    refine ⟨rfl, ?_, nofun⟩
    intro config sha256 shaking
    cases shaking
    exact ⟨rfl, rfl, tls, serving, rfl, rfl⟩

theorem OwnConnection.shake {shaken : List rustls.Peer} {listener : Listener} {connection : Connection}
    (own : OwnConnection rustls shaken listener connection) {config : RustlsServerConfig} {sha256 : Octets → Octets}
    (shaking : connection.phase = .shaking config sha256) (peer : rustls.Peer) :
    OwnConnection rustls (shaken ++ [peer]) listener (connection.shake sha256 (rustls.handshake config peer)) := by
  obtain ⟨none_shaken, unattached, serving, has_tls, rfl, rfl⟩ := own.shaking config sha256 shaking
  cases ended : rustls.handshake serving.config peer with
  | none =>
    refine ⟨own.identity, nofun, ?_⟩
    intro attached there
    have none_there : connection.attached = some attached := there
    rw [unattached] at none_there
    cases none_there
  | some session =>
    refine ⟨own.identity, nofun, ?_⟩
    intro attached there
    cases there
    refine ⟨by rw [own.identity]; rfl, ?_⟩
    rw [OwnSession, has_tls, none_shaken]
    exact ⟨peer, session, rfl, ended, rfl⟩

theorem OwnConnection.close {shaken : List rustls.Peer} {listener : Listener} {connection : Connection}
    (own : OwnConnection rustls shaken listener connection) :
    OwnConnection rustls shaken listener { connection with phase := .closed } :=
  ⟨own.identity, nofun, own.attached⟩

/-- What was attached to a connection stays attached to it. -/
theorem CameThrough.set {connections : List Connection} {sent : Nat × HttpRequest} {received : Received}
    (came : CameThrough connections sent received) {index : Nat} {before after : Connection}
    (found : connections[index]? = some before)
    (attached : ∀ attached, before.attached = some attached → after.attached = some attached)
    (peer : after.peer = before.peer) : CameThrough (connections.set index after) sent received := by
  obtain ⟨same, connection, there_attached, there, is_attached, request, tls⟩ := came
  by_cases here : index = sent.1
  · subst here
    rw [found] at there
    cases there
    obtain ⟨inside, -⟩ := List.getElem?_eq_some_iff.mp found
    refine ⟨same, after, there_attached, List.getElem?_set_self inside, attached _ is_attached, ?_, tls⟩
    rw [request, Connection.extend, Connection.extend, peer]
  · exact ⟨same, connection, there_attached, by rw [List.getElem?_set_ne here]; exact there, is_attached, request, tls⟩

theorem CameThrough.append {connections : List Connection} {sent : Nat × HttpRequest} {received : Received}
    (came : CameThrough connections sent received) (more : List Connection) :
    CameThrough (connections ++ more) sent received := by
  obtain ⟨same, connection, attached, there, rest⟩ := came
  obtain ⟨inside, -⟩ := List.getElem?_eq_some_iff.mp there
  exact ⟨same, connection, attached, by rw [List.getElem?_append_left inside]; exact there, rest⟩

/-! ### Every event -/

/-- An event beside the connections. -/
theorem Traced.quiet (traced : Traced rustls system start events state) {event : Event rustls.Peer}
    (shakes : ∀ index, handshakes index [event] = []) (sends : sent [event] = [])
    (connections : next.connections = state.connections) (received : next.received = state.received) :
    Traced rustls system start (events ++ [event]) next := by
  have same : ∀ index, handshakes index (events ++ [event]) = handshakes index events := fun index => by
    rw [handshakes_concat, shakes, List.append_nil]
  refine ⟨?_, ?_, ?_⟩
  · intro index connection there
    rw [connections] at there
    obtain ⟨listener, accepted, own⟩ := traced.connections there
    exact ⟨listener, accepted.concat event, by rw [same]; exact own⟩
  · intro index past
    rw [connections] at past
    rw [same]
    exact traced.unaccepted past
  · rw [sent_concat, sends, List.append_nil, connections, received]
    exact traced.received

theorem accepts_traced (traced : Traced rustls system start events state)
    (ran : run (step rustls system) start events = some state) {place : Nat} {peer : SocketAddr}
    {local_addr : Option SocketAddr}
    (stepped : step rustls system state (.accepts place peer local_addr) = some next) :
    Traced rustls system start (events ++ [.accepts place peer local_addr]) next := by
  obtain ⟨listener, found, -, rfl⟩ := accepts_cases stepped
  have same : ∀ index, handshakes index (events ++ [.accepts place peer local_addr]) = handshakes index events :=
    fun index => by rw [handshakes_concat]; exact List.append_nil _
  refine ⟨?_, ?_, ?_⟩
  · intro index connection there
    rw [same]
    by_cases earlier : index < state.connections.length
    · rw [List.getElem?_append_left earlier] at there
      obtain ⟨other, accepted, own⟩ := traced.connections there
      exact ⟨other, accepted.concat _, own⟩
    · have later := Nat.le_of_not_lt earlier
      rw [List.getElem?_append_right later] at there
      obtain ⟨inside, rfl⟩ := List.getElem?_eq_some_iff.mp there
      have here : state.connections.length = index := by
        rw [List.length_singleton] at inside
        omega
      rw [List.getElem_singleton, traced.unaccepted later]
      exact ⟨listener, ⟨events, place, [], state, rfl, ran, here, found⟩, accept_own peer local_addr⟩
  · intro index past
    rw [same]
    refine traced.unaccepted (Nat.le_trans ?_ past)
    rw [List.length_append]
    exact Nat.le_add_right ..
  · rw [sent_concat]
    refine (List.append_nil _).symm ▸ traced.received.imp fun _ _ came => came.append _

/-- A connection goes on, with what is attached to it. -/
theorem Traced.goes_on (traced : Traced rustls system start events state) {event : Event rustls.Peer} {index : Nat}
    {before after : Connection} (found : state.connections[index]? = some before)
    (others : ∀ other, index ≠ other → handshakes other [event] = []) (sends : sent [event] = [])
    (own : ∀ listener, OwnConnection rustls (handshakes index events) listener before →
      OwnConnection rustls (handshakes index (events ++ [event])) listener after)
    (attached : ∀ attached, before.attached = some attached → after.attached = some attached)
    (peer : after.peer = before.peer) (local_addr : after.local_addr = before.local_addr) :
    Traced rustls system start (events ++ [event])
      { state with connections := state.connections.set index after } := by
  obtain ⟨inside, -⟩ := List.getElem?_eq_some_iff.mp found
  have same : ∀ other, index ≠ other → handshakes other (events ++ [event]) = handshakes other events :=
    fun other differ => by rw [handshakes_concat, others other differ, List.append_nil]
  refine ⟨?_, ?_, ?_⟩
  · intro other connection there
    by_cases here : index = other
    · subst here
      rw [List.getElem?_set_self inside] at there
      cases there
      obtain ⟨listener, accepted, was_own⟩ := traced.connections found
      rw [peer, local_addr]
      exact ⟨listener, accepted.concat event, own listener was_own⟩
    · rw [List.getElem?_set_ne here] at there
      obtain ⟨listener, accepted, was_own⟩ := traced.connections there
      exact ⟨listener, accepted.concat event, by rw [same other here]; exact was_own⟩
  · intro other past
    rw [List.length_set] at past
    rw [same other (by omega)]
    exact traced.unaccepted past
  · rw [sent_concat, sends, List.append_nil]
    exact traced.received.imp fun _ _ came => came.set found attached peer

theorem shakes_traced (traced : Traced rustls system start events state) {index : Nat} {peer : rustls.Peer}
    (stepped : step rustls system state (.shakes index peer) = some next) :
    Traced rustls system start (events ++ [.shakes index peer]) next := by
  obtain ⟨connection, config, sha256, found, shaking, rfl⟩ := shakes_cases stepped
  refine traced.goes_on found (fun other differ => handshakes_other differ peer) rfl ?_ ?_ ?_ ?_
  · intro listener own
    rw [handshakes_concat, handshakes_own]
    exact own.shake shaking peer
  · intro attached there
    obtain ⟨listener, -, own⟩ := traced.connections found
    have unattached := (own.shaking config sha256 shaking).2.1
    rw [unattached] at there
    cases there
  · cases rustls.handshake config peer <;> rfl
  · cases rustls.handshake config peer <;> rfl

theorem closes_traced (traced : Traced rustls system start events state) {index : Nat}
    (stepped : step rustls system state (.closes index) = some next) :
    Traced rustls system start (events ++ [.closes index]) next := by
  obtain ⟨connection, found, rfl⟩ := closes_cases stepped
  refine traced.goes_on found (fun _ _ => rfl) rfl ?_ (fun _ there => there) rfl rfl
  intro listener own
  rw [handshakes_concat]
  exact (List.append_nil (handshakes index events)).symm ▸ own.close

theorem receives_traced (traced : Traced rustls system start events state) {index : Nat} {request : HttpRequest}
    (stepped : step rustls system state (.receives index request) = some next) :
    Traced rustls system start (events ++ [.receives index request]) next := by
  obtain ⟨connection, attached, found, -, there, rfl⟩ := receives_cases stepped
  have same : ∀ other, handshakes other (events ++ [.receives index request]) = handshakes other events :=
    fun other => by rw [handshakes_concat]; exact List.append_nil _
  refine ⟨?_, ?_, ?_⟩
  · intro other before found_other
    obtain ⟨listener, accepted, own⟩ := traced.connections found_other
    exact ⟨listener, accepted.concat _, by rw [same]; exact own⟩
  · intro other past
    rw [same]
    exact traced.unaccepted past
  · rw [sent_concat]
    refine List.rel_append traced.received (.cons ?_ .nil)
    exact ⟨rfl, connection, attached, found, there, rfl, rfl⟩

theorem step_traced (traced : Traced rustls system start events state)
    (ran : run (step rustls system) start events = some state) {event : Event rustls.Peer}
    (stepped : step rustls system state event = some next) :
    Traced rustls system start (events ++ [event]) next := by
  cases event with
  | calls =>
    obtain ⟨hook, startups, -, -, rfl⟩ := calls_cases stepped
    exact traced.quiet (fun _ => rfl) rfl rfl rfl
  | returns =>
    obtain ⟨hook, -, rfl⟩ := returns_cases stepped
    exact traced.quiet (fun _ => rfl) rfl rfl rfl
  | serves place error =>
    obtain ⟨listener, -, -, -, -, rfl⟩ := serves_cases stepped
    exact traced.quiet (fun _ => rfl) rfl rfl rfl
  | reloads place turn =>
    obtain ⟨listener, tls, after, -, -, -, -, rfl⟩ := reloads_cases stepped
    exact traced.quiet (fun _ => rfl) rfl rfl rfl
  | accepts place peer local_addr => exact accepts_traced traced ran stepped
  | shakes index peer => exact shakes_traced traced stepped
  | receives index request => exact receives_traced traced stepped
  | closes index => exact closes_traced traced stepped
  | replaces files =>
    cases stepped
    exact traced.quiet (fun _ => rfl) rfl rfl rfl

/-- From a state without connections on, every state is traced back to the events. -/
theorem run_traced (unconnected : start.connections = []) (nothing : start.received = []) {last : State}
    (ran : run (step rustls system) start events = some last) : Traced rustls system start events last := by
  refine run_history (Traced rustls system start) (fun before stepped traced => step_traced traced before stepped) ran ?_
  refine ⟨?_, fun _ => rfl, ?_⟩
  · intro index connection there
    rw [unconnected] at there
    cases there
  · rw [nothing]
    exact .nil

theorem Traced.came_through (traced : Traced rustls system start events state) {received : Received}
    (member : received ∈ state.received) :
    ∃ request, (received.connection, request) ∈ sent events ∧
      CameThrough state.connections (received.connection, request) received := by
  obtain ⟨index, inside, rfl⟩ := List.mem_iff_getElem.mp member
  have inside' : index < (sent events).length := traced.received.length_eq ▸ inside
  have came := traced.received.get inside' inside
  have there := List.getElem_mem inside'
  have same : state.received[index].connection = (sent events)[index].1 := came.1
  rw [same]
  exact ⟨(sent events)[index].2, there, came⟩

end

/-! ### Arrivals -/

/-- A request as its client sent it over its connection, with the two ends of the
    connection, and in the session of the connection's own handshake. -/
structure ArrivesThrough (rustls : Rustls) (system : System) (start : State) (events : List (Event rustls.Peer))
    (listener : Listener) (received : Received) : Prop where
  as_sent : ∃ peer local_addr request,
    Accepted rustls system start events received.connection listener peer local_addr ∧
      (received.connection, request) ∈ sent events ∧
      received.request = { request with peer := some peer, connection := some ⟨listener.identity, local_addr⟩ }
  session : OwnSession rustls (handshakes received.connection events) listener received.tls

/-- A chain of certificates that verified against roots of the listener's
    `client_ca`. -/
def VerifiedBy (rustls : Rustls) (settings : TlsConfig) (session : TlsSession) : Prop :=
  ∃ config roots chain, WasBuilt rustls settings config ∧ config.client_verifier = some roots ∧ roots ≠ [] ∧
    rustls.verifies roots chain ∧ session.peer_certificates.map PeerCertificateFacts.der = chain

/-- What a session on a listener of the entry says of the client. -/
structure Identifies (rustls : Rustls) (server : ServerEntry) (tls : Option TlsSession) : Prop where
  plain : server.tls = none → tls = none
  session : ∀ settings ∈ server.tls, ∃ session, tls = some session ∧
    session.peer_verified = settings.client_ca.isSome ∧
    (settings.client_ca ≠ none → VerifiedBy rustls settings session)

theorem from_connection_der (sha256 : Octets → Octets) (connection : ServerConnection) :
    (TlsSession.from_connection sha256 connection).peer_certificates.map PeerCertificateFacts.der =
      connection.peer_certificates.getD [] := by
  simp [TlsSession.from_connection, Function.comp_def]

section
variable {rustls : Rustls} {system : System} {files now : FileSystem} {listening : List SocketAddr}
  {is_method : Text → Bool} {servers : List ServerEntry} {routes middlewares startups : List HandlerHandle}
  {started : Started BoundListener} {events : List (Event rustls.Peer)} {last : State}

theorem OwnSession.identifies (documented : rustls.Documented) {server : ServerEntry} {listener : Listener}
    (entry : OfEntry rustls server listener) {shaken : List rustls.Peer} {tls : Option TlsSession}
    (own : OwnSession rustls shaken listener tls) : Identifies rustls server tls := by
  have settings := entry.tls
  cases serving : listener.tls with
  | none =>
    rw [serving] at settings
    rw [OwnSession, serving] at own
    obtain ⟨-, rfl⟩ := own
    refine ⟨fun _ => rfl, fun other member => ?_⟩
    rw [← settings] at member
    cases member
  | some serving_tls =>
    rw [serving] at settings
    rw [OwnSession, serving] at own
    obtain ⟨peer, connection, -, shakes, rfl⟩ := own
    have built := entry.built serving_tls serving
    refine ⟨fun plain => ?_, ?_⟩
    · rw [plain] at settings
      cases settings
    intro other member
    rw [← settings] at member
    cases member
    have verifies := built.verifies documented
    refine ⟨_, rfl, verifies.sessions peer connection serving_tls.sha256 shakes, fun demanded => ?_⟩
    obtain ⟨roots, verifier, some_root⟩ := verifies.verifier demanded
    obtain ⟨chain, presented, -, verified⟩ := verifies.chains peer connection roots shakes verifier
    refine ⟨serving_tls.config, roots, chain, built, verifier, some_root, verified, ?_⟩
    rw [from_connection_der, presented]
    rfl

/-- A listener of a run is that of its entry, also where it accepts. -/
theorem Accepted.of_entry
    (starts : Startup.spawn_with is_method (bind_listener rustls files system listening) servers routes middlewares =
      .ok started)
    {index : Nat} {listener : Listener} {peer : SocketAddr} {local_addr : Option SocketAddr}
    (accepted : Accepted rustls system (spawned now started startups) events index listener peer local_addr) :
    ∃ server ∈ servers, OfEntry rustls server listener := by
  obtain ⟨before, place, after, state, -, ran, -, found⟩ := accepted
  exact (run_sound starts ran).listeners listener (List.mem_of_getElem? found)

theorem run_arrives
    (starts : Startup.spawn_with is_method (bind_listener rustls files system listening) servers routes middlewares =
      .ok started)
    (ran : run (step rustls system) (spawned now started startups) events = some last) {received : Received}
    (member : received ∈ last.received) :
    ∃ server ∈ servers, ∃ listener, OfEntry rustls server listener ∧
      ArrivesThrough rustls system (spawned now started startups) events listener received := by
  have traced := run_traced rfl rfl ran
  obtain ⟨request, as_sent, -, connection, attached, found, there, same, tls⟩ := traced.came_through member
  obtain ⟨listener, accepted, own⟩ := traced.connections found
  obtain ⟨info, session⟩ := own.attached attached there
  obtain ⟨server, inside, entry⟩ := accepted.of_entry starts
  refine ⟨server, inside, listener, entry, ⟨connection.peer, connection.local_addr, request, accepted, as_sent, ?_⟩, ?_⟩
  · rw [same, Connection.extend, info]
  · rw [tls]
    exact session

theorem ArrivesThrough.arrives_on {server : ServerEntry} {listener : Listener} {start : State} {received : Received}
    (entry : OfEntry rustls server listener)
    (arrives : ArrivesThrough rustls system start events listener received) :
    Server.ArrivesOn server.toServerConfig received.request := by
  obtain ⟨peer, local_addr, request, -, -, same⟩ := arrives.as_sent
  exact ⟨local_addr, by rw [same, entry.identity]⟩

/-- In any run, every request comes when all hooks have returned, as its client
    sent it, through a listener of the configuration: over TLS in its own
    connection's session, with a client certificate that verified exactly where
    there is a `client_ca`, however the files were replaced and reloaded. And the
    requests of one connection come from one peer in one session. -/
theorem every_request_in_its_session (documented : rustls.Documented)
    (starts : Startup.spawn_with is_method (bind_listener rustls files system listening) servers routes middlewares =
      .ok started)
    (ran : run (step rustls system) (spawned now started startups) events = some last) {received : Received}
    (member : received ∈ last.received) :
    last.called = startups ∧
      (∃ server ∈ servers, Server.ArrivesOn server.toServerConfig received.request ∧
        Identifies rustls server received.tls ∧
        ∃ listener, OfEntry rustls server listener ∧
          ArrivesThrough rustls system (spawned now started startups) events listener received) ∧
      ∀ other ∈ last.received, other.connection = received.connection →
        other.request.connection = received.request.connection ∧ other.request.peer = received.request.peer ∧
          other.tls = received.tls := by
  have traced := run_traced rfl rfl ran
  obtain ⟨request, -, -, connection, attached, found, there, same, tls⟩ := traced.came_through member
  refine ⟨(hooks_end_first starts ran).2 (exposed_connected found), ?_, ?_⟩
  · obtain ⟨server, inside, listener, entry, arrives⟩ := run_arrives starts ran member
    exact ⟨server, inside, arrives.arrives_on entry, arrives.session.identifies documented entry, listener, entry, arrives⟩
  · intro other other_member one
    obtain ⟨request', -, -, connection', attached', found', there', same', tls'⟩ := traced.came_through other_member
    rw [one, found] at found'
    cases found'
    rw [there] at there'
    cases there'
    rw [same, same']
    exact ⟨rfl, rfl, tls'.trans tls.symm⟩

/-! ### What is executed -/

/-- What a script gets is the request that arrived, for the path that was picked,
    with all of its body. -/
structure Gets (config : HttpConfig) (template : Template) (request : HttpRequest) (received : PyRequest) : Prop where
  read : received =
    Request.request_from_parts (Server.all_trusted config) (Server.routed request template) request.body.octets
  method : received.method = request.method
  path : received.path = request.path
  path_params : received.path_params = extract_path_params template.text request.path
  query_params : received.query_params = parse_query (request.query.getD [])
  headers : received.headers = Request.headers_to_map request.headers
  body : received.body_bytes = request.body.octets ∧ request.body.Complete
  client : received.client = Request.client_addr (Server.all_trusted config) request.peer request.headers
  peer : received.peer = (request.peer.map SocketAddr.text).getD (lit "unknown:0")
  host : received.host = request.authority.orElse fun _ => received.headers.lookup (lit "host")
  connection : received.connection = request.connection

/-- Only the stages of a route that serves the request are executed. -/
theorem mem_dispatch {surroundings : Server.Surroundings} {trusted : List IpAddr} {entries : List Routes.RouteEntry}
    {parts : Parts} {body : Body} {run : Dispatch.Ran}
    (member : run ∈ (Server.dispatch surroundings trusted entries parts body).ran) :
    ∃ entry ∈ entries, entry.scope.serves_listener (parts.connection.map (·.listener.name)) = true ∧
      parts.method ∈ entry.scope.methods ∧ run.callable ∈ entry.route.chain.map Dispatch.Stage.callable := by
  rw [Server.dispatch_eq, Routes.outcome_of_eq] at member
  cases found : entries.find? fun entry =>
      entry.scope.serves_listener (parts.connection.map (·.listener.name)) &&
        decide (parts.method ∈ entry.scope.methods) with
  | none =>
    rw [found] at member
    split at member
    · rename_i impossible
      split_ifs at impossible
    · cases member
    · cases member
  | some entry =>
    rw [found] at member
    obtain ⟨serves, method⟩ := by simpa using List.find?_some found
    refine ⟨entry, List.mem_of_find?_eq_some found, serves, method, ?_⟩
    dsimp only at member
    split at member
    · cases member
    · rename_i collected _
      have guarded := Dispatch.answer_guarded surroundings.machinery surroundings.crates entry.route
        (Request.request_from_parts trusted parts collected)
      exact guarded.1.in_order.subset (List.mem_map_of_mem member)

/-- So at the router: behind its layers, under the path that it picks, and only on
    the request as it arrived. -/
theorem mem_serve {config : HttpConfig} {registered : List Routes.Registered} {stages : List Dispatch.Stage}
    {admission : Option Server.Admission} {surroundings : Server.Surroundings} {request : HttpRequest}
    {run : Dispatch.Ran}
    (member : run ∈ ((Server.spawn_with config registered stages admission).serve surroundings request).ran) :
    ∃ route ∈ registered, Template.pick (Routes.by_path registered stages).paths request.path = some route.1.path ∧
      request.method ∈ route.1.methods ∧
      route.1.scope.serves_listener (request.connection.map (·.listener.name)) = true ∧
      run.callable ∈ (stages ++ [route.2]).map Dispatch.Stage.callable ∧
      Gets config route.1.path request run.request := by
  obtain ⟨template, picked, cap, -, -, dispatched⟩ := Server.executed_under member
  obtain ⟨octets, collected, same⟩ := Server.mem_dispatch dispatched
  obtain ⟨whole, -, complete⟩ := Body.collect_limit_frames request.body.content_length collected
  obtain rfl : octets = request.body.octets := whole
  obtain ⟨entry, there, serves, method, executed⟩ := mem_dispatch dispatched
  rw [Routes.by_path_entries] at there
  obtain ⟨route, entered, rfl⟩ := List.mem_map.mp there
  obtain ⟨known, rfl, -⟩ : route ∈ registered ∧ route.1.path = template ∧ _ := by
    simpa [Routes.entered] using entered
  refine ⟨route, known, picked, method, serves, executed, ?_⟩
  rw [same]
  exact ⟨rfl, rfl, rfl, rfl, rfl, rfl, ⟨rfl, complete⟩, rfl, rfl, rfl, rfl⟩

/-- Every body that is ever executed for a request is one of the middlewares or the
    handler of a route that has the path and the method and that exists on the
    listener the request arrived on; and it gets that request, in its own session. -/
theorem every_execution_routed (documented : rustls.Documented)
    (starts : Startup.spawn_with is_method (bind_listener rustls files system listening) servers routes middlewares =
      .ok started)
    (ran : run (step rustls system) (spawned now started startups) events = some last) {received : Received}
    (member : received ∈ last.received) (config : HttpConfig) (registered : List Routes.Registered)
    (read : registered.map as_read = started.routes) (admission : Option Server.Admission)
    (surroundings : Server.Surroundings) :
    ∃ server ∈ servers, Server.ArrivesOn server.toServerConfig received.request ∧
      Identifies rustls server received.tls ∧
      (∃ listener, OfEntry rustls server listener ∧
        ArrivesThrough rustls system (spawned now started startups) events listener received) ∧
      ∀ run ∈ ((Server.spawn_with config registered started.middlewares admission).serve surroundings
          received.request).ran,
        ∃ route ∈ registered, as_read route ∈ started.routes ∧ route.1.path.matches received.request.path ∧
          Template.pick (Routes.by_path registered started.middlewares).paths received.request.path =
            some route.1.path ∧
          received.request.method ∈ route.1.methods ∧
          route.1.scope.serves_listener (some server.listener_name) = true ∧
          run.callable ∈ (started.middlewares ++ [route.2]).map Dispatch.Stage.callable ∧
          Gets config route.1.path received.request run.request := by
  obtain ⟨server, inside, listener, entry, arrives⟩ := run_arrives starts ran member
  have arrives_on := arrives.arrives_on entry
  refine ⟨server, inside, arrives_on, arrives.session.identifies documented entry, ⟨listener, entry, arrives⟩, ?_⟩
  intro run executed
  obtain ⟨local_addr, connection⟩ := arrives_on
  obtain ⟨route, known, picked, method, serves, stage, gets⟩ := mem_serve executed
  rw [connection] at serves
  refine ⟨route, known, ?_, (Template.pick_spec picked).2.1, picked, method, serves, stage, gets⟩
  rw [← read]
  exact List.mem_map_of_mem known

end

/-! A listener with a `client_ca`, whose files are replaced between the accept of
a connection and the end of its handshake. -/

def guardedEntry : ServerEntry :=
  ⟨⟨lit "192.0.2.1:8443", some (lit "internal"), some LastGood.mutualTls, 1 <<< 20, 30000, []⟩, none⟩

def guardedListener : BoundListener :=
  ⟨lit "192.0.2.1:8443", lit "internal", ⟨.v4 192 0 2 1, 8443, 0⟩,
    some (⟨some [[7]], [[1]], [1], [utf8 (lit "h2"), utf8 (lit "http/1.1")]⟩, fun _ => [], LastGood.mutualTls)⟩

def greeting : Startup.Started BoundListener :=
  ⟨[(⟨lit "/hello", [lit "GET"], some [lit "internal"]⟩, ⟨⟨1, false, false, fun _ => .ok .none⟩, false, rfl⟩)], [],
    [guardedListener]⟩

theorem greeting_starts :
    Startup.spawn_with token (bind_listener LastGood.plain (LastGood.with_bundle 0 [7]) plainSystem []) [guardedEntry]
      [hello [lit "GET"] (some [lit "internal"])] [] = .ok greeting := by
  have bound : bind_listener LastGood.plain (LastGood.with_bundle 0 [7]) plainSystem [] guardedEntry =
      .ok guardedListener :=
    bind_listener_ok.mpr ⟨_, _, by decide +kernel, rfl, rfl, nofun, nofun, rfl⟩
  have bound_all : bind_all (bind_listener LastGood.plain (LastGood.with_bundle 0 [7]) plainSystem []) [guardedEntry] =
      ([guardedListener], []) := by
    rw [bind_all, bound]
    rfl
  have read : read_routes token [hello [lit "GET"] (some [lit "internal"])] = greeting.routes := rfl
  exact spawn_with_ok.mpr ⟨read.symm, rfl, by decide +kernel, by rw [bound_all]; rfl, fun _ => by rw [bound_all]⟩

def pathHello : Template := ⟨[.literal [], .literal (lit "hello")], by decide, by decide, by decide, by decide⟩

def getHello : HttpRequest :=
  ⟨⟨lit "GET", lit "/hello", none, none, [], none, none, none⟩, ⟨none, []⟩⟩

def replacedWhileShaking : List (Event LastGood.plain.Peer) :=
  [.calls, .returns, .serves 0 none, .reloads 0 .starts, .accepts 0 ⟨.v4 198 51 100 7, 50000, 0⟩ none,
    .replaces (LastGood.with_bundle 1 []), .reloads 0 .looks, .reloads 0 .loads, .shakes 0 [[7]],
    .receives 0 getHello]

/-- Two clients, who connect in front of the reload and behind it, and shake hands
    the other way around. -/
def twoClients : List (Event LastGood.plain.Peer) :=
  [.calls, .returns, .serves 0 none, .reloads 0 .starts, .accepts 0 ⟨.v4 198 51 100 7, 50000, 0⟩ none,
    .replaces (LastGood.with_bundle 1 [8]), .reloads 0 .looks, .reloads 0 .loads,
    .accepts 0 ⟨.v4 198 51 100 8, 50000, 0⟩ none, .shakes 1 [[8], [9]], .shakes 0 [[7]], .receives 1 getHello,
    .receives 0 getHello]

theorem verified_while_replaced :
    ∃ last received, run (step LastGood.plain plainSystem)
        (spawned (LastGood.with_bundle 0 [7]) greeting [hello [] none]) twoClients = some last ∧
      last.received[0]? = some received ∧ received.connection = 1 ∧ last.called = [hello [] none] ∧
      ∃ config sha256 shaken session, LastGood.plain.handshake config [[8], [9]] = some shaken ∧
        session = TlsSession.from_connection sha256 shaken ∧ received.tls = some session ∧
        session.peer_verified = true ∧ VerifiedBy LastGood.plain LastGood.mutualTls session := by
  obtain ⟨last, ran, received, arrived, one⟩ : ∃ last, run (step LastGood.plain plainSystem)
      (spawned (LastGood.with_bundle 0 [7]) greeting [hello [] none]) twoClients = some last ∧
      ∃ received, last.received[0]? = some received ∧ received.connection = 1 := ⟨_, rfl, _, rfl, rfl⟩
  obtain ⟨hooks, ⟨server, inside, -, identifies, listener, entry, arrives⟩, -⟩ :=
    every_request_in_its_session LastGood.plain_documented greeting_starts ran (List.mem_of_getElem? arrived)
  obtain rfl := List.mem_singleton.mp inside
  obtain ⟨session, tls, verified, by_chain⟩ := identifies.session LastGood.mutualTls rfl
  have own := arrives.session
  rw [one, tls, OwnSession] at own
  split at own
  · cases own.2
  · rename_i serving _
    obtain ⟨peer, shaken, shook, shakes, same⟩ := own
    obtain rfl : [[8], [9]] = peer := (List.cons.inj shook).1
    exact ⟨last, received, ran, arrived, one, hooks, serving.config, serving.sha256, shaken, session, shakes,
      Option.some.inj same, tls, verified, by_chain nofun⟩

def helloRoutes : List Routes.Registered :=
  [(⟨pathHello, [lit "GET"], some [lit "internal"]⟩, ⟨⟨1, false, false, fun _ => .ok .none⟩, false, rfl⟩)]

theorem hello_executed_inside :
    ∃ last received, run (step LastGood.plain plainSystem)
        (spawned (LastGood.with_bundle 0 [7]) greeting [hello [] none]) replacedWhileShaking = some last ∧
      last.received[0]? = some received ∧
      ∃ run ∈ ((Server.spawn_with ⟨[guardedEntry.toServerConfig], []⟩ helloRoutes [] none).serve Server.calm
          received.request).ran,
        run.callable.id = 1 ∧ run.request.method = lit "GET" ∧ run.request.path = lit "/hello" ∧
          run.request.body_bytes = [] ∧ run.request.connection = received.request.connection := by
  obtain ⟨last, ran, received, arrived, as_sent, executed⟩ : ∃ last, run (step LastGood.plain plainSystem)
      (spawned (LastGood.with_bundle 0 [7]) greeting [hello [] none]) replacedWhileShaking = some last ∧
      ∃ received, last.received = [received] ∧
        (received.request.method, received.request.path, received.request.body) =
          (lit "GET", lit "/hello", ⟨none, []⟩) ∧
        ((Server.spawn_with ⟨[guardedEntry.toServerConfig], []⟩ helloRoutes [] none).serve Server.calm
          received.request).ran ≠ [] := ⟨_, rfl, _, rfl, rfl, by decide +kernel⟩
  obtain ⟨run, member⟩ := List.exists_mem_of_ne_nil _ executed
  refine ⟨last, received, ran, by rw [arrived]; rfl, run, member, ?_⟩
  obtain ⟨server, -, -, -, -, routed⟩ := every_execution_routed LastGood.plain_documented greeting_starts ran
    (arrived ▸ List.mem_singleton_self received) ⟨[guardedEntry.toServerConfig], []⟩ helloRoutes rfl none Server.calm
  obtain ⟨route, known, -, -, -, -, -, stage, gets⟩ := routed run member
  obtain rfl := List.mem_singleton.mp known
  obtain ⟨_, stages, same⟩ := List.mem_map.mp stage
  obtain rfl := List.mem_singleton.mp stages
  obtain ⟨method, path, body⟩ := by simpa using as_sent
  refine ⟨congrArg Dispatch.Callable.id same.symm, gets.method.trans method, gets.path.trans path, ?_, gets.connection⟩
  rw [gets.body.1, body]
  rfl

end SiphonHttp.Lifecycle
