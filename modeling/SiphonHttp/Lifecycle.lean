import SiphonHttp.Listening
import SiphonHttp.Server

/-!
The server from `spawn_with` on: the startup hooks, the listeners that are served
behind them, the reloads of their TLS files, and the connections that they
accept, in any order of their steps. Every listener stays the one of its
`servers[]` entry, under a configuration that some files gave (`run_sound`), and
none listens before the last hook returned (`hooks_end_first`).
-/
namespace SiphonHttp.Lifecycle
open Text Config Net Sockets Startup Tls Listening Runs
open LastGood (WasBuilt)

/-! ### The steps -/

/-- A connection as its requests see it: with its session, if it has one. -/
structure Attached extends ConnectionInfo where
  tls : Option TlsSession

/-- The TLS side of a listener: `RustlsConfig`, which new handshakes use, and the
    task that reloads it. -/
structure ServingTls where
  config : RustlsServerConfig
  sha256 : Octets → Octets
  settings : TlsConfig
  task : ListenerReload.Task

inductive Serving
  | bound
  | failed
  | listens
  deriving DecidableEq

structure Listener where
  name : Text
  socket : SocketAddr
  serving : Serving
  tls : Option ServingTls

def Listener.identity (listener : Listener) : ListenerIdentity := ⟨listener.name, listener.tls.isSome⟩

def Listener.bound (bound : BoundListener) : Listener where
  name := bound.name
  socket := bound.socket
  serving := .bound
  tls := bound.tls.map fun tls => ⟨tls.1, tls.2.1, tls.2.2, .not_spawned⟩

inductive Phase
  /-- In the handshake, under the configuration that it was begun with. -/
  | shaking (config : RustlsServerConfig) (sha256 : Octets → Octets)
  | serves
  | closed

/-- A connection that was accepted, and what is attached to its requests. -/
structure Connection where
  listener : ListenerIdentity
  peer : SocketAddr
  local_addr : Option SocketAddr
  phase : Phase
  attached : Option Attached

/-- A request as the router gets it, from the connection of the index. -/
structure Received where
  connection : Nat
  request : HttpRequest
  tls : Option TlsSession

structure State where
  files : FileSystem
  /-- The hooks that returned, the one that is called, and those that are to be. -/
  called : List HandlerHandle
  calling : Option HandlerHandle
  startups : List HandlerHandle
  listeners : List Listener
  connections : List Connection
  received : List Received

/-- What the task that reloads the files of a listener does. -/
inductive Turn
  | starts
  | looks
  | loads

def Turn.event : Turn → ListenerReload.Event
  | .starts => .serve
  | .looks => .tick
  | .loads => .load

inductive Event (Peer : Type)
  | calls
  /-- A hook returns or raises, which is the same. -/
  | returns
  /-- The task of a listener starts it; the system may refuse for reasons of its
      own. -/
  | serves (listener : Nat) (error : Option IoError)
  | reloads (listener : Nat) (turn : Turn)
  | accepts (listener : Nat) (peer : SocketAddr) (local_addr : Option SocketAddr)
  | shakes (connection : Nat) (peer : Peer)
  | receives (connection : Nat) (request : HttpRequest)
  | closes (connection : Nat)
  | replaces (files : FileSystem)

section
variable (rustls : Rustls) (system : System)

/-- `spawn_with` spawned its task. -/
def spawned (files : FileSystem) (started : Started BoundListener) (startups : List HandlerHandle) : State where
  files := files
  called := []
  calling := none
  startups := startups
  listeners := started.bound.map .bound
  connections := []
  received := []

/-- The addresses on which the listeners listen. -/
def State.listening (state : State) : List SocketAddr :=
  (state.listeners.filter (·.serving = .listens)).map (·.socket)

/-- `BoundListener::serve`, up to where it accepts. -/
def Listener.serve (listener : Listener) (listening : List SocketAddr) : Option IoError → Listener
  | none => { listener with serving := if Free system.overlaps listening listener.socket then .listens else .failed }
  | some _ => { listener with serving := .failed }

/-- The task is spawned where `reload_seconds` asks for it. -/
def ServingTls.reload (tls : ServingTls) (files : FileSystem) (turn : Turn) : Option ServingTls :=
  if tls.settings.reload_seconds.any (0 < ·) then
    (ListenerReload.step (server_config rustls) tls.settings ⟨files, tls.config, tls.task⟩ turn.event).map fun state =>
      { tls with config := state.config, task := state.task }
  else none

/-- `accept`: a cleartext connection serves at once. -/
def Listener.accept (listener : Listener) (peer : SocketAddr) (local_addr : Option SocketAddr) : Connection where
  listener := listener.identity
  peer := peer
  local_addr := local_addr
  phase :=
    match listener.tls with
    | some tls => .shaking tls.config tls.sha256
    | none => .serves
  attached :=
    match listener.tls with
    | some _ => none
    | none => some ⟨⟨listener.identity, local_addr⟩, none⟩

/-- The handshake ends. -/
def Connection.shake (connection : Connection) (sha256 : Octets → Octets) : Option ServerConnection → Connection
  | some session =>
    { connection with
      phase := .serves
      attached := some ⟨⟨connection.listener, connection.local_addr⟩,
        some (TlsSession.from_connection sha256 session)⟩ }
  | none => { connection with phase := .closed }

/-- The extensions that the router finds on a request. -/
def Connection.extend (connection : Connection) (attached : Attached) (request : HttpRequest) : HttpRequest :=
  { request with
    peer := some connection.peer
    connection := some attached.toConnectionInfo }

def step (state : State) : Event rustls.Peer → Option State
  | .calls =>
    match state.calling, state.startups with
    | none, hook :: startups => some { state with calling := some hook, startups := startups }
    | _, _ => none
  | .returns =>
    state.calling.map fun hook => { state with called := state.called ++ [hook], calling := none }
  | .serves index error =>
    match state.calling, state.startups, state.listeners[index]? with
    | none, [], some listener =>
      if listener.serving = .bound then
        some { state with listeners := state.listeners.set index (listener.serve system state.listening error) }
      else none
    | _, _, _ => none
  | .reloads index turn =>
    match state.listeners[index]? with
    | some listener =>
      if listener.serving = .listens then
        (listener.tls.bind fun tls => tls.reload rustls state.files turn).map fun tls =>
          { state with listeners := state.listeners.set index { listener with tls := some tls } }
      else none
    | none => none
  | .accepts index peer local_addr =>
    match state.listeners[index]? with
    | some listener =>
      if listener.serving = .listens then
        some { state with connections := state.connections ++ [listener.accept peer local_addr] }
      else none
    | none => none
  | .shakes index peer =>
    match state.connections[index]? with
    | some connection =>
      match connection.phase with
      | .shaking config sha256 =>
        some { state with
          connections := state.connections.set index (connection.shake sha256 (rustls.handshake config peer)) }
      | _ => none
    | none => none
  | .receives index request =>
    match state.connections[index]? with
    | some connection =>
      match connection.phase, connection.attached with
      | .serves, some attached =>
        some { state with
          received := state.received ++ [⟨index, connection.extend attached request, attached.tls⟩] }
      | _, _ => none
    | none => none
  | .closes index =>
    state.connections[index]?.map fun connection =>
      { state with connections := state.connections.set index { connection with phase := .closed } }
  | .replaces files => some { state with files := files }

end
/-! What each of them does, and when. -/

section
variable {rustls : Rustls} {system : System} {state next : State}

theorem calls_cases (stepped : step rustls system state .calls = some next) :
    ∃ hook startups, state.calling = none ∧ state.startups = hook :: startups ∧
      next = { state with calling := some hook, startups := startups } := by
  simp only [step] at stepped
  split at stepped
  · rename_i hook startups idle waiting
    cases stepped
    exact ⟨hook, startups, idle, waiting, rfl⟩
  · cases stepped

theorem returns_cases (stepped : step rustls system state .returns = some next) :
    ∃ hook, state.calling = some hook ∧ next = { state with called := state.called ++ [hook], calling := none } := by
  obtain ⟨hook, calling, rfl⟩ := Option.map_eq_some_iff.mp stepped
  exact ⟨hook, calling, rfl⟩

theorem serves_cases {index : Nat} {error : Option IoError}
    (stepped : step rustls system state (.serves index error) = some next) :
    ∃ listener, state.calling = none ∧ state.startups = [] ∧ state.listeners[index]? = some listener ∧
      listener.serving = .bound ∧
      next = { state with listeners := state.listeners.set index (listener.serve system state.listening error) } := by
  simp only [step] at stepped
  split at stepped
  · rename_i listener idle none_left found
    split_ifs at stepped with bound
    cases stepped
    exact ⟨listener, idle, none_left, found, bound, rfl⟩
  · cases stepped

theorem reloads_cases {index : Nat} {turn : Turn}
    (stepped : step rustls system state (.reloads index turn) = some next) :
    ∃ listener tls after, state.listeners[index]? = some listener ∧ listener.serving = .listens ∧
      listener.tls = some tls ∧ tls.reload rustls state.files turn = some after ∧
      next = { state with listeners := state.listeners.set index { listener with tls := some after } } := by
  simp only [step] at stepped
  split at stepped
  · rename_i listener found
    split_ifs at stepped with listens
    obtain ⟨after, reloaded, rfl⟩ := Option.map_eq_some_iff.mp stepped
    obtain ⟨tls, serving, turned⟩ := Option.bind_eq_some_iff.mp reloaded
    exact ⟨listener, tls, after, found, listens, serving, turned, rfl⟩
  · cases stepped

theorem accepts_cases {index : Nat} {peer : SocketAddr} {local_addr : Option SocketAddr}
    (stepped : step rustls system state (.accepts index peer local_addr) = some next) :
    ∃ listener, state.listeners[index]? = some listener ∧ listener.serving = .listens ∧
      next = { state with connections := state.connections ++ [listener.accept peer local_addr] } := by
  simp only [step] at stepped
  split at stepped
  · rename_i listener found
    split_ifs at stepped with listens
    cases stepped
    exact ⟨listener, found, listens, rfl⟩
  · cases stepped

theorem shakes_cases {index : Nat} {peer : rustls.Peer}
    (stepped : step rustls system state (.shakes index peer) = some next) :
    ∃ connection config sha256, state.connections[index]? = some connection ∧
      connection.phase = .shaking config sha256 ∧
      next = { state with
        connections := state.connections.set index (connection.shake sha256 (rustls.handshake config peer)) } := by
  simp only [step] at stepped
  split at stepped
  · rename_i connection found
    split at stepped
    · rename_i config sha256 shaking
      cases stepped
      exact ⟨connection, config, sha256, found, shaking, rfl⟩
    · cases stepped
  · cases stepped

theorem receives_cases {index : Nat} {request : HttpRequest}
    (stepped : step rustls system state (.receives index request) = some next) :
    ∃ connection attached, state.connections[index]? = some connection ∧ connection.phase = .serves ∧
      connection.attached = some attached ∧
      next = { state with
        received := state.received ++ [⟨index, connection.extend attached request, attached.tls⟩] } := by
  simp only [step] at stepped
  split at stepped
  · rename_i connection found
    split at stepped
    · rename_i attached serves there
      cases stepped
      exact ⟨connection, attached, found, serves, there, rfl⟩
    · cases stepped
  · cases stepped

theorem closes_cases {index : Nat} (stepped : step rustls system state (.closes index) = some next) :
    ∃ connection, state.connections[index]? = some connection ∧
      next = { state with connections := state.connections.set index { connection with phase := .closed } } := by
  obtain ⟨connection, found, rfl⟩ := Option.map_eq_some_iff.mp stepped
  exact ⟨connection, found, rfl⟩

end

/-! ### What holds in every state -/

/-- The listener of a `servers[]` entry. Its configuration is one that some files
    gave, and it hashes as the crypto provider does. -/
structure OfEntry (rustls : Rustls) (server : ServerEntry) (listener : Listener) : Prop where
  name : listener.name = server.listener_name
  socket : server.socket_addr = .ok listener.socket
  tls : listener.tls.map ServingTls.settings = server.tls
  built : ∀ tls ∈ listener.tls, WasBuilt rustls tls.settings tls.config
  hash : ∀ tls ∈ listener.tls, rustls.sha256 = some tls.sha256

/-- Some listener was started, or some connection was accepted. -/
def Exposed (state : State) : Prop :=
  (∃ listener ∈ state.listeners, listener.serving ≠ .bound) ∨ state.connections ≠ []

structure Sound (rustls : Rustls) (servers : List ServerEntry) (startups : List HandlerHandle) (state : State) :
    Prop where
  hooks : state.called ++ state.calling.toList ++ state.startups = startups
  first : Exposed state → state.calling = none ∧ state.startups = []
  listeners : ∀ listener ∈ state.listeners, ∃ server ∈ servers, OfEntry rustls server listener

section
variable {rustls : Rustls} {system : System} {servers : List ServerEntry} {startups : List HandlerHandle}
  {server : ServerEntry}

theorem OfEntry.identity {listener : Listener} (entry : OfEntry rustls server listener) :
    listener.identity = ⟨server.listener_name, server.tls.isSome⟩ := by
  rw [Listener.identity, entry.name, ← entry.tls, Option.isSome_map]

theorem serve_entry {listener : Listener} (entry : OfEntry rustls server listener) (listening : List SocketAddr)
    (error : Option IoError) : OfEntry rustls server (listener.serve system listening error) := by
  cases error <;> exact ⟨entry.name, entry.socket, entry.tls, entry.built, entry.hash⟩

/-- A turn of the task leaves the configuration as it is, or puts another one in
    force that files gave. -/
theorem reload_built {tls after : ServingTls} {files : FileSystem} {turn : Turn}
    (built : WasBuilt rustls tls.settings tls.config) (reloaded : tls.reload rustls files turn = some after) :
    after.settings = tls.settings ∧ after.sha256 = tls.sha256 ∧ WasBuilt rustls after.settings after.config := by
  unfold ServingTls.reload at reloaded
  split at reloaded
  · obtain ⟨state, stepped, rfl⟩ := Option.map_eq_some_iff.mp reloaded
    refine ⟨rfl, rfl, ?_⟩
    cases turn with
    | starts =>
      simp only [Turn.event, ListenerReload.step] at stepped
      split_ifs at stepped
      cases stepped
      exact built
    | looks =>
      obtain ⟨seen, -, ⟨-, rfl⟩ | ⟨-, rfl⟩⟩ := ListenerReload.tick_cases stepped
      · exact built
      · exact built
    | loads =>
      obtain ⟨seen, -, ⟨loaded, -⟩ | ⟨-, rfl⟩⟩ := ListenerReload.load_cases stepped
      · exact ⟨files, loaded⟩
      · exact built
  · cases reloaded

theorem reload_entry {listener : Listener} (entry : OfEntry rustls server listener) {tls after : ServingTls}
    (serving : listener.tls = some tls) {files : FileSystem} {turn : Turn}
    (reloaded : tls.reload rustls files turn = some after) :
    OfEntry rustls server { listener with tls := some after } := by
  obtain ⟨same, hash, built⟩ := reload_built (entry.built tls serving) reloaded
  refine ⟨entry.name, entry.socket, ?_, ?_, ?_⟩
  · rw [← entry.tls, serving]
    exact congrArg some same
  · intro other member
    cases member
    exact built
  · intro other member
    cases member
    rw [hash]
    exact entry.hash tls serving

theorem forall_mem_set {Element : Type} {Holds : Element → Prop} {elements : List Element}
    (all : ∀ element ∈ elements, Holds element) {after : Element} (holds : Holds after) (index : Nat) :
    ∀ element ∈ elements.set index after, Holds element := by
  intro element member
  rcases List.mem_or_eq_of_mem_set member with other | rfl
  · exact all element other
  · exact holds

/-! What each step preserves. -/

variable {state next : State}

theorem exposed_listening {listener : Listener} {index : Nat} (found : state.listeners[index]? = some listener)
    (listens : listener.serving = .listens) : Exposed state :=
  Or.inl ⟨listener, List.mem_of_getElem? found, by rw [listens]; decide⟩

theorem exposed_connected {connection : Connection} {index : Nat}
    (found : state.connections[index]? = some connection) : Exposed state :=
  Or.inr (List.ne_nil_of_mem (List.mem_of_getElem? found))

theorem calls_sound (sound : Sound rustls servers startups state)
    (stepped : step rustls system state .calls = some next) : Sound rustls servers startups next := by
  obtain ⟨hook, rest, idle, waiting, rfl⟩ := calls_cases stepped
  have hooks := sound.hooks
  rw [idle, waiting] at hooks
  refine ⟨?_, ?_, sound.listeners⟩
  · rw [← hooks]
    simp
  · intro exposed
    have none_left := (sound.first exposed).2
    rw [waiting] at none_left
    cases none_left

theorem returns_sound (sound : Sound rustls servers startups state)
    (stepped : step rustls system state .returns = some next) : Sound rustls servers startups next := by
  obtain ⟨hook, calling, rfl⟩ := returns_cases stepped
  have hooks := sound.hooks
  rw [calling] at hooks
  refine ⟨?_, ?_, sound.listeners⟩
  · rw [← hooks]
    simp
  · intro exposed
    have idle := (sound.first exposed).1
    rw [calling] at idle
    cases idle

theorem serves_sound (sound : Sound rustls servers startups state) {index : Nat} {error : Option IoError}
    (stepped : step rustls system state (.serves index error) = some next) : Sound rustls servers startups next := by
  obtain ⟨listener, idle, none_left, found, -, rfl⟩ := serves_cases stepped
  obtain ⟨server, member, entry⟩ := sound.listeners listener (List.mem_of_getElem? found)
  exact ⟨sound.hooks, fun _ => ⟨idle, none_left⟩,
    forall_mem_set sound.listeners ⟨server, member, serve_entry entry _ _⟩ index⟩

theorem reloads_sound (sound : Sound rustls servers startups state) {index : Nat} {turn : Turn}
    (stepped : step rustls system state (.reloads index turn) = some next) : Sound rustls servers startups next := by
  obtain ⟨listener, tls, after, found, listens, serving, turned, rfl⟩ := reloads_cases stepped
  obtain ⟨server, member, entry⟩ := sound.listeners listener (List.mem_of_getElem? found)
  exact ⟨sound.hooks, fun _ => sound.first (exposed_listening found listens),
    forall_mem_set sound.listeners ⟨server, member, reload_entry entry serving turned⟩ index⟩

theorem step_sound (sound : Sound rustls servers startups state) {event : Event rustls.Peer}
    (stepped : step rustls system state event = some next) : Sound rustls servers startups next := by
  cases event with
  | calls => exact calls_sound sound stepped
  | returns => exact returns_sound sound stepped
  | serves index error => exact serves_sound sound stepped
  | reloads index turn => exact reloads_sound sound stepped
  | accepts index peer local_addr =>
    obtain ⟨listener, found, listens, rfl⟩ := accepts_cases stepped
    exact ⟨sound.hooks, fun _ => sound.first (exposed_listening found listens), sound.listeners⟩
  | shakes index peer =>
    obtain ⟨connection, config, sha256, found, -, rfl⟩ := shakes_cases stepped
    exact ⟨sound.hooks, fun _ => sound.first (exposed_connected found), sound.listeners⟩
  | receives index request =>
    obtain ⟨connection, attached, -, -, -, rfl⟩ := receives_cases stepped
    exact ⟨sound.hooks, sound.first, sound.listeners⟩
  | closes index =>
    obtain ⟨connection, found, rfl⟩ := closes_cases stepped
    exact ⟨sound.hooks, fun _ => sound.first (exposed_connected found), sound.listeners⟩
  | replaces files =>
    cases stepped
    exact ⟨sound.hooks, sound.first, sound.listeners⟩

end

/-! ### From `spawn_with` on -/

section
variable {rustls : Rustls} {system : System} {files now : FileSystem} {listening : List SocketAddr}
  {is_method : Text → Bool} {servers : List ServerEntry} {routes middlewares startups : List HandlerHandle}
  {started : Started BoundListener}

theorem mem_bind_all {Error Bound : Type} {bind_listener : ServerEntry → Except Error Bound} {listener : Bound}
    (member : listener ∈ (bind_all bind_listener servers).1) :
    ∃ server ∈ servers, bind_listener server = .ok listener := by
  induction servers with
  | nil => cases member
  | cons server servers ih =>
    rw [bind_all] at member
    cases bound : bind_listener server with
    | ok first =>
      rw [bound] at member
      rcases List.mem_cons.mp member with rfl | later
      · exact ⟨server, List.mem_cons_self .., bound⟩
      · obtain ⟨other, there, same⟩ := ih later
        exact ⟨other, List.mem_cons_of_mem server there, same⟩
    | error error =>
      rw [bound] at member
      obtain ⟨other, there, same⟩ := ih member
      exact ⟨other, List.mem_cons_of_mem server there, same⟩

theorem built_hash {settings : TlsConfig} {config : RustlsServerConfig} {sha256 : Octets → Octets}
    (built : build_server_config rustls settings files = .ok (config, sha256)) : rustls.sha256 = some sha256 := by
  obtain ⟨certs, -, built⟩ := bind_ok.mp built
  obtain ⟨key, -, built⟩ := bind_ok.mp built
  obtain ⟨hash, provided, built⟩ := bind_ok.mp built
  obtain ⟨versions, -, built⟩ := bind_ok.mp built
  obtain ⟨verifier, -, built⟩ := bind_ok.mp built
  obtain ⟨single, -, built⟩ := bind_ok.mp built
  cases built
  unfold from_provider at provided
  cases some_hash : rustls.sha256 with
  | none =>
    rw [some_hash] at provided
    cases provided
  | some hash =>
    rw [some_hash] at provided
    cases provided
    rfl

theorem bound_entry {server : ServerEntry} {listener : BoundListener}
    (bound : bind_listener rustls files system listening server = .ok listener) :
    OfEntry rustls server (.bound listener) := by
  obtain ⟨addr, tls, parsed, loaded, -, -, -, rfl⟩ := bind_listener_ok.mp bound
  unfold load_tls at loaded
  cases settings : server.tls with
  | none =>
    rw [settings] at loaded
    cases loaded
    exact ⟨rfl, parsed, settings.symm, nofun, nofun⟩
  | some tls_settings =>
    rw [settings] at loaded
    dsimp only at loaded
    cases built : build_server_config rustls tls_settings files with
    | error error =>
      rw [built] at loaded
      cases loaded
    | ok config =>
      rw [built] at loaded
      cases loaded
      refine ⟨rfl, parsed, settings.symm, ?_, ?_⟩
      · intro tls member
        cases member
        refine ⟨files, ?_⟩
        show (build_server_config rustls tls_settings files).toOption.map Prod.fst = some config.1
        rw [built]
        rfl
      · intro tls member
        cases member
        exact built_hash built

theorem spawned_sound
    (starts : Startup.spawn_with is_method (bind_listener rustls files system listening) servers routes middlewares =
      .ok started) :
    Sound rustls servers startups (spawned now started startups) := by
  obtain ⟨-, -, -, bound, -⟩ := spawn_with_ok.mp starts
  refine ⟨rfl, ?_, ?_⟩
  · rintro (⟨listener, member, serving⟩ | connected)
    · obtain ⟨other, -, rfl⟩ := List.mem_map.mp member
      exact absurd rfl serving
    · exact absurd rfl connected
  · intro listener member
    obtain ⟨other, there, rfl⟩ := List.mem_map.mp member
    rw [bound] at there
    obtain ⟨server, inside, binds⟩ := mem_bind_all there
    exact ⟨server, inside, bound_entry binds⟩

theorem run_sound {events : List (Event rustls.Peer)} {last : State}
    (starts : Startup.spawn_with is_method (bind_listener rustls files system listening) servers routes middlewares =
      .ok started)
    (ran : run (step rustls system) (spawned now started startups) events = some last) :
    Sound rustls servers startups last :=
  run_preserves (Sound rustls servers startups) (fun stepped sound => step_sound sound stepped) ran
    (spawned_sound starts)

/-- The hooks are called one after the other, and when a listener is started the
    last of them has returned. -/
theorem hooks_end_first {events : List (Event rustls.Peer)} {last : State}
    (starts : Startup.spawn_with is_method (bind_listener rustls files system listening) servers routes middlewares =
      .ok started)
    (ran : run (step rustls system) (spawned now started startups) events = some last) :
    last.called ++ last.calling.toList ++ last.startups = startups ∧ (Exposed last → last.called = startups) := by
  have sound := run_sound starts ran
  refine ⟨sound.hooks, fun exposed => ?_⟩
  obtain ⟨idle, none_left⟩ := sound.first exposed
  have hooks := sound.hooks
  rwa [idle, none_left, Option.toList_none, List.append_nil, List.append_nil] at hooks

end
end SiphonHttp.Lifecycle
